import ErrorWording.Store.Basic
import ErrorWording.Wording

set_option autoImplicit false

namespace ErrorWording

structure Arguments where
  files : List Path
  wording : String
  summaryFile : Option Path
  logLevel : String
deriving DecidableEq, Repr

end ErrorWording
