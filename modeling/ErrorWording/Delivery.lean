import ErrorWording.Fault
import ErrorWording.Text.Utf8

set_option autoImplicit false

namespace ErrorWording

/-- What a source hands over when it is asked for more. A pause is an answer without bytes,
after which more may come. -/
inductive Delivery where
  | bytes (b : Bytes)
  | failure (f : Fault)
  | pause
deriving DecidableEq, Repr

end ErrorWording
