import ErrorWording.Pattern.Grammar
import ErrorWording.Pattern.Meaning
import ErrorWording.Pattern.Search
import ErrorWording.Pattern.Size

set_option autoImplicit false

namespace ErrorWording.Pattern

inductive Fault where
  | flaw (f : Flaw)
  | tooLarge
deriving DecidableEq, Repr

def Fault.render (written : List Char) : Fault → String
  | .flaw f => f.render written
  | .tooLarge => "Compiled regex exceeds size limit of " ++ toString Size.limit ++ " bytes."

def parse (written : List Char) : Except Fault (Pattern Step) :=
  match Tree.ofWritten written with
  | .error f => .error (.flaw f)
  | .ok tree =>
      match tree.meaning .standard with
      | .error f => .error (.flaw f)
      | .ok (p, _) => if p.isTooLarge then .error .tooLarge else .ok p

end ErrorWording.Pattern
