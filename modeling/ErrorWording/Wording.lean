import ErrorWording.Call

set_option autoImplicit false

namespace ErrorWording

structure Wording where
  required : String
deriving DecidableEq, Repr

/-- A literal that does not start with the required wording. Columns count characters from one, and
both ends belong to the literal. -/
structure Violation where
  line : Nat
  column : Nat
  endColumn : Nat
  text : String
deriving DecidableEq, Repr

namespace Wording

def standard : Wording := ⟨"failed to"⟩

def accepts (w : Wording) (literal : List Char) : Bool :=
  w.required.toList.isPrefixOf literal

def violationOf (number : Nat) (call : Call) : Violation where
  line := number
  column := call.before + 1
  endColumn := call.before + call.literal.length
  text := String.ofList call.literal

def check (w : Wording) (number : Nat) (line : List Char) : Option Violation :=
  match Call.find? line with
  | none => none
  -- The calls behind the first are not looked at, even when it is accepted.
  | some call => if w.accepts call.literal then none else some (violationOf number call)

def complaint (w : Wording) (v : Violation) : String :=
  "Error message must start with \"" ++ w.required ++ "\". Found: \"" ++ v.text ++ "\""

end Wording

end ErrorWording
