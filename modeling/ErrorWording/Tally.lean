import ErrorWording.Text.Utf8

set_option autoImplicit false

namespace ErrorWording

/-- The count of errors of a run, which is kept in 64 bits. -/
structure Tally where
  total : Nat
  total_lt : total < UInt64.size
deriving DecidableEq, Repr

namespace Tally

def zero : Tally := ⟨0, by decide⟩

def ofNat? (n : Nat) : Option Tally :=
  if h : n < UInt64.size then some ⟨n, h⟩ else none

def record? (t : Tally) (errors : Nat) : Option Tally :=
  ofNat? (t.total + errors)

@[simp] theorem ofNat?_eq_some_iff (n : Nat) (t : Tally) : ofNat? n = some t ↔ t.total = n := by
  obtain ⟨total, fits⟩ := t
  unfold ofNat?
  by_cases small : n < UInt64.size
  · simp [small, eq_comm]
  · simp only [dif_neg small, reduceCtorEq, false_iff]
    rintro rfl
    exact small fits

@[simp] theorem ofNat?_eq_none_iff (n : Nat) : ofNat? n = none ↔ UInt64.size ≤ n := by
  unfold ofNat?
  by_cases small : n < UInt64.size
  · simp [small]
  · simp only [dif_neg small, true_iff]
    exact Nat.le_of_not_lt small

@[simp] theorem record?_eq_some_iff (t next : Tally) (errors : Nat) :
    t.record? errors = some next ↔ next.total = t.total + errors :=
  ofNat?_eq_some_iff _ _

@[simp] theorem record?_eq_none_iff (t : Tally) (errors : Nat) :
    t.record? errors = none ↔ UInt64.size ≤ t.total + errors :=
  ofNat?_eq_none_iff _

def hasErrors (t : Tally) : Bool :=
  0 < t.total

def exitCode (t : Tally) : Nat :=
  if t.hasErrors then 1 else 0

def overflowText : String := "attempt to add with overflow"

def countLine (t : Tally) : String :=
  "Found " ++ toString t.total ++ " formatting error(s)."

def block (t : Tally) : String :=
  "### Go Error Message Linting\n\n" ++ t.countLine ++ "\n"

def blockPieces (t : Tally) : List Bytes :=
  [bytesOf "### Go Error Message Linting", bytesOf "\n\n", bytesOf t.countLine, bytesOf "\n"]

def notice (t : Tally) : String :=
  "\n" ++ t.countLine ++ "\n"

def noticePieces (t : Tally) : List Bytes :=
  [bytesOf "\n", bytesOf t.countLine, bytesOf "\n"]

@[simp] theorem block_pieces_flatten (t : Tally) : t.blockPieces.flatten = bytesOf t.block := by
  have heading : "### Go Error Message Linting\n\n" =
      "### Go Error Message Linting" ++ "\n\n" := rfl
  have parts := congrArg (fun front => bytesOf (front ++ t.countLine ++ "\n")) heading
  exact ((bytes_of_appends "### Go Error Message Linting" ["\n\n", t.countLine, "\n"]).symm).trans
    parts.symm

@[simp] theorem notice_pieces_flatten (t : Tally) : t.noticePieces.flatten = bytesOf t.notice :=
  (bytes_of_appends "\n" [t.countLine, "\n"]).symm

end Tally

end ErrorWording
