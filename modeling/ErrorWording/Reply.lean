import ErrorWording.Fault
import ErrorWording.Text.Utf8

set_option autoImplicit false

namespace ErrorWording

/-- What one call answers that is to take bytes: how many it takes at most, or a fault. -/
inductive Reply where
  | takes (most : Nat)
  | fails (f : Fault)
deriving DecidableEq, Repr

/-- What came of a text that was handed over in calls. Without a fault, `left` is what no reply was
there for. -/
structure Handed where
  taken : Bytes
  left : Bytes
  replies : List Reply
  fault : Option Fault
deriving DecidableEq, Repr

namespace Reply

def hand : List Reply → Bytes → Handed
  | replies, [] => ⟨[], [], replies, none⟩
  | [], b :: rest => ⟨[], b :: rest, [], none⟩
  | .takes 0 :: replies, b :: rest => ⟨[], b :: rest, replies, some .nothingTaken⟩
  | .takes (n + 1) :: replies, b :: rest =>
      let later := hand replies (rest.drop n)
      { later with taken := b :: rest.take n ++ later.taken }
  | .fails f :: replies, b :: rest =>
      -- An interrupted call is made again; any other that takes nothing is the last.
      if f.kind = .interrupted then hand replies (b :: rest)
      else ⟨[], b :: rest, replies, some f⟩

/-- One call that succeeds or fails as a whole, such as one that opens a file. -/
def settle : List Reply → List Reply × Option Fault
  | [] => ([], none)
  | .takes _ :: replies => (replies, none)
  | .fails f :: replies => if f.kind = .interrupted then settle replies else (replies, some f)

@[simp] theorem hand_nil (replies : List Reply) : hand replies [] = ⟨[], [], replies, none⟩ := by
  cases replies <;> rfl

theorem hand_unanswered (bytes : Bytes) : hand [] bytes = ⟨[], bytes, [], none⟩ := by
  cases bytes <;> rfl

end Reply

end ErrorWording
