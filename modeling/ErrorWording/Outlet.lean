import ErrorWording.Fault
import ErrorWording.Text.Utf8

set_option autoImplicit false

namespace ErrorWording

/-- `perCall` bounds what one call takes and `room` all that it will still take; `none` is no
bound. Once the room is used up, calls fail with `refusal`, or take nothing if there is none.
The bytes taken are kept newest first. -/
structure Outlet where
  perCall : Option Nat
  room : Option Nat
  refusal : Option Fault
  flushFault : Option Fault
  reversed : Bytes
deriving DecidableEq, Repr

/-- Why a text was not taken whole. A call that is always interrupted is made again for ever. -/
inductive Halt where
  | refused (f : Fault)
  | stalled
deriving DecidableEq, Repr

namespace Outlet

def boundless : Outlet := ⟨none, none, none, none, []⟩

def closed (f : Fault) : Outlet := ⟨none, some 0, some f, none, []⟩

def written (o : Outlet) : Bytes :=
  o.reversed.reverse

def bound (o : Outlet) : Option Nat :=
  match o.perCall, o.room with
  | none, room => room
  | perCall, none => perCall
  | some a, some b => some (min a b)

def take (o : Outlet) (piece : Bytes) : Outlet :=
  { o with room := o.room.map (· - piece.length), reversed := piece.reverse ++ o.reversed }

@[simp] theorem written_take (o : Outlet) (piece : Bytes) :
    (o.take piece).written = o.written ++ piece := by
  simp [written, take]

def halt (o : Outlet) : Halt :=
  match o.room, o.refusal with
  -- An interrupted call would be made again for ever.
  | some 0, some f => if f.kind = .interrupted then .stalled else .refused f
  | _, _ => .refused .nothingTaken

def offer (o : Outlet) (bytes : Bytes) : Outlet × Option Halt :=
  match bytes, o.bound with
  | [], _ => (o, none)
  | b :: rest, none => (o.take (b :: rest), none)
  | _ :: _, some 0 => (o, some o.halt)
  | b :: rest, some (n + 1) => offer (o.take (b :: rest.take n)) (rest.drop n)
termination_by bytes.length
decreasing_by
  rw [List.length_drop, List.length_cons]
  omega

@[simp] theorem offer_nil (o : Outlet) : o.offer [] = (o, none) := by
  rw [offer]

def flush (o : Outlet) : Option Halt :=
  o.flushFault.map .refused

end Outlet

end ErrorWording
