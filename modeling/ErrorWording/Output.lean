import ErrorWording.Outlet
import ErrorWording.Reply

set_option autoImplicit false

namespace ErrorWording

/-- A writer: its first calls, flushing among them, get these replies, and then it is an outlet. -/
structure Output where
  replies : List Reply
  outlet : Outlet
deriving DecidableEq, Repr

instance : Coe Outlet Output := ⟨fun o => ⟨[], o⟩⟩

namespace Output

def boundless : Output := Outlet.boundless

def closed (f : Fault) : Output := Outlet.closed f

def reversed (o : Output) : Bytes :=
  o.outlet.reversed

def written (o : Output) : Bytes :=
  o.outlet.written

def offer (o : Output) (bytes : Bytes) : Output × Option Halt :=
  let handed := Reply.hand o.replies bytes
  let after := o.outlet.take handed.taken
  match handed.fault with
  | some f => (⟨handed.replies, after⟩, some (.refused f))
  | none => (⟨handed.replies, (after.offer handed.left).1⟩, (after.offer handed.left).2)

def offerAll (o : Output) : List Bytes → Output × Option Halt
  | [] => (o, none)
  | bytes :: rest =>
      match o.offer bytes with
      | (after, some halt) => (after, some halt)
      | (after, none) => offerAll after rest

def flush (o : Output) : Output × Option Halt :=
  match o.replies with
  | [] => (o, o.outlet.flush)
  | .takes _ :: replies => ({ o with replies := replies }, none)
  -- An interrupted flush is not tried again.
  | .fails f :: replies => ({ o with replies := replies }, some (.refused f))

end Output

end ErrorWording
