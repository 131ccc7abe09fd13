import ErrorWording.Delivery
import ErrorWording.Store.Resolve

set_option autoImplicit false

namespace ErrorWording

inductive Handle where
  | file (l : Location)
  | device (d : Device)
deriving DecidableEq, Repr

namespace Store

def read (s : Store) (p : Path) : Except Fault (List Delivery) :=
  match s.resolve .reading p with
  | .error f => .error f
  | .ok (.file _ content) => .ok [.bytes content]
  | .ok (.directory _) => .ok [.failure .isADirectory]
  | .ok (.device .null) => .ok []
  -- This device delivers zeros without end, of which a process makes one line until its memory is
  -- used up. What becomes of the process then is left out: here the request fails.
  | .ok (.device .full) => .ok [.failure .exhaustedMemory]
  | .ok (.free _) => .error .missingEntry

def openAdding (s : Store) (p : Path) : Store × Except Fault Handle :=
  match s.resolve .adding p with
  | .error f => (s, .error f)
  | .ok (.directory _) => (s, .error .isADirectory)
  | .ok (.device d) => (s, .ok (.device d))
  | .ok (.file l _) =>
      match Reply.settle s.replies with
      | (replies, some f) => (s.answering replies, .error f)
      | (replies, none) => (s.answering replies, .ok (.file l))
  | .ok (.free l) =>
      match Reply.settle s.replies with
      | (replies, some f) => (s.answering replies, .error f)
      -- The place is no longer free, whatever comes of the text.
      | (replies, none) => ((s.answering replies).put l (.file []), .ok (.file l))

def contentAt (s : Store) (l : Location) : Bytes :=
  match s.lookup l with
  | some (.file content) => content
  | _ => []

def add (s : Store) (h : Handle) (piece : Bytes) : Store × Option Fault :=
  match h with
  | .device .null => (s, none)
  | .device .full => (s, if piece = [] then none else some .noSpace)
  | .file l =>
      let handed := Reply.hand s.replies piece
      let taken := if handed.fault.isNone then piece else handed.taken
      ((s.answering handed.replies).put l (.file (s.contentAt l ++ taken)), handed.fault)

def addAll (s : Store) (h : Handle) : List Bytes → Store × Option Fault
  | [] => (s, none)
  | piece :: rest =>
      match s.add h piece with
      | (after, some f) => (after, some f)
      | (after, none) => addAll after h rest

/-- Adds a text, in pieces, at the end of a file. What was taken before a piece failed stays, and so
does a file that was made. -/
def append (s : Store) (p : Path) (pieces : List Bytes) : Store × Option Fault :=
  match s.openAdding p with
  | (after, .error f) => (after, some f)
  | (after, .ok h) => after.addAll h pieces

def content? (s : Store) (p : Path) : Option Bytes :=
  match s.resolve .reading p with
  | .ok (.file _ content) => some content
  | _ => none

end Store

end ErrorWording
