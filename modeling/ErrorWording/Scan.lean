import ErrorWording.Delivery
import ErrorWording.Text.Lines
import ErrorWording.Wording

set_option autoImplicit false

namespace ErrorWording

namespace Wording

def checkLines (w : Wording) (first : Nat) (lines : List (List Char)) : List Violation :=
  (lines.zipIdx first).filterMap fun (line, number) => w.check number line

def scanText (w : Wording) (text : List Char) : List Violation :=
  w.checkLines 1 (linesOf text)

end Wording

/-- A scan in progress: the bytes of the unfinished line and the violations found, both newest
first, and how many lines are done. -/
structure Scan where
  unfinished : Bytes
  done : Nat
  found : List Violation
deriving DecidableEq, Repr

namespace Scan

def fresh : Scan := ⟨[], 0, []⟩

def endLine (w : Wording) (s : Scan) : Except Fault Scan :=
  match Utf8.decode? s.unfinished.reverse with
  | none => .error .undecodable
  | some line =>
      -- Every carriage return at the end of the line is dropped, not one.
      .ok ⟨[], s.done + 1, (w.check (s.done + 1) (Line.dropReturns line)).toList ++ s.found⟩

def feed : UInt8 := 0x0A

def takeByte (w : Wording) (s : Scan) (b : UInt8) : Except Fault Scan :=
  if b = feed then s.endLine w else .ok { s with unfinished := b :: s.unfinished }

def takeBytes (w : Wording) (s : Scan) (bytes : Bytes) : Except Fault Scan :=
  bytes.foldlM (takeByte w) s

/-- Reads on until the source has nothing more. An interrupted request is made again; any
other failure ends the scan. A pause ends an unfinished line, and ends the scan when there is
none. -/
def drain (w : Wording) (s : Scan) : List Delivery → Except Fault (List Violation)
  | [] =>
      match s.unfinished with
      | [] => .ok s.found.reverse
      | _ :: _ => do
          let s ← s.endLine w
          return s.found.reverse
  | .bytes b :: rest => do
      let s ← s.takeBytes w b
      drain w s rest
  | .failure f :: rest => if f.kind = .interrupted then drain w s rest else .error f
  | .pause :: rest =>
      match s.unfinished with
      | [] => .ok s.found.reverse
      | _ :: _ => do
          let s ← s.endLine w
          drain w s rest

end Scan

namespace Wording

def scanDeliveries (w : Wording) (deliveries : List Delivery) : Except Fault (List Violation) :=
  Scan.fresh.drain w deliveries

def scanBytes (w : Wording) (bytes : Bytes) : Except Fault (List Violation) :=
  w.scanDeliveries [.bytes bytes]

end Wording

end ErrorWording
