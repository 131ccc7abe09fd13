import Std.Data.HashMap
import ErrorWording.Pattern.Basic

set_option autoImplicit false

namespace ErrorWording.Pattern

abbrev ByteRow := List (UInt8 × UInt8)

namespace ByteRow

def aligned : Nat → Nat → Nat → Nat → List CharRange
  | 0, _, low, high => [⟨low, high⟩]
  | levels + 1, unit, low, high =>
      if low / unit = high / unit then [⟨low, high⟩]
      else
        let first := if low % unit = 0 then low else (low / unit + 1) * unit
        let behind := if high % unit = unit - 1 then high + 1 else high / unit * unit
        let head := if low < first then [⟨low, first - 1⟩] else []
        let tail := if behind ≤ high then [⟨behind, high⟩] else []
        let middle := if first < behind then aligned levels (64 * unit) first (behind - 1) else []
        head ++ middle ++ tail

def widths : List (CharRange × Nat) :=
  [(⟨0, 0x7F⟩, 0), (⟨0x80, 0x7FF⟩, 1), (⟨0x800, 0xD7FF⟩, 2), (⟨0xE000, 0xFFFF⟩, 2),
    (⟨0x10000, 0x10FFFF⟩, 3)]

def ofAligned (r : CharRange) : ByteRow :=
  (String.utf8EncodeChar (Char.ofNat r.low)).zip (String.utf8EncodeChar (Char.ofNat r.high))

def ofRange (r : CharRange) : List ByteRow :=
  widths.flatMap fun (width, more) =>
    let low := max r.low width.low
    let high := min r.high width.high
    if high < low then [] else (aligned more 64 low high).map ofAligned

def ofSet (s : CharSet) : List ByteRow := s.ranges.flatMap ofRange

def common : ByteRow → ByteRow → Nat
  | a :: row, b :: other => if a = b then common row other + 1 else 0
  | _, _ => 0

def steps : ByteRow → List ByteRow → Nat → Nat
  | _, [], count => count
  | before, row :: rest, count => steps row rest (count + (row.length - common before row))

end ByteRow

abbrev StateTable := Std.HashMap (List ((UInt8 × UInt8) × Nat)) Nat

namespace StateTable

def grouped : List ((UInt8 × UInt8) × List ByteRow) → List ByteRow →
    List ((UInt8 × UInt8) × List ByteRow)
  | done, [] => done.reverse.map fun (step, rows) => (step, rows.reverse)
  | done, [] :: rest => grouped done rest
  | done, (step :: row) :: rest =>
      match done with
      | (last, rows) :: done' =>
          if last = step then grouped ((last, row :: rows) :: done') rest
          else grouped ((step, [row]) :: done) rest
      | [] => grouped [(step, [row])] rest

def state : Nat → StateTable → List ByteRow → Nat × StateTable
  | 0, table, _ => (0, table)
  | depth + 1, table, rows =>
      let (steps, table) := (grouped [] rows).foldl
        (fun (steps, table) (step, rows) =>
          let (target, table) := state depth table rows
          ((step, target) :: steps, table))
        (([] : List ((UInt8 × UInt8) × Nat)), table)
      if steps = [] then (0, table)
      else
        match table[steps]? with
        | some number => (number, table)
        | none => (table.size + 1, table.insert steps (table.size + 1))

end StateTable

namespace Size

def ofState : Nat := 32

def ofChoice : Nat := 4

def ofRange : Nat := 8

def limit : Nat := 10485760

def ofSet (backwards : Bool) (s : CharSet) : Nat :=
  match s.only? with
  | some c => c.utf8Size * ofState
  | none =>
      if s.isAscii then 2 * ofState + s.ranges.length * ofRange
      else
        let rows := ByteRow.ofSet s
        if backwards then
          2 * ofState + rows.length * ofChoice + ByteRow.steps [] rows 0 * ofState
        else
          let (_, table) := StateTable.state 4 ∅ rows
          table.fold (fun sum steps _ => sum + ofState + steps.length * ofRange) ofState

def ofPattern (backwards : Bool) : Bool → Pattern Step → Nat
  | within, .either p q =>
      (if within then 0 else 2 * ofState) + ofPattern backwards true p +
        ofPattern backwards true q
  | within, p =>
      (if within then ofChoice else 0) +
        match p with
        | .nothing | .leaf (.at_ _) => ofState
        | .leaf (.one s) => ofSet backwards s
        | .captured p => ofPattern backwards false p + if backwards then 0 else 2 * ofState
        | .sequence p q => ofPattern backwards false p + ofPattern backwards false q
        | .either _ _ => 0
        | .repeated p least most =>
            let part := ofPattern backwards false p
            let fork := ofState + 2 * ofChoice
            match least, most with
            | 0, none => if p.canBeEmpty then part + 2 * fork + ofState else part + fork
            | least, none => least * part + fork
            | 0, some 1 => part + fork + ofState
            | least, some most =>
                if least = most then least * part
                else
                  (if least = 0 then ofState else least * part) + ofState +
                    (most - least) * (part + fork)

def isAnchored (backwards : Bool) : Pattern Step → Bool
  | .leaf (.at_ c) => c == (if backwards then .textEnd else .textStart)
  | .captured p => isAnchored backwards p
  | .sequence p q => if backwards then isAnchored backwards q else isAnchored backwards p
  | .either p q => isAnchored backwards p && isAnchored backwards q
  | .repeated p least _ => least != 0 && isAnchored backwards p
  | _ => false

def ofMachine (backwards : Bool) (p : Pattern Step) : Nat :=
  let skip := if isAnchored backwards p then ofState else 3 * ofState + 2 * ofChoice + ofRange
  let notes := if backwards then 0 else 2 * ofState
  skip + notes + ofState + ofPattern backwards false p

end Size

def isTooLarge (p : Pattern Step) : Bool :=
  Size.limit < Size.ofMachine false p || Size.limit < Size.ofMachine true p

end ErrorWording.Pattern
