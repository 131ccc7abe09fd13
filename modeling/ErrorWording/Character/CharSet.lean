set_option autoImplicit false

namespace ErrorWording

structure CharRange where
  low : Nat
  high : Nat
deriving DecidableEq, Repr

namespace CharRange

def contains (r : CharRange) (point : Nat) : Bool :=
  r.low ≤ point && point ≤ r.high

def every (r : CharRange) (step : Nat) : List CharRange :=
  (List.range ((r.high - r.low) / max step 1 + 1)).map fun n =>
    ⟨r.low + n * max step 1, r.low + n * max step 1⟩

def hexadecimal (digits : List Char) : Nat :=
  digits.foldl
    (fun value c =>
      16 * value + if c.isDigit then c.toNat - '0'.toNat else c.toNat - 'A'.toNat + 10)
    0

/-- Reads `41`, `41-5A` or `100-12E/2`: a code point, a range, or every second of a range. -/
def ofItem (item : List Char) : List CharRange :=
  let (range, step) := item.span (· != '/')
  let (low, high) := range.span (· != '-')
  let first := hexadecimal low
  match high, step with
  | _ :: high, _ :: step => every ⟨first, hexadecimal high⟩ (hexadecimal step)
  | _ :: high, [] => [⟨first, hexadecimal high⟩]
  | [], _ => [⟨first, first⟩]

def items (rows : String) : List (List Char) :=
  (rows.toList.splitOnP Char.isWhitespace).filter (· != [])

end CharRange

/-- A set of characters. The ranges ascend and lie apart. -/
structure CharSet where
  ranges : List CharRange
deriving DecidableEq, Repr

namespace CharSet

def empty : CharSet := ⟨[]⟩

def contains (s : CharSet) (c : Char) : Bool :=
  s.ranges.any (·.contains c.toNat)

def join (below : List CharRange) (r : CharRange) : List CharRange :=
  match below with
  | [] => [r]
  | last :: rest =>
      if r.low ≤ last.high + 1 then ⟨last.low, max last.high r.high⟩ :: rest else r :: below

def ofRanges (ranges : List CharRange) : CharSet :=
  ⟨((ranges.mergeSort fun a b => a.low ≤ b.low).foldl join []).reverse⟩

def ofRows (rows : String) : CharSet :=
  ofRanges ((CharRange.items rows).flatMap CharRange.ofItem)

def only (c : Char) : CharSet := ⟨[⟨c.toNat, c.toNat⟩]⟩

def between (low high : Char) : CharSet := ofRanges [⟨low.toNat, high.toNat⟩]

def ofList (text : List Char) : CharSet :=
  ofRanges (text.map fun c => ⟨c.toNat, c.toNat⟩)

def lastPoint : Nat := 0x10FFFF

def gaps (first : Nat) : List CharRange → List CharRange
  | [] => if first ≤ lastPoint then [⟨first, lastPoint⟩] else []
  | r :: rest =>
      if first < r.low then ⟨first, r.low - 1⟩ :: gaps (r.high + 1) rest
      else gaps (max first (r.high + 1)) rest

def complement (s : CharSet) : CharSet := ⟨gaps 0 s.ranges⟩

def any : CharSet := complement empty

def ascii : CharSet := ⟨[⟨0, 0x7F⟩]⟩

def union (s t : CharSet) : CharSet := ofRanges (s.ranges ++ t.ranges)

def unionAll (sets : List CharSet) : CharSet := ofRanges (sets.flatMap (·.ranges))

def intersection (s t : CharSet) : CharSet := (s.complement.union t.complement).complement

def difference (s t : CharSet) : CharSet := s.intersection t.complement

def symmetricDifference (s t : CharSet) : CharSet := (s.union t).difference (s.intersection t)

def isAscii (s : CharSet) : Bool := s.ranges.all (·.high < 0x80)

def only? (s : CharSet) : Option Char :=
  match s.ranges with
  | [r] => if r.low = r.high then some (Char.ofNat r.low) else none
  | _ => none

end CharSet

end ErrorWording
