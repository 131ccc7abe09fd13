import ErrorWording.Pattern.Cursor

set_option autoImplicit false

namespace ErrorWording.Pattern

namespace Escape

def digitValue? (c : Char) : Option Nat :=
  if '0' ≤ c ∧ c ≤ '9' then some (c.toNat - '0'.toNat)
  else if 'a' ≤ c ∧ c ≤ 'f' then some (c.toNat - 'a'.toNat + 10)
  else if 'A' ≤ c ∧ c ≤ 'F' then some (c.toNat - 'A'.toNat + 10)
  else none

def isDigit (c : Char) : Bool := (digitValue? c).isSome

def charOf? (digits : List Char) : Option Char :=
  let value := digits.foldl (fun value c => 16 * value + (digitValue? c).getD 0) 0
  if value.isValidChar then some (Char.ofNat value) else none

def fixedDigits : Nat → List Char → Cursor → Reading (List Char)
  | 0, taken, c => .ok (taken.reverse, c)
  | count + 1, taken, c =>
      match c.rest with
      | [] => .error (c.flawHere .cutEscape)
      | d :: _ =>
          if isDigit d then fixedDigits count (d :: taken) c.advance
          else .error (c.flawAtCharacter .invalidDigit)

def fixedNumber (start count : Nat) (asByte : Bool) (c : Cursor) : Reading Literal :=
  match fixedDigits count [] c with
  | .error f => .error f
  | .ok (digits, after) =>
      match charOf? digits with
      | some char => .ok (⟨⟨start, after.offset⟩, char, asByte⟩, after)
      | none => .error (after.flawFrom .noCharacter c.offset)

def bracedNumber (start : Nat) (c : Cursor) : Reading Literal :=
  let (digits, after) := c.advance.takeAll isDigit
  match after.rest with
  | [] => .error (after.flawFrom .cutEscape c.offset)
  | '\x7d' :: _ =>
      let last := after.advance
      if digits = [] then .error (last.flawFrom .emptyNumber c.offset)
      else
        match charOf? (digits.map (·.char)) with
        | some char => .ok (⟨⟨start, last.offset⟩, char, false⟩, last)
        | none => .error (.spanning .noCharacter (c.offset + 1) after.offset)
  | _ => .error (after.flawAtCharacter .invalidDigit)

def number (start : Nat) (letter : Char) (c : Cursor) : Reading Literal :=
  let c := c.advance
  match c.rest with
  | [] => .error (c.flawHere .cutEscape)
  | '\x7b' :: _ => bracedNumber start c
  | _ =>
      let count := if letter = 'x' then 2 else if letter = 'u' then 4 else 8
      fixedNumber start count (letter == 'x') c

def queryOf (name : List Char) : PropertyQuery :=
  let marked := (List.range name.length).find? fun n =>
    name[n]? == some '!' && name[n + 1]? == some '='
  match marked with
  | some n => .valued (name.take n) (name.drop (n + 2))
  | none =>
      let mark := if ':' ∈ name then ':' else '='
      match name.span (· != mark) with
      | (property, _ :: value) => .valued property value
      | (property, []) => .named property

def property (start : Nat) (negated : Bool) (c : Cursor) : Reading Tree :=
  let c := c.advance
  match c.rest with
  | [] => .error (c.flawHere .cutEscape)
  | '\x7b' :: _ =>
      let (name, after) := c.advance.takeAll (· != '\x7d')
      if after.isAtEnd then .error (after.flawHere .cutEscape)
      else
        let last := after.next
        .ok (.property ⟨start, last.offset⟩ (queryOf (name.map (·.char))) negated, last)
  | letter :: _ =>
      if letter = '\\' then .error (c.flawAtCharacter .invalidProperty)
      else
        let last := c.advance
        .ok (.property ⟨start, last.offset⟩ (.named [letter]) negated, last)

def isBoundaryLetter (c : Char) : Bool :=
  ('A' ≤ c && c ≤ 'Z') || ('a' ≤ c && c ≤ 'z') || c == '-'

def edgeOf? (name : List Char) : Option Edge :=
  match String.ofList name with
  | "start" => some .start
  | "end" => some .stop
  | "start-half" => some .startHalf
  | "end-half" => some .stopHalf
  | _ => none

def namedEdge? (start : Nat) (c : Cursor) : Except Flaw (Option (Edge × Cursor)) :=
  let first := c.advance
  match first.rest with
  | [] => .error (first.flawFrom .cutBoundary start)
  | d :: _ =>
      if isBoundaryLetter d then
        let (name, after) := first.takeAll isBoundaryLetter
        if after.rest.head? = some '\x7d' then
          match edgeOf? (name.map (·.char)) with
          | some e => .ok (some (e, after.next))
          | none => .error (.spanning .unknownBoundary first.offset after.offset)
        else .error (after.flawFrom .unclosedBoundary c.offset)
      else .ok none

def standsForItself (c : Char) : Bool :=
  c.toNat < 0x80 && !c.isAlphanum && c != '<' && c != '>'

def controlOf? (c : Char) : Option Char :=
  match c with
  | 'a' => some '\x07'
  | 'f' => some '\x0C'
  | 't' => some '\t'
  | 'n' => some '\n'
  | 'r' => some '\r'
  | 'v' => some '\x0B'
  | _ => none

def anchorOf? (c : Char) : Option Anchor :=
  match c with
  | 'A' => some .textStart
  | 'z' => some .textEnd
  | 'b' => some (.edge .either)
  | 'B' => some (.edge .none)
  | '<' => some (.edge .start)
  | '>' => some (.edge .stop)
  | _ => none

def shorthandOf? (c : Char) : Option (Shorthand × Bool) :=
  match c with
  | 'd' => some (.digit, false)
  | 'D' => some (.digit, true)
  | 's' => some (.blank, false)
  | 'S' => some (.blank, true)
  | 'w' => some (.word, false)
  | 'W' => some (.word, true)
  | _ => none

def short (start : Nat) (letter : Char) (after : Cursor) : Reading Tree :=
  let stretch : Stretch := ⟨start, after.offset⟩
  match shorthandOf? letter with
  | some (kind, negated) => .ok (.shorthand stretch kind negated, after)
  | none =>
      match controlOf? letter, anchorOf? letter with
      | some c, _ => .ok (.literal ⟨stretch, c, false⟩, after)
      | none, some a =>
          if letter = 'b' ∧ after.rest.head? = some '\x7b' then
            match namedEdge? start after with
            | .error f => .error f
            | .ok (some (e, last)) => .ok (.anchor ⟨start, last.offset⟩ (.edge e), last)
            | .ok none => .ok (.anchor stretch a, after)
          else .ok (.anchor stretch a, after)
      | none, none =>
          if standsForItself letter then .ok (.literal ⟨stretch, letter, false⟩, after)
          else .error (after.flawFrom .unknownEscape start)

def read (c : Cursor) : Reading Tree :=
  let start := c.offset
  let c := c.next
  match c.rest with
  | [] => .error (c.flawFrom .cutEscape start)
  | letter :: _ =>
      if '0' ≤ letter ∧ letter ≤ '9' then .error (c.next.flawFrom .backReference start)
      else if letter = 'x' ∨ letter = 'u' ∨ letter = 'U' then
        match number start letter c with
        | .error f => .error f
        | .ok (l, after) => .ok (.literal l, after)
      else if letter = 'p' ∨ letter = 'P' then property start (letter == 'P') c
      else short start letter c.next

end Escape

end ErrorWording.Pattern
