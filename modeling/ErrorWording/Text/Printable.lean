set_option autoImplicit false

namespace ErrorWording

/-- A part of a text. Marks stand on both sides of a marked part, and no sequence that steers a
terminal reaches across a mark. -/
structure Part where
  text : String
  marked : Bool
deriving DecidableEq, Repr

abbrev MarkedText := List Part

namespace Part

def plain (text : String) : Part := ⟨text, false⟩

def emphasized (text : String) : Part := ⟨text, true⟩

end Part

namespace Printable

/-- Where a text stands within a steering sequence, if it is in one. A command ends at its final
letter and a title at a bell. A device sequence has an opening, numbers, marks and then a string,
and a string ends at the byte 9C. -/
inductive Mode where
  | plain
  | escape
  | intermediate
  | command
  | title
  | deviceOpening
  | deviceNumbers
  | deviceMarks
  | string
deriving DecidableEq, Repr

def isShownControl (c : Char) : Bool :=
  c == '\t' || c == '\n' || c == '\x0C' || c == '\r'

def isVisible (c : Char) : Bool :=
  isShownControl c || (' ' ≤ c && c != '\x7F')

def endsString (c : Char) : Bool :=
  0x9C ∈ String.utf8EncodeChar c

def between (low high c : Char) : Bool :=
  low ≤ c && c ≤ high

def Mode.after (mode : Mode) (c : Char) : Mode :=
  match mode with
  | .plain => .plain
  | .escape =>
      if c = '[' then .command
      else if c = ']' then .title
      else if c = 'P' then .deviceOpening
      else if c = 'X' ∨ c = '^' ∨ c = '_' then .string
      else if between ' ' '/' c then .intermediate
      else if between '0' '~' c then .plain
      else .escape
  | .intermediate => if between '0' '~' c then .plain else .intermediate
  | .command => if between '@' '~' c then .plain else .command
  | .title => if c = '\x07' then .plain else .title
  | .deviceOpening =>
      if between ' ' '/' c then .deviceMarks
      else if between '0' '?' c then .deviceNumbers
      else if between '@' '~' c then .string
      else .deviceOpening
  | .deviceNumbers =>
      if between ' ' '/' c then .deviceMarks
      else if between '<' '~' c then .string
      else .deviceNumbers
  | .deviceMarks => if between '0' '~' c then .string else .deviceMarks
  | .string => if endsString c then .plain else .string

def Mode.showsControls : Mode → Bool
  | .plain | .escape | .intermediate | .command => true
  | _ => false

def step (mode : Mode) (c : Char) : Bool × Mode :=
  if c = '\x1B' then (false, .escape)
  else if c = '\x18' ∨ c = '\x1A' then (false, .plain)
  else if mode = .plain then (isVisible c, .plain)
  else if isShownControl c && mode.showsControls then (true, mode)
  else (false, mode.after c)

/-- How a text reaches the output. A blank that is shown within a sequence ends the sequence in a
text that is read as a whole. In a stream the sequence goes on where the text next shown ends,
unless that has characters beyond ASCII. -/
inductive Manner where
  | whole
  | stream
deriving DecidableEq, Repr

structure Reading where
  mode : Mode
  showing : Bool
deriving DecidableEq, Repr

def Reading.start : Reading := ⟨.plain, false⟩

def Reading.next (manner : Manner) (r : Reading) (c : Char) : Bool × Reading :=
  if r.showing && isVisible c then (true, ⟨if '\x7F' < c then .plain else r.mode, true⟩)
  else
    match step r.mode c with
    | (false, mode) => (false, ⟨mode, false⟩)
    | (true, mode) => (true, ⟨if manner = .whole then .plain else mode, true⟩)

def shownFrom (manner : Manner) (r : Reading) : List Char → List Char × Reading
  | [] => ([], r)
  | c :: rest =>
      match r.next manner c with
      | (true, r) =>
          let (shown, last) := shownFrom manner r rest
          (c :: shown, last)
      | (false, r) => shownFrom manner r rest

def shownParts (manner : Manner) (r : Reading) : MarkedText → List Char
  | [] => []
  | part :: rest =>
      if part.marked then
        (shownFrom manner .start part.text.toList).1 ++ shownParts manner .start rest
      else
        let (shown, r) := shownFrom manner r part.text.toList
        shown ++ shownParts manner r rest

def shown (manner : Manner) (text : MarkedText) : String :=
  String.ofList (shownParts manner .start text)

end Printable

end ErrorWording
