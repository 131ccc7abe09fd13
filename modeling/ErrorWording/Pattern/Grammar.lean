import ErrorWording.Pattern.Bracket

set_option autoImplicit false

namespace ErrorWording.Pattern

structure Level where
  start : Nat
  captured : Bool
  changes : FlagChanges
  looseAround : Bool
  bodyStart : Nat
  branches : List Tree
  partsStart : Nat
  parts : List Tree

namespace Level

def outermost : Level := ⟨0, false, [], false, 0, [], 0, []⟩

def add (l : Level) (part : Tree) : Level := { l with parts := part :: l.parts }

def branch (l : Level) (stop : Nat) : Tree := .ofParts ⟨l.partsStart, stop⟩ l.parts

def body (l : Level) (stop : Nat) : Tree :=
  if l.branches.isEmpty then l.branch stop
  else .alternation ⟨l.bodyStart, stop⟩ (l.branch stop :: l.branches).reverse

end Level

structure State where
  level : Level
  around : List Level
  names : List (List Char × Stretch)

namespace State

def fresh : State := ⟨.outermost, [], []⟩

def add (s : State) (part : Tree) : State := { s with level := s.level.add part }

def bar (s : State) (c : Cursor) : State × Cursor :=
  let after := c.next
  let level :=
    { s.level with
      branches := s.level.branch c.offset :: s.level.branches
      partsStart := after.offset
      parts := [] }
  ({ s with level := level }, after)

def open_ (s : State) (start : Nat) (captured : Bool) (changes : FlagChanges) (c : Cursor) :
    State × Cursor :=
  let level : Level := ⟨start, captured, changes, c.loose, c.offset, [], c.offset, []⟩
  ({ s with level := level, around := s.level :: s.around },
    { c with loose := changes.apply .loose c.loose })

def close (s : State) (c : Cursor) : Except Flaw (State × Cursor) :=
  match s.around with
  | [] => .error (c.flawAtCharacter .unopenedGroup)
  | outer :: around =>
      let after := { c.next with loose := s.level.looseAround }
      let group := Tree.group ⟨s.level.start, after.offset⟩ s.level.captured s.level.changes
        (s.level.body c.offset)
      .ok ({ s with level := outer.add group, around := around }, after)

def finish (s : State) (c : Cursor) : Except Flaw Tree :=
  if s.around.isEmpty then .ok (s.level.body c.offset)
  else .error (.spanning .unclosedGroup s.level.start (s.level.start + 1))

end State

inductive FlagItem where
  | negation
  | flag (f : Flag)
deriving DecidableEq, Repr

namespace FlagItem

def read? (c : Char) : Option FlagItem :=
  if c = '-' then some .negation else (Flag.ofLetter? c).map .flag

def changes : List FlagItem → FlagChanges
  | [] => []
  | .flag f :: rest => (f, true) :: changes rest
  | .negation :: rest =>
      rest.filterMap fun item =>
        match item with
        | .flag f => some (f, false)
        | .negation => none

def readOn (offset : Nat) (before : List (FlagItem × Stretch)) :
    List Char → Except Flaw (List (FlagItem × Stretch))
  | [] => .error (.spanning .cutFlags offset offset)
  | c :: rest =>
      if c = ':' ∨ c = ')' then .ok before
      else
        let here : Stretch := ⟨offset, offset + 1⟩
        match read? c with
        | none => .error ⟨.unknownFlag, here, none⟩
        | some item =>
            match before.find? (·.1 == item) with
            | some (_, earlier) =>
                let problem := if item = .negation then .repeatedNegation else .repeatedFlag
                .error ⟨problem, here, some earlier⟩
            | none => readOn (offset + 1) ((item, here) :: before) rest

def read (c : Cursor) : Except Flaw (List FlagItem) :=
  match readOn c.offset [] c.rest with
  | .error f => .error f
  | .ok ((.negation, place) :: _) => .error ⟨.danglingNegation, place, none⟩
  | .ok items => .ok (items.map (·.1)).reverse

end FlagItem

namespace Group

def isNameStart (c : Char) : Bool := c == '_' || CharSet.alphabetic.contains c

def isNamePart (c : Char) : Bool :=
  isNameStart c || c == '.' || c == '[' || c == ']' || CharSet.numeric.contains c

def invalidPlace? (name : List Char) : Option Nat :=
  match name with
  | [] => none
  | first :: rest =>
      if isNameStart first then (rest.findIdx? fun c => !isNamePart c).map (· + 1) else some 0

def name (names : List (List Char × Stretch)) (c : Cursor) : Reading (List Char × Stretch) :=
  let text := c.rest.takeWhile (· != '>')
  let after := c.past text
  let stretch : Stretch := ⟨c.offset, after.offset⟩
  match invalidPlace? text, names.find? (·.1 == text) with
  | some n, _ => .error (.spanning .invalidName (c.offset + n) (c.offset + n + 1))
  | none, earlier =>
      if after.isAtEnd then .error (after.flawHere .unclosedName)
      else if text = [] then .error (c.flawHere .emptyName)
      else
        match earlier with
        | some (_, place) => .error ⟨.repeatedName, stretch, some place⟩
        | none => .ok ((text, stretch), after.next)

def lookArounds : List (List Char) := ["?=".toList, "?!".toList, "?<=".toList, "?<!".toList]

def flags (s : State) (start mark : Nat) (c : Cursor) : Except Flaw (State × Cursor) :=
  match FlagItem.read c with
  | .error f => .error f
  | .ok items =>
      let changes := FlagItem.changes items
      let after := { c with rest := c.rest.drop items.length, offset := c.offset + items.length }
      let last := after.next
      if after.rest.head? = some ':' then .ok (s.open_ start false changes last)
      else if items = [] then .error (.spanning .nothingToRepeat mark mark)
      else
        .ok (s.add (.flags ⟨start, last.offset⟩ changes),
          { last with loose := changes.apply .loose last.loose })

def read (s : State) (c : Cursor) : Except Flaw (State × Cursor) :=
  let start := c.offset
  let c := c.advance
  let named (opening : String) : Except Flaw (State × Cursor) :=
    match name s.names (c.past opening.toList) with
    | .error f => .error f
    | .ok (entry, after) => .ok ({ s with names := entry :: s.names }.open_ start true [] after)
  match lookArounds.find? (·.isPrefixOf c.rest) with
  | some opening => .error ((c.past opening).flawFrom .lookAround start)
  | none =>
      match c.rest with
      | '?' :: 'P' :: '<' :: _ => named "?P<"
      | '?' :: '<' :: _ => named "?<"
      | ['?'] => .error (.spanning .unclosedGroup start (start + 1))
      | '?' :: _ => flags s start c.offset c.next
      | _ => .ok (s.open_ start true [] c)

end Group

namespace Count

def isDigit (c : Char) : Bool := '0' ≤ c && c ≤ '9'

def limit : Nat := UInt32.size

def number (c : Cursor) : Except Flaw Nat × Cursor :=
  let first := c.dropBlanks
  let (digits, after) := first.takeAll isDigit
  let value := digits.foldl (fun value d => 10 * value + (d.char.toNat - '0'.toNat)) 0
  let result : Except Flaw Nat :=
    if digits = [] then .error (first.flawHere .countWithoutNumber)
    else if limit ≤ value then .error (after.flawFrom .countTooLarge first.offset)
    else .ok value
  (result, after.dropBlanks)

def most (start least : Nat) (c : Cursor) : Reading (Option Nat) :=
  if c.rest.head? = some ',' then
    let c := c.advance
    if c.isAtEnd then .error (c.flawFrom .unclosedCount start)
    else if c.rest.head? = some '\x7d' then .ok (none, c)
    else
      match number c with
      | (.error f, _) => .error f
      | (.ok n, after) => .ok (some n, after)
  else .ok (some least, c)

def passPreference (c : Cursor) : Cursor :=
  -- Which match is preferred does not matter to a filter.
  if c.rest.head? = some '?' then c.next else c

def read (c : Cursor) : Reading (Nat × Option Nat) :=
  let start := c.offset
  let first := c.advance
  if first.isAtEnd then .error (first.flawFrom .unclosedCount start)
  else
    let (least, after) := number first
    let cut := after.rest.head? == some ',' && after.advance.isAtEnd
    if after.isAtEnd then .error (after.flawFrom .unclosedCount start)
    else if cut then .error (after.advance.flawFrom .unclosedCount start)
    else
      match least with
      | .error f => .error f
      | .ok least =>
          match most start least after with
          | .error f => .error f
          | .ok (most, last) =>
              if last.rest.head? ≠ some '\x7d' then .error (last.flawFrom .unclosedCount start)
              else
                let last := passPreference last.advance
                if most.any (· < least) then .error (last.flawFrom .reversedCount start)
                else .ok ((least, most), last)

end Count

namespace State

def repeat_ (s : State) (c : Cursor) (count : Cursor → Reading (Nat × Option Nat)) :
    Except Flaw (State × Cursor) :=
  match s.level.parts with
  | [] | .flags _ _ :: _ => .error (c.flawHere .nothingToRepeat)
  | part :: parts =>
      match count c with
      | .error f => .error f
      | .ok ((least, most), after) =>
          let repetition := Tree.repetition ⟨part.stretch.start, after.offset⟩ part least most
          .ok ({ s with level := { s.level with parts := repetition :: parts } }, after)

def sign (least : Nat) (most : Option Nat) (c : Cursor) : Reading (Nat × Option Nat) :=
  .ok ((least, most), Count.passPreference c.next)

def addRead (s : State) (part : Reading Tree) : Except Flaw (State × Cursor) :=
  match part with
  | .error f => .error f
  | .ok (part, after) => .ok (s.add part, after)

def take (s : State) (c : Cursor) (first : Char) : Except Flaw (State × Cursor) :=
  match first with
  | '(' => Group.read s c
  | ')' => s.close c
  | '|' => .ok (s.bar c)
  | '[' => s.addRead (Bracket.read c)
  | '?' => s.repeat_ c (sign 0 (some 1))
  | '*' => s.repeat_ c (sign 0 none)
  | '+' => s.repeat_ c (sign 1 none)
  | '\x7b' => s.repeat_ c Count.read
  | '\\' => s.addRead (Escape.read c)
  | '.' => .ok (s.add (.dot c.character), c.next)
  | '^' => .ok (s.add (.anchor c.character .lineStart), c.next)
  | '$' => .ok (s.add (.anchor c.character .lineEnd), c.next)
  | d => .ok (s.add (.literal ⟨c.character, d, false⟩), c.next)

def readOn : Nat → State → Cursor → Except Flaw Tree
  | 0, s, c => s.finish c
  | fuel + 1, s, c =>
      let c := c.passBlanks
      match c.rest with
      | [] => s.finish c
      | first :: _ =>
          match s.take c first with
          | .error f => .error f
          -- Each round takes at least one character, so the fuel lasts.
          | .ok (s, after) => readOn fuel s after

end State

def Tree.ofWritten (written : List Char) : Except Flaw Tree :=
  match State.readOn (written.length + 1) .fresh (.atStart written) with
  | .error f => .error f
  | .ok tree =>
      match tree.beyond? nestingLimit with
      | some stretch => .error ⟨.tooDeep, stretch, none⟩
      | none => .ok tree

end ErrorWording.Pattern
