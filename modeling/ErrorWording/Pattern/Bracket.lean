import ErrorWording.Pattern.Escape

set_option autoImplicit false

namespace ErrorWording.Pattern

namespace Bracket

structure Row where
  items : List ClassTree
  stretch : Stretch

namespace Row

def start (c : Cursor) : Row := ⟨[], c.here⟩

def add (r : Row) (item : ClassTree) : Row :=
  let start := if r.items.isEmpty then item.stretch.start else r.stretch.start
  ⟨item :: r.items, ⟨start, item.stretch.stop⟩⟩

def tree (r : Row) : ClassTree := .union r.stretch r.items.reverse

end Row

/-- What a class is read within: the brackets around it, with the row before them, or an operation
whose left side is read already. -/
inductive Frame where
  | opened (outer : Row) (stretch : Stretch) (negated : Bool)
  | operand (operation : SetOperation) (left : ClassTree)

def namedSets : List (String × CharSet) :=
  let ranges (pairs : List (Char × Char)) := CharSet.ofRanges (pairs.map fun (low, high) =>
    ⟨low.toNat, high.toNat⟩)
  [("alnum", ranges [('0', '9'), ('A', 'Z'), ('a', 'z')]),
    ("alpha", ranges [('A', 'Z'), ('a', 'z')]),
    ("ascii", CharSet.ascii),
    ("blank", CharSet.ofList [' ', '\t']),
    ("cntrl", ranges [('\x00', '\x1F'), ('\x7F', '\x7F')]),
    ("digit", ranges [('0', '9')]),
    ("graph", ranges [('!', '~')]),
    ("lower", ranges [('a', 'z')]),
    ("print", ranges [(' ', '~')]),
    ("punct", ranges [('!', '/'), (':', '@'), ('[', '`'), ('\x7b', '~')]),
    ("space", CharSet.ofList ['\t', '\n', '\x0B', '\x0C', '\r', ' ']),
    ("upper", ranges [('A', 'Z')]),
    ("word", ranges [('0', '9'), ('A', 'Z'), ('_', '_'), ('a', 'z')]),
    ("xdigit", ranges [('0', '9'), ('A', 'F'), ('a', 'f')])]

def namedSet? (c : Cursor) : Option (ClassTree × Cursor) :=
  match c.rest with
  | '[' :: ':' :: body =>
      let negated := body.head? == some '^'
      let name := (if negated then body.tail else body).takeWhile (· != ':')
      let written := '[' :: ':' :: (if negated then ['^'] else []) ++ name ++ [':', ']']
      if written.isPrefixOf c.rest then
        match namedSets.find? (·.1.toList == name) with
        | some (_, set) =>
            let after := c.past written
            some (.asciiClass ⟨c.offset, after.offset⟩ negated set, after)
        | none => none
      else none
  | _ => none

def opening (c : Cursor) : Reading (Stretch × Bool × Row) :=
  let start := c.offset
  let first := c.advance
  if first.isAtEnd then .error (first.flawFrom .unclosedClass start)
  else
    let negated := first.rest.head? == some '^'
    let body := if negated then first.advance else first
    if body.isAtEnd then .error (body.flawFrom .unclosedClass start)
    else
      let (hyphens, after) := body.takeAll (· == '-')
      if after.isAtEnd then .error (.spanning .unclosedClass start start)
      else
        let row := hyphens.foldl (fun row l => row.add (.literal l)) (Row.start body)
        if hyphens = [] ∧ after.rest.head? = some ']' then
          let last := after.advance
          if last.isAtEnd then .error (last.flawFrom .unclosedClass start)
          else
            .ok ((⟨start, last.offset⟩, negated, row.add (.literal ⟨after.character, ']', false⟩)),
              last)
        else .ok ((⟨start, after.offset⟩, negated, row), after)

def unclosed : List Frame → Flaw
  | .opened _ stretch _ :: _ => ⟨.unclosedClass, stretch, none⟩
  | _ :: around => unclosed around
  | [] => .spanning .unclosedClass 0 0

def item (c : Cursor) : Reading Tree :=
  match c.rest with
  | '\\' :: _ => Escape.read c
  | d :: _ => .ok (.literal ⟨c.character, d, false⟩, c.next)
  | [] => .error (c.flawHere .unclosedClass)

def asMember : Tree → Except Flaw ClassTree
  | .literal l => .ok (.literal l)
  | .shorthand s kind negated => .ok (.shorthand s kind negated)
  | .property s query negated => .ok (.property s query negated)
  | t => .error ⟨.assertionInClass, t.stretch, none⟩

def asBound : Tree → Except Flaw Literal
  | .literal l => .ok l
  | t => .error ⟨.rangeOfClass, t.stretch, none⟩

def rangeOf (first second : Tree) : Except Flaw ClassTree :=
  match asBound first, asBound second with
  | .error f, _ => .error f
  | _, .error f => .error f
  | .ok low, .ok high =>
      let stretch : Stretch := ⟨low.stretch.start, high.stretch.stop⟩
      if high.char < low.char then .error ⟨.reversedRange, stretch, none⟩
      else .ok (.range stretch low high)

def member (around : List Frame) (c : Cursor) : Reading ClassTree :=
  match item c with
  | .error f => .error f
  | .ok (first, after) =>
      let after := after.passBlanks
      let next := after.peekPastBlanks?
      if after.isAtEnd then .error (unclosed around)
      else if after.rest.head? ≠ some '-' ∨ next = some ']' ∨ next = some '-' then
        (asMember first).map (·, after)
      else
        let after := after.advance
        if after.isAtEnd then .error (unclosed around)
        else
          match item after with
          | .error f => .error f
          | .ok (second, last) => (rangeOf first second).map (·, last)

def operationOf? (c : Cursor) : Option SetOperation :=
  match c.rest with
  | '&' :: '&' :: _ => some .intersection
  | '-' :: '-' :: _ => some .difference
  | '~' :: '~' :: _ => some .symmetricDifference
  | _ => none

def closeOperand (right : ClassTree) : List Frame → ClassTree × List Frame
  | .operand operation left :: around =>
      (.combined ⟨left.stretch.start, right.stretch.stop⟩ operation left right, around)
  | around => (right, around)

def readOn : Nat → List Frame → Row → Cursor → Reading Tree
  | 0, around, _, _ => .error (unclosed around)
  | fuel + 1, around, row, c =>
      let c := c.passBlanks
      match c.rest, operationOf? c with
      | [], _ => .error (unclosed around)
      | '[' :: _, _ =>
          match if around.isEmpty then none else namedSet? c with
          | some (set, after) => readOn fuel around (row.add set) after
          | none =>
              match opening c with
              | .error f => .error f
              | .ok ((stretch, negated, inner), after) =>
                  readOn fuel (.opened row stretch negated :: around) inner after
      | ']' :: _, _ =>
          match closeOperand row.tree around with
          | (inner, .opened outer stretch negated :: around) =>
              let after := c.next
              let stretch : Stretch := ⟨stretch.start, after.offset⟩
              if around.isEmpty then .ok (.bracketed stretch negated inner, after)
              else readOn fuel around (outer.add (.bracketed stretch negated inner)) after
          | (_, around) => .error (unclosed around)
      | _, some operation =>
          let (left, around) := closeOperand row.tree around
          let after := c.next.next
          readOn fuel (.operand operation left :: around) (Row.start after) after
      | _, none =>
          match member around c with
          | .error f => .error f
          | .ok (m, after) => readOn fuel around (row.add m) after

def read (c : Cursor) : Reading Tree := readOn (c.rest.length + 1) [] (Row.start c) c

end Bracket

end ErrorWording.Pattern
