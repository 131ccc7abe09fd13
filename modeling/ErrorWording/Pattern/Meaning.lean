import ErrorWording.Character.Folding
import ErrorWording.Pattern.Basic

set_option autoImplicit false

namespace ErrorWording.Pattern

structure Manner where
  caseless : Bool
  multiLine : Bool
  dotAll : Bool
  unicode : Bool
  returns : Bool
deriving DecidableEq, Repr

namespace Manner

def standard : Manner := ⟨false, false, false, true, false⟩

def changed (m : Manner) (changes : FlagChanges) : Manner :=
  { caseless := changes.apply .caseless m.caseless
    multiLine := changes.apply .multiLine m.multiLine
    dotAll := changes.apply .dotAll m.dotAll
    unicode := changes.apply .unicode m.unicode
    returns := changes.apply .returns m.returns }

def fold (m : Manner) (s : CharSet) : CharSet :=
  if m.caseless then (if m.unicode then s.folded else s.asciiFolded) else s

def negate (m : Manner) (stretch : Stretch) (negated : Bool) (s : CharSet) :
    Except Flaw CharSet :=
  if !negated then .ok s
  else if m.unicode then .ok s.complement
  -- Without Unicode the complement would have bytes that are no text.
  else .error ⟨.noText, stretch, none⟩

def finish (m : Manner) (stretch : Stretch) (negated : Bool) (s : CharSet) :
    Except Flaw CharSet :=
  m.negate stretch negated (m.fold s)

def shorthandSet (m : Manner) : Shorthand → CharSet
  | .digit => if m.unicode then .digit else .between '0' '9'
  | .blank => if m.unicode then .blank else .ofList ['\t', '\n', '\x0B', '\x0C', '\r', ' ']
  | .word =>
      if m.unicode then .word
      else .unionAll [.between '0' '9', .between 'A' 'Z', .only '_', .between 'a' 'z']

def shorthand (m : Manner) (stretch : Stretch) (kind : Shorthand) (negated : Bool) :
    Except Flaw CharSet :=
  m.negate stretch negated (m.shorthandSet kind)

def property (m : Manner) (stretch : Stretch) (query : PropertyQuery) (negated : Bool) :
    Except Flaw CharSet :=
  if !m.unicode then .error ⟨.beyondAscii, stretch, none⟩
  else
    match query.set with
    | .ok s => m.finish stretch negated s
    | .error .unknownProperty => .error ⟨.unknownProperty, stretch, none⟩
    | .error .unknownValue => .error ⟨.unknownPropertyValue, stretch, none⟩

def member (m : Manner) (l : Literal) : Except Flaw Char :=
  if m.unicode || l.char.toNat < 0x80 then .ok l.char
  else .error ⟨if l.asByte then .noText else .beyondAscii, l.stretch, none⟩

def literal (m : Manner) (l : Literal) : Except Flaw CharSet :=
  if !m.unicode && l.asByte && 0x80 ≤ l.char.toNat then .error ⟨.noText, l.stretch, none⟩
  else .ok (m.fold (.only l.char))

def dot (m : Manner) (stretch : Stretch) : Except Flaw CharSet :=
  if !m.unicode then .error ⟨.noText, stretch, none⟩
  else if m.dotAll then .ok .any
  else .ok (CharSet.complement (.ofList (if m.returns then ['\n', '\r'] else ['\n'])))

def condition (m : Manner) : Anchor → Condition
  | .lineStart => if m.multiLine then .lineStart m.returns else .textStart
  | .lineEnd => if m.multiLine then .lineEnd m.returns else .textEnd
  | .textStart => .textStart
  | .textEnd => .textEnd
  | .edge e => .edge e !m.unicode

end Manner

namespace ClassTree

mutual

def members (m : Manner) : ClassTree → Except Flaw CharSet
  | .literal l => (m.member l).map .only
  | .range _ low high =>
      match m.member low, m.member high with
      | .ok low, .ok high => .ok (.between low high)
      | .error f, _ => .error f
      | _, .error f => .error f
  | .asciiClass s negated set => m.finish s negated set
  | .shorthand s kind negated => m.shorthand s kind negated
  | .property s query negated => m.property s query negated
  | .bracketed s negated inner =>
      match members m inner with
      | .ok set => m.finish s negated set
      | .error f => .error f
  | .union _ items => unionOfMembers m items []
  | .combined _ operation left right =>
      match members m left, members m right with
      | .ok left, .ok right =>
          let left := m.fold left
          let right := m.fold right
          match operation with
          | .intersection => .ok (left.intersection right)
          | .difference => .ok (left.difference right)
          | .symmetricDifference => .ok (left.symmetricDifference right)
      | .error f, _ => .error f
      | _, .error f => .error f

def unionOfMembers (m : Manner) : List ClassTree → List CharSet → Except Flaw CharSet
  | [], sets => .ok (.unionAll sets)
  | item :: rest, sets =>
      match members m item with
      | .ok set => unionOfMembers m rest (set :: sets)
      | .error f => .error f

end

end ClassTree

namespace Tree

def oneMember (m : Manner) (set : Except Flaw CharSet) : Except Flaw (Pattern Step × Manner) :=
  set.map fun set => (.leaf (.one set), m)

mutual

def meaning (m : Manner) : Tree → Except Flaw (Pattern Step × Manner)
  | .empty _ => .ok (.nothing, m)
  | .flags _ changes => .ok (.nothing, m.changed changes)
  | .literal l => oneMember m (m.literal l)
  | .dot s => oneMember m (m.dot s)
  | .anchor _ a => .ok (.leaf (.at_ (m.condition a)), m)
  | .shorthand s kind negated => oneMember m (m.shorthand s kind negated)
  | .property s query negated => oneMember m (m.property s query negated)
  | .bracketed s negated inner =>
      match inner.members m with
      | .ok set => oneMember m (m.finish s negated set)
      | .error f => .error f
  | .repetition _ part least most =>
      match meaning m part with
      | .ok (p, m) => .ok (p.times least most, m)
      | .error f => .error f
  | .group _ kept changes part =>
      match meaning (m.changed changes) part with
      | .ok (p, _) => .ok (if kept then .captured p else p, m)
      | .error f => .error f
  | .concatenation _ parts =>
      match meanings m parts [] with
      | .ok (parts, m) => .ok (.inRow parts, m)
      | .error f => .error f
  | .alternation _ branches =>
      match meanings m branches [] with
      | .ok (branches, m) => .ok (.oneOf branches, m)
      | .error f => .error f

def meanings (m : Manner) :
    List Tree → List (Pattern Step) → Except Flaw (List (Pattern Step) × Manner)
  | [], done => .ok (done.reverse, m)
  | part :: rest, done =>
      match meaning m part with
      | .ok (p, m) => meanings m rest (p :: done)
      | .error f => .error f

end

end Tree

end ErrorWording.Pattern
