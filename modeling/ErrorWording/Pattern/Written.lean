import ErrorWording.Character.Lookup
import ErrorWording.Pattern.Flaw

set_option autoImplicit false

namespace ErrorWording.Pattern

inductive Flag where
  | caseless
  | multiLine
  | dotAll
  | swapGreed
  | unicode
  | returns
  | loose
deriving DecidableEq, Repr

def Flag.ofLetter? (c : Char) : Option Flag :=
  match c with
  | 'i' => some .caseless
  | 'm' => some .multiLine
  | 's' => some .dotAll
  | 'U' => some .swapGreed
  | 'u' => some .unicode
  | 'R' => some .returns
  | 'x' => some .loose
  | _ => none

abbrev FlagChanges := List (Flag × Bool)

def FlagChanges.apply (changes : FlagChanges) (flag : Flag) (value : Bool) : Bool :=
  ((changes.find? (·.1 == flag)).map (·.2)).getD value

/-- A character that stands for itself. One written with two hexadecimal digits may be a byte. -/
structure Literal where
  stretch : Stretch
  char : Char
  asByte : Bool
deriving DecidableEq, Repr

inductive Shorthand where
  | digit
  | blank
  | word
deriving DecidableEq, Repr

inductive Edge where
  | either
  | none
  | start
  | stop
  | startHalf
  | stopHalf
deriving DecidableEq, Repr

inductive Anchor where
  | lineStart
  | lineEnd
  | textStart
  | textEnd
  | edge (e : Edge)
deriving DecidableEq, Repr

inductive SetOperation where
  | intersection
  | difference
  | symmetricDifference
deriving DecidableEq, Repr

inductive ClassTree where
  | literal (l : Literal)
  | range (stretch : Stretch) (low high : Literal)
  | asciiClass (stretch : Stretch) (negated : Bool) (set : CharSet)
  | shorthand (stretch : Stretch) (kind : Shorthand) (negated : Bool)
  | property (stretch : Stretch) (query : PropertyQuery) (negated : Bool)
  | bracketed (stretch : Stretch) (negated : Bool) (inner : ClassTree)
  | union (stretch : Stretch) (items : List ClassTree)
  | combined (stretch : Stretch) (operation : SetOperation) (left right : ClassTree)

inductive Tree where
  | empty (stretch : Stretch)
  | flags (stretch : Stretch) (changes : FlagChanges)
  | literal (l : Literal)
  | dot (stretch : Stretch)
  | anchor (stretch : Stretch) (a : Anchor)
  | shorthand (stretch : Stretch) (kind : Shorthand) (negated : Bool)
  | property (stretch : Stretch) (query : PropertyQuery) (negated : Bool)
  | bracketed (stretch : Stretch) (negated : Bool) (inner : ClassTree)
  | repetition (stretch : Stretch) (part : Tree) (least : Nat) (most : Option Nat)
  | group (stretch : Stretch) (captured : Bool) (changes : FlagChanges) (part : Tree)
  | concatenation (stretch : Stretch) (parts : List Tree)
  | alternation (stretch : Stretch) (branches : List Tree)

namespace ClassTree

def stretch : ClassTree → Stretch
  | .literal l => l.stretch
  | .range s _ _ | .asciiClass s _ _ | .shorthand s _ _ | .property s _ _ | .bracketed s _ _
  | .union s _ | .combined s _ _ _ => s

mutual

def beyond? (depth : Nat) : ClassTree → Option Stretch
  | .bracketed s _ inner =>
      match depth with
      | 0 => some s
      | depth + 1 => beyond? depth inner
  | .combined s _ left right =>
      match depth with
      | 0 => some s
      | depth + 1 => (beyond? depth left).or (beyond? depth right)
  | .union s items =>
      match items with
      | [] => none
      | [item] => beyond? depth item
      | items =>
          match depth with
          | 0 => some s
          | depth + 1 => anyBeyond? depth items
  | _ => none

def anyBeyond? (depth : Nat) : List ClassTree → Option Stretch
  | [] => none
  | item :: rest =>
      match beyond? depth item with
      | some s => some s
      | none => anyBeyond? depth rest

end

end ClassTree

namespace Tree

def stretch : Tree → Stretch
  | .literal l => l.stretch
  | .empty s | .flags s _ | .dot s | .anchor s _ | .shorthand s _ _ | .property s _ _
  | .bracketed s _ _ | .repetition s _ _ _ | .group s _ _ _ | .concatenation s _
  | .alternation s _ => s

mutual

def beyond? (depth : Nat) : Tree → Option Stretch
  | .bracketed s _ inner =>
      match depth with
      | 0 => some s
      | depth + 1 => inner.beyond? depth
  | .repetition s part _ _ | .group s _ _ part =>
      match depth with
      | 0 => some s
      | depth + 1 => beyond? depth part
  | .concatenation s parts | .alternation s parts =>
      match depth with
      | 0 => some s
      | depth + 1 => anyBeyond? depth parts
  | _ => none

def anyBeyond? (depth : Nat) : List Tree → Option Stretch
  | [] => none
  | part :: rest =>
      match beyond? depth part with
      | some s => some s
      | none => anyBeyond? depth rest

end

def ofParts (stretch : Stretch) (parts : List Tree) : Tree :=
  match parts with
  | [] => .empty stretch
  | [part] => part
  | parts => .concatenation stretch parts.reverse

end Tree

end ErrorWording.Pattern
