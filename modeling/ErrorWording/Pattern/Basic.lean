import ErrorWording.Pattern.Written

set_option autoImplicit false

namespace ErrorWording

inductive Pattern (α : Type) where
  | nothing
  | leaf (a : α)
  | captured (part : Pattern α)
  | sequence (first second : Pattern α)
  | either (left right : Pattern α)
  | repeated (part : Pattern α) (least : Nat) (most : Option Nat)
deriving DecidableEq, Repr

namespace Pattern

/-- A condition on a place in a text. Lines end at line feeds and, if `returns` says so, at carriage
returns. Words are made of ASCII alone if `ascii` says so. -/
inductive Condition where
  | textStart
  | textEnd
  | lineStart (returns : Bool)
  | lineEnd (returns : Bool)
  | edge (e : Edge) (ascii : Bool)
deriving DecidableEq, Repr

inductive Step where
  | one (set : CharSet)
  | at_ (condition : Condition)
deriving DecidableEq, Repr

variable {α β : Type}

def map (f : α → β) : Pattern α → Pattern β
  | .nothing => .nothing
  | .leaf a => .leaf (f a)
  | .captured p => .captured (p.map f)
  | .sequence p q => .sequence (p.map f) (q.map f)
  | .either p q => .either (p.map f) (q.map f)
  | .repeated p least most => .repeated (p.map f) least most

def joinPairs (join : α → α → α) : List α → List α → List α
  | joined, a :: b :: rest => joinPairs join (join a b :: joined) rest
  | joined, [a] => (a :: joined).reverse
  | joined, [] => joined.reverse

def joinAll (join : α → α → α) (unit : α) : Nat → List α → α
  | _, [] => unit
  | _, [a] => a
  | 0, a :: rest => rest.foldl join a
  -- In rounds of pairs the result is no deeper than it has to be.
  | rounds + 1, items => joinAll join unit rounds (joinPairs join [] items)

def isNothing : Pattern α → Bool
  | .nothing => true
  | _ => false

def inRow (parts : List (Pattern α)) : Pattern α :=
  let parts := parts.filter (!·.isNothing)
  joinAll .sequence .nothing parts.length parts

def isEmptyOnly : Pattern Step → Bool
  | .nothing => true
  | .leaf (.one _) => false
  | .leaf (.at_ _) => true
  | .captured p => p.isEmptyOnly
  | .sequence p q | .either p q => p.isEmptyOnly && q.isEmptyOnly
  | .repeated p _ most => most == some 0 || p.isEmptyOnly

def canBeEmpty : Pattern Step → Bool
  | .nothing => true
  | .leaf (.one _) => false
  | .leaf (.at_ _) => true
  | .captured p => p.canBeEmpty
  | .sequence p q => p.canBeEmpty && q.canBeEmpty
  | .either p q => p.canBeEmpty || q.canBeEmpty
  | .repeated p least _ => least == 0 || p.canBeEmpty

def setsOf? (branches : List (Pattern Step)) : Option (List CharSet) :=
  branches.mapM fun p =>
    match p with
    | .leaf (.one set) => some set
    | _ => none

def oneOf (branches : List (Pattern Step)) : Pattern Step :=
  match setsOf? branches with
  | some (set :: sets) => .leaf (.one (.unionAll (set :: sets)))
  | _ => joinAll .either .nothing branches.length branches

def times (p : Pattern Step) (least : Nat) (most : Option Nat) : Pattern Step :=
  let least' := if p.isEmptyOnly then min least 1 else least
  let most' := if p.isEmptyOnly then some (min (most.getD 1) 1) else most
  if least' = 0 ∧ most' = some 0 then .nothing
  else if least' = 1 ∧ most' = some 1 then p
  else .repeated p least' most'

end Pattern

end ErrorWording
