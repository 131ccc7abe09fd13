import ErrorWording.Pattern.Basic

set_option autoImplicit false

namespace ErrorWording.Pattern

abbrev Places := Nat

inductive Move where
  | stay (places : Places)
  | pass (places : Places)
deriving DecidableEq, Repr

structure Place where
  before : Option Char
  after : Option Char
deriving DecidableEq, Repr

namespace Place

def allFrom (before : Option Char) (found : List Place) : List Char → List Place
  | [] => (⟨before, none⟩ :: found).reverse
  | c :: rest => allFrom (some c) (⟨before, some c⟩ :: found) rest

def isWord (ascii : Bool) (c : Char) : Bool :=
  if ascii then c.isAlphanum || c == '_' else CharSet.word.contains c

def isAtEdge (e : Edge) (before after : Bool) : Bool :=
  match e with
  | .either => before != after
  | .none => before == after
  | .start => !before && after
  | .stop => before && !after
  | .startHalf => !before
  | .stopHalf => !after

def meets (p : Place) : Condition → Bool
  | .textStart => p.before.isNone
  | .textEnd => p.after.isNone
  | .lineStart returns =>
      p.before.all fun c => c == '\n' || (returns && c == '\r' && p.after != some '\n')
  | .lineEnd returns =>
      p.after.all fun c =>
        if returns then c == '\r' || (c == '\n' && p.before != some '\r') else c == '\n'
  | .edge e ascii => isAtEdge e (p.before.any (isWord ascii)) (p.after.any (isWord ascii))

end Place

def placesWhere (accept : Place → Bool) (places : List Place) : Places :=
  places.reverse.foldl (fun bits p => 2 * bits + (accept p).toNat) 0

def Step.move (places : List Place) : Step → Move
  | .one set => .pass (placesWhere (fun p => p.after.any set.contains) places)
  | .at_ condition => .stay (placesWhere (·.meets condition) places)

inductive Memory where
  | fresh
  | both (first second : Memory)
  | loop (seen : Places) (body : Memory)

namespace Memory

def first : Memory → Memory
  | .both m _ => m
  | _ => .fresh

def second : Memory → Memory
  | .both _ m => m
  | _ => .fresh

def seen : Memory → Places
  | .loop places _ => places
  | _ => 0

def body : Memory → Memory
  | .loop _ m => m
  | _ => .fresh

end Memory

abbrev Walk := Memory → Places → Places × Memory

def walkTimes (walk : Walk) : Nat → Walk
  | 0, m, starts => (starts, m)
  | count + 1, m, starts =>
      if starts = 0 then (0, m)
      else
        let (ends, first) := walk m.first starts
        let (ends, second) := walkTimes walk count m.second ends
        (ends, .both first second)

def walkUpTo (walk : Walk) : Nat → Walk
  | 0, m, starts => (starts, m)
  | count + 1, m, starts =>
      if starts = 0 then (0, m)
      else
        let (ends, first) := walk m.first starts
        let (ends, second) := walkUpTo walk count m.second ends
        (starts ||| ends, .both first second)

def walkOn (walk : Walk) : Nat → Walk
  | 0, m, _ => (0, m)
  | rounds + 1, m, starts =>
      let fresh := starts ^^^ (starts &&& m.seen)
      if fresh = 0 then (0, m)
      else
        let (ends, body) := walk m.body fresh
        let (later, m) := walkOn walk rounds (.loop (m.seen ||| fresh) body) ends
        (fresh ||| later, m)

def walk (count : Nat) : Pattern Move → Walk
  | .nothing, m, starts => (starts, m)
  | .leaf (.stay places), m, starts => (starts &&& places, m)
  | .leaf (.pass places), m, starts => ((starts &&& places) <<< 1, m)
  | .captured p, m, starts => walk count p m starts
  | .sequence p q, m, starts =>
      if starts = 0 then (0, m)
      else
        let (ends, first) := walk count p m.first starts
        let (ends, second) := walk count q m.second ends
        (ends, .both first second)
  | .either p q, m, starts =>
      if starts = 0 then (0, m)
      else
        let (left, first) := walk count p m.first starts
        let (right, second) := walk count q m.second starts
        (left ||| right, .both first second)
  | .repeated p least most, m, starts =>
      -- Repeating more often than there are places changes nothing: some round then stays
      -- where it is, and may as well be left out.
      let (ends, first) := walkTimes (walk count p) (min least count) m.first starts
      let (ends, second) :=
        match most with
        | none => walkOn (walk count p) (count + 1) m.second ends
        | some most => walkUpTo (walk count p) (min (most - least) count) m.second ends
      (ends, .both first second)

def occursIn (p : Pattern Step) (text : String) : Bool :=
  let places := Place.allFrom none [] text.toList
  let all : Places := (1 <<< places.length) - 1
  (walk places.length (p.map (·.move places)) .fresh all).1 != 0

end ErrorWording.Pattern
