import ErrorWording.Command.Switch

set_option autoImplicit false

namespace ErrorWording.Similarity

def window (a b : List Char) : Nat :=
  max a.length b.length / 2 - 1

def occupy (c : Char) (low high : Nat) : Nat → List (Char × Bool) → Option (List (Char × Bool))
  | _, [] => none
  | place, (d, taken) :: rest =>
      if high ≤ place then none
      else if low ≤ place ∧ c = d ∧ taken = false then some ((d, true) :: rest)
      else (occupy c low high (place + 1) rest).map ((d, taken) :: ·)

/-- Pairs the characters of a word, in order, with free places of the other. The result has the
characters that found a place, and the places. -/
def pairUp (window : Nat) : Nat → List Char → List (Char × Bool) →
    List Char × List (Char × Bool)
  | _, [], places => ([], places)
  | i, c :: rest, places =>
      match occupy c (i - window) (i + window + 1) 0 places with
      | none => pairUp window (i + 1) rest places
      | some places =>
          let (paired, places) := pairUp window (i + 1) rest places
          (c :: paired, places)

def misplaced (a b : List Char) : Nat :=
  ((a.zip b).filter fun (c, d) => c != d).length

def jaro (a b : List Char) : Float :=
  match a, b with
  | [], [] => 1.0
  | [], _ :: _ => 0.0
  | _ :: _, [] => 0.0
  | _ :: _, _ :: _ =>
      let (paired, places) := pairUp (window a b) 0 a (b.map (·, false))
      let places := (places.filter (·.2)).map (·.1)
      let common := paired.length
      if common = 0 then 0.0
      else
        let inOrder := common - misplaced paired places / 2
        -- Rounded at each step as doubles are.
        (common.toFloat / a.length.toFloat + common.toFloat / b.length.toFloat +
          inOrder.toFloat / common.toFloat) / 3.0

def threshold : Float := 0.7

def suggest? (given : List Char) : Option Switch :=
  let scored := Switch.all.map fun s => (s, jaro given s.name.toList)
  let best := (scored.filter fun (_, score) => score > threshold).foldl
    (fun best (s, score) =>
      match best with
      | none => some (s, score)
      -- Of equals the last counts.
      | some (t, top) => if top ≤ score then some (s, score) else some (t, top))
    none
  best.map (·.1)

end ErrorWording.Similarity
