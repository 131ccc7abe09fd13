import Mathlib.Algebra.Ring.Nat
import ErrorWording.Proofs.Run

set_option autoImplicit false

namespace ErrorWording

structure Count where
  tally : Tally
  taken : List Nat
  refused : List Nat
deriving DecidableEq, Repr

namespace Count

def begun (t : Tally) : Count := ⟨t, [], []⟩

def add (c : Count) (errors : Nat) : Count :=
  match c.tally.record? errors with
  | some t => ⟨t, c.taken ++ [errors], c.refused⟩
  | none => ⟨c.tally, c.taken, c.refused ++ [errors]⟩

def addAll (c : Count) (numbers : List Nat) : Count :=
  numbers.foldl add c

end Count

inductive Use where
  | record (errors : Nat)
  | deliver (d : Destination)
deriving DecidableEq, Repr

structure Course where
  count : Count
  world : World
deriving DecidableEq, Repr

namespace Course

def use (c : Course) : Use → Course
  | .record errors => { c with count := c.count.add errors }
  | .deliver d => { c with world := (c.count.tally.deliver c.world d).1 }

def follow (c : Course) (uses : List Use) : Course :=
  uses.foldl use c

end Course

def Use.errors? : Use → Option Nat
  | .record errors => some errors
  | .deliver _ => none

theorem follow_count (c : Course) (uses : List Use) :
    (c.follow uses).count = c.count.addAll (uses.filterMap Use.errors?) := by
  induction uses generalizing c with
  | nil => rfl
  | cons step rest ih =>
      cases step with
      | record errors => exact ih (c.use (.record errors))
      | deliver d => exact ih (c.use (.deliver d))

namespace Count

theorem add_cases (c : Count) (errors : Nat) :
    (∃ t, t.total = c.tally.total + errors ∧ c.add errors = ⟨t, c.taken ++ [errors], c.refused⟩) ∨
      UInt64.size ≤ c.tally.total + errors ∧
        c.add errors = ⟨c.tally, c.taken, c.refused ++ [errors]⟩ := by
  rw [add]
  cases recorded : c.tally.record? errors with
  | some t =>
      exact .inl ⟨t, by simpa using recorded, rfl⟩
  | none => exact .inr ⟨(c.tally.record?_eq_none_iff errors).mp recorded, rfl⟩

structure Sound (t : Tally) (numbers : List Nat) (c : Count) : Prop where
  total : c.tally.total = t.total + c.taken.sum
  parted : (c.taken ++ c.refused).Perm numbers
  excess : c.refused ≠ [] → UInt64.size ≤ t.total + numbers.sum

theorem add_sound (t : Tally) (numbers : List Nat) (c : Count) (errors : Nat)
    (sound : Sound t numbers c) : Sound t (numbers ++ [errors]) (c.add errors) := by
  have sum : (numbers ++ [errors]).sum = numbers.sum + errors := by simp
  have parted := sound.parted.append_right [errors]
  cases c.add_cases errors with
  | inl fits =>
      obtain ⟨next, total, added⟩ := fits
      rw [added]
      refine ⟨?_, ?_, ?_⟩
      · have old := sound.total
        simp only [List.sum_append, List.sum_singleton]
        omega
      · refine List.Perm.trans ?_ parted
        rw [List.append_assoc, List.append_assoc]
        exact List.perm_append_comm.append_left c.taken
      · intro refused
        have old := sound.excess refused
        omega
  | inr large =>
      obtain ⟨excess, added⟩ := large
      rw [added]
      refine ⟨sound.total, ?_, ?_⟩
      · rw [← List.append_assoc]
        exact parted
      · intro _
        have old := sound.total
        have all := sound.parted.sum_nat
        rw [List.sum_append] at all
        omega

theorem add_all_sound (t : Tally) (numbers more : List Nat) (c : Count)
    (sound : Sound t numbers c) : Sound t (numbers ++ more) (c.addAll more) := by
  induction more generalizing numbers c with
  | nil => rwa [List.append_nil]
  | cons errors rest ih =>
      have next := ih (numbers ++ [errors]) (c.add errors) (add_sound t numbers c errors sound)
      rwa [List.append_assoc, List.singleton_append] at next

theorem begun_sound (t : Tally) (numbers : List Nat) :
    Sound t numbers ((begun t).addAll numbers) :=
  add_all_sound t [] numbers (begun t) ⟨rfl, List.Perm.refl [], fun refused => absurd rfl refused⟩

/-- Numbers are refused only where all of them together do not fit. -/
structure Faithful (start : Tally) (numbers : List Nat) (c : Count) : Prop where
  total : c.tally.total = start.total + c.taken.sum
  below : c.tally.total < UInt64.size
  parted : (c.taken ++ c.refused).Perm numbers
  overflows : c.refused ≠ [] ↔ UInt64.size ≤ start.total + numbers.sum

theorem sound_faithful (t : Tally) (numbers : List Nat) (c : Count) (sound : Sound t numbers c) :
    Faithful t numbers c := by
  refine ⟨sound.total, c.tally.total_lt, sound.parted, sound.excess, ?_⟩
  intro excess none
  have all := sound.parted.sum_nat
  rw [none, List.append_nil] at all
  have total := sound.total
  have below := c.tally.total_lt
  omega

theorem add_all_faithful (t : Tally) (numbers : List Nat) :
    Faithful t numbers ((begun t).addAll numbers) :=
  sound_faithful t numbers _ (begun_sound t numbers)

theorem faithful_refused_none (t : Tally) (numbers : List Nat) (c : Count)
    (faithful : Faithful t numbers c) :
    c.refused = [] ↔ t.total + numbers.sum < UInt64.size := by
  rw [← Nat.not_le, ← faithful.overflows, Classical.not_not]

theorem faithful_total (t : Tally) (numbers : List Nat) (c : Count)
    (faithful : Faithful t numbers c) (none : c.refused = []) :
    c.tally.total = t.total + numbers.sum := by
  have all := faithful.parted.sum_nat
  rw [none, List.append_nil] at all
  rw [faithful.total, all]

theorem add_all_total_le (c : Count) (numbers : List Nat) :
    c.tally.total ≤ (c.addAll numbers).tally.total := by
  induction numbers generalizing c with
  | nil => exact Nat.le_refl _
  | cons errors rest ih =>
      refine Nat.le_trans ?_ (ih (c.add errors))
      cases c.add_cases errors with
      | inl fits =>
          obtain ⟨next, total, added⟩ := fits
          rw [added]
          simp only
          omega
      | inr large =>
          obtain ⟨_, added⟩ := large
          exact Nat.le_of_eq (by rw [added])

end Count

structure Tally.Keeps (later earlier : Tally) : Prop where
  total : earlier.total ≤ later.total
  hasErrors : earlier.hasErrors = true → later.hasErrors = true
  exitCode : earlier.exitCode = 1 → later.exitCode = 1

theorem keeps_of_le (later earlier : Tally) (total : earlier.total ≤ later.total) :
    later.Keeps earlier := by
  have stays : earlier.hasErrors = true → later.hasErrors = true := by
    simp only [Tally.hasErrors, decide_eq_true_eq]
    omega
  refine ⟨total, stays, ?_⟩
  unfold Tally.exitCode
  cases had : earlier.hasErrors with
  | false =>
      intro none
      cases none
  | true => simp only [stays had, if_true, imp_self]

namespace Course

theorem follow_append (c : Course) (earlier later : List Use) :
    c.follow (earlier ++ later) = (c.follow earlier).follow later :=
  List.foldl_append

theorem follow_faithful (t : Tally) (world : World) (uses : List Use) :
    Count.Faithful t (uses.filterMap Use.errors?) (follow ⟨.begun t, world⟩ uses).count := by
  rw [follow_count]
  exact Count.add_all_faithful t _

theorem follow_keeps (c : Course) (earlier later : List Use) :
    (c.follow (earlier ++ later)).count.tally.Keeps (c.follow earlier).count.tally := by
  rw [follow_append, follow_count (c.follow earlier) later]
  exact keeps_of_le _ _ ((c.follow earlier).count.add_all_total_le _)

theorem follow_reordered (t : Tally) (world elsewhere : World) (uses others : List Use)
    (same : (others.filterMap Use.errors?).Perm (uses.filterMap Use.errors?)) :
    ((follow ⟨.begun t, elsewhere⟩ others).count.refused = [] ↔
        (follow ⟨.begun t, world⟩ uses).count.refused = []) ∧
      ((follow ⟨.begun t, world⟩ uses).count.refused = [] →
        (follow ⟨.begun t, elsewhere⟩ others).count.tally =
          (follow ⟨.begun t, world⟩ uses).count.tally) := by
  have one := follow_faithful t world uses
  have other := follow_faithful t elsewhere others
  have together : (follow ⟨.begun t, elsewhere⟩ others).count.refused = [] ↔
      (follow ⟨.begun t, world⟩ uses).count.refused = [] := by
    rw [Count.faithful_refused_none t _ _ one, Count.faithful_refused_none t _ _ other,
      same.sum_nat]
  refine ⟨together, ?_⟩
  intro none
  apply tally_eq
  rw [Count.faithful_total t _ _ other (together.mpr none), Count.faithful_total t _ _ one none,
    same.sum_nat]

theorem errors_never_hidden (t : Tally) (world : World) (uses : List Use) :
    (∀ earlier later, uses = earlier ++ later →
      (follow ⟨.begun t, world⟩ uses).count.tally.Keeps
        (follow ⟨.begun t, world⟩ earlier).count.tally) ∧
    Count.Faithful t (uses.filterMap Use.errors?) (follow ⟨.begun t, world⟩ uses).count ∧
    (∀ others elsewhere, (others.filterMap Use.errors?).Perm (uses.filterMap Use.errors?) →
      ((follow ⟨.begun t, elsewhere⟩ others).count.refused = [] ↔
          (follow ⟨.begun t, world⟩ uses).count.refused = []) ∧
        ((follow ⟨.begun t, world⟩ uses).count.refused = [] →
          (follow ⟨.begun t, elsewhere⟩ others).count.tally =
            (follow ⟨.begun t, world⟩ uses).count.tally)) ∧
    ∀ elsewhere, (follow ⟨.begun t, elsewhere⟩ ((uses.filterMap Use.errors?).map .record)).count =
      (follow ⟨.begun t, world⟩ uses).count := by
  refine ⟨?_, follow_faithful t world uses, ?_, ?_⟩
  · intro earlier later parts
    rw [parts]
    exact follow_keeps _ earlier later
  · intro others elsewhere same
    exact follow_reordered t world elsewhere uses others same
  · intro elsewhere
    have kept : ((uses.filterMap Use.errors?).map Use.record).filterMap Use.errors? =
        uses.filterMap Use.errors? := by
      rw [List.filterMap_map]
      exact List.filterMap_some
    rw [follow_count, follow_count, kept]

def nearlyFull : Tally := ⟨UInt64.size - 3, by decide⟩

theorem late_record_counted :
    (follow ⟨.begun nearlyFull, .fresh⟩ [.record 5, .deliver .output, .record 2]).count =
        ⟨⟨UInt64.size - 1, by decide⟩, [2], [5]⟩ ∧
      (follow ⟨.begun nearlyFull, .fresh⟩ [.record 2, .record 5]).count.refused ≠ [] ∧
      Tally.Keeps ⟨UInt64.size - 1, by decide⟩
        (follow ⟨.begun nearlyFull, .fresh⟩ [.record 5]).count.tally := by
  obtain ⟨keeps, _, reordered, _⟩ :=
    errors_never_hidden nearlyFull .fresh [.record 5, .deliver .output, .record 2]
  have counted : (follow ⟨.begun nearlyFull, .fresh⟩
      [.record 5, .deliver .output, .record 2]).count =
        ⟨⟨UInt64.size - 1, by decide⟩, [2], [5]⟩ := by decide +kernel
  rw [counted] at keeps reordered
  refine ⟨counted, ?_, keeps [.record 5] [.deliver .output, .record 2] rfl⟩
  intro none
  have same : List.Perm (([.record 2, .record 5] : List Use).filterMap Use.errors?)
      (([.record 5, .deliver .output, .record 2] : List Use).filterMap Use.errors?) := .swap 5 2 []
  exact absurd ((reordered _ .fresh same).1.mp none) (by decide)

end Course

end ErrorWording
