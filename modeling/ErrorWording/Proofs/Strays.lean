import ErrorWording.Proofs.Place

set_option autoImplicit false

namespace ErrorWording.Store

structure Sought (name : Name) : Prop where
  moves : ¬ (name = [] ∨ name = dot)
  descends : name ≠ dots
  fits : ¬ Path.nameLimit < name.length

/-- Followed from a directory, with so many links left, the names meet one that is not there. -/
inductive Strays (s : Store) : Nat → Location → List Name → Prop where
  | absent (links : Nat) (dir : Location) (name : Name) (rest : List Name) (sought : Sought name)
      (free : s.lookup (dir ++ [name]) = none) : Strays s links dir (name :: rest)
  | idle (links : Nat) (dir : Location) (name : Name) (rest : List Name)
      (still : name = [] ∨ name = dot) (later : Strays s links dir rest) :
      Strays s links dir (name :: rest)
  | up (links : Nat) (dir : Location) (rest : List Name)
      (later : Strays s links dir.dropLast rest) : Strays s links dir (dots :: rest)
  | inside (links : Nat) (dir : Location) (name : Name) (rest : List Name) (sought : Sought name)
      (held : s.lookup (dir ++ [name]) = some .directory)
      (later : Strays s links (dir ++ [name]) rest) : Strays s links dir (name :: rest)
  | link (links : Nat) (dir : Location) (name : Name) (rest : List Name) (target : Path)
      (sought : Sought name) (held : s.lookup (dir ++ [name]) = some (.link target))
      (later : Strays s links (if target.isAbsolute then [] else dir) (target.names ++ rest)) :
      Strays s (links + 1) dir (name :: rest)

def Lost : Except Fault Target → Prop
  | .error f => f.kind = .notFound
  | .ok (.free _) => True
  | .ok _ => False

def following (s : Store) : Nat → Location → List Name → Except Fault Target
  | 0 => fun _ _ => .error .linkLoop
  | links + 1 => s.walk .reading links

theorem walk_descend (s : Store) (links : Nat) (dir : Location) (names : List Name) :
    s.walk .reading links dir names = s.descend .reading (s.following links) dir names := by
  cases links <;> rfl

theorem walk_idle (s : Store) (links : Nat) (dir : Location) (name : Name) (rest : List Name)
    (still : name = [] ∨ name = dot) :
    s.walk .reading links dir (name :: rest) = s.walk .reading links dir rest := by
  rw [walk_descend, walk_descend, descend, if_neg (by simp), if_pos still]

theorem walk_up (s : Store) (links : Nat) (dir : Location) (rest : List Name) :
    s.walk .reading links dir (dots :: rest) = s.walk .reading links dir.dropLast rest := by
  rw [walk_descend, walk_descend, descend, if_neg (by simp), if_neg (by decide), if_pos rfl]

theorem walk_sought (s : Store) (links : Nat) (dir : Location) (name : Name) (rest : List Name)
    (sought : Sought name) :
    s.walk .reading links dir (name :: rest) =
      s.meet .reading (s.following links) dir name rest := by
  rw [walk_descend, descend, if_neg (by simp), if_neg sought.moves, if_neg sought.descends,
    if_neg sought.fits]
  rfl

theorem strays_lost (s : Store) (links : Nat) (dir : Location) (names : List Name)
    (strays : Strays s links dir names) : Lost (s.walk .reading links dir names) := by
  induction strays with
  | absent links dir name rest sought free =>
      rw [walk_sought s links dir name rest sought, meet, free]
      by_cases last : rest = []
      · simp only [last, if_true, Lost]
      · simp only [last, if_false, Lost]
        rfl
  | idle links dir name rest still later ih => rwa [walk_idle s links dir name rest still]
  | up links dir rest later ih => rwa [walk_up]
  | inside links dir name rest sought held later ih =>
      rw [walk_sought s links dir name rest sought, meet, held]
      rwa [walk_descend] at ih
  | link links dir name rest target sought held later ih =>
      rw [walk_sought s (links + 1) dir name rest sought, meet, held]
      exact ih

theorem end_not_lost (rest : List Name) (t : Target) (held : ¬ Lost (.ok t)) :
    ¬ Lost (if rest = [] then .ok t else .error .notADirectory) := by
  by_cases last : rest = []
  · rwa [if_pos last]
  · rw [if_neg last]
    intro lost
    cases lost

theorem lost_strays_below (s : Store) (links : Nat)
    (jump : ∀ dir names, Lost (s.following links dir names) →
      ∃ fewer, links = fewer + 1 ∧ Strays s fewer dir names)
    (names : List Name) (dir : Location) (lost : Lost (s.walk .reading links dir names)) :
    Strays s links dir names := by
  -- The paths that go on behind a link are `jump`'s, so the induction is on the names alone.
  induction names generalizing dir with
  | nil =>
      rw [walk_descend] at lost
      exact lost.elim
  | cons name rest ih =>
      by_cases still : name = [] ∨ name = dot
      · rw [walk_idle s links dir name rest still] at lost
        exact .idle links dir name rest still (ih dir lost)
      by_cases up : name = dots
      · rw [up, walk_up] at lost
        exact up ▸ .up links dir rest (ih dir.dropLast lost)
      by_cases long : Path.nameLimit < name.length
      · rw [walk_descend, descend, if_neg (by simp), if_neg still, if_neg up, if_pos long] at lost
        cases lost
      have sought : Sought name := ⟨still, up, long⟩
      rw [walk_sought s links dir name rest sought, meet] at lost
      cases held : s.lookup (dir ++ [name]) with
      | none => exact .absent links dir name rest sought held
      | some e =>
          rw [held] at lost
          cases e with
          | directory =>
              refine .inside links dir name rest sought held (ih (dir ++ [name]) ?_)
              rwa [walk_descend]
          | link target =>
              obtain ⟨fewer, rfl, later⟩ := jump _ _ lost
              exact .link fewer dir name rest target sought held later
          | file content => exact (end_not_lost rest (.file (dir ++ [name]) content) id lost).elim
          | device d => exact (end_not_lost rest (.device d) id lost).elim

theorem lost_strays (s : Store) (links : Nat) (names : List Name) (dir : Location)
    (lost : Lost (s.walk .reading links dir names)) : Strays s links dir names := by
  induction links generalizing names dir with
  | zero =>
      refine s.lost_strays_below 0 ?_ names dir lost
      intro _ _ stuck
      cases stuck
  | succ links ih =>
      refine s.lost_strays_below (links + 1) ?_ names dir lost
      intro dir names stuck
      exact ⟨links, rfl, ih names dir stuck⟩

theorem fault_empty_iff (p : Path) (f : Fault) (unfit : p.fault? = some f) :
    f.kind = .notFound ↔ p.bytes = [] := by
  rw [Path.fault?] at unfit
  by_cases nul : 0 ∈ p.bytes
  · rw [if_pos nul, Option.some.injEq] at unfit
    have present : p.bytes ≠ [] := List.ne_nil_of_mem nul
    rw [← unfit]
    exact iff_of_false (by decide) present
  rw [if_neg nul] at unfit
  by_cases empty : p.bytes = []
  · rw [if_pos empty, Option.some.injEq] at unfit
    rw [← unfit]
    exact iff_of_true rfl empty
  rw [if_neg empty] at unfit
  by_cases long : Path.lengthBound ≤ p.bytes.length
  · rw [if_pos long, Option.some.injEq] at unfit
    rw [← unfit]
    exact iff_of_false (by decide) empty
  · rw [if_neg long] at unfit
    cases unfit

/-- There is nothing at the path: it is empty, or can be followed and strays. -/
def Lacks (s : Store) (p : Path) : Prop :=
  p.bytes = [] ∨
    p.fault? = none ∧ Strays s Path.linkLimit (if p.isAbsolute then [] else s.here) p.names

theorem lost_iff (s : Store) (p : Path) : Lost (s.resolve .reading p) ↔ Lacks s p := by
  rw [resolve, Lacks]
  cases unfit : p.fault? with
  | some f =>
      simp only [reduceCtorEq, false_and, or_false]
      exact fault_empty_iff p f unfit
  | none =>
      have present : p.bytes ≠ [] := by
        intro empty
        simp [Path.fault?, empty] at unfit
      simp only [present, true_and, false_or]
      exact ⟨s.lost_strays _ _ _, s.strays_lost _ _ _⟩

theorem read_missing_iff (s : Store) (p : Path) :
    (∃ f, s.read p = .error f ∧ f.kind = .notFound) ↔ Lacks s p := by
  rw [← lost_iff, read]
  cases led : s.resolve .reading p with
  | error f => simp [Lost]
  | ok target =>
      cases target with
      | file l content => simp [Lost]
      | directory l => simp [Lost]
      | device d => cases d <;> simp [Lost]
      | free l =>
          simp only [Lost, iff_true]
          exact ⟨_, rfl, rfl⟩

end ErrorWording.Store
