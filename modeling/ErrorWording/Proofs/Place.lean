import ErrorWording.Store.Access

set_option autoImplicit false

namespace ErrorWording.Store

def meet (s : Store) (purpose : Purpose) (follow : Location → List Name → Except Fault Target)
    (dir : Location) (name : Name) (rest : List Name) : Except Fault Target :=
  match s.lookup (dir ++ [name]) with
  | none => if rest = [] then .ok (.free (dir ++ [name])) else .error .missingEntry
  | some .directory => s.descend purpose follow (dir ++ [name]) rest
  | some (.link target) => follow (if target.isAbsolute then [] else dir) (target.names ++ rest)
  | some (.file content) =>
      if rest = [] then .ok (.file (dir ++ [name]) content) else .error .notADirectory
  | some (.device d) => if rest = [] then .ok (.device d) else .error .notADirectory

theorem descend_cases (purpose : Purpose) (dir : Location) (name : Name) (rest : List Name) :
    (∃ f, ∀ (s : Store) follow, s.descend purpose follow dir (name :: rest) = .error f) ∨
      (∃ next, ∀ (s : Store) follow,
        s.descend purpose follow dir (name :: rest) = s.descend purpose follow next rest ∧
        s.descend .reading follow dir (name :: rest) = s.descend .reading follow next rest) ∨
      ∀ (s : Store) follow,
        s.descend purpose follow dir (name :: rest) = s.meet purpose follow dir name rest ∧
        s.descend .reading follow dir (name :: rest) = s.meet .reading follow dir name rest := by
  have unclosed : ¬ (Purpose.reading = .adding ∧ rest = [[]]) := by simp
  by_cases closed : purpose = .adding ∧ rest = [[]]
  · exact .inl ⟨_, fun s follow => by rw [descend, if_pos closed]⟩
  by_cases idle : name = [] ∨ name = dot
  · refine .inr (.inl ⟨dir, fun s follow => ⟨?_, ?_⟩⟩)
    · rw [descend, if_neg closed, if_pos idle]
    · rw [descend, if_neg unclosed, if_pos idle]
  by_cases up : name = dots
  · refine .inr (.inl ⟨dir.dropLast, fun s follow => ⟨?_, ?_⟩⟩)
    · rw [descend, if_neg closed, if_neg idle, if_pos up]
    · rw [descend, if_neg unclosed, if_neg idle, if_pos up]
  by_cases long : Path.nameLimit < name.length
  · exact .inl ⟨_, fun s follow => by
      rw [descend, if_neg closed, if_neg idle, if_neg up, if_pos long]⟩
  · refine .inr (.inr fun s follow => ⟨?_, ?_⟩)
    · rw [descend, if_neg closed, if_neg idle, if_neg up, if_neg long]
      rfl
    · rw [descend, if_neg unclosed, if_neg idle, if_neg up, if_neg long]
      rfl

def Leads (l : Location) : Except Fault Target → Prop
  | .ok (.file k _) => k = l
  | .ok (.free k) => k = l
  | _ => False

def Stands (s : Store) : Except Fault Target → Prop
  | .ok (.file l content) => s.lookup l = some (.file content)
  | .ok (.free l) => s.lookup l = none
  | _ => True

theorem below_root (s : Store) (l : Location) (e : Option Entry) (held : s.lookup l = e)
    (other : e ≠ some .directory) : l ≠ [] := by
  intro root
  rw [root, lookup_root] at held
  exact other held.symm

theorem descend_stands (s : Store) (purpose : Purpose)
    (follow : Location → List Name → Except Fault Target)
    (jump : ∀ dir names, s.Stands (follow dir names)) (names : List Name) (dir : Location) :
    s.Stands (s.descend purpose follow dir names) := by
  induction names generalizing dir with
  | nil => trivial
  | cons name rest ih =>
      rcases descend_cases purpose dir name rest with ⟨f, fails⟩ | ⟨next, moves⟩ | meets
      · rw [fails]
        trivial
      · rw [(moves s follow).1]
        exact ih next
      · rw [(meets s follow).1, meet]
        cases found : s.lookup (dir ++ [name]) with
        | none => by_cases last : rest = [] <;> simp [last, Stands, found]
        | some e =>
            cases e with
            | file content => by_cases last : rest = [] <;> simp [last, Stands, found]
            | directory => exact ih (dir ++ [name])
            | link target => exact jump _ _
            | device d => by_cases last : rest = [] <;> simp [last, Stands]

theorem walk_stands (s : Store) (purpose : Purpose) (links : Nat) (dir : Location)
    (names : List Name) : s.Stands (s.walk purpose links dir names) := by
  induction links generalizing dir names with
  | zero => exact s.descend_stands purpose _ (by simp [Stands]) names dir
  | succ links ih => exact s.descend_stands purpose _ ih names dir

theorem resolve_stands (s : Store) (purpose : Purpose) (p : Path) :
    s.Stands (s.resolve purpose p) := by
  unfold resolve
  cases p.fault? with
  | some f => trivial
  | none => exact s.walk_stands purpose _ _ _

theorem descend_reading (s : Store) (follow follow' : Location → List Name → Except Fault Target)
    (jump : ∀ dir names t, follow dir names = .ok t → follow' dir names = .ok t)
    (names : List Name) (dir : Location) (t : Target)
    (found : s.descend .adding follow dir names = .ok t) :
    s.descend .reading follow' dir names = .ok t := by
  induction names generalizing dir with
  | nil => exact found
  | cons name rest ih =>
      rcases descend_cases .adding dir name rest with ⟨f, fails⟩ | ⟨next, moves⟩ | meets
      · rw [fails] at found
        cases found
      · rw [(moves s follow).1] at found
        rw [(moves s follow').2]
        exact ih next found
      · rw [(meets s follow).1, meet] at found
        rw [(meets s follow').2, meet]
        cases there : s.lookup (dir ++ [name]) with
        | none => simpa only [there] using found
        | some e =>
            rw [there] at found
            cases e with
            | file content => exact found
            | directory => exact ih (dir ++ [name]) found
            | link target => exact jump _ _ t found
            | device d => exact found

theorem walk_reading (s : Store) (links : Nat) (dir : Location) (names : List Name) (t : Target)
    (found : s.walk .adding links dir names = .ok t) : s.walk .reading links dir names = .ok t := by
  induction links generalizing dir names t with
  | zero => exact s.descend_reading _ _ (fun _ _ _ absurd => absurd) names dir t found
  | succ links ih => exact s.descend_reading _ _ ih names dir t found

theorem resolve_reading (s : Store) (p : Path) (t : Target)
    (found : s.resolve .adding p = .ok t) : s.resolve .reading p = .ok t := by
  unfold resolve at found ⊢
  cases lacking : p.fault? with
  | some f => simp [lacking] at found
  | none =>
      rw [lacking] at found
      exact s.walk_reading _ _ _ t found

structure Rewritten (s after : Store) (l : Location) (content : Bytes) : Prop where
  here : after.here = s.here
  filled : after.lookup l = some (.file content)
  others : ∀ k, k ≠ l → after.lookup k = s.lookup k

def HoldsFile (s : Store) (l : Location) : Prop :=
  ∃ content, s.lookup l = some (.file content)

/-- The outcomes of following one path, in a store and when the file at `l` was rewritten. If there
was no file before, a path through `l` meets another fault than before. -/
structure Follows (l : Location) (content : Bytes) (held : Prop)
    (before after : Except Fault Target) : Prop where
  reached : Leads l before → after = .ok (.file l content)
  missed : held → ¬ Leads l before → after = before

theorem follows_unmoved (l : Location) (content : Bytes) (held : Prop)
    (outcome : Except Fault Target) (elsewhere : ¬ Leads l outcome) :
    Follows l content held outcome outcome :=
  ⟨fun leads => absurd leads elsewhere, fun _ _ => rfl⟩

section Rewriting

variable {s after : Store} {l : Location} {content : Bytes}

theorem meet_follows (rewritten : Rewritten s after l content)
    (plain : s.lookup l = none ∨ s.HoldsFile l) (purpose : Purpose)
    (follow follow' : Location → List Name → Except Fault Target)
    (jump : ∀ dir names, Follows l content (s.HoldsFile l) (follow dir names) (follow' dir names))
    (dir : Location) (name : Name) (rest : List Name)
    (deeper : Follows l content (s.HoldsFile l) (s.descend purpose follow (dir ++ [name]) rest)
      (after.descend purpose follow' (dir ++ [name]) rest)) :
    Follows l content (s.HoldsFile l) (s.meet purpose follow dir name rest)
      (after.meet purpose follow' dir name rest) := by
  unfold meet
  by_cases same : dir ++ [name] = l
  · rw [same, rewritten.filled]
    rcases plain with free | ⟨old, file⟩
    · have unheld : ¬ s.HoldsFile l := by
        rintro ⟨old, file⟩
        simp [free] at file
      refine ⟨?_, fun held => absurd held unheld⟩
      by_cases last : rest = [] <;> simp [free, last, Leads]
    · by_cases last : rest = []
      · simp only [file, last, if_true]
        exact ⟨fun _ => rfl, fun _ elsewhere => absurd rfl elsewhere⟩
      · simp only [file, last, if_false]
        exact follows_unmoved _ _ _ _ id
  · rw [rewritten.others _ same]
    cases s.lookup (dir ++ [name]) with
    | none =>
        by_cases last : rest = [] <;> simp only [last, if_true, if_false] <;>
          exact follows_unmoved _ _ _ _ (by simp [Leads, same])
    | some e =>
        cases e with
        | file old =>
            by_cases last : rest = [] <;> simp only [last, if_true, if_false] <;>
              exact follows_unmoved _ _ _ _ (by simp [Leads, same])
        | directory => exact deeper
        | link target => exact jump _ _
        | device d =>
            by_cases last : rest = [] <;> simp only [last, if_true, if_false] <;>
              exact follows_unmoved _ _ _ _ id

theorem descend_follows (rewritten : Rewritten s after l content)
    (plain : s.lookup l = none ∨ s.HoldsFile l) (purpose : Purpose)
    (follow follow' : Location → List Name → Except Fault Target)
    (jump : ∀ dir names, Follows l content (s.HoldsFile l) (follow dir names) (follow' dir names))
    (names : List Name) (dir : Location) :
    Follows l content (s.HoldsFile l) (s.descend purpose follow dir names)
      (after.descend purpose follow' dir names) := by
  induction names generalizing dir with
  | nil => exact follows_unmoved _ _ _ _ id
  | cons name rest ih =>
      rcases descend_cases purpose dir name rest with ⟨f, fails⟩ | ⟨next, moves⟩ | meets
      · rw [fails, fails]
        exact follows_unmoved _ _ _ _ id
      · rw [(moves s follow).1, (moves after follow').1]
        exact ih next
      · rw [(meets s follow).1, (meets after follow').1]
        exact meet_follows rewritten plain purpose follow follow' jump dir name rest (ih _)

theorem walk_follows (rewritten : Rewritten s after l content)
    (plain : s.lookup l = none ∨ s.HoldsFile l) (purpose : Purpose) (links : Nat)
    (dir : Location) (names : List Name) :
    Follows l content (s.HoldsFile l) (s.walk purpose links dir names)
      (after.walk purpose links dir names) := by
  -- On the number of links that may still be followed: a link restarts the walk with new names.
  induction links generalizing dir names with
  | zero =>
      exact descend_follows rewritten plain purpose _ _
        (fun _ _ => follows_unmoved _ _ _ _ id) names dir
  | succ links ih => exact descend_follows rewritten plain purpose _ _ ih names dir

theorem resolve_follows (rewritten : Rewritten s after l content)
    (plain : s.lookup l = none ∨ s.HoldsFile l) (purpose : Purpose) (p : Path) :
    Follows l content (s.HoldsFile l) (s.resolve purpose p) (after.resolve purpose p) := by
  unfold resolve
  cases p.fault? with
  | some f => exact follows_unmoved _ _ _ _ id
  | none =>
      rw [rewritten.here]
      exact walk_follows rewritten plain purpose _ _ _

end Rewriting

end ErrorWording.Store
