import ErrorWording.Proofs.Offering
import ErrorWording.Proofs.Place

set_option autoImplicit false

namespace ErrorWording

namespace Store

/-- Two stores that differ at most in the replies that their next calls get. -/
structure SameFiles (s after : Store) : Prop where
  here : after.here = s.here
  lookup : ∀ l, after.lookup l = s.lookup l

theorem answering_same (s : Store) (replies : List Reply) : SameFiles s (s.answering replies) :=
  ⟨rfl, fun _ => rfl⟩

section Same

variable {s after : Store}

theorem descend_same (same : SameFiles s after) (purpose : Purpose)
    (follow follow' : Location → List Name → Except Fault Target)
    (jump : ∀ dir names, follow' dir names = follow dir names) (names : List Name)
    (dir : Location) :
    after.descend purpose follow' dir names = s.descend purpose follow dir names := by
  induction names generalizing dir with
  | nil => rfl
  | cons name rest ih => simp only [descend, same.lookup, ih, jump]

theorem walk_same (same : SameFiles s after) (purpose : Purpose) (links : Nat) (dir : Location)
    (names : List Name) : after.walk purpose links dir names = s.walk purpose links dir names := by
  induction links generalizing dir names with
  | zero => exact descend_same same purpose _ _ (fun _ _ => rfl) names dir
  | succ links ih => exact descend_same same purpose _ _ ih names dir

theorem resolve_same (same : SameFiles s after) (purpose : Purpose) (p : Path) :
    after.resolve purpose p = s.resolve purpose p := by
  simp only [resolve, same.here, walk_same same]

theorem content_same (same : SameFiles s after) (p : Path) : after.content? p = s.content? p := by
  rw [content?, content?, resolve_same same]

end Same

theorem leads_unique (outcome : Except Fault Target) (k l : Location) (first : Leads k outcome)
    (second : Leads l outcome) : k = l := by
  unfold Leads at first second
  split at first
  · exact first.symm.trans second
  · exact first.symm.trans second
  · exact first.elim

/-- What comes of adding a text at a path, told by where the path leads. Only the last of these
changes a file, which then holds a beginning of the text. -/
inductive Adds (s : Store) (p : Path) (text : Bytes) : Store × Option Fault → Prop where
  | lost (f : Fault) (led : s.resolve .adding p = .error f) : Adds s p text (s, some f)
  | directory (l : Location) (led : s.resolve .adding p = .ok (.directory l)) :
      Adds s p text (s, some .isADirectory)
  | swallowed (led : s.resolve .adding p = .ok (.device .null)) : Adds s p text (s, none)
  | full (led : s.resolve .adding p = .ok (.device .full)) : Adds s p text (s, some .noSpace)
  | unopened (l : Location) (after : Store) (f : Fault) (leads : Leads l (s.resolve .adding p))
      (same : SameFiles s after) : Adds s p text (after, some f)
  | opened (l : Location) (part : Bytes) (after : Store) (fault : Option Fault)
      (leads : Leads l (s.resolve .adding p))
      (rewritten : Rewritten s after l ((s.content? p).getD [] ++ part)) (begins : part <+: text)
      (whole : fault = none ↔ part = text) : Adds s p text (after, fault)

theorem put_rewritten (s : Store) (l : Location) (content : Bytes) (below : l ≠ []) :
    Rewritten s (s.put l (.file content)) l content :=
  ⟨rfl, s.lookup_put_self l _ below, fun k other => s.lookup_put_of_ne l k _ other⟩

theorem rewritten_trans (s middle after : Store) (l : Location) (a b : Bytes)
    (first : Rewritten s middle l a) (second : Rewritten middle after l b) :
    Rewritten s after l b :=
  ⟨second.here.trans first.here, second.filled,
    fun k other => (second.others k other).trans (first.others k other)⟩

theorem add_file (s : Store) (l : Location) (old piece : Bytes) (below : l ≠ [])
    (held : s.lookup l = some (.file old)) :
    ∃ part, part <+: piece ∧ ((s.add (.file l) piece).2 = none ↔ part = piece) ∧
      Rewritten s (s.add (.file l) piece).1 l (old ++ part) := by
  have handing := Reply.hand_handing s.replies piece
  have holds : s.contentAt l = old := by rw [contentAt, held]
  rw [add, holds]
  generalize Reply.hand s.replies piece = handed at handing
  obtain ⟨taken, left, replies, fault⟩ := handed
  have put (part : Bytes) :
      Rewritten s ((s.answering replies).put l (.file (old ++ part))) l (old ++ part) := by
    have put := (s.answering replies).put_rewritten l (old ++ part) below
    exact ⟨put.here, put.filled, put.others⟩
  cases fault with
  | none => exact ⟨piece, List.prefix_rfl, by simp, put piece⟩
  | some f =>
      obtain ⟨present, _⟩ := handing.stopped f rfl
      refine ⟨taken, ⟨left, handing.whole⟩, ?_, put taken⟩
      simp only [reduceCtorEq, false_iff]
      rintro rfl
      exact present (List.append_right_eq_self.mp handing.whole)

theorem add_all_file (s : Store) (l : Location) (old : Bytes) (pieces : List Bytes)
    (below : l ≠ []) (held : s.lookup l = some (.file old)) :
    ∃ part, part <+: pieces.flatten ∧
      ((s.addAll (.file l) pieces).2 = none ↔ part = pieces.flatten) ∧
      Rewritten s (s.addAll (.file l) pieces).1 l (old ++ part) := by
  induction pieces generalizing s old with
  | nil =>
      refine ⟨[], List.prefix_rfl, by simp [addAll], rfl, ?_, fun _ _ => rfl⟩
      rw [List.append_nil]
      exact held
  | cons piece rest ih =>
      obtain ⟨part, begins, whole, rewritten⟩ := s.add_file l old piece below held
      rw [addAll, List.flatten_cons]
      generalize s.add (.file l) piece = added at whole rewritten ⊢
      obtain ⟨middle, fault⟩ := added
      cases fault with
      -- What this piece left is all: the later pieces are not written.
      | some f =>
          refine ⟨part, begins.trans (List.prefix_append _ _), ?_, rewritten⟩
          simp only [reduceCtorEq, false_iff] at whole ⊢
          rintro rfl
          exact whole (begins.eq_of_length_le (by simp))
      | none =>
          cases whole.mp rfl
          obtain ⟨more, later, finished, again⟩ := ih middle (old ++ piece) rewritten.filled
          refine ⟨piece ++ more, (List.prefix_append_right_inj piece).mpr later, ?_, ?_⟩
          · rw [List.append_right_inj]
            exact finished
          · rw [← List.append_assoc]
            exact rewritten_trans s middle _ l _ _ rewritten again

theorem add_all_null (s : Store) (pieces : List Bytes) :
    s.addAll (.device .null) pieces = (s, none) := by
  induction pieces with
  | nil => rfl
  | cons piece rest ih => exact ih

theorem add_all_full (s : Store) (pieces : List Bytes) (present : pieces.flatten ≠ []) :
    s.addAll (.device .full) pieces = (s, some .noSpace) := by
  induction pieces with
  | nil => exact absurd rfl present
  | cons piece rest ih =>
      by_cases empty : piece = []
      · rw [empty] at present ⊢
        exact ih present
      · simp [addAll, add, empty]

theorem below_root_of_leads (s : Store) (p : Path) (l : Location)
    (leads : Leads l (s.resolve .adding p)) : l ≠ [] := by
  have stands := s.resolve_stands .adding p
  cases found : s.resolve .adding p with
  | error f =>
      rw [found] at leads
      exact leads.elim
  | ok target =>
      rw [found] at leads stands
      cases target with
      | file k content =>
          obtain rfl : k = l := leads
          exact s.below_root k _ stands (by simp)
      | free k =>
          obtain rfl : k = l := leads
          exact s.below_root k _ stands (by simp)
      | directory k => exact leads.elim
      | device d => exact leads.elim

theorem opened_adds (s opened : Store) (p : Path) (l : Location) (pieces : List Bytes)
    (leads : Leads l (s.resolve .adding p))
    (made : Rewritten s opened l ((s.content? p).getD [])) :
    Adds s p pieces.flatten (opened.addAll (.file l) pieces) := by
  have below := s.below_root_of_leads p l leads
  obtain ⟨part, begins, whole, rewritten⟩ := opened.add_all_file l _ pieces below made.filled
  exact .opened l part _ _ leads (rewritten_trans s opened _ l _ _ made rewritten) begins whole

theorem append_adds (s : Store) (p : Path) (pieces : List Bytes) (present : pieces.flatten ≠ []) :
    Adds s p pieces.flatten (s.append p pieces) := by
  have stands := s.resolve_stands .adding p
  have holds := s.resolve_reading p
  have below := s.below_root_of_leads p
  rw [append, openAdding]
  cases led : s.resolve .adding p with
  | error f => exact .lost f led
  | ok target =>
      rw [led] at stands below
      have reads := holds target led
      cases target with
      | directory l => exact .directory l led
      | device d =>
          cases d with
          | null =>
              simp only [add_all_null]
              exact .swallowed led
          | full =>
              simp only [s.add_all_full pieces present]
              exact .full led
      | file l old =>
          have leads : Leads l (s.resolve .adding p) := led ▸ rfl
          rcases Reply.settle s.replies with ⟨replies, fault⟩
          cases fault with
          | some f => exact .unopened l _ f leads (s.answering_same replies)
          | none =>
              refine s.opened_adds _ p l pieces leads ⟨rfl, ?_, fun _ _ => rfl⟩
              rw [content?, reads]
              exact stands
      | free l =>
          have leads : Leads l (s.resolve .adding p) := led ▸ rfl
          rcases Reply.settle s.replies with ⟨replies, fault⟩
          cases fault with
          | some f => exact .unopened l _ f leads (s.answering_same replies)
          | none =>
              -- The file is there, empty, before the first piece is written.
              have made := (s.answering replies).put_rewritten l [] (below l rfl)
              refine s.opened_adds _ p l pieces leads ?_
              rw [content?, reads]
              exact ⟨made.here, made.filled, made.others⟩

theorem add_replies (s : Store) (h : Handle) (piece : Bytes) :
    (s.add h piece).1.replies <:+ s.replies := by
  cases h with
  | file l => exact (Reply.hand_handing s.replies piece).suffix
  | device d => cases d <;> exact List.suffix_rfl

theorem add_all_replies (s : Store) (h : Handle) (pieces : List Bytes) :
    (s.addAll h pieces).1.replies <:+ s.replies := by
  induction pieces generalizing s with
  | nil => exact List.suffix_rfl
  | cons piece rest ih =>
      have first := s.add_replies h piece
      rw [addAll]
      generalize s.add h piece = added at first ⊢
      obtain ⟨middle, fault⟩ := added
      cases fault with
      | some f => exact first
      | none => exact (ih middle).trans first

theorem append_replies (s : Store) (p : Path) (pieces : List Bytes) :
    (s.append p pieces).1.replies <:+ s.replies := by
  have settled := Reply.settle_suffix s.replies
  rw [append, openAdding]
  generalize Reply.settle s.replies = outcome at settled
  obtain ⟨replies, fault⟩ := outcome
  cases s.resolve .adding p with
  | error f => exact List.suffix_rfl
  | ok target =>
      cases target with
      | directory l => exact List.suffix_rfl
      | device d => exact s.add_all_replies _ pieces
      | file l old =>
          cases fault with
          | some f => exact settled
          | none => exact (add_all_replies _ _ pieces).trans settled
      | free l =>
          cases fault with
          | some f => exact settled
          | none => exact (add_all_replies _ _ pieces).trans settled

theorem add_all_willing (s : Store) (l : Location) (pieces : List Bytes)
    (willing : Reply.Willing s.replies) : (s.addAll (.file l) pieces).2 = none := by
  induction pieces generalizing s with
  | nil => rfl
  | cons piece rest ih =>
      have handing := Reply.hand_handing s.replies piece
      have later := Reply.willing_suffix _ _ (s.add_replies (.file l) piece) willing
      have unfailing : (s.add (.file l) piece).2 = none := by
        rw [add]
        cases failed : (Reply.hand s.replies piece).fault with
        | none => rfl
        | some f =>
            exact absurd (handing.stopped f failed).2 (Reply.willing_unstopped _ _ f willing)
      rw [addAll]
      generalize s.add (.file l) piece = added at later unfailing ⊢
      obtain ⟨middle, fault⟩ := added
      cases unfailing
      exact ih middle later

theorem append_willing (s : Store) (p : Path) (l : Location) (content : Bytes)
    (pieces : List Bytes) (willing : Reply.Willing s.replies)
    (led : s.resolve .adding p = .ok (.file l content)) : (s.append p pieces).2 = none := by
  have later := Reply.willing_suffix _ _ (Reply.settle_suffix s.replies) willing
  have opens := Reply.settle_willing s.replies willing
  rw [append, openAdding, led]
  generalize Reply.settle s.replies = outcome at later opens
  obtain ⟨replies, fault⟩ := outcome
  cases opens
  exact add_all_willing _ l pieces later

end Store

end ErrorWording
