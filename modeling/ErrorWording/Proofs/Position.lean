import ErrorWording.Proofs.Chunking

set_option autoImplicit false

namespace ErrorWording

/-- Read as columns from one on, the violation's place in a line holds its text, right behind the
opening of a call and right before the closing quote. -/
structure Located (piece : List Char) (v : Violation) : Prop where
  column_ge : 13 ≤ v.column
  endColumn_eq : v.endColumn = v.column + v.text.toList.length - 1
  opened : (piece.take (v.column - 1)).drop (v.column - 13) = "fmt.Errorf(\"".toList
  held : (piece.take v.endColumn).drop (v.column - 1) = v.text.toList
  closed : piece[v.endColumn]? = some '"'
  present : v.text ≠ ""
  unquoted : '"' ∉ v.text.toList
  unbroken : '\n' ∉ v.text.toList

structure Reported (w : Wording) (raw : List (List Char)) (found : List Violation) : Prop where
  increasing : found.Pairwise fun a b => a.line < b.line
  complete : ∀ k line, raw[k]? = some line →
    ((∃ v ∈ found, v.line = k + 1) ↔
      ∃ before literal after, Call.FirstCut line before literal after ∧
        ¬ w.required.toList <+: literal)
  exact : ∀ v ∈ found, ∃ k line, v.line = k + 1 ∧ raw[k]? = some line ∧ Located line v

theorem split_piece_free (text piece : List Char) (c : Char) (member : piece ∈ text.splitOn c) :
    c ∉ piece := by
  induction text generalizing piece with
  | nil =>
      have empty : piece = [] := by simpa using member
      simp [empty]
  | cons d rest ih =>
      rw [List.splitOn_cons_eq_if_modifyHead] at member
      by_cases cut : (d == c) = true
      · rw [if_pos cut, List.mem_cons] at member
        rcases member with rfl | later
        · simp
        · exact ih piece later
      · rw [if_neg cut] at member
        obtain ⟨first, others, pieces⟩ := List.exists_cons_of_ne_nil (List.splitOn_ne_nil c rest)
        rw [pieces] at ih member
        rw [List.modifyHead_cons, List.mem_cons] at member
        rcases member with rfl | later
        · have free := ih first List.mem_cons_self
          simp only [beq_iff_eq] at cut
          simp [free, Ne.symm cut]
        · exact ih piece (List.mem_cons_of_mem first later)

namespace Wording

theorem check_line_number (w : Wording) (number : Nat) (line : List Char) (v : Violation)
    (found : w.check number line = some v) : v.line = number := by
  obtain ⟨before, literal, _, _, _, rfl⟩ := (check_some_iff w number line v).mp found
  rfl

theorem mem_check_lines_iff (w : Wording) (first : Nat) (lines : List (List Char)) (v : Violation) :
    v ∈ w.checkLines first lines ↔
      ∃ k line, lines[k]? = some line ∧ w.check (first + k) line = some v := by
  induction lines generalizing first with
  | nil => simp
  | cons line rest ih =>
      simp only [check_lines_cons, List.mem_append, Option.mem_toList, ih]
      constructor
      · rintro (here | ⟨k, other, place, judged⟩)
        · exact ⟨0, line, rfl, here⟩
        · exact ⟨k + 1, other, place, by rwa [Nat.add_right_comm] at judged⟩
      · rintro ⟨k, other, place, judged⟩
        cases k with
        | zero =>
            have same : line = other := by simpa using place
            exact .inl (same ▸ judged)
        | succ k => exact .inr ⟨k, other, place, by rwa [Nat.add_right_comm]⟩

theorem check_lines_increasing (w : Wording) (first : Nat) (lines : List (List Char)) :
    (w.checkLines first lines).Pairwise fun a b => a.line < b.line := by
  induction lines generalizing first with
  | nil => exact List.Pairwise.nil
  | cons line rest ih =>
      rw [check_lines_cons, List.pairwise_append]
      refine ⟨?_, ih (first + 1), ?_⟩
      · cases w.check first line <;> simp
      · intro a here b later
        have aLine := check_line_number w first line a (Option.mem_toList.mp here)
        obtain ⟨k, other, _, judged⟩ := (mem_check_lines_iff w _ rest b).mp later
        have bLine := check_line_number w _ other b judged
        omega

end Wording

theorem located_cut (line before literal after : List Char) (number : Nat)
    (cut : Call.Cut line before literal after) (unbroken : '\n' ∉ line) :
    Located line ⟨number, before.length + 13, before.length + 12 + literal.length,
      String.ofList literal⟩ := by
  have whole := Call.cut_whole line before literal after cut
  have front : before.length + 12 = (before ++ Call.opening).length := by
    rw [List.length_append]
    rfl
  have back : before.length + 12 + literal.length =
      (before ++ Call.opening ++ literal).length := by rw [front, ← List.length_append]
  refine ⟨?_, ?_, ?_, ?_, ?_, ?_, ?_, ?_⟩
  · exact Nat.le_add_left 13 before.length
  · simp only [String.toList_ofList]
    omega
  · change ((line.take (before.length + 12)).drop (before.length + 13 - 13)) = _
    rw [Nat.add_sub_cancel, front, whole, List.append_assoc _ literal, List.take_left,
      List.drop_left]
    rfl
  · change ((line.take (before.length + 12 + literal.length)).drop (before.length + 12)) = _
    rw [back, whole, List.take_left, front, List.drop_left, String.toList_ofList]
  · change getElem? line (before.length + 12 + literal.length) = _
    rw [back, whole, List.getElem?_append_right (Nat.le_refl _), Nat.sub_self]
    rfl
  · simpa using cut.present
  · simpa using cut.unquoted
  · simp only [String.toList_ofList]
    intro member
    exact unbroken (by simp [whole, member])

theorem text_reported (w : Wording) (text : List Char) :
    Reported w (text.splitOn '\n') (w.scanText text) := by
  rw [Wording.scan_text_pieces]
  refine ⟨w.check_lines_increasing 1 _, ?_, ?_⟩
  · intro k line place
    constructor
    · rintro ⟨v, member, same⟩
      obtain ⟨j, other, otherPlace, judged⟩ := (w.mem_check_lines_iff 1 _ v).mp member
      have number := w.check_line_number _ other v judged
      have index : j = k := by omega
      subst index
      have line_eq : other = line := Option.some.inj (otherPlace.symm.trans place)
      subst line_eq
      obtain ⟨before, literal, after, first, differs, _⟩ :=
        (w.check_some_iff _ other v).mp judged
      exact ⟨before, literal, after, first, differs⟩
    · rintro ⟨before, literal, after, first, differs⟩
      have judged := (w.check_some_iff (1 + k) line _).mpr
        ⟨before, literal, after, first, differs, rfl⟩
      exact ⟨_, (w.mem_check_lines_iff 1 _ _).mpr ⟨k, line, place, judged⟩, Nat.add_comm 1 k⟩
  · intro v member
    obtain ⟨k, line, place, judged⟩ := (w.mem_check_lines_iff 1 _ v).mp member
    obtain ⟨before, literal, after, first, _, rfl⟩ := (w.check_some_iff _ line v).mp judged
    have unbroken := split_piece_free text line '\n' (List.mem_of_getElem? place)
    exact ⟨k, line, Nat.add_comm 1 k, place,
      located_cut line before literal after (1 + k) first.cut unbroken⟩

theorem positions_exact (w : Wording) (text : List Char) :
    Reported w (text.splitOn '\n') (w.scanText text) ∧
      ∀ deliveries, Delivers deliveries (Utf8.encode text) →
        ∃ found, w.scanDeliveries deliveries = .ok found ∧
          Reported w (text.splitOn '\n') found := by
  refine ⟨text_reported w text, ?_⟩
  intro deliveries delivers
  exact ⟨w.scanText text, scan_delivered_text w deliveries text delivers, text_reported w text⟩

def behindReturn : List Char :=
  ['é', '\r', '\n', 'é'] ++ Call.opening ++ ['ß', 'x', '"', '\r']

theorem position_behind_return :
    (⟨2, 14, 15, "ßx"⟩ : Violation) ∈ Wording.standard.scanText behindReturn ∧
      ∃ k line, 2 = k + 1 ∧ (behindReturn.splitOn '\n')[k]? = some line ∧
        Located line ⟨2, 14, 15, "ßx"⟩ := by
  have member : (⟨2, 14, 15, "ßx"⟩ : Violation) ∈ Wording.standard.scanText behindReturn := by
    decide +kernel
  exact ⟨member, (positions_exact .standard _).1.exact _ member⟩

end ErrorWording
