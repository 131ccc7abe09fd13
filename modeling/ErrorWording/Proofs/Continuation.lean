import ErrorWording.Proofs.FirstCall

set_option autoImplicit false

namespace ErrorWording

namespace Call

def closedAt (before literal : List Char) : List Char :=
  before ++ "fmt.Errorf(\"".toList ++ literal ++ ['"']

theorem closed_at_length (before literal : List Char) :
    (closedAt before literal).length = before.length + literal.length + 13 := by
  have opening : "fmt.Errorf(\"".toList.length = 12 := by decide
  simp only [closedAt, List.length_append, List.length_singleton, opening]
  omega

theorem cut_closed (line before literal after : List Char) (cut : Cut line before literal after) :
    closedAt before literal <+: line := by
  refine ⟨after, ?_⟩
  rw [cut.whole, closedAt, List.append_assoc _ ['"'], List.singleton_append]

theorem cut_of_closed (line before literal : List Char) (present : literal ≠ [])
    (unquoted : '"' ∉ literal) (closed : closedAt before literal <+: line) :
    ∃ after, Cut line before literal after := by
  obtain ⟨after, whole⟩ := closed
  refine ⟨after, ?_, present, unquoted⟩
  rw [← whole, closedAt, List.append_assoc _ ['"'], List.singleton_append]

theorem cut_length (line before literal after : List Char) (cut : Cut line before literal after) :
    before.length + literal.length + 13 ≤ line.length := by
  rw [← closed_at_length]
  exact (cut_closed line before literal after cut).length_le

theorem cut_within (line ending before literal after : List Char)
    (cut : Cut (line ++ ending) before literal after)
    (room : before.length + literal.length + 13 ≤ line.length) :
    ∃ within, Cut line before literal within := by
  apply cut_of_closed line before literal cut.present cut.unquoted
  apply List.prefix_of_prefix_length_le (cut_closed _ before literal after cut)
    (List.prefix_append line ending)
  rw [closed_at_length]
  exact room

theorem cut_quote (text before literal after : List Char) (cut : Cut text before literal after) :
    text[before.length + 11]? = some '"' := by
  rw [cut.whole, List.append_assoc, List.append_assoc,
    List.getElem?_append_right (Nat.le_add_right before.length 11), Nat.add_sub_cancel_left]
  rfl

theorem cut_literal (text before literal after : List Char) (cut : Cut text before literal after)
    (i : Nat) (later : before.length + 12 ≤ i) (sooner : i < before.length + 12 + literal.length) :
    text[i]? ≠ some '"' := by
  intro quoted
  have opening : (before ++ "fmt.Errorf(\"".toList).length = before.length + 12 := by
    rw [List.length_append]
    rfl
  rw [cut.whole, List.append_assoc, List.getElem?_append_right (by rw [opening]; exact later),
    opening, List.getElem?_append_left (by omega)] at quoted
  exact cut.unquoted (List.mem_of_getElem? quoted)

theorem cuts_apart (line before literal after other text rest : List Char)
    (cut : Cut line before literal after) (sooner : Cut line other text rest)
    (less : other.length < before.length) : other.length + text.length < before.length := by
  have quoted := cut_quote line before literal after cut
  -- Otherwise the literal of the sooner call would hold the quote that the later one opens with.
  apply Nat.lt_of_not_le
  intro reaches
  exact cut_literal line other text rest sooner _ (by omega) (by omega) quoted

theorem first_cut_append (line ending before literal after : List Char)
    (first : FirstCut line before literal after) :
    FirstCut (line ++ ending) before literal (after ++ ending) := by
  have longer := cut_append line ending before literal after first.cut
  refine ⟨longer, ?_⟩
  intro other text rest cut
  apply Nat.le_of_not_lt
  intro less
  -- A call that opens sooner is closed before this one opens, so it lies in the line already.
  have apart := cuts_apart (line ++ ending) before literal _ other text rest longer cut less
  have length := cut_length line before literal after first.cut
  obtain ⟨within, sooner⟩ := cut_within line ending other text rest cut (by omega)
  exact Nat.not_le_of_lt less (first.least other text within sooner)

theorem first_cut_of_present (line : List Char) (present : Present line) :
    ∃ before literal after, FirstCut line before literal after := by
  obtain ⟨⟨n, literal⟩, found⟩ := find_some_of_present line present
  obtain ⟨before, after, first, _⟩ := (find_some_iff line literal n).mp found
  exact ⟨before, literal, after, first⟩

theorem first_cut_found (line before literal after : List Char)
    (first : FirstCut line before literal after) :
    find? line = some ⟨before.length + 12, literal⟩ :=
  (find_some_iff line literal _).mpr ⟨before, after, first, rfl⟩

theorem first_cut_of_found (line before literal after : List Char)
    (cut : Cut line before literal after)
    (found : find? line = some ⟨before.length + 12, literal⟩) :
    FirstCut line before literal after := by
  obtain ⟨front, rest, first, place⟩ := (find_some_iff line literal _).mp found
  refine ⟨cut, ?_⟩
  intro other text behind sooner
  have least := first.least other text behind sooner
  omega

theorem find_continued (line ending : List Char) (present : Present line) :
    find? (line ++ ending) = find? line := by
  obtain ⟨before, literal, after, first⟩ := first_cut_of_present line present
  have longer := first_cut_append line ending before literal after first
  rw [first_cut_found line before literal after first, first_cut_found _ before literal _ longer]

end Call

namespace Wording

theorem check_continued (w : Wording) (number : Nat) (line ending : List Char)
    (present : Call.Present line) : w.check number (line ++ ending) = w.check number line := by
  rw [check, check, Call.find_continued line ending present]

theorem check_first_cut (w : Wording) (number : Nat) (line before literal after : List Char)
    (first : Call.FirstCut line before literal after) :
    w.check number line =
      if w.required.toList <+: literal then none
      else some ⟨number, before.length + 13, before.length + 12 + literal.length,
        String.ofList literal⟩ :=
  w.check_found number line _ (Call.first_cut_found line before literal after first)

theorem continuation_immaterial (w : Wording) (number : Nat) (line : List Char) :
    (∀ ending, '"' ∉ ending → w.check number (line ++ ending) = w.check number line) ∧
    (Call.Present line → ∀ ending, w.check number (line ++ ending) = w.check number line) ∧
    ∀ before literal after, Call.FirstCut line before literal after → ∀ ending,
      Call.FirstCut (line ++ ending) before literal (after ++ ending) ∧
        w.check number (line ++ ending) =
          if w.required.toList <+: literal then none
          else some ⟨number, before.length + 13, before.length + 12 + literal.length,
            String.ofList literal⟩ := by
  refine ⟨?_, ?_, ?_⟩
  · intro ending unquoted
    exact w.check_append number line ending unquoted
  · intro present ending
    exact w.check_continued number line ending present
  · intro before literal after first ending
    have longer := Call.first_cut_append line ending before literal after first
    exact ⟨longer, w.check_first_cut number _ before literal _ longer⟩

def openCall : List Char := "é fmt.Errorf(\"\", fmt.Errorf(\"ßx\"), fmt.Errorf(\"".toList

def completed : List Char := "y\"), fmt.Errorf(\"z\")".toList

theorem continued_open_call :
    Call.FirstCut openCall "é fmt.Errorf(\"\", ".toList ['ß', 'x'] "), fmt.Errorf(\"".toList ∧
      standard.check 7 (openCall ++ ['\r']) = some ⟨7, 30, 31, "ßx"⟩ ∧
      standard.check 7 (openCall ++ completed) = some ⟨7, 30, 31, "ßx"⟩ ∧
      Call.FirstCut (openCall ++ completed) "é fmt.Errorf(\"\", ".toList ['ß', 'x']
        ("), fmt.Errorf(\"".toList ++ completed) := by
  have cut : Call.Cut openCall "é fmt.Errorf(\"\", ".toList ['ß', 'x'] "), fmt.Errorf(\"".toList :=
    ⟨by decide, by decide, by decide⟩
  have first := Call.first_cut_of_found _ _ _ _ cut (by decide +kernel)
  have judged : standard.check 7 openCall = some ⟨7, 30, 31, "ßx"⟩ := by decide +kernel
  obtain ⟨unquoted, present, kept⟩ := continuation_immaterial standard 7 openCall
  exact ⟨first, (unquoted ['\r'] (by decide)).trans judged,
    (present ⟨_, _, _, cut⟩ _).trans judged, (kept _ _ _ first _).1⟩

end Wording

end ErrorWording
