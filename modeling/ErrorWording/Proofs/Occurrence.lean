import ErrorWording.Text.Lines
import ErrorWording.Wording

set_option autoImplicit false

namespace ErrorWording

namespace Call

/-- The line is the front, the opening of a call, a literal with its closing quote, and the rest. -/
structure Cut (line before literal after : List Char) : Prop where
  whole : line = before ++ "fmt.Errorf(\"".toList ++ literal ++ '"' :: after
  present : literal ≠ []
  unquoted : '"' ∉ literal

structure FirstCut (line before literal after : List Char) : Prop where
  cut : Cut line before literal after
  least : ∀ other text rest, Cut line other text rest → before.length ≤ other.length

def Present (line : List Char) : Prop :=
  ∃ before literal after, Cut line before literal after

theorem cut_whole (line before literal after : List Char) (cut : Cut line before literal after) :
    line = before ++ opening ++ literal ++ quote :: after := by
  have spelled : "fmt.Errorf(\"".toList = opening := by decide
  rw [← spelled]
  exact cut.whole

theorem cut_of_whole (line before literal after : List Char) (present : literal ≠ [])
    (unquoted : quote ∉ literal) (whole : line = before ++ opening ++ literal ++ quote :: after) :
    Cut line before literal after := by
  have spelled : opening = "fmt.Errorf(\"".toList := by decide
  rw [spelled] at whole
  exact ⟨whole, present, unquoted⟩

theorem literal_some_iff (text literal : List Char) :
    literal? text = some literal ↔
      literal ≠ [] ∧ quote ∉ literal ∧ ∃ after, text = literal ++ quote :: after := by
  constructor
  · intro found
    unfold literal? at found
    by_cases lacking : text.takeWhile (· != quote) = [] ∨ text.dropWhile (· != quote) = []
    · rw [if_pos lacking] at found
      cases found
    · rw [if_neg lacking, Option.some.injEq] at found
      simp only [not_or] at lacking
      subst found
      refine ⟨lacking.1, ?_, ?_⟩
      · intro member
        have different := List.all_eq_true.mp List.all_takeWhile quote member
        simp at different
      · obtain ⟨c, after, rest⟩ := List.exists_cons_of_ne_nil lacking.2
        have stopped : c = quote := by
          have head := List.head_dropWhile_not (· != quote) lacking.2
          simpa [rest] using head
        refine ⟨after, ?_⟩
        rw [stopped] at rest
        rw [← rest, List.takeWhile_append_dropWhile]
  · rintro ⟨present, free, after, rfl⟩
    exact literal_append_quote literal after present free

theorem literal_at_some_iff (text literal : List Char) :
    literalAt? text = some literal ↔ ∃ after, Cut text [] literal after := by
  simp only [literalAt?, Option.bind_eq_some_iff, after_opening_some_iff, literal_some_iff]
  constructor
  · rintro ⟨rest, start, present, free, after, rfl⟩
    exact ⟨after, cut_of_whole text [] literal after present free (by simpa using start)⟩
  · rintro ⟨after, cut⟩
    have whole := cut_whole text [] literal after cut
    exact ⟨literal ++ quote :: after, by simpa using whole, cut.present, cut.unquoted, after, rfl⟩

theorem cut_cons_iff (c : Char) (rest before literal after : List Char) :
    Cut (c :: rest) (c :: before) literal after ↔ Cut rest before literal after := by
  constructor
  · intro cut
    exact ⟨List.tail_eq_of_cons_eq cut.whole, cut.present, cut.unquoted⟩
  · intro cut
    exact ⟨congrArg (c :: ·) cut.whole, cut.present, cut.unquoted⟩

theorem cut_nonempty_before (c : Char) (rest before literal after : List Char)
    (cut : Cut (c :: rest) before literal after) (nonempty : before ≠ []) :
    ∃ tail, before = c :: tail := by
  have line := cut_whole _ _ _ _ cut
  cases before with
  | nil => exact absurd rfl nonempty
  | cons d tail =>
      have same : c = d := by simpa using congrArg List.head? line
      exact ⟨tail, by rw [same]⟩

theorem not_cut_nil (before literal after : List Char) : ¬ Cut [] before literal after := by
  intro cut
  have line := cut_whole _ _ _ _ cut
  simp [opening] at line

theorem first_cut_here (text literal : List Char) (here : literalAt? text = some literal)
    (before found : List Char) :
    (∃ after, FirstCut text before found after) ↔ before = [] ∧ found = literal := by
  obtain ⟨rest, first⟩ := (literal_at_some_iff _ _).mp here
  constructor
  · rintro ⟨after, cut, least⟩
    have nothing : before = [] := by simpa using least [] literal rest first
    subst nothing
    have again := (literal_at_some_iff _ _).mpr ⟨after, cut⟩
    exact ⟨rfl, Option.some.inj (again.symm.trans here)⟩
  · rintro ⟨rfl, rfl⟩
    exact ⟨rest, first, fun _ _ _ _ => Nat.zero_le _⟩

theorem first_cut_later (c : Char) (rest : List Char) (absent : literalAt? (c :: rest) = none)
    (before literal after : List Char) :
    FirstCut (c :: rest) before literal after ↔
      ∃ tail, before = c :: tail ∧ FirstCut rest tail literal after := by
  have starts (other text behind : List Char) (cut : Cut (c :: rest) other text behind) :
      ∃ tail, other = c :: tail := by
    refine cut_nonempty_before c rest other text behind cut ?_
    rintro rfl
    simp [(literal_at_some_iff _ _).mpr ⟨behind, cut⟩] at absent
  constructor
  · intro first
    obtain ⟨cut, least⟩ := first
    obtain ⟨tail, rfl⟩ := starts before literal after cut
    refine ⟨tail, rfl, (cut_cons_iff c rest tail literal after).mp cut, ?_⟩
    intro other text behind sooner
    simpa using least (c :: other) text behind ((cut_cons_iff c rest other text behind).mpr sooner)
  · rintro ⟨tail, rfl, cut, least⟩
    refine ⟨(cut_cons_iff c rest tail literal after).mpr cut, ?_⟩
    intro other text behind sooner
    obtain ⟨shorter, rfl⟩ := starts other text behind sooner
    simpa using least shorter text behind ((cut_cons_iff c rest shorter text behind).mp sooner)

theorem find_from_some_iff (skipped : Nat) (text literal : List Char) (n : Nat) :
    findFrom skipped text = some ⟨n, literal⟩ ↔
      ∃ before, (∃ after, FirstCut text before literal after) ∧
        n = skipped + before.length + opening.length := by
  induction text generalizing skipped with
  | nil =>
      simp only [findFrom, reduceCtorEq, false_iff]
      rintro ⟨before, ⟨after, first⟩, _⟩
      exact not_cut_nil before literal after first.cut
  | cons c rest ih =>
      cases here : literalAt? (c :: rest) with
      | some found =>
          simp only [findFrom, here, Option.some.injEq, Call.mk.injEq, first_cut_here _ _ here]
          constructor
          · rintro ⟨rfl, rfl⟩
            exact ⟨[], ⟨rfl, rfl⟩, rfl⟩
          · rintro ⟨before, ⟨rfl, rfl⟩, rfl⟩
            exact ⟨rfl, rfl⟩
      | none =>
          simp only [findFrom, here, ih, first_cut_later c rest here]
          constructor
          · rintro ⟨tail, ⟨after, first⟩, rfl⟩
            exact ⟨c :: tail, ⟨after, tail, rfl, first⟩, by simp only [List.length_cons]; omega⟩
          · rintro ⟨before, ⟨after, tail, rfl, first⟩, rfl⟩
            exact ⟨tail, ⟨after, first⟩, by simp only [List.length_cons]; omega⟩

theorem find_some_iff (line literal : List Char) (n : Nat) :
    find? line = some ⟨n, literal⟩ ↔
      ∃ before after, FirstCut line before literal after ∧ n = before.length + 12 := by
  simp only [find?, find_from_some_iff, Nat.zero_add, exists_and_right]
  rfl

theorem cut_append (line ending before literal after : List Char)
    (cut : Cut line before literal after) :
    Cut (line ++ ending) before literal (after ++ ending) := by
  refine ⟨?_, cut.present, cut.unquoted⟩
  rw [cut.whole, List.append_assoc, List.cons_append]

theorem cut_append_iff (line tail before literal : List Char) (free : quote ∉ tail) :
    (∃ after, Cut (line ++ tail) before literal after) ↔
      ∃ after, Cut line before literal after := by
  constructor
  · rintro ⟨after, cut⟩
    -- The closing quote cannot lie in the tail, so the line reaches behind it.
    have whole : line ++ tail = (before ++ opening ++ literal ++ [quote]) ++ after := by
      simpa using cut_whole _ _ _ _ cut
    rcases List.append_eq_append_iff.mp whole with ⟨middle, closed, rest⟩ | ⟨middle, reaches, _⟩
    · rcases List.eq_nil_or_concat middle with rfl | ⟨front, last, rfl⟩
      · exact ⟨[], cut_of_whole _ _ _ _ cut.present cut.unquoted (by simpa using closed.symm)⟩
      · have same : quote = last := by simpa using congrArg List.getLast? closed
        exact absurd (by simp [rest, same]) free
    · exact ⟨middle, cut_of_whole _ _ _ _ cut.present cut.unquoted (by simpa using reaches)⟩
  · rintro ⟨after, cut⟩
    exact ⟨after ++ tail, cut_append line tail before literal after cut⟩

theorem first_cut_append_iff (line tail before literal : List Char) (free : quote ∉ tail) :
    (∃ after, FirstCut (line ++ tail) before literal after) ↔
      ∃ after, FirstCut line before literal after := by
  have cuts (other text : List Char) := cut_append_iff line tail other text free
  constructor
  · rintro ⟨after, cut, least⟩
    obtain ⟨behind, shorter⟩ := (cuts before literal).mp ⟨after, cut⟩
    refine ⟨behind, shorter, ?_⟩
    intro other text rest sooner
    obtain ⟨longer, later⟩ := (cuts other text).mpr ⟨rest, sooner⟩
    exact least other text longer later
  · rintro ⟨after, cut, least⟩
    obtain ⟨behind, longer⟩ := (cuts before literal).mpr ⟨after, cut⟩
    refine ⟨behind, longer, ?_⟩
    intro other text rest sooner
    obtain ⟨shorter, earlier⟩ := (cuts other text).mp ⟨rest, sooner⟩
    exact least other text shorter earlier

theorem find_append (line tail : List Char) (free : quote ∉ tail) :
    find? (line ++ tail) = find? line := by
  apply Option.ext
  rintro ⟨n, literal⟩
  simp only [find_some_iff, exists_and_right, first_cut_append_iff _ _ _ _ free]

end Call

namespace Line

theorem drop_return_append (line : List Char) :
    ∃ tail, line = dropReturn line ++ tail ∧ Call.quote ∉ tail := by
  unfold dropReturn
  by_cases ends : line.getLast? = some '\r'
  · obtain ⟨front, rfl⟩ := List.getLast?_eq_some_iff.mp ends
    exact ⟨['\r'], by simp, by decide⟩
  · exact ⟨[], by simp [ends], by simp⟩

theorem drop_returns_append (line : List Char) :
    ∃ tail, line = dropReturns line ++ tail ∧ Call.quote ∉ tail := by
  refine ⟨(line.reverse.takeWhile (· == '\r')).reverse, ?_, ?_⟩
  · rw [dropReturns, ← List.reverse_append, List.takeWhile_append_dropWhile, List.reverse_reverse]
  · intro member
    have fed := List.all_eq_true.mp List.all_takeWhile _ (List.mem_reverse.mp member)
    exact absurd fed (by decide)

end Line

namespace Wording

theorem check_append (w : Wording) (number : Nat) (line tail : List Char)
    (free : Call.quote ∉ tail) : w.check number (line ++ tail) = w.check number line := by
  rw [check, check, Call.find_append line tail free]

@[simp] theorem check_drop_return (w : Wording) (number : Nat) (line : List Char) :
    w.check number (Line.dropReturn line) = w.check number line := by
  obtain ⟨tail, whole, free⟩ := Line.drop_return_append line
  rw [← check_append w number (Line.dropReturn line) tail free, ← whole]

@[simp] theorem check_drop_returns (w : Wording) (number : Nat) (line : List Char) :
    w.check number (Line.dropReturns line) = w.check number line := by
  obtain ⟨tail, whole, free⟩ := Line.drop_returns_append line
  rw [← check_append w number (Line.dropReturns line) tail free, ← whole]

theorem check_some_call_iff (w : Wording) (number : Nat) (line : List Char) (v : Violation) :
    w.check number line = some v ↔
      ∃ call, Call.find? line = some call ∧ ¬ w.required.toList <+: call.literal ∧
        violationOf number call = v := by
  unfold check accepts
  cases Call.find? line with
  | none => simp
  | some call =>
      by_cases starts : w.required.toList <+: call.literal
      · simp [starts]
      · simp [starts]

theorem check_some_iff (w : Wording) (number : Nat) (line : List Char) (v : Violation) :
    w.check number line = some v ↔
      ∃ before literal after, Call.FirstCut line before literal after ∧
        ¬ w.required.toList <+: literal ∧
          v = ⟨number, before.length + 13, before.length + 12 + literal.length,
            String.ofList literal⟩ := by
  rw [check_some_call_iff]
  constructor
  · rintro ⟨⟨n, literal⟩, found, differs, rfl⟩
    obtain ⟨before, after, first, rfl⟩ := (Call.find_some_iff line literal n).mp found
    exact ⟨before, literal, after, first, differs, rfl⟩
  · rintro ⟨before, literal, after, first, differs, rfl⟩
    have found := (Call.find_some_iff line literal _).mpr ⟨before, after, first, rfl⟩
    exact ⟨_, found, differs, rfl⟩

@[simp] theorem check_nil (w : Wording) (number : Nat) : w.check number [] = none := rfl

end Wording
end ErrorWording
