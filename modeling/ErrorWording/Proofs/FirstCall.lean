import ErrorWording.Proofs.Occurrence

set_option autoImplicit false

namespace ErrorWording

namespace Call

theorem find_from_none_iff (skipped : Nat) (text : List Char) :
    findFrom skipped text = none ↔ ∀ before literal after, ¬ Cut text before literal after := by
  induction text generalizing skipped with
  | nil => simp only [findFrom, not_cut_nil, not_false_eq_true, implies_true]
  | cons c rest ih =>
      cases here : literalAt? (c :: rest) with
      | some found =>
          obtain ⟨after, cut⟩ := (literal_at_some_iff (c :: rest) found).mp here
          simp only [findFrom, here, reduceCtorEq, false_iff]
          intro absent
          exact absent [] found after cut
      | none =>
          simp only [findFrom, here, ih]
          constructor
          · intro absent before literal after cut
            cases before with
            | nil =>
                have found := (literal_at_some_iff (c :: rest) literal).mpr ⟨after, cut⟩
                cases here.symm.trans found
            | cons d tail =>
                have nonempty : d :: tail ≠ [] := by simp
                obtain ⟨_, same⟩ := cut_nonempty_before c rest _ literal after cut nonempty
                obtain ⟨rfl, _⟩ := List.cons.inj same
                exact absent tail literal after ((cut_cons_iff d rest tail literal after).mp cut)
          · intro absent before literal after cut
            exact absent (c :: before) literal after
              ((cut_cons_iff c rest before literal after).mpr cut)

theorem find_none_iff (line : List Char) :
    find? line = none ↔ ∀ before literal after, ¬ Cut line before literal after := by
  rw [find?, find_from_none_iff]

theorem find_some_of_present (line : List Char) (present : Present line) :
    ∃ call, find? line = some call := by
  obtain ⟨before, literal, after, cut⟩ := present
  cases found : find? line with
  | some call => exact ⟨call, rfl⟩
  | none => exact absurd cut ((find_none_iff line).mp found before literal after)

end Call

namespace Wording

theorem check_found (w : Wording) (number : Nat) (line : List Char) (call : Call)
    (found : Call.find? line = some call) :
    w.check number line =
      if w.required.toList <+: call.literal then none else some (violationOf number call) := by
  unfold check accepts
  simp only [found, List.isPrefixOf_iff_prefix]

theorem check_none_call_iff (w : Wording) (number : Nat) (line : List Char) :
    w.check number line = none ↔ Call.find? line = none ∨
      ∃ call, Call.find? line = some call ∧ w.required.toList <+: call.literal := by
  unfold check accepts
  cases Call.find? line with
  | none => simp
  | some call =>
      by_cases starts : w.required.toList <+: call.literal
      · simp [starts]
      · simp [starts]

theorem check_decided (w : Wording) (number : Nat) (line : List Char) :
    (∀ v, w.check number line = some v ↔
      ∃ before literal after, Call.FirstCut line before literal after ∧
        ¬ w.required.toList <+: literal ∧
          v = ⟨number, before.length + 13, before.length + 12 + literal.length,
            String.ofList literal⟩) ∧
    (w.check number line = none ↔
      (∀ before literal after, ¬ Call.Cut line before literal after) ∨
        ∃ before literal after, Call.FirstCut line before literal after ∧
          w.required.toList <+: literal) := by
  refine ⟨w.check_some_iff number line, ?_⟩
  rw [check_none_call_iff, Call.find_none_iff]
  apply or_congr_right
  constructor
  · intro accepted
    obtain ⟨⟨n, literal⟩, found, starts⟩ := accepted
    obtain ⟨before, after, first, _⟩ := (Call.find_some_iff line literal n).mp found
    exact ⟨before, literal, after, first, starts⟩
  · intro accepted
    obtain ⟨before, literal, after, first, starts⟩ := accepted
    have found := (Call.find_some_iff line literal _).mpr ⟨before, after, first, rfl⟩
    exact ⟨_, found, starts⟩

-- An empty literal is none, so the second opening counts.
example : standard.check 7 "é fmt.Errorf(\"\" + fmt.Errorf(\"ßx\")".toList =
    some ⟨7, 31, 32, "ßx"⟩ := by decide +kernel

end Wording

end ErrorWording
