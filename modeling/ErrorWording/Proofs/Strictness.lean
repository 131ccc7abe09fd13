import ErrorWording.Proofs.FirstCall
import ErrorWording.Proofs.Position

set_option autoImplicit false

namespace ErrorWording

namespace Call

theorem find_unquoted (line : List Char) (call : Call) (found : find? line = some call) :
    '"' ∉ call.literal := by
  obtain ⟨before, after, first, _⟩ := (find_some_iff line call.literal call.before).mp found
  exact first.cut.unquoted

end Call

namespace Wording

def Weaker (p q : Wording) : Prop :=
  p.required.toList <+: q.required.toList

instance (p q : Wording) : Decidable (p.Weaker q) :=
  inferInstanceAs (Decidable (p.required.toList <+: q.required.toList))

theorem check_refused (w : Wording) (number : Nat) (line : List Char) (call : Call)
    (found : Call.find? line = some call) (refused : ¬ w.required.toList <+: call.literal) :
    w.check number line = some (violationOf number call) :=
  (w.check_some_call_iff number line _).mpr ⟨call, found, refused, rfl⟩

theorem check_same (p q : Wording) (number : Nat) (line : List Char) (v u : Violation)
    (one : p.check number line = some v) (other : q.check number line = some u) : v = u := by
  obtain ⟨call, found, _, vEq⟩ := (p.check_some_call_iff number line v).mp one
  obtain ⟨again, foundAgain, _, uEq⟩ := (q.check_some_call_iff number line u).mp other
  have same : call = again := Option.some.inj (found.symm.trans foundAgain)
  rw [← vEq, ← uEq, same]

theorem check_stricter (p q : Wording) (weaker : p.Weaker q) (number : Nat) (line : List Char)
    (v : Violation) (judged : p.check number line = some v) : q.check number line = some v := by
  obtain ⟨call, found, refused, vEq⟩ := (p.check_some_call_iff number line v).mp judged
  rw [← vEq]
  apply q.check_refused number line call found
  intro starts
  exact refused (weaker.trans starts)

theorem check_stricter_sublist (p q : Wording) (weaker : p.Weaker q) (number : Nat)
    (line : List Char) :
    (p.check number line).toList.Sublist (q.check number line).toList := by
  cases judged : p.check number line with
  | none => exact List.nil_sublist _
  | some v =>
      have kept := p.check_stricter q weaker number line v judged
      simp only [kept, List.Sublist.refl]

theorem check_lines_stricter (p q : Wording) (weaker : p.Weaker q) (first : Nat)
    (lines : List (List Char)) :
    (p.checkLines first lines).Sublist (q.checkLines first lines) := by
  induction lines generalizing first with
  | nil => exact List.Sublist.refl []
  | cons line rest ih =>
      rw [check_lines_cons, check_lines_cons]
      exact (p.check_stricter_sublist q weaker first line).append (ih (first + 1))

theorem one_refused (p q : Wording) (apart : ¬ p.Weaker q) (differ : ¬ q.Weaker p)
    (literal : List Char) :
    ¬ p.required.toList <+: literal ∨ ¬ q.required.toList <+: literal := by
  by_cases starts : p.required.toList <+: literal
  · right
    intro alsoStarts
    cases List.prefix_or_prefix_of_prefix starts alsoStarts with
    | inl weaker => exact apart weaker
    | inr weaker => exact differ weaker
  · exact .inl starts

theorem quoted_refused (w : Wording) (quoted : '"' ∈ w.required.toList) (literal : List Char)
    (unquoted : '"' ∉ literal) : ¬ w.required.toList <+: literal := by
  intro starts
  exact unquoted (starts.subset quoted)

theorem check_empty (number : Nat) (line : List Char) : check ⟨""⟩ number line = none := by
  rw [check_none_call_iff]
  cases found : Call.find? line with
  | none => exact .inl rfl
  | some call => exact .inr ⟨call, rfl, List.nil_prefix⟩

end Wording

structure Graded (lines : List (List Char)) (scan : Wording → List Violation) : Prop where
  monotone : ∀ p q : Wording, p.Weaker q → (scan p).Sublist (scan q)
  consistent : ∀ p q, ∀ v ∈ scan p, ∀ u ∈ scan q, v.line = u.line → v = u
  covering : ∀ p q : Wording, ¬ p.Weaker q → ¬ q.Weaker p →
    ∀ k line, lines[k]? = some line → Call.Present line →
      ∃ v, v.line = k + 1 ∧ (v ∈ scan p ∨ v ∈ scan q)
  quoted : ∀ p : Wording, '"' ∈ p.required.toList →
    ∀ k line, lines[k]? = some line → Call.Present line → ∃ v ∈ scan p, v.line = k + 1
  empty : scan ⟨""⟩ = []

namespace Wording

theorem check_lines_same (p q : Wording) (first : Nat) (lines : List (List Char))
    (v u : Violation) (one : v ∈ p.checkLines first lines) (other : u ∈ q.checkLines first lines)
    (level : v.line = u.line) : v = u := by
  obtain ⟨k, line, place, judged⟩ := (p.mem_check_lines_iff first lines v).mp one
  obtain ⟨j, again, placeAgain, judgedAgain⟩ := (q.mem_check_lines_iff first lines u).mp other
  have vLine := p.check_line_number _ line v judged
  have uLine := q.check_line_number _ again u judgedAgain
  have index : k = j := by omega
  subst index
  have same : line = again := Option.some.inj (place.symm.trans placeAgain)
  subst same
  exact check_same p q _ line v u judged judgedAgain

theorem check_lines_refused (w : Wording) (lines : List (List Char)) (k : Nat)
    (line : List Char) (call : Call) (place : lines[k]? = some line)
    (found : Call.find? line = some call) (refused : ¬ w.required.toList <+: call.literal) :
    violationOf (1 + k) call ∈ w.checkLines 1 lines :=
  (w.mem_check_lines_iff 1 lines _).mpr
    ⟨k, line, place, w.check_refused (1 + k) line call found refused⟩

theorem check_lines_empty (first : Nat) (lines : List (List Char)) :
    checkLines ⟨""⟩ first lines = [] := by
  induction lines generalizing first with
  | nil => rfl
  | cons line rest ih =>
      simp [check_empty, ih]

theorem check_lines_graded (lines : List (List Char)) :
    Graded lines fun w => w.checkLines 1 lines := by
  refine ⟨?_, ?_, ?_, ?_, ?_⟩
  · intro p q weaker
    exact p.check_lines_stricter q weaker 1 lines
  · intro p q v one u other level
    exact check_lines_same p q 1 lines v u one other level
  · intro p q apart differ k line place present
    obtain ⟨call, found⟩ := Call.find_some_of_present line present
    refine ⟨violationOf (1 + k) call, Nat.add_comm 1 k, ?_⟩
    cases one_refused p q apart differ call.literal with
    | inl refused => exact .inl (p.check_lines_refused lines k line call place found refused)
    | inr refused => exact .inr (q.check_lines_refused lines k line call place found refused)
  · intro p quoted k line place present
    obtain ⟨call, found⟩ := Call.find_some_of_present line present
    have refused := p.quoted_refused quoted call.literal (Call.find_unquoted line call found)
    exact ⟨violationOf (1 + k) call, p.check_lines_refused lines k line call place found refused,
      Nat.add_comm 1 k⟩
  · exact check_lines_empty 1 lines

theorem scan_text_graded (text : List Char) :
    Graded (text.splitOn '\n') fun w => w.scanText text := by
  simp only [scan_text_pieces]
  exact check_lines_graded (text.splitOn '\n')

theorem strictness_graded :
    (∀ text : List Char, Graded (text.splitOn '\n') fun w => w.scanText text) ∧
      (∀ deliveries content, Delivers deliveries content →
        (∃ text, content = Utf8.encode text ∧
          ∀ w : Wording, w.scanDeliveries deliveries = .ok (w.scanText text)) ∨
        (∀ text, content ≠ Utf8.encode text) ∧
          ∀ w : Wording, w.scanDeliveries deliveries = .error .undecodable) ∧
      ∀ deliveries, ∃ events lines outcome,
        Begins deliveries events ∧ Decides events lines outcome ∧
          ∃ scan, Graded lines scan ∧
            ∀ w : Wording, w.scanDeliveries deliveries = outcome.map fun _ => scan w := by
  refine ⟨scan_text_graded, ?_, ?_⟩
  · intro deliveries content delivers
    cases decoded : Utf8.decode? content with
    | some text =>
        refine .inl ⟨text, (Utf8.decode_some_iff content text).mp decoded, ?_⟩
        intro w
        rw [scan_delivered w deliveries content delivers, decoded]
    | none =>
        refine .inr ⟨(Utf8.decode_none_iff content).mp decoded, ?_⟩
        intro w
        rw [scan_delivered w deliveries content delivers, decoded]
  · intro deliveries
    obtain ⟨events, lines, outcome, begins, decides⟩ := some_events_decide deliveries
    refine ⟨events, lines, outcome, begins, decides, _, check_lines_graded lines, ?_⟩
    intro w
    exact scan_decides w deliveries events lines outcome begins decides

def twoLines : List Char :=
  "fmt.Errorf(\"x\")\nfmt.Errorf(\"fail\"), fmt.Errorf(\"y\")".toList

theorem graded_two_lines :
    scanText ⟨"fa"⟩ twoLines = [⟨1, 13, 13, "x"⟩] ∧
      [⟨1, 13, 13, "x"⟩].Sublist (standard.scanText twoLines) ∧
      ∃ v, v.line = 2 ∧ (v ∈ scanText ⟨"fa"⟩ twoLines ∨ v ∈ scanText ⟨"to"⟩ twoLines) := by
  have graded := strictness_graded.1 twoLines
  have found : scanText ⟨"fa"⟩ twoLines = [⟨1, 13, 13, "x"⟩] := by decide +kernel
  have present : Call.Present "fmt.Errorf(\"fail\"), fmt.Errorf(\"y\")".toList :=
    ⟨[], "fail".toList, "), fmt.Errorf(\"y\")".toList, by decide, by decide, by decide⟩
  have weaker := graded.monotone ⟨"fa"⟩ standard (by decide)
  have covered := graded.covering ⟨"fa"⟩ ⟨"to"⟩ (by decide) (by decide) 1 _ (by decide) present
  rw [found] at weaker
  exact ⟨found, weaker, covered⟩

end Wording

end ErrorWording
