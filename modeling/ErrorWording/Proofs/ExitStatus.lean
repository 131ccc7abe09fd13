import ErrorWording.Program
import ErrorWording.Proofs.Curtail

set_option autoImplicit false

namespace ErrorWording

/-- What ends with status 0: a question about the program, and a run over files without a finding. -/
def Invocation.Passes (i : Invocation) (store : Store) : Prop :=
  (∃ q, Arguments.parse i.arguments i.summaryVariable = .error (.query q)) ∨
    ∃ a, Arguments.parse i.arguments i.summaryVariable = .ok a ∧ a.wording ≠ "" ∧
      ∀ p ∈ a.files, (Wording.mk a.wording).inspect store p = .ok []

namespace Linter

theorem reports_nil_iff (r : Linter) (s : Store) (paths : List Path) :
    r.reports s paths = [] ↔ ∀ p ∈ paths, r.wording.inspect s p = .ok [] := by
  rw [reports, List.flatMap_eq_nil_iff]
  simp only [report_nil_iff r ⟨s, .boundless, []⟩, scan_result]

theorem listing_clean (r : Linter) (s : Store) (t : Tally) (paths : List Path)
    (clean : r.reports s paths = []) : r.listing s t paths = [] := by
  induction paths generalizing t with
  | nil => rfl
  | cons p rest ih =>
      obtain ⟨first, others⟩ := List.append_eq_nil_iff.mp clean
      have silent : pages (r.report s p) = [] := by rw [first]; rfl
      rw [listing, silent, List.nil_append]
      cases t.record? (r.report s p).length with
      | none => rfl
      | some next => exact ih next others

theorem run_clean (r : Linter) (world : World) (paths : List Path)
    (flushes : world.outlet.flush.2 = none) (clean : r.reports world.store paths = []) :
    (r.run world paths).2 = .ok .zero := by
  obtain ⟨notes, ran⟩ := r.run_offer world paths
  have count : r.count? world.store paths = some .zero := by
    simp [clean, Tally.zero]
  have closing : (r.destination.closing world.store .zero).pieces = [] := rfl
  have silent : r.transcript world.store paths = [] := by
    rw [transcript, r.listing_clean world.store .zero paths clean, count, List.nil_append]
    exact closing
  rw [ran, silent, count, Output.conclude_ok_iff]
  exact ⟨rfl, rfl, flushes⟩

end Linter

namespace Program

theorem lint_exit_result (time : String) (i : Invocation) (s : Settings) (store : Store)
    (outlet : Outlet) :
    (lint time i s store outlet).exitCode =
      match (s.linter.run ⟨store, outlet, [.started s.files.length]⟩ s.files).2 with
      | .ok t => t.exitCode
      | .error _ => 1 := by
  simp only [lint, verdict]
  cases (s.linter.run ⟨store, outlet, [.started s.files.length]⟩ s.files).2 <;> rfl

theorem lint_exit (time : String) (i : Invocation) (s : Settings) (store : Store)
    (outlet : Outlet) (flushes : outlet.flushFault = none) :
    (lint time i s store outlet).exitCode =
      if s.linter.reports store s.files = [] then 0 else 1 := by
  rw [lint_exit_result]
  by_cases clean : s.linter.reports store s.files = []
  · have quiet : (Output.flush outlet).2 = none := by simp [Output.flush, Outlet.flush, flushes]
    have zero := s.linter.run_clean ⟨store, outlet, [.started s.files.length]⟩ s.files quiet clean
    rw [if_pos clean, zero]
    rfl
  · rw [if_neg clean]
    cases result : (s.linter.run ⟨store, outlet, [.started s.files.length]⟩ s.files).2 with
    | error f => rfl
    | ok t =>
        have total := s.linter.run_total _ s.files t result
        have many : t.total ≠ 0 := by
          rw [total, ne_eq, List.length_eq_zero_iff]
          exact clean
        have errors : t.hasErrors = true := decide_eq_true (Nat.pos_of_ne_zero many)
        exact if_pos errors

theorem run_exit (time : String) (i : Invocation) (store : Store) (outlet : Outlet)
    (flushes : outlet.flushFault = none) :
    (run time i store outlet).exitCode = 0 ∧ i.Passes store ∨
      (run time i store outlet).exitCode = 1 ∧ ¬ i.Passes store := by
  unfold Invocation.Passes
  cases parsed : Arguments.parse i.arguments i.summaryVariable with
  | error e =>
      simp only [run, plan, parsed]
      cases e <;> simp [Ending.isFault]
  | ok a =>
      simp only [run, plan, parsed]
      by_cases empty : a.wording = ""
      · simp [Settings.ofArguments, empty]
      · obtain ⟨s, accepted, files, wording⟩ : ∃ s, Settings.ofArguments a = .ok s ∧
            s.files = a.files ∧ s.linter.wording = ⟨a.wording⟩ := ⟨_, if_neg empty, rfl, rfl⟩
        have silent := s.linter.reports_nil_iff store s.files
        rw [files, wording] at silent
        simp only [accepted, lint_exit time i s store outlet flushes, files]
        by_cases clean : ∀ p ∈ a.files, (Wording.mk a.wording).inspect store p = .ok []
        · exact .inl ⟨if_pos (silent.mpr clean), .inr ⟨a, rfl, empty, clean⟩⟩
        · refine .inr ⟨if_neg fun none => clean (silent.mp none), ?_⟩
          rintro (⟨q, ⟨⟩⟩ | ⟨b, same, _, others⟩)
          cases same
          exact clean others

theorem passes_same (i j : Invocation) (store after : Store) (a b : Arguments)
    (first : Arguments.parse i.arguments i.summaryVariable = .ok a)
    (second : Arguments.parse j.arguments j.summaryVariable = .ok b)
    (files : b.files = a.files) (wording : b.wording = a.wording)
    (judged : ∀ p ∈ a.files,
      (Wording.mk a.wording).inspect after p = (Wording.mk a.wording).inspect store p) :
    j.Passes after ↔ i.Passes store := by
  have clean : (∀ p ∈ a.files, (Wording.mk a.wording).inspect after p = .ok []) ↔
      ∀ p ∈ a.files, (Wording.mk a.wording).inspect store p = .ok [] :=
    forall₂_congr fun p member => by rw [judged p member]
  unfold Invocation.Passes
  rw [first, second]
  simp only [reduceCtorEq, exists_false, false_or, Except.ok.injEq, exists_eq_left', files, wording,
    clean]

theorem exit_status (time : String) (i : Invocation) (store : Store) (outlet : Outlet)
    (flushes : outlet.flushFault = none) :
    ((run time i store outlet).exitCode = 0 ↔ i.Passes store) ∧
    ((run time i store outlet).exitCode = 1 ↔ ¬ i.Passes store) ∧
    ∀ (later : String) (j : Invocation) (after : Store) (other : Outlet) (a b : Arguments),
      other.flushFault = none →
      Arguments.parse i.arguments i.summaryVariable = .ok a →
      Arguments.parse j.arguments j.summaryVariable = .ok b →
      b.files = a.files → b.wording = a.wording →
      (∀ p ∈ a.files,
        (Wording.mk a.wording).inspect after p = (Wording.mk a.wording).inspect store p) →
      (run later j after other).exitCode = (run time i store outlet).exitCode := by
  have here := run_exit time i store outlet flushes
  refine ⟨?_, ?_, ?_⟩
  · rcases here with ⟨zero, passes⟩ | ⟨one, fails⟩
    · simp only [zero, passes]
    · simp only [one, fails, Nat.one_ne_zero]
  · rcases here with ⟨zero, passes⟩ | ⟨one, fails⟩
    · simp only [zero, passes, Nat.zero_ne_one, not_true_eq_false]
    · simp only [one, fails, not_false_eq_true]
  · intro later j after other a b flushed first second files wording judged
    have there := run_exit later j after other flushed
    rw [passes_same i j store after a b first second files wording judged] at there
    by_cases passes : i.Passes store
    · simp only [passes, not_true_eq_false, and_true, and_false, or_false] at here there
      rw [here, there]
    · simp only [passes, not_false_eq_true, and_true, and_false, false_or] at here there
      rw [here, there]

/-- The journal is silent, and the summary file cannot be made. -/
def silenced : Invocation where
  called := none
  arguments := [bytesOf "--log-level=off", bytesOf "a"]
  summaryVariable := some (bytesOf "no/such")
  filterVariable := some (bytesOf "off")

theorem exit_status_nothing_said :
    (run "" silenced .fresh (.closed .noSpace)).exitCode = 1 := by
  obtain ⟨_, _, alike⟩ :=
    exit_status "" ⟨none, [bytesOf "a"], none, none⟩ .fresh .boundless rfl
  have same := alike "" silenced .fresh (.closed .noSpace)
    ⟨[⟨bytesOf "a"⟩], "failed to", none, "warn"⟩
    ⟨[⟨bytesOf "a"⟩], "failed to", some ⟨bytesOf "no/such"⟩, "off"⟩
    rfl rfl rfl rfl rfl fun _ _ => rfl
  exact same.trans (by decide +kernel)

end Program

end ErrorWording
