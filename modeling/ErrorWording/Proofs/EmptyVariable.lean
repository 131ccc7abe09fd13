import ErrorWording.Program
import ErrorWording.Proofs.CommandGrammar

set_option autoImplicit false

namespace ErrorWording

namespace Intake

theorem settled_knowing (arguments : List Bytes) (t : Intake)
    (settled : settledAfter (fresh.readAll arguments) = some t) :
    ∃ files options, t = knowing files options := by
  have ready : fresh.Ready := fresh.idle_ready rfl
  rcases readable arguments with ⟨list, spelled, rfl⟩ | unread
  · rw [(fresh.read_list list ready spelled).same] at settled
    exact ⟨_, _, ((use_all_some_iff [] [] list.all t .nil).mp settled).2⟩
  · rw [unread fresh ready] at settled
    cases settled

theorem given_summary_file_iff (arguments : List Bytes) (t : Intake)
    (settled : settledAfter (fresh.readAll arguments) = some t) :
    .summaryFile ∈ t.given ↔ t.summaryFile ≠ none := by
  obtain ⟨files, options, rfl⟩ := settled_knowing arguments t settled
  have absent : options.lookup .summaryFile = none ↔ .summaryFile ∉ options.map Prod.fst :=
    lookup_absent_iff .summaryFile
  simp only [knowing, ne_eq, Option.map_eq_none_iff, absent, Classical.not_not]

theorem fall_back_empty (t : Intake) :
    proceed (t.fallBack (some [])) =
      if .summaryFile ∈ t.given then .ok t
      else .error (.fault (.noValue (.parameter .summaryFile))) := by
  by_cases given : .summaryFile ∈ t.given
  · rw [fallBack, if_pos given, if_pos given, proceed]
  · rw [fallBack, if_neg given, if_neg given, assign, if_neg given]
    rfl

theorem parse_stages (arguments : List Bytes) (a : Arguments)
    (parsed : Arguments.parse arguments none = .ok a) :
    ∃ s t, fresh.readAll arguments = .ok s ∧ proceed s.settle = .ok t ∧ s.settled? = some t ∧
      s.finish none = .ok a ∧ a.summaryFile = t.summaryFile := by
  unfold Arguments.parse at parsed
  cases read : fresh.readAll arguments with
  | error e =>
      rw [read] at parsed
      cases parsed
  | ok s =>
      simp only [read] at parsed
      have finished := parsed
      unfold finish at parsed
      rcases s.settle_cases with ⟨e, failed, _⟩ | ⟨t, settled, known⟩
      · simp [failed] at parsed
      · refine ⟨s, t, rfl, settled, known, finished, ?_⟩
        have unchanged : proceed (t.fallBack none) = .ok t := rfl
        simp only [settled, unchanged] at parsed
        by_cases lacking : t.files = []
        · simp [lacking] at parsed
        · rw [if_neg lacking, Except.ok.injEq] at parsed
          rw [← parsed]

end Intake

theorem Arguments.parse_empty_variable (arguments : List Bytes) (a : Arguments)
    (parsed : parse arguments none = .ok a) :
    parse arguments (some []) =
      if a.summaryFile = none then .error (.fault (.noValue (.parameter .summaryFile)))
      else .ok a := by
  obtain ⟨s, t, read, settled, known, finished, file⟩ := Intake.parse_stages arguments a parsed
  have given := Intake.given_summary_file_iff arguments t (by rw [read]; exact known)
  simp only [parse, read]
  unfold Intake.finish at finished ⊢
  simp only [settled, Intake.fall_back_empty] at finished ⊢
  by_cases none : t.summaryFile = none
  · simp [given, file, none]
  · simp only [given, file, none, ne_eq, not_false_eq_true, if_true, if_false]
    exact finished

namespace Program

def emptyVariableText : String :=
  "error: a value is required for '--summary-file <PATH>' but none was supplied\n\n" ++
    "For more information, try '--help'.\n"

theorem empty_variable_rendered (program : String) (environment : Option Bytes) :
    (Ending.fault (.noValue (.parameter .summaryFile))).render .stream program environment =
      emptyVariableText := by
  -- Neither the program's name nor the variable occurs in it.
  have same : (Ending.fault (.noValue (.parameter .summaryFile))).text program environment =
      (Ending.fault (.noValue (.parameter .summaryFile))).text "" none := rfl
  rw [Ending.render, same]
  decide +kernel

theorem run_empty_variable (time : String) (i : Invocation) (store : Store) (outlet : Outlet)
    (a : Arguments) (parsed : Arguments.parse i.arguments none = .ok a) :
    (a.summaryFile ≠ none →
      Arguments.parse i.arguments (some []) = .ok a ∧
        run time { i with summaryVariable := some [] } store outlet =
          run time { i with summaryVariable := none } store outlet) ∧
    (a.summaryFile = none →
      Arguments.parse i.arguments (some []) =
          .error (.fault (.noValue (.parameter .summaryFile))) ∧
        run time { i with summaryVariable := some [] } store outlet =
          ⟨1, store, outlet, emptyVariableText⟩) := by
  have empty := Arguments.parse_empty_variable i.arguments a parsed
  constructor
  · intro named
    rw [if_neg named] at empty
    refine ⟨empty, ?_⟩
    rw [run, run, plan, plan, empty, parsed]
    rfl
  · intro unnamed
    rw [if_pos unnamed] at empty
    refine ⟨empty, ?_⟩
    rw [run, plan, empty]
    simp only [Ending.isFault, if_true, empty_variable_rendered]

def cleanStore : Store :=
  Store.fresh.put (Store.workplace ++ [bytesOf "a.go"]) (.file [])

def oneFile : Invocation := ⟨none, [bytesOf "a.go"], none, none⟩

def oneFileArguments : Arguments := ⟨[⟨bytesOf "a.go"⟩], "failed to", none, "warn"⟩

theorem run_clean_file_empty_variable :
    (run "" oneFile cleanStore .boundless).exitCode = 0 ∧
      run "" { oneFile with summaryVariable := some [] } cleanStore .boundless =
        ⟨1, cleanStore, .boundless, emptyVariableText⟩ := by
  obtain ⟨_, unnamed⟩ :=
    run_empty_variable "" oneFile cleanStore .boundless oneFileArguments rfl
  exact ⟨by decide +kernel, (unnamed rfl).2⟩

theorem empty_variable_not_unset :
    ¬ ∀ (arguments : List Bytes) (a : Arguments) (s : Settings),
      Arguments.parse arguments none = .ok a → Settings.ofArguments a = .ok s →
        ∃ b, Arguments.parse arguments (some []) = .ok b ∧ Settings.ofArguments b = .ok s := by
  intro same
  have refused : Arguments.parse oneFile.arguments (some []) =
      .error (.fault (.noValue (.parameter .summaryFile))) := rfl
  obtain ⟨b, parsed, _⟩ := same oneFile.arguments oneFileArguments
    ⟨[⟨bytesOf "a.go"⟩], "failed to", none, "warn"⟩ rfl rfl
  cases refused.symm.trans parsed

end Program

end ErrorWording
