import ErrorWording.Proofs.ExitStatus
import ErrorWording.Proofs.LogLevel
import ErrorWording.Proofs.CommandGrammar

set_option autoImplicit false

namespace ErrorWording

namespace Outcome

def AlikeButMessages (o p : Outcome) : Prop :=
  p = { o with messages := p.messages }

structure Shows (o : Outcome) (ran : World × Except RunFault Tally) : Prop where
  outlet : o.outlet = ran.1.outlet
  store : o.store = ran.1.store
  exitCode : o.exitCode =
    match ran.2 with
    | .ok t => t.exitCode
    | .error _ => 1

theorem shows_alike (o p : Outcome) (ran : World × Except RunFault Tally) (first : o.Shows ran)
    (second : p.Shows ran) : o.AlikeButMessages p := by
  have outlet := second.outlet.trans first.outlet.symm
  have store := second.store.trans first.store.symm
  have exitCode := second.exitCode.trans first.exitCode.symm
  rw [AlikeButMessages, ← outlet, ← store, ← exitCode]

end Outcome

/-- The count goes to the file that is written, or else to the environment's, or else to the
output. -/
def ArgumentList.destination (list : ArgumentList) (environment : Option Bytes) : Destination :=
  match (list.options.lookup .summaryFile).or environment with
  | some path => .file ⟨path⟩
  | none => .output

def Arguments.linter (a : Arguments) : Linter :=
  ⟨⟨a.wording⟩, .ofPath? a.summaryFile⟩

theorem Linter.run_any_journal (r : Linter) (store : Store) (outlet : Output)
    (journal other : List Record) (paths : List Path) :
    (r.run ⟨store, outlet, other⟩ paths).1.outlet =
        (r.run ⟨store, outlet, journal⟩ paths).1.outlet ∧
      (r.run ⟨store, outlet, other⟩ paths).1.store =
        (r.run ⟨store, outlet, journal⟩ paths).1.store ∧
      (r.run ⟨store, outlet, other⟩ paths).2 = (r.run ⟨store, outlet, journal⟩ paths).2 := by
  obtain ⟨notes, ran⟩ := r.run_offer ⟨store, outlet, journal⟩ paths
  obtain ⟨others, reran⟩ := r.run_offer ⟨store, outlet, other⟩ paths
  rw [ran, reran]
  exact ⟨rfl, rfl, rfl⟩

theorem Settings.of_arguments_linter (a : Arguments) (worded : a.wording ≠ "") :
    ∃ s, ofArguments a = .ok s ∧ s.files = a.files ∧ s.linter = a.linter := by
  refine ⟨_, if_neg worded, rfl, ?_⟩
  rw [linter, Arguments.linter]
  cases a.summaryFile with
  | none => rfl
  | some path =>
      by_cases empty : path.bytes = []
      · simp [Option.filter, Destination.ofPath?, empty]
      · simp [Option.filter, Destination.ofPath?, empty]

theorem ArgumentList.given_linter (list : ArgumentList) (environment : Option Bytes)
    (a : Arguments) (gives : list.Gives environment a) :
    a.linter = ⟨⟨a.wording⟩, list.destination environment⟩ := by
  obtain ⟨present, named⟩ := gives.summaryFile
  rw [Arguments.linter, named, destination]
  cases chosen : (list.options.lookup .summaryFile).or environment with
  | none => rfl
  | some path =>
      have nonempty : path ≠ [] := by
        intro empty
        rw [chosen, empty] at present
        exact present rfl
      simp only [Option.map_some, Destination.ofPath?, nonempty, if_false]

namespace Program

theorem lint_leaves (time : String) (i : Invocation) (s : Settings) (store : Store)
    (outlet : Outlet) :
    (lint time i s store outlet).Shows
      (s.linter.run ⟨store, outlet, [.started s.files.length]⟩ s.files) := by
  refine ⟨?_, ?_, lint_exit_result time i s store outlet⟩
  · simp only [lint]
  · simp only [lint]

theorem lint_shows (time : String) (i : Invocation) (s : Settings) (store : Store)
    (outlet : Outlet) (journal : List Record) :
    (lint time i s store outlet).Shows (s.linter.run ⟨store, outlet, journal⟩ s.files) := by
  have left := lint_leaves time i s store outlet
  obtain ⟨output, files, result⟩ := s.linter.run_any_journal store outlet journal
    [.started s.files.length] s.files
  have status := left.exitCode
  rw [result] at status
  exact ⟨left.outlet.trans output, left.store.trans files, status⟩

section Run

variable (time : String) (i : Invocation) (store : Store) (outlet : Outlet)

theorem run_shows (a : Arguments) (journal : List Record)
    (parsed : Arguments.parse i.arguments i.summaryVariable = .ok a) (worded : a.wording ≠ "") :
    (run time i store outlet).Shows (a.linter.run ⟨store, outlet, journal⟩ a.files) := by
  obtain ⟨s, accepted, files, linter⟩ := Settings.of_arguments_linter a worded
  have shows := lint_shows time i s store outlet journal
  rw [files, linter] at shows
  simpa only [run, plan, parsed, accepted] using shows

theorem run_wordless (a : Arguments)
    (parsed : Arguments.parse i.arguments i.summaryVariable = .ok a) (wordless : a.wording = "") :
    run time i store outlet = ⟨1, store, outlet, failure SettingsFault.emptyWording.text⟩ := by
  simp only [run, plan, parsed, Settings.ofArguments, wordless, if_true]

theorem run_fault (f : UsageFault)
    (parsed : Arguments.parse i.arguments i.summaryVariable = .error (.fault f)) :
    run time i store outlet =
      ⟨1, store, outlet, (Ending.fault f).render .stream (nameOf i.called) i.summaryVariable⟩ := by
  simp only [run, plan, parsed, Ending.isFault, if_true]

theorem run_query (q : Query)
    (parsed : Arguments.parse i.arguments i.summaryVariable = .error (.query q)) :
    run time i store outlet =
      ⟨0, store, (outlet.offer (bytesOf
        ((Ending.query q).render .stream (nameOf i.called) i.summaryVariable))).1, ""⟩ := by
  simp [run, plan, parsed, Ending.isFault]

theorem run_given_alike (later : String) (j : Invocation) (a b : Arguments)
    (first : Arguments.parse i.arguments i.summaryVariable = .ok a)
    (second : Arguments.parse j.arguments j.summaryVariable = .ok b) (alike : a.AlikeButLevel b) :
    (run time i store outlet).AlikeButMessages (run later j store outlet) := by
  have wording : b.wording = a.wording := by rw [alike]
  by_cases wordless : a.wording = ""
  · rw [run_wordless time i store outlet a first wordless,
      run_wordless later j store outlet b second (wording.trans wordless)]
    rfl
  · have worded : b.wording ≠ "" := by rwa [wording]
    have linter : b.linter = a.linter := by rw [alike]; rfl
    have files : b.files = a.files := by rw [alike]
    have again := run_shows later j store outlet b [] second worded
    rw [linter, files] at again
    exact Outcome.shows_alike _ _ _ (run_shows time i store outlet a [] first wordless) again

theorem run_parsed_alike (later : String) (others : List Bytes) (filter : Option Bytes)
    (alike : Likewise Arguments.AlikeButLevel (Arguments.parse i.arguments i.summaryVariable)
      (Arguments.parse others i.summaryVariable)) :
    (run time i store outlet).AlikeButMessages
      (run later { i with arguments := others, filterVariable := filter } store outlet) := by
  generalize first : Arguments.parse i.arguments i.summaryVariable = read at alike
  generalize second : Arguments.parse others i.summaryVariable = reread at alike
  cases alike with
  | ok a b alike => exact run_given_alike time i store outlet later _ a b first second alike
  | query q =>
      rw [run_query time i store outlet q first, run_query later _ store outlet q second]
      rfl
  | fault f g =>
      rw [run_fault time i store outlet f first, run_fault later _ store outlet g second]
      rfl

theorem run_unusable
    (unusable : ∀ a, Arguments.parse i.arguments i.summaryVariable = .ok a → a.wording = "") :
    (∀ other, run time i other outlet = { run time i store outlet with store := other }) ∧
      ((∀ q, Arguments.parse i.arguments i.summaryVariable ≠ .error (.query q)) →
        (run time i store outlet).outlet = outlet) := by
  cases parsed : Arguments.parse i.arguments i.summaryVariable with
  | ok a =>
      have wordless := unusable a parsed
      have ran := fun files => run_wordless time i files outlet a parsed wordless
      simp only [ran, implies_true, and_self]
  | error e =>
      cases e with
      | fault f =>
          have ran := fun files => run_fault time i files outlet f parsed
          simp only [ran, implies_true, and_self]
      | query q =>
          have ran := fun files => run_query time i files outlet q parsed
          simp only [ran, implies_true, true_and]
          intro none
          exact absurd rfl (none q)

theorem run_undisturbed :
    (∀ a, Arguments.parse i.arguments i.summaryVariable = .ok a → a.wording ≠ "" →
      ∃ list : ArgumentList, i.arguments = list.written ∧ list.Gives i.summaryVariable a ∧
        ∀ journal, (run time i store outlet).Shows
          ((Linter.mk ⟨a.wording⟩ (list.destination i.summaryVariable)).run
            ⟨store, outlet, journal⟩ a.files)) ∧
    (∀ (later : String) (others : List Bytes) (filter : Option Bytes),
      SameButLevel i.arguments others →
        (run time i store outlet).AlikeButMessages
          (run later { i with arguments := others, filterVariable := filter } store outlet)) ∧
    (∀ (later : String) (j : Invocation) (a b : Arguments),
      Arguments.parse i.arguments i.summaryVariable = .ok a →
      Arguments.parse j.arguments j.summaryVariable = .ok b → a.AlikeButLevel b →
        (run time i store outlet).AlikeButMessages (run later j store outlet)) ∧
    ((∀ a, Arguments.parse i.arguments i.summaryVariable = .ok a → a.wording = "") →
      (∀ other, run time i other outlet = { run time i store outlet with store := other }) ∧
        ((∀ q, Arguments.parse i.arguments i.summaryVariable ≠ .error (.query q)) →
          (run time i store outlet).outlet = outlet)) := by
  refine ⟨?_, ?_, ?_, run_unusable time i store outlet⟩
  · intro a parsed worded
    obtain ⟨list, written, gives⟩ := (Intake.parse_iff _ _ a).mp parsed
    refine ⟨list, written, gives, ?_⟩
    intro journal
    rw [← list.given_linter i.summaryVariable a gives]
    exact run_shows time i store outlet a journal parsed worded
  · intro later others filter same
    have alike := Arguments.parse_alike i.arguments others i.summaryVariable same
    exact run_parsed_alike time i store outlet later others filter alike
  · intro later j a b first second alike
    exact run_given_alike time i store outlet later j a b first second alike

end Run

def levelless : Invocation where
  called := none
  arguments := [bytesOf "--log-level", bytesOf "a/b/c", bytesOf "a"]
  summaryVariable := some (bytesOf "s")
  filterVariable := some (bytesOf "trace")

def wordless : Invocation := ⟨none, [bytesOf "--prefix=", bytesOf "a"], none, none⟩

theorem run_levelless_undisturbed :
    (run "" levelless .fresh .boundless).store.lookup (Store.workplace ++ [bytesOf "s"]) =
        some (.file (bytesOf "### Go Error Message Linting\n\nFound 1 formatting error(s).\n")) ∧
      (run "" levelless .fresh .boundless).AlikeButMessages
        (run "" ⟨none, [bytesOf "--log-level", bytesOf "off", bytesOf "a"], some (bytesOf "s"), none⟩
          .fresh .boundless) ∧
      (run "" levelless .fresh .boundless).AlikeButMessages
        (run "" ⟨none, [bytesOf "a"], some (bytesOf "s"), none⟩ .fresh .boundless) ∧
      (run "" wordless .fresh .boundless).outlet = .boundless := by
  have parsed : Arguments.parse levelless.arguments levelless.summaryVariable =
      .ok ⟨[⟨bytesOf "a"⟩], "failed to", some ⟨bytesOf "s"⟩, "a/b/c"⟩ := rfl
  obtain ⟨runs, levels, given, _⟩ := run_undisturbed "" levelless .fresh .boundless
  obtain ⟨_, _, _, unusable⟩ := run_undisturbed "" wordless .fresh .boundless
  refine ⟨?_, ?_, ?_, ?_⟩
  · obtain ⟨list, _, gives, shows⟩ := runs _ parsed (by decide)
    rw [(shows []).store, ← list.given_linter _ _ gives]
    decide +kernel
  · exact levels "" _ none (.separate "a/b/c" "off" _ _ (by decide) (by decide)
      (.same _ _ _ (by decide) .done))
  · exact given "" _ _ _ parsed rfl rfl
  · refine (unusable ?_).2 ?_
    · intro a given
      cases given
      rfl
    · intro q asked
      cases asked

end Program

end ErrorWording
