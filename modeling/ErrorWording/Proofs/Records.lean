import ErrorWording.Proofs.Curtail

set_option autoImplicit false

namespace ErrorWording

/-- The records of these paths, by how their files turned out, with all violations that the records
tell of and the number of files that could not be judged. -/
inductive Entries (r : Linter) (world : World) : List Path → List Record → Nat → Nat → Prop where
  | none : Entries r world [] [] 0 0
  | judged (p : Path) (rest : List Path) (records : List Record) (violations failures : Nat)
      (found : List Violation) (scanned : (r.scan world p).2 = .ok found)
      (others : Entries r world rest records violations failures) :
      Entries r world (p :: rest)
        (⟨.debug, "errorf_lint::scanner::engine",
          p.display ++ ": " ++ toString found.length ++ " violation(s)"⟩ :: records)
        (found.length + violations) failures
  | failed (p : Path) (rest : List Path) (records : List Record) (violations failures : Nat)
      (f : ScanFault) (unscanned : (r.scan world p).2 = .error f)
      (others : Entries r world rest records violations failures) :
      Entries r world (p :: rest)
        (⟨.debug, "errorf_lint::report::reporter", p.display ++ ": " ++ f.text⟩ :: records)
        violations (failures + 1)

inductive Warned (d : Destination) (s : Store) (t : Tally) : List Record → Prop where
  | unsaved (p : Path) (f : Fault) (sink : d = .file p) (errors : 0 < t.total)
      (refused : (s.append p t.blockPieces).2 = some f) :
      Warned d s t
        [⟨.warn, "errorf_lint::report::summary",
          "Failed to append summary to " ++ p.display ++ ": " ++ f.text⟩]
  | quiet (saved : ∀ p, d = .file p → 0 < t.total → (s.append p t.blockPieces).2 = none) :
      Warned d s t []

namespace Linter

/-- Why a run goes no further than this path: the output refuses some of its lines, or its errors do
not fit into the count. -/
inductive GivesUp (r : Linter) (world : World) (before : List Path) (p : Path) :
    RunFault → Prop where
  | refused (halt : Halt)
      (whole : (world.outlet.offerAll (pages (r.diagnostics world before))).2 = none)
      (part : (world.outlet.offerAll (pages (r.diagnostics world (before ++ [p])))).2 = some halt) :
      GivesUp r world before p (.output halt)
  | overflowed
      (taken : (world.outlet.offerAll (pages (r.diagnostics world (before ++ [p])))).2 = none)
      (excess : UInt64.size ≤ (r.diagnostics world (before ++ [p])).length) :
      GivesUp r world before p .overflow

inductive Reaches (r : Linter) (world : World) (paths : List Path) :
    Except RunFault Tally → List Path → Prop where
  | all (t : Tally) (total : t.total = (r.diagnostics world paths).length)
      (taken : (world.outlet.offerAll (pages (r.diagnostics world paths))).2 = none) :
      Reaches r world paths (.ok t) paths
  | upTo (before later : List Path) (p : Path) (fault : RunFault)
      (split : paths = before ++ p :: later) (gives : GivesUp r world before p fault) :
      Reaches r world paths (.error fault) (before ++ [p])

theorem entries_next (r : Linter) (world : World) (p : Path) (rest : List Path)
    (records : List Record) (violations failures : Nat)
    (entries : Entries r world rest records violations failures) :
    ∃ more failed, Entries r world (p :: rest) (r.record world.store p :: records) more failed ∧
      more + failed = (r.report world.store p).length + (violations + failures) := by
  have scanned := r.scan_result world p
  rw [record, report]
  cases judged : r.wording.inspect world.store p with
  | ok found =>
      rw [judged] at scanned
      refine ⟨_, _, .judged p rest records violations failures found scanned entries, ?_⟩
      rw [Wording.diagnose, List.length_map, Nat.add_assoc]
  | error f =>
      rw [judged] at scanned
      refine ⟨_, _, .failed p rest records violations failures f scanned entries, ?_⟩
      rw [Wording.diagnose, List.length_singleton]
      omega

theorem entries_of_paths (r : Linter) (world : World) (paths : List Path) :
    ∃ violations failures,
      Entries r world paths (paths.map (r.record world.store)) violations failures ∧
        violations + failures = (r.diagnostics world paths).length := by
  induction paths with
  | nil => exact ⟨0, 0, .none, rfl⟩
  | cons p rest ih =>
      obtain ⟨violations, failures, entries, total⟩ := ih
      obtain ⟨more, failed, next, counted⟩ :=
        r.entries_next world p rest _ violations failures entries
      refine ⟨more, failed, next, ?_⟩
      rw [counted, total, diagnostics_eq, diagnostics_eq, reports_cons, List.length_append]

def offered (r : Linter) (start : World) (done : List Path) : World :=
  ⟨start.store, (start.outlet.offerAll (pages (r.diagnostics start done))).1,
    start.journal ++ done.map (r.record start.store)⟩

theorem offered_none (r : Linter) (start : World) : r.offered start [] = start := by
  have nothing : pages (r.diagnostics start []) = [] := rfl
  rw [offered, nothing, List.map_nil, List.append_nil]
  rfl

theorem diagnostics_snoc (r : Linter) (world : World) (done : List Path) (p : Path) :
    r.diagnostics world (done ++ [p]) =
      r.diagnostics world done ++ r.report world.store p := by
  rw [diagnostics_eq, diagnostics_eq, reports_append]
  exact congrArg _ (List.flatMap_singleton _ _)

theorem lint_path_offered (r : Linter) (start : World) (done : List Path) (p : Path)
    (whole : (start.outlet.offerAll (pages (r.diagnostics start done))).2 = none) :
    r.lintPath (r.offered start done) p =
      (r.offered start (done ++ [p]),
        match (start.outlet.offerAll (pages (r.diagnostics start (done ++ [p])))).2 with
        | some halt => .error halt
        | none => .ok (r.report start.store p).length) := by
  have next : start.outlet.offerAll (pages (r.diagnostics start (done ++ [p]))) =
      (r.offered start done).outlet.offerAll (pages (r.report start.store p)) := by
    rw [diagnostics_snoc, pages_append, Output.offer_all_append, offered]
    generalize start.outlet.offerAll (pages (r.diagnostics start done)) = outcome at whole ⊢
    obtain ⟨after, halt⟩ := outcome
    simp only at whole
    rw [whole]
  have world : r.offered start (done ++ [p]) =
      ⟨start.store, ((r.offered start done).outlet.offerAll (pages (r.report start.store p))).1,
        (r.offered start done).journal ++ [r.record start.store p]⟩ := by
    rw [offered, next, List.map_append, List.map_singleton, ← List.append_assoc]
    rfl
  rw [lint_path_offer, next, world]
  rfl

theorem lint_paths_reaches (r : Linter) (start : World) (done rest : List Path) (t : Tally)
    (whole : (start.outlet.offerAll (pages (r.diagnostics start done))).2 = none)
    (total : t.total = (r.diagnostics start done).length) :
    ∃ reached,
      Reaches r start (done ++ rest) (r.lintPaths (r.offered start done) t rest).2 reached ∧
        (r.lintPaths (r.offered start done) t rest).1.journal =
          start.journal ++ reached.map (r.record start.store) := by
  -- `done` is what the run has behind it: its lines are taken, and `t` counts its errors.
  induction rest generalizing done t with
  | nil =>
      rw [List.append_nil]
      exact ⟨done, .all t total whole, rfl⟩
  | cons p rest ih =>
      have longer : done ++ p :: rest = (done ++ [p]) ++ rest := by simp
      have errors : (r.diagnostics start (done ++ [p])).length =
          t.total + (r.report start.store p).length := by
        rw [diagnostics_snoc, List.length_append, total]
      rw [lint_paths_cons, r.lint_path_offered start done p whole]
      cases taken : (start.outlet.offerAll (pages (r.diagnostics start (done ++ [p])))).2 with
      | some halt =>
          exact ⟨done ++ [p], .upTo done rest p _ rfl (.refused halt whole taken), rfl⟩
      | none =>
          cases recorded : t.record? (r.report start.store p).length with
          | none =>
              have excess := (t.record?_eq_none_iff _).mp recorded
              rw [← errors] at excess
              simp only [recorded]
              exact ⟨done ++ [p], .upTo done rest p _ rfl (.overflowed taken excess), rfl⟩
          | some next =>
              have sum : next.total = t.total + (r.report start.store p).length :=
                (t.record?_eq_some_iff next _).mp recorded
              simp only [recorded]
              rw [longer]
              exact ih (done ++ [p]) next taken (sum.trans errors.symm)

theorem run_reaches (r : Linter) (world : World) (paths : List Path) :
    ∃ reached, Reaches r world paths (r.lintPaths world .zero paths).2 reached ∧
      (r.lintPaths world .zero paths).1.journal =
        world.journal ++ reached.map (r.record world.store) := by
  have nothing : pages (r.diagnostics world []) = [] := rfl
  have reaches := r.lint_paths_reaches world [] paths .zero
    (by rw [nothing]; rfl) rfl
  rwa [offered_none] at reaches

end Linter

theorem closing_warned (d : Destination) (s : Store) (t : Tally) :
    Warned d s t (d.closing s t).notes := by
  unfold Destination.closing
  cases errors : t.hasErrors with
  | false =>
      have none : ¬ 0 < t.total := by simpa [Tally.hasErrors] using errors
      exact .quiet fun p sink some => absurd some none
  | true =>
      have some : 0 < t.total := by simpa [Tally.hasErrors] using errors
      cases d with
      | output =>
          refine .quiet ?_
          intro p sink
          cases sink
      | file p =>
          simp only [if_true]
          cases appended : s.append p t.blockPieces with
          | mk after fault =>
              cases fault with
              | some f => exact .unsaved p f rfl some (by rw [appended])
              | none =>
                  refine .quiet ?_
                  intro q sink _
                  cases sink
                  rw [appended]

namespace Linter

theorem run_journal (r : Linter) (world : World) (paths : List Path) :
    (r.run world paths).1.journal = (r.lintPaths world .zero paths).1.journal ++
      match (r.lintPaths world .zero paths).2 with
      | .ok t => (r.destination.closing (r.lintPaths world .zero paths).1.store t).notes
      | .error _ => [] := by
  rw [run_eq]
  generalize r.lintPaths world .zero paths = outcome
  obtain ⟨after, result⟩ := outcome
  cases result with
  | error f => exact (List.append_nil _).symm
  | ok t =>
      simp only [deliver_offer, World.flush]
      generalize after.outlet.offerAll (r.destination.closing after.store t).pieces = last
      obtain ⟨last, halt⟩ := last
      cases halt with
      | some halt => rfl
      | none =>
          dsimp only
          cases last.flush.2 <;> rfl

def Recorded (r : Linter) (before after : World) (paths : List Path) (t : Tally) : Prop :=
  ∃ records violations failures warnings,
    after.journal = before.journal ++ records ++ warnings ∧
      Entries r before paths records violations failures ∧ t.total = violations + failures ∧
      Warned r.destination before.store t warnings ∧
      (before.outlet.offerAll (pages (r.diagnostics before paths))).2 = none

/-- The paths up to the one where the run gave up left their records, and there is nothing else. -/
def BrokenOff (r : Linter) (before after : World) (paths : List Path) (fault : RunFault) : Prop :=
  ∃ done p later records violations failures,
    paths = done ++ p :: later ∧ GivesUp r before done p fault ∧
      after.journal = before.journal ++ records ∧
      Entries r before (done ++ [p]) records violations failures

theorem run_all_recorded (r : Linter) (world : World) (paths : List Path) (t : Tally)
    (linted : (r.lintPaths world .zero paths).2 = .ok t) :
    Recorded r world (r.run world paths).1 paths t := by
  obtain ⟨reached, reaches, journal⟩ := r.run_reaches world paths
  rw [linted] at reaches
  cases reaches with
  | all _ total taken =>
      obtain ⟨violations, failures, entries, counted⟩ := r.entries_of_paths world paths
      refine ⟨_, violations, failures, _, ?_, entries, total.trans counted.symm,
        closing_warned r.destination world.store t, taken⟩
      rw [run_journal, linted, journal, lint_paths_store]

theorem run_broken_off (r : Linter) (world : World) (paths : List Path) (fault : RunFault)
    (linted : (r.lintPaths world .zero paths).2 = .error fault) :
    (r.run world paths).2 = .error fault ∧
      BrokenOff r world (r.run world paths).1 paths fault := by
  constructor
  · rw [run_eq]
    generalize r.lintPaths world .zero paths = outcome at linted
    obtain ⟨after, result⟩ := outcome
    cases linted
    rfl
  · obtain ⟨reached, reaches, journal⟩ := r.run_reaches world paths
    rw [linted] at reaches
    cases reaches with
    | upTo done later p _ split gives =>
        obtain ⟨violations, failures, entries, _⟩ := r.entries_of_paths world (done ++ [p])
        refine ⟨done, p, later, _, violations, failures, split, gives, ?_, entries⟩
        rw [run_journal, linted, journal, List.append_nil]

theorem run_recorded (r : Linter) (world : World) (paths : List Path) :
    (world.outlet.TakesAll → (r.diagnostics world paths).length < UInt64.size →
      ∃ after t, r.run world paths = (after, .ok t) ∧ Recorded r world after paths t) ∧
    (world.outlet.TakesAll → UInt64.size ≤ (r.diagnostics world paths).length →
      ∃ after, r.run world paths = (after, .error .overflow) ∧
        BrokenOff r world after paths .overflow) ∧
    (∀ t, (r.lintPaths world .zero paths).2 = .ok t →
      Recorded r world (r.run world paths).1 paths t) ∧
    ∀ fault, (r.lintPaths world .zero paths).2 = .error fault →
      (r.run world paths).2 = .error fault ∧
        BrokenOff r world (r.run world paths).1 paths fault := by
  refine ⟨?_, ?_, r.run_all_recorded world paths, r.run_broken_off world paths⟩
  · intro takes few
    rw [diagnostics_eq] at few
    have linted := r.lint_paths_takes world paths .zero ⟨_, few⟩ takes (Nat.zero_add _).symm
    have ran := r.run_takes world paths ⟨_, few⟩ takes rfl
    have recorded := r.run_all_recorded world paths ⟨_, few⟩ (by rw [linted])
    rw [ran] at recorded
    exact ⟨_, _, ran, recorded⟩
  · intro takes many
    obtain ⟨notes, linted⟩ := r.lint_paths_offer world .zero paths
    have uncounted := r.count_over world paths many
    have none : Tally.zero.total + (r.reports world.store paths).length =
        (r.reports world.store paths).length := Nat.zero_add _
    obtain ⟨after, offered, _⟩ :=
      world.outlet.offer_all_takes (r.listing world.store .zero paths) takes
    rw [count?] at uncounted
    rw [offered, none, uncounted] at linted
    obtain ⟨failed, broken⟩ := r.run_broken_off world paths .overflow (by rw [linted]; rfl)
    exact ⟨_, Prod.ext rfl failed, broken⟩

def brokenWorld : World :=
  { violationWorld with
    outlet := ⟨List.replicate 15 (.takes 99) ++ [.fails .noSpace], .boundless⟩ }

theorem records_of_two_files :
    (∃ after t, toUnmadeFile.run violationWorld [⟨[0x61]⟩, ⟨[0x62]⟩] = (after, .ok t) ∧
        Recorded toUnmadeFile violationWorld after [⟨[0x61]⟩, ⟨[0x62]⟩] t) ∧
      (toUnmadeFile.run violationWorld [⟨[0x61]⟩, ⟨[0x62]⟩]).1.journal.map Record.level =
        [.debug, .debug, .warn] ∧
      BrokenOff standard brokenWorld
        (standard.run brokenWorld aroundMissing).1 aroundMissing (.output (.refused .noSpace)) := by
  have few : (toUnmadeFile.diagnostics violationWorld [⟨[0x61]⟩, ⟨[0x62]⟩]).length = 2 := by
    decide +kernel
  have refused : (brokenWorld.outlet.offerAll
      (standard.listing brokenWorld.store .zero aroundMissing)).2 =
        some (.refused .noSpace) := by decide +kernel
  obtain ⟨notes, linted⟩ :=
    standard.lint_paths_offer brokenWorld .zero aroundMissing
  obtain ⟨recorded, _⟩ := run_recorded toUnmadeFile violationWorld [⟨[0x61]⟩, ⟨[0x62]⟩]
  obtain ⟨_, _, _, broken⟩ := run_recorded standard brokenWorld aroundMissing
  exact ⟨recorded violation_world_takes_all (by rw [few]; decide), by decide +kernel,
    (broken _ (by rw [linted, refused]; rfl)).2⟩

end Linter
end ErrorWording
