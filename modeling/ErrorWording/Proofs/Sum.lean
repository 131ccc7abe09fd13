import ErrorWording.Proofs.Run

set_option autoImplicit false

namespace ErrorWording.Linter

def diagnostics (r : Linter) (world : World) (paths : List Path) : List Diagnostic :=
  paths.flatMap fun p => (r.check world p).2

def afterRuns (r : Linter) (world : World) (earlier : List (List Path)) : World :=
  earlier.foldl (fun before paths => (r.run before paths).1) world

/-- Two runs that did the same: the files after them, and what they added to output and journal. -/
structure Alike (before after before' after' : World) : Prop where
  store : after'.store = after.store
  output : ∃ bytes, after.outlet.written = before.outlet.written ++ bytes ∧
    after'.outlet.written = before'.outlet.written ++ bytes
  journal : ∃ records, after.journal = before.journal ++ records ∧
    after'.journal = before'.journal ++ records

theorem diagnostics_eq (r : Linter) (world : World) (paths : List Path) :
    r.diagnostics world paths = r.reports world.store paths := by
  simp only [diagnostics, reports, check_eq]

theorem lint_paths_takes (r : Linter) (world : World) (paths : List Path) (t sum : Tally)
    (takes : world.outlet.TakesAll)
    (total : sum.total = t.total + (r.reports world.store paths).length) :
    r.lintPaths world t paths =
      (⟨world.store, (world.outlet.offerAll (pages (r.reports world.store paths))).1,
          world.journal ++ paths.map (r.record world.store)⟩, .ok sum) := by
  induction paths generalizing world t with
  | nil =>
      have same : t = sum := tally_eq t sum (by simpa [reports] using total.symm)
      simp [reports, pages, Output.offerAll, same]
  | cons p rest ih =>
      rw [reports_cons, List.length_append] at total
      have below := sum.total_lt
      have fits : t.total + (r.report world.store p).length < UInt64.size := by omega
      have recorded : t.record? (r.report world.store p).length =
          some ⟨t.total + (r.report world.store p).length, fits⟩ := by simp
      obtain ⟨after, offered, settled, _⟩ :=
        world.outlet.offer_all_takes (pages (r.report world.store p)) takes
      rw [lint_paths_cons, lint_path_offer, reports_cons, pages_append, Output.offer_all_append,
        offered]
      simp only [recorded]
      refine (ih ⟨world.store, after, _⟩ _ settled (by simp only; omega)).trans ?_
      simp

theorem run_takes (r : Linter) (world : World) (paths : List Path) (t : Tally)
    (takes : world.outlet.TakesAll) (total : t.total = (r.reports world.store paths).length) :
    r.run world paths =
      (⟨(r.destination.closing world.store t).store,
          (world.outlet.offerAll (pages (r.reports world.store paths) ++
            (r.destination.closing world.store t).pieces)).1.flush.1,
          world.journal ++ (paths.map (r.record world.store) ++
            (r.destination.closing world.store t).notes)⟩, .ok t) := by
  have linted := r.lint_paths_takes world paths .zero t takes (by simp [Tally.zero, total])
  obtain ⟨listed, offered, settled, _⟩ :=
    world.outlet.offer_all_takes (pages (r.reports world.store paths)) takes
  obtain ⟨last, finished, settled, _⟩ :=
    listed.offer_all_takes (r.destination.closing world.store t).pieces settled
  obtain ⟨flushed, quiet, _⟩ := last.flush_takes settled
  rw [run_eq, linted, Output.offer_all_append, offered]
  simp only [deliver_offer, World.flush, List.append_assoc, finished, quiet]

def annotated (r : Linter) (world : World) (paths : List Path) : Bytes :=
  (r.lintPaths world .zero paths).1.outlet.written.drop world.outlet.written.length

theorem annotated_takes (r : Linter) (world : World) (paths : List Path) (t : Tally)
    (takes : world.outlet.TakesAll) (total : t.total = (r.reports world.store paths).length) :
    r.annotated world paths = (r.reports world.store paths).flatMap Diagnostic.outputLine := by
  have linted := r.lint_paths_takes world paths .zero t takes (by simp [Tally.zero, total])
  obtain ⟨after, offered, _, written⟩ :=
    world.outlet.offer_all_takes (pages (r.reports world.store paths)) takes
  rw [annotated, linted, offered, written, List.drop_left, pages_flatten]

theorem run_keeps (r : Linter) (world : World) (paths : List Path)
    (takes : world.outlet.TakesAll) : (r.run world paths).1.outlet.TakesAll := by
  obtain ⟨notes, ran⟩ := r.run_offer world paths
  obtain ⟨after, concluded, settled, _⟩ := world.outlet.conclude_takes
    (r.transcript world.store paths) (r.count? world.store paths) takes
  rw [ran, concluded]
  exact settled

theorem run_freely (r : Linter) (world : World) (paths : List Path)
    (takes : world.outlet.TakesAll) :
    (r.run world paths).1.outlet.written =
        world.outlet.written ++ (r.transcript world.store paths).flatten ∧
      (r.run world paths).2 = settle none (r.count? world.store paths) := by
  obtain ⟨notes, ran⟩ := r.run_offer world paths
  obtain ⟨after, concluded, _, written⟩ := world.outlet.conclude_takes
    (r.transcript world.store paths) (r.count? world.store paths) takes
  rw [ran, concluded]
  exact ⟨written, rfl⟩

theorem after_runs_keep (r : Linter) (world : World) (earlier : List (List Path))
    (takes : world.outlet.TakesAll) : (r.afterRuns world earlier).outlet.TakesAll := by
  induction earlier generalizing world with
  | nil => exact takes
  | cons paths rest ih => exact ih _ (r.run_keeps world paths takes)

theorem run_takes_written (r : Linter) (world : World) (paths : List Path) (t : Tally)
    (takes : world.outlet.TakesAll) (total : t.total = (r.reports world.store paths).length) :
    (r.run world paths).1.outlet.written =
      world.outlet.written ++ ((r.reports world.store paths).flatMap Diagnostic.outputLine ++
        (r.destination.closing world.store t).output) := by
  obtain ⟨after, offered, _, written⟩ := world.outlet.offer_all_takes
    (pages (r.reports world.store paths) ++ (r.destination.closing world.store t).pieces) takes
  rw [r.run_takes world paths t takes total, offered, Output.written_flush, written,
    List.flatten_append, pages_flatten]
  rfl

theorem alike_runs (r : Linter) (world world' : World) (paths : List Path) (t : Tally)
    (takes : world.outlet.TakesAll) (takes' : world'.outlet.TakesAll)
    (same : world'.store = world.store) (total : t.total = (r.reports world.store paths).length) :
    (r.run world' paths).2 = .ok t ∧
      Alike world (r.run world paths).1 world' (r.run world' paths).1 := by
  have total' : t.total = (r.reports world'.store paths).length := by rw [same, total]
  have written := r.run_takes_written world paths t takes total
  have written' := r.run_takes_written world' paths t takes' total'
  rw [same] at written'
  have ran := r.run_takes world paths t takes total
  have ran' := r.run_takes world' paths t takes' total'
  rw [same] at ran'
  refine ⟨by rw [ran'], ?_, ⟨_, written, written'⟩, ⟨_, by rw [ran], by rw [ran']⟩⟩
  rw [ran, ran']

theorem exit_zero_clean (r : Linter) (world : World) (paths : List Path) (t : Tally)
    (total : t.total = (r.reports world.store paths).length) :
    t.exitCode = 0 ↔ ∀ p ∈ paths, (r.scan world p).2 = .ok [] := by
  rw [exit_zero_iff, total, List.length_eq_zero_iff, reports, List.flatMap_eq_nil_iff]
  simp only [report_nil_iff]

theorem run_counts (r : Linter) (world : World) (paths : List Path)
    (takes : world.outlet.TakesAll) (few : (r.reports world.store paths).length < UInt64.size) :
    ∃ t, (r.run world paths).2 = .ok t ∧ t.total = (r.reports world.store paths).length ∧
      r.annotated world paths = (r.reports world.store paths).flatMap Diagnostic.outputLine :=
  ⟨⟨_, few⟩, by rw [r.run_takes world paths ⟨_, few⟩ takes rfl], rfl,
    r.annotated_takes world paths ⟨_, few⟩ takes rfl⟩

theorem run_splits (r : Linter) (world : World) (a b : List Path)
    (takes : world.outlet.TakesAll)
    (few : (r.reports world.store (a ++ b)).length < UInt64.size) :
    ∃ ta tb, (r.run world a).2 = .ok ta ∧ (r.run world b).2 = .ok tb ∧
      (r.reports world.store (a ++ b)).length = ta.total + tb.total ∧
      r.annotated world (a ++ b) = r.annotated world a ++ r.annotated world b := by
  have whole := r.annotated_takes world (a ++ b) ⟨_, few⟩ takes rfl
  rw [reports_append] at few whole
  rw [List.length_append] at few
  obtain ⟨ta, runA, totalA, annotatedA⟩ := r.run_counts world a takes (by omega)
  obtain ⟨tb, runB, totalB, annotatedB⟩ := r.run_counts world b takes (by omega)
  refine ⟨ta, tb, runA, runB, ?_, ?_⟩
  · rw [reports_append, List.length_append, totalA, totalB]
  · rw [whole, List.flatMap_append, annotatedA, annotatedB]

theorem run_around_fault (r : Linter) (world : World) (a b : List Path) (p : Path) (f : ScanFault)
    (takes : world.outlet.TakesAll)
    (few : (r.reports world.store (a ++ p :: b)).length < UInt64.size)
    (failed : (r.scan world p).2 = .error f) :
    r.annotated world (a ++ p :: b) =
      r.annotated world a ++ (Diagnostic.ofFault p f).outputLine ++ r.annotated world b := by
  obtain ⟨_, _, _, _, _, first⟩ := r.run_splits world a (p :: b) takes few
  rw [reports_append, List.length_append] at few
  have fewLater : (r.reports world.store ([p] ++ b)).length < UInt64.size :=
    Nat.lt_of_le_of_lt (Nat.le_add_left _ _) few
  obtain ⟨_, _, _, _, _, second⟩ := r.run_splits world [p] b takes fewLater
  have single : r.reports world.store [p] = [.ofFault p f] := by
    rw [reports, List.flatMap_singleton, r.report_fault world p f failed]
  obtain ⟨_, _, _, alone⟩ := r.run_counts world [p] takes (by simp [single, UInt64.size])
  rw [first, show p :: b = [p] ++ b from rfl, second, alone, single, List.append_assoc]
  simp

theorem reports_perm (r : Linter) (s : Store) (a b : List Path) (same : a.Perm b) :
    (r.reports s a).length = (r.reports s b).length :=
  (List.Perm.flatMap_right (r.report s) same).length_eq

theorem run_sum_of_files (r : Linter) (world : World) (paths : List Path)
    (takes : world.outlet.TakesAll) (few : (r.diagnostics world paths).length < UInt64.size) :
    ∃ after t, r.run world paths = (after, .ok t) ∧
      after.outlet.written = world.outlet.written ++ r.annotated world paths ++
        (r.destination.closing world.store t).output ∧
      r.annotated world paths = (r.diagnostics world paths).flatMap Diagnostic.outputLine ∧
      t.total = (r.diagnostics world paths).length ∧
      (t.exitCode = 0 ↔ ∀ p ∈ paths, (r.scan world p).2 = .ok []) ∧
      (∀ a b, paths = a ++ b → ∃ ta tb, (r.run world a).2 = .ok ta ∧ (r.run world b).2 = .ok tb ∧
        t.total = ta.total + tb.total ∧
        r.annotated world paths = r.annotated world a ++ r.annotated world b) ∧
      (∀ others, others.Perm paths → ∃ t', (r.run world others).2 = .ok t' ∧
        t'.total = t.total ∧ t'.exitCode = t.exitCode) ∧
      (∀ a p b f, paths = a ++ p :: b → (r.scan world p).2 = .error f →
        r.annotated world paths =
          r.annotated world a ++ (Diagnostic.ofFault p f).outputLine ++ r.annotated world b) ∧
      ∀ start earlier, start.outlet.TakesAll → (r.afterRuns start earlier).store = world.store →
        (r.run (r.afterRuns start earlier) paths).2 = .ok t ∧
          Alike world after (r.afterRuns start earlier)
            (r.run (r.afterRuns start earlier) paths).1 := by
  rw [diagnostics_eq] at few ⊢
  have ran := r.run_takes world paths ⟨_, few⟩ takes rfl
  have annotates := r.annotated_takes world paths ⟨_, few⟩ takes rfl
  refine ⟨_, _, ran, ?_, annotates, rfl, r.exit_zero_clean world paths _ rfl, ?_, ?_, ?_, ?_⟩
  · rw [annotates, List.append_assoc, ← r.run_takes_written world paths ⟨_, few⟩ takes rfl, ran]
  · rintro a b rfl
    exact r.run_splits world a b takes few
  · intro others same
    have count := r.reports_perm world.store others paths same
    obtain ⟨t', run', total', _⟩ := r.run_counts world others takes (count ▸ few)
    have equal : t' = ⟨_, few⟩ := tally_eq _ _ (total'.trans count)
    exact ⟨t', run', by rw [equal], by rw [equal]⟩
  · rintro a p b f rfl failed
    exact r.run_around_fault world a b p f takes few failed
  · intro start earlier startTakes same
    have worn := r.after_runs_keep start earlier startTakes
    have alike := r.alike_runs world _ paths ⟨_, few⟩ takes worn same rfl
    rwa [ran] at alike

def storedViolation : Store :=
  Store.fresh.put (Store.workplace ++ [[0x61]]) (.file (Utf8.encode (Call.opening ++ ['é', '"'])))

def violationWorld : World :=
  ⟨storedViolation, ⟨[.takes 5, .takes 5], .boundless⟩, []⟩

def toUnmadeFile : Linter := ⟨.standard, .file ⟨bytesOf "no/s"⟩⟩

theorem violation_world_takes_all : violationWorld.outlet.TakesAll :=
  ⟨by simp [violationWorld, Reply.Willing], Outlet.boundless_takes_all⟩

def aroundMissing : List Path := [⟨[0x61]⟩, ⟨[0x62]⟩, ⟨[0x61]⟩]

theorem run_around_missing_file :
    ∃ after t, standard.run violationWorld aroundMissing = (after, .ok t) ∧ t.total = 3 := by
  have count : (standard.diagnostics violationWorld aroundMissing).length = 3 := by
    decide +kernel
  obtain ⟨after, t, ran, _, _, total, _⟩ := run_sum_of_files standard violationWorld
    aroundMissing violation_world_takes_all (by rw [count]; decide)
  exact ⟨after, t, ran, total.trans count⟩

end ErrorWording.Linter
