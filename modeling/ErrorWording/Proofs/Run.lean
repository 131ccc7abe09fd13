import ErrorWording.Linter
import ErrorWording.Proofs.Offering

set_option autoImplicit false

namespace ErrorWording

theorem tally_eq (a b : Tally) (same : a.total = b.total) : a = b := by
  cases a
  cases b
  cases same
  rfl

structure Closing where
  store : Store
  pieces : List Bytes
  notes : List Record

def Closing.output (c : Closing) : Bytes :=
  c.pieces.flatten

def Destination.closing (d : Destination) (s : Store) (t : Tally) : Closing :=
  if t.hasErrors then
    match d with
    | .output => ⟨s, t.noticePieces, []⟩
    | .file p =>
        match s.append p t.blockPieces with
        | (after, none) => ⟨after, [], []⟩
        | (after, some f) => ⟨after, t.noticePieces, [.unsaved p f]⟩
  else ⟨s, [], []⟩

theorem deliver_offer (t : Tally) (world : World) (d : Destination) :
    t.deliver world d =
      (⟨(d.closing world.store t).store,
          (world.outlet.offerAll (d.closing world.store t).pieces).1,
          world.journal ++ (d.closing world.store t).notes⟩,
        (world.outlet.offerAll (d.closing world.store t).pieces).2) := by
  unfold Destination.closing
  cases d with
  | output =>
      rw [t.deliver_output]
      cases t.hasErrors <;> simp [World.writeAll, Output.offerAll]
  | file p =>
      rw [t.deliver_file, World.append]
      cases t.hasErrors with
      | false => simp [Output.offerAll]
      | true =>
          dsimp only
          generalize world.store.append p t.blockPieces = outcome
          obtain ⟨after, fault⟩ := outcome
          cases fault <;> simp [World.writeAll, World.note, Output.offerAll]

def settle (halt : Option Halt) (count : Option Tally) : Except RunFault Tally :=
  match halt, count with
  | some halt, _ => .error (.output halt)
  | none, none => .error .overflow
  | none, some t => .ok t

theorem settle_ok_iff (halt : Option Halt) (count : Option Tally) (t : Tally) :
    settle halt count = .ok t ↔ halt = none ∧ count = some t := by
  cases halt <;> cases count <;> simp [settle]

namespace Output

def close (o : Output) (t : Tally) : Output × Except RunFault Tally :=
  match o.flush with
  | (after, some halt) => (after, .error (.output halt))
  | (after, none) => (after, .ok t)

/-- All that becomes of the output in a run. It is flushed only when it took everything and the
count fits. -/
def conclude (o : Output) (pieces : List Bytes) (count : Option Tally) :
    Output × Except RunFault Tally :=
  match settle (o.offerAll pieces).2 count with
  | .error f => ((o.offerAll pieces).1, .error f)
  | .ok t => (o.offerAll pieces).1.close t

theorem close_ok_iff (o : Output) (t counted : Tally) :
    (o.close counted).2 = .ok t ↔ counted = t ∧ o.flush.2 = none := by
  unfold close
  rcases o.flush with ⟨after, halt⟩
  cases halt <;> simp

theorem written_close (o : Output) (t : Tally) : (o.close t).1.written = o.written := by
  have flushed := o.written_flush
  unfold close
  generalize o.flush = outcome at flushed ⊢
  obtain ⟨after, halt⟩ := outcome
  cases halt <;> exact flushed

theorem written_conclude (o : Output) (pieces : List Bytes) (count : Option Tally) :
    (o.conclude pieces count).1.written = (o.offerAll pieces).1.written := by
  unfold conclude
  cases settle (o.offerAll pieces).2 count with
  | error f => rfl
  | ok t => exact written_close _ t

theorem conclude_ok_iff (o : Output) (pieces : List Bytes) (count : Option Tally) (t : Tally) :
    (o.conclude pieces count).2 = .ok t ↔
      (o.offerAll pieces).2 = none ∧ count = some t ∧ (o.offerAll pieces).1.flush.2 = none := by
  unfold conclude
  cases offered : (o.offerAll pieces).2 with
  | some halt => simp [settle]
  | none => cases count <;> simp [settle, close_ok_iff]

theorem conclude_takes (o : Output) (pieces : List Bytes) (count : Option Tally)
    (takes : o.TakesAll) :
    ∃ after, o.conclude pieces count = (after, settle none count) ∧ after.TakesAll ∧
      after.written = o.written ++ pieces.flatten := by
  obtain ⟨offered, whole, settled, written⟩ := o.offer_all_takes pieces takes
  rw [conclude, whole]
  cases count with
  | none => exact ⟨offered, rfl, settled, written⟩
  | some t =>
      obtain ⟨flushed, quiet, kept, same⟩ := offered.flush_takes settled
      refine ⟨flushed, ?_, kept, same.trans written⟩
      simp only [settle, close, quiet]

end Output

namespace Linter

def report (r : Linter) (s : Store) (p : Path) : List Diagnostic :=
  r.wording.diagnose p (r.wording.inspect s p)

def record (r : Linter) (s : Store) (p : Path) : Record :=
  match r.wording.inspect s p with
  | .ok found => .scanned p found.length
  | .error f => .unscanned p f

def reports (r : Linter) (s : Store) (paths : List Path) : List Diagnostic :=
  paths.flatMap (r.report s)

def pages (diagnostics : List Diagnostic) : List Bytes :=
  diagnostics.flatMap (·.outputPieces)

/-- The lines that the paths give. Nothing follows a path whose count cannot be added. -/
def listing (r : Linter) (s : Store) (t : Tally) : List Path → List Bytes
  | [] => []
  | p :: rest =>
      pages (r.report s p) ++
        match t.record? (r.report s p).length with
        | some next => listing r s next rest
        | none => []

def count? (r : Linter) (s : Store) (paths : List Path) : Option Tally :=
  Tally.ofNat? (r.reports s paths).length

def transcript (r : Linter) (s : Store) (paths : List Path) : List Bytes :=
  r.listing s .zero paths ++
    match r.count? s paths with
    | some t => (r.destination.closing s t).pieces
    | none => []

/-- The files after a run: its count is delivered only when all the lines before it were taken. -/
def filesAfter (r : Linter) (world : World) (paths : List Path) : Store :=
  match (world.outlet.offerAll (r.listing world.store .zero paths)).2,
    r.count? world.store paths with
  | none, some t => (r.destination.closing world.store t).store
  | _, _ => world.store

theorem scan_result (r : Linter) (world : World) (p : Path) :
    (r.scan world p).2 = r.wording.inspect world.store p := by
  rw [scan_eq]
  cases r.wording.inspect world.store p <;> rfl

theorem scan_store (r : Linter) (world : World) (p : Path) :
    (r.scan world p).1.store = world.store := by
  rw [scan_eq]
  cases r.wording.inspect world.store p <;> rfl

theorem check_eq (r : Linter) (world : World) (p : Path) :
    r.check world p = (world.note (r.record world.store p), r.report world.store p) := by
  unfold check Services.check record report
  have scanned := r.scan_eq world p
  rw [World.serve_bind, show world.serve (World.services.scan r p) = r.scan world p from rfl,
    scanned]
  cases r.wording.inspect world.store p <;> rfl

@[simp] theorem pages_cons (d : Diagnostic) (rest : List Diagnostic) :
    pages (d :: rest) = d.outputPieces ++ pages rest := rfl

@[simp] theorem pages_append (a b : List Diagnostic) : pages (a ++ b) = pages a ++ pages b :=
  List.flatMap_append

@[simp] theorem pages_flatten (diagnostics : List Diagnostic) :
    (pages diagnostics).flatten = diagnostics.flatMap Diagnostic.outputLine := by
  induction diagnostics with
  | nil => rfl
  | cons d rest ih => simp [ih]

@[simp] theorem reports_append (r : Linter) (s : Store) (a b : List Path) :
    r.reports s (a ++ b) = r.reports s a ++ r.reports s b :=
  List.flatMap_append

@[simp] theorem count?_eq_some_iff (r : Linter) (s : Store) (paths : List Path) (t : Tally) :
    r.count? s paths = some t ↔ t.total = (r.reports s paths).length :=
  Tally.ofNat?_eq_some_iff _ _

@[simp] theorem count?_eq_none_iff (r : Linter) (s : Store) (paths : List Path) :
    r.count? s paths = none ↔ UInt64.size ≤ (r.reports s paths).length :=
  Tally.ofNat?_eq_none_iff _

@[simp] theorem reports_cons (r : Linter) (s : Store) (p : Path) (rest : List Path) :
    r.reports s (p :: rest) = r.report s p ++ r.reports s rest :=
  List.flatMap_cons

theorem lint_path_offer (r : Linter) (world : World) (p : Path) :
    r.lintPath world p =
      (⟨world.store, (world.outlet.offerAll (pages (r.report world.store p))).1,
          world.journal ++ [r.record world.store p]⟩,
        match (world.outlet.offerAll (pages (r.report world.store p))).2 with
        | some halt => .error halt
        | none => .ok (r.report world.store p).length) := by
  rw [lint_path_eq, check_eq]
  simp only [World.writeAll, World.note, ← pages.eq_def]
  cases (world.outlet.offerAll (pages (r.report world.store p))).2 <;> rfl

theorem lint_paths_offer (r : Linter) (world : World) (t : Tally) (paths : List Path) :
    ∃ notes, r.lintPaths world t paths =
      (⟨world.store, (world.outlet.offerAll (r.listing world.store t paths)).1,
          world.journal ++ notes⟩,
        settle (world.outlet.offerAll (r.listing world.store t paths)).2
          (Tally.ofNat? (t.total + (r.reports world.store paths).length))) := by
  induction paths generalizing world t with
  | nil =>
      have same : Tally.ofNat? t.total = some t := by simp
      exact ⟨[], by simp [listing, reports, Output.offerAll, same, settle]⟩
  | cons p rest ih =>
      rw [lint_paths_cons, lint_path_offer, listing, Output.offer_all_append, reports_cons,
        List.length_append]
      rcases world.outlet.offerAll (pages (r.report world.store p)) with ⟨after, halt⟩
      cases halt with
      | some halt => exact ⟨_, rfl⟩
      | none =>
          cases recorded : t.record? (r.report world.store p).length with
          | none =>
              have excess := (t.record?_eq_none_iff _).mp recorded
              -- The path that does not fit is the last, whatever would have come of the others.
              have unfit : Tally.ofNat? (t.total + ((r.report world.store p).length +
                  (r.reports world.store rest).length)) = none := by
                rw [Tally.ofNat?, dif_neg (by omega)]
              exact ⟨_, by simp only [recorded, unfit]; rfl⟩
          | some next =>
              have sum : next.total = t.total + (r.report world.store p).length :=
                (t.record?_eq_some_iff next _).mp recorded
              obtain ⟨notes, later⟩ := ih ⟨world.store, after,
                world.journal ++ [r.record world.store p]⟩ next
              rw [sum, Nat.add_assoc] at later
              exact ⟨_, by simp only [recorded, later, List.append_assoc]; rfl⟩

theorem run_offer (r : Linter) (world : World) (paths : List Path) :
    ∃ notes, r.run world paths =
      (⟨r.filesAfter world paths,
          (world.outlet.conclude (r.transcript world.store paths) (r.count? world.store paths)).1,
          world.journal ++ notes⟩,
        (world.outlet.conclude (r.transcript world.store paths)
          (r.count? world.store paths)).2) := by
  obtain ⟨notes, linted⟩ := r.lint_paths_offer world .zero paths
  have count : Tally.ofNat? (Tally.zero.total + (r.reports world.store paths).length) =
      r.count? world.store paths := by
    rw [show Tally.zero.total = 0 from rfl, Nat.zero_add, count?]
  rw [count] at linted
  rw [run_eq, linted, filesAfter, Output.conclude, transcript, Output.offer_all_append]
  generalize world.outlet.offerAll (r.listing world.store .zero paths) = offered
  obtain ⟨after, halt⟩ := offered
  cases halt with
  | some halt => exact ⟨notes, rfl⟩
  | none =>
      cases counted : r.count? world.store paths with
      | none => exact ⟨notes, rfl⟩
      | some t =>
          simp only [settle, deliver_offer, World.flush, List.append_assoc]
          generalize after.offerAll (r.destination.closing world.store t).pieces = last
          obtain ⟨last, halt⟩ := last
          refine ⟨notes ++ (r.destination.closing world.store t).notes, ?_⟩
          cases halt with
          | some halt => rfl
          | none =>
              simp only [Output.close]
              rcases last.flush with ⟨flushed, halt⟩
              cases halt <;> rfl

theorem lint_paths_store (r : Linter) (world : World) (t : Tally) (paths : List Path) :
    (r.lintPaths world t paths).1.store = world.store := by
  obtain ⟨notes, linted⟩ := r.lint_paths_offer world t paths
  rw [linted]

theorem run_store (r : Linter) (world : World) (paths : List Path) :
    (r.run world paths).1.store = r.filesAfter world paths := by
  obtain ⟨notes, ran⟩ := r.run_offer world paths
  rw [ran]

theorem run_written (r : Linter) (world : World) (paths : List Path) :
    (r.run world paths).1.outlet.written =
      (world.outlet.offerAll (r.transcript world.store paths)).1.written := by
  obtain ⟨notes, ran⟩ := r.run_offer world paths
  rw [ran]
  exact world.outlet.written_conclude _ _

theorem run_returned (r : Linter) (world : World) (paths : List Path) (t : Tally)
    (returned : (r.run world paths).2 = .ok t) :
    r.count? world.store paths = some t ∧
      (r.run world paths).1.outlet.written =
        world.outlet.written ++ (r.transcript world.store paths).flatten := by
  rw [run_written]
  obtain ⟨notes, ran⟩ := r.run_offer world paths
  rw [ran, Output.conclude_ok_iff] at returned
  exact ⟨returned.2.1, world.outlet.offer_all_whole _ returned.1⟩

theorem run_total (r : Linter) (world : World) (paths : List Path) (t : Tally)
    (returned : (r.run world paths).2 = .ok t) :
    t.total = (r.reports world.store paths).length := by
  simpa using (r.run_returned world paths t returned).1

theorem listing_pages (r : Linter) (s : Store) (t : Tally) (paths : List Path)
    (few : t.total + (r.reports s paths).length < UInt64.size) :
    r.listing s t paths = pages (r.reports s paths) := by
  induction paths generalizing t with
  | nil => rfl
  | cons p rest ih =>
      rw [reports_cons, List.length_append] at few
      have fits : t.total + (r.report s p).length < UInt64.size := by omega
      have recorded : t.record? (r.report s p).length =
          some ⟨t.total + (r.report s p).length, fits⟩ := by simp
      rw [listing, recorded, reports_cons, pages_append]
      exact congrArg (pages (r.report s p) ++ ·) (ih _ (by simp only; omega))

theorem report_nil_iff (r : Linter) (world : World) (p : Path) :
    r.report world.store p = [] ↔ (r.scan world p).2 = .ok [] := by
  rw [scan_result, report]
  cases r.wording.inspect world.store p <;> simp [Wording.diagnose]

theorem report_fault (r : Linter) (world : World) (p : Path) (f : ScanFault)
    (failed : (r.scan world p).2 = .error f) :
    r.report world.store p = [.ofFault p f] := by
  rw [scan_result] at failed
  rw [report, failed, Wording.diagnose]

theorem exit_zero_iff (t : Tally) : t.exitCode = 0 ↔ t.total = 0 := by
  unfold Tally.exitCode Tally.hasErrors
  by_cases none : 0 < t.total
  · simp only [none, decide_true, if_true, Nat.one_ne_zero, false_iff]
    omega
  · simp only [none, decide_false, Bool.false_eq_true, if_false, true_iff]
    omega

end Linter

end ErrorWording
