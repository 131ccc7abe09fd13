import ErrorWording.Proofs.Sum

set_option autoImplicit false

namespace ErrorWording

namespace Outlet

def close (o : Outlet) (t : Tally) : Except RunFault Tally :=
  match o.flush with
  | some halt => .error (.output halt)
  | none => .ok t

def fault (o : Outlet) : Fault :=
  o.refusal.getD .nothingTaken

theorem conclude_outlet (o : Outlet) (pieces : List Bytes) (count : Option Tally) :
    Output.conclude o pieces count =
      (↑(o.offer pieces.flatten).1, (settle (o.offer pieces.flatten).2 count).bind o.close) := by
  have flushed : (o.offer pieces.flatten).1.flush = o.flush := by
    have offered := o.offer_offered pieces.flatten
    generalize o.offer pieces.flatten = outcome at offered ⊢
    cases offered <;> rfl
  rw [Output.conclude, Output.offer_all_outlet]
  cases settle (o.offer pieces.flatten).2 count with
  | error f => rfl
  | ok t =>
      simp only [Output.close, Output.flush, flushed, Except.bind, close]
      cases o.flush <;> rfl

theorem exhausted_refused (o : Outlet)
    (answers : ∀ f, o.refusal = some f → f.kind ≠ .interrupted) :
    o.exhausted = .refused o.fault := by
  unfold exhausted fault
  cases refusal : o.refusal with
  | none => rfl
  | some f => exact if_neg (answers f refusal)

theorem close_ok_iff (o : Outlet) (result : Except RunFault Tally) (t : Tally) :
    result.bind o.close = .ok t ↔ result = .ok t ∧ o.flushFault = none := by
  unfold close flush
  cases result <;> cases o.flushFault <;> simp [Except.bind]

theorem close_error_iff (o : Outlet) (count : Option Tally) (halt : Halt) :
    (settle none count).bind o.close = .error (.output halt) ↔
      ∃ t f, settle none count = .ok t ∧ o.flushFault = some f ∧ halt = .refused f := by
  unfold close flush
  cases count <;> cases o.flushFault <;> simp [Except.bind, settle, eq_comm]

end Outlet

/-- What an outlet with room for `limit` bytes makes of a run, against the same run on an outlet
without bounds. A count that does not fit ends both, and is no fault of the outlet. -/
structure Curtailed (o : Outlet) (limit : Nat) (whole part : World × Except RunFault Tally) :
    Prop where
  written : part.1.outlet.written = o.written ++ whole.1.outlet.written.take limit
  anyPieces : ∀ (world : World) (pieces : List Bytes), world.outlet = ↑o →
    pieces.flatten = whole.1.outlet.written → (world.writeAll pieces).1.outlet = part.1.outlet
  returns : ∀ t, part.2 = .ok t ↔
    whole.2 = .ok t ∧ whole.1.outlet.written.length ≤ limit ∧ o.flushFault = none
  fails : ∀ halt, part.2 = .error (.output halt) ↔
    limit < whole.1.outlet.written.length ∧ halt = .refused o.fault ∨
      whole.1.outlet.written.length ≤ limit ∧
        ∃ t f, whole.2 = .ok t ∧ o.flushFault = some f ∧ halt = .refused f
  unfailing : ∀ halt, whole.2 ≠ .error (.output halt)

namespace Linter

theorem run_outlet (r : Linter) (s : Store) (o : Outlet) (journal : List Record)
    (paths : List Path) :
    (r.run ⟨s, o, journal⟩ paths).1.outlet = ↑(o.offer (r.transcript s paths).flatten).1 ∧
      (r.run ⟨s, o, journal⟩ paths).2 =
        (settle (o.offer (r.transcript s paths).flatten).2 (r.count? s paths)).bind o.close := by
  obtain ⟨notes, ran⟩ := r.run_offer ⟨s, o, journal⟩ paths
  rw [ran, Outlet.conclude_outlet]
  exact ⟨rfl, rfl⟩

theorem run_boundless (r : Linter) (s : Store) (journal : List Record) (paths : List Path) :
    (r.run ⟨s, .boundless, journal⟩ paths).1.outlet.written = (r.transcript s paths).flatten ∧
      (r.run ⟨s, .boundless, journal⟩ paths).2 = settle none (r.count? s paths) := by
  obtain ⟨output, result⟩ := r.run_outlet s .boundless journal paths
  rw [Outlet.offer_takes_all _ _ Outlet.boundless_takes_all] at output result
  refine ⟨?_, ?_⟩
  · rw [show Output.boundless = ↑Outlet.boundless from rfl, output]
    exact Outlet.written_take .boundless _
  · refine result.trans ?_
    cases r.count? s paths <;> rfl

theorem run_curtailed (r : Linter) (s : Store) (o : Outlet) (journal : List Record)
    (paths : List Path) (limit : Nat) (steady : o.Steady) (room : o.room = some limit)
    (answers : ∀ f, o.refusal = some f → f.kind ≠ .interrupted) :
    Curtailed o limit (r.run ⟨s, .boundless, journal⟩ paths) (r.run ⟨s, o, journal⟩ paths) := by
  obtain ⟨taken, ends⟩ := r.run_outlet s o journal paths
  obtain ⟨output, result⟩ := r.run_boundless s journal paths
  generalize (r.transcript s paths).flatten = text at taken ends output
  have anyPieces (other : World) (pieces : List Bytes) (same : other.outlet = ↑o)
      (whole : pieces.flatten = text) :
      (other.writeAll pieces).1.outlet = (r.run ⟨s, o, journal⟩ paths).1.outlet := by
    rw [taken, World.writeAll, same, Output.offer_all_outlet, whole]
  rw [← output] at anyPieces
  have unfailing (halt : Halt) : settle none (r.count? s paths) ≠ .error (.output halt) := by
    cases r.count? s paths <;> simp [settle]
  rw [← result] at unfailing
  -- Either the whole text fits or the outlet stops behind `limit` bytes of it.
  rcases o.fits_or_short text with fits | ⟨_, same, short⟩
  · have within := fits limit room
    rw [Outlet.offer_fits o _ steady fits] at taken ends
    refine ⟨?_, anyPieces, ?_, ?_, unfailing⟩
    · rw [taken, output, List.take_of_length_le within]
      exact o.written_take _
    · intro t
      rw [ends, output, result, Outlet.close_ok_iff]
      simp only [within, true_and]
    · intro halt
      rw [ends, output, result, Outlet.close_error_iff]
      simp only [within, Nat.not_lt.mpr within, true_and, false_and, false_or]
  · cases room.symm.trans same
    rw [Outlet.offer_short o _ limit steady room short, Outlet.exhausted_refused o answers]
      at taken ends
    have excess := Nat.not_le.mpr short
    refine ⟨?_, anyPieces, ?_, ?_, unfailing⟩
    · rw [taken, output]
      exact o.written_take _
    · intro t
      rw [ends, output]
      simp [settle, Except.bind, excess]
    · intro halt
      rw [ends, output]
      simp [settle, Except.bind, excess, short, eq_comm]

theorem count_total (r : Linter) (world : World) (paths : List Path) (t : Tally)
    (total : t.total = (r.diagnostics world paths).length) :
    r.count? world.store paths = some t := by
  rwa [count?_eq_some_iff, ← diagnostics_eq]

theorem count_over (r : Linter) (world : World) (paths : List Path)
    (many : UInt64.size ≤ (r.diagnostics world paths).length) :
    r.count? world.store paths = none := by
  rwa [count?_eq_none_iff, ← diagnostics_eq]

theorem run_output_curtailed (r : Linter) (s : Store) (o : Outlet) (journal : List Record)
    (paths : List Path) (limit : Nat) (steady : o.Steady) (room : o.room = some limit)
    (answers : ∀ f, o.refusal = some f → f.kind ≠ .interrupted) :
    Curtailed o limit (r.run ⟨s, .boundless, journal⟩ paths) (r.run ⟨s, o, journal⟩ paths) ∧
      ((r.diagnostics ⟨s, o, journal⟩ paths).length < UInt64.size →
        ∃ t, (r.run ⟨s, .boundless, journal⟩ paths).2 = .ok t ∧
          t.total = (r.diagnostics ⟨s, o, journal⟩ paths).length) ∧
      (UInt64.size ≤ (r.diagnostics ⟨s, o, journal⟩ paths).length →
        (r.run ⟨s, .boundless, journal⟩ paths).2 = .error .overflow) := by
  refine ⟨r.run_curtailed s o journal paths limit steady room answers, ?_, ?_⟩
  · intro few
    rw [(r.run_boundless s journal paths).2, r.count_total ⟨s, o, journal⟩ paths ⟨_, few⟩ rfl]
    exact ⟨_, rfl, rfl⟩
  · intro many
    rw [(r.run_boundless s journal paths).2, r.count_over ⟨s, o, journal⟩ paths many]
    rfl

def narrow : Outlet := ⟨some 3, some 40, some .noSpace, none, []⟩

theorem run_curtailed_inside_notice :
    (standard.run ⟨.fresh, narrow, []⟩ [⟨[0x61]⟩]).1.outlet.written =
        bytesOf "::error file=a::File not found.\n\nFound 1" ∧
      (standard.run ⟨.fresh, narrow, []⟩ [⟨[0x61]⟩]).2 =
        .error (.output (.refused .noSpace)) := by
  have answers : ∀ f, narrow.refusal = some f → f.kind ≠ .interrupted := by
    intro f same
    cases same
    decide
  obtain ⟨curtailed, _, _⟩ := run_output_curtailed standard .fresh narrow [] [⟨[0x61]⟩] 40
    (by simp [Outlet.Steady, narrow]) rfl answers
  have whole : (standard.run ⟨.fresh, .boundless, []⟩ [⟨[0x61]⟩]).1.outlet.written =
      bytesOf "::error file=a::File not found.\n\nFound 1 formatting error(s).\n" := by
    rw [(standard.run_boundless .fresh [] _).1]
    decide +kernel
  refine ⟨?_, (curtailed.fails _).mpr (.inl ⟨?_, rfl⟩)⟩
  · rw [curtailed.written, whole]
    decide +kernel
  · rw [whole]
    decide +kernel

end Linter
end ErrorWording
