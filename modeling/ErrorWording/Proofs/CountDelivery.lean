import ErrorWording.Proofs.Relint

set_option autoImplicit false

namespace ErrorWording

structure Output.Stopped (before after : Output) (text : Bytes) (halt : Halt) : Prop where
  part : ∃ taken, taken <+: text ∧ taken ≠ text ∧ after.written = before.written ++ taken
  refuses : Refuses before after halt

structure Saved (t : Tally) (d : Destination) (before after : World) : Prop where
  added : ∃ p, d = .file p ∧
    Store.Adds before.store p (bytesOf t.block) (after.store, none)
  outlet : after.outlet = before.outlet
  journal : after.journal = before.journal

/-- The count goes to the output: there is no file, or adding to it failed, and then a warning was
noted. -/
inductive Unsaved (t : Tally) (before after : World) : Destination → Prop where
  | output (store : after.store = before.store) (journal : after.journal = before.journal) :
      Unsaved t before after .output
  | file (p : Path) (f : Fault)
      (adds : Store.Adds before.store p (bytesOf t.block) (after.store, some f))
      (journal : after.journal = before.journal ++ [.unsaved p f]) :
      Unsaved t before after (.file p)

/-- Where the count went, by what the delivery returned. -/
structure DeliveredOnce (t : Tally) (d : Destination) (before after : World)
    (result : Option Halt) : Prop where
  returned : result = none → Saved t d before after ∨
    Unsaved t before after d ∧
      after.outlet.written = before.outlet.written ++ bytesOf t.notice
  failed : ∀ halt, result = some halt →
    Unsaved t before after d ∧
      Output.Stopped before.outlet after.outlet (bytesOf t.notice) halt
  once : Saved t d before after → after.outlet.written ≠ before.outlet.written ++ bytesOf t.notice
  others : ∀ l, (∀ p, d = .file p → ¬ Store.Leads l (before.store.resolve .adding p)) →
    after.store.lookup l = before.store.lookup l

namespace Store

theorem adds_others (s after : Store) (p : Path) (text : Bytes) (fault : Option Fault)
    (adds : Adds s p text (after, fault)) (l : Location)
    (elsewhere : ¬ Leads l (s.resolve .adding p)) : after.lookup l = s.lookup l := by
  cases adds with
  | lost f led => rfl
  | directory k led => rfl
  | swallowed led => rfl
  | full led => rfl
  | unopened k _ f leads same => exact same.lookup l
  | opened k part _ _ leads rewritten begins whole =>
      refine rewritten.others l ?_
      rintro rfl
      exact elsewhere leads

end Store

namespace Tally

theorem notice_present (t : Tally) : bytesOf t.notice ≠ [] := by
  intro empty
  rw [← notice_pieces_flatten, noticePieces, List.flatten_cons, List.append_eq_nil_iff] at empty
  exact absurd empty.1 (by decide)

theorem saved_unprinted (t : Tally) (d : Destination) (before after : World)
    (saved : Saved t d before after) :
    after.outlet.written ≠ before.outlet.written ++ bytesOf t.notice := by
  intro same
  rw [saved.outlet] at same
  exact t.notice_present (List.self_eq_append_right.mp same)

theorem closing_cases (t : Tally) (d : Destination) (s : Store) (errors : t.hasErrors = true) :
    (∃ p after, d = .file p ∧ Store.Adds s p (bytesOf t.block) (after, none) ∧
      d.closing s t = ⟨after, [], []⟩) ∨
    ∃ after notes, d.closing s t = ⟨after, t.noticePieces, notes⟩ ∧
      (d = .output ∧ after = s ∧ notes = [] ∨
        ∃ p f, d = .file p ∧ Store.Adds s p (bytesOf t.block) (after, some f) ∧
          notes = [.unsaved p f]) := by
  unfold Destination.closing
  rw [if_pos errors]
  cases d with
  | output => exact .inr ⟨s, [], rfl, .inl ⟨rfl, rfl, rfl⟩⟩
  | file p =>
      have adds := s.append_adds p t.blockPieces t.block_present
      rw [block_pieces_flatten] at adds
      dsimp only
      generalize s.append p t.blockPieces = outcome at adds
      obtain ⟨after, fault⟩ := outcome
      cases fault with
      | none => exact .inl ⟨p, after, rfl, adds, rfl⟩
      | some f => exact .inr ⟨after, [.unsaved p f], rfl, .inr ⟨p, f, rfl, adds, rfl⟩⟩

theorem deliver_once (t : Tally) (d : Destination) (world : World) (errors : t.hasErrors = true) :
    DeliveredOnce t d world (t.deliver world d).1 (t.deliver world d).2 := by
  rw [deliver_offer]
  -- Either the file took the block and nothing is offered, or the notice is offered.
  rcases t.closing_cases d world.store errors with
    ⟨p, after, rfl, adds, closing⟩ | ⟨after, notes, closing, reason⟩
  · simp only [closing, Output.offerAll, List.append_nil]
    refine ⟨fun _ => .inl ⟨⟨p, rfl, adds⟩, rfl, rfl⟩, ?_, saved_unprinted t _ world _, ?_⟩
    · intro halt same
      cases same
    · intro l elsewhere
      exact Store.adds_others _ _ p _ _ adds l (elsewhere p rfl)
  · have offered := world.outlet.offer_all_offered t.noticePieces
    rw [notice_pieces_flatten] at offered
    simp only [closing]
    generalize world.outlet.offerAll t.noticePieces = outcome at offered
    obtain ⟨outlet, halt⟩ := outcome
    have unsaved : Unsaved t world ⟨after, outlet, world.journal ++ notes⟩ d := by
      rcases reason with ⟨rfl, rfl, rfl⟩ | ⟨p, f, rfl, adds, rfl⟩
      · exact .output rfl (List.append_nil _)
      · exact .file p f adds rfl
    refine ⟨?_, ?_, saved_unprinted t d world _, ?_⟩
    · rintro rfl
      cases offered with
      | whole _ took => exact .inr ⟨unsaved, Output.took_written world.outlet outlet _ took⟩
    · rintro halt rfl
      cases offered with
      | stopped _ part _ begins short took refuses =>
          have written := Output.took_written world.outlet outlet part took
          exact ⟨unsaved, ⟨part, begins, short, written⟩, refuses⟩
    · intro l elsewhere
      cases unsaved with
      | output store journal => exact congrArg (·.lookup l) store
      | file p f adds journal => exact Store.adds_others _ _ p _ _ adds l (elsewhere p rfl)

theorem deliver_none (t : Tally) (d : Destination) (world : World) (none : t.total = 0) :
    t.deliver world d = (world, .none) := by
  have clean : t.hasErrors = false := by simp [Tally.hasErrors, none]
  cases d with
  | output => simp [deliver_output, clean]
  | file p => simp [deliver_file, clean]

end Tally

theorem Linter.run_keeps_count (r : Linter) (world : World) (paths : List Path)
    (counted returned : Tally) (before : (r.lintPaths world .zero paths).2 = .ok counted)
    (after : (r.run world paths).2 = .ok returned) : returned = counted := by
  obtain ⟨notes, linted⟩ := r.lint_paths_offer world .zero paths
  rw [linted, settle_ok_iff, show Tally.zero.total = 0 from rfl, Nat.zero_add] at before
  have same : r.count? world.store paths = some returned := (r.run_returned world paths _ after).1
  exact Option.some.inj (same.symm.trans before.2)

/-- The file takes the count whole, or the output does, or the output stops. Where the file was
opened and then refused a piece, it keeps the beginning that it took. -/
theorem Tally.count_delivered_once (t : Tally) (d : Destination) (world : World) :
    (t.total = 0 → t.deliver world d = (world, none)) ∧
      (0 < t.total → DeliveredOnce t d world (t.deliver world d).1 (t.deliver world d).2) ∧
      ∀ (r : Linter) paths counted returned, (r.lintPaths world .zero paths).2 = .ok counted →
        (r.run world paths).2 = .ok returned → returned = counted := by
  refine ⟨t.deliver_none d world, ?_, ?_⟩
  · intro some
    exact t.deliver_once d world (decide_eq_true some)
  · intro r paths counted returned
    exact r.run_keeps_count world paths counted returned

/-- The disk is full behind four bytes of a block, and the output behind ten bytes. -/
def fullWorld : World where
  store := Store.fresh.answering [.takes 1, .takes 4, .fails .noSpace]
  outlet := ⟨[.fails (.code 4), .takes 1, .takes 9, .fails .noSpace], .boundless⟩
  journal := []

def fullDisk : World := { fullWorld with outlet := .boundless }

namespace Tally

def one : Tally := ⟨1, by decide⟩

def two : Tally := ⟨2, by decide⟩

theorem count_cut_short :
    (two.deliver fullWorld (.file ⟨[0x73]⟩)).2 = some (.refused .noSpace) ∧
      Unsaved two fullWorld (two.deliver fullWorld (.file ⟨[0x73]⟩)).1 (.file ⟨[0x73]⟩) := by
  have cut : (two.deliver fullWorld (.file ⟨[0x73]⟩)).2 = some (.refused .noSpace) := by
    decide +kernel
  obtain ⟨_, delivered, _⟩ := count_delivered_once two (.file ⟨[0x73]⟩) fullWorld
  exact ⟨cut, ((delivered (by decide)).failed _ cut).1⟩

/-- A delivery that returns has let the file grow by the block and done nothing else, or the output
took the notice and no file changed. -/
def EitherOr (t : Tally) (p : Path) (world : World) : Prop :=
  (t.deliver world (.file p)).2 = none →
    (t.deliver world (.file p)).1.store.content? p =
          some ((world.store.content? p).getD [] ++ bytesOf t.block) ∧
        (t.deliver world (.file p)).1.outlet = world.outlet ∧
        (t.deliver world (.file p)).1.journal = world.journal ∨
      (t.deliver world (.file p)).1.outlet.written = world.outlet.written ++ bytesOf t.notice ∧
        ∀ l, (t.deliver world (.file p)).1.store.lookup l = world.store.lookup l

def nullDevice : Path := ⟨bytesOf "/dev/null"⟩

theorem count_not_either_or :
    ¬ EitherOr one nullDevice .fresh ∧ ¬ EitherOr one ⟨[0x73]⟩ fullDisk := by
  constructor
  · intro either
    rcases either (by decide +kernel) with ⟨content, _⟩ | ⟨written, _⟩
    · exact absurd content (by decide +kernel)
    · exact absurd written (by decide +kernel)
  · intro either
    rcases either (by decide +kernel) with ⟨content, _⟩ | ⟨_, files⟩
    · exact absurd content (by decide +kernel)
    · exact absurd (files (Store.workplace ++ [[0x73]])) (by decide +kernel)

end Tally

end ErrorWording
