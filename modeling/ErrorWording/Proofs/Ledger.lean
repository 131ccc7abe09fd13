import ErrorWording.Proofs.Adding
import ErrorWording.Proofs.Curtail

set_option autoImplicit false

namespace ErrorWording

namespace Store

def Plain (s : Store) (p : Path) : Prop :=
  match s.resolve .adding p with
  | .ok (.directory _) => False
  | .ok (.device _) => False
  | _ => True

/-- A store and a later one, in which the file that the path leads to has grown by these parts and
all else is as it was. A part may be empty, but only `none` leaves a free place free. -/
structure Grown (p : Path) (s after : Store) (parts : List (Option Bytes)) : Prop where
  content : (after.content? p).getD [] = (s.content? p).getD [] ++ (parts.filterMap id).flatten
  absent : after.content? p = none ↔ s.content? p = none ∧ ∀ part ∈ parts, part = none
  others : ∀ k, ¬ Leads k (s.resolve .adding p) → after.lookup k = s.lookup k
  leads : ∀ k, Leads k (after.resolve .adding p) ↔ Leads k (s.resolve .adding p)
  plain : after.Plain p

theorem grown_same (p : Path) (s after : Store) (same : SameFiles s after) (plain : s.Plain p)
    (parts : List (Option Bytes)) (nothing : ∀ part ∈ parts, part = none) :
    Grown p s after parts := by
  have empty : parts.filterMap id = [] := by simpa [List.filterMap_eq_nil_iff] using nothing
  refine ⟨?_, ?_, fun k _ => same.lookup k, ?_, ?_⟩
  · rw [content_same same, empty, List.flatten_nil, List.append_nil]
  · simp only [content_same same, iff_self_and]
    exact fun _ => nothing
  · intro k
    rw [resolve_same same]
  · rw [Plain, resolve_same same]
    exact plain

theorem grown_refl (p : Path) (s : Store) (plain : s.Plain p) : Grown p s s [] :=
  grown_same p s s ⟨rfl, fun _ => rfl⟩ plain [] (by simp)

theorem grown_trans (p : Path) (s middle after : Store) (a b : List (Option Bytes))
    (first : Grown p s middle a) (second : Grown p middle after b) :
    Grown p s after (a ++ b) := by
  refine ⟨?_, ?_, ?_, fun k => (second.leads k).trans (first.leads k), second.plain⟩
  · rw [second.content, first.content, List.filterMap_append, List.flatten_append,
      List.append_assoc]
  · rw [second.absent, first.absent, List.forall_mem_append, and_assoc]
  · intro k elsewhere
    rw [second.others k (fun leads => elsewhere ((first.leads k).mp leads)),
      first.others k elsewhere]

theorem grown_rewritten (p : Path) (s after : Store) (l : Location) (part : Bytes)
    (leads : Leads l (s.resolve .adding p))
    (rewritten : Rewritten s after l ((s.content? p).getD [] ++ part)) :
    Grown p s after [some part] ∧
      after.resolve .adding p = .ok (.file l ((s.content? p).getD [] ++ part)) := by
  have stands := s.resolve_stands .adding p
  have was : s.lookup l = none ∨ s.HoldsFile l := by
    cases led : s.resolve .adding p with
    | error f =>
        rw [led] at leads
        exact leads.elim
    | ok target =>
        rw [led] at leads stands
        cases target with
        | file k content =>
            obtain rfl : k = l := leads
            exact .inr ⟨content, stands⟩
        | free k =>
            obtain rfl : k = l := leads
            exact .inl stands
        | directory k => exact leads.elim
        | device d => exact leads.elim
  have found := (resolve_follows rewritten was .adding p).reached leads
  have content : after.content? p = some ((s.content? p).getD [] ++ part) := by
    rw [content?, after.resolve_reading p _ found]
  refine ⟨⟨?_, ?_, ?_, ?_, ?_⟩, found⟩
  · simp [content]
  · simp [content]
  · intro k elsewhere
    refine rewritten.others k ?_
    rintro rfl
    exact elsewhere leads
  · intro k
    rw [found]
    constructor
    · rintro rfl
      exact leads
    · intro before
      exact leads_unique _ l k leads before
  · rw [Plain, found]
    trivial

end Store

inductive Request where
  | run (paths : List Path)
  | check (p : Path)
  | scan (p : Path)
deriving DecidableEq, Repr

structure Posting where
  tally : Tally
  fault : Option Fault
deriving DecidableEq, Repr

/-- What a file takes for each posting: the block of one that succeeds, and a part of the block of
one that fails, or nothing where the file could not even be opened. -/
inductive Ledger : List Posting → List (Option Bytes) → Prop where
  | nil : Ledger [] []
  | entered (t : Tally) (rest : List Posting) (parts : List (Option Bytes))
      (others : Ledger rest parts) : Ledger (⟨t, none⟩ :: rest) (some (bytesOf t.block) :: parts)
  | cut (t : Tally) (f : Fault) (part : Bytes) (rest : List Posting) (parts : List (Option Bytes))
      (begins : part <+: bytesOf t.block) (short : part ≠ bytesOf t.block)
      (others : Ledger rest parts) : Ledger (⟨t, some f⟩ :: rest) (some part :: parts)
  | unopened (t : Tally) (f : Fault) (rest : List Posting) (parts : List (Option Bytes))
      (others : Ledger rest parts) : Ledger (⟨t, some f⟩ :: rest) (none :: parts)

theorem ledger_append (postings others : List Posting) (parts more : List (Option Bytes))
    (first : Ledger postings parts) (second : Ledger others more) :
    Ledger (postings ++ others) (parts ++ more) := by
  induction first with
  | nil => exact second
  | entered t rest parts _ ih => exact .entered t _ _ ih
  | cut t f part rest parts begins short _ ih => exact .cut t f part _ _ begins short ih
  | unopened t f rest parts _ ih => exact .unopened t f _ _ ih

theorem ledger_entered (postings : List Posting) (parts : List (Option Bytes))
    (ledger : Ledger postings parts) (entered : ∀ posting ∈ postings, posting.fault = none) :
    (parts.filterMap id).flatten = postings.flatMap fun posting => bytesOf posting.tally.block := by
  induction ledger with
  | nil => rfl
  | entered t rest parts _ ih =>
      rw [List.forall_mem_cons] at entered
      exact congrArg (bytesOf t.block ++ ·) (ih entered.2)
  | cut t f part rest parts _ _ _ _ => simp at entered
  | unopened t f rest parts _ _ => simp at entered

namespace Tally

theorem block_present (t : Tally) : t.blockPieces.flatten ≠ [] := by
  intro empty
  rw [blockPieces, List.flatten_cons, List.append_eq_nil_iff] at empty
  exact absurd empty.1 (by decide)

theorem post_ledger (t : Tally) (p : Path) (s : Store) (plain : s.Plain p) :
    ∃ parts, Ledger [⟨t, (s.append p t.blockPieces).2⟩] parts ∧
      Store.Grown p s (s.append p t.blockPieces).1 parts := by
  have adds := s.append_adds p t.blockPieces t.block_present
  rw [block_pieces_flatten] at adds
  unfold Store.Plain at plain
  generalize s.append p t.blockPieces = outcome at adds
  -- The sink is no directory and no device, so a part reaches the file or nothing does.
  cases adds with
  | lost f led => exact ⟨[none], .unopened t f _ _ .nil,
      Store.grown_same p s s ⟨rfl, fun _ => rfl⟩ plain _ (by simp)⟩
  | directory l led =>
      rw [led] at plain
      exact plain.elim
  | swallowed led =>
      rw [led] at plain
      exact plain.elim
  | full led =>
      rw [led] at plain
      exact plain.elim
  | unopened l after f leads same => exact ⟨[none], .unopened t f _ _ .nil,
      Store.grown_same p s after same plain _ (by simp)⟩
  | opened l part after fault leads rewritten begins whole =>
      have grown := (Store.grown_rewritten p s after l part leads rewritten).1
      cases fault with
      | none =>
          cases whole.mp rfl
          exact ⟨_, .entered t _ _ .nil, grown⟩
      | some f =>
          simp only [reduceCtorEq, false_iff] at whole
          exact ⟨_, .cut t f part _ _ begins whole .nil, grown⟩

end Tally

namespace Linter

def perform (r : Linter) (world : World) : Request → World
  | .run paths => (r.run world paths).1
  | .check p => (r.check world p).1
  | .scan p => (r.scan world p).1

def session (r : Linter) (world : World) (requests : List Request) : World :=
  requests.foldl r.perform world

/-- The count that a request tries to enter into the file: the one of a run with errors, if the
output takes all its lines. -/
def posting? (r : Linter) (world : World) : Request → Option Posting
  | .run paths =>
      match r.destination with
      | .output => none
      | .file p =>
          let found := r.diagnostics world paths
          ((Tally.ofNat? found.length).filter fun t =>
            t.hasErrors && (world.outlet.offerAll (pages found)).2.isNone).map fun t =>
              ⟨t, (world.store.append p t.blockPieces).2⟩
  | .check _ => none
  | .scan _ => none

def postings (r : Linter) (world : World) : List Request → List Posting
  | [] => []
  | request :: rest =>
      (r.posting? world request).toList ++ r.postings (r.perform world request) rest

theorem posting_some_iff (r : Linter) (p : Path) (world : World) (paths : List Path)
    (posting : Posting) (sink : r.destination = .file p) :
    r.posting? world (.run paths) = some posting ↔
      posting.tally.total = (r.diagnostics world paths).length ∧
        posting.tally.hasErrors = true ∧
        (world.outlet.offerAll (pages (r.diagnostics world paths))).2 = none ∧
        (world.store.append p posting.tally.blockPieces).2 = posting.fault := by
  obtain ⟨t, fault⟩ := posting
  simp only [posting?, sink, Option.map_eq_some_iff, Option.filter_eq_some_iff,
    Tally.ofNat?_eq_some_iff, Bool.and_eq_true, Option.isNone_iff_eq_none, Posting.mk.injEq]
  constructor
  · rintro ⟨counted, ⟨total, errors, taken⟩, rfl, same⟩
    exact ⟨total, errors, taken, same⟩
  · rintro ⟨total, errors, taken, same⟩
    exact ⟨t, ⟨total, errors, taken⟩, rfl, same⟩

theorem listing_counted (r : Linter) (world : World) (paths : List Path) (t : Tally)
    (counted : r.count? world.store paths = some t) :
    t.total = (r.diagnostics world paths).length ∧
      r.listing world.store .zero paths = pages (r.diagnostics world paths) := by
  have total := (r.count?_eq_some_iff world.store paths t).mp counted
  rw [diagnostics_eq]
  refine ⟨total, r.listing_pages world.store .zero paths ?_⟩
  rw [show Tally.zero.total = 0 from rfl, Nat.zero_add, ← total]
  exact t.total_lt

theorem run_unposted (r : Linter) (p : Path) (world : World) (paths : List Path)
    (sink : r.destination = .file p) (unposted : r.posting? world (.run paths) = none) :
    (r.run world paths).1.store = world.store := by
  rw [run_store, filesAfter]
  cases counted : r.count? world.store paths with
  | none => cases (world.outlet.offerAll (r.listing world.store .zero paths)).2 <;> rfl
  | some t =>
      obtain ⟨total, listed⟩ := r.listing_counted world paths t counted
      rw [listed]
      cases taken : (world.outlet.offerAll (pages (r.diagnostics world paths))).2 with
      | some halt => rfl
      | none =>
          cases errors : t.hasErrors with
          | false => simp [Destination.closing, errors]
          | true =>
              have posted := (r.posting_some_iff p world paths
                ⟨t, (world.store.append p t.blockPieces).2⟩ sink).mpr ⟨total, errors, taken, rfl⟩
              simp [unposted] at posted

theorem closing_posted (p : Path) (s : Store) (t : Tally) (errors : t.hasErrors = true) :
    ((Destination.file p).closing s t).store = (s.append p t.blockPieces).1 ∧
      ((s.append p t.blockPieces).2 = none → ((Destination.file p).closing s t).pieces = []) := by
  simp only [Destination.closing, errors, if_true]
  rcases s.append p t.blockPieces with ⟨after, fault⟩
  cases fault <;> simp

theorem run_posted (r : Linter) (p : Path) (world : World) (paths : List Path)
    (posting : Posting) (sink : r.destination = .file p)
    (posted : r.posting? world (.run paths) = some posting) :
    world.store.append p posting.tally.blockPieces =
      ((r.run world paths).1.store, posting.fault) := by
  obtain ⟨total, errors, taken, same⟩ := (r.posting_some_iff p world paths posting sink).mp posted
  have counted := r.count_total world paths posting.tally total
  obtain ⟨_, listed⟩ := r.listing_counted world paths posting.tally counted
  rw [run_store, filesAfter, counted, listed, taken, sink]
  exact Prod.ext (closing_posted p world.store posting.tally errors).1.symm same

theorem run_posted_result (r : Linter) (p : Path) (world : World) (paths : List Path)
    (posting : Posting) (sink : r.destination = .file p)
    (posted : r.posting? world (.run paths) = some posting) (entered : posting.fault = none) :
    (r.run world paths).2 =
      ((world.outlet.offerAll (pages (r.diagnostics world paths))).1.close posting.tally).2 := by
  obtain ⟨total, errors, taken, same⟩ := (r.posting_some_iff p world paths posting sink).mp posted
  have counted := r.count_total world paths posting.tally total
  obtain ⟨_, listed⟩ := r.listing_counted world paths posting.tally counted
  have silent := (closing_posted p world.store posting.tally errors).2 (same.trans entered)
  rw [← sink] at silent
  obtain ⟨notes, ran⟩ := r.run_offer world paths
  rw [ran, transcript, counted, listed, Output.conclude]
  simp only [silent, List.append_nil, taken, settle]

theorem perform_grown (r : Linter) (p : Path) (world : World) (request : Request)
    (sink : r.destination = .file p) (plain : world.store.Plain p) :
    ∃ parts, Ledger (r.posting? world request).toList parts ∧
      Store.Grown p world.store (r.perform world request).store parts := by
  cases request with
  | run paths =>
      cases posted : r.posting? world (.run paths) with
      | none =>
          rw [perform, r.run_unposted p world paths sink posted]
          exact ⟨[], .nil, Store.grown_refl p world.store plain⟩
      | some posting =>
          have appended := r.run_posted p world paths posting sink posted
          have ledger := posting.tally.post_ledger p world.store plain
          rw [appended] at ledger
          exact ledger
  | check q =>
      rw [perform, check_eq]
      exact ⟨[], .nil, Store.grown_refl p world.store plain⟩
  | scan q =>
      rw [perform, scan_store]
      exact ⟨[], .nil, Store.grown_refl p world.store plain⟩

theorem session_grown (r : Linter) (p : Path) (world : World) (requests : List Request)
    (sink : r.destination = .file p) (plain : world.store.Plain p) :
    ∃ parts, Ledger (r.postings world requests) parts ∧
      Store.Grown p world.store (r.session world requests).store parts := by
  -- The path stays plain whatever was added, so each request starts as the first one did.
  induction requests generalizing world with
  | nil => exact ⟨[], .nil, Store.grown_refl p world.store plain⟩
  | cons request rest ih =>
      obtain ⟨parts, first, grown⟩ := r.perform_grown p world request sink plain
      obtain ⟨more, second, later⟩ := ih (r.perform world request) grown.plain
      exact ⟨parts ++ more, ledger_append _ _ _ _ first second,
        Store.grown_trans p _ _ _ _ _ grown later⟩

theorem session_unposted (r : Linter) (p : Path) (world : World) (requests : List Request)
    (sink : r.destination = .file p) (none : r.postings world requests = []) :
    (r.session world requests).store = world.store := by
  induction requests generalizing world with
  | nil => rfl
  | cons request rest ih =>
      rw [postings, List.append_eq_nil_iff, Option.toList_eq_nil_iff] at none
      refine (ih (r.perform world request) none.2).trans ?_
      cases request with
      | run paths => exact r.run_unposted p world paths sink none.1
      | check q => rw [perform, check_eq]; rfl
      | scan q => exact r.scan_store world q

structure RunEntry (r : Linter) (p : Path) (world : World) (paths : List Path) : Prop where
  clean : r.diagnostics world paths = [] → (r.run world paths).1.store = world.store
  stopped : ∀ halt, (world.outlet.offerAll (pages (r.diagnostics world paths))).2 = some halt →
    (r.run world paths).1.store = world.store
  posted : ∀ posting, r.posting? world (.run paths) = some posting →
    posting.tally.total = (r.diagnostics world paths).length ∧
      world.store.append p posting.tally.blockPieces =
        ((r.run world paths).1.store, posting.fault) ∧
      (posting.fault = none → (r.run world paths).2 =
        ((world.outlet.offerAll (pages (r.diagnostics world paths))).1.close posting.tally).2)

theorem run_entry (r : Linter) (p : Path) (world : World) (paths : List Path)
    (sink : r.destination = .file p) : RunEntry r p world paths := by
  refine ⟨?_, ?_, ?_⟩
  · intro clean
    refine r.run_unposted p world paths sink (Option.eq_none_iff_forall_ne_some.mpr ?_)
    intro posting posted
    obtain ⟨total, errors, _⟩ := (r.posting_some_iff p world paths posting sink).mp posted
    simp [clean] at total
    simp [Tally.hasErrors, total] at errors
  · intro halt stopped
    refine r.run_unposted p world paths sink (Option.eq_none_iff_forall_ne_some.mpr ?_)
    intro posting posted
    obtain ⟨_, _, taken, _⟩ := (r.posting_some_iff p world paths posting sink).mp posted
    simp [stopped] at taken
  · intro posting posted
    exact ⟨((r.posting_some_iff p world paths posting sink).mp posted).1,
      r.run_posted p world paths posting sink posted,
      r.run_posted_result p world paths posting sink posted⟩

theorem session_ledger (r : Linter) (p : Path) (world : World) (requests : List Request)
    (sink : r.destination = .file p) (plain : world.store.Plain p) :
    (∃ parts, Ledger (r.postings world requests) parts ∧
        Store.Grown p world.store (r.session world requests).store parts) ∧
      ((∀ posting ∈ r.postings world requests, posting.fault = none) →
        ((r.session world requests).store.content? p).getD [] =
          (world.store.content? p).getD [] ++ (r.postings world requests).flatMap
            fun posting => bytesOf posting.tally.block) ∧
      (r.postings world requests = [] → (r.session world requests).store = world.store) ∧
      ∀ paths, RunEntry r p (r.session world requests) paths := by
  obtain ⟨parts, ledger, grown⟩ := r.session_grown p world requests sink plain
  refine ⟨⟨parts, ledger, grown⟩, ?_, r.session_unposted p world requests sink, ?_⟩
  · intro entered
    rw [grown.content, ledger_entered _ parts ledger entered]
  · intro paths
    exact r.run_entry p _ paths sink

/-- A link to a place where there is nothing. -/
def danglingLink : Store :=
  Store.fresh.put (Store.workplace ++ [[0x73]]) (.link ⟨[0x6F]⟩)

/-- The summary file is to be made behind a link. The disk takes a whole block and is then full in
the middle of a heading, once. The output fails when it is first flushed and again at a line. -/
def wornWorld : World where
  store := danglingLink.answering
    [.takes 1, .takes 99, .takes 99, .takes 99, .takes 99, .takes 1, .takes 5, .fails .noSpace]
  outlet := ⟨[.takes 99, .takes 99, .takes 99, .takes 99, .fails (.code 5), .takes 0,
    .fails .noSpace], .boundless⟩
  journal := []

def wornRequests : List Request :=
  [.run [⟨[0x61]⟩], .run [], .check ⟨[0x61]⟩, .run [⟨[0x61]⟩], .run [⟨[0x61]⟩], .run [⟨[0x61]⟩]]

def toLinkedFile : Linter := ⟨.standard, .file ⟨[0x73]⟩⟩

theorem ledger_behind_link :
    toLinkedFile.postings wornWorld wornRequests =
        [⟨⟨1, by decide⟩, none⟩, ⟨⟨1, by decide⟩, some .noSpace⟩, ⟨⟨1, by decide⟩, none⟩] ∧
      ((toLinkedFile.session wornWorld wornRequests).store.content? ⟨[0x73]⟩).getD [] =
        bytesOf ("### Go Error Message Linting\n\nFound 1 formatting error(s).\n" ++ "### G" ++
          "### Go Error Message Linting\n\nFound 1 formatting error(s).\n") ∧
      ∃ parts, Ledger (toLinkedFile.postings wornWorld wornRequests) parts ∧
        Store.Grown ⟨[0x73]⟩ wornWorld.store
          (toLinkedFile.session wornWorld wornRequests).store parts := by
  have found : wornWorld.store.resolve .adding ⟨[0x73]⟩ =
      .ok (.free (Store.workplace ++ [[0x6F]])) := rfl
  have plain : wornWorld.store.Plain ⟨[0x73]⟩ := by
    rw [Store.Plain, found]
    trivial
  exact ⟨by decide +kernel, by decide +kernel,
    (session_ledger toLinkedFile ⟨[0x73]⟩ wornWorld wornRequests rfl plain).1⟩

def HoldsBlocks (r : Linter) (p : Path) (world : World) (requests : List Request) : Prop :=
  (r.session world requests).store.content? p =
    some ((world.store.content? p).getD [] ++
      ((r.postings world requests).filter (·.fault.isNone)).flatMap fun posting =>
        bytesOf posting.tally.block)

theorem summary_not_only_blocks :
    ¬ HoldsBlocks toLinkedFile ⟨[0x73]⟩ wornWorld wornRequests ∧
      ¬ HoldsBlocks toUnmadeFile ⟨bytesOf "no/s"⟩ .fresh [.run [⟨[0x61]⟩]] := by
  unfold HoldsBlocks
  decide +kernel

end Linter
end ErrorWording
