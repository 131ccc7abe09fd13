import ErrorWording.Proofs.Chunking
import ErrorWording.Proofs.Ledger
import ErrorWording.Proofs.Raised

set_option autoImplicit false

namespace ErrorWording

namespace Wording

theorem check_pieces_append (w : Wording) (first : Nat) (text tail : List Char)
    (free : Call.quote ∉ tail) :
    w.checkLines first ((text ++ tail).splitOn '\n') = w.checkLines first (text.splitOn '\n') := by
  by_cases broken : '\n' ∈ text
  · obtain ⟨line, later, rfl, unbroken⟩ := List.eq_append_cons_of_mem broken
    have ih := check_pieces_append w (first + 1) later tail free
    rw [List.append_assoc, List.cons_append, List.splitOn_append_cons_self_of_not_mem unbroken,
      List.splitOn_append_cons_self_of_not_mem unbroken]
    simp [ih]
  · rw [List.splitOn_eq_singleton broken]
    by_cases longer : '\n' ∈ tail
    -- Only the last line of the text grows. What follows it are lines of their own without a quote.
    · obtain ⟨front, rest, rfl, unbroken⟩ := List.eq_append_cons_of_mem longer
      have frontFree : Call.quote ∉ front := fun member => free (by simp [member])
      have restFree : Call.quote ∉ rest := fun member => free (by simp [member])
      have joined : '\n' ∉ text ++ front := by simp [broken, unbroken]
      have ih := check_pieces_append w (first + 1) [] rest restFree
      rw [List.nil_append] at ih
      rw [← List.append_assoc, List.splitOn_append_cons_self_of_not_mem joined]
      simp [check_append w first text front frontFree, ih]
    · have joined : '\n' ∉ text ++ tail := by simp [broken, longer]
      rw [List.splitOn_eq_singleton joined]
      simp [check_append w first text tail free]
termination_by text.length + tail.length
decreasing_by
  all_goals simp only [*, List.length_append, List.length_cons, List.length_nil]
  all_goals omega

theorem scan_text_append (w : Wording) (text tail : List Char) (free : Call.quote ∉ tail) :
    w.scanText (text ++ tail) = w.scanText text := by
  rw [scan_text_pieces, scan_text_pieces, check_pieces_append w 1 text tail free]

end Wording

namespace Tally

theorem count_line_unquoted (t : Tally) : Call.quote ∉ t.countLine.toList := by
  have digits := not_mem_decimal t.total Call.quote (by decide)
  simp only [countLine, String.toList_append, List.mem_append, not_or]
  exact ⟨⟨by decide, digits⟩, by decide⟩

theorem block_text (t : Tally) :
    ∃ rest, t.block.toList = '#' :: rest ∧ Call.quote ∉ '#' :: rest := by
  have heading : "### Go Error Message Linting\n\n".toList =
      '#' :: "## Go Error Message Linting\n\n".toList := by decide
  have free := t.count_line_unquoted
  unfold block
  -- Left open, so that no literal is compared with it.
  generalize t.countLine = line at free ⊢
  refine ⟨"## Go Error Message Linting\n\n".toList ++ line.toList ++ "\n".toList, ?_, ?_⟩
  · rw [String.toList_append, String.toList_append, heading, List.cons_append, List.cons_append]
  · simp only [List.mem_cons, List.mem_append, not_or]
    exact ⟨by decide, ⟨by decide, free⟩, by decide⟩

end Tally

theorem decode_append_block (content : Bytes) (t : Tally) :
    Utf8.decode? (content ++ bytesOf t.block) =
      (Utf8.decode? content).map (· ++ t.block.toList) := by
  obtain ⟨rest, text, _⟩ := t.block_text
  have bytes : bytesOf t.block = 0x23 :: Utf8.encode rest := by
    rw [bytesOf, text]
    rfl
  rw [bytes, Utf8.decode_append_below content _ 0x23 (by decide), Utf8.decode_encode, text]
  cases Utf8.decode? content <;> rfl

namespace Wording

theorem scan_text_block (w : Wording) (text : List Char) (t : Tally) :
    w.scanText (text ++ t.block.toList) = w.scanText text := by
  obtain ⟨rest, block, free⟩ := t.block_text
  rw [block]
  exact w.scan_text_append text _ free

theorem scan_events_block (w : Wording) (deliveries added : List Delivery) (content : Bytes)
    (t : Tally) (events : eventsOf deliveries = content.map .byte)
    (addedEvents : eventsOf added = (content ++ bytesOf t.block).map .byte) :
    w.scanDeliveries added = w.scanDeliveries deliveries := by
  rw [scan_events w added _ addedEvents, scan_events w deliveries content events,
    decode_append_block]
  cases Utf8.decode? content with
  | none => rfl
  | some text => exact congrArg Except.ok (w.scan_text_block text t)

theorem scan_bytes_block (w : Wording) (content : Bytes) (t : Tally) :
    w.scanBytes (content ++ bytesOf t.block) = w.scanBytes content :=
  w.scan_events_block [.bytes content] [.bytes (content ++ bytesOf t.block)] content t
    (List.append_nil _) (List.append_nil _)

end Wording

namespace Store

theorem append_block (s : Store) (sink : Path) (l : Location) (content : Bytes) (t : Tally)
    (found : s.resolve .adding sink = .ok (.file l content))
    (willing : Reply.Willing s.replies) :
    (s.append sink t.blockPieces).2 = none ∧
      Rewritten s (s.append sink t.blockPieces).1 l (content ++ bytesOf t.block) ∧
      (s.append sink t.blockPieces).1.resolve .adding sink =
        .ok (.file l (content ++ bytesOf t.block)) := by
  have entered := s.append_willing sink l content t.blockPieces willing found
  have adds := s.append_adds sink t.blockPieces t.block_present
  have held : (s.content? sink).getD [] = content := by
    rw [content?, s.resolve_reading sink _ found, Option.getD_some]
  rw [Tally.block_pieces_flatten] at adds
  generalize s.append sink t.blockPieces = outcome at entered adds
  cases adds with
  | lost f led => cases entered
  | directory k led => cases entered
  | swallowed led => cases found.symm.trans led
  | full led => cases entered
  | unopened k after f leads same => cases entered
  | opened k part after fault leads rewritten begins whole =>
      cases whole.mp entered
      have again := (grown_rewritten sink s after k _ leads rewritten).2
      rw [found] at leads
      obtain rfl : l = k := leads
      rw [held] at rewritten again
      exact ⟨entered, rewritten, again⟩

theorem inspect_rewritten_block (w : Wording) (s after : Store) (l : Location) (content : Bytes)
    (t : Tally) (held : s.lookup l = some (.file content))
    (rewritten : Rewritten s after l (content ++ bytesOf t.block)) (p : Path) :
    w.inspect after p = w.inspect s p := by
  have follows := resolve_follows rewritten (.inr ⟨content, held⟩) .reading p
  unfold Wording.inspect read
  by_cases reached : Leads l (s.resolve .reading p)
  · have stands := s.resolve_stands .reading p
    rw [follows.reached reached]
    cases before : s.resolve .reading p with
    | error f =>
        rw [before] at reached
        exact reached.elim
    | ok target =>
        rw [before] at reached stands
        cases target with
        | file k old =>
            obtain rfl : k = l := reached
            cases stands.symm.trans held
            have scans : w.scanDeliveries [.bytes (content ++ bytesOf t.block)] =
                w.scanDeliveries [.bytes content] := w.scan_bytes_block content t
            simp only [Wording.judge, scans]
        | free k =>
            obtain rfl : k = l := reached
            cases stands.symm.trans held
        | directory k => exact reached.elim
        | device d => exact reached.elim
  · rw [follows.missed ⟨content, held⟩ reached]

end Store

namespace Linter

/-- All that a run over these files depends on is as it was, and the summary file is still there,
on a disk that refuses nothing. -/
structure Relintable (r : Linter) (p : Path) (s after : Store) : Prop where
  inspects : ∀ q, r.wording.inspect after q = r.wording.inspect s q
  sink : ∃ l content, after.resolve .adding p = .ok (.file l content)
  willing : Reply.Willing after.replies

theorem run_relintable (r : Linter) (p : Path) (s : Store) (world : World) (paths : List Path)
    (sink : r.destination = .file p) (before : Relintable r p s world.store) :
    Relintable r p s (r.run world paths).1.store := by
  cases posted : r.posting? world (.run paths) with
  | none =>
      rw [r.run_unposted p world paths sink posted]
      exact before
  | some posting =>
      obtain ⟨l, content, found⟩ := before.sink
      have appended := r.run_posted p world paths posting sink posted
      have stands := world.store.resolve_stands .adding p
      have replies := world.store.append_replies p posting.tally.blockPieces
      obtain ⟨_, rewritten, again⟩ :=
        world.store.append_block p l content posting.tally found before.willing
      rw [found] at stands
      rw [appended] at rewritten again replies
      refine ⟨?_, ⟨l, _, again⟩, Reply.willing_suffix _ _ replies before.willing⟩
      intro q
      rw [Store.inspect_rewritten_block r.wording _ _ l content posting.tally stands rewritten q,
        before.inspects]

theorem after_runs_relintable (r : Linter) (p : Path) (s : Store) (world : World)
    (earlier : List (List Path)) (sink : r.destination = .file p)
    (before : Relintable r p s world.store) :
    Relintable r p s (r.afterRuns world earlier).store := by
  induction earlier generalizing world with
  | nil => exact before
  | cons paths rest ih => exact ih _ (r.run_relintable p s world paths sink before)

theorem closing_silent (p : Path) (s : Store) (t : Tally) (l : Location) (content : Bytes)
    (found : s.resolve .adding p = .ok (.file l content))
    (willing : Reply.Willing s.replies) : ((Destination.file p).closing s t).pieces = [] := by
  cases errors : t.hasErrors with
  | false => simp [Destination.closing, errors]
  | true =>
      have added := s.append_willing p l content t.blockPieces willing found
      exact (closing_posted p s t errors).2 added

theorem listing_congr (r : Linter) (s after : Store) (t : Tally) (paths : List Path)
    (same : ∀ q, r.report after q = r.report s q) :
    r.listing after t paths = r.listing s t paths := by
  induction paths generalizing t with
  | nil => rfl
  | cons q rest ih => simp only [listing, same, ih]

theorem transcript_relintable (r : Linter) (p : Path) (s after : Store) (paths : List Path)
    (sink : r.destination = .file p) (first : Relintable r p s s)
    (later : Relintable r p s after) :
    r.transcript after paths = r.transcript s paths ∧ r.count? after paths = r.count? s paths := by
  obtain ⟨l, content, found⟩ := first.sink
  obtain ⟨k, grown, again⟩ := later.sink
  have same (q : Path) : r.report after q = r.report s q := by
    rw [report, report, later.inspects]
  have count : r.count? after paths = r.count? s paths := by
    simp only [count?, reports, List.flatMap_def, funext same]
  refine ⟨?_, count⟩
  rw [transcript, transcript, r.listing_congr s after .zero paths same, count, sink]
  cases r.count? s paths with
  | none => rfl
  | some t =>
      simp only [closing_silent p after t k grown again later.willing,
        closing_silent p s t l content found first.willing]

/-- The run over these paths returns the same in both worlds and adds the same to the output. -/
structure Repeats (r : Linter) (paths : List Path) (first later : World) : Prop where
  result : (r.run later paths).2 = (r.run first paths).2
  output : ∃ bytes, (r.run first paths).1.outlet.written = first.outlet.written ++ bytes ∧
    (r.run later paths).1.outlet.written = later.outlet.written ++ bytes

theorem run_repeats (r : Linter) (p : Path) (world : World) (l : Location) (content : Bytes)
    (earlier : List (List Path)) (paths : List Path) (sink : r.destination = .file p)
    (found : world.store.resolve .adding p = .ok (.file l content))
    (willing : Reply.Willing world.store.replies)
    (takes : world.outlet.TakesAll) : Repeats r paths world (r.afterRuns world earlier) := by
  have first : Relintable r p world.store world.store :=
    ⟨fun _ => rfl, ⟨l, content, found⟩, willing⟩
  have later := r.after_runs_relintable p world.store world earlier sink first
  -- The blocks change no line that is judged, so all that is offered stays the same.
  obtain ⟨transcript, count⟩ := r.transcript_relintable p world.store _ paths sink first later
  obtain ⟨output, result⟩ := r.run_freely world paths takes
  obtain ⟨laterOutput, laterResult⟩ :=
    r.run_freely _ paths (r.after_runs_keep world earlier takes)
  rw [transcript] at laterOutput
  exact ⟨by rw [result, laterResult, count], _, output, laterOutput⟩

theorem blocks_change_no_lint :
    (∀ (w : Wording) (content : Bytes) (t : Tally),
      w.scanBytes (content ++ bytesOf t.block) = w.scanBytes content ∧
        ∀ deliveries added, Delivers deliveries content →
          Delivers added (content ++ bytesOf t.block) →
          w.scanDeliveries added = w.scanDeliveries deliveries) ∧
      ∀ (r : Linter) (p : Path) (world : World) (l : Location) (content : Bytes),
        r.destination = .file p → world.store.resolve .adding p = .ok (.file l content) →
        Reply.Willing world.store.replies → world.outlet.TakesAll → ∀ earlier paths,
          Repeats r paths world (r.afterRuns world earlier) ∧
            ((r.diagnostics world paths).length < UInt64.size →
              ∃ t, (r.run world paths).2 = .ok t ∧
                t.total = (r.diagnostics world paths).length) := by
  refine ⟨fun w content t => ⟨w.scan_bytes_block content t, ?_⟩, ?_⟩
  · intro deliveries added delivers delivered
    exact w.scan_events_block deliveries added content t (delivers_events _ _ delivers)
      (delivers_events _ _ delivered)
  · intro r p world l content sink found willing takes earlier paths
    refine ⟨r.run_repeats p world l content earlier paths sink found willing takes, ?_⟩
    intro few
    rw [(r.run_freely world paths takes).2, r.count_total world paths ⟨_, few⟩ rfl]
    exact ⟨_, rfl, rfl⟩

def halfLiteralWorld : World where
  store := ((Store.fresh.put (Store.workplace ++ [[0x73]])
    (.file (bytesOf "fmt.Errorf(\"é\")\nfmt.Errorf(\"half"))).put
      (Store.workplace ++ [[0x6B]]) (.link ⟨[0x73]⟩)).answering [.takes 1, .takes 4]
  outlet := .boundless
  journal := []

theorem relint_of_summary_file :
    ∃ t, t.total = 2 ∧
      (toLinkedFile.run
        (toLinkedFile.afterRuns halfLiteralWorld [[⟨[0x73]⟩], [⟨[0x6B]⟩, ⟨[0x73]⟩]])
        [⟨[0x73]⟩, ⟨[0x6B]⟩]).2 = .ok t := by
  have willing : Reply.Willing halfLiteralWorld.store.replies := by
    simp [halfLiteralWorld, Reply.Willing]
  obtain ⟨repeats, returns⟩ := blocks_change_no_lint.2 toLinkedFile ⟨[0x73]⟩ halfLiteralWorld
    (Store.workplace ++ [[0x73]]) (bytesOf "fmt.Errorf(\"é\")\nfmt.Errorf(\"half") rfl rfl willing
    Output.boundless_takes_all [[⟨[0x73]⟩], [⟨[0x6B]⟩, ⟨[0x73]⟩]] [⟨[0x73]⟩, ⟨[0x6B]⟩]
  have count : (toLinkedFile.diagnostics halfLiteralWorld [⟨[0x73]⟩, ⟨[0x6B]⟩]).length = 2 := by
    decide +kernel
  obtain ⟨t, result, total⟩ := returns (by rw [count]; decide)
  exact ⟨t, total.trans count, repeats.result.trans result⟩

end Linter
end ErrorWording
