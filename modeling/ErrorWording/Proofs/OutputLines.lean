import ErrorWording.Command.Parse
import ErrorWording.Settings
import ErrorWording.Proofs.Ledger
import ErrorWording.Proofs.LineFeed

set_option autoImplicit false

namespace ErrorWording

def Line.ended (lines : List (List Char)) : List Char :=
  lines.flatMap (· ++ ['\n'])

/-- So many lines that begin with the command, then the last lines, and nothing else. -/
def Linewise (count : Nat) (last : List (List Char)) (output : Bytes) : Prop :=
  ∃ lines : List (List Char), lines.length = count ∧
    (∀ line ∈ lines, "::error ".toList <+: line ∧ '\n' ∉ line) ∧
    output = Utf8.encode (Line.ended (lines ++ last))

def Destination.accepts (d : Destination) (s : Store) (t : Tally) : Bool :=
  match d with
  | .output => false
  | .file p => (s.append p t.blockPieces).2.isNone

def Destination.lastLines (d : Destination) (s : Store) (t : Tally) : List (List Char) :=
  if t.hasErrors && !d.accepts s t then [[], t.countLine.toList] else []

/-- No path with a finding holds a feed, and neither does a wording that is quoted. -/
structure Linter.Feedless (r : Linter) (s : Store) (paths : List Path) : Prop where
  path : ∀ p ∈ paths, r.wording.inspect s p ≠ .ok [] → Scan.feed ∉ p.bytes
  wording : ∀ p ∈ paths, ∀ v found, r.wording.inspect s p = .ok (v :: found) →
    '\n' ∉ r.wording.required.toList

namespace Line

theorem ended_append (a b : List (List Char)) : ended (a ++ b) = ended a ++ ended b :=
  List.flatMap_append

theorem count_ended_cons (line : List Char) (rest : List (List Char)) :
    (ended (line :: rest)).count '\n' = line.count '\n' + (ended rest).count '\n' + 1 := by
  have parts : ended (line :: rest) = line ++ '\n' :: ended rest := by simp [ended]
  rw [parts, List.count_append, List.count_cons_self, Nat.add_assoc]

theorem length_le_count_ended (lines : List (List Char)) :
    lines.length ≤ (ended lines).count '\n' := by
  induction lines with
  | nil => exact Nat.zero_le _
  | cons line rest ih =>
      rw [count_ended_cons, List.length_cons]
      omega

theorem count_ended_iff (lines : List (List Char)) :
    (ended lines).count '\n' = lines.length ↔ ∀ line ∈ lines, '\n' ∉ line := by
  induction lines with
  | nil => simp [ended]
  | cons line rest ih =>
      -- Each line adds the feed that ends it, so none may add another.
      have least := length_le_count_ended rest
      rw [List.forall_mem_cons, ← ih, ← List.count_eq_zero, count_ended_cons, List.length_cons]
      omega

end Line

theorem encode_injective (a b : List Char) (same : Utf8.encode a = Utf8.encode b) : a = b := by
  have decoded := congrArg Utf8.decode? same
  simpa using decoded

theorem linewise_iff (texts last : List (List Char))
    (starts : ∀ text ∈ texts, "::error ".toList <+: text) :
    Linewise texts.length last (Utf8.encode (Line.ended (texts ++ last))) ↔
      ∀ text ∈ texts, '\n' ∉ text := by
  constructor
  · rintro ⟨lines, length, each, same⟩
    have whole := encode_injective _ _ same
    rw [Line.ended_append, Line.ended_append, List.append_cancel_right_eq] at whole
    rw [← Line.count_ended_iff, whole, ← length, Line.count_ended_iff]
    exact fun line member => (each line member).2
  · intro free
    exact ⟨texts, rfl, fun text member => ⟨starts text member, free text member⟩, rfl⟩

theorem output_lines_text (diagnostics : List Diagnostic) :
    diagnostics.flatMap Diagnostic.outputLine =
      Utf8.encode (Line.ended (diagnostics.map (·.render.toList))) := by
  have line (d : Diagnostic) : d.outputLine = Utf8.encode (d.render.toList ++ ['\n']) := by
    rw [Diagnostic.outputLine, bytesOf, String.toList_append]
    rfl
  rw [funext line, Line.ended]
  simp only [Utf8.encode, List.flatMap_assoc, List.flatMap_map]

namespace Destination

theorem closing_lines (d : Destination) (s : Store) (t : Tally) :
    (d.closing s t).output = Utf8.encode (Line.ended (d.lastLines s t)) := by
  have notice : bytesOf t.notice = Utf8.encode (Line.ended [[], t.countLine.toList]) := by
    have feed : "\n".toList = ['\n'] := rfl
    rw [bytesOf, Tally.notice, String.toList_append, String.toList_append, feed]
    simp [Line.ended]
  unfold closing lastLines accepts Closing.output
  cases t.hasErrors with
  | false => rfl
  | true =>
      cases d with
      | output => exact t.notice_pieces_flatten.trans notice
      | file p =>
          simp only [if_true, Bool.true_and]
          rcases s.append p t.blockPieces with ⟨after, fault⟩
          cases fault with
          | none => rfl
          | some f => exact t.notice_pieces_flatten.trans notice

theorem last_lines_unbroken (d : Destination) (s : Store) (t : Tally) :
    ∀ line ∈ d.lastLines s t, '\n' ∉ line := by
  have counted : '\n' ∉ t.countLine.toList := by
    unfold Tally.countLine
    simp only [String.toList_append, List.mem_append, newline_decimal, or_false, not_or]
    exact ⟨by decide, by decide⟩
  unfold lastLines
  split
  · simpa using counted
  · simp

end Destination

namespace Linter

theorem report_unbroken_iff (r : Linter) (s : Store) (p : Path) :
    (∀ d ∈ r.report s p, '\n' ∉ d.render.toList) ↔
      (r.wording.inspect s p ≠ .ok [] → Scan.feed ∉ p.bytes) ∧
        ∀ v found, r.wording.inspect s p = .ok (v :: found) →
          '\n' ∉ r.wording.required.toList := by
  unfold report
  cases judged : r.wording.inspect s p with
  | error f =>
      have unbroken := r.wording.inspect_fault_free s p f judged '\n' (.inr rfl)
      simp [Wording.diagnose, Diagnostic.newline_fault_iff p f unbroken]
  | ok found =>
      have broken (v : Violation) (member : v ∈ found) :
          '\n' ∈ (Diagnostic.ofViolation r.wording p v).render.toList ↔
            Scan.feed ∈ p.bytes ∨ '\n' ∈ r.wording.required.toList := by
        obtain ⟨number, line, checked, unbroken⟩ :=
          r.wording.inspect_checked s p found judged v member
        exact Diagnostic.newline_violation_iff r.wording p v
          (r.wording.check_unbroken number line v checked unbroken)
      simp only [Wording.diagnose, List.forall_mem_map]
      cases found with
      | nil => simp
      | cons v rest =>
          constructor
          · intro free
            have here := free v List.mem_cons_self
            rw [broken v List.mem_cons_self, not_or] at here
            exact ⟨fun _ => here.1, fun _ _ _ => here.2⟩
          · rintro ⟨path, wording⟩ u member
            rw [broken u member, not_or]
            exact ⟨path (by simp), wording v rest rfl⟩

theorem reports_unbroken_iff (r : Linter) (s : Store) (paths : List Path) :
    (∀ d ∈ r.reports s paths, '\n' ∉ d.render.toList) ↔ r.Feedless s paths := by
  have each : (∀ d ∈ r.reports s paths, '\n' ∉ d.render.toList) ↔
      ∀ p ∈ paths, ∀ d ∈ r.report s p, '\n' ∉ d.render.toList := by
    simp only [reports, List.mem_flatMap, forall_exists_index, and_imp]
    exact ⟨fun all p member d given => all d p member given,
      fun all d p member given => all p member d given⟩
  simp only [each, report_unbroken_iff]
  exact ⟨fun all => ⟨fun p member => (all p member).1, fun p member => (all p member).2⟩,
    fun free p member => ⟨free.path p member, free.wording p member⟩⟩

theorem transcript_lines (r : Linter) (s : Store) (paths : List Path) (t : Tally)
    (counted : r.count? s paths = some t) :
    t.total = (r.reports s paths).length ∧
      (r.transcript s paths).flatten = Utf8.encode (Line.ended
        ((r.reports s paths).map (·.render.toList) ++ r.destination.lastLines s t)) := by
  obtain ⟨total, listing⟩ := r.listing_counted ⟨s, .boundless, []⟩ paths t counted
  rw [diagnostics_eq] at total listing
  refine ⟨total, ?_⟩
  have last := r.destination.closing_lines s t
  rw [Closing.output] at last
  rw [transcript, counted, listing, List.flatten_append, pages_flatten, output_lines_text,
    Line.ended_append, last]
  simp only [Utf8.encode, List.flatMap_append]

theorem transcript_linewise_iff (r : Linter) (s : Store) (paths : List Path) (t : Tally)
    (counted : r.count? s paths = some t) :
    Linewise t.total (r.destination.lastLines s t) (r.transcript s paths).flatten ↔
      r.Feedless s paths := by
  obtain ⟨total, text⟩ := r.transcript_lines s paths t counted
  have starts : ∀ text ∈ (r.reports s paths).map (·.render.toList), "::error ".toList <+: text :=
    List.forall_mem_map.mpr fun d _ => d.render_starts
  have split := linewise_iff _ (r.destination.lastLines s t) starts
  rw [List.length_map, List.forall_mem_map] at split
  rw [total, text, split, reports_unbroken_iff]

theorem run_counted (r : Linter) (s : Store) (paths : List Path) (t : Tally)
    (counted : r.count? s paths = some t) : (r.run ⟨s, .boundless, []⟩ paths).2 = .ok t := by
  rw [(r.run_boundless s [] paths).2, counted]
  rfl

theorem run_output_lines (r : Linter) (world : World) (paths : List Path) (t : Tally)
    (returned : (r.run world paths).2 = .ok t) :
    ∃ added, (r.run world paths).1.outlet.written = world.outlet.written ++ added ∧
      t.total = (r.reports world.store paths).length ∧
      (∀ d ∈ r.reports world.store paths, "::error ".toList <+: d.render.toList) ∧
      added = Utf8.encode (Line.ended ((r.reports world.store paths).map (·.render.toList) ++
        r.destination.lastLines world.store t)) ∧
      (∀ line ∈ r.destination.lastLines world.store t, '\n' ∉ line) ∧
      (Linewise t.total (r.destination.lastLines world.store t) added ↔
        r.Feedless world.store paths) := by
  obtain ⟨counted, written⟩ := r.run_returned world paths t returned
  obtain ⟨total, text⟩ := r.transcript_lines world.store paths t counted
  exact ⟨_, written, total, fun d _ => d.render_starts, text,
    r.destination.last_lines_unbroken world.store t,
    r.transcript_linewise_iff world.store paths t counted⟩

def brokenWording : Linter := ⟨⟨"a\nb"⟩, .output⟩

theorem run_output_unquoted :
    ∃ t added, t.total = 1 ∧
      (brokenWording.run .fresh [⟨[0x61]⟩]).1.outlet.written = added ∧
      Linewise 1 (Destination.output.lastLines .fresh t) added := by
  have missing : brokenWording.wording.inspect .fresh ⟨[0x61]⟩ = .error .missing := rfl
  obtain ⟨added, written, _, _, _, _, lines⟩ := run_output_lines brokenWording .fresh [⟨[0x61]⟩] _
    (run_counted brokenWording .fresh [⟨[0x61]⟩] ⟨1, by decide⟩ rfl)
  refine ⟨_, added, rfl, written, lines.mpr ⟨?_, ?_⟩⟩
  · intro p member _
    obtain rfl := List.mem_singleton.mp member
    decide
  · intro p member v found judged
    obtain rfl := List.mem_singleton.mp member
    cases missing.symm.trans judged

def brokenPath : Path := ⟨bytesOf "a\nb"⟩

theorem line_feed_in_path :
    ¬ ∀ (arguments : List Bytes) (a : Arguments) (s : Settings) (store : Store) (t : Tally),
      Arguments.parse arguments none = .ok a → Settings.ofArguments a = .ok s →
        (s.linter.run ⟨store, .boundless, []⟩ s.files).2 = .ok t →
          Linewise t.total (s.linter.destination.lastLines store t)
            (s.linter.run ⟨store, .boundless, []⟩ s.files).1.outlet.written := by
  intro linewise
  have returned := standard.run_counted .fresh [brokenPath] ⟨1, by decide⟩ rfl
  have lines := linewise [brokenPath.bytes] ⟨[brokenPath], "failed to", none, "warn"⟩
    ⟨[brokenPath], "failed to", none, "warn"⟩ .fresh _ rfl rfl returned
  obtain ⟨counted, written⟩ := standard.run_returned _ _ _ returned
  change Linewise 1 _
    (standard.run ⟨.fresh, .boundless, []⟩ [brokenPath]).1.outlet.written at lines
  rw [written] at lines
  have free := (standard.transcript_linewise_iff .fresh _ _ counted).mp lines
  have missing : standard.wording.inspect .fresh brokenPath = .error .missing := rfl
  refine free.path _ List.mem_cons_self ?_ (by decide)
  rw [missing]
  simp

end Linter

end ErrorWording
