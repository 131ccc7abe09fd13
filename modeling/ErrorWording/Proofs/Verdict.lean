import ErrorWording.Linter
import ErrorWording.Proofs.WholeLines

set_option autoImplicit false

namespace ErrorWording

/-- A source that never pauses, as opened files are: the bytes it hands over, all that there are or
those before a failure. -/
inductive Reads : List Delivery → Bytes → Option Fault → Prop where
  | done : Reads [] [] none
  | chunk (b content : Bytes) (rest : List Delivery) (ended : Option Fault)
      (others : Reads rest content ended) : Reads (.bytes b :: rest) (b ++ content) ended
  | again (f : Fault) (content : Bytes) (rest : List Delivery) (ended : Option Fault)
      (interrupted : f.kind = .interrupted) (others : Reads rest content ended) :
      Reads (.failure f :: rest) content ended
  | failed (f : Fault) (rest : List Delivery) (lasting : f.kind ≠ .interrupted) :
      Reads (.failure f :: rest) [] (some f)

inductive Verdict where
  | text (content : List Char)
  | missing
  | unreadable (f : Fault)
deriving DecidableEq, Repr

/-- How a file turns out. Bytes that are no text count before a failure only if their line is
complete. -/
inductive TurnsOut : Except Fault (List Delivery) → Verdict → Prop where
  | missing (f : Fault) (unfound : f.kind = .notFound) : TurnsOut (.error f) .missing
  | unopened (f : Fault) (other : f.kind ≠ .notFound) : TurnsOut (.error f) (.unreadable f)
  | text (deliveries : List Delivery) (content : List Char)
      (reads : Reads deliveries (Utf8.encode content) none) :
      TurnsOut (.ok deliveries) (.text content)
  | foreign (deliveries : List Delivery) (content : Bytes) (reads : Reads deliveries content none)
      (foreign : ∀ text, content ≠ Utf8.encode text) :
      TurnsOut (.ok deliveries) (.unreadable .undecodable)
  | broken (deliveries : List Delivery) (lines : List Char) (held : Bytes) (f : Fault)
      (reads : Reads deliveries (Utf8.encode lines ++ held) (some f))
      (whole : WholeLines Scan.feed (Utf8.encode lines)) (unbroken : Scan.feed ∉ held) :
      TurnsOut (.ok deliveries) (.unreadable f)
  | foreignLines (deliveries : List Delivery) (lines held : Bytes) (f : Fault)
      (reads : Reads deliveries (lines ++ held) (some f)) (whole : WholeLines Scan.feed lines)
      (unbroken : Scan.feed ∉ held) (foreign : ∀ text, lines ≠ Utf8.encode text) :
      TurnsOut (.ok deliveries) (.unreadable .undecodable)

def Verdict.diagnostics (w : Wording) (p : Path) : Verdict → List Diagnostic
  | .text content => (w.scanText content).map (Diagnostic.ofViolation w p)
  | .missing => [.missing p]
  | .unreadable f => [.unreadable p f.text]

theorem reads_events (deliveries : List Delivery) (content : Bytes) (ended : Option Fault)
    (reads : Reads deliveries content ended) :
    ∃ rest, eventsOf deliveries = content.map .byte ++ rest ∧ (ended = none → rest = []) ∧
      ∀ f, ended = some f → ∃ later, rest = .failure f :: later := by
  induction reads with
  | done =>
      refine ⟨[], rfl, fun _ => rfl, ?_⟩
      intro f same
      cases same
  | chunk b content rest ended others ih =>
      obtain ⟨events, spelled, ending⟩ := ih
      refine ⟨events, ?_, ending⟩
      rw [eventsOf, List.flatMap_cons, List.map_append, List.append_assoc, ← spelled]
      rfl
  | again f content rest ended interrupted others ih =>
      obtain ⟨events, spelled, ending⟩ := ih
      refine ⟨events, ?_, ending⟩
      rw [eventsOf, List.flatMap_cons, Delivery.events, if_pos interrupted]
      exact spelled
  | failed f rest lasting =>
      refine ⟨.failure f :: eventsOf rest, ?_, ?_, ?_⟩
      · rw [eventsOf, List.flatMap_cons, Delivery.events, if_neg lasting]
        rfl
      · intro same
        cases same
      · intro g same
        cases same
        exact ⟨_, rfl⟩

theorem reads_total (deliveries : List Delivery) (lively : .pause ∉ deliveries) :
    ∃ content ended, Reads deliveries content ended := by
  induction deliveries with
  | nil => exact ⟨[], none, .done⟩
  | cons delivery rest ih =>
      have others : .pause ∉ rest := fun member => lively (List.mem_cons_of_mem delivery member)
      obtain ⟨content, ended, reads⟩ := ih others
      cases delivery with
      | bytes b => exact ⟨b ++ content, ended, .chunk b content rest ended reads⟩
      | pause => exact absurd List.mem_cons_self lively
      | failure f =>
          by_cases interrupted : f.kind = .interrupted
          · exact ⟨content, ended, .again f content rest ended interrupted reads⟩
          · exact ⟨[], some f, .failed f rest interrupted⟩

theorem reads_unique (deliveries : List Delivery) (a b : Bytes) (x y : Option Fault)
    (first : Reads deliveries a x) (second : Reads deliveries b y) : a = b ∧ x = y := by
  induction first generalizing b with
  | done =>
      cases second
      exact ⟨rfl, rfl⟩
  | chunk piece content rest ended others ih =>
      cases second with
      | chunk _ content' _ _ others' =>
          obtain ⟨rfl, rfl⟩ := ih content' others'
          exact ⟨rfl, rfl⟩
  | again f content rest ended interrupted others ih =>
      cases second with
      | again _ _ _ _ _ others' => exact ih b others'
      | failed _ _ lasting => exact absurd interrupted lasting
  | failed f rest lasting =>
      cases second with
      | again _ _ _ _ interrupted _ => exact absurd interrupted lasting
      | failed _ _ _ => exact ⟨rfl, rfl⟩

theorem whole_lines_below {α : Type} (feed : α) (above below : List α)
    (whole : WholeLines feed (above ++ feed :: below)) : WholeLines feed below := by
  by_cases empty : below = []
  · exact .inl empty
  · refine .inr ?_
    cases whole with
    | inl none => simp at none
    | inr ended =>
        obtain ⟨c, rest, rfl⟩ := List.exists_cons_of_ne_nil empty
        simpa using ended

theorem cut_whole_lines (content : Bytes) :
    ∃ lines held, content = lines ++ held ∧ WholeLines Scan.feed lines ∧ Scan.feed ∉ held := by
  by_cases broken : Scan.feed ∈ content
  · obtain ⟨lines, held, cut, unbroken⟩ := List.eq_append_cons_of_mem (List.mem_reverse.mpr broken)
    refine ⟨held.reverse ++ [Scan.feed], lines.reverse, ?_, .inr (by simp), by simpa using unbroken⟩
    simpa using congrArg List.reverse cut
  · exact ⟨[], content, rfl, .inl rfl, broken⟩

theorem Scan.follow_broken (w : Wording) (done : Nat) (found : List Violation) (lines held : Bytes)
    (f : Fault) (later : List Event) (whole : WholeLines Scan.feed lines)
    (unbroken : Scan.feed ∉ held) :
    (rested done found).follow w ((lines ++ held).map .byte ++ .failure f :: later) =
      match Utf8.decode? lines with
      | none => .error .undecodable
      | some _ => .error f := by
  by_cases empty : lines = []
  · rw [empty, List.nil_append, follow_bytes, take_bytes_unbroken w _ held unbroken]
    rfl
  · have fed : Scan.feed ∈ lines := by
      cases whole with
      | inl none => exact absurd none empty
      | inr ended => exact List.mem_of_getLast? ended
    -- By the lines, each cut off at its feed; what is held behind the last is never decoded.
    obtain ⟨line, rest, cut, single⟩ := List.eq_append_cons_of_mem fed
    have shorter : rest.length < lines.length := by
      rw [cut, List.length_append, List.length_cons]
      omega
    have below : WholeLines Scan.feed rest := whole_lines_below Scan.feed line rest (cut ▸ whole)
    have parts : (lines ++ held).map Event.byte ++ .failure f :: later =
        (LogicalLine.mk line .feed single (by simp)).events ++
          ((rest ++ held).map .byte ++ .failure f :: later) := by
      simp [cut, LogicalLine.events, LineEnd.event]
    rw [parts, follow_line, end_line_held, cut, Utf8.decode_append_below line rest feed (by decide)]
    cases Utf8.decode? line with
    | none => rfl
    | some text =>
        refine (follow_broken w (done + 1) _ rest held f later below unbroken).trans ?_
        cases Utf8.decode? rest <;> rfl
termination_by lines.length

namespace Wording

theorem scan_broken (w : Wording) (deliveries : List Delivery) (lines held : Bytes) (f : Fault)
    (reads : Reads deliveries (lines ++ held) (some f)) (whole : WholeLines Scan.feed lines)
    (unbroken : Scan.feed ∉ held) :
    w.scanDeliveries deliveries =
      match Utf8.decode? lines with
      | none => .error .undecodable
      | some _ => .error f := by
  obtain ⟨rest, events, _, failing⟩ := reads_events deliveries _ _ reads
  obtain ⟨later, rfl⟩ := failing f rfl
  rw [scanDeliveries, Scan.drain_follow, events]
  exact Scan.follow_broken w 0 [] lines held f later whole unbroken

theorem scan_read (w : Wording) (deliveries : List Delivery) (content : Bytes)
    (reads : Reads deliveries content none) :
    w.scanDeliveries deliveries =
      match Utf8.decode? content with
      | none => .error .undecodable
      | some text => .ok (w.scanText text) := by
  obtain ⟨rest, events, ending, _⟩ := reads_events deliveries _ _ reads
  rw [ending rfl, List.append_nil] at events
  exact scan_events w deliveries content events

theorem diagnose_verdict (w : Wording) (p : Path) (opened : Except Fault (List Delivery))
    (verdict : Verdict) (turns : TurnsOut opened verdict) :
    w.diagnose p (w.judge opened) = verdict.diagnostics w p := by
  cases turns with
  | missing f unfound =>
      rw [judge, ScanFault.ofFault, if_pos unfound]
      rfl
  | unopened f other =>
      rw [judge, ScanFault.ofFault, if_neg other]
      rfl
  | text deliveries content reads =>
      rw [judge, w.scan_read deliveries _ reads, Utf8.decode_encode]
      rfl
  | foreign deliveries content reads foreign =>
      rw [judge, w.scan_read deliveries _ reads, (Utf8.decode_none_iff content).mpr foreign]
      rfl
  | broken deliveries lines held f reads whole unbroken =>
      rw [judge, w.scan_broken deliveries _ held f reads whole unbroken, Utf8.decode_encode]
      rfl
  | foreignLines deliveries lines held f reads whole unbroken foreign =>
      rw [judge, w.scan_broken deliveries _ held f reads whole unbroken,
        (Utf8.decode_none_iff lines).mpr foreign]
      rfl

end Wording

def Lively : Except Fault (List Delivery) → Prop
  | .error _ => True
  | .ok deliveries => .pause ∉ deliveries

theorem turns_out_somehow (opened : Except Fault (List Delivery)) (lively : Lively opened) :
    ∃ verdict, TurnsOut opened verdict := by
  cases opened with
  | error f =>
      by_cases unfound : f.kind = .notFound
      · exact ⟨_, .missing f unfound⟩
      · exact ⟨_, .unopened f unfound⟩
  | ok deliveries =>
      obtain ⟨content, ended, reads⟩ := reads_total deliveries lively
      cases ended with
      | none =>
          cases spelled : Utf8.decode? content with
          | none =>
              have foreign := (Utf8.decode_none_iff content).mp spelled
              exact ⟨_, .foreign deliveries content reads foreign⟩
          | some text =>
              rw [(Utf8.decode_some_iff content text).mp spelled] at reads
              exact ⟨_, .text deliveries text reads⟩
      | some f =>
          obtain ⟨lines, held, rfl, whole, unbroken⟩ := cut_whole_lines content
          cases spelled : Utf8.decode? lines with
          | none =>
              exact ⟨_, .foreignLines deliveries lines held f reads whole unbroken
                ((Utf8.decode_none_iff lines).mp spelled)⟩
          | some text =>
              obtain rfl := (Utf8.decode_some_iff lines text).mp spelled
              exact ⟨_, .broken deliveries text held f reads whole unbroken⟩

end ErrorWording
