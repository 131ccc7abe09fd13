import ErrorWording.Proofs.Encoding
import ErrorWording.Proofs.Pieces

set_option autoImplicit false

namespace ErrorWording

inductive Event where
  | byte (b : UInt8)
  | pause
  | failure (f : Fault)
deriving DecidableEq, Repr

/-- An interrupted request is made again, so it is no event. -/
def Delivery.events : Delivery → List Event
  | .bytes b => b.map .byte
  | .failure f => if f.kind = .interrupted then [] else [.failure f]
  | .pause => [.pause]

def eventsOf (deliveries : List Delivery) : List Event :=
  deliveries.flatMap Delivery.events

/-- How a source begins. Behind its last delivery it pauses for ever. -/
def Begins (deliveries : List Delivery) (events : List Event) : Prop :=
  ∃ quiet, events <+: eventsOf deliveries ++ List.replicate quiet .pause

inductive LineEnd where
  | feed
  | pause
deriving DecidableEq, Repr

/-- A logical line: a pause ends it only when it has begun. -/
structure LogicalLine where
  bytes : Bytes
  ending : LineEnd
  unbroken : Scan.feed ∉ bytes
  begun : ending = .pause → bytes ≠ []

def LineEnd.event : LineEnd → Event
  | .feed => .byte Scan.feed
  | .pause => .pause

def LogicalLine.events (line : LogicalLine) : List Event :=
  line.bytes.map .byte ++ [line.ending.event]

/-- The events up to the deciding one, the texts of the lines before it, and what it decides: a
complete line that is no text, a failure with any bytes held, or a pause with none held. -/
inductive Decides : List Event → List (List Char) → Except Fault Unit → Prop where
  | undecodable (lines : List LogicalLine) (texts : List (List Char)) (bad : LogicalLine)
      (spelled : lines.map LogicalLine.bytes = texts.map Utf8.encode)
      (foreign : ∀ text, bad.bytes ≠ Utf8.encode text) :
      Decides (lines.flatMap LogicalLine.events ++ bad.events) texts (.error .undecodable)
  | failed (lines : List LogicalLine) (texts : List (List Char)) (held : Bytes) (f : Fault)
      (spelled : lines.map LogicalLine.bytes = texts.map Utf8.encode)
      (unbroken : Scan.feed ∉ held) :
      Decides (lines.flatMap LogicalLine.events ++ (held.map .byte ++ [.failure f])) texts
        (.error f)
  | finished (lines : List LogicalLine) (texts : List (List Char))
      (spelled : lines.map LogicalLine.bytes = texts.map Utf8.encode) :
      Decides (lines.flatMap LogicalLine.events ++ [.pause]) texts (.ok ())

namespace Scan

def follow (w : Wording) (s : Scan) : List Event → Except Fault (List Violation)
  | [] => s.drain w []
  | .byte b :: rest => (s.takeByte w b).bind fun t => follow w t rest
  | .pause :: rest =>
      match s.unfinished with
      | [] => .ok s.found.reverse
      | _ :: _ => (s.endLine w).bind fun t => follow w t rest
  | .failure f :: _ => .error f

theorem follow_bytes (w : Wording) (s : Scan) (bytes : Bytes) (rest : List Event) :
    s.follow w (bytes.map .byte ++ rest) =
      (s.takeBytes w bytes).bind fun t => t.follow w rest := by
  induction bytes generalizing s with
  | nil => rfl
  | cons b bytes ih =>
      rw [takeBytes, List.foldlM_cons, List.map_cons, List.cons_append, follow]
      cases s.takeByte w b with
      | error f => rfl
      | ok t => exact ih t

theorem drain_follow (w : Wording) (s : Scan) (deliveries : List Delivery) :
    s.drain w deliveries = s.follow w (eventsOf deliveries) := by
  induction deliveries generalizing s with
  | nil => rfl
  | cons delivery rest ih =>
      rw [eventsOf, List.flatMap_cons]
      cases delivery with
      | bytes b =>
          rw [drain, Delivery.events, follow_bytes]
          cases s.takeBytes w b with
          | error f => rfl
          | ok t => exact ih t
      | failure f =>
          rw [drain, Delivery.events]
          by_cases again : f.kind = .interrupted
          · rw [if_pos again, if_pos again]
            exact ih s
          · rw [if_neg again, if_neg again]
            rfl
      | pause =>
          rw [drain.eq_def, Delivery.events, List.singleton_append, follow]
          cases s.unfinished with
          | nil => rfl
          | cons b held =>
              cases s.endLine w with
              | error f => rfl
              | ok t => exact ih t

theorem end_line_unfinished (w : Wording) (s t : Scan) (ended : s.endLine w = .ok t) :
    t.unfinished = [] := by
  unfold endLine at ended
  cases decoded : Utf8.decode? s.unfinished.reverse with
  | none => simp [decoded] at ended
  | some line =>
      simp only [decoded, Except.ok.injEq] at ended
      rw [← ended]

theorem follow_pauses (w : Wording) (s : Scan) (quiet : Nat) :
    s.follow w (List.replicate quiet .pause) = s.drain w [] := by
  -- The first pause ends an unfinished line and the next one the scan.
  cases quiet with
  | zero => rfl
  | succ quiet =>
      rw [List.replicate_succ, follow, drain]
      cases s.unfinished with
      | nil => rfl
      | cons b held =>
          cases ended : s.endLine w with
          | error f => rfl
          | ok t =>
              have empty : t.unfinished = [] := end_line_unfinished w s t ended
              cases quiet with
              | zero => simp [follow, drain, empty, Except.bind, bind, pure, Except.pure]
              | succ quiet =>
                  simp [List.replicate_succ, follow, empty, Except.bind, bind, pure, Except.pure]

theorem follow_quiet (w : Wording) (s : Scan) (events : List Event) (quiet : Nat) :
    s.follow w (events ++ List.replicate quiet .pause) = s.follow w events := by
  induction events generalizing s with
  | nil => exact follow_pauses w s quiet
  | cons event rest ih =>
      cases event with
      | byte b => simp only [List.cons_append, follow, ih]
      | pause => simp only [List.cons_append, follow, ih]
      | failure f => rfl

theorem take_bytes_unbroken (w : Wording) (s : Scan) (bytes : Bytes) (unbroken : feed ∉ bytes) :
    s.takeBytes w bytes = .ok { s with unfinished := bytes.reverse ++ s.unfinished } := by
  induction bytes generalizing s with
  | nil => rfl
  | cons b rest ih =>
      have notFeed : b ≠ feed := fun same => unbroken (by simp [same])
      have restUnbroken : feed ∉ rest := fun member => unbroken (List.mem_cons_of_mem b member)
      rw [takeBytes, List.foldlM_cons, takeByte, if_neg notFeed]
      exact (ih _ restUnbroken).trans (by simp)

def rested (done : Nat) (found : List Violation) : Scan :=
  ⟨[], done, found.reverse⟩

theorem end_line_spelled (w : Wording) (done : Nat) (found : List Violation) (text : List Char) :
    endLine w ⟨(Utf8.encode text).reverse, done, found.reverse⟩ =
      .ok (rested (done + 1) (found ++ (w.check (done + 1) text).toList)) := by
  rw [endLine, List.reverse_reverse, Utf8.decode_encode]
  simp only [rested, Wording.check_drop_returns]
  cases w.check (done + 1) text <;> simp

theorem end_line_foreign (w : Wording) (done : Nat) (found : List Violation) (bytes : Bytes)
    (foreign : ∀ text, bytes ≠ Utf8.encode text) :
    endLine w ⟨bytes.reverse, done, found⟩ = .error .undecodable := by
  rw [endLine, List.reverse_reverse, (Utf8.decode_none_iff bytes).mpr foreign]

theorem follow_line (w : Wording) (done : Nat) (found : List Violation) (line : LogicalLine)
    (rest : List Event) :
    (rested done found).follow w (line.events ++ rest) =
      (endLine w ⟨line.bytes.reverse, done, found.reverse⟩).bind fun t => t.follow w rest := by
  rw [LogicalLine.events, List.append_assoc, follow_bytes,
    take_bytes_unbroken w _ line.bytes line.unbroken]
  change follow w ⟨line.bytes.reverse ++ [], done, found.reverse⟩ _ = _
  rw [List.append_nil]
  obtain ⟨bytes, ending, unbroken, begun⟩ := line
  cases ending with
  | feed => rfl
  | pause =>
      obtain ⟨b, held, reversed⟩ := List.exists_cons_of_ne_nil
        (List.reverse_ne_nil_iff.mpr (begun rfl))
      simp only [LineEnd.event, List.singleton_append, follow, reversed]

theorem follow_lines (w : Wording) (lines : List LogicalLine) (texts : List (List Char))
    (spelled : lines.map LogicalLine.bytes = texts.map Utf8.encode) (done : Nat)
    (found : List Violation) (rest : List Event) :
    (rested done found).follow w (lines.flatMap LogicalLine.events ++ rest) =
      (rested (done + texts.length) (found ++ w.checkLines (done + 1) texts)).follow w rest := by
  induction lines generalizing texts done found with
  | nil =>
      have none : texts = [] := by simpa using spelled.symm
      subst none
      simp [Wording.checkLines]
  | cons line lines ih =>
      cases texts with
      | nil => simp at spelled
      | cons text texts =>
          obtain ⟨first, others⟩ := List.cons.inj spelled
          rw [List.flatMap_cons, List.append_assoc, follow_line, first, end_line_spelled]
          refine (ih texts others (done + 1) _).trans ?_
          simp [Nat.add_right_comm done 1, Nat.add_assoc]

end Scan

theorem scan_decides (w : Wording) (deliveries : List Delivery) (events : List Event)
    (texts : List (List Char)) (outcome : Except Fault Unit) (begins : Begins deliveries events)
    (decides : Decides events texts outcome) :
    w.scanDeliveries deliveries = outcome.map fun _ => w.checkLines 1 texts := by
  obtain ⟨quiet, rest, whole⟩ := begins
  have followed : w.scanDeliveries deliveries = (Scan.rested 0 []).follow w (events ++ rest) := by
    rw [whole, Scan.follow_quiet, ← Scan.drain_follow]
    rfl
  rw [followed]
  cases decides with
  | undecodable lines _ bad spelled foreign =>
      rw [List.append_assoc, Scan.follow_lines w lines texts spelled, Scan.follow_line,
        Scan.end_line_foreign w _ _ bad.bytes foreign]
      rfl
  | failed lines _ held f spelled unbroken =>
      rw [List.append_assoc, Scan.follow_lines w lines texts spelled, List.append_assoc,
        Scan.follow_bytes, Scan.take_bytes_unbroken w _ held unbroken]
      rfl
  | finished lines _ spelled =>
      rw [List.append_assoc, Scan.follow_lines w lines texts spelled]
      simp only [List.singleton_append, Scan.follow, Scan.rested, List.reverse_reverse,
        List.nil_append, Except.map, Nat.zero_add]

def Settles (events : List Event) : Prop :=
  ∃ quiet decided texts outcome,
    decided <+: events ++ List.replicate quiet .pause ∧ Decides decided texts outcome

theorem decides_cons (line : LogicalLine) (text : List Char) (spells : line.bytes = Utf8.encode text)
    (events : List Event) (texts : List (List Char)) (outcome : Except Fault Unit)
    (decides : Decides events texts outcome) :
    Decides (line.events ++ events) (text :: texts) outcome := by
  cases decides with
  | undecodable lines _ bad spelled foreign =>
      simpa using Decides.undecodable (line :: lines) (text :: texts) bad
        (by simp [spells, spelled]) foreign
  | failed lines _ held f spelled unbroken =>
      simpa using Decides.failed (line :: lines) (text :: texts) held f
        (by simp [spells, spelled]) unbroken
  | finished lines _ spelled =>
      simpa using Decides.finished (line :: lines) (text :: texts) (by simp [spells, spelled])

theorem settles_line (line : LogicalLine) (rest : List Event) (settles : Settles rest) :
    Settles (line.events ++ rest) := by
  cases decoded : Utf8.decode? line.bytes with
  | none =>
      have foreign := (Utf8.decode_none_iff line.bytes).mp decoded
      exact ⟨0, _, _, _, by simp, .undecodable [] [] line rfl foreign⟩
  | some text =>
      have spells := (Utf8.decode_some_iff line.bytes text).mp decoded
      obtain ⟨quiet, decided, texts, outcome, begins, decides⟩ := settles
      refine ⟨quiet, _, _, outcome, ?_, decides_cons line text spells decided texts outcome decides⟩
      rw [List.append_assoc]
      exact (List.prefix_append_right_inj line.events).mpr begins

theorem settles_pause (rest : List Event) : Settles (.pause :: rest) :=
  ⟨0, _, _, _, by simp, .finished [] [] rfl⟩

theorem settles_of_pause (events : List Event) (settles : Settles (events ++ [.pause])) :
    Settles events := by
  obtain ⟨quiet, decided, texts, outcome, begins, decides⟩ := settles
  refine ⟨quiet + 1, decided, texts, outcome, ?_, decides⟩
  rwa [List.replicate_succ, ← List.singleton_append, ← List.append_assoc]

theorem settles_held_pause (held : Bytes) (unbroken : Scan.feed ∉ held) (rest : List Event)
    (settles : Settles rest) : Settles (held.map .byte ++ .pause :: rest) := by
  by_cases empty : held = []
  · subst held
    exact settles_pause rest
  · simpa [LogicalLine.events, LineEnd.event] using
      settles_line ⟨held, .pause, unbroken, fun _ => empty⟩ rest settles

theorem settles_held (events : List Event) (held : Bytes) (unbroken : Scan.feed ∉ held) :
    Settles (held.map .byte ++ events) := by
  induction events generalizing held with
  | nil =>
      have quiet : Settles [] := settles_of_pause [] (settles_pause [])
      rw [List.append_nil]
      exact settles_of_pause _ (settles_held_pause held unbroken [] quiet)
  | cons event rest ih =>
      cases event with
      | byte b =>
          by_cases fed : b = Scan.feed
          · subst b
            simpa [LogicalLine.events, LineEnd.event] using
              settles_line ⟨held, .feed, unbroken, by simp⟩ rest (ih [] (by simp))
          · simpa using ih (held ++ [b]) (by simp [unbroken, Ne.symm fed])
      | pause => exact settles_held_pause held unbroken rest (ih [] (by simp))
      | failure f => exact ⟨0, _, _, _, by simp, .failed [] [] held f rfl unbroken⟩

theorem some_events_decide (deliveries : List Delivery) :
    ∃ events texts outcome, Begins deliveries events ∧ Decides events texts outcome := by
  obtain ⟨quiet, decided, texts, outcome, begins, decides⟩ :=
    settles_held (eventsOf deliveries) [] (by simp)
  exact ⟨decided, texts, outcome, ⟨quiet, begins⟩, decides⟩

theorem scan_result_decided (w : Wording) (deliveries : List Delivery) :
    (∃ events texts outcome, Begins deliveries events ∧ Decides events texts outcome) ∧
      ∀ events texts outcome, Begins deliveries events → Decides events texts outcome →
        w.scanDeliveries deliveries = outcome.map (fun _ => w.checkLines 1 texts) ∧
          ∀ other, Begins other events → w.scanDeliveries other = w.scanDeliveries deliveries := by
  refine ⟨some_events_decide deliveries, ?_⟩
  intro events texts outcome begins decides
  have decided := scan_decides w deliveries events texts outcome begins decides
  refine ⟨decided, ?_⟩
  intro other same
  rw [decided, scan_decides w other events texts outcome same decides]

theorem scan_failure_before_feed :
    Wording.standard.scanDeliveries
        [.bytes [0xFF], .failure (.code 4), .failure (.code 5), .bytes [0x0A], .pause] =
      .error (.code 5) :=
  ((scan_result_decided .standard _).2 _ _ _ ⟨0, [.byte 0x0A, .pause], by decide⟩
    (.failed [] [] [0xFF] (.code 5) rfl (by decide))).1

end ErrorWording
