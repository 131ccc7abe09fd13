import ErrorWording.Proofs.Event

set_option autoImplicit false

namespace ErrorWording

/-- The source hands over these bytes in chunks, each of at least one byte, and lets requests be
interrupted in between. It neither fails nor pauses before its end. -/
inductive Delivers : List Delivery → Bytes → Prop where
  | done : Delivers [] []
  | chunk (b content : Bytes) (rest : List Delivery) (present : b ≠ [])
      (others : Delivers rest content) : Delivers (.bytes b :: rest) (b ++ content)
  | again (f : Fault) (content : Bytes) (rest : List Delivery)
      (interrupted : f.kind = .interrupted) (others : Delivers rest content) :
      Delivers (.failure f :: rest) content

theorem delivers_events (deliveries : List Delivery) (content : Bytes)
    (delivers : Delivers deliveries content) : eventsOf deliveries = content.map .byte := by
  induction delivers with
  | done => rfl
  | chunk b content rest present others ih =>
      rw [eventsOf, List.flatMap_cons, List.map_append, Delivery.events]
      exact congrArg (b.map Event.byte ++ ·) ih
  | again f content rest interrupted others ih =>
      rw [eventsOf, List.flatMap_cons, Delivery.events, if_pos interrupted]
      exact ih

def piecesOf (room : Nat) : Bytes → List Bytes
  | [] => []
  | b :: rest => (b :: rest.take room) :: piecesOf room (rest.drop room)
termination_by bytes => bytes.length
decreasing_by
  rw [List.length_drop, List.length_cons]
  omega

def Delivery.buffered (room : Nat) : Delivery → List Delivery
  | .bytes b => (piecesOf room b).map .bytes
  | other => [other]

theorem delivers_pieces (room : Nat) (b content : Bytes) (rest : List Delivery)
    (others : Delivers rest content) :
    Delivers ((piecesOf room b).map .bytes ++ rest) (b ++ content) := by
  cases b with
  | nil => simpa [piecesOf] using others
  | cons b bytes =>
      have later := delivers_pieces room (bytes.drop room) content rest others
      have whole : b :: bytes ++ content =
          (b :: bytes.take room) ++ (bytes.drop room ++ content) := by
        rw [← List.append_assoc, List.cons_append, List.cons_append, List.cons_append,
          List.take_append_drop]
      rw [piecesOf, whole]
      exact .chunk _ _ _ (List.cons_ne_nil _ _) later
termination_by b.length
decreasing_by
  rw [List.length_drop, List.length_cons]
  omega

theorem delivers_buffered (room : Nat) (deliveries : List Delivery) (content : Bytes)
    (delivers : Delivers deliveries content) :
    Delivers (deliveries.flatMap (Delivery.buffered room)) content := by
  induction delivers with
  | done => exact .done
  | chunk b content rest present others ih => exact delivers_pieces room b content _ ih
  | again f content rest interrupted others ih => exact .again f content _ interrupted ih

theorem feed_mem_encode (text : List Char) (member : '\n' ∈ text) :
    Scan.feed ∈ Utf8.encode text :=
  List.mem_flatMap.mpr ⟨'\n', member, by decide⟩

namespace Scan

theorem end_line_held (w : Wording) (done : Nat) (found : List Violation) (held : Bytes) :
    endLine w ⟨held.reverse, done, found.reverse⟩ =
      match Utf8.decode? held with
      | none => .error .undecodable
      | some text => .ok (rested (done + 1) (found ++ (w.check (done + 1) text).toList)) := by
  cases decoded : Utf8.decode? held with
  | none => exact end_line_foreign w done _ held ((Utf8.decode_none_iff held).mp decoded)
  | some text =>
      rw [(Utf8.decode_some_iff held text).mp decoded]
      exact end_line_spelled w done found text

theorem drain_held (w : Wording) (done : Nat) (found : List Violation) (held : Bytes) :
    drain w ⟨held.reverse, done, found.reverse⟩ [] =
      match Utf8.decode? held with
      | none => .error .undecodable
      | some text => .ok (found ++ (w.check (done + 1) text).toList) := by
  by_cases empty : held = []
  · subst held
    simp [drain, show Utf8.decode? [] = some [] from rfl]
  · obtain ⟨b, bytes, reversed⟩ := List.exists_cons_of_ne_nil (List.reverse_ne_nil_iff.mpr empty)
    have ended := end_line_held w done found held
    rw [reversed] at ended ⊢
    simp only [drain, ended]
    cases Utf8.decode? held with
    | none => rfl
    | some text => exact congrArg Except.ok (List.reverse_reverse _)

theorem unbroken_text (line : Bytes) (text : List Char) (unbroken : feed ∉ line)
    (decoded : Utf8.decode? line = some text) : '\n' ∉ text := by
  intro member
  rw [(Utf8.decode_some_iff line text).mp decoded] at unbroken
  exact unbroken (feed_mem_encode text member)

theorem follow_content (w : Wording) (done : Nat) (found : List Violation) (content : Bytes) :
    (rested done found).follow w (content.map .byte) =
      match Utf8.decode? content with
      | none => .error .undecodable
      | some text => .ok (found ++ w.checkLines (done + 1) (text.splitOn '\n')) := by
  by_cases broken : feed ∈ content
  -- Cut at its first feed, a content is a line and a smaller content.
  · obtain ⟨line, later, whole, unbroken⟩ := List.eq_append_cons_of_mem broken
    have smaller : later.length < content.length := by
      rw [whole, List.length_append, List.length_cons]
      omega
    have cut : content.map Event.byte =
        (LogicalLine.mk line .feed unbroken (by simp)).events ++ later.map .byte := by
      simp [whole, LogicalLine.events, LineEnd.event]
    rw [cut, follow_line, end_line_held, whole, Utf8.decode_append_below line later feed (by decide)]
    cases decoded : Utf8.decode? line with
    | none => rfl
    | some text =>
        refine (follow_content w (done + 1) _ later).trans ?_
        cases Utf8.decode? later with
        | none => rfl
        | some rest =>
            have split := List.splitOn_append_cons_self_of_not_mem
              (unbroken_text line text unbroken decoded) rest
            simp only [Option.map_some, Option.bind_some]
            rw [show Char.ofNat feed.toNat = '\n' by decide, split]
            simp
  · rw [← List.append_nil (content.map Event.byte), follow_bytes,
      take_bytes_unbroken w _ content broken]
    change drain w ⟨content.reverse ++ [], done, found.reverse⟩ [] = _
    rw [List.append_nil, drain_held]
    cases decoded : Utf8.decode? content with
    | none => rfl
    | some text =>
        have single := List.splitOn_eq_singleton (unbroken_text content text broken decoded)
        simp [single]
termination_by content.length

end Scan

theorem scan_events (w : Wording) (deliveries : List Delivery) (content : Bytes)
    (events : eventsOf deliveries = content.map .byte) :
    w.scanDeliveries deliveries =
      match Utf8.decode? content with
      | none => .error .undecodable
      | some text => .ok (w.scanText text) := by
  rw [Wording.scanDeliveries, Scan.drain_follow, events]
  refine (Scan.follow_content w 0 [] content).trans ?_
  simp only [Wording.scan_text_pieces, List.nil_append, Nat.zero_add]

theorem scan_delivered (w : Wording) (deliveries : List Delivery) (content : Bytes)
    (delivers : Delivers deliveries content) :
    w.scanDeliveries deliveries =
      match Utf8.decode? content with
      | none => .error .undecodable
      | some text => .ok (w.scanText text) :=
  scan_events w deliveries content (delivers_events deliveries content delivers)

theorem scan_delivered_text (w : Wording) (deliveries : List Delivery) (text : List Char)
    (delivers : Delivers deliveries (Utf8.encode text)) :
    w.scanDeliveries deliveries = .ok (w.scanText text) := by
  simp [scan_delivered w deliveries _ delivers]

theorem scan_any_delivery (w : Wording) (deliveries : List Delivery) (content : Bytes)
    (delivers : Delivers deliveries content) :
    (∀ text, content = Utf8.encode text →
        w.scanDeliveries deliveries = .ok (w.scanText text)) ∧
      ((∀ text, content ≠ Utf8.encode text) →
        w.scanDeliveries deliveries = .error .undecodable) ∧
      ∀ room, w.scanDeliveries (deliveries.flatMap (Delivery.buffered room)) =
        w.scanDeliveries deliveries := by
  refine ⟨?_, ?_, ?_⟩
  · rintro text rfl
    exact scan_delivered_text w deliveries text delivers
  · intro foreign
    rw [scan_delivered w deliveries content delivers, (Utf8.decode_none_iff content).mpr foreign]
  · intro room
    rw [scan_delivered w _ content (delivers_buffered room deliveries content delivers),
      scan_delivered w deliveries content delivers]

def parted : List Delivery :=
  [.failure (.code 4), .bytes (Utf8.encode Call.opening ++ [0xC3]), .bytes [0xA9, 0x22, 0x0D],
    .failure (.bare .interrupted), .bytes [0x0A, 0x78]]

theorem scan_parted_delivery :
    Delivers parted (Utf8.encode (Call.opening ++ ['é', '"', '\r', '\n', 'x'])) ∧
      Wording.standard.scanDeliveries parted =
        .ok (Wording.standard.scanText (Call.opening ++ ['é', '"', '\r', '\n', 'x'])) := by
  have delivers : Delivers parted (Utf8.encode (Call.opening ++ ['é', '"', '\r', '\n', 'x'])) :=
    .again _ _ _ rfl (.chunk _ _ _ (by decide) (.chunk _ _ _ (by decide)
      (.again _ _ _ rfl (.chunk [0x0A, 0x78] [] [] (by decide) .done))))
  exact ⟨delivers, (scan_any_delivery .standard _ _ delivers).1 _ rfl⟩

end ErrorWording
