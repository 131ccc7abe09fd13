import ErrorWording.Proofs.Chunking

set_option autoImplicit false

namespace ErrorWording

def WholeLines {α : Type} (feed : α) (content : List α) : Prop :=
  content = [] ∨ content.getLast? = some feed

namespace Violation

def lowered (lines : Nat) (v : Violation) : Violation :=
  { v with line := v.line + lines }

def withinLine (v : Violation) : Nat × Nat × String :=
  (v.column, v.endColumn, v.text)

theorem lowered_lowered (a b : Nat) (v : Violation) :
    (v.lowered a).lowered b = v.lowered (a + b) := by
  simp only [lowered, Nat.add_assoc]

end Violation

theorem whole_lines_cases {α : Type} (feed : α) (content : List α)
    (whole : WholeLines feed content) :
    content = [] ∨ ∃ front, content = front ++ [feed] := by
  cases whole with
  | inl empty => exact .inl empty
  | inr ended => exact .inr (List.getLast?_eq_some_iff.mp ended)

theorem split_length (text : List Char) (c : Char) :
    (text.splitOn c).length = text.count c + 1 := by
  induction text with
  | nil => rfl
  | cons d rest ih =>
      rw [List.splitOn_cons_eq_if_modifyHead]
      by_cases cut : (d == c) = true
      · rw [if_pos cut, List.length_cons, ih, List.count_cons, if_pos cut]
      · rw [if_neg cut, List.length_modifyHead, ih, List.count_cons, if_neg cut, Nat.add_zero]

namespace Wording

theorem check_lowered (w : Wording) (number lines : Nat) (line : List Char) :
    w.check (number + lines) line = (w.check number line).map (Violation.lowered lines) := by
  unfold check
  cases Call.find? line with
  | none => rfl
  | some call =>
      by_cases accepted : w.accepts call.literal
      · simp [accepted]
      · simp [accepted, Violation.lowered, violationOf]

theorem check_lines_lowered (w : Wording) (first lines : Nat) (pieces : List (List Char)) :
    w.checkLines (first + lines) pieces =
      (w.checkLines first pieces).map (Violation.lowered lines) := by
  induction pieces generalizing first with
  | nil => rfl
  | cons piece rest ih =>
      have later := ih (first + 1)
      rw [Nat.add_right_comm first 1 lines] at later
      simp [later, check_lowered, Option.toList_map]

theorem scan_text_nil (w : Wording) : w.scanText [] = [] := rfl

theorem scan_text_below_feed (w : Wording) (front below : List Char) :
    w.scanText (front ++ '\n' :: below) =
      w.scanText front ++ (w.scanText below).map (Violation.lowered (front.count '\n' + 1)) := by
  simp only [scan_text_pieces]
  rw [List.splitOn_append_cons_self, check_lines_append, split_length, check_lines_lowered]

theorem scan_text_below (w : Wording) (above below : List Char)
    (whole : WholeLines '\n' above) :
    w.scanText (above ++ below) =
      w.scanText above ++ (w.scanText below).map (Violation.lowered (above.count '\n')) := by
  cases whole_lines_cases '\n' above whole with
  | inl empty =>
      have same : Violation.lowered 0 = id := rfl
      rw [empty, scan_text_nil, List.nil_append, List.count_nil, same, List.map_id,
        List.nil_append]
  | inr ended =>
      obtain ⟨front, parts⟩ := ended
      have alone : w.scanText (front ++ ['\n']) = w.scanText front := by
        rw [scan_text_below_feed, scan_text_nil, List.map_nil, List.append_nil]
      have feeds : (front ++ ['\n']).count '\n' = front.count '\n' + 1 := by
        rw [List.count_append, List.count_singleton_self]
      rw [parts, alone, feeds, List.append_assoc]
      exact w.scan_text_below_feed front below

def stacked (w : Wording) (above : Nat) : List (List Char) → List Violation
  | [] => []
  | part :: rest =>
      (w.scanText part).map (Violation.lowered above) ++
        stacked w (above + part.count '\n') rest

theorem stacked_lowered (w : Wording) (above lines : Nat) (parts : List (List Char)) :
    w.stacked (above + lines) parts = (w.stacked above parts).map (Violation.lowered lines) := by
  induction parts generalizing above with
  | nil => rfl
  | cons part rest ih =>
      rw [stacked, stacked, List.map_append, List.map_map, ← ih, Nat.add_right_comm]
      congr 1
      apply List.map_congr_left
      intro v _
      exact (v.lowered_lowered above lines).symm

theorem stacked_within_line (w : Wording) (above : Nat) (parts : List (List Char)) :
    (w.stacked above parts).map Violation.withinLine =
      parts.flatMap fun part => (w.scanText part).map Violation.withinLine := by
  induction parts generalizing above with
  | nil => rfl
  | cons part rest ih =>
      rw [stacked, List.map_append, List.map_map, List.flatMap_cons, ih]
      rfl

theorem scan_text_stacked (w : Wording) (parts : List (List Char)) (last : List Char)
    (whole : ∀ part ∈ parts, WholeLines '\n' part) :
    w.scanText (parts.flatten ++ last) = w.stacked 0 (parts ++ [last]) := by
  have unmoved (found : List Violation) : found.map (Violation.lowered 0) = found :=
    List.map_id found
  induction parts with
  | nil => rw [List.flatten_nil, List.nil_append, List.nil_append, stacked, stacked, unmoved,
      List.append_nil]
  | cons part rest ih =>
      have first := whole part List.mem_cons_self
      have others := ih fun other member => whole other (List.mem_cons_of_mem part member)
      rw [List.flatten_cons, List.append_assoc, w.scan_text_below part _ first, others,
        List.cons_append, stacked, unmoved, stacked_lowered]

end Wording

namespace Utf8

theorem decode_below_text (text : List Char) (below : Bytes) :
    decode? (encode text ++ below) = (decode? below).map (text ++ ·) := by
  unfold decode?
  rw [units_encode]
  by_cases spelled : (units below).all Option.isSome
  · simp [spelled, List.filterMap_map]
  · simp [spelled]

theorem decode_below_foreign (above below : Bytes) (whole : WholeLines Scan.feed above)
    (foreign : decode? above = none) : decode? (above ++ below) = none := by
  cases whole_lines_cases Scan.feed above whole with
  | inl empty =>
      rw [empty] at foreign
      cases foreign
  | inr ended =>
      obtain ⟨front, parts⟩ := ended
      rw [parts, decode_append_below front [] Scan.feed (by decide)] at foreign
      rw [parts, List.append_assoc]
      -- No gap lies across the feed, so the gap is in front of it.
      refine (decode_append_below front below Scan.feed (by decide)).trans ?_
      cases spelled : decode? front with
      | none => rfl
      | some text => simp [spelled, show decode? [] = some [] from rfl] at foreign

end Utf8

theorem scan_delivered_below (w : Wording) (deliveries later : List Delivery) (above : List Char)
    (below : Bytes) (whole : WholeLines '\n' above)
    (delivers : Delivers deliveries (Utf8.encode above ++ below)) (delivered : Delivers later below) :
    w.scanDeliveries deliveries = (w.scanDeliveries later).map fun found =>
      w.scanText above ++ found.map (Violation.lowered (above.count '\n')) := by
  rw [scan_delivered w deliveries _ delivers, scan_delivered w later below delivered,
    Utf8.decode_below_text]
  cases Utf8.decode? below with
  | none => rfl
  | some text => exact congrArg Except.ok (w.scan_text_below above text whole)

theorem scan_by_whole_lines (w : Wording) (deliver : Bytes → List Delivery)
    (delivers : ∀ content, Delivers (deliver content) content) :
    (∀ above below : List Char, WholeLines '\n' above →
      w.scanText (above ++ below) =
        w.scanText above ++ (w.scanText below).map (Violation.lowered (above.count '\n'))) ∧
    (∀ (above : List Char) (below : Bytes), WholeLines '\n' above →
      w.scanDeliveries (deliver (Utf8.encode above)) = .ok (w.scanText above) ∧
        w.scanDeliveries (deliver (Utf8.encode above ++ below)) =
          (w.scanDeliveries (deliver below)).map fun found =>
            w.scanText above ++ found.map (Violation.lowered (above.count '\n'))) ∧
    (∀ above below : Bytes, WholeLines Scan.feed above → (∀ text, above ≠ Utf8.encode text) →
      w.scanDeliveries (deliver (above ++ below)) = .error .undecodable) ∧
    ∀ (parts : List (List Char)) (last : List Char), (∀ part ∈ parts, WholeLines '\n' part) →
      w.scanText (parts.flatten ++ last) = w.stacked 0 (parts ++ [last]) ∧
        w.scanDeliveries (deliver (Utf8.encode (parts.flatten ++ last))) =
          .ok (w.stacked 0 (parts ++ [last])) ∧
        (w.stacked 0 (parts ++ [last])).map Violation.withinLine =
          (parts ++ [last]).flatMap fun part => (w.scanText part).map Violation.withinLine := by
  refine ⟨w.scan_text_below, ?_, ?_, ?_⟩
  · intro above below whole
    exact ⟨scan_delivered_text w _ above (delivers _),
      scan_delivered_below w _ _ above below whole (delivers _) (delivers below)⟩
  · intro above below whole foreign
    have refused := Utf8.decode_below_foreign above below whole
      ((Utf8.decode_none_iff above).mpr foreign)
    rw [scan_delivered w _ _ (delivers _), refused]
  · intro parts last whole
    have stack := w.scan_text_stacked parts last whole
    refine ⟨stack, ?_, w.stacked_within_line 0 _⟩
    rw [scan_delivered_text w _ _ (delivers _), stack]

theorem scan_below_two_lines :
    (∀ content, Delivers ((piecesOf 0 content).map .bytes) content) ∧
      Wording.standard.scanDeliveries ((piecesOf 0 (Utf8.encode
        (['\r', '\n', 'x', '\n'] ++ (Call.opening ++ ['é', '"'])))).map .bytes) =
        .ok [⟨3, 13, 13, "é"⟩] := by
  have delivers (content : Bytes) : Delivers ((piecesOf 0 content).map .bytes) content := by
    simpa using delivers_pieces 0 content [] [] .done
  obtain ⟨_, _, _, parts⟩ := scan_by_whole_lines .standard _ delivers
  have stacked : Wording.standard.stacked 0
      [['\r', '\n'], ['x', '\n'], Call.opening ++ ['é', '"']] = [⟨3, 13, 13, "é"⟩] := by
    decide +kernel
  have whole : ∀ part ∈ [['\r', '\n'], ['x', '\n']], WholeLines '\n' part := by
    intro part member
    cases member with
    | head => exact .inr rfl
    | tail _ second =>
        cases second with
        | head => exact .inr rfl
        | tail _ none => cases none
  have scanned := (parts [['\r', '\n'], ['x', '\n']] (Call.opening ++ ['é', '"']) whole).2.1
  exact ⟨delivers, scanned.trans (congrArg Except.ok stacked)⟩

end ErrorWording
