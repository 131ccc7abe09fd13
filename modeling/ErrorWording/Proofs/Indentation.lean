import ErrorWording.Proofs.Position
import ErrorWording.Proofs.QuotedPieces
import ErrorWording.Proofs.WholeLines
import ErrorWording.Text.Blank

set_option autoImplicit false

namespace ErrorWording

/-- Text that neither ends nor begins a call with what is put behind it. -/
structure Clear (indent : List Char) : Prop where
  unquoted : '"' ∉ indent
  unjoined : ∀ tail, tail ≠ [] → tail <:+ indent → ¬ tail <+: Call.stem

def Violation.indented (width : Nat) (v : Violation) : Violation :=
  { v with column := v.column + width, endColumn := v.endColumn + width }

theorem clear_tail (c : Char) (tail : List Char) (clear : Clear (c :: tail)) : Clear tail := by
  refine ⟨fun member => clear.unquoted (List.mem_cons_of_mem c member), ?_⟩
  intro ending present ends
  exact clear.unjoined ending present (List.suffix_cons_iff.mpr (.inr ends))

theorem clear_of_free (indent : List Char) (unquoted : '"' ∉ indent) (free : 'f' ∉ indent) :
    Clear indent := by
  refine ⟨unquoted, ?_⟩
  intro tail present ends begins
  obtain ⟨c, rest, rfl⟩ := List.exists_cons_of_ne_nil present
  have first : c = 'f' := (List.cons_prefix_cons.mp begins).1
  exact free (first ▸ ends.subset List.mem_cons_self)

theorem clear_of_blank (indent : List Char) (blank : ∀ c ∈ indent, Blank.isBlank c = true) :
    Clear indent := by
  apply clear_of_free
  · intro member
    exact absurd (blank '"' member) (by decide)
  · intro member
    exact absurd (blank 'f' member) (by decide)

namespace Call

def moved (width : Nat) (call : Call) : Call :=
  { call with before := call.before + width }

theorem find_from_moved (skipped width : Nat) (text : List Char) :
    findFrom (skipped + width) text = (findFrom skipped text).map (moved width) := by
  induction text generalizing skipped with
  | nil => rfl
  | cons c rest ih =>
      have later := ih (skipped + 1)
      rw [Nat.add_right_comm] at later
      rw [findFrom, findFrom, later]
      cases literalAt? (c :: rest) with
      | none => rfl
      | some literal => simp only [Option.map_some, moved, Nat.add_right_comm]

theorem literal_at_clear (c : Char) (tail line : List Char) (clear : Clear (c :: tail)) :
    literalAt? (c :: (tail ++ line)) = none := by
  have unopened : afterOpening? (c :: (tail ++ line)) = none := by
    apply Option.eq_none_iff_forall_ne_some.mpr
    intro rest opened
    rw [after_opening_some_iff, opening_stem, List.append_assoc] at opened
    have unjoined := clear.unjoined (c :: tail) (List.cons_ne_nil c tail) List.suffix_rfl
    -- The opening begins with the whole text, or the text holds the quote of the opening.
    cases List.append_eq_append_iff.mp (show (c :: tail) ++ line = _ from opened) with
    | inl within =>
        obtain ⟨others, stem, _⟩ := within
        exact unjoined ⟨others, stem.symm⟩
    | inr beyond =>
        obtain ⟨others, whole, behind⟩ := beyond
        cases others with
        | nil =>
            rw [List.append_nil] at whole
            exact unjoined (whole ▸ List.prefix_rfl)
        | cons d others =>
            have same : quote = d := (List.cons.inj behind).1
            apply clear.unquoted
            rw [whole, ← same]
            exact List.mem_append_right stem List.mem_cons_self
  rw [literalAt?, unopened, Option.bind_none]

theorem find_from_clear (skipped : Nat) (indent line : List Char) (clear : Clear indent) :
    findFrom skipped (indent ++ line) = findFrom (skipped + indent.length) line := by
  induction indent generalizing skipped with
  | nil => rfl
  | cons c tail ih =>
      have later := ih (skipped + 1) (clear_tail c tail clear)
      rw [List.cons_append, findFrom, literal_at_clear c tail line clear, List.length_cons, later,
        Nat.add_assoc, Nat.add_comm 1 tail.length]

theorem find_indented (indent line : List Char) (clear : Clear indent) :
    find? (indent ++ line) = (find? line).map (moved indent.length) := by
  rw [find?, find_from_clear 0 indent line clear, find_from_moved]
  rfl

end Call

/-- The lines of a content, each with its own text put in front of it. They are numbered from
`first` on. -/
def indentedFrom {α : Type} [BEq α] (feed : α) (indents : Nat → List α) (first : Nat)
    (content : List α) : List α :=
  [feed].intercalate
    (((content.splitOn feed).zipIdx first).map fun (line, number) => indents number ++ line)

theorem indented_last {α : Type} [BEq α] [LawfulBEq α] (feed : α) (indents : Nat → List α)
    (first : Nat) (line : List α) (unbroken : feed ∉ line) :
    indentedFrom feed indents first line = indents first ++ line := by
  rw [indentedFrom, List.splitOn_eq_singleton unbroken]
  exact List.append_nil _

theorem indented_line {α : Type} [BEq α] [LawfulBEq α] (feed : α) (indents : Nat → List α)
    (first : Nat) (line rest : List α) (unbroken : feed ∉ line) :
    indentedFrom feed indents first (line ++ feed :: rest) =
      indents first ++ line ++ feed :: indentedFrom feed indents (first + 1) rest := by
  obtain ⟨next, others, pieces⟩ := List.exists_cons_of_ne_nil (List.splitOn_ne_nil feed rest)
  rw [indentedFrom, indentedFrom, List.splitOn_append_cons_self_of_not_mem unbroken, pieces,
    List.zipIdx_cons, List.map_cons, List.zipIdx_cons, List.map_cons, List.intercalate_cons_cons,
    List.append_assoc, List.singleton_append]

theorem split_indented (indents : Nat → List Char) (unbroken : ∀ k, '\n' ∉ indents k) (first : Nat)
    (text : List Char) :
    (indentedFrom '\n' indents first text).splitOn '\n' =
      ((text.splitOn '\n').zipIdx first).map fun (line, number) => indents number ++ line := by
  rw [indentedFrom]
  apply List.splitOn_intercalate
  · intro line member
    obtain ⟨⟨piece, number⟩, among, rfl⟩ := List.mem_map.mp member
    have free := split_piece_free text piece '\n' (List.fst_mem_of_mem_zipIdx among)
    rw [List.mem_append, not_or]
    exact ⟨unbroken number, free⟩
  · simp [List.splitOn_ne_nil]

namespace Utf8

theorem decode_indented (indents : Nat → List Char) (first : Nat) (content : Bytes) :
    decode? (indentedFrom Scan.feed (fun k => encode (indents k)) first content) =
      (decode? content).map (indentedFrom '\n' indents first) := by
  by_cases broken : Scan.feed ∈ content
  · obtain ⟨line, rest, whole, unbroken⟩ := List.eq_append_cons_of_mem broken
    have smaller : rest.length < content.length := by
      rw [whole, List.length_append, List.length_cons]
      omega
    have later := decode_indented indents (first + 1) rest
    rw [whole, indented_line Scan.feed _ first line rest unbroken,
      decode_append_below _ _ Scan.feed (by decide), decode_below_text, later,
      decode_append_below line rest Scan.feed (by decide)]
    cases decoded : decode? line with
    | none => rfl
    | some text =>
        cases decode? rest with
        | none => rfl
        | some below =>
            have free := Scan.unbroken_text line text unbroken decoded
            have step := indented_line '\n' indents first text below free
            exact congrArg some step.symm
  · rw [indented_last Scan.feed _ first content broken, decode_below_text]
    cases decoded : decode? content with
    | none => rfl
    | some text =>
        have free := Scan.unbroken_text content text broken decoded
        exact congrArg some (indented_last '\n' indents first text free).symm
termination_by content.length

end Utf8

namespace Wording

theorem violation_moved (number width : Nat) (call : Call) :
    violationOf number (call.moved width) = (violationOf number call).indented width := by
  simp only [violationOf, Call.moved, Violation.indented, Nat.add_right_comm _ width]

theorem check_indented (w : Wording) (number : Nat) (indent line : List Char)
    (clear : Clear indent) :
    w.check number (indent ++ line) =
      (w.check number line).map (Violation.indented indent.length) := by
  have found := Call.find_indented indent line clear
  cases here : Call.find? line with
  | none =>
      rw [here] at found
      rw [check, check, found, here]
      rfl
  | some call =>
      rw [here] at found
      have same : (call.moved indent.length).literal = call.literal := rfl
      rw [w.check_found number line call here, w.check_found number _ _ found, violation_moved,
        same]
      by_cases starts : w.required.toList <+: call.literal
      · rw [if_pos starts, if_pos starts, Option.map_none]
      · rw [if_neg starts, if_neg starts, Option.map_some]

def shifted (indents : Nat → List Char) (found : List Violation) : List Violation :=
  found.map fun v => v.indented (indents v.line).length

theorem check_lines_indented (w : Wording) (indents : Nat → List Char)
    (clear : ∀ k, Clear (indents k)) (first : Nat) (lines : List (List Char)) :
    w.checkLines first ((lines.zipIdx first).map fun (line, number) => indents number ++ line) =
      shifted indents (w.checkLines first lines) := by
  induction lines generalizing first with
  | nil => rfl
  | cons line rest ih =>
      have here := w.check_indented first (indents first) line (clear first)
      cases judged : w.check first line with
      | none => simp [ih (first + 1), here, judged, shifted]
      | some v =>
          have number := w.check_line_number first line v judged
          simp [ih (first + 1), here, judged, shifted, number]

theorem scan_text_indented (w : Wording) (indents : Nat → List Char)
    (clear : ∀ k, Clear (indents k)) (unbroken : ∀ k, '\n' ∉ indents k) (text : List Char) :
    w.scanText (indentedFrom '\n' indents 1 text) = shifted indents (w.scanText text) := by
  rw [scan_text_pieces, scan_text_pieces, split_indented indents unbroken,
    w.check_lines_indented indents clear]

theorem indentation_shifts (w : Wording) :
    (∀ indent, (∀ c ∈ indent, Blank.isBlank c = true) → Clear indent) ∧
    (∀ number indent line, Clear indent →
      (w.check number (indent ++ line) = none ↔ w.check number line = none) ∧
        ∀ v, w.check number line = some v →
          w.check number (indent ++ line) = some
            ⟨v.line, v.column + indent.length, v.endColumn + indent.length, v.text⟩) ∧
    ∀ indents : Nat → List Char, (∀ k, Clear (indents k)) → (∀ k, '\n' ∉ indents k) →
      (∀ text, w.scanText (indentedFrom '\n' indents 1 text) = shifted indents (w.scanText text)) ∧
      ∀ content deliveries later, Delivers deliveries content →
        Delivers later (indentedFrom Scan.feed (fun k => Utf8.encode (indents k)) 1 content) →
          w.scanDeliveries later = (w.scanDeliveries deliveries).map (shifted indents) := by
  refine ⟨clear_of_blank, ?_, ?_⟩
  · intro number indent line clear
    rw [w.check_indented number indent line clear]
    refine ⟨Option.map_eq_none_iff, ?_⟩
    intro v judged
    rw [judged]
    rfl
  · intro indents clear unbroken
    refine ⟨w.scan_text_indented indents clear unbroken, ?_⟩
    intro content deliveries later delivers delivered
    rw [scan_delivered w deliveries content delivers, scan_delivered w later _ delivered,
      Utf8.decode_indented]
    cases Utf8.decode? content with
    | none => rfl
    | some text => exact congrArg Except.ok (w.scan_text_indented indents clear unbroken text)

theorem indented_two_lines :
    Wording.standard.scanText (indentedFrom '\n' (fun k => if k = 1 then ['\t'] else ['é', 'ß']) 1
        (Call.opening ++ ['x', '"', '\r', '\n', 'y', ' '] ++ Call.opening ++ ['é', '"'])) =
      [⟨1, 14, 14, "x"⟩, ⟨2, 17, 17, "é"⟩] := by
  have clear : ∀ k : Nat, Clear (if k = 1 then ['\t'] else ['é', 'ß']) := by
    intro k
    by_cases first : k = 1
    · rw [if_pos first]
      exact clear_of_blank ['\t'] (List.forall_mem_singleton.mpr (by decide))
    · rw [if_neg first]
      exact clear_of_free ['é', 'ß'] (by simp) (by simp)
  have unbroken : ∀ k : Nat, '\n' ∉ (if k = 1 then ['\t'] else ['é', 'ß']) := by
    intro k
    by_cases first : k = 1
    · rw [if_pos first]
      decide
    · rw [if_neg first]
      decide
  obtain ⟨_, _, scans⟩ := indentation_shifts .standard
  refine ((scans _ clear unbroken).1 _).trans ?_
  decide +kernel

end Wording

end ErrorWording
