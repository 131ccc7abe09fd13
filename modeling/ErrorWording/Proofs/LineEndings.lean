import ErrorWording.Proofs.Relint
import ErrorWording.Proofs.WholeLines

set_option autoImplicit false

namespace ErrorWording

/-- A line and the carriage returns behind it. Returns at the end of its own text belong to it too. -/
structure StoredLine where
  text : List Char
  returns : Nat
  unbroken : '\n' ∉ text

def StoredLine.body (line : StoredLine) : List Char :=
  line.text ++ List.replicate line.returns '\r'

structure StoredText where
  fed : List StoredLine
  unfed : Option StoredLine

namespace StoredText

def lines (stored : StoredText) : List (List Char) :=
  (stored.fed ++ stored.unfed.toList).map StoredLine.text

def written (stored : StoredText) : List Char :=
  stored.fed.flatMap (fun line => line.body ++ ['\n']) ++
    stored.unfed.toList.flatMap StoredLine.body

end StoredText

/-- One text is made from another by changes of line ends: a return before a line feed or at the
end, and a line feed at the end, come or go. -/
inductive Converts : List Char → List Char → Prop where
  | before (above below : List Char) :
      Converts (above ++ '\n' :: below) (above ++ '\r' :: '\n' :: below)
  | last (text : List Char) : Converts text (text ++ ['\r'])
  | final (text : List Char) : Converts text (text ++ ['\n'])
  | idle (text : List Char) : Converts text text
  | undone (a b : List Char) (change : Converts a b) : Converts b a
  | again (a b c : List Char) (first : Converts a b) (second : Converts b c) : Converts a c

theorem returns_only (n : Nat) (c : Char) (other : c ≠ '\r') : c ∉ List.replicate n '\r' := by
  intro member
  exact other (List.eq_of_mem_replicate member)

theorem body_unbroken (line : StoredLine) : '\n' ∉ line.body := by
  rw [StoredLine.body, List.mem_append, not_or]
  exact ⟨line.unbroken, returns_only line.returns '\n' (by decide)⟩

theorem split_fed (fed : List StoredLine) (rest : List Char) :
    (fed.flatMap (fun line => line.body ++ ['\n']) ++ rest).splitOn '\n' =
      fed.map StoredLine.body ++ rest.splitOn '\n' := by
  induction fed with
  | nil => rfl
  | cons line fed ih =>
      have split := List.splitOn_append_cons_self_of_not_mem (body_unbroken line)
        (fed.flatMap (fun line => line.body ++ ['\n']) ++ rest)
      rw [ih] at split
      simpa using split

namespace Wording

theorem check_body (w : Wording) (number : Nat) (line : StoredLine) :
    w.check number line.body = w.check number line.text :=
  w.check_append number line.text _ (returns_only line.returns Call.quote (by decide))

theorem check_bodies (w : Wording) (first : Nat) (lines : List StoredLine) :
    w.checkLines first (lines.map StoredLine.body) =
      w.checkLines first (lines.map StoredLine.text) :=
  w.check_lines_congr first _ _ w.check_body lines

theorem check_unfed (w : Wording) (first : Nat) (unfed : Option StoredLine) :
    w.checkLines first ((unfed.toList.flatMap StoredLine.body).splitOn '\n') =
      w.checkLines first (unfed.toList.map StoredLine.text) := by
  cases unfed with
  | none => rfl
  | some line =>
      have single := List.splitOn_eq_singleton (body_unbroken line)
      rw [Option.toList_some, List.flatMap_singleton, single]
      exact w.check_bodies first [line]

theorem scan_stored (w : Wording) (stored : StoredText) :
    w.scanText stored.written = w.checkLines 1 stored.lines := by
  rw [scan_text_pieces, StoredText.written, split_fed, check_lines_append, check_unfed,
    check_bodies, StoredText.lines, List.map_append, check_lines_append, List.length_map,
    List.length_map]

theorem scan_converted (w : Wording) (a b : List Char) (converts : Converts a b) :
    w.scanText b = w.scanText a := by
  induction converts with
  | before above below =>
      -- A return at the end of a line holds no quote, so the line is judged as before.
      have same := w.scan_text_append above ['\r'] (by decide)
      have feeds : (above ++ ['\r']).count '\n' = above.count '\n' := by simp
      have moved := w.scan_text_below_feed (above ++ ['\r']) below
      rw [same, feeds, ← scan_text_below_feed] at moved
      simpa using moved
  | last text => exact w.scan_text_append text ['\r'] (by decide)
  | final text => exact w.scan_text_append text ['\n'] (by decide)
  | idle text => rfl
  | undone a b change ih => exact ih.symm
  | again a b c first second before after => exact after.trans before

theorem line_ends_immaterial (w : Wording) :
    (∀ stored : StoredText,
      w.scanText stored.written =
          (stored.lines.zipIdx 1).filterMap (fun (line, number) => w.check number line) ∧
        ∀ deliveries, Delivers deliveries (Utf8.encode stored.written) →
          w.scanDeliveries deliveries =
            .ok ((stored.lines.zipIdx 1).filterMap fun (line, number) => w.check number line)) ∧
    ∀ a b, Converts a b →
      w.scanText b = w.scanText a ∧
        ∀ deliveries later, Delivers deliveries (Utf8.encode a) → Delivers later (Utf8.encode b) →
          w.scanDeliveries later = w.scanDeliveries deliveries := by
  constructor
  · intro stored
    refine ⟨w.scan_stored stored, ?_⟩
    intro deliveries delivers
    rw [scan_delivered_text w deliveries _ delivers, scan_stored]
    rfl
  · intro a b converts
    have same := w.scan_converted a b converts
    refine ⟨same, ?_⟩
    intro deliveries later delivers delivered
    rw [scan_delivered_text w deliveries a delivers, scan_delivered_text w later b delivered, same]

theorem mixed_line_ends :
    Wording.standard.scanDeliveries ((piecesOf 0 (Utf8.encode
        (['x', '\r', '\r', '\r', '\n'] ++ Call.opening ++ ['é', '"', '\r']))).map .bytes) =
        .ok [⟨2, 13, 13, "é"⟩] ∧
      Wording.standard.scanText (['x', '\n'] ++ Call.opening ++ ['é', '"']) =
        Wording.standard.scanText (['x', '\r', '\n'] ++ Call.opening ++ ['é', '"', '\n']) := by
  obtain ⟨stored, converted⟩ := line_ends_immaterial .standard
  have delivers (content : Bytes) : Delivers ((piecesOf 0 content).map .bytes) content := by
    simpa using delivers_pieces 0 content [] [] .done
  have scanned := (stored ⟨[⟨['x', '\r'], 2, by decide⟩],
    some ⟨Call.opening ++ ['é', '"'], 1, by decide⟩⟩).2 _ (delivers _)
  have fed : Converts (['x', '\n'] ++ Call.opening ++ ['é', '"'])
      (['x', '\n'] ++ Call.opening ++ ['é', '"', '\n']) := .final _
  have carried : Converts (['x', '\n'] ++ Call.opening ++ ['é', '"', '\n'])
      (['x', '\r', '\n'] ++ Call.opening ++ ['é', '"', '\n']) := .before ['x'] _
  exact ⟨scanned, (converted _ _ (.again _ _ _ fed carried)).1.symm⟩

end Wording

end ErrorWording
