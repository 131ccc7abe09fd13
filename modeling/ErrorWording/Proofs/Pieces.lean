import ErrorWording.Proofs.Occurrence
import ErrorWording.Scan

set_option autoImplicit false

namespace ErrorWording

namespace Wording

@[simp] theorem check_lines_nil (w : Wording) (first : Nat) : w.checkLines first [] = [] := rfl

@[simp] theorem check_lines_cons (w : Wording) (first : Nat) (line : List Char)
    (rest : List (List Char)) :
    w.checkLines first (line :: rest) =
      (w.check first line).toList ++ w.checkLines (first + 1) rest := by
  simp only [checkLines, List.zipIdx_cons]
  cases judged : w.check first line <;> simp [judged]

theorem check_lines_append (w : Wording) (first : Nat) (a b : List (List Char)) :
    w.checkLines first (a ++ b) = w.checkLines first a ++ w.checkLines (first + a.length) b := by
  induction a generalizing first with
  | nil => simp
  | cons line rest ih =>
      have place : first + 1 + rest.length = first + (rest.length + 1) := by omega
      simp [ih, place]

theorem check_lines_congr {α : Type} (w : Wording) (first : Nat) (f g : α → List Char)
    (same : ∀ number a, w.check number (f a) = w.check number (g a)) (items : List α) :
    w.checkLines first (items.map f) = w.checkLines first (items.map g) := by
  induction items generalizing first with
  | nil => rfl
  | cons a rest ih => simp [same, ih]

theorem check_lines_drop_return (w : Wording) (first : Nat) (lines : List (List Char)) :
    w.checkLines first (lines.map Line.dropReturn) = w.checkLines first lines := by
  have same := w.check_lines_congr first Line.dropReturn id (by simp) lines
  rwa [List.map_id] at same

theorem check_lines_last (w : Wording) (first : Nat) (last : List Char) :
    w.checkLines first ([last].filter (· != [])) = w.checkLines first [last] := by
  by_cases empty : last = []
  · subst last
    rfl
  · simp [empty]

theorem scan_text_pieces (w : Wording) (text : List Char) :
    w.scanText text = w.checkLines 1 (text.splitOn '\n') := by
  obtain ⟨front, last, pieces⟩ :=
    (List.eq_nil_or_concat (text.splitOn '\n')).resolve_left (List.splitOn_ne_nil '\n' text)
  rw [List.concat_eq_append] at pieces
  simp only [scanText, linesOf, pieces, List.dropLast_concat, List.getLast?_concat]
  rw [check_lines_append, check_lines_append, check_lines_drop_return, List.length_map,
    Option.toList_some, check_lines_last]

end Wording
end ErrorWording
