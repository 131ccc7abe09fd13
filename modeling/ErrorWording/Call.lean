set_option autoImplicit false

namespace ErrorWording

structure Call where
  before : Nat
  literal : List Char
deriving DecidableEq, Repr

namespace Call

def quote : Char := '"'

def opening : List Char :=
  ['f', 'm', 't', '.', 'E', 'r', 'r', 'o', 'r', 'f', '(', quote]

def afterOpening? (text : List Char) : Option (List Char) :=
  if opening.isPrefixOf text then some (text.drop opening.length) else none

def literal? (text : List Char) : Option (List Char) :=
  -- An empty literal is none. Line feeds may stand inside one.
  if text.takeWhile (· != quote) = [] ∨ text.dropWhile (· != quote) = [] then none
  else some (text.takeWhile (· != quote))

theorem after_opening_some_iff (text rest : List Char) :
    afterOpening? text = some rest ↔ text = opening ++ rest := by
  unfold afterOpening?
  by_cases starts : opening.isPrefixOf text
  · obtain ⟨tail, rfl⟩ := List.isPrefixOf_iff_prefix.mp starts
    simp [starts, eq_comm]
  · simp only [if_neg starts, reduceCtorEq, false_iff]
    intro same
    exact starts (by simp [same])

theorem literal_append_quote (literal after : List Char) (present : literal ≠ [])
    (free : quote ∉ literal) : literal? (literal ++ quote :: after) = some literal := by
  have all : ∀ c ∈ literal, (c != quote) = true := by
    intro c member
    simp only [bne_iff_ne]
    rintro rfl
    exact free member
  simp [literal?, List.takeWhile_append_of_pos all, List.dropWhile_append_of_pos all, present]

def literalAt? (text : List Char) : Option (List Char) :=
  (afterOpening? text).bind literal?

def findFrom (before : Nat) : List Char → Option Call
  | [] => none
  | c :: rest =>
      match literalAt? (c :: rest) with
      | some literal => some ⟨before + opening.length, literal⟩
      -- An opening without a literal does not end the search.
      | none => findFrom (before + 1) rest

def find? (line : List Char) : Option Call :=
  findFrom 0 line

end Call

end ErrorWording
