import ErrorWording.Proofs.FirstCall

set_option autoImplicit false

namespace ErrorWording

namespace Call

def stem : List Char := "fmt.Errorf(".toList

def literalBehind? (stretch rest : List Char) : Option (List Char) :=
  if stem <:+ stretch then literal? rest else none

/-- One pass over the pieces between quotes, each looked at beside its neighbours. -/
def amongPieces (before : Nat) : List (List Char) → Option Call
  | front :: literal :: next :: rest =>
      if stem <:+ front ∧ literal ≠ [] then some ⟨before + front.length + 1, literal⟩
      else amongPieces (before + front.length + 1) (literal :: next :: rest)
  | _ => none

structure LiteralPiece (pieces : List (List Char)) (i : Nat) (literal : List Char) : Prop where
  place : pieces[i]? = some literal
  later : 1 ≤ i
  closed : i + 1 < pieces.length
  present : literal ≠ []
  opened : ∃ front, pieces[i - 1]? = some front ∧ stem <:+ front

def charactersBefore (pieces : List (List Char)) (i : Nat) : Nat :=
  (pieces.take i).flatten.length

structure FirstLiteralPiece (pieces : List (List Char)) (i : Nat) (literal : List Char) : Prop where
  piece : LiteralPiece pieces i literal
  least : ∀ j text, LiteralPiece pieces j text → i ≤ j

theorem stem_unquoted : quote ∉ stem := by decide

theorem opening_stem : opening = stem ++ [quote] := by decide

theorem literal_at_stretch (stretch rest : List Char) (unquoted : quote ∉ stretch) :
    literalAt? (stretch ++ quote :: rest) = if stretch = stem then literal? rest else none := by
  by_cases here : stretch = stem
  · have opened : afterOpening? (stretch ++ quote :: rest) = some rest := by
      rw [after_opening_some_iff, here, opening_stem, List.append_assoc]
      rfl
    rw [if_pos here, literalAt?, opened, Option.bind_some]
  · have unopened : afterOpening? (stretch ++ quote :: rest) = none := by
      apply Option.eq_none_iff_forall_ne_some.mpr
      intro after opened
      rw [after_opening_some_iff, opening_stem, List.append_assoc] at opened
      -- An opening has its only quote at its end: the pieces before the first quotes are the same.
      have pieces := congrArg (List.splitOn quote) opened
      rw [List.splitOn_append_cons_self_of_not_mem unquoted, List.singleton_append,
        List.splitOn_append_cons_self_of_not_mem stem_unquoted] at pieces
      exact here (List.cons.inj pieces).1
    rw [if_neg here, literalAt?, unopened, Option.bind_none]

theorem literal_behind_other (c : Char) (tail rest : List Char) (other : c :: tail ≠ stem) :
    literalBehind? (c :: tail) rest = literalBehind? tail rest := by
  simp only [literalBehind?, List.suffix_cons_iff, Ne.symm other, false_or]

theorem literal_behind_short (c : Char) (tail rest : List Char) (whole : c :: tail = stem) :
    literalBehind? tail rest = none := by
  apply if_neg
  intro ends
  have length := ends.length_le
  rw [← whole, List.length_cons] at length
  omega

theorem find_from_stretch (skipped : Nat) (stretch rest : List Char) (unquoted : quote ∉ stretch) :
    findFrom skipped (stretch ++ quote :: rest) =
      match literalBehind? stretch rest with
      | some literal => some ⟨skipped + stretch.length + 1, literal⟩
      | none => findFrom (skipped + stretch.length + 1) rest := by
  induction stretch generalizing skipped with
  | nil =>
      have here := literal_at_stretch [] rest unquoted
      rw [if_neg (by decide)] at here
      have behind : literalBehind? [] rest = none := if_neg (by decide)
      simp only [List.nil_append] at here ⊢
      rw [findFrom, here, behind]
      rfl
  | cons c tail ih =>
      have here := literal_at_stretch (c :: tail) rest unquoted
      have later := ih (skipped + 1) (fun member => unquoted (List.mem_cons_of_mem c member))
      have moved : skipped + 1 + tail.length = skipped + (c :: tail).length := by
        rw [List.length_cons]
        omega
      rw [moved] at later
      rw [List.cons_append] at here ⊢
      -- Only where the stem is all that is left of the stretch can a call open here.
      by_cases whole : c :: tail = stem
      · have width : opening.length = (c :: tail).length + 1 := by
          rw [whole, opening_stem, List.length_append, List.length_singleton]
        have stops : stem <:+ c :: tail := whole ▸ List.suffix_rfl
        rw [literal_behind_short c tail rest whole] at later
        rw [if_pos whole] at here
        rw [findFrom, here, later, literalBehind?, if_pos stops, width]
        rfl
      · rw [if_neg whole] at here
        rw [findFrom, here, later, literal_behind_other c tail rest whole]

theorem literal_unquoted (text : List Char) (unquoted : quote ∉ text) : literal? text = none := by
  apply Option.eq_none_iff_forall_ne_some.mpr
  intro literal found
  obtain ⟨_, _, after, whole⟩ := (literal_some_iff text literal).mp found
  exact unquoted (by simp [whole])

theorem find_from_unquoted (skipped : Nat) (text : List Char) (unquoted : quote ∉ text) :
    findFrom skipped text = none := by
  apply (find_from_none_iff skipped text).mpr
  intro before literal after cut
  exact unquoted (by simp [cut_whole text before literal after cut])

theorem among_pieces_cons (before : Nat) (front text : List Char) :
    amongPieces before (front :: text.splitOn quote) =
      match literalBehind? front text with
      | some literal => some ⟨before + front.length + 1, literal⟩
      | none => amongPieces (before + front.length + 1) (text.splitOn quote) := by
  unfold literalBehind?
  by_cases quoted : quote ∈ text
  · obtain ⟨literal, after, rfl, unquoted⟩ := List.eq_append_cons_of_mem quoted
    obtain ⟨next, rest, pieces⟩ := List.exists_cons_of_ne_nil (List.splitOn_ne_nil quote after)
    rw [List.splitOn_append_cons_self_of_not_mem unquoted, pieces, amongPieces]
    by_cases ends : stem <:+ front
    · by_cases present : literal = []
      · have lacking : literal? (literal ++ quote :: after) = none := by
          rw [present]
          rfl
        rw [if_neg (by simp [present]), if_pos ends, lacking]
      · have found := literal_append_quote literal after present unquoted
        rw [if_pos ⟨ends, present⟩, if_pos ends, found]
    · rw [if_neg (by simp [ends]), if_neg ends]
  · have lacking := literal_unquoted text quoted
    rw [List.splitOn_eq_singleton quoted, lacking, ite_self]
    rfl

theorem find_from_pieces (skipped : Nat) (text : List Char) :
    findFrom skipped text = amongPieces skipped (text.splitOn quote) := by
  by_cases quoted : quote ∈ text
  · obtain ⟨stretch, rest, whole, unquoted⟩ := List.eq_append_cons_of_mem quoted
    have shorter : rest.length < text.length := by
      rw [whole, List.length_append, List.length_cons]
      omega
    have later := find_from_pieces (skipped + stretch.length + 1) rest
    rw [whole, find_from_stretch skipped stretch rest unquoted,
      List.splitOn_append_cons_self_of_not_mem unquoted, among_pieces_cons, later]
  · rw [find_from_unquoted skipped text quoted, List.splitOn_eq_singleton quoted]
    rfl
termination_by text.length

theorem find_pieces (line : List Char) : find? line = amongPieces 0 (line.splitOn '"') :=
  find_from_pieces 0 line

theorem no_characters_before (pieces : List (List Char)) : charactersBefore pieces 0 = 0 := rfl

theorem characters_before_next (front : List Char) (pieces : List (List Char)) (i : Nat) :
    charactersBefore (front :: pieces) (i + 1) = front.length + charactersBefore pieces i := by
  rw [charactersBefore, List.take_succ_cons, List.flatten_cons, List.length_append]
  rfl

theorem no_first_literal (pieces : List (List Char)) (literal : List Char) :
    ¬ LiteralPiece pieces 0 literal := by
  intro piece
  have later := piece.later
  omega

theorem literal_piece_next (front : List Char) (pieces : List (List Char)) (i : Nat)
    (literal : List Char) (piece : LiteralPiece pieces i literal) :
    LiteralPiece (front :: pieces) (i + 1) literal := by
  obtain ⟨place, later, closed, present, before, stands, ends⟩ := piece
  refine ⟨place, Nat.le_add_left 1 i, ?_, present, before, ?_, ends⟩
  · rw [List.length_cons]
    omega
  · have index : i + 1 - 1 = i - 1 + 1 := by omega
    rw [index]
    exact stands

theorem literal_piece_here (front literal next : List Char) (rest : List (List Char))
    (ends : stem <:+ front) (present : literal ≠ []) :
    LiteralPiece (front :: literal :: next :: rest) 1 literal :=
  ⟨rfl, Nat.le_refl 1, by simp only [List.length_cons]; omega, present, front, rfl, ends⟩

theorem literal_piece_cases (front : List Char) (pieces : List (List Char)) (i : Nat)
    (literal : List Char) (piece : LiteralPiece (front :: pieces) i literal) :
    (i = 1 ∧ stem <:+ front ∧ literal ≠ [] ∧ ∃ next rest, pieces = literal :: next :: rest) ∨
      ∃ j, i = j + 1 ∧ LiteralPiece pieces j literal := by
  obtain ⟨place, later, closed, present, before, stands, ends⟩ := piece
  obtain ⟨j, rfl⟩ := Nat.exists_eq_add_of_le' later
  rw [List.length_cons] at closed
  cases j with
  | zero =>
      left
      have same : front = before := Option.some.inj stands
      refine ⟨rfl, same ▸ ends, present, ?_⟩
      cases pieces with
      | nil => cases place
      | cons first others =>
          have found : first = literal := Option.some.inj place
          cases others with
          | nil => simp at closed
          | cons next rest => exact ⟨next, rest, by rw [found]⟩
  | succ j =>
      right
      exact ⟨j + 1, rfl, place, Nat.le_add_left 1 j, by omega, present, before, stands, ends⟩

theorem first_literal_next_iff (front : List Char) (pieces : List (List Char)) (i : Nat)
    (literal : List Char)
    (none : ∀ text, ¬ LiteralPiece (front :: pieces) 1 text) :
    FirstLiteralPiece (front :: pieces) i literal ↔
      ∃ j, i = j + 1 ∧ FirstLiteralPiece pieces j literal := by
  have earlier (k : Nat) (text : List Char) (piece : LiteralPiece (front :: pieces) k text) :
      ∃ j, k = j + 1 ∧ LiteralPiece pieces j text := by
    cases literal_piece_cases front pieces k text piece with
    | inl here => exact absurd (here.1 ▸ piece) (none text)
    | inr later => exact later
  constructor
  · intro first
    obtain ⟨j, rfl, piece⟩ := earlier i literal first.piece
    refine ⟨j, rfl, piece, ?_⟩
    intro k text other
    have least := first.least (k + 1) text (literal_piece_next front pieces k text other)
    omega
  · intro found
    obtain ⟨j, rfl, first⟩ := found
    refine ⟨literal_piece_next front pieces j literal first.piece, ?_⟩
    intro k text other
    obtain ⟨l, rfl, piece⟩ := earlier k text other
    have least := first.least l text piece
    omega

theorem first_literal_here_iff (front text next : List Char) (rest : List (List Char))
    (ends : stem <:+ front) (present : text ≠ []) (i : Nat) (literal : List Char) :
    FirstLiteralPiece (front :: text :: next :: rest) i literal ↔ i = 1 ∧ literal = text := by
  have here := literal_piece_here front text next rest ends present
  constructor
  · intro first
    have index : i = 1 := Nat.le_antisymm (first.least 1 text here) first.piece.later
    subst index
    exact ⟨rfl, Option.some.inj (first.piece.place.symm.trans here.place)⟩
  · intro same
    obtain ⟨rfl, rfl⟩ := same
    exact ⟨here, fun j other piece => piece.later⟩

theorem no_literal_here (front text next : List Char) (rest : List (List Char))
    (lacking : ¬ (stem <:+ front ∧ text ≠ [])) (literal : List Char) :
    ¬ LiteralPiece (front :: text :: next :: rest) 1 literal := by
  intro piece
  cases literal_piece_cases front (text :: next :: rest) 1 literal piece with
  | inl here =>
      obtain ⟨_, ends, present, after, others, pieces⟩ := here
      have same : text = literal := (List.cons.inj pieces).1
      exact lacking ⟨ends, same ▸ present⟩
  | inr later =>
      obtain ⟨j, index, other⟩ := later
      have first : j = 0 := by omega
      exact no_first_literal _ literal (first ▸ other)

theorem literal_piece_three (pieces : List (List Char)) (i : Nat) (literal : List Char)
    (piece : LiteralPiece pieces i literal) :
    ∃ front text next rest, pieces = front :: text :: next :: rest := by
  have later := piece.later
  have closed := piece.closed
  match pieces with
  | [] => simp at closed
  | [front] => simp at closed
  | [front, text] =>
      simp only [List.length_cons, List.length_nil] at closed
      omega
  | front :: text :: next :: rest => exact ⟨front, text, next, rest, rfl⟩

theorem among_pieces_some_iff (before : Nat) (pieces : List (List Char)) (n : Nat)
    (literal : List Char) :
    amongPieces before pieces = some ⟨n, literal⟩ ↔
      ∃ i, FirstLiteralPiece pieces i literal ∧ n = before + i + charactersBefore pieces i := by
  fun_induction amongPieces before pieces with
  | case1 before front text next rest here =>
      simp only [Option.some.injEq, Call.mk.injEq,
        first_literal_here_iff front text next rest here.1 here.2]
      constructor
      · intro found
        obtain ⟨place, same⟩ := found
        refine ⟨1, ⟨rfl, same.symm⟩, ?_⟩
        rw [characters_before_next, no_characters_before]
        omega
      · intro found
        obtain ⟨i, ⟨rfl, same⟩, place⟩ := found
        rw [characters_before_next, no_characters_before] at place
        exact ⟨by omega, same.symm⟩
  | case2 before front text next rest here ih =>
      have none := no_literal_here front text next rest here
      simp only [ih, first_literal_next_iff front (text :: next :: rest) _ literal none]
      have moved (j : Nat) :
          before + (j + 1) + charactersBefore (front :: text :: next :: rest) (j + 1) =
            before + front.length + 1 + j + charactersBefore (text :: next :: rest) j := by
        rw [characters_before_next]
        omega
      constructor
      · intro found
        obtain ⟨j, first, place⟩ := found
        exact ⟨j + 1, ⟨j, rfl, first⟩, by rw [moved]; exact place⟩
      · intro found
        obtain ⟨i, ⟨j, rfl, first⟩, place⟩ := found
        exact ⟨j, first, by rw [← moved]; exact place⟩
  | case3 pieces before short =>
      simp only [reduceCtorEq, false_iff]
      intro found
      obtain ⟨i, first, _⟩ := found
      obtain ⟨front, text, next, rest, parts⟩ := literal_piece_three pieces i literal first.piece
      exact short front text next rest parts

theorem among_pieces_none_iff (before : Nat) (pieces : List (List Char)) :
    amongPieces before pieces = none ↔ ∀ i literal, ¬ LiteralPiece pieces i literal := by
  fun_induction amongPieces before pieces with
  | case1 before front text next rest here =>
      simp only [reduceCtorEq, false_iff]
      intro absent
      exact absent 1 text (literal_piece_here front text next rest here.1 here.2)
  | case2 before front text next rest here ih =>
      rw [ih]
      constructor
      · intro absent i literal piece
        cases literal_piece_cases front (text :: next :: rest) i literal piece with
        | inl found => exact no_literal_here front text next rest here literal (found.1 ▸ piece)
        | inr later =>
            obtain ⟨j, _, other⟩ := later
            exact absent j literal other
      · intro absent j literal piece
        exact absent (j + 1) literal (literal_piece_next front _ j literal piece)
  | case3 pieces before short =>
      simp only [true_iff]
      intro i literal piece
      obtain ⟨front, text, next, rest, parts⟩ := literal_piece_three pieces i literal piece
      exact short front text next rest parts

end Call

namespace Wording

theorem check_by_pieces (w : Wording) (number : Nat) (line : List Char) :
    Call.find? line = Call.amongPieces 0 (line.splitOn '"') ∧
    (∀ n literal, Call.find? line = some ⟨n, literal⟩ ↔
      ∃ i, Call.FirstLiteralPiece (line.splitOn '"') i literal ∧
        n = i + Call.charactersBefore (line.splitOn '"') i) ∧
    (Call.find? line = none ↔ ∀ i literal, ¬ Call.LiteralPiece (line.splitOn '"') i literal) ∧
    ((∀ i literal, ¬ Call.LiteralPiece (line.splitOn '"') i literal) →
      w.check number line = none) ∧
    ∀ i literal, Call.FirstLiteralPiece (line.splitOn '"') i literal →
      w.check number line =
        if w.required.toList <+: literal then none
        else some
          ⟨number, 1 + i + Call.charactersBefore (line.splitOn '"') i,
            1 + i + Call.charactersBefore (line.splitOn '"') i + literal.length - 1,
            String.ofList literal⟩ := by
  have found (n : Nat) (literal : List Char) : Call.find? line = some ⟨n, literal⟩ ↔
      ∃ i, Call.FirstLiteralPiece (line.splitOn '"') i literal ∧
        n = i + Call.charactersBefore (line.splitOn '"') i := by
    rw [Call.find_pieces, Call.among_pieces_some_iff]
    simp only [Nat.zero_add]
  have absent : Call.find? line = none ↔
      ∀ i literal, ¬ Call.LiteralPiece (line.splitOn '"') i literal := by
    rw [Call.find_pieces, Call.among_pieces_none_iff]
  refine ⟨Call.find_pieces line, found, absent, ?_, ?_⟩
  · intro none
    exact (w.check_none_call_iff number line).mpr (.inl (absent.mpr none))
  · intro i literal first
    have call := (found _ literal).mpr ⟨i, first, rfl⟩
    generalize Call.charactersBefore (line.splitOn '"') i = characters at call ⊢
    have column : i + characters + 1 = 1 + i + characters := by omega
    have endColumn : i + characters + literal.length = 1 + i + characters + literal.length - 1 := by
      omega
    rw [w.check_found number line _ call, violationOf, column, endColumn]

def threeCalls : List Char :=
  "é fmt.Errorf(\"\" + fmt.Errorf(\"ßx\") fmt.Errorf(\"y\")".toList

theorem check_behind_empty_literal :
    Call.FirstLiteralPiece (threeCalls.splitOn '"') 3 ['ß', 'x'] ∧
      standard.check 7 threeCalls = some ⟨7, 31, 32, "ßx"⟩ := by
  have pieces : threeCalls.splitOn '"' =
      ["é fmt.Errorf(".toList, [], " + fmt.Errorf(".toList, ['ß', 'x'], ") fmt.Errorf(".toList,
        ['y'], [')']] := by decide +kernel
  have first : Call.FirstLiteralPiece (threeCalls.splitOn '"') 3 ['ß', 'x'] := by
    rw [pieces]
    refine ⟨⟨rfl, by decide, by decide, by decide, _, rfl, by decide⟩, ?_⟩
    intro j text piece
    match j with
    | 0 => exact absurd piece.later (by decide)
    | 1 => exact absurd (Option.some.inj piece.place).symm piece.present
    | 2 =>
        obtain ⟨front, stands, ends⟩ := piece.opened
        have empty : [] = front := Option.some.inj stands
        exact absurd ends (by rw [← empty]; decide)
    | j + 3 => exact Nat.le_add_left 3 j
  obtain ⟨_, _, _, _, judged⟩ := check_by_pieces standard 7 threeCalls
  refine ⟨first, (judged 3 ['ß', 'x'] first).trans ?_⟩
  rw [pieces]
  decide +kernel

end Wording

end ErrorWording
