import ErrorWording.Proofs.Room

set_option autoImplicit false

namespace ErrorWording.Outlet

def exhausted (o : Outlet) : Halt :=
  match o.refusal with
  | some f => if f.kind = .interrupted then .stalled else .refused f
  | none => .refused .nothingTaken

theorem halt_exhausted (o : Outlet) (full : o.room = some 0) : o.halt = o.exhausted := by
  unfold halt exhausted
  rw [full]
  cases o.refusal <;> rfl

theorem bound_some_le (o : Outlet) (n limit : Nat) (bounded : o.bound = some n)
    (room : o.room = some limit) : n ≤ limit := by
  obtain ⟨perCall, _, refusal, flushFault, reversed⟩ := o
  cases room
  cases perCall with
  | none =>
      have same : limit = n := Option.some.inj bounded
      omega
  | some a =>
      have least : min a limit = n := Option.some.inj bounded
      omega

theorem offer_short (o : Outlet) (bytes : Bytes) (limit : Nat) (steady : o.Steady)
    (room : o.room = some limit) (short : limit < bytes.length) :
    o.offer bytes = (o.take (bytes.take limit), some o.exhausted) := by
  fun_induction offer o bytes generalizing limit with
  | case1 o => simp at short
  | case2 o b rest unbound =>
      obtain ⟨perCall, _, refusal, flushFault, reversed⟩ := o
      cases room
      cases perCall <;> cases unbound
  | case3 o b rest stuck =>
      have full : o.room = some 0 := bound_zero o steady stuck
      have none : limit = 0 := Option.some.inj (room.symm.trans full)
      rw [none, List.take_zero, take_nil, halt_exhausted o full]
  | case4 o b rest n bounded ih =>
      have within : n + 1 ≤ limit := bound_some_le o (n + 1) limit bounded room
      have longer : n < rest.length := by
        rw [List.length_cons] at short
        omega
      have taken : (b :: rest.take n).length = n + 1 := by
        rw [List.length_cons, List.length_take]
        omega
      have left : (o.take (b :: rest.take n)).room = some (limit - (n + 1)) := by
        simp only [take, room, Option.map_some, taken]
      have later := ih (limit - (n + 1)) steady left (by
        rw [List.length_cons] at short
        rw [List.length_drop]
        omega)
      -- One call took `n + 1` bytes, and the later ones take the rest of the room.
      have parts : (b :: rest).take limit =
          (b :: rest.take n) ++ (rest.drop n).take (limit - (n + 1)) := by
        have cut : limit = n + 1 + (limit - (n + 1)) := by omega
        rw [cut, List.take_add]
        simp
      rw [later, take_take, ← parts]
      rfl

theorem bound_idle (o : Outlet) (stuck : ¬ o.Steady) : o.bound = some 0 := by
  have idle : o.perCall = some 0 := Classical.not_not.mp stuck
  unfold Outlet.bound
  rw [idle]
  cases o.room <;> simp

theorem offer_bound_zero (o : Outlet) (bytes : Bytes) (bound : o.bound = some 0)
    (present : bytes ≠ []) : o.offer bytes = (o, some o.halt) := by
  obtain ⟨b, rest, rfl⟩ := List.exists_cons_of_ne_nil present
  exact offer.eq_3 o b rest bound

theorem offer_stuck (o : Outlet) (bytes : Bytes) (stuck : ¬ o.Steady) (present : bytes ≠ []) :
    o.offer bytes = (o, some o.halt) :=
  o.offer_bound_zero bytes (o.bound_idle stuck) present

theorem fits_or_short (o : Outlet) (bytes : Bytes) :
    o.Fits bytes ∨ ∃ limit, o.room = some limit ∧ limit < bytes.length := by
  by_cases fits : o.Fits bytes
  · exact .inl fits
  · simp only [Fits, Classical.not_forall, Nat.not_le] at fits
    obtain ⟨limit, room, short⟩ := fits
    exact .inr ⟨limit, room, short⟩

theorem offer_behind (o : Outlet) (a b : Bytes) (steady : o.Steady) (fits : o.Fits a) :
    o.offer (a ++ b) = (o.take a).offer b := by
  rcases o.fits_or_short (a ++ b) with whole | ⟨limit, room, short⟩
  · rw [offer_fits o (a ++ b) steady whole,
      offer_fits (o.take a) b steady (fits_take o a b whole), take_take]
  · have within : a.length ≤ limit := fits limit room
    have left : (o.take a).room = some (limit - a.length) := by simp [take, room]
    have rest : limit - a.length < b.length := by
      rw [List.length_append] at short
      omega
    have parts : (a ++ b).take limit = a ++ b.take (limit - a.length) := by
      rw [List.take_append, List.take_of_length_le within]
    rw [offer_short o (a ++ b) limit steady room short,
      offer_short (o.take a) b _ steady left rest, take_take, parts]
    rfl

theorem offer_append (o : Outlet) (a b : Bytes) :
    o.offer (a ++ b) =
      match o.offer a with
      | (after, some halt) => (after, some halt)
      | (after, none) => after.offer b := by
  by_cases empty : a = []
  · simp [empty]
  by_cases steady : o.Steady
  · rcases o.fits_or_short a with fits | ⟨limit, room, short⟩
    · rw [offer_behind o a b steady fits, offer_fits o a steady fits]
    · have shorter : limit < (a ++ b).length := by
        rw [List.length_append]
        omega
      rw [offer_short o (a ++ b) limit steady room shorter, offer_short o a limit steady room short,
        List.take_append_of_le_length (Nat.le_of_lt short)]
  · rw [offer_stuck o a steady empty, offer_stuck o (a ++ b) steady (by simp [empty])]

/-- What an outlet makes of some bytes: it takes all of them, or stops behind the last that it can
take. -/
inductive Offered (o : Outlet) (bytes : Bytes) : Outlet × Option Halt → Prop where
  | whole : Offered o bytes (o.take bytes, none)
  | stopped (part : Bytes) (begins : part <+: bytes) (short : part ≠ bytes)
      (full : (o.take part).bound = some 0) :
      Offered o bytes (o.take part, some (o.take part).halt)

theorem offer_offered (o : Outlet) (bytes : Bytes) : Offered o bytes (o.offer bytes) := by
  fun_induction offer o bytes with
  | case1 o =>
      have offered : Offered o [] (o.take [], none) := .whole
      rwa [take_nil] at offered
  | case2 o b rest unbound => exact .whole
  | case3 o b rest stuck =>
      have offered : (o.take []).bound = some 0 →
          Offered o (b :: rest) (o.take [], some (o.take []).halt) :=
        .stopped [] List.nil_prefix (List.cons_ne_nil b rest).symm
      rw [take_nil] at offered
      exact offered stuck
  | case4 o b rest n bounded ih =>
      have parts : (b :: rest.take n) ++ rest.drop n = b :: rest := by simp
      generalize (o.take (b :: rest.take n)).offer (rest.drop n) = outcome at ih
      cases ih with
      | whole =>
          rw [take_take, parts]
          exact .whole
      | stopped part begins short full =>
          rw [take_take] at full ⊢
          refine .stopped _ ?_ ?_ full
          · rw [← parts]
            exact (List.prefix_append_right_inj _).mpr begins
          · rw [← parts]
            intro same
            exact short (List.append_cancel_left same)

end ErrorWording.Outlet
