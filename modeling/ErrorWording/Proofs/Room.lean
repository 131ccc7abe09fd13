import ErrorWording.Outlet

set_option autoImplicit false

namespace ErrorWording.Outlet

@[simp] theorem take_nil (o : Outlet) : o.take [] = o := by
  obtain ⟨perCall, room, refusal, flushFault, reversed⟩ := o
  cases room <;> rfl

@[simp] theorem take_take (o : Outlet) (a b : Bytes) : (o.take a).take b = o.take (a ++ b) := by
  obtain ⟨perCall, room, refusal, flushFault, reversed⟩ := o
  cases room with
  | none => simp [take]
  | some r => simp [take, Nat.sub_sub]

/-- An outlet whose calls may take nothing does not get on even with room left. -/
def Steady (o : Outlet) : Prop := o.perCall ≠ some 0

def Fits (o : Outlet) (bytes : Bytes) : Prop := ∀ r, o.room = some r → bytes.length ≤ r

theorem fits_take (o : Outlet) (a b : Bytes) (fits : o.Fits (a ++ b)) : (o.take a).Fits b := by
  intro r room
  obtain ⟨whole, full, rfl⟩ := Option.map_eq_some_iff.mp room
  have bound := fits whole full
  rw [List.length_append] at bound
  omega

theorem bound_zero (o : Outlet) (steady : o.Steady) (stuck : o.bound = some 0) :
    o.room = some 0 := by
  obtain ⟨perCall, room, refusal, flushFault, reversed⟩ := o
  cases perCall with
  | none => exact stuck
  | some a =>
      have positive : a ≠ 0 := fun zero => steady (congrArg some zero)
      cases room with
      | none => exact absurd (Option.some.inj stuck) positive
      | some b =>
          have least : min a b = 0 := Option.some.inj stuck
          exact congrArg some (by omega)

theorem offer_fits (o : Outlet) (bytes : Bytes) (steady : o.Steady) (fits : o.Fits bytes) :
    o.offer bytes = (o.take bytes, none) := by
  fun_induction offer o bytes with
  | case1 o => rw [take_nil]
  | case2 o b rest unbound => rfl
  | case3 o b rest stuck =>
      have none : (b :: rest).length ≤ 0 := fits 0 (bound_zero o steady stuck)
      simp at none
  | case4 o b rest n bounded ih =>
      have parts : b :: rest = (b :: rest.take n) ++ rest.drop n := by simp
      have left : (o.take (b :: rest.take n)).Fits (rest.drop n) := by
        rw [parts] at fits
        exact fits_take o _ _ fits
      rw [ih steady left, take_take, ← parts]

structure TakesAll (o : Outlet) : Prop where
  steady : o.Steady
  roomless : o.room = none
  flushes : o.flushFault = none

theorem boundless_takes_all : boundless.TakesAll :=
  ⟨by simp [Steady, boundless], rfl, rfl⟩

theorem offer_takes_all (o : Outlet) (bytes : Bytes) (takes : o.TakesAll) :
    o.offer bytes = (o.take bytes, none) :=
  offer_fits o bytes takes.steady (by simp [Fits, takes.roomless])

theorem take_takes_all (o : Outlet) (bytes : Bytes) (takes : o.TakesAll) :
    (o.take bytes).TakesAll :=
  ⟨takes.steady, by simp [take, takes.roomless], takes.flushes⟩

end ErrorWording.Outlet
