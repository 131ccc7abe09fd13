import ErrorWording.Text.Utf8

set_option autoImplicit false

namespace ErrorWording.Utf8

def unitsFrom (begun : Option Begun) (bytes : Bytes) : List (Option Char) :=
  (bytes.foldl Decoder.step ⟨[], begun⟩).finish

theorem start_shift (found : List (Option Char)) (b : UInt8) :
    Decoder.start found b =
      ⟨(Decoder.start [] b).units ++ found, (Decoder.start [] b).begun⟩ := by
  unfold Decoder.start
  cases lead b <;> rfl

theorem step_shift (found : List (Option Char)) (begun : Option Begun) (b : UInt8) :
    Decoder.step ⟨found, begun⟩ b =
      ⟨(Decoder.step ⟨[], begun⟩ b).units ++ found, (Decoder.step ⟨[], begun⟩ b).begun⟩ := by
  cases begun with
  | none => exact start_shift found b
  | some s =>
      simp only [Decoder.step]
      by_cases inside : s.low ≤ b ∧ b ≤ s.high
      · rw [if_pos inside, if_pos inside]
        cases s.more <;> rfl
      · rw [if_neg inside, if_neg inside, start_shift (none :: found), start_shift [none]]
        simp

theorem fold_finish (bytes : Bytes) (found : List (Option Char)) (begun : Option Begun) :
    (bytes.foldl Decoder.step ⟨found, begun⟩).finish = found.reverse ++ unitsFrom begun bytes := by
  induction bytes generalizing found begun with
  | nil => cases begun <;> simp [unitsFrom, Decoder.finish]
  | cons b rest ih =>
      have alone : unitsFrom begun (b :: rest) =
          (Decoder.step ⟨[], begun⟩ b).units.reverse ++
            unitsFrom (Decoder.step ⟨[], begun⟩ b).begun rest :=
        ih (Decoder.step ⟨[], begun⟩ b).units (Decoder.step ⟨[], begun⟩ b).begun
      rw [List.foldl_cons, step_shift, ih, alone]
      simp

theorem units_from_whole (b : UInt8) (c : Char) (rest : Bytes) (means : lead b = .whole c) :
    unitsFrom none (b :: rest) = some c :: unitsFrom none rest := by
  simp only [unitsFrom, List.foldl_cons, Decoder.step, Decoder.start, means]
  exact fold_finish rest [some c] none

theorem units_from_opens (b : UInt8) (s : Begun) (rest : Bytes) (means : lead b = .opens s) :
    unitsFrom none (b :: rest) = unitsFrom (some s) rest := by
  simp only [unitsFrom, List.foldl_cons, Decoder.step, Decoder.start, means]

theorem units_from_stray (b : UInt8) (rest : Bytes) (means : lead b = .stray) :
    unitsFrom none (b :: rest) = none :: unitsFrom none rest := by
  simp only [unitsFrom, List.foldl_cons, Decoder.step, Decoder.start, means]
  exact fold_finish rest [none] none

theorem units_from_last (s : Begun) (b : UInt8) (rest : Bytes)
    (inside : s.low ≤ b ∧ b ≤ s.high) (last : s.more = 0) :
    unitsFrom (some s) (b :: rest) = some (Char.ofNat (s.bitsWith b)) :: unitsFrom none rest := by
  simp only [unitsFrom, List.foldl_cons, Decoder.step, if_pos inside, last]
  exact fold_finish rest [some (Char.ofNat (s.bitsWith b))] none

theorem units_from_more (s : Begun) (b : UInt8) (rest : Bytes) (more : Nat)
    (inside : s.low ≤ b ∧ b ≤ s.high) (left : s.more = more + 1) :
    unitsFrom (some s) (b :: rest) = unitsFrom (some ⟨s.bitsWith b, 0x80, 0xBF, more⟩) rest := by
  simp only [unitsFrom, List.foldl_cons, Decoder.step, if_pos inside, left]

theorem units_from_broken (s : Begun) (b : UInt8) (rest : Bytes)
    (outside : ¬ (s.low ≤ b ∧ b ≤ s.high)) :
    unitsFrom (some s) (b :: rest) = none :: unitsFrom none (b :: rest) := by
  have shifted := fold_finish (b :: rest) [none] none
  simp only [List.foldl_cons, Decoder.step] at shifted
  simp only [unitsFrom, List.foldl_cons, Decoder.step, if_neg outside]
  exact shifted

theorem lead_below (b : UInt8) (below : b < 0x80) : lead b = .whole (Char.ofNat b.toNat) := by
  rw [lead, if_pos below]

theorem lead_low (b : UInt8) (s : Begun) (means : lead b = .opens s) : 0x80 ≤ s.low := by
  unfold lead at means
  repeat' split at means
  all_goals cases means <;> simp

def Decoder.AwaitsHigh (d : Decoder) : Prop :=
  ∀ s, d.begun = some s → 0x80 ≤ s.low

theorem start_awaits_high (found : List (Option Char)) (b : UInt8) :
    (Decoder.start found b).AwaitsHigh := by
  intro s begun
  unfold Decoder.start at begun
  cases means : lead b with
  | whole c => simp [means] at begun
  | stray => simp [means] at begun
  | opens t =>
      have same : t = s := by simpa [means] using begun
      exact same ▸ lead_low b t means

theorem step_awaits_high (d : Decoder) (b : UInt8) : (d.step b).AwaitsHigh := by
  obtain ⟨found, begun⟩ := d
  cases begun with
  | none => exact start_awaits_high found b
  | some s =>
      simp only [Decoder.step]
      by_cases inside : s.low ≤ b ∧ b ≤ s.high
      · rw [if_pos inside]
        intro t after
        cases left : s.more with
        | zero => simp [left] at after
        | succ more =>
            simp only [left, Option.some.injEq] at after
            rw [← after]
            exact UInt8.le_refl 0x80
      · rw [if_neg inside]
        exact start_awaits_high (none :: found) b

theorem fold_awaits_high (bytes : Bytes) (d : Decoder) (high : d.AwaitsHigh) :
    (bytes.foldl Decoder.step d).AwaitsHigh := by
  induction bytes generalizing d with
  | nil => exact high
  | cons b rest ih => exact ih (d.step b) (step_awaits_high d b)

theorem step_below (d : Decoder) (x : UInt8) (below : x < 0x80) (high : d.AwaitsHigh) :
    d.step x = ⟨some (Char.ofNat x.toNat) :: d.finish.reverse, none⟩ := by
  obtain ⟨found, begun⟩ := d
  cases begun with
  | none => simp [Decoder.step, Decoder.start, lead_below x below, Decoder.finish]
  | some s =>
      -- Every sequence that is open waits for a byte from 0x80 on.
      have outside : ¬ (s.low ≤ x ∧ x ≤ s.high) := by
        intro inside
        exact UInt8.not_le.mpr below (UInt8.le_trans (high s rfl) inside.1)
      simp [Decoder.step, outside, Decoder.start, lead_below x below, Decoder.finish]

theorem units_append_below (a b : Bytes) (x : UInt8) (below : x < 0x80) :
    units (a ++ x :: b) = units a ++ some (Char.ofNat x.toNat) :: units b := by
  have high : (a.foldl Decoder.step .fresh).AwaitsHigh :=
    fold_awaits_high a .fresh (by intro s begun; cases begun)
  rw [units, List.foldl_append, List.foldl_cons, step_below _ x below high, fold_finish]
  simp [units, unitsFrom, Decoder.fresh]

theorem decode_append_below (a b : Bytes) (x : UInt8) (below : x < 0x80) :
    decode? (a ++ x :: b) =
      (decode? a).bind fun s => (decode? b).map fun t => s ++ Char.ofNat x.toNat :: t := by
  unfold decode?
  rw [units_append_below a b x below]
  cases left : (units a).all Option.isSome <;> cases right : (units b).all Option.isSome <;>
    simp [left, right]

end ErrorWording.Utf8
