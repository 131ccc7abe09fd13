import ErrorWording.Proofs.Units

set_option autoImplicit false

namespace ErrorWording.Utf8

def Continues (b : UInt8) : Prop := 0x80 ≤ b.toNat ∧ b.toNat ≤ 0xBF

/-- The well-formed sequences of the Unicode standard, each with its code point. -/
inductive Spells : Bytes → Nat → Prop where
  | one (a : UInt8) (range : a.toNat < 0x80) : Spells [a] a.toNat
  | two (a b : UInt8) (range : 0xC2 ≤ a.toNat ∧ a.toNat < 0xE0) (second : Continues b) :
      Spells [a, b] (a.toNat % 0x20 * 0x40 + b.toNat % 0x40)
  | three (a b c : UInt8) (range : 0xE0 ≤ a.toNat ∧ a.toNat < 0xF0) (second : Continues b)
      (notOverlong : a.toNat = 0xE0 → 0xA0 ≤ b.toNat)
      (notSurrogate : a.toNat = 0xED → b.toNat < 0xA0) (third : Continues c) :
      Spells [a, b, c] ((a.toNat % 0x10 * 0x40 + b.toNat % 0x40) * 0x40 + c.toNat % 0x40)
  | four (a b c d : UInt8) (range : 0xF0 ≤ a.toNat ∧ a.toNat < 0xF5) (second : Continues b)
      (notOverlong : a.toNat = 0xF0 → 0x90 ≤ b.toNat)
      (notPast : a.toNat = 0xF4 → b.toNat < 0x90) (third : Continues c) (fourth : Continues d) :
      Spells [a, b, c, d]
        (((a.toNat % 0x08 * 0x40 + b.toNat % 0x40) * 0x40 + c.toNat % 0x40) * 0x40 +
          d.toNat % 0x40)

theorem lead_by_value (a : UInt8) :
    lead a =
      if a.toNat < 0x80 then .whole (Char.ofNat a.toNat)
      else if a.toNat < 0xC2 then .stray
      else if a.toNat < 0xE0 then .opens ⟨a.toNat % 0x20, 0x80, 0xBF, 0⟩
      else if a.toNat = 0xE0 then .opens ⟨a.toNat % 0x10, 0xA0, 0xBF, 1⟩
      else if a.toNat = 0xED then .opens ⟨a.toNat % 0x10, 0x80, 0x9F, 1⟩
      else if a.toNat < 0xF0 then .opens ⟨a.toNat % 0x10, 0x80, 0xBF, 1⟩
      else if a.toNat = 0xF0 then .opens ⟨a.toNat % 0x08, 0x90, 0xBF, 2⟩
      else if a.toNat < 0xF4 then .opens ⟨a.toNat % 0x08, 0x80, 0xBF, 2⟩
      else if a.toNat = 0xF4 then .opens ⟨a.toNat % 0x08, 0x80, 0x8F, 2⟩
      else .stray := by
  simp only [lead, UInt8.lt_iff_toNat_lt, ← UInt8.toNat_inj]
  rfl

theorem within_by_value (low high b : UInt8) :
    low ≤ b ∧ b ≤ high ↔ low.toNat ≤ b.toNat ∧ b.toNat ≤ high.toNat := by
  simp only [UInt8.le_iff_toNat_le]

theorem lead_two (a : UInt8) (range : 0xC2 ≤ a.toNat ∧ a.toNat < 0xE0) :
    lead a = .opens ⟨a.toNat % 0x20, 0x80, 0xBF, 0⟩ := by
  rw [lead_by_value, if_neg (by omega), if_neg (by omega), if_pos range.2]

theorem lead_three (a : UInt8) (range : 0xE0 ≤ a.toNat ∧ a.toNat < 0xF0) :
    ∃ low high, lead a = .opens ⟨a.toNat % 0x10, low, high, 1⟩ ∧
      ∀ b : UInt8, low ≤ b ∧ b ≤ high ↔ Continues b ∧
        (a.toNat = 0xE0 → 0xA0 ≤ b.toNat) ∧ (a.toNat = 0xED → b.toNat < 0xA0) := by
  rw [lead_by_value, if_neg (by omega), if_neg (by omega), if_neg (by omega)]
  by_cases low : a.toNat = 0xE0
  · refine ⟨0xA0, 0xBF, if_pos low, fun b => ?_⟩
    simp only [within_by_value, Continues, UInt8.reduceToNat]
    omega
  by_cases high : a.toNat = 0xED
  · refine ⟨0x80, 0x9F, by rw [if_neg low, if_pos high], fun b => ?_⟩
    simp only [within_by_value, Continues, UInt8.reduceToNat]
    omega
  · refine ⟨0x80, 0xBF, by rw [if_neg low, if_neg high, if_pos range.2], fun b => ?_⟩
    simp only [within_by_value, Continues, UInt8.reduceToNat]
    omega

theorem lead_four (a : UInt8) (range : 0xF0 ≤ a.toNat ∧ a.toNat < 0xF5) :
    ∃ low high, lead a = .opens ⟨a.toNat % 0x08, low, high, 2⟩ ∧
      ∀ b : UInt8, low ≤ b ∧ b ≤ high ↔ Continues b ∧
        (a.toNat = 0xF0 → 0x90 ≤ b.toNat) ∧ (a.toNat = 0xF4 → b.toNat < 0x90) := by
  rw [lead_by_value, if_neg (by omega), if_neg (by omega), if_neg (by omega),
    if_neg (by omega), if_neg (by omega), if_neg (by omega)]
  by_cases low : a.toNat = 0xF0
  · refine ⟨0x90, 0xBF, if_pos low, fun b => ?_⟩
    simp only [within_by_value, Continues, UInt8.reduceToNat]
    omega
  by_cases high : a.toNat = 0xF4
  · refine ⟨0x80, 0x8F, by rw [if_neg low, if_neg (by omega), if_pos high], fun b => ?_⟩
    simp only [within_by_value, Continues, UInt8.reduceToNat]
    omega
  · refine ⟨0x80, 0xBF, by rw [if_neg low, if_pos (by omega)], fun b => ?_⟩
    simp only [within_by_value, Continues, UInt8.reduceToNat]
    omega

theorem lead_other (a : UInt8) (high : 0x80 ≤ a.toNat)
    (other : a.toNat < 0xC2 ∨ 0xF5 ≤ a.toNat) : lead a = .stray := by
  rw [lead_by_value, if_neg (by omega)]
  rcases other with low | past
  · rw [if_pos low]
  · rw [if_neg (by omega), if_neg (by omega), if_neg (by omega), if_neg (by omega),
      if_neg (by omega), if_neg (by omega), if_neg (by omega), if_neg (by omega)]

theorem continues_inside (bits more : Nat) (b : UInt8) :
    (⟨bits, 0x80, 0xBF, more⟩ : Begun).low ≤ b ∧ b ≤ (⟨bits, 0x80, 0xBF, more⟩ : Begun).high ↔
      Continues b := by
  simp only [UInt8.le_iff_toNat_le, Continues]
  simp

theorem spells_units (sequence rest : Bytes) (n : Nat) (spells : Spells sequence n) :
    units (sequence ++ rest) = some (Char.ofNat n) :: units rest := by
  cases spells with
  | one a range =>
      exact units_from_whole a _ rest (lead_below a (UInt8.lt_iff_toNat_lt.mpr range))
  | two a b range second =>
      change unitsFrom none (a :: b :: rest) = _
      rw [units_from_opens a _ _ (lead_two a range),
        units_from_last _ b rest ((continues_inside _ _ b).mpr second) rfl]
      rfl
  | three a b c range second notOverlong notSurrogate third =>
      obtain ⟨low, high, opens, inside⟩ := lead_three a range
      change unitsFrom none (a :: b :: c :: rest) = _
      rw [units_from_opens a _ _ opens,
        units_from_more _ b _ 0 ((inside b).mpr ⟨second, notOverlong, notSurrogate⟩) rfl,
        units_from_last _ c rest ((continues_inside _ _ c).mpr third) rfl]
      rfl
  | four a b c d range second notOverlong notPast third fourth =>
      obtain ⟨low, high, opens, inside⟩ := lead_four a range
      change unitsFrom none (a :: b :: c :: d :: rest) = _
      rw [units_from_opens a _ _ opens,
        units_from_more _ b _ 1 ((inside b).mpr ⟨second, notOverlong, notPast⟩) rfl,
        units_from_more _ c _ 0 ((continues_inside _ _ c).mpr third) rfl,
        units_from_last _ d rest ((continues_inside _ _ d).mpr fourth) rfl]
      rfl

def Gapless (found : List (Option Char)) : Prop := ∀ u ∈ found, u ≠ none

theorem open_goes_on (s : Begun) (bytes : Bytes) (gapless : Gapless (unitsFrom (some s) bytes)) :
    ∃ b rest, bytes = b :: rest ∧ s.low ≤ b ∧ b ≤ s.high := by
  cases bytes with
  | nil => exact absurd rfl (gapless none (by simp [unitsFrom, Decoder.finish]))
  | cons b rest =>
      refine ⟨b, rest, rfl, ?_⟩
      by_cases inside : s.low ≤ b ∧ b ≤ s.high
      · exact inside
      · rw [units_from_broken s b rest inside] at gapless
        exact absurd rfl (gapless none (by simp))

theorem open_stays_open (s : Begun) (bytes : Bytes) (more : Nat) (left : s.more = more + 1)
    (gapless : Gapless (unitsFrom (some s) bytes)) :
    ∃ b rest, bytes = b :: rest ∧ (s.low ≤ b ∧ b ≤ s.high) ∧
      Gapless (unitsFrom (some ⟨s.bitsWith b, 0x80, 0xBF, more⟩) rest) := by
  obtain ⟨b, rest, rfl, inside⟩ := open_goes_on s bytes gapless
  rw [units_from_more s b rest more inside left] at gapless
  exact ⟨b, rest, rfl, inside, gapless⟩

theorem gapless_spells (bytes : Bytes) (present : bytes ≠ []) (gapless : Gapless (units bytes)) :
    ∃ sequence n rest, bytes = sequence ++ rest ∧ Spells sequence n := by
  cases bytes with
  | nil => exact absurd rfl present
  | cons a bytes =>
      change Gapless (unitsFrom none (a :: bytes)) at gapless
      by_cases one : a.toNat < 0x80
      · exact ⟨[a], _, bytes, rfl, .one a one⟩
      by_cases two : 0xC2 ≤ a.toNat ∧ a.toNat < 0xE0
      · rw [units_from_opens a _ _ (lead_two a two)] at gapless
        obtain ⟨b, rest, rfl, second⟩ := open_goes_on _ _ gapless
        exact ⟨[a, b], _, rest, rfl, .two a b two ((continues_inside _ _ b).mp second)⟩
      by_cases three : 0xE0 ≤ a.toNat ∧ a.toNat < 0xF0
      · obtain ⟨low, high, opens, inside⟩ := lead_three a three
        rw [units_from_opens a _ _ opens] at gapless
        obtain ⟨b, tail, rfl, second, later⟩ := open_stays_open _ _ 0 rfl gapless
        obtain ⟨c, rest, rfl, third⟩ := open_goes_on _ _ later
        obtain ⟨continues, notOverlong, notSurrogate⟩ := (inside b).mp second
        exact ⟨[a, b, c], _, rest, rfl, .three a b c three continues notOverlong notSurrogate
          ((continues_inside _ _ c).mp third)⟩
      by_cases four : 0xF0 ≤ a.toNat ∧ a.toNat < 0xF5
      · obtain ⟨low, high, opens, inside⟩ := lead_four a four
        rw [units_from_opens a _ _ opens] at gapless
        obtain ⟨b, tail, rfl, second, later⟩ := open_stays_open _ _ 1 rfl gapless
        obtain ⟨c, tail, rfl, third, later⟩ := open_stays_open _ _ 0 rfl later
        obtain ⟨d, rest, rfl, fourth⟩ := open_goes_on _ _ later
        obtain ⟨continues, notOverlong, notPast⟩ := (inside b).mp second
        exact ⟨[a, b, c, d], _, rest, rfl, .four a b c d four continues notOverlong notPast
          ((continues_inside _ _ c).mp third) ((continues_inside _ _ d).mp fourth)⟩
      rw [units_from_stray a bytes (lead_other a (by omega) (by omega))] at gapless
      exact absurd rfl (gapless none (by simp))

theorem value_of_nat (n : Nat) (valid : n.isValidChar) : (Char.ofNat n).val.toNat = n := by
  rw [Char.ofNat, dif_pos valid]
  rfl

theorem byte_of_value (m : Nat) (a : UInt8) (same : m = a.toNat) : UInt8.ofNat m = a := by
  rw [same, UInt8.ofNat_toNat]

theorem spells_encode (sequence : Bytes) (n : Nat) (spells : Spells sequence n) :
    String.utf8EncodeChar (Char.ofNat n) = sequence := by
  cases spells with
  | one a range =>
      rw [String.utf8EncodeChar, value_of_nat _ (.inl (by omega)), if_pos (by omega),
        byte_of_value _ a rfl]
  | two a b range second =>
      unfold Continues at second
      rw [String.utf8EncodeChar, value_of_nat _ (.inl (by omega)), if_neg (by omega),
        if_pos (by omega), byte_of_value _ a (by omega), byte_of_value _ b (by omega)]
  | three a b c range second notOverlong notSurrogate third =>
      unfold Continues at second third
      rw [String.utf8EncodeChar, value_of_nat _ (by unfold Nat.isValidChar; omega),
        if_neg (by omega), if_neg (by omega), if_pos (by omega), byte_of_value _ a (by omega),
        byte_of_value _ b (by omega), byte_of_value _ c (by omega)]
  | four a b c d range second notOverlong notPast third fourth =>
      unfold Continues at second third fourth
      rw [String.utf8EncodeChar, value_of_nat _ (.inr (by omega)), if_neg (by omega),
        if_neg (by omega), if_neg (by omega), byte_of_value _ a (by omega),
        byte_of_value _ b (by omega), byte_of_value _ c (by omega), byte_of_value _ d (by omega)]

theorem value_of_byte (m : Nat) (fits : m < 0x100) : (UInt8.ofNat m).toNat = m :=
  UInt8.toNat_ofNat_of_lt' fits

theorem continues_byte (m : Nat) : Continues (UInt8.ofNat (m % 0x40 + 0x80)) := by
  rw [Continues, value_of_byte _ (by omega)]
  omega

theorem spells_same (sequence : Bytes) (m n : Nat) (spells : Spells sequence m) (same : m = n) :
    Spells sequence n :=
  same ▸ spells

theorem encode_spells (c : Char) : Spells (String.utf8EncodeChar c) c.val.toNat := by
  have valid := c.valid
  simp only [UInt32.isValidChar, Nat.isValidChar] at valid
  rw [String.utf8EncodeChar]
  generalize c.val.toNat = n at valid
  by_cases one : n ≤ 0x7F
  · have first := value_of_byte n (by omega)
    rw [if_pos one]
    exact spells_same _ _ n (.one _ (by omega)) first
  have last := value_of_byte (n % 0x40 + 0x80) (by omega)
  by_cases two : n ≤ 0x7FF
  · have first := value_of_byte (n / 64 % 0x20 + 0xC0) (by omega)
    rw [if_neg one, if_pos two]
    exact spells_same _ _ n (.two _ _ (by omega) (continues_byte n)) (by omega)
  have third := value_of_byte (n / 64 % 0x40 + 0x80) (by omega)
  by_cases three : n ≤ 0xFFFF
  · have first := value_of_byte (n / 4096 % 0x10 + 0xE0) (by omega)
    rw [if_neg one, if_neg two, if_pos three]
    exact spells_same _ _ n (.three _ _ _ (by omega) (continues_byte _) (by omega) (by omega)
      (continues_byte n)) (by omega)
  · have first := value_of_byte (n / 262144 % 0x08 + 0xF0) (by omega)
    have second := value_of_byte (n / 4096 % 0x40 + 0x80) (by omega)
    rw [if_neg one, if_neg two, if_neg three]
    exact spells_same _ _ n (.four _ _ _ _ (by omega) (continues_byte _) (by omega) (by omega)
      (continues_byte _) (continues_byte n)) (by omega)

theorem units_encode (text : List Char) (rest : Bytes) :
    units (encode text ++ rest) = text.map some ++ units rest := by
  induction text with
  | nil => rfl
  | cons c text ih =>
      rw [encode, List.flatMap_cons, List.append_assoc,
        spells_units _ _ _ (encode_spells c)]
      rw [show Char.ofNat c.val.toNat = c from Char.ofNat_toNat c, List.map_cons,
        List.cons_append]
      exact congrArg (some c :: ·) ih

theorem units_spelled (text : List Char) : units (encode text) = text.map some := by
  have spelled := units_encode text []
  rwa [List.append_nil, show units [] = [] from rfl, List.append_nil] at spelled

@[simp] theorem decode_encode (text : List Char) : decode? (encode text) = some text := by
  simp [decode?, units_spelled, List.filterMap_map]

theorem gapless_encode (bytes : Bytes) (gapless : Gapless (units bytes)) :
    encode ((units bytes).filterMap id) = bytes := by
  by_cases present : bytes = []
  · subst bytes
    rfl
  · obtain ⟨sequence, n, rest, rfl, spells⟩ := gapless_spells bytes present gapless
    rw [spells_units sequence rest n spells] at gapless ⊢
    have smaller : rest.length < (sequence ++ rest).length := by
      cases spells <;> simp <;> omega
    have ih := gapless_encode rest (fun u member => gapless u (List.mem_cons_of_mem _ member))
    change encode (Char.ofNat n :: (units rest).filterMap id) = sequence ++ rest
    rw [encode, List.flatMap_cons, spells_encode sequence n spells]
    exact congrArg (sequence ++ ·) ih
termination_by bytes.length

theorem decode_some_iff (bytes : Bytes) (text : List Char) :
    decode? bytes = some text ↔ bytes = encode text := by
  constructor
  · intro decoded
    unfold decode? at decoded
    by_cases whole : (units bytes).all Option.isSome
    · rw [if_pos whole, Option.some.injEq] at decoded
      have gapless : Gapless (units bytes) := by
        intro u member absent
        simpa [absent] using List.all_eq_true.mp whole u member
      rw [← decoded, gapless_encode bytes gapless]
    · simp [whole] at decoded
  · rintro rfl
    exact decode_encode text

theorem encode_nil_iff (text : List Char) : encode text = [] ↔ text = [] := by
  rw [eq_comm, ← decode_some_iff, show decode? [] = some [] from rfl, Option.some.injEq, eq_comm]

theorem decode_none_iff (bytes : Bytes) :
    decode? bytes = none ↔ ∀ text, bytes ≠ encode text := by
  constructor
  · rintro absent text rfl
    simp at absent
  · intro foreign
    cases decoded : decode? bytes with
    | none => rfl
    | some text => exact absurd ((decode_some_iff bytes text).mp decoded) (foreign text)

end ErrorWording.Utf8
