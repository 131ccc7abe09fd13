set_option autoImplicit false

namespace ErrorWording

abbrev Bytes := List UInt8

namespace Utf8

structure Begun where
  bits : Nat
  low : UInt8
  high : UInt8
  more : Nat
deriving DecidableEq, Repr

inductive Lead where
  | whole (c : Char)
  | opens (sequence : Begun)
  | stray
deriving DecidableEq, Repr

def lead (b : UInt8) : Lead :=
  if b < 0x80 then .whole (Char.ofNat b.toNat)
  else if b < 0xC2 then .stray
  else if b < 0xE0 then .opens ⟨b.toNat % 0x20, 0x80, 0xBF, 0⟩
  -- The second bytes are narrowed here and below against overlong forms, surrogates and
  -- values past the last scalar value.
  else if b = 0xE0 then .opens ⟨b.toNat % 0x10, 0xA0, 0xBF, 1⟩
  else if b = 0xED then .opens ⟨b.toNat % 0x10, 0x80, 0x9F, 1⟩
  else if b < 0xF0 then .opens ⟨b.toNat % 0x10, 0x80, 0xBF, 1⟩
  else if b = 0xF0 then .opens ⟨b.toNat % 0x08, 0x90, 0xBF, 2⟩
  else if b < 0xF4 then .opens ⟨b.toNat % 0x08, 0x80, 0xBF, 2⟩
  else if b = 0xF4 then .opens ⟨b.toNat % 0x08, 0x80, 0x8F, 2⟩
  else .stray

def Begun.bitsWith (s : Begun) (b : UInt8) : Nat :=
  s.bits * 0x40 + b.toNat % 0x40

structure Decoder where
  units : List (Option Char)
  begun : Option Begun
deriving DecidableEq, Repr

def Decoder.fresh : Decoder := ⟨[], none⟩

def Decoder.start (units : List (Option Char)) (b : UInt8) : Decoder :=
  match lead b with
  | .whole c => ⟨some c :: units, none⟩
  | .opens s => ⟨units, some s⟩
  | .stray => ⟨none :: units, none⟩

def Decoder.step (d : Decoder) (b : UInt8) : Decoder :=
  match d.begun with
  | none => .start d.units b
  | some s =>
      if s.low ≤ b ∧ b ≤ s.high then
        match s.more with
        | 0 => ⟨some (Char.ofNat (s.bitsWith b)) :: d.units, none⟩
        | more + 1 => ⟨d.units, some ⟨s.bitsWith b, 0x80, 0xBF, more⟩⟩
      -- The byte ends the sequence as a gap and is read again as if it came first.
      else .start (none :: d.units) b

def Decoder.finish (d : Decoder) : List (Option Char) :=
  match d.begun with
  | none => d.units.reverse
  | some _ => (none :: d.units).reverse

/-- The characters that the bytes spell, with `none` for each gap. -/
def units (bytes : Bytes) : List (Option Char) :=
  (bytes.foldl Decoder.step .fresh).finish

def decode? (bytes : Bytes) : Option (List Char) :=
  if (units bytes).all Option.isSome then some ((units bytes).filterMap id) else none

def string? (bytes : Bytes) : Option String :=
  (decode? bytes).map String.ofList

def lossy (bytes : Bytes) : String :=
  String.ofList ((units bytes).map (·.getD '\uFFFD'))

/-- The displayed text cut around its gaps, each of which is a piece of its own. `held` is the text
since the last gap. -/
def stretches (held : List Char) : List (Option Char) → List (List Char)
  | [] => [held]
  | some c :: rest => stretches (held ++ [c]) rest
  | none :: rest => held :: ['\uFFFD'] :: stretches [] rest

theorem stretches_flatten (held : List Char) (units : List (Option Char)) :
    (stretches held units).flatten = held ++ units.map (·.getD '\uFFFD') := by
  induction units generalizing held with
  | nil => simp [stretches]
  | cons unit rest ih => cases unit <;> simp [stretches, ih]

def encode (text : List Char) : Bytes :=
  text.flatMap String.utf8EncodeChar

end Utf8

def bytesOf (text : String) : Bytes :=
  Utf8.encode text.toList

theorem bytes_of_appends (text : String) (others : List String) :
    bytesOf (others.foldl (· ++ ·) text) = bytesOf text ++ (others.map bytesOf).flatten := by
  induction others generalizing text with
  | nil => exact (List.append_nil _).symm
  | cons next rest ih =>
      rw [List.foldl_cons, ih, List.map_cons, List.flatten_cons, ← List.append_assoc]
      simp [bytesOf, Utf8.encode]

end ErrorWording
