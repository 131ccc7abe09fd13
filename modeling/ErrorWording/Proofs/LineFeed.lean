import ErrorWording.Proofs.Readback

set_option autoImplicit false

namespace ErrorWording

namespace Utf8

theorem newline_byte (b : UInt8) (below : b < 0x80) (same : Char.ofNat b.toNat = '\n') :
    b = Scan.feed := by
  have valid : b.toNat.isValidChar := .inl (by
    have small := UInt8.lt_iff_toNat_lt.mp below
    simp only [UInt8.reduceToNat] at small
    omega)
  have value := value_of_nat b.toNat valid
  rw [same] at value
  exact UInt8.toNat_inj.mp value.symm

theorem lead_newline (b : UInt8) (means : lead b = .whole '\n') : b = Scan.feed := by
  by_cases below : b < 0x80
  · rw [lead_below b below, Lead.whole.injEq] at means
    exact newline_byte b below means
  · rw [lead, if_neg below] at means
    repeat' split at means
    all_goals cases means

theorem high_not_newline (n : Nat) (high : 0x80 ≤ n) : Char.ofNat n ≠ '\n' := by
  intro same
  by_cases valid : n.isValidChar
  · have value : 10 = n := by
      rw [← value_of_nat n valid, same]
      rfl
    omega
  · rw [Char.ofNat, dif_neg valid] at same
    exact absurd same (by decide)

/-- An open sequence spells no character that one byte would spell. -/
def Begun.Long (s : Begun) : Prop :=
  ∀ b, s.low ≤ b → b ≤ s.high → if s.more = 0 then 0x80 ≤ s.bitsWith b else 2 ≤ s.bitsWith b

theorem long_more (bits more : Nat) (low high : UInt8) (enough : 2 ≤ bits) :
    Begun.Long ⟨bits, low, high, more⟩ := by
  intro b _ _
  simp only [Begun.bitsWith]
  split <;> omega

theorem lead_long (b : UInt8) (s : Begun) (means : lead b = .opens s) : s.Long := by
  rw [lead_by_value] at means
  repeat' split at means
  all_goals cases means
  all_goals
    intro c low high
    rw [UInt8.le_iff_toNat_le] at low high
    simp only [Begun.bitsWith, UInt8.reduceToNat] at low high ⊢
    split <;> omega

structure Decoder.Unfed (d : Decoder) : Prop where
  free : some '\n' ∉ d.units
  long : ∀ s, d.begun = some s → s.Long

theorem start_unfed (units : List (Option Char)) (b : UInt8) (other : b ≠ Scan.feed)
    (free : some '\n' ∉ units) : (Decoder.start units b).Unfed := by
  unfold Decoder.start
  cases means : lead b with
  | whole c =>
      have unlike : '\n' ≠ c := by
        rintro rfl
        exact other (lead_newline b means)
      exact ⟨by simp [unlike, free], by simp⟩
  | opens s =>
      refine ⟨free, ?_⟩
      rintro _ ⟨⟩
      exact lead_long b s means
  | stray => exact ⟨by simpa using free, by simp⟩

theorem step_unfed (d : Decoder) (b : UInt8) (other : b ≠ Scan.feed) (unfed : d.Unfed) :
    (d.step b).Unfed := by
  obtain ⟨units, begun⟩ := d
  cases begun with
  | none => exact start_unfed units b other unfed.free
  | some s =>
      have long := unfed.long s rfl
      simp only [Decoder.step]
      by_cases inside : s.low ≤ b ∧ b ≤ s.high
      · have value := long b inside.1 inside.2
        rw [if_pos inside]
        cases left : s.more with
        | zero =>
            rw [left, if_pos rfl] at value
            exact ⟨by simp [unfed.free, Ne.symm (high_not_newline _ value)], by simp⟩
        | succ more =>
            rw [left, if_neg (by simp)] at value
            refine ⟨unfed.free, ?_⟩
            rintro _ ⟨⟩
            exact long_more _ more _ _ value
      · rw [if_neg inside]
        exact start_unfed _ b other (by simpa using unfed.free)

theorem fold_unfed (bytes : Bytes) (d : Decoder) (free : Scan.feed ∉ bytes) (unfed : d.Unfed) :
    (bytes.foldl Decoder.step d).Unfed := by
  induction bytes generalizing d with
  | nil => exact unfed
  | cons b rest ih =>
      rw [List.mem_cons, not_or] at free
      exact ih (d.step b) free.2 (step_unfed d b (Ne.symm free.1) unfed)

theorem newline_unit_iff (bytes : Bytes) : some '\n' ∈ units bytes ↔ Scan.feed ∈ bytes := by
  constructor
  · intro member
    by_cases fed : Scan.feed ∈ bytes
    · exact fed
    · have start : Decoder.fresh.Unfed := ⟨by simp [Decoder.fresh], by simp [Decoder.fresh]⟩
      have free := (fold_unfed bytes .fresh fed start).free
      unfold units Decoder.finish at member
      split at member
      · exact absurd (List.mem_reverse.mp member) free
      · exact absurd (by simpa using member) free
  · intro member
    obtain ⟨a, b, rfl⟩ := List.append_of_mem member
    rw [units_append_below a b Scan.feed (by decide)]
    exact List.mem_append_right _ List.mem_cons_self

end Utf8

theorem Path.newline_display_iff (p : Path) :
    '\n' ∈ p.display.toList ↔ Scan.feed ∈ p.bytes := by
  rw [← Utf8.newline_unit_iff, display, Utf8.lossy, String.toList_ofList, List.mem_map]
  constructor
  · rintro ⟨unit, member, shown⟩
    cases unit with
    | none => exact absurd shown (by decide)
    | some c =>
        obtain rfl : c = '\n' := shown
        exact member
  · exact fun member => ⟨_, member, rfl⟩

theorem newline_decimal (n : Nat) : '\n' ∉ (toString n).toList :=
  not_mem_decimal n '\n' (by decide)

theorem Wording.check_unbroken (w : Wording) (number : Nat) (line : List Char) (v : Violation)
    (found : w.check number line = some v) (unbroken : '\n' ∉ line) : '\n' ∉ v.text.toList := by
  obtain ⟨before, literal, after, first, _, rfl⟩ := (w.check_some_iff number line v).mp found
  rw [String.toList_ofList]
  intro member
  exact unbroken (by simp [Call.cut_whole line before literal after first.cut, member])

namespace Diagnostic

theorem newline_complaint_iff (w : Wording) (v : Violation) (unbroken : '\n' ∉ v.text.toList) :
    '\n' ∈ (w.complaint v).toList ↔ '\n' ∈ w.required.toList := by
  have opening : '\n' ∉ "Error message must start with \"".toList := by decide
  have middle : '\n' ∉ "\". Found: \"".toList := by decide
  have closing : '\n' ∉ "\"".toList := by decide
  unfold Wording.complaint
  simp only [String.toList_append, List.mem_append, opening, middle, closing, unbroken, false_or,
    or_false]

theorem newline_violation_iff (w : Wording) (p : Path) (v : Violation)
    (unbroken : '\n' ∉ v.text.toList) :
    '\n' ∈ (ofViolation w p v).render.toList ↔
      Scan.feed ∈ p.bytes ∨ '\n' ∈ w.required.toList := by
  have title : '\n' ∉ "::error title=Incorrect error message format,file=".toList := by decide
  have line : '\n' ∉ ",line=".toList := by decide
  have column : '\n' ∉ ",col=".toList := by decide
  have endLine : '\n' ∉ ",endLine=".toList := by decide
  have endColumn : '\n' ∉ ",endColumn=".toList := by decide
  have behind : '\n' ∉ "::".toList := by decide
  unfold ofViolation render
  simp only [String.toList_append, List.mem_append, title, line, column, endLine, endColumn, behind,
    newline_decimal, p.newline_display_iff, newline_complaint_iff w v unbroken, false_or, or_false]

theorem newline_fault_iff (p : Path) (f : ScanFault) (unbroken : '\n' ∉ f.text.toList) :
    '\n' ∈ (ofFault p f).render.toList ↔ Scan.feed ∈ p.bytes := by
  have remarked : '\n' ∉ (remark f).toList := by
    cases f with
    | missing => decide
    | unreadable f =>
        unfold remark
        rw [String.toList_append, List.mem_append, not_or]
        exact ⟨by decide, unbroken⟩
  have title : '\n' ∉ "::error file=".toList := by decide
  have behind : '\n' ∉ mark := by decide
  rw [render_fault]
  simp only [List.mem_append, title, behind, p.newline_display_iff, remarked, false_or, or_false]

theorem starts_append (start : List Char) (a b : String) (starts : start <+: a.toList) :
    start <+: (a ++ b).toList := by
  rw [String.toList_append]
  exact starts.trans (List.prefix_append _ _)

theorem render_starts (d : Diagnostic) : "::error ".toList <+: d.render.toList := by
  have titled : "::error ".toList <+:
      "::error title=Incorrect error message format,file=".toList := by decide
  have plain : "::error ".toList <+: "::error file=".toList := by decide
  cases d with
  | violation p v message =>
      unfold render
      iterate 11 refine starts_append _ _ _ ?_
      exact titled
  | missing p => exact starts_append _ _ _ (starts_append _ _ _ plain)
  | unreadable p reason =>
      exact starts_append _ _ _ (starts_append _ _ _ (starts_append _ _ _ plain))

end Diagnostic

end ErrorWording
