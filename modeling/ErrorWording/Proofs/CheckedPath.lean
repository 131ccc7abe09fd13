import ErrorWording.Proofs.Ledger
import ErrorWording.Proofs.Strays
import ErrorWording.Proofs.Verdict

set_option autoImplicit false

namespace ErrorWording

def OnlyViolations (w : Wording) (p : Path) (given : List Diagnostic) : Prop :=
  ∀ d ∈ given, ∃ v, d = Diagnostic.ofViolation w p v

structure Told (w : Wording) (p : Path) (opened : Except Fault (List Delivery))
    (given : List Diagnostic) : Prop where
  violations : ∀ text, TurnsOut opened (.text text) →
    given = (w.scanText text).map (Diagnostic.ofViolation w p)
  judged : OnlyViolations w p given ↔ ∃ text, TurnsOut opened (.text text)
  missing : given = [.missing p] ↔ ∃ f, opened = .error f ∧ f.kind = .notFound
  unreadable : ∀ reason, given = [.unreadable p reason] ↔
    ∃ f, TurnsOut opened (.unreadable f) ∧ f.text = reason
  otherwise : (¬ ∃ text, TurnsOut opened (.text text)) →
    (¬ ∃ f, opened = .error f ∧ f.kind = .notFound) →
    ∃ f, TurnsOut opened (.unreadable f) ∧ given = [.unreadable p f.text]

theorem turns_missing_iff (opened : Except Fault (List Delivery)) :
    TurnsOut opened .missing ↔ ∃ f, opened = .error f ∧ f.kind = .notFound := by
  constructor
  · intro turns
    cases turns with
    | missing f unfound => exact ⟨f, rfl, unfound⟩
  · intro failed
    obtain ⟨f, rfl, unfound⟩ := failed
    exact .missing f unfound

theorem judged_iff (w : Wording) (p : Path) (verdict : Verdict) :
    OnlyViolations w p (verdict.diagnostics w p) ↔ ∃ text, verdict = .text text := by
  cases verdict with
  | text content =>
      refine iff_of_true ?_ ⟨content, rfl⟩
      intro d member
      obtain ⟨v, _, rfl⟩ := List.mem_map.mp member
      exact ⟨v, rfl⟩
  | missing => simp [OnlyViolations, Verdict.diagnostics, Diagnostic.ofViolation]
  | unreadable f => simp [OnlyViolations, Verdict.diagnostics, Diagnostic.ofViolation]

theorem single_missing_iff (w : Wording) (p : Path) (verdict : Verdict) :
    verdict.diagnostics w p = [.missing p] ↔ verdict = .missing := by
  cases verdict with
  | text content => simp [Verdict.diagnostics, Diagnostic.ofViolation, List.map_eq_singleton_iff]
  | missing => simp [Verdict.diagnostics]
  | unreadable f => simp [Verdict.diagnostics]

theorem single_unreadable_iff (w : Wording) (p : Path) (verdict : Verdict) (reason : String) :
    verdict.diagnostics w p = [.unreadable p reason] ↔
      ∃ f, verdict = .unreadable f ∧ f.text = reason := by
  cases verdict with
  | text content => simp [Verdict.diagnostics, Diagnostic.ofViolation, List.map_eq_singleton_iff]
  | missing => simp [Verdict.diagnostics]
  | unreadable f => simp [Verdict.diagnostics]

theorem diagnosed_iff (w : Wording) (p : Path) (opened : Except Fault (List Delivery))
    (lively : Lively opened) (shows : List Diagnostic → Prop) (holds : Verdict → Prop)
    (tells : ∀ verdict, shows (verdict.diagnostics w p) ↔ holds verdict) :
    shows (w.diagnose p (w.judge opened)) ↔ ∃ verdict, TurnsOut opened verdict ∧ holds verdict := by
  constructor
  · intro given
    obtain ⟨verdict, turns⟩ := turns_out_somehow opened lively
    rw [w.diagnose_verdict p opened verdict turns] at given
    exact ⟨verdict, turns, (tells verdict).mp given⟩
  · intro found
    obtain ⟨verdict, turns, held⟩ := found
    rw [w.diagnose_verdict p opened verdict turns]
    exact (tells verdict).mpr held

theorem told (w : Wording) (p : Path) (opened : Except Fault (List Delivery))
    (lively : Lively opened) : Told w p opened (w.diagnose p (w.judge opened)) := by
  refine ⟨?_, ?_, ?_, ?_, ?_⟩
  · intro text turns
    exact w.diagnose_verdict p opened _ turns
  · rw [diagnosed_iff w p opened lively (OnlyViolations w p) _ (judged_iff w p)]
    constructor
    · intro found
      obtain ⟨_, turns, text, rfl⟩ := found
      exact ⟨text, turns⟩
    · intro found
      obtain ⟨text, turns⟩ := found
      exact ⟨_, turns, text, rfl⟩
  · rw [diagnosed_iff w p opened lively (· = [.missing p]) _ (single_missing_iff w p)]
    simp only [exists_eq_right, turns_missing_iff]
  · intro reason
    have singles (verdict : Verdict) := single_unreadable_iff w p verdict reason
    rw [diagnosed_iff w p opened lively (· = [.unreadable p reason]) _ singles]
    constructor
    · intro found
      obtain ⟨_, turns, f, rfl, text⟩ := found
      exact ⟨f, turns, text⟩
    · intro found
      obtain ⟨f, turns, text⟩ := found
      exact ⟨_, turns, f, rfl, text⟩
  · intro noText noMissing
    obtain ⟨verdict, turns⟩ := turns_out_somehow opened lively
    cases verdict with
    | text content => exact absurd ⟨content, turns⟩ noText
    | missing => exact absurd ((turns_missing_iff opened).mp turns) noMissing
    | unreadable f => exact ⟨f, turns, w.diagnose_verdict p opened _ turns⟩

namespace Store

theorem read_lively (s : Store) (p : Path) : Lively (s.read p) := by
  rw [read]
  cases s.resolve .reading p with
  | error f => trivial
  | ok target =>
      cases target with
      | file l content => simp [Lively]
      | directory l => simp [Lively]
      | device d => cases d <;> simp [Lively]
      | free l => trivial

theorem reads_bytes (content : Bytes) : Reads [.bytes content] content none := by
  have reads := Reads.chunk content [] [] none .done
  rwa [List.append_nil] at reads

theorem turns_text_iff (deliveries : List Delivery) (content : Bytes) (ended : Option Fault)
    (reads : Reads deliveries content ended) (text : List Char) :
    TurnsOut (.ok deliveries) (.text text) ↔ content = Utf8.encode text ∧ ended = none := by
  constructor
  · intro turns
    cases turns with
    | text _ _ whole => exact reads_unique deliveries _ _ _ _ reads whole
  · intro spelled
    obtain ⟨rfl, rfl⟩ := spelled
    exact .text deliveries text reads

theorem read_text_iff (s : Store) (p : Path) (text : List Char) :
    TurnsOut (s.read p) (.text text) ↔
      (∃ l, s.resolve .reading p = .ok (.file l (Utf8.encode text))) ∨
        s.resolve .reading p = .ok (.device .null) ∧ text = [] := by
  have refused (f : Fault) : ¬ TurnsOut (.error f) (.text text) := by
    intro turns
    cases turns
  have failing (f : Fault) (lasting : f.kind ≠ .interrupted) :
      ¬ TurnsOut (.ok [.failure f]) (.text text) := by
    rw [turns_text_iff [.failure f] [] (some f) (.failed f [] lasting)]
    simp
  rw [read]
  cases s.resolve .reading p with
  | error f => simp [refused]
  | ok target =>
      cases target with
      | file l content => simp [turns_text_iff [.bytes content] content none (reads_bytes content)]
      | directory l => simp [failing .isADirectory (by decide)]
      | device d =>
          cases d with
          | null => simp [turns_text_iff [] [] none .done, Utf8.encode_nil_iff]
          | full => simp [failing .exhaustedMemory (by decide)]
      | free l => simp [refused]

theorem read_directory (s : Store) (p : Path) (l : Location)
    (led : s.resolve .reading p = .ok (.directory l)) :
    TurnsOut (s.read p) (.unreadable .isADirectory) := by
  have lasting : Fault.isADirectory.kind ≠ .interrupted := by decide
  rw [read, led]
  exact .broken [.failure .isADirectory] [] [] _ (.failed _ [] lasting) (.inl rfl) (by simp)

end Store

namespace Linter

theorem check_tells (r : Linter) (world : World) (p : Path) :
    Told r.wording p (world.store.read p) (r.check world p).2 ∧
      (∀ text, TurnsOut (world.store.read p) (.text text) ↔
        (∃ l, world.store.resolve .reading p = .ok (.file l (Utf8.encode text))) ∨
          world.store.resolve .reading p = .ok (.device .null) ∧ text = []) ∧
      ((r.check world p).2 = [.missing p] ↔ world.store.Lacks p) ∧
      (∀ l, world.store.resolve .reading p = .ok (.directory l) →
        (r.check world p).2 = [.unreadable p "Is a directory (os error 21)"]) ∧
      (r.check world p).1.store = world.store ∧ (r.scan world p).1.store = world.store ∧
      ∀ opened, Lively opened →
        Told r.wording p opened (r.wording.diagnose p (r.wording.judge opened)) := by
  have tells := told r.wording p (world.store.read p) (world.store.read_lively p)
  have checked : (r.check world p).2 =
      r.wording.diagnose p (r.wording.judge (world.store.read p)) := by
    rw [check_eq]
    rfl
  rw [checked]
  refine ⟨tells, world.store.read_text_iff p, ?_, ?_, ?_, r.scan_store world p, ?_⟩
  · rw [tells.missing, Store.read_missing_iff]
  · intro l led
    exact (tells.unreadable _).mpr ⟨_, world.store.read_directory p l led, by decide⟩
  · rw [check_eq]
    rfl
  · intro opened lively
    exact told r.wording p opened lively

/-- A file that fails behind a line with a violation, with the kind of fault that means a missing
file when one is opened. -/
def failingFile : Except Fault (List Delivery) :=
  .ok [.bytes (Utf8.encode (Call.opening ++ ['é', '"', '\n'])), .failure (.bare .notFound)]

theorem failing_file_unreadable : TurnsOut failingFile (.unreadable (.bare .notFound)) := by
  have failed := Reads.chunk (Utf8.encode (Call.opening ++ ['é', '"', '\n'])) [] _ _
    (.failed (.bare .notFound) [] (by decide))
  exact .broken _ _ [] _ failed (.inr (by decide)) (by decide)

def danglingWorld : World := { World.fresh with store := danglingLink }

theorem dangling_lacks : danglingLink.Lacks ⟨[0x73]⟩ :=
  .inr ⟨rfl, .link 39 _ _ _ ⟨[0x6F]⟩ ⟨by decide, by decide, by decide⟩ rfl
    (.absent 39 _ [0x6F] [] ⟨by decide, by decide, by decide⟩ rfl)⟩

theorem tells_link_and_failure :
    (standard.check danglingWorld ⟨[0x73]⟩).2 = [.missing ⟨[0x73]⟩] ∧
      Wording.standard.diagnose ⟨[0x73]⟩ (Wording.standard.judge failingFile) =
        [.unreadable ⟨[0x73]⟩ "entity not found"] := by
  obtain ⟨_, _, missing, _, _, _, told⟩ := check_tells standard danglingWorld ⟨[0x73]⟩
  have tells := told failingFile (by simp [Lively, failingFile])
  exact ⟨missing.mpr dangling_lacks, (tells.unreadable _).mpr ⟨_, failing_file_unreadable, rfl⟩⟩

end Linter
end ErrorWording
