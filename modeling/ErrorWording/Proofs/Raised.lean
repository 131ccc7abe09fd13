import ErrorWording.Linter
import ErrorWording.Proofs.Event

set_option autoImplicit false

namespace ErrorWording

theorem not_mem_decimal (n : Nat) (c : Char) (other : ¬ c.isDigit) :
    c ∉ (toString n).toList := by
  rw [Nat.toString_eq_ofList_toDigits, String.toList_ofList]
  exact fun member => other (Nat.isDigit_of_mem_toDigits (by decide) (by decide) member)

inductive Fault.Raised : Fault → Prop where
  | code (number : Nat) : Raised (.code number)
  | bare (kind : Fault.Kind) : Raised (.bare kind)
  | undecodable : Raised .undecodable
  | nulInPath : Raised .nulInPath

namespace Fault

def Absent (c : Char) : Prop :=
  c = ':' ∨ c = '\n'

theorem decimal_free (n : Nat) (c : Char) (absent : Absent c) : c ∉ (toString n).toList := by
  refine not_mem_decimal n c ?_
  rcases absent with rfl | rfl <;> decide

theorem kind_text_free (kind : Kind) (c : Char) (absent : Absent c) : c ∉ kind.text.toList := by
  rcases absent with rfl | rfl <;> cases kind <;> decide

theorem describe_code_free (number : Nat) (c : Char) (absent : Absent c) :
    c ∉ (describeCode number).2.toList := by
  have digits := decimal_free number c absent
  unfold describeCode
  split
  -- A code without a text of its own is written out in digits.
  case h_18 =>
    simp only [String.toList_append, List.mem_append, not_or]
    refine ⟨?_, digits⟩
    rcases absent with rfl | rfl <;> decide
  all_goals rcases absent with rfl | rfl <;> decide

theorem raised_free (f : Fault) (raised : f.Raised) (c : Char) (absent : Absent c) :
    c ∉ f.text.toList := by
  cases raised with
  | code number =>
      have digits := decimal_free number c absent
      have description := describe_code_free number c absent
      have opening : c ∉ " (os error ".toList := by rcases absent with rfl | rfl <;> decide
      have closing : c ∉ ")".toList := by rcases absent with rfl | rfl <;> decide
      unfold text
      simp only [String.toList_append, List.mem_append, not_or]
      exact ⟨⟨⟨description, opening⟩, digits⟩, closing⟩
  | bare kind => exact kind_text_free kind c absent
  | undecodable => rcases absent with rfl | rfl <;> decide
  | nulInPath => rcases absent with rfl | rfl <;> decide

end Fault

theorem Path.fault_raised (p : Path) (f : Fault) (unfit : p.fault? = some f) : f.Raised := by
  unfold fault? at unfit
  by_cases nul : 0 ∈ p.bytes
  · rw [if_pos nul] at unfit
    exact Option.some.inj unfit ▸ .nulInPath
  by_cases empty : p.bytes = []
  · rw [if_neg nul, if_pos empty] at unfit
    exact Option.some.inj unfit ▸ .code 2
  by_cases long : lengthBound ≤ p.bytes.length
  · rw [if_neg nul, if_neg empty, if_pos long] at unfit
    exact Option.some.inj unfit ▸ .code 36
  · rw [if_neg nul, if_neg empty, if_neg long] at unfit
    cases unfit

namespace Store

theorem descend_raises (s : Store) (purpose : Purpose)
    (follow : Location → List Name → Except Fault Target)
    (jump : ∀ dir names f, follow dir names = .error f → f.Raised) (names : List Name)
    (dir : Location) (f : Fault) (failed : s.descend purpose follow dir names = .error f) :
    f.Raised := by
  fun_induction s.descend purpose follow dir names
  case case1 | case6 | case10 | case12 => cases failed
  case case3 ih | case4 ih | case8 ih => exact ih failed
  case case9 => exact jump _ _ _ failed
  case case2 =>
    cases failed
    exact .code 21
  case case5 =>
    cases failed
    exact .code 36
  case case7 =>
    cases failed
    exact .code 2
  case case11 | case13 =>
    cases failed
    exact .code 20

theorem walk_raises (s : Store) (purpose : Purpose) (links : Nat) (dir : Location)
    (names : List Name) (f : Fault) (failed : s.walk purpose links dir names = .error f) :
    f.Raised := by
  induction links generalizing dir names f with
  | zero =>
      refine s.descend_raises purpose _ ?_ names dir f failed
      intro _ _ f stuck
      cases stuck
      exact .code 40
  | succ links ih => exact s.descend_raises purpose _ ih names dir f failed

theorem resolve_raises (s : Store) (purpose : Purpose) (p : Path) (f : Fault)
    (failed : s.resolve purpose p = .error f) : f.Raised := by
  unfold resolve at failed
  cases unfit : p.fault? with
  | none =>
      rw [unfit] at failed
      exact s.walk_raises purpose _ _ _ f failed
  | some g =>
      rw [unfit] at failed
      cases failed
      exact p.fault_raised _ unfit

def Raises : Except Fault (List Delivery) → Prop
  | .error f => f.Raised
  | .ok deliveries => ∀ f, .failure f ∈ deliveries → f.Raised

theorem read_raises (s : Store) (p : Path) : Raises (s.read p) := by
  have alone (f : Fault) (raised : f.Raised) : Raises (.ok [.failure f]) := by
    intro g member
    cases List.mem_singleton.mp member
    exact raised
  unfold read
  cases led : s.resolve .reading p with
  | error f => exact s.resolve_raises .reading p f led
  | ok target =>
      cases target with
      | file l content =>
          intro f member
          cases List.mem_singleton.mp member
      | directory l => exact alone _ (.code 21)
      | device d =>
          cases d with
          | null =>
              intro f member
              cases member
          | full => exact alone _ (.code 12)
      | free l => exact Fault.Raised.code 2

end Store

namespace Scan

theorem end_line_fault (w : Wording) (s : Scan) (f : Fault) (failed : s.endLine w = .error f) :
    f = .undecodable := by
  unfold endLine at failed
  cases decoded : Utf8.decode? s.unfinished.reverse with
  | none =>
      rw [decoded] at failed
      exact (Except.error.inj failed).symm
  | some line => simp [decoded] at failed

theorem take_byte_fault (w : Wording) (s : Scan) (b : UInt8) (f : Fault)
    (failed : s.takeByte w b = .error f) : f = .undecodable := by
  unfold takeByte at failed
  by_cases fed : b = feed
  · rw [if_pos fed] at failed
    exact end_line_fault w s f failed
  · simp [fed] at failed

theorem bind_fault {α : Type} (result : Except Fault Scan) (next : Scan → Except Fault α)
    (f : Fault) (failed : result.bind next = .error f) :
    result = .error f ∨ ∃ t, result = .ok t ∧ next t = .error f := by
  cases result with
  | error g =>
      cases failed
      exact .inl rfl
  | ok t => exact .inr ⟨t, rfl, failed⟩

theorem follow_fault (w : Wording) (s : Scan) (events : List Event) (f : Fault)
    (failed : s.follow w events = .error f) : f = .undecodable ∨ .failure f ∈ events := by
  induction events generalizing s with
  | nil =>
      rw [follow, drain] at failed
      cases held : s.unfinished with
      | nil => simp [held] at failed
      | cons b rest =>
          rw [held] at failed
          rcases bind_fault _ _ f failed with ended | ⟨t, -, done⟩
          · exact .inl (end_line_fault w s f ended)
          · cases done
  | cons event rest ih =>
      cases event with
      | byte b =>
          rw [follow] at failed
          rcases bind_fault _ _ f failed with taken | ⟨t, -, later⟩
          · exact .inl (take_byte_fault w s b f taken)
          · exact (ih t later).imp_right (List.mem_cons_of_mem _)
      | pause =>
          rw [follow] at failed
          cases held : s.unfinished with
          | nil => simp [held] at failed
          | cons b line =>
              rw [held] at failed
              rcases bind_fault _ _ f failed with ended | ⟨t, -, later⟩
              · exact .inl (end_line_fault w s f ended)
              · exact (ih t later).imp_right (List.mem_cons_of_mem _)
      | failure g =>
          cases failed
          exact .inr List.mem_cons_self

end Scan

theorem mem_events_failure (deliveries : List Delivery) (f : Fault)
    (member : .failure f ∈ eventsOf deliveries) : .failure f ∈ deliveries := by
  obtain ⟨delivery, delivered, event⟩ := List.mem_flatMap.mp member
  cases delivery with
  | bytes b => simp [Delivery.events] at event
  | pause => simp [Delivery.events] at event
  | failure g =>
      by_cases again : g.kind = .interrupted
      · simp [Delivery.events, again] at event
      · obtain rfl : f = g := by simpa [Delivery.events, again] using event
        exact delivered

namespace Wording

theorem scan_fault (w : Wording) (deliveries : List Delivery) (f : Fault)
    (failed : w.scanDeliveries deliveries = .error f) :
    f = .undecodable ∨ .failure f ∈ deliveries := by
  rw [scanDeliveries, Scan.drain_follow] at failed
  exact (Scan.follow_fault w _ _ f failed).imp_right (mem_events_failure deliveries f)

theorem inspect_fault_free (w : Wording) (s : Store) (p : Path) (f : ScanFault)
    (failed : w.inspect s p = .error f) (c : Char) (absent : Fault.Absent c) :
    c ∉ f.text.toList := by
  have raises := s.read_raises p
  unfold inspect judge at failed
  cases opened : s.read p with
  | error g =>
      rw [opened] at failed raises
      cases failed
      unfold ScanFault.ofFault
      by_cases missing : g.kind = .notFound
      · rw [if_pos missing]
        rcases absent with rfl | rfl <;> decide
      · rw [if_neg missing]
        exact g.raised_free raises c absent
  | ok deliveries =>
      rw [opened] at failed raises
      cases scanned : w.scanDeliveries deliveries with
      | ok found => simp [scanned] at failed
      | error g =>
          simp only [scanned] at failed
          cases failed
          rcases w.scan_fault deliveries g scanned with rfl | source
          · exact Fault.raised_free _ .undecodable c absent
          · exact g.raised_free (raises g source) c absent

end Wording

end ErrorWording
