import ErrorWording.Proofs.Position
import ErrorWording.Proofs.Raised
import ErrorWording.Proofs.Run

set_option autoImplicit false

namespace ErrorWording

theorem decimal_injective (n n' : Nat) (same : (toString n).toList = (toString n').toList) :
    n = n' := by
  have value := congrArg (Nat.ofDigitChars 10 · 0) same
  simpa [Nat.toString_eq_ofList_toDigits] using value

section Marks

variable {m a b a' b' : List Char}

theorem no_later_mark {c : List Char} (last : ¬ m <:+: m.tail ++ b)
    (same : m ++ b = c ++ (m ++ b')) : c = [] := by
  cases c with
  | nil => rfl
  | cons x c =>
      cases m with
      | nil => exact absurd List.nil_infix last
      | cons y m =>
          -- A later mark would lie behind the first character of this one.
          obtain ⟨-, rest⟩ := List.cons.inj same
          exact absurd ⟨c, b', by simpa using rest.symm⟩ last

theorem cut_last_mark (last : ¬ m <:+: m.tail ++ b) (last' : ¬ m <:+: m.tail ++ b')
    (same : a ++ m ++ b = a' ++ m ++ b') : a = a' ∧ b = b' := by
  rw [List.append_assoc, List.append_assoc] at same
  rcases List.append_eq_append_iff.mp same with ⟨c, front, back⟩ | ⟨c, front, back⟩
  · have nothing := no_later_mark last back
    subst nothing
    exact ⟨by simpa using front.symm, by simpa using back⟩
  · have nothing := no_later_mark last' back
    subst nothing
    exact ⟨by simpa using front, by simpa using back.symm⟩

theorem not_infix_of_fresh (c : Char) (member : c ∈ m) (fresh : c ∉ b) : ¬ m <:+: b :=
  fun inside => fresh (inside.subset member)

theorem cut_last_number {n n' : Nat} (starts : m.head? = some ',') (fresh : ',' ∉ m.tail)
    (same : a ++ m ++ (toString n).toList = a' ++ m ++ (toString n').toList) :
    a = a' ∧ n = n' := by
  have last (k : Nat) : ¬ m <:+: m.tail ++ (toString k).toList := by
    refine not_infix_of_fresh ',' (List.mem_of_mem_head? starts) ?_
    rw [List.mem_append, not_or]
    exact ⟨fresh, not_mem_decimal k ',' (by decide)⟩
  obtain ⟨front, digits⟩ := cut_last_mark (last n) (last n') same
  exact ⟨front, decimal_injective n n' digits⟩

theorem cut_quoted {opening closing : List Char} (words : List Char)
    (opens : opening = words ++ [Call.quote]) (closes : closing = [Call.quote])
    (free : Call.quote ∉ b) (free' : Call.quote ∉ b')
    (same : a ++ (m ++ opening ++ b ++ closing) = a' ++ (m ++ opening ++ b' ++ closing)) :
    a = a' ∧ b = b' := by
  have last (text : List Char) (unquoted : Call.quote ∉ text) :
      ¬ [Call.quote] <:+: [Call.quote].tail ++ text :=
    not_infix_of_fresh Call.quote List.mem_cons_self unquoted
  subst opens closes
  simp only [← List.append_assoc, List.append_cancel_right_eq] at same
  obtain ⟨front, text⟩ := cut_last_mark (last b free) (last b' free') same
  simp only [List.append_cancel_right_eq] at front
  exact ⟨front, text⟩

end Marks

def Path.IsText (p : Path) : Prop :=
  ∃ text, Utf8.decode? p.bytes = some text

namespace Path

theorem display_encode (text : List Char) :
    (⟨Utf8.encode text⟩ : Path).display.toList = text := by
  simp [display, Utf8.lossy, Utf8.units_spelled, List.map_map, Function.comp_def]

theorem display_injective (p q : Path) (left : p.IsText) (right : q.IsText)
    (same : p.display = q.display) : p = q := by
  obtain ⟨bytes⟩ := p
  obtain ⟨bytes'⟩ := q
  obtain ⟨text, decoded⟩ := left
  obtain ⟨other, decoded'⟩ := right
  obtain rfl := (Utf8.decode_some_iff bytes text).mp decoded
  obtain rfl := (Utf8.decode_some_iff bytes' other).mp decoded'
  have shown := congrArg String.toList same
  rw [display_encode, display_encode] at shown
  rw [shown]

end Path

namespace Diagnostic

def mark : List Char := [':', ':']

/-- The diagnostics of one wording at paths that are texts. What was found comes from a line, and
the text of a fault does not hold the mark. -/
inductive Arises (w : Wording) : Diagnostic → Prop where
  | violation (p : Path) (number : Nat) (line : List Char) (v : Violation) (spelled : p.IsText)
      (found : w.check number line = some v) : Arises w (.ofViolation w p v)
  | fault (p : Path) (f : ScanFault) (spelled : p.IsText) (unmarked : ¬ mark <:+: f.text.toList) :
      Arises w (.ofFault p f)

theorem complaint_injective (w : Wording) (a a' : List Char) (v v' : Violation)
    (free : Call.quote ∉ v.text.toList) (free' : Call.quote ∉ v'.text.toList)
    (same : a ++ (w.complaint v).toList = a' ++ (w.complaint v').toList) :
    a = a' ∧ v.text = v'.text := by
  unfold Wording.complaint at same
  simp only [String.toList_append] at same
  obtain ⟨front, text⟩ := cut_quoted "\". Found: ".toList (by decide) (by decide) free free' same
  exact ⟨front, String.toList_injective text⟩

theorem violation_injective (w : Wording) (p q : Path) (u v : Violation)
    (free : Call.quote ∉ u.text.toList) (free' : Call.quote ∉ v.text.toList)
    (same : (ofViolation w p u).render = (ofViolation w q v).render) :
    p.display = q.display ∧ u = v := by
  have place := congrArg String.toList same
  unfold ofViolation render at place
  simp only [String.toList_append] at place
  -- From the end: the remark, then the four numbers, and what is left is the path.
  obtain ⟨place, text⟩ := complaint_injective w _ _ u v free free' place
  rw [List.append_cancel_right_eq] at place
  obtain ⟨place, endColumn⟩ := cut_last_number (by decide) (by decide) place
  obtain ⟨place, -⟩ := cut_last_number (by decide) (by decide) place
  obtain ⟨place, column⟩ := cut_last_number (by decide) (by decide) place
  obtain ⟨place, line⟩ := cut_last_number (by decide) (by decide) place
  rw [List.append_cancel_left_eq] at place
  refine ⟨String.toList_injective place, ?_⟩
  cases u
  cases v
  simp_all

def remark : ScanFault → String
  | .missing => "File not found."
  | .unreadable f => "Error processing file: " ++ f.text

theorem render_fault (p : Path) (f : ScanFault) :
    (ofFault p f).render.toList =
      "::error file=".toList ++ p.display.toList ++ mark ++ (remark f).toList := by
  cases f with
  | missing =>
      have behind : "::File not found.".toList = mark ++ "File not found.".toList := by decide
      unfold ofFault render remark
      simp only [String.toList_append]
      rw [behind, ← List.append_assoc]
  | unreadable f =>
      have behind : "::Error processing file: ".toList =
          mark ++ "Error processing file: ".toList := by decide
      unfold ofFault render remark
      simp only [String.toList_append]
      rw [behind]
      simp only [List.append_assoc]

theorem mark_free_append (a b : List Char) (free : ¬ mark <:+: a) (ends : a.getLast? ≠ some ':')
    (free' : ¬ mark <:+: b) : ¬ mark <:+: a ++ b := by
  intro inside
  rcases List.infix_append_iff_ne_nil.mp inside with here | there | parted
  · exact free here
  · exact free' there
  · obtain ⟨l, r, left, -, cut, ⟨front, rfl⟩, -⟩ := parted
    -- Parted between the two, the mark leaves a colon at the end of the first.
    have member : l.getLast left ∈ mark := cut ▸ List.mem_append_left r (List.getLast_mem left)
    have colon : l.getLast left = ':' := by simpa [mark] using member
    exact ends (by simp [List.getLast?_append, List.getLast?_eq_some_getLast left, colon])

theorem remark_unmarked (f : ScanFault) (unmarked : ¬ mark <:+: f.text.toList) :
    ¬ mark <:+: mark.tail ++ (remark f).toList := by
  cases f with
  | missing => decide +kernel
  | unreadable f =>
      have free : ¬ mark <:+: mark.tail ++ "Error processing file: ".toList := by decide +kernel
      unfold remark
      rw [String.toList_append, ← List.append_assoc]
      exact mark_free_append _ _ free (by decide) unmarked

theorem remark_injective (p : Path) (f g : ScanFault) (same : remark f = remark g) :
    ofFault p f = ofFault p g := by
  have differ (text : String) : "File not found." ≠ "Error processing file: " ++ text := by
    intro same
    have first := congrArg (·.toList[0]?) same
    simp only [String.toList_append] at first
    rw [List.getElem?_append_left (by decide)] at first
    exact absurd first (by decide)
  unfold remark at same
  cases f with
  | missing =>
      cases g with
      | missing => rfl
      | unreadable g => exact absurd same (differ g.text)
  | unreadable f =>
      cases g with
      | missing => exact absurd same.symm (differ f.text)
      | unreadable g =>
          have texts : f.text = g.text := by
            have lists := congrArg String.toList same
            simp only [String.toList_append, List.append_cancel_left_eq] at lists
            exact String.toList_injective lists
          exact congrArg (unreadable p) texts

theorem fault_injective (p q : Path) (f g : ScanFault) (unmarked : ¬ mark <:+: f.text.toList)
    (unmarked' : ¬ mark <:+: g.text.toList)
    (same : (ofFault p f).render = (ofFault q g).render) :
    p.display = q.display ∧ ofFault p f = ofFault p g := by
  have place := congrArg String.toList same
  rw [render_fault, render_fault] at place
  obtain ⟨front, behind⟩ := cut_last_mark (remark_unmarked f unmarked)
    (remark_unmarked g unmarked') place
  rw [List.append_cancel_left_eq] at front
  exact ⟨String.toList_injective front, remark_injective p f g (String.toList_injective behind)⟩

theorem violation_ne_fault (w : Wording) (p q : Path) (v : Violation) (f : ScanFault) :
    (ofViolation w p v).render ≠ (ofFault q f).render := by
  intro same
  have place := congrArg String.toList same
  rw [render_fault] at place
  unfold ofViolation render at place
  simp only [String.toList_append, List.append_assoc] at place
  -- The titles part at the ninth character.
  have ninth := congrArg (·[8]?) place
  rw [List.getElem?_append_left (by decide), List.getElem?_append_left (by decide)] at ninth
  exact absurd ninth (by decide)

end Diagnostic

theorem Wording.check_unquoted (w : Wording) (number : Nat) (line : List Char) (v : Violation)
    (found : w.check number line = some v) : Call.quote ∉ v.text.toList := by
  obtain ⟨_, literal, _, first, _, rfl⟩ := (w.check_some_iff number line v).mp found
  rw [String.toList_ofList]
  exact first.cut.unquoted

namespace Diagnostic

theorem arises_apart (w : Wording) (a b : Diagnostic) (left : Arises w a) (right : Arises w b)
    (same : a.render = b.render) : a = b := by
  cases left with
  | violation p number line u spelled found =>
      have free := w.check_unquoted number line u found
      cases right with
      | violation q number' line' v spelled' found' =>
          have free' := w.check_unquoted number' line' v found'
          obtain ⟨shown, rfl⟩ := violation_injective w p q u v free free' same
          rw [Path.display_injective p q spelled spelled' shown]
      | fault q g _ _ => exact absurd same (violation_ne_fault w p q u g)
  | fault p f spelled unmarked =>
      cases right with
      | violation q _ _ v _ _ => exact absurd same.symm (violation_ne_fault w q p v f)
      | fault q g spelled' unmarked' =>
          obtain ⟨shown, equal⟩ := fault_injective p q f g unmarked unmarked' same
          rw [← Path.display_injective p q spelled spelled' shown, equal]

theorem raised_unmarked (f : Fault) (raised : f.Raised) : ¬ mark <:+: f.text.toList :=
  not_infix_of_fresh ':' List.mem_cons_self (Fault.raised_free f raised ':' (.inl rfl))

theorem rendered_apart (w : Wording) :
    (∀ a b, Arises w a → Arises w b → a.render = b.render → a = b) ∧
      ∀ f : Fault, f.Raised → ¬ mark <:+: f.text.toList :=
  ⟨arises_apart w, raised_unmarked⟩

theorem imitation_told_apart :
    let w : Wording := ⟨"\"so\""⟩
    let p : Path :=
      ⟨bytesOf "a,line=7,col=1::x\"\n::error file=b::File not found.\",line=2,col=13,endLine=2"⟩
    ∃ a b, ofViolation w p a = ofViolation w p b ∧
      w.check 2 (Call.opening ++ ['x', '"']) = some a ∧
      w.check 2 (Call.opening ++ ['x', '"', ')', '"']) = some b := by
  intro w p
  have spelled : p.IsText := ⟨_, Utf8.decode_encode _⟩
  have found : w.check 2 (Call.opening ++ ['x', '"']) = some ⟨2, 13, 13, "x"⟩ := by decide +kernel
  have again : w.check 2 (Call.opening ++ ['x', '"', ')', '"']) = some ⟨2, 13, 13, "x"⟩ := by
    decide +kernel
  exact ⟨_, _, (rendered_apart w).1 _ _ (.violation p 2 _ _ spelled found)
    (.violation p 2 _ _ spelled again) rfl, found, again⟩

end Diagnostic

theorem decided_unbroken (events : List Event) (texts : List (List Char)) (u : Unit)
    (decides : Decides events texts (.ok u)) (text : List Char) (member : text ∈ texts) :
    '\n' ∉ text := by
  cases decides with
  | finished lines _ spelled =>
      have among : Utf8.encode text ∈ lines.map LogicalLine.bytes :=
        spelled ▸ List.mem_map_of_mem member
      obtain ⟨line, _, same⟩ := List.mem_map.mp among
      exact fun broken => line.unbroken (same ▸ feed_mem_encode text broken)

namespace Wording

theorem scan_checked (w : Wording) (deliveries : List Delivery) (found : List Violation)
    (scanned : w.scanDeliveries deliveries = .ok found) (v : Violation) (member : v ∈ found) :
    ∃ number line, w.check number line = some v ∧ '\n' ∉ line := by
  obtain ⟨events, texts, outcome, begins, decides⟩ := some_events_decide deliveries
  rw [scan_decides w deliveries events texts outcome begins decides] at scanned
  cases outcome with
  | error f => cases scanned
  | ok u =>
      cases scanned
      obtain ⟨k, line, place, judged⟩ := (w.mem_check_lines_iff 1 texts v).mp member
      exact ⟨1 + k, line, judged,
        decided_unbroken events texts u decides line (List.mem_of_getElem? place)⟩

theorem inspect_checked (w : Wording) (s : Store) (p : Path) (found : List Violation)
    (judged : w.inspect s p = .ok found) (v : Violation) (member : v ∈ found) :
    ∃ number line, w.check number line = some v ∧ '\n' ∉ line := by
  unfold inspect judge at judged
  cases opened : s.read p with
  | error f => simp [opened] at judged
  | ok deliveries =>
      cases scanned : w.scanDeliveries deliveries with
      | error f => simp [opened, scanned] at judged
      | ok all =>
          simp only [opened, scanned, Except.ok.injEq] at judged
          exact w.scan_checked deliveries all scanned v (judged ▸ member)

end Wording

namespace Linter

theorem report_arises (r : Linter) (s : Store) (p : Path) (spelled : p.IsText) (d : Diagnostic)
    (given : d ∈ r.report s p) : Diagnostic.Arises r.wording d := by
  unfold report at given
  cases judged : r.wording.inspect s p with
  | error f =>
      rw [judged] at given
      cases List.mem_singleton.mp given
      have free := r.wording.inspect_fault_free s p f judged ':' (.inl rfl)
      exact .fault p f spelled (not_infix_of_fresh ':' List.mem_cons_self free)
  | ok found =>
      rw [judged] at given
      obtain ⟨v, member, rfl⟩ := List.mem_map.mp given
      obtain ⟨number, line, checked, _⟩ := r.wording.inspect_checked s p found judged v member
      exact .violation p number line v spelled checked

theorem reports_apart (r : Linter) (s later : Store) (paths others : List Path)
    (spelled : ∀ p ∈ paths, p.IsText) (spelled' : ∀ p ∈ others, p.IsText) (a b : Diagnostic)
    (given : a ∈ r.reports s paths) (given' : b ∈ r.reports later others)
    (same : a.render = b.render) : a = b := by
  obtain ⟨p, member, here⟩ := List.mem_flatMap.mp given
  obtain ⟨q, member', there⟩ := List.mem_flatMap.mp given'
  exact Diagnostic.arises_apart r.wording a b (r.report_arises s p (spelled p member) a here)
    (r.report_arises later q (spelled' q member') b there) same

end Linter

end ErrorWording
