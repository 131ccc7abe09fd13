import ErrorWording.Proofs.ArgumentList

set_option autoImplicit false

namespace ErrorWording.Intake

def accepted : Intake × Option UsageFault → Option Intake
  | (s, none) => some s
  | (_, some _) => none

def settled? (s : Intake) : Option Intake :=
  accepted s.settle

def use? (s : Intake) : Item → Option Intake
  | .file word =>
      if word = [] then none else some { s with files := s.files ++ [⟨word⟩], filesSeen := true }
  | .attached p value => accepted (s.assign p value)
  | .separate p value => accepted (s.assign p value)

def useAll? (s : Intake) (items : List Item) : Option Intake :=
  items.foldlM use? s

def settledAfter (result : Except Ending Intake) : Option Intake :=
  result.toOption.bind settled?

def Ready (s : Intake) : Prop :=
  ∀ p, s.waiting ≠ some (.parameter p none)

structure Reads (s : Intake) (items : List Item) (result : Except Ending Intake) : Prop where
  same : settledAfter result = s.settled?.bind (·.useAll? items)
  ready : s.Ready → ∀ t, result = .ok t → t.Ready

theorem proceed_accepted (outcome : Intake × Option UsageFault) :
    (proceed outcome).toOption = accepted outcome := by
  obtain ⟨s, fault⟩ := outcome
  cases fault <;> rfl

theorem settle_cases (s : Intake) :
    (∃ e, proceed s.settle = .error e ∧ s.settled? = none) ∨
      ∃ t, proceed s.settle = .ok t ∧ s.settled? = some t := by
  have outcome := proceed_accepted s.settle
  cases settled : proceed s.settle with
  | error e =>
      rw [settled] at outcome
      exact .inl ⟨e, rfl, outcome.symm⟩
  | ok t =>
      rw [settled] at outcome
      exact .inr ⟨t, rfl, outcome.symm⟩

theorem settled_idle (s : Intake) (idle : s.waiting = none) : s.settled? = some s := by
  rw [settled?, settle, idle, accepted]

theorem assign_idle (s t : Intake) (p : Parameter) (value : Bytes) (idle : s.waiting = none)
    (assigned : accepted (s.assign p value) = some t) : t.waiting = none := by
  unfold assign at assigned
  by_cases again : p ∈ s.given
  · simp [again, accepted] at assigned
  · rw [if_neg again] at assigned
    split at assigned
    · split at assigned
      · cases assigned
      · cases assigned
        exact idle
    · cases assigned
      exact idle
    · cases assigned
      exact idle
    · cases assigned

theorem settle_idle (s t : Intake) (settled : s.settled? = some t) : t.waiting = none := by
  unfold settled? settle at settled
  split at settled
  · next idle =>
      cases settled
      exact idle
  · cases settled
  · exact assign_idle _ t _ _ rfl settled
  · split at settled
    · cases settled
    · cases settled
      rfl

theorem use_single (t : Option Intake) (item : Item) :
    t.bind (·.useAll? [item]) = t.bind (·.use? item) := by
  cases t <;> simp [useAll?]

theorem settled_first (s : Intake) (item : Item) (next : Intake → Except Ending Intake)
    (uses : ∀ t, t.waiting = none → settledAfter (next t) = t.use? item)
    (ready : ∀ t u, t.waiting = none → next t = .ok u → u.Ready) :
    Reads s [item] ((proceed s.settle).bind next) := by
  rcases s.settle_cases with ⟨e, failed, stuck⟩ | ⟨t, settled, known⟩
  · rw [failed]
    refine ⟨?_, ?_⟩
    · rw [use_single, stuck]
      rfl
    · rintro _ u ⟨⟩
  · have idle := s.settle_idle t known
    rw [settled]
    refine ⟨?_, fun _ u => ready t u idle⟩
    rw [use_single, known]
    exact uses t idle

theorem listed_settled (s : Intake) (paths : List Bytes) :
    settled? { s with waiting := some (.files paths) } =
      if [] ∈ paths then none
      else some { s with
        files := s.files ++ paths.map Path.mk, filesSeen := true, waiting := none } := by
  by_cases empty : [] ∈ paths
  · simp [settled?, settle, accepted, empty]
  · simp [settled?, settle, accepted, empty]

theorem file_used (t : Intake) (word : Bytes) (idle : t.waiting = none) :
    settled? { t with waiting := some (.files [word]) } = t.use? (.file word) := by
  rw [listed_settled, use?]
  by_cases empty : word = []
  · simp [empty]
  · simp [empty, Ne.symm empty, idle]

theorem add_file_listed (s : Intake) (paths : List Bytes) (word : Bytes)
    (waiting : s.waiting = some (.files paths)) :
    Reads s [.file word] (s.addFile word) := by
  have added : s.addFile word = .ok { s with waiting := some (.files (paths ++ [word])) } := by
    rw [addFile, waiting]
  have before : s.settled? = settled? { s with waiting := some (.files paths) } := by
    rw [← waiting]
  rw [added]
  refine ⟨?_, ?_⟩
  · rw [use_single, before, settledAfter, Except.toOption, Option.bind_some, listed_settled,
      listed_settled]
    by_cases lacking : [] ∈ paths
    · simp [lacking]
    · by_cases empty : word = []
      · simp [lacking, empty, use?]
      · simp [lacking, empty, Ne.symm empty, use?]
  · rintro _ t ⟨⟩ p
    simp

theorem add_file_unlisted (s : Intake) (word : Bytes)
    (unlisted : ¬ ∃ paths, s.waiting = some (.files paths)) :
    s.addFile word = (proceed s.settle).bind fun t =>
      .ok { t with waiting := some (.files [word]) } := by
  unfold addFile
  split
  · next paths waiting => exact absurd ⟨paths, waiting⟩ unlisted
  · cases proceed s.settle <;> rfl

theorem add_file_reads (s : Intake) (word : Bytes) : Reads s [.file word] (s.addFile word) := by
  by_cases listed : ∃ paths, s.waiting = some (.files paths)
  · obtain ⟨paths, waiting⟩ := listed
    exact s.add_file_listed paths word waiting
  · rw [s.add_file_unlisted word listed]
    refine s.settled_first (.file word) _ (fun t idle => t.file_used word idle) ?_
    rintro t u _ ⟨⟩ p
    simp

theorem idle_ready (s : Intake) (idle : s.waiting = none) : s.Ready := by
  intro p lacking
  cases idle.symm.trans lacking

theorem take_attached (s : Intake) (p : Parameter) (value : Bytes) :
    s.takeParameter p (some value) =
      (proceed s.settle).bind fun t => proceed (t.assign p value) := by
  unfold takeParameter
  cases proceed s.settle <;> rfl

theorem take_valueless (s : Intake) (p : Parameter) :
    s.takeParameter p none =
      (proceed s.settle).bind fun t => .ok { t with waiting := some (.parameter p none) } := by
  unfold takeParameter
  cases proceed s.settle <;> rfl

theorem take_separate (s : Intake) (p : Parameter) (value : Bytes) :
    (s.takeParameter p none).bind (·.takeWord value) =
      (proceed s.settle).bind fun t =>
        .ok { t with waiting := some (.parameter p (some value)) } := by
  rw [take_valueless]
  cases proceed s.settle <;> rfl

theorem take_attached_reads (s : Intake) (p : Parameter) (value : Bytes) :
    Reads s [.attached p value] (s.takeParameter p (some value)) := by
  rw [take_attached]
  refine s.settled_first (.attached p value) _ ?_ ?_
  · intro t idle
    rw [settledAfter, proceed_accepted, use?]
    cases assigned : accepted (t.assign p value) with
    | none => rfl
    | some u => exact u.settled_idle (assign_idle t u p value idle assigned)
  · intro t u idle taken
    have assigned : accepted (t.assign p value) = some u := by
      rw [← proceed_accepted, taken]
      rfl
    exact u.idle_ready (assign_idle t u p value idle assigned)

theorem take_separate_reads (s : Intake) (p : Parameter) (value : Bytes) :
    Reads s [.separate p value] ((s.takeParameter p none).bind (·.takeWord value)) := by
  rw [take_separate]
  refine s.settled_first (.separate p value) _ ?_ ?_
  · intro t idle
    have same : { t with waiting := none } = t := by rw [← idle]
    simp only [settledAfter, Except.toOption, Option.bind_some, settled?, settle, same, use?]
  · rintro t u _ ⟨⟩ q
    simp

theorem read_token (s : Intake) (t : Token) (rest : List Bytes) (proper : t.Proper)
    (goesOn : t ≠ .terminator) :
    s.readAll (t.written :: rest) = (s.step t).bind (·.readAll rest) := by
  rw [readAll, Token.of_argument_written t proper]
  split
  · exact absurd rfl goesOn
  · cases s.step t <;> rfl

theorem step_parameter (s : Intake) (p : Parameter) (attached : Option Bytes) :
    s.step (.long (bytesOf p.name) attached) = s.takeParameter p attached := by
  rw [step, (Parameter.known_name_iff _ p).mpr rfl]

theorem take_word_ready (s : Intake) (word : Bytes) (ready : s.Ready) :
    s.takeWord word = s.addFile word := by
  unfold takeWord
  split
  · next p lacking => exact absurd lacking (ready p)
  · rfl

theorem read_flag (s : Intake) (p : Parameter) (attached : Option Bytes) (rest : List Bytes) :
    s.readAll ((Token.long (bytesOf p.name) attached).written :: rest) =
      (s.takeParameter p attached).bind (·.readAll rest) := by
  rw [read_token s _ rest (p.name_proper attached) (by simp), step_parameter]

theorem read_separate (s : Intake) (p : Parameter) (value : Bytes) (rest : List Bytes)
    (word : Token.IsWord value) :
    s.readAll ((Token.long (bytesOf p.name) none).written :: value :: rest) =
      ((s.takeParameter p none).bind (·.takeWord value)).bind (·.readAll rest) := by
  have next (t : Intake) :
      t.readAll (value :: rest) = (t.takeWord value).bind (·.readAll rest) :=
    t.read_token (.word value) rest word (by simp)
  have read := s.read_flag p none (value :: rest)
  simp only [next] at read
  refine read.trans ?_
  cases s.takeParameter p none <;> rfl

theorem read_item (s : Intake) (item : Item) (rest : List Bytes) (ready : s.Ready)
    (spelled : item.Spelled) :
    ∃ result, s.readAll (item.written ++ rest) = result.bind (·.readAll rest) ∧
      Reads s [item] result := by
  cases item with
  | file word =>
      refine ⟨_, ?_, s.add_file_reads word⟩
      rw [← s.take_word_ready word ready]
      exact s.read_token (.word word) rest spelled (by simp)
  | attached p value =>
      refine ⟨_, ?_, s.take_attached_reads p value⟩
      rw [Item.attached_written]
      exact s.read_flag p (some value) rest
  | separate p value =>
      refine ⟨_, ?_, s.take_separate_reads p value⟩
      rw [Item.separate_written]
      exact s.read_separate p value rest spelled

theorem reads_nil (s : Intake) : Reads s [] (.ok s) := by
  refine ⟨?_, ?_⟩
  · simp [settledAfter, Except.toOption, useAll?]
  · rintro ready t ⟨⟩
    exact ready

theorem reads_append (s : Intake) (a b : List Item) (first : Except Ending Intake)
    (next : Intake → Except Ending Intake) (reads : Reads s a first)
    (later : ∀ t, first = .ok t → Reads t b (next t)) : Reads s (a ++ b) (first.bind next) := by
  have parts : s.settled?.bind (·.useAll? (a ++ b)) = (settledAfter first).bind (·.useAll? b) := by
    rw [reads.same, Option.bind_assoc]
    simp only [useAll?, List.foldlM_append]
    rfl
  cases first with
  | error e =>
      refine ⟨parts.symm, ?_⟩
      rintro _ t ⟨⟩
  | ok t =>
      have here := later t rfl
      exact ⟨here.same.trans parts.symm, fun ready => here.ready (reads.ready ready t rfl)⟩

theorem read_items (s : Intake) (items : List Item) (rest : List Bytes) (ready : s.Ready)
    (spelled : ∀ item ∈ items, item.Spelled) :
    ∃ result, s.readAll (items.flatMap Item.written ++ rest) = result.bind (·.readAll rest) ∧
      Reads s items result := by
  induction items generalizing s with
  | nil => exact ⟨.ok s, rfl, s.reads_nil⟩
  | cons item items ih =>
      obtain ⟨first, read, reads⟩ := s.read_item item (items.flatMap Item.written ++ rest) ready
        (spelled item List.mem_cons_self)
      rw [List.flatMap_cons, List.append_assoc, read]
      cases first with
      | error e =>
          exact ⟨.error e, rfl, s.reads_append [item] items _ (fun t => .ok t) reads (by simp)⟩
      | ok t =>
          obtain ⟨result, later, further⟩ := ih t (reads.ready ready t rfl)
            (fun other member => spelled other (List.mem_cons_of_mem item member))
          refine ⟨result, later, s.reads_append [item] items (.ok t) (fun _ => result) reads ?_⟩
          rintro u ⟨⟩
          exact further

theorem read_files_cons (s : Intake) (word : Bytes) (words : List Bytes) :
    s.readFiles (word :: words) = (s.addFile word).bind (·.readFiles words) := by
  rw [readFiles]
  cases s.addFile word <;> rfl

theorem read_files_reads (s : Intake) (words : List Bytes) :
    Reads s (words.map .file) (s.readFiles words) := by
  induction words generalizing s with
  | nil => exact s.reads_nil
  | cons word words ih =>
      rw [read_files_cons]
      exact s.reads_append [.file word] _ _ _ (s.add_file_reads word) (fun t _ => ih t)

theorem read_terminator (s : Intake) (words : List Bytes) :
    s.readAll (bytesOf "--" :: words) = s.readFiles words := by
  rw [readAll, show Token.ofArgument (bytesOf "--") = .terminator by decide]

theorem read_list (s : Intake) (list : ArgumentList) (ready : s.Ready) (spelled : list.Spelled) :
    Reads s list.all (s.readAll list.written) := by
  obtain ⟨first, read, reads⟩ := s.read_items list.items
    (list.behind.elim [] (bytesOf "--" :: ·)) ready spelled
  rw [ArgumentList.written, read]
  refine s.reads_append list.items _ first _ reads (fun t _ => ?_)
  cases list.behind with
  | none => exact t.reads_nil
  | some words =>
      rw [Option.elim_some, t.read_terminator words]
      exact t.read_files_reads words

def Unread (arguments : List Bytes) : Prop :=
  ∀ s : Intake, s.Ready → settledAfter (s.readAll arguments) = none

theorem settled_bind_none (result : Except Ending Intake) (next : Intake → Except Ending Intake)
    (fails : ∀ t, result = .ok t → settledAfter (next t) = none) :
    settledAfter (result.bind next) = none := by
  cases result with
  | error e => rfl
  | ok t => exact fails t rfl

theorem unread_item (item : Item) (rest : List Bytes) (spelled : item.Spelled)
    (unread : Unread rest) : Unread (item.written ++ rest) := by
  intro s ready
  obtain ⟨result, read, reads⟩ := s.read_item item rest ready spelled
  rw [read]
  exact settled_bind_none result _ (fun t taken => unread t (reads.ready ready t taken))

theorem unread_token (t : Token) (rest : List Bytes) (proper : t.Proper) (goesOn : t ≠ .terminator)
    (refused : ∀ s : Intake, ∃ e, s.step t = .error e) : Unread (t.written :: rest) := by
  intro s _
  obtain ⟨e, failed⟩ := refused s
  rw [s.read_token t rest proper goesOn, failed]
  rfl

theorem step_letters (s : Intake) (cluster : Bytes) :
    ∃ e, s.step (.letters cluster) = .error e := by
  rw [step]
  split <;> exact ⟨_, rfl⟩

theorem step_unknown (s : Intake) (name : Bytes) (attached : Option Bytes)
    (other : ∀ p, (Utf8.string? name).bind Switch.ofName? ≠ some (.parameter p)) :
    ∃ e, s.step (.long name attached) = .error e := by
  rw [step]
  split
  · next p known => exact absurd known (other p)
  · exact ⟨_, rfl⟩
  · exact ⟨_, rfl⟩

theorem take_parameter_stuck (s : Intake) (p : Parameter) (attached : Option Bytes)
    (stuck : s.settled? = none) : ∃ e, s.takeParameter p attached = .error e := by
  rcases s.settle_cases with ⟨e, failed, _⟩ | ⟨t, _, known⟩
  · exact ⟨e, by rw [takeParameter, failed]⟩
  · cases stuck.symm.trans known

theorem step_stuck (s : Intake) (t : Token) (stuck : s.settled? = none) (goesOn : t ≠ .terminator)
    (other : ∀ bytes, t ≠ .word bytes) : ∃ e, s.step t = .error e := by
  cases t with
  | terminator => exact absurd rfl goesOn
  | word bytes => exact absurd rfl (other bytes)
  | letters cluster => exact s.step_letters cluster
  | long name attached =>
      by_cases known : ∃ p, (Utf8.string? name).bind Switch.ofName? = some (.parameter p)
      · obtain ⟨p, known⟩ := known
        rw [(Parameter.known_name_iff name p).mp known, step_parameter]
        exact s.take_parameter_stuck p attached stuck
      · exact s.step_unknown name attached (fun p same => known ⟨p, same⟩)

theorem lacking_unread (s : Intake) (p : Parameter) (arguments : List Bytes)
    (lacks : s.waiting = some (.parameter p none))
    (valueless : ∀ value rest, arguments = value :: rest → ¬ Token.IsWord value) :
    settledAfter (s.readAll arguments) = none := by
  have stuck : s.settled? = none := by rw [settled?, settle, lacks, accepted]
  cases arguments with
  | nil => exact stuck
  | cons value rest =>
      have unlike := valueless value rest rfl
      obtain ⟨t, proper, rfl⟩ := Token.argument_read value
      by_cases ends : t = .terminator
      · subst ends
        have same := (s.read_files_reads rest).same
        rw [stuck, Option.bind_none] at same
        exact (congrArg settledAfter (s.read_terminator rest)).trans same
      · obtain ⟨e, failed⟩ := s.step_stuck t stuck ends (by
          rintro bytes rfl
          exact unlike proper)
        rw [s.read_token t rest proper ends, failed]
        rfl

theorem flag_unread (p : Parameter) (rest : List Bytes)
    (valueless : ∀ value later, rest = value :: later → ¬ Token.IsWord value) :
    Unread ((Token.long (bytesOf p.name) none).written :: rest) := by
  intro s _
  rw [read_flag]
  refine settled_bind_none _ _ (fun t taken => ?_)
  have lacks : t.waiting = some (.parameter p none) := by
    unfold takeParameter at taken
    cases settled : proceed s.settle with
    | error e => simp [settled] at taken
    | ok u =>
        simp only [settled, Except.ok.injEq] at taken
        rw [← taken]
  exact t.lacking_unread p rest lacks valueless

def Readable (arguments : List Bytes) : Prop :=
  (∃ list : ArgumentList, list.Spelled ∧ list.written = arguments) ∨ Unread arguments

theorem readable_item (item : Item) (rest : List Bytes) (spelled : item.Spelled)
    (later : Readable rest) : Readable (item.written ++ rest) := by
  rcases later with ⟨list, others, rfl⟩ | unread
  · refine .inl ⟨⟨item :: list.items, list.behind⟩, ?_, ?_⟩
    · intro other member
      rcases List.mem_cons.mp member with rfl | member
      · exact spelled
      · exact others other member
    · simp [ArgumentList.written]
  · exact .inr (unread_item item rest spelled unread)

theorem readable (arguments : List Bytes) : Readable arguments := by
  cases arguments with
  | nil => exact .inl ⟨⟨[], none⟩, by simp [ArgumentList.Spelled], rfl⟩
  | cons argument rest =>
      have later := readable rest
      obtain ⟨t, proper, rfl⟩ := Token.argument_read argument
      cases t with
      | terminator => exact .inl ⟨⟨[], some rest⟩, by simp [ArgumentList.Spelled], rfl⟩
      | word bytes => exact readable_item (.file bytes) rest proper later
      | letters cluster =>
          exact .inr (unread_token _ rest proper (by simp) (·.step_letters cluster))
      | long name attached =>
          by_cases known : ∃ p, (Utf8.string? name).bind Switch.ofName? = some (.parameter p)
          · obtain ⟨p, known⟩ := known
            obtain rfl := (Parameter.known_name_iff name p).mp known
            cases attached with
            | some value =>
                have whole := readable_item (.attached p value) rest trivial later
                rwa [Item.attached_written] at whole
            | none =>
                -- A parameter without a value takes the next argument, if that is a word.
                by_cases valued : ∃ value others, rest = value :: others ∧ Token.IsWord value
                · obtain ⟨value, others, rfl, word⟩ := valued
                  have whole := readable_item (.separate p value) others word (readable others)
                  rwa [Item.separate_written] at whole
                · refine .inr (flag_unread p rest (fun value others same word => ?_))
                  exact valued ⟨value, others, same, word⟩
          · exact .inr (unread_token _ rest proper (by simp)
              (·.step_unknown name attached (fun p same => known ⟨p, same⟩)))
termination_by arguments.length

end ErrorWording.Intake
