import ErrorWording.Proofs.Intake

set_option autoImplicit false

namespace ErrorWording

/-- The same arguments but for the texts given as log levels. Behind the terminator stand files,
whatever they look like. -/
inductive SameButLevel : List Bytes → List Bytes → Prop where
  | done : SameButLevel [] []
  | behind (files : List Bytes) : SameButLevel (bytesOf "--" :: files) (bytesOf "--" :: files)
  | same (argument : Bytes) (rest others : List Bytes) (goesOn : argument ≠ bytesOf "--")
      (alike : SameButLevel rest others) : SameButLevel (argument :: rest) (argument :: others)
  | attached (first second : String) (rest others : List Bytes)
      (alike : SameButLevel rest others) :
      SameButLevel ((bytesOf "--log-level=" ++ bytesOf first) :: rest)
        ((bytesOf "--log-level=" ++ bytesOf second) :: others)
  | separate (first second : String) (rest others : List Bytes)
      (firstWord : Token.IsWord (bytesOf first)) (secondWord : Token.IsWord (bytesOf second))
      (alike : SameButLevel rest others) :
      SameButLevel (bytesOf "--log-level" :: bytesOf first :: rest)
        (bytesOf "--log-level" :: bytesOf second :: others)

def Arguments.AlikeButLevel (a b : Arguments) : Prop :=
  b = { a with logLevel := b.logLevel }

inductive Likewise {α : Type} (related : α → α → Prop) :
    Except Ending α → Except Ending α → Prop where
  | ok (a b : α) (alike : related a b) : Likewise related (.ok a) (.ok b)
  | query (q : Query) : Likewise related (.error (.query q)) (.error (.query q))
  | fault (f g : UsageFault) : Likewise related (.error (.fault f)) (.error (.fault g))

theorem likewise_bind {α β : Type} (related : α → α → Prop) (later : β → β → Prop)
    (first second : Except Ending α) (next other : α → Except Ending β)
    (alike : Likewise related first second)
    (steps : ∀ a b, related a b → Likewise later (next a) (other b)) :
    Likewise later (first.bind next) (second.bind other) := by
  cases alike with
  | ok a b related => exact steps a b related
  | query q => exact .query q
  | fault f g => exact .fault f g

namespace Intake

inductive ValuesAlike : Parameter → Bytes → Bytes → Prop where
  | same (p : Parameter) (value : Bytes) : ValuesAlike p value value
  | level (first second : String) : ValuesAlike .logLevel (bytesOf first) (bytesOf second)

inductive WaitsAlike : Option Waiting → Option Waiting → Prop where
  | same (waiting : Option Waiting) : WaitsAlike waiting waiting
  | value (p : Parameter) (first second : Bytes) (values : ValuesAlike p first second) :
      WaitsAlike (some (.parameter p (some first))) (some (.parameter p (some second)))

structure Alike (s t : Intake) : Prop where
  rest : t = { s with logLevel := t.logLevel, waiting := t.waiting }
  waits : WaitsAlike s.waiting t.waiting

theorem alike_cases (s t : Intake) (alike : Alike s t) :
    ∃ level waiting, t = { s with logLevel := level, waiting } ∧ WaitsAlike s.waiting waiting :=
  ⟨t.logLevel, t.waiting, alike.rest, alike.waits⟩

theorem assign_alike (s t : Intake) (p : Parameter) (value other : Bytes) (alike : Alike s t)
    (values : ValuesAlike p value other) :
    Likewise Alike (proceed (s.assign p value)) (proceed (t.assign p other)) := by
  obtain ⟨level, waiting, rfl, waits⟩ := alike_cases s t alike
  unfold assign
  by_cases again : p ∈ s.given
  · rw [if_pos again, if_pos again]
    exact .fault _ _
  · rw [if_neg again, if_neg again]
    cases values with
    | level first second =>
        have read (text : String) : Utf8.string? (bytesOf text) = some text :=
          (Utf8.string_some_iff (bytesOf text) text).mpr rfl
        simp only [read]
        exact .ok _ _ ⟨rfl, waits⟩
    | same =>
        cases p with
        | summaryFile =>
            by_cases empty : value = []
            · simp only [empty, if_true]
              exact .fault _ _
            · simp only [empty, if_false]
              exact .ok _ _ ⟨rfl, waits⟩
        | wording | logLevel =>
            cases Utf8.string? value with
            | none => exact .fault _ _
            | some text => exact .ok _ _ ⟨rfl, waits⟩

theorem settle_alike (s t : Intake) (alike : Alike s t) :
    Likewise Alike (proceed s.settle) (proceed t.settle) := by
  obtain ⟨files, wording, summaryFile, logLevel, given, filesSeen, held⟩ := s
  obtain ⟨level, waiting, rfl, waits⟩ := alike_cases _ t alike
  cases waits with
  | value p first second values =>
      exact assign_alike _ _ p first second ⟨rfl, .same none⟩ values
  | same =>
      cases held with
      | none => exact .ok _ _ ⟨rfl, .same none⟩
      | some waiting =>
          cases waiting with
          | parameter p value =>
              cases value with
              | none => exact .fault _ _
              | some value => exact assign_alike _ _ p value value ⟨rfl, .same none⟩ (.same p value)
          | files paths =>
              simp only [settle]
              by_cases nameless : [] ∈ paths
              · simp only [nameless, if_true]
                exact .fault _ _
              · simp only [nameless, if_false]
                exact .ok _ _ ⟨rfl, .same none⟩

theorem settled_alike (s t : Intake) (next other : Intake → Except Ending Intake)
    (alike : Alike s t)
    (steps : ∀ u v, Alike u v → Likewise Alike (next u) (other v)) :
    Likewise Alike ((proceed s.settle).bind next) ((proceed t.settle).bind other) :=
  likewise_bind Alike Alike _ _ next other (settle_alike s t alike) steps

theorem waiting_alike (s t : Intake) (held other : Option Waiting) (alike : Alike s t)
    (waits : WaitsAlike held other) :
    Likewise Alike (.ok { s with waiting := held }) (.ok { t with waiting := other }) := by
  obtain ⟨level, waiting, rfl, _⟩ := alike_cases s t alike
  exact .ok _ _ ⟨rfl, waits⟩

theorem add_file_alike (s t : Intake) (word : Bytes) (alike : Alike s t) :
    Likewise Alike (s.addFile word) (t.addFile word) := by
  have unlisted (quiet : ¬ ∃ paths, s.waiting = some (.files paths))
      (still : ¬ ∃ paths, t.waiting = some (.files paths)) :
      Likewise Alike (s.addFile word) (t.addFile word) := by
    rw [s.add_file_unlisted word quiet, t.add_file_unlisted word still]
    exact settled_alike s t _ _ alike fun u v later => waiting_alike u v _ _ later (.same _)
  obtain ⟨files, wording, summaryFile, logLevel, given, filesSeen, held⟩ := s
  obtain ⟨level, waiting, rfl, waits⟩ := alike_cases _ t alike
  cases waits with
  | value p first second values => exact unlisted (by simp) (by simp)
  | same =>
      by_cases listed : ∃ paths, held = some (.files paths)
      · obtain ⟨paths, rfl⟩ := listed
        exact .ok _ _ ⟨rfl, .same _⟩
      · exact unlisted listed listed

theorem take_word_alike (s t : Intake) (word : Bytes) (alike : Alike s t) :
    Likewise Alike (s.takeWord word) (t.takeWord word) := by
  have files := add_file_alike s t word alike
  obtain ⟨_, wording, summaryFile, logLevel, given, filesSeen, held⟩ := s
  obtain ⟨level, waiting, rfl, waits⟩ := alike_cases _ t alike
  cases waits with
  | value p first second values => exact files
  | same =>
      cases held with
      | none => exact files
      | some waiting =>
          cases waiting with
          | files paths => exact files
          | parameter p value =>
              cases value with
              | none => exact .ok _ _ ⟨rfl, .same _⟩
              | some value => exact files

theorem take_attached_alike (s t : Intake) (p : Parameter) (value other : Bytes)
    (alike : Alike s t) (values : ValuesAlike p value other) :
    Likewise Alike (s.takeParameter p (some value)) (t.takeParameter p (some other)) := by
  rw [take_attached, take_attached]
  exact settled_alike s t _ _ alike fun u v later => assign_alike u v p value other later values

theorem take_separate_alike (s t : Intake) (p : Parameter) (value other : Bytes)
    (alike : Alike s t) (values : ValuesAlike p value other) :
    Likewise Alike ((s.takeParameter p none).bind (·.takeWord value))
      ((t.takeParameter p none).bind (·.takeWord other)) := by
  rw [take_separate, take_separate]
  exact settled_alike s t _ _ alike fun u v later =>
    waiting_alike u v _ _ later (.value p value other values)

theorem take_parameter_alike (s t : Intake) (p : Parameter) (attached : Option Bytes)
    (alike : Alike s t) :
    Likewise Alike (s.takeParameter p attached) (t.takeParameter p attached) := by
  cases attached with
  | some value => exact take_attached_alike s t p value value alike (.same p value)
  | none =>
      rw [take_valueless, take_valueless]
      exact settled_alike s t _ _ alike fun u v later => waiting_alike u v _ _ later (.same _)

theorem take_query_alike (s t : Intake) (q : Query) (attached : Option Bytes)
    (alike : Alike s t) :
    Likewise Alike (.error (s.takeQuery q attached)) (.error (t.takeQuery q attached)) := by
  cases attached with
  | some value => exact .fault _ _
  | none =>
      have settled := settle_alike s t alike
      unfold takeQuery
      generalize s.settle = first at settled ⊢
      generalize t.settle = second at settled ⊢
      obtain ⟨u, fault⟩ := first
      obtain ⟨v, other⟩ := second
      cases fault <;> cases other <;> cases settled <;> constructor

theorem step_alike (s t : Intake) (token : Token) (alike : Alike s t) :
    Likewise Alike (s.step token) (t.step token) := by
  cases token with
  | terminator => exact .ok s t alike
  | word word => exact take_word_alike s t word alike
  | letters cluster =>
      simp only [step]
      cases (Token.leadingText cluster).toList.head?.bind Query.ofLetter? with
      | none => exact .fault _ _
      | some q => exact take_query_alike s t q none alike
  | long name attached =>
      simp only [step]
      cases (Utf8.string? name).bind Switch.ofName? with
      | none => exact .fault _ _
      | some switch =>
          cases switch with
          | parameter p => exact take_parameter_alike s t p attached alike
          | query q => exact take_query_alike s t q attached alike

theorem read_files_alike (s t : Intake) (words : List Bytes) (alike : Alike s t) :
    Likewise Alike (s.readFiles words) (t.readFiles words) := by
  induction words generalizing s t with
  | nil => exact .ok s t alike
  | cons word words ih =>
      rw [read_files_cons, read_files_cons]
      exact likewise_bind Alike Alike _ _ _ _ (add_file_alike s t word alike) ih

theorem level_attached (value : Bytes) :
    bytesOf "--log-level=" ++ value =
      (Token.long (bytesOf Parameter.logLevel.name) (some value)).written := by
  have flag : bytesOf "--log-level=" =
      Token.hyphen :: Token.hyphen :: (bytesOf Parameter.logLevel.name ++ [Token.equals]) := by
    decide
  rw [flag, Token.written, List.cons_append, List.cons_append, List.append_assoc,
    List.singleton_append]

theorem read_all_alike (s t : Intake) (first second : List Bytes) (alike : Alike s t)
    (arguments : SameButLevel first second) :
    Likewise Alike (s.readAll first) (t.readAll second) := by
  induction arguments generalizing s t with
  | done => exact .ok s t alike
  | behind files =>
      -- Behind the terminator stand files, whatever they look like.
      rw [read_terminator, read_terminator]
      exact read_files_alike s t files alike
  | same argument rest others goesOn _ ih =>
      obtain ⟨token, proper, rfl⟩ := Token.argument_read argument
      have further : token ≠ .terminator := by
        intro same
        exact goesOn (by rw [same]; decide)
      rw [read_token s token rest proper further, read_token t token others proper further]
      exact likewise_bind Alike Alike _ _ _ _ (step_alike s t token alike) ih
  | attached level other rest others _ ih =>
      rw [level_attached, level_attached, read_flag, read_flag]
      exact likewise_bind Alike Alike _ _ _ _
        (take_attached_alike s t .logLevel _ _ alike (.level level other)) ih
  | separate level other rest others word otherWord _ ih =>
      have flag : bytesOf "--log-level" =
          (Token.long (bytesOf Parameter.logLevel.name) none).written := by decide
      rw [flag, read_separate s .logLevel _ rest word, read_separate t .logLevel _ others otherWord]
      exact likewise_bind Alike Alike _ _ _ _
        (take_separate_alike s t .logLevel _ _ alike (.level level other)) ih

theorem fall_back_alike (s t : Intake) (environment : Option Bytes) (alike : Alike s t) :
    Likewise Alike (proceed (s.fallBack environment)) (proceed (t.fallBack environment)) := by
  have assigned := fun value => assign_alike s t .summaryFile value value alike (.same _ value)
  have given : t.given = s.given := by rw [alike.rest]
  cases environment with
  | none => exact .ok s t alike
  | some value =>
      unfold fallBack
      by_cases named : .summaryFile ∈ s.given
      · simp only [given, named, if_true]
        exact .ok s t alike
      · simp only [given, named, if_false]
        exact assigned value

theorem finish_bind (s : Intake) (environment : Option Bytes) :
    s.finish environment =
      (proceed s.settle).bind fun t => (proceed (t.fallBack environment)).bind fun u =>
        if u.files = [] then .error (.fault (.noFiles u.switches))
        else
          .ok
            { files := u.files
              wording := u.wording.getD Wording.standard.required
              summaryFile := u.summaryFile
              logLevel := u.logLevel.getD "warn" } := by
  unfold finish
  cases proceed s.settle with
  | error e => rfl
  | ok t =>
      simp only [Except.bind]
      cases proceed (t.fallBack environment) <;> rfl

theorem finish_alike (s t : Intake) (environment : Option Bytes) (alike : Alike s t) :
    Likewise Arguments.AlikeButLevel (s.finish environment) (t.finish environment) := by
  rw [finish_bind, finish_bind]
  apply likewise_bind Alike _ _ _ _ _ (settle_alike s t alike)
  intro u v settled
  apply likewise_bind Alike _ _ _ _ _ (fall_back_alike u v environment settled)
  intro u v fallen
  obtain ⟨level, waiting, rfl, _⟩ := alike_cases u v fallen
  by_cases fileless : u.files = []
  · rw [if_pos fileless, if_pos fileless]
    exact .fault _ _
  · rw [if_neg fileless, if_neg fileless]
    exact .ok _ _ rfl

end Intake

theorem Arguments.parse_bind (arguments : List Bytes) (environment : Option Bytes) :
    parse arguments environment =
      (Intake.fresh.readAll arguments).bind (·.finish environment) := by
  unfold parse
  cases Intake.fresh.readAll arguments <;> rfl

theorem Arguments.parse_alike (first second : List Bytes) (environment : Option Bytes)
    (same : SameButLevel first second) :
    Likewise AlikeButLevel (parse first environment) (parse second environment) := by
  have fresh : Intake.Alike .fresh .fresh := ⟨rfl, .same none⟩
  have read := Intake.read_all_alike .fresh .fresh first second fresh same
  rw [parse_bind, parse_bind]
  exact likewise_bind Intake.Alike _ _ _ _ _ read fun s t alike => s.finish_alike t environment alike

end ErrorWording
