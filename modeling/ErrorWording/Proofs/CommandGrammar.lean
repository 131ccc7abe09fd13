import ErrorWording.Proofs.Intake

set_option autoImplicit false

namespace ErrorWording

section Lookup

variable {options : List (Parameter × Bytes)}

theorem lookup_absent_iff (p : Parameter) : options.lookup p = none ↔ p ∉ options.map Prod.fst := by
  rw [List.lookup_eq_none_iff, List.mem_map]
  constructor
  · rintro absent ⟨option, member, rfl⟩
    simpa using absent option member
  · intro absent option member
    simp only [bne_iff_ne]
    rintro rfl
    exact absent ⟨option, member, rfl⟩

theorem lookup_present (p : Parameter) (value : Bytes) (found : options.lookup p = some value) :
    p ∈ options.map Prod.fst := by
  obtain ⟨front, rest, rfl, _⟩ := List.lookup_eq_some_iff.mp found
  simp

theorem lookup_member_iff (p : Parameter) (value : Bytes) (once : (options.map Prod.fst).Nodup) :
    options.lookup p = some value ↔ (p, value) ∈ options := by
  constructor
  · intro found
    obtain ⟨front, rest, rfl, _⟩ := List.lookup_eq_some_iff.mp found
    simp
  · intro member
    obtain ⟨front, rest, rfl⟩ := List.append_of_mem member
    rw [List.map_append, List.nodup_append] at once
    have fresh : p ∉ front.map Prod.fst := fun earlier => once.2.2 p earlier p (by simp) rfl
    rw [List.lookup_append, (lookup_absent_iff p).mpr fresh, Option.none_or, List.lookup_cons_self]

theorem lookup_added (p q : Parameter) (value : Bytes) (fresh : p ∉ options.map Prod.fst) :
    (options ++ [(p, value)]).lookup q = if q = p then some value else options.lookup q := by
  rw [List.lookup_append]
  by_cases same : q = p
  · subst same
    rw [(lookup_absent_iff q).mpr fresh, if_pos rfl, Option.none_or, List.lookup_cons_self]
  · have other : (q == p) = false := by simpa using same
    rw [if_neg same, List.lookup_cons, other, List.lookup_nil, Option.or_none]

end Lookup

def Parameter.Takes : Parameter → Bytes → Prop
  | .wording, value => ∃ text, value = bytesOf text
  | .summaryFile, value => value ≠ []
  | .logLevel, value => ∃ text, value = bytesOf text

namespace Intake

def knowing (files : List Bytes) (options : List (Parameter × Bytes)) : Intake where
  files := files.map Path.mk
  wording := (options.lookup .wording).bind Utf8.string?
  summaryFile := (options.lookup .summaryFile).map Path.mk
  logLevel := (options.lookup .logLevel).bind Utf8.string?
  given := options.map Prod.fst
  filesSeen := !files.isEmpty
  waiting := none

theorem use_file (files : List Bytes) (options : List (Parameter × Bytes)) (word : Bytes) :
    (knowing files options).use? (.file word) =
      if word = [] then none else some (knowing (files ++ [word]) options) := by
  have seen : (files ++ [word]).isEmpty = false := by cases files <;> rfl
  simp [use?, knowing, seen]

theorem assign_some_iff (files : List Bytes) (options : List (Parameter × Bytes)) (p : Parameter)
    (value : Bytes) (t : Intake) :
    accepted ((knowing files options).assign p value) = some t ↔
      p ∉ options.map Prod.fst ∧ p.Takes value ∧ t = knowing files (options ++ [(p, value)]) := by
  by_cases again : p ∈ options.map Prod.fst
  · have refused : accepted ((knowing files options).assign p value) = none := by
      rw [assign, if_pos (show p ∈ (knowing files options).given from again)]
      rfl
    simp [refused, again]
  · have added := fun q => lookup_added p q value again
    rw [assign, if_neg (show p ∉ (knowing files options).given from again)]
    cases p with
    | summaryFile =>
        by_cases empty : value = []
        · simp [accepted, empty, Parameter.Takes]
        · simp [accepted, empty, Parameter.Takes, knowing, added, again, eq_comm]
    | wording | logLevel =>
        cases read : Utf8.string? value with
        | none => simp [accepted, Parameter.Takes, ← Utf8.string_some_iff, read]
        | some text =>
            simp [accepted, Parameter.Takes, ← Utf8.string_some_iff, read, knowing, added, again,
              eq_comm]

structure Usable (options : List (Parameter × Bytes)) (items : List Item) : Prop where
  named : [] ∉ items.filterMap Item.file?
  taken : ∀ option ∈ items.filterMap Item.option?, option.1.Takes option.2
  once : ((options ++ items.filterMap Item.option?).map Prod.fst).Nodup

theorem usable_file (options : List (Parameter × Bytes)) (word : Bytes) (items : List Item) :
    Usable options (.file word :: items) ↔ word ≠ [] ∧ Usable options items := by
  constructor
  · rintro ⟨named, taken, once⟩
    rw [List.filterMap_cons, Item.file?, List.mem_cons, not_or] at named
    exact ⟨Ne.symm named.1, named.2, taken, once⟩
  · rintro ⟨present, named, taken, once⟩
    refine ⟨?_, taken, once⟩
    rw [List.filterMap_cons, Item.file?, List.mem_cons, not_or]
    exact ⟨Ne.symm present, named⟩

theorem usable_option (options : List (Parameter × Bytes)) (p : Parameter) (value : Bytes)
    (item : Item) (items : List Item) (file : item.file? = none)
    (option : item.option? = some (p, value)) :
    Usable options (item :: items) ↔
      p ∉ options.map Prod.fst ∧ p.Takes value ∧ Usable (options ++ [(p, value)]) items := by
  have files : (item :: items).filterMap Item.file? = items.filterMap Item.file? := by
    rw [List.filterMap_cons, file]
  have others : (item :: items).filterMap Item.option? =
      (p, value) :: items.filterMap Item.option? := by
    rw [List.filterMap_cons, option]
  have shifted : options ++ (p, value) :: items.filterMap Item.option? =
      options ++ [(p, value)] ++ items.filterMap Item.option? := by simp
  constructor
  · rintro ⟨named, taken, once⟩
    rw [files] at named
    rw [others] at taken once
    rw [shifted] at once
    refine ⟨?_, taken _ List.mem_cons_self, named,
      fun o member => taken o (List.mem_cons_of_mem _ member), once⟩
    rw [List.map_append, List.map_append, List.nodup_append, List.nodup_append] at once
    exact fun earlier => once.1.2.2 p earlier p (by simp) rfl
  · rintro ⟨_, takes, named, taken, once⟩
    refine ⟨by rwa [files], ?_, by rwa [others, shifted]⟩
    rw [others]
    intro o member
    rcases List.mem_cons.mp member with rfl | later
    · exact takes
    · exact taken o later

theorem once_added (options : List (Parameter × Bytes)) (p : Parameter) (value : Bytes)
    (once : (options.map Prod.fst).Nodup) (fresh : p ∉ options.map Prod.fst) :
    ((options ++ [(p, value)]).map Prod.fst).Nodup := by
  rw [List.map_append, List.nodup_append]
  refine ⟨once, by simp, ?_⟩
  rintro q earlier _ last rfl
  obtain rfl : q = p := by simpa using last
  exact fresh earlier

theorem item_cases (item : Item) :
    (∃ word, item = .file word) ∨
      ∃ p value, item.file? = none ∧ item.option? = some (p, value) ∧
        ∀ s : Intake, s.use? item = accepted (s.assign p value) := by
  cases item with
  | file word => exact .inl ⟨word, rfl⟩
  | attached p value => exact .inr ⟨p, value, rfl, rfl, fun _ => rfl⟩
  | separate p value => exact .inr ⟨p, value, rfl, rfl, fun _ => rfl⟩

theorem use_all_some_iff (files : List Bytes) (options : List (Parameter × Bytes))
    (items : List Item) (t : Intake) (once : (options.map Prod.fst).Nodup) :
    (knowing files options).useAll? items = some t ↔
      Usable options items ∧ t = knowing (files ++ items.filterMap Item.file?)
        (options ++ items.filterMap Item.option?) := by
  induction items generalizing files options with
  | nil =>
      have usable : Usable options [] := ⟨by simp, by simp, by simpa using once⟩
      simp [useAll?, usable, eq_comm]
  | cons item items ih =>
      have step : (knowing files options).useAll? (item :: items) =
          ((knowing files options).use? item).bind (·.useAll? items) := List.foldlM_cons
      rw [step]
      rcases item_cases item with ⟨word, rfl⟩ | ⟨p, value, file, option, use⟩
      · have skipped : (Item.file word :: items).filterMap Item.option? =
            items.filterMap Item.option? := rfl
        rw [use_file, usable_file, skipped]
        by_cases empty : word = []
        · simp [empty]
        · rw [if_neg empty, Option.bind_some, ih _ _ once]
          simp [empty, Item.file?]
      · have added := fun fresh =>
          ih files (options ++ [(p, value)]) (once_added options p value once fresh)
        rw [use, Option.bind_eq_some_iff, usable_option options p value item items file option]
        simp only [assign_some_iff, List.filterMap_cons, file, option]
        constructor
        · rintro ⟨_, ⟨fresh, takes, rfl⟩, later⟩
          obtain ⟨usable, rfl⟩ := (added fresh).mp later
          exact ⟨⟨fresh, takes, usable⟩, by simp⟩
        · rintro ⟨⟨fresh, takes, usable⟩, rfl⟩
          exact ⟨_, ⟨fresh, takes, rfl⟩, (added fresh).mpr ⟨usable, by simp⟩⟩

def conclude? (s : Intake) (environment : Option Bytes) : Option Arguments :=
  (accepted (s.fallBack environment)).bind fun t =>
    if t.files = [] then none
    else some
      { files := t.files
        wording := t.wording.getD Wording.standard.required
        summaryFile := t.summaryFile
        logLevel := t.logLevel.getD "warn" }

theorem finish_concluded (s : Intake) (environment : Option Bytes) :
    (s.finish environment).toOption = s.settled?.bind (·.conclude? environment) := by
  unfold finish
  rcases s.settle_cases with ⟨e, failed, stuck⟩ | ⟨t, settled, known⟩
  · rw [failed, stuck]
    rfl
  · have fallen := proceed_accepted (t.fallBack environment)
    simp only [settled, known, Option.bind_some, conclude?]
    cases found : proceed (t.fallBack environment) with
    | error e =>
        rw [found] at fallen
        simp [← fallen, Except.toOption]
    | ok u =>
        rw [found] at fallen
        simp only [← fallen, Except.toOption, Option.bind_some]
        by_cases none : u.files = []
        · simp [none]
        · simp [none]

theorem fall_back_written (files : List Bytes) (options : List (Parameter × Bytes))
    (environment : Option Bytes) (written : .summaryFile ∈ options.map Prod.fst) :
    (knowing files options).fallBack environment = (knowing files options, none) := by
  cases environment with
  | none => rfl
  | some value => exact if_pos written

theorem fall_back_some_iff (files : List Bytes) (options : List (Parameter × Bytes))
    (environment : Option Bytes) (t : Intake) (unwritten : .summaryFile ∉ options.map Prod.fst) :
    accepted ((knowing files options).fallBack environment) = some t ↔
      environment ≠ some [] ∧
        t = knowing files (options ++ environment.toList.map (Parameter.summaryFile, ·)) := by
  cases environment with
  | none => simp [fallBack, accepted, eq_comm]
  | some value =>
      have assigned : (knowing files options).fallBack (some value) =
          (knowing files options).assign .summaryFile value := if_neg unwritten
      rw [assigned, assign_some_iff]
      simp [unwritten, Parameter.Takes]

theorem conclude_some_iff (files : List Bytes) (options : List (Parameter × Bytes))
    (environment : Option Bytes) (a : Arguments) (named : options.lookup .summaryFile ≠ some []) :
    (knowing files options).conclude? environment = some a ↔
      files ≠ [] ∧ (options.lookup .summaryFile).or environment ≠ some [] ∧
        a = { files := files.map Path.mk
              wording := ((options.lookup .wording).bind Utf8.string?).getD "failed to"
              summaryFile := ((options.lookup .summaryFile).or environment).map Path.mk
              logLevel := ((options.lookup .logLevel).bind Utf8.string?).getD "warn" } := by
  unfold conclude?
  cases written : options.lookup .summaryFile with
  | some value =>
      have member := lookup_present .summaryFile value written
      rw [fall_back_written files options environment member, accepted, Option.bind_some]
      rw [written] at named
      by_cases none : files = []
      · simp [none, knowing]
      · simp [none, knowing, written, named, Wording.standard, eq_comm]
  | none =>
      have unwritten := (lookup_absent_iff .summaryFile).mp written
      have same (p : Parameter) (other : p ≠ .summaryFile) :
          (options ++ environment.toList.map (Parameter.summaryFile, ·)).lookup p =
            options.lookup p := by
        have skipped : (p == .summaryFile) = false := by simpa using other
        cases environment <;> simp [List.lookup_append, List.lookup_cons, skipped]
      have read : (options ++ environment.toList.map (Parameter.summaryFile, ·)).lookup
          .summaryFile = environment := by
        cases environment <;> simp [List.lookup_append, written]
      rw [Option.bind_eq_some_iff]
      simp only [fall_back_some_iff files options environment _ unwritten, Option.none_or]
      constructor
      · rintro ⟨_, ⟨present, rfl⟩, done⟩
        by_cases none : files = []
        · simp [none, knowing] at done
        · refine ⟨none, present, ?_⟩
          simpa [none, knowing, same, read, Wording.standard, eq_comm] using done
      · rintro ⟨some, present, rfl⟩
        refine ⟨_, ⟨present, rfl⟩, ?_⟩
        simp [some, knowing, same, read, Wording.standard]

theorem says_iff (list : ArgumentList) (p : Parameter) (default text : String)
    (readable : ∀ value, list.options.lookup p = some value → ∃ text, value = bytesOf text) :
    list.Says p default text ↔
      text = ((list.options.lookup p).bind Utf8.string?).getD default := by
  have read (t : String) : Utf8.string? (bytesOf t) = some t :=
    (Utf8.string_some_iff (bytesOf t) t).mpr rfl
  have same (t : String) : bytesOf t = bytesOf text ↔ text = t := by
    rw [← Utf8.string_some_iff, read, Option.some_inj, eq_comm]
  unfold ArgumentList.Says
  cases found : list.options.lookup p with
  | none => exact same default
  | some value =>
      obtain ⟨written, rfl⟩ := readable value found
      rw [Option.getD_some, Option.bind_some, read, Option.getD_some, same]

theorem says_readable (list : ArgumentList) (p : Parameter) (default text : String) (value : Bytes)
    (told : list.Says p default text) (found : list.options.lookup p = some value) :
    ∃ text, value = bytesOf text := by
  rw [ArgumentList.Says, found] at told
  exact ⟨text, told⟩

theorem gives_usable (list : ArgumentList) (environment : Option Bytes) (a : Arguments)
    (gives : list.Gives environment a) : Usable [] list.all := by
  refine ⟨?_, ?_, ?_⟩
  · rw [list.files_all]
    exact gives.named
  · rw [list.options_all]
    rintro ⟨p, value⟩ member
    have found := (lookup_member_iff p value gives.once).mpr member
    cases p with
    | wording => exact says_readable list _ _ _ value gives.wording found
    | logLevel => exact says_readable list _ _ _ value gives.logLevel found
    | summaryFile =>
        rintro rfl
        exact gives.summaryFile.1 (by rw [found, Option.some_or])
  · rw [list.options_all, List.nil_append]
    exact gives.once

theorem usable_takes (list : ArgumentList) (p : Parameter) (value : Bytes)
    (usable : Usable [] list.all) (found : list.options.lookup p = some value) :
    p.Takes value := by
  have once := usable.once
  have taken := usable.taken
  rw [list.options_all] at once taken
  exact taken (p, value) ((lookup_member_iff p value once).mp found)

theorem gives_iff (list : ArgumentList) (environment : Option Bytes) (a : Arguments) :
    list.Gives environment a ↔ list.Spelled ∧ Usable [] list.all ∧
      (knowing list.files list.options).conclude? environment = some a := by
  constructor
  · intro gives
    have usable := gives_usable list environment a gives
    have takes := fun p value => usable_takes list p value usable
    refine ⟨gives.spelled, usable, ?_⟩
    rw [conclude_some_iff _ _ _ _ fun found => takes .summaryFile [] found rfl]
    obtain ⟨files, wording, summaryFile, logLevel⟩ := a
    obtain rfl := gives.files
    obtain rfl := (says_iff list .wording _ _ (takes .wording)).mp gives.wording
    obtain rfl := (says_iff list .logLevel _ _ (takes .logLevel)).mp gives.logLevel
    obtain rfl := gives.summaryFile.2
    exact ⟨gives.present, gives.summaryFile.1, rfl⟩
  · rintro ⟨spelled, usable, concluded⟩
    have takes := fun p value => usable_takes list p value usable
    rw [conclude_some_iff _ _ _ _ fun found => takes .summaryFile [] found rfl] at concluded
    obtain ⟨present, nonempty, rfl⟩ := concluded
    have once := usable.once
    have named := usable.named
    rw [list.options_all] at once
    rw [list.files_all] at named
    exact
      { spelled, once, named, present
        files := rfl
        wording := (says_iff list .wording _ _ (takes .wording)).mpr rfl
        summaryFile := ⟨nonempty, rfl⟩
        logLevel := (says_iff list .logLevel _ _ (takes .logLevel)).mpr rfl }

theorem parse_some_iff (arguments : List Bytes) (environment : Option Bytes) (a : Arguments) :
    (Arguments.parse arguments environment).toOption = some a ↔
      Arguments.parse arguments environment = .ok a := by
  cases Arguments.parse arguments environment <;> simp [Except.toOption]

theorem parse_read (arguments : List Bytes) (environment : Option Bytes) :
    (Arguments.parse arguments environment).toOption =
      (settledAfter (fresh.readAll arguments)).bind (·.conclude? environment) := by
  unfold Arguments.parse
  cases fresh.readAll arguments with
  | error e => rfl
  | ok s => exact s.finish_concluded environment

theorem parse_list (list : ArgumentList) (environment : Option Bytes) (a : Arguments)
    (spelled : list.Spelled) :
    Arguments.parse list.written environment = .ok a ↔ list.Gives environment a := by
  have ready : fresh.Ready := fresh.idle_ready rfl
  have start : fresh.settled? = some (knowing [] []) := rfl
  have used := fun t => use_all_some_iff [] [] list.all t .nil
  simp only [list.files_all, list.options_all, List.nil_append] at used
  rw [← parse_some_iff, parse_read, (fresh.read_list list ready spelled).same, start,
    Option.bind_some, Option.bind_eq_some_iff, gives_iff]
  constructor
  · rintro ⟨t, known, concluded⟩
    obtain ⟨usable, rfl⟩ := (used t).mp known
    exact ⟨spelled, usable, concluded⟩
  · rintro ⟨_, usable, concluded⟩
    exact ⟨_, (used _).mpr ⟨usable, rfl⟩, concluded⟩

theorem parse_iff (arguments : List Bytes) (environment : Option Bytes) (a : Arguments) :
    Arguments.parse arguments environment = .ok a ↔
      ∃ list : ArgumentList, arguments = list.written ∧ list.Gives environment a := by
  constructor
  · intro parsed
    rcases readable arguments with ⟨list, spelled, rfl⟩ | unread
    · exact ⟨list, rfl, (parse_list list environment a spelled).mp parsed⟩
    · have none := parse_read arguments environment
      rw [parsed, unread fresh (fresh.idle_ready rfl)] at none
      cases none
  · rintro ⟨list, rfl, gives⟩
    exact (parse_list list environment a gives.spelled).mpr gives

theorem parse_none (environment : Option Bytes) (a : Arguments) :
    Arguments.parse [] environment ≠ .ok a := by
  intro parsed
  have start : settledAfter (fresh.readAll []) = some (knowing [] []) := rfl
  rw [← parse_some_iff, parse_read, start, Option.bind_some,
    conclude_some_iff [] [] environment a (by simp)] at parsed
  exact parsed.1 rfl

end Intake

namespace ArgumentList

theorem lookup_reordered (options others : List (Parameter × Bytes)) (p : Parameter)
    (once : (options.map Prod.fst).Nodup) (reordered : others.Perm options) :
    others.lookup p = options.lookup p := by
  have still : (others.map Prod.fst).Nodup := (reordered.map Prod.fst).nodup_iff.mpr once
  ext value
  rw [lookup_member_iff p value still, lookup_member_iff p value once, reordered.mem_iff]

theorem gives_reordered (list other : ArgumentList) (environment : Option Bytes) (a : Arguments)
    (gives : list.Gives environment a) (spelled : other.Spelled) (same : other.files = list.files)
    (reordered : other.options.Perm list.options) : other.Gives environment a := by
  have found := fun p => lookup_reordered list.options other.options p gives.once reordered
  refine
    { spelled
      once := (reordered.map Prod.fst).nodup_iff.mpr gives.once
      named := same ▸ gives.named
      present := same ▸ gives.present
      files := same ▸ gives.files
      wording := ?_
      summaryFile := ?_
      logLevel := ?_ }
  · rw [Says, found]
    exact gives.wording
  · rw [Names, found]
    exact gives.summaryFile
  · rw [Says, found]
    exact gives.logLevel

end ArgumentList

namespace Arguments

theorem parse_grammar (environment : Option Bytes) :
    (∀ (argv : List Bytes) (a : Arguments), parse argv.tail environment = .ok a ↔
      ∃ (called : Bytes) (list : ArgumentList),
        argv = called :: list.written ∧ list.Gives environment a) ∧
    ∀ (list other : ArgumentList) (a : Arguments), list.Gives environment a → other.Spelled →
      other.files = list.files → other.options.Perm list.options →
        parse other.written environment = .ok a := by
  refine ⟨fun argv a => ?_, fun list other a gives spelled same reordered => ?_⟩
  · cases argv with
    | nil => simp [Intake.parse_none]
    | cons called arguments =>
        rw [List.tail_cons, Intake.parse_iff]
        constructor
        · rintro ⟨list, rfl, gives⟩
          exact ⟨called, list, rfl, gives⟩
        · rintro ⟨_, list, same, gives⟩
          exact ⟨list, (List.cons.inj same).2, gives⟩
  · have given := list.gives_reordered other environment a gives spelled same reordered
    exact (Intake.parse_list other environment a spelled).mpr given

end Arguments

namespace ArgumentList

def mixed : ArgumentList where
  items :=
    [.attached .wording [], .file (bytesOf "b.go"), .separate .logLevel (bytesOf "-"),
      .file (bytesOf "-"), .attached .summaryFile (bytesOf "=s")]
  behind := some [bytesOf "--prefix", bytesOf "--"]

def sorted : ArgumentList where
  items :=
    [.separate .summaryFile (bytesOf "=s"), .attached .logLevel (bytesOf "-"),
      .separate .wording []]
  behind := some [bytesOf "b.go", bytesOf "-", bytesOf "--prefix", bytesOf "--"]

end ArgumentList

namespace Arguments

def ofMixed : Arguments where
  files := [⟨bytesOf "b.go"⟩, ⟨bytesOf "-"⟩, ⟨bytesOf "--prefix"⟩, ⟨bytesOf "--"⟩]
  wording := ""
  summaryFile := some ⟨bytesOf "=s"⟩
  logLevel := "-"

theorem mixed_gives : ArgumentList.mixed.Gives (some []) ofMixed where
  spelled := by decide
  once := by decide
  named := by decide
  present := by decide
  files := by decide
  wording := by decide
  summaryFile := by decide
  logLevel := by decide

theorem parse_mixed_sorted :
    parse ArgumentList.mixed.written (some []) = .ok ofMixed ∧
      parse ArgumentList.sorted.written (some []) = .ok ofMixed :=
  ⟨((parse_grammar (some [])).1 (bytesOf "errorf-lint" :: ArgumentList.mixed.written) ofMixed).mpr
      ⟨_, _, rfl, mixed_gives⟩,
    (parse_grammar (some [])).2 .mixed .sorted ofMixed mixed_gives (by decide) (by decide)
      (by decide)⟩

end Arguments

end ErrorWording
