import ErrorWording.Proofs.CommandGrammar
import ErrorWording.Settings

set_option autoImplicit false

namespace ErrorWording

def Arguments.naming (a : Arguments) (path : Bytes) : Arguments :=
  { a with summaryFile := some ⟨path⟩ }

def Settings.naming (s : Settings) (path : Bytes) : Settings :=
  { s with summaryFile := some ⟨path⟩ }

namespace ArgumentList

def preceded (list : ArgumentList) (item : Item) : ArgumentList :=
  ⟨item :: list.items, list.behind⟩

theorem preceded_written (list : ArgumentList) (item : Item) :
    (list.preceded item).written = item.written ++ list.written := by
  simp only [preceded, written, List.flatMap_cons, List.append_assoc]

theorem preceded_files (list : ArgumentList) (item : Item) (file : item.file? = none) :
    (list.preceded item).files = list.files := by
  simp only [preceded, files, List.filterMap_cons, file]

theorem preceded_options (list : ArgumentList) (item : Item) (option : Parameter × Bytes)
    (given : item.option? = some option) :
    (list.preceded item).options = option :: list.options := by
  simp only [preceded, options, List.filterMap_cons, given]

theorem gives_unnamed (list : ArgumentList) (a : Arguments) (gives : list.Gives none a)
    (unnamed : a.summaryFile = none) : list.options.lookup .summaryFile = none := by
  have names := gives.summaryFile.2
  rw [unnamed, Option.or_none] at names
  exact Option.map_eq_none_iff.mp names.symm

theorem gives_environment (list : ArgumentList) (a : Arguments) (path : Bytes)
    (gives : list.Gives none a) (unnamed : a.summaryFile = none) (present : path ≠ []) :
    list.Gives (some path) (a.naming path) := by
  have absent := list.gives_unnamed a gives unnamed
  refine { gives with summaryFile := ?_ }
  rw [Names, absent, Option.none_or]
  exact ⟨fun empty => present (Option.some.inj empty), rfl⟩

theorem gives_flag (list : ArgumentList) (a : Arguments) (path : Bytes) (item : Item)
    (environment : Option Bytes) (gives : list.Gives none a) (unnamed : a.summaryFile = none)
    (present : path ≠ []) (spelled : item.Spelled) (file : item.file? = none)
    (option : item.option? = some (.summaryFile, path)) :
    (list.preceded item).Gives environment (a.naming path) := by
  have absent := list.gives_unnamed a gives unnamed
  have files := list.preceded_files item file
  have options := list.preceded_options item _ option
  have named : (list.preceded item).options.lookup .summaryFile = some path := by
    rw [options, List.lookup_cons_self]
  have others (p : Parameter) (other : p ≠ .summaryFile) :
      (list.preceded item).options.lookup p = list.options.lookup p := by
    have unequal : (p == .summaryFile) = false := by simpa using other
    rw [options, List.lookup_cons, unequal]
  refine
    { spelled := ?_
      once := ?_
      named := files ▸ gives.named
      present := files ▸ gives.present
      files := files ▸ gives.files
      wording := ?_
      summaryFile := ?_
      logLevel := ?_ }
  · intro other member
    cases member with
    | head => exact spelled
    | tail _ later => exact gives.spelled other later
  · rw [options, List.map_cons, List.nodup_cons]
    exact ⟨(lookup_absent_iff .summaryFile).mp absent, gives.once⟩
  · rw [Says, others .wording (by decide)]
    exact gives.wording
  · rw [Names, named, Option.some_or]
    exact ⟨fun empty => present (Option.some.inj empty), rfl⟩
  · rw [Says, others .logLevel (by decide)]
    exact gives.logLevel

end ArgumentList

namespace Settings

theorem of_arguments_ok_iff (a : Arguments) :
    (∃ s, ofArguments a = .ok s) ↔ a.wording ≠ "" := by
  unfold ofArguments
  by_cases empty : a.wording = ""
  · simp [empty]
  · simp [empty]

theorem of_arguments_naming (a : Arguments) (path : Bytes) (present : path ≠ []) :
    ofArguments (a.naming path) = (ofArguments a).map (·.naming path) := by
  unfold ofArguments Arguments.naming
  by_cases empty : a.wording = ""
  · simp [empty, Except.map]
  · simp [empty, present, Except.map, naming]

theorem linter_naming (s : Settings) (path : Bytes) (present : path ≠ []) :
    (s.naming path).linter = ⟨s.linter.wording, .file ⟨path⟩⟩ := by
  simp only [naming, linter, Destination.ofPath?, present, if_false]

end Settings

namespace Arguments

theorem parse_environment (arguments : List Bytes) (a : Arguments) (path : Bytes)
    (parsed : parse arguments none = .ok a) (unnamed : a.summaryFile = none)
    (present : path ≠ []) : parse arguments (some path) = .ok (a.naming path) := by
  obtain ⟨list, rfl, gives⟩ := (Intake.parse_iff arguments none a).mp parsed
  have given := list.gives_environment a path gives unnamed present
  exact (Intake.parse_list list (some path) _ given.spelled).mpr given

theorem parse_flag (arguments : List Bytes) (a : Arguments) (path : Bytes) (item : Item)
    (environment : Option Bytes) (parsed : parse arguments none = .ok a)
    (unnamed : a.summaryFile = none) (present : path ≠ []) (spelled : item.Spelled)
    (file : item.file? = none) (option : item.option? = some (.summaryFile, path)) :
    parse (item.written ++ arguments) environment = .ok (a.naming path) := by
  obtain ⟨list, rfl, gives⟩ := (Intake.parse_iff arguments none a).mp parsed
  have given := list.gives_flag a path item environment gives unnamed present spelled file option
  rw [← list.preceded_written item]
  exact (Intake.parse_list _ environment _ given.spelled).mpr given

theorem flag_attached (path : Bytes) :
    (Item.attached .summaryFile path).written = [bytesOf "--summary-file=" ++ path] := by
  have flag : bytesOf "--summary-file=" = Parameter.summaryFile.flag ++ [Token.equals] := by
    decide
  rw [Item.written, flag, List.append_assoc, List.singleton_append]

theorem naming_alike (arguments : List Bytes) (a : Arguments) (path : Bytes)
    (parsed : parse arguments none = .ok a) (unnamed : a.summaryFile = none)
    (present : path ≠ []) :
    parse arguments (some path) = .ok (a.naming path) ∧
    (∀ environment,
      parse ((bytesOf "--summary-file=" ++ path) :: arguments) environment =
          .ok (a.naming path) ∧
        (Token.IsWord path →
          parse (bytesOf "--summary-file" :: path :: arguments) environment =
            .ok (a.naming path))) ∧
    (a.wording ≠ "" → ∃ s, Settings.ofArguments a = .ok s ∧
      Settings.ofArguments (a.naming path) = .ok (s.naming path) ∧
        (s.naming path).linter = ⟨s.linter.wording, .file ⟨path⟩⟩) ∧
    (a.wording = "" → Settings.ofArguments a = .error .emptyWording ∧
      Settings.ofArguments (a.naming path) = .error .emptyWording) := by
  refine ⟨parse_environment arguments a path parsed unnamed present, ?_, ?_, ?_⟩
  · intro environment
    constructor
    · have read := parse_flag arguments a path (.attached .summaryFile path) environment parsed
        unnamed present trivial rfl rfl
      rwa [flag_attached, List.singleton_append] at read
    · intro word
      exact parse_flag arguments a path (.separate .summaryFile path) environment parsed unnamed
        present word rfl rfl
  · intro worded
    obtain ⟨s, accepted⟩ := (Settings.of_arguments_ok_iff a).mpr worded
    refine ⟨s, accepted, ?_, s.linter_naming path present⟩
    rw [Settings.of_arguments_naming a path present, accepted]
    rfl
  · intro empty
    exact ⟨if_pos empty, if_pos empty⟩

def flagLike : Arguments := ⟨[⟨bytesOf "--summary-file=t"⟩], "failed to", none, "warn"⟩

theorem naming_beside_terminator :
    parse [bytesOf "--", bytesOf "--summary-file=t"] none = .ok flagLike ∧
      parse [bytesOf "--", bytesOf "--summary-file=t"] (some (bytesOf "=s")) =
        .ok { flagLike with summaryFile := some ⟨bytesOf "=s"⟩ } ∧
      parse [bytesOf "--summary-file", bytesOf "=s", bytesOf "--", bytesOf "--summary-file=t"]
          (some []) =
        .ok { flagLike with summaryFile := some ⟨bytesOf "=s"⟩ } := by
  have parsed : parse [bytesOf "--", bytesOf "--summary-file=t"] none = .ok flagLike := rfl
  obtain ⟨environment, flag, _⟩ := naming_alike _ _ (bytesOf "=s") parsed rfl (by decide)
  exact ⟨parsed, environment, (flag (some [])).2 (by decide)⟩

theorem named_file_unselected :
    ¬ ∀ (arguments : List Bytes) (a : Arguments) (path : Bytes),
      parse arguments none = .ok a → a.summaryFile = none → path ≠ [] →
        ∃ b s, parse arguments (some path) = .ok b ∧ Settings.ofArguments b = .ok s ∧
          s.linter.destination = .file ⟨path⟩ := by
  intro selected
  obtain ⟨b, s, parsed, accepted, _⟩ := selected [bytesOf "--prefix=", bytesOf "a.go"]
    ⟨[⟨bytesOf "a.go"⟩], "", none, "warn"⟩ (bytesOf "s.md") rfl rfl (by decide)
  have read : parse [bytesOf "--prefix=", bytesOf "a.go"] (some (bytesOf "s.md")) =
      .ok ⟨[⟨bytesOf "a.go"⟩], "", some ⟨bytesOf "s.md"⟩, "warn"⟩ := rfl
  rw [read] at parsed
  cases parsed
  cases accepted

end Arguments

end ErrorWording
