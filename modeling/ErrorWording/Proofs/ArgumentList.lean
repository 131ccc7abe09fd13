import ErrorWording.Command.Parse
import ErrorWording.Proofs.Encoding

set_option autoImplicit false

namespace ErrorWording

namespace Token

def IsWord (argument : Bytes) : Prop :=
  argument = [hyphen] ∨ argument.head? ≠ some hyphen

instance : DecidablePred IsWord :=
  fun _ => inferInstanceAs (Decidable (_ ∨ _))

def written : Token → Bytes
  | .terminator => [hyphen, hyphen]
  | .long name none => hyphen :: hyphen :: name
  | .long name (some value) => hyphen :: hyphen :: (name ++ equals :: value)
  | .letters cluster => hyphen :: cluster
  | .word bytes => bytes

def Proper : Token → Prop
  | .terminator => True
  | .long name attached => equals ∉ name ∧ (name = [] → attached.isSome)
  | .letters cluster => cluster ≠ [] ∧ cluster.head? ≠ some hyphen
  | .word bytes => IsWord bytes

theorem unequal_all (name : Bytes) (free : equals ∉ name) : ∀ b ∈ name, (b != equals) = true := by
  intro b member
  simp only [bne_iff_ne]
  rintro rfl
  exact free member

theorem of_long_unequal (name : Bytes) (free : equals ∉ name) : ofLong name = .long name none := by
  have rest : name.dropWhile (· != equals) = [] := by
    rw [← List.append_nil name, List.dropWhile_append_of_pos (unequal_all name free)]
    rfl
  rw [ofLong, rest]

theorem of_long_equals (name value : Bytes) (free : equals ∉ name) :
    ofLong (name ++ equals :: value) = .long name (some value) := by
  have all := unequal_all name free
  rw [ofLong, List.dropWhile_append_of_pos all, List.takeWhile_append_of_pos all]
  simp

theorem long_body (body : Bytes) :
    equals ∉ body ∨ ∃ name value, body = name ++ equals :: value ∧ equals ∉ name := by
  by_cases free : equals ∈ body
  · obtain ⟨name, value, rfl, unequal⟩ := List.eq_append_cons_of_mem free
    exact .inr ⟨name, value, rfl, unequal⟩
  · exact .inl free

theorem of_argument_written (t : Token) (proper : t.Proper) : ofArgument t.written = t := by
  cases t with
  | terminator => rfl
  | long name attached =>
      obtain ⟨free, named⟩ := proper
      cases attached with
      | none =>
          have present : name ≠ [] := fun nameless => absurd (named nameless) (by simp)
          simp only [written, ofArgument, if_true, if_neg present]
          exact of_long_unequal name free
      | some value =>
          have present : name ++ equals :: value ≠ [] := by simp
          simp only [written, ofArgument, if_true, if_neg present]
          exact of_long_equals name value free
  | letters cluster =>
      obtain ⟨present, single⟩ := proper
      obtain ⟨b, rest, rfl⟩ := List.exists_cons_of_ne_nil present
      have other : b ≠ hyphen := fun same => single (by rw [same, List.head?_cons])
      simp only [written, ofArgument, if_true, if_neg other]
  | word bytes =>
      rcases proper with rfl | free
      · rfl
      · cases bytes with
        | nil => rfl
        | cons b rest =>
            have other : b ≠ hyphen := fun same => free (by rw [same, List.head?_cons])
            simp only [written, ofArgument, if_neg other]

theorem argument_read (argument : Bytes) : ∃ t : Token, t.Proper ∧ argument = t.written := by
  cases argument with
  | nil => exact ⟨.word [], .inr (by simp), rfl⟩
  | cons first rest =>
      by_cases starts : first = hyphen
      · subst starts
        cases rest with
        | nil => exact ⟨.word [hyphen], .inl rfl, rfl⟩
        | cons second body =>
            by_cases double : second = hyphen
            · subst double
              rcases long_body body with free | ⟨name, value, rfl, free⟩
              · by_cases empty : body = []
                · exact ⟨.terminator, trivial, by rw [empty]; rfl⟩
                · exact ⟨.long body none, ⟨free, fun same => absurd same empty⟩, rfl⟩
              · exact ⟨.long name (some value), ⟨free, fun _ => rfl⟩, rfl⟩
            · exact ⟨.letters (second :: body), ⟨by simp, by simpa using double⟩, rfl⟩
      · exact ⟨.word (first :: rest), .inr (by simpa using starts), rfl⟩

end Token

theorem Utf8.string_some_iff (bytes : Bytes) (text : String) :
    string? bytes = some text ↔ bytes = bytesOf text := by
  rw [string?, Option.map_eq_some_iff, bytesOf]
  constructor
  · rintro ⟨characters, decoded, rfl⟩
    rw [String.toList_ofList]
    exact (decode_some_iff bytes characters).mp decoded
  · rintro rfl
    exact ⟨text.toList, decode_encode text.toList, String.ofList_toList⟩

namespace Parameter

def flag (p : Parameter) : Bytes :=
  bytesOf (Switch.parameter p).flag

theorem flag_name (p : Parameter) :
    p.flag = Token.hyphen :: Token.hyphen :: bytesOf p.name := by
  cases p <;> decide

theorem name_proper (p : Parameter) (attached : Option Bytes) :
    (Token.long (bytesOf p.name) attached).Proper := by
  cases p <;> exact ⟨by decide, fun nameless => absurd nameless (by decide)⟩

theorem known_name_iff (name : Bytes) (p : Parameter) :
    (Utf8.string? name).bind Switch.ofName? = some (.parameter p) ↔ name = bytesOf p.name := by
  constructor
  · intro known
    obtain ⟨text, read, found⟩ := Option.bind_eq_some_iff.mp known
    have named : p.name = text := by simpa [Switch.name] using List.find?_some found
    rw [named, (Utf8.string_some_iff name text).mp read]
  · rintro rfl
    rw [(Utf8.string_some_iff (bytesOf p.name) p.name).mpr rfl]
    cases p <;> decide

end Parameter

inductive Item where
  | file (word : Bytes)
  | attached (p : Parameter) (value : Bytes)
  | separate (p : Parameter) (value : Bytes)
deriving DecidableEq, Repr

namespace Item

def written : Item → List Bytes
  | .file word => [word]
  | .attached p value => [p.flag ++ Token.equals :: value]
  | .separate p value => [p.flag, value]

theorem attached_written (p : Parameter) (value : Bytes) :
    (Item.attached p value).written = [(Token.long (bytesOf p.name) (some value)).written] := by
  rw [written, p.flag_name]
  rfl

theorem separate_written (p : Parameter) (value : Bytes) :
    (Item.separate p value).written = [(Token.long (bytesOf p.name) none).written, value] := by
  rw [written, p.flag_name]
  rfl

/-- What stands alone must not look like a switch. -/
def Spelled : Item → Prop
  | .file word => Token.IsWord word
  | .attached _ _ => True
  | .separate _ value => Token.IsWord value

instance : DecidablePred Spelled
  | .file word => inferInstanceAs (Decidable (Token.IsWord word))
  | .attached _ _ => inferInstanceAs (Decidable True)
  | .separate _ value => inferInstanceAs (Decidable (Token.IsWord value))

def file? : Item → Option Bytes
  | .file word => some word
  | _ => none

def option? : Item → Option (Parameter × Bytes)
  | .file _ => none
  | .attached p value => some (p, value)
  | .separate p value => some (p, value)

end Item

structure ArgumentList where
  items : List Item
  behind : Option (List Bytes)
deriving DecidableEq, Repr

namespace ArgumentList

def written (list : ArgumentList) : List Bytes :=
  list.items.flatMap Item.written ++ list.behind.elim [] (bytesOf "--" :: ·)

def Spelled (list : ArgumentList) : Prop :=
  ∀ item ∈ list.items, item.Spelled

instance : DecidablePred Spelled :=
  fun list => inferInstanceAs (Decidable (∀ item ∈ list.items, item.Spelled))

def files (list : ArgumentList) : List Bytes :=
  list.items.filterMap Item.file? ++ list.behind.getD []

def options (list : ArgumentList) : List (Parameter × Bytes) :=
  list.items.filterMap Item.option?

def all (list : ArgumentList) : List Item :=
  list.items ++ (list.behind.getD []).map .file

theorem files_all (list : ArgumentList) : list.all.filterMap Item.file? = list.files := by
  simp [all, files, List.filterMap_map, Item.file?, Function.comp_def]

theorem options_all (list : ArgumentList) : list.all.filterMap Item.option? = list.options := by
  simp [all, options, List.filterMap_map, Item.option?, Function.comp_def]

/-- The text that a parameter stands for: its value, which must be one, or else its default. -/
def Says (list : ArgumentList) (p : Parameter) (default text : String) : Prop :=
  (list.options.lookup p).getD (bytesOf default) = bytesOf text

instance (list : ArgumentList) (p : Parameter) (default text : String) :
    Decidable (list.Says p default text) :=
  inferInstanceAs (Decidable (_ = _))

/-- The summary file is the one written, or else the environment's. An empty path is refused. -/
def Names (list : ArgumentList) (environment : Option Bytes) (file : Option Path) : Prop :=
  (list.options.lookup .summaryFile).or environment ≠ some [] ∧
    file = ((list.options.lookup .summaryFile).or environment).map Path.mk

instance (list : ArgumentList) (environment : Option Bytes) (file : Option Path) :
    Decidable (list.Names environment file) :=
  inferInstanceAs (Decidable (_ ∧ _))

structure Gives (list : ArgumentList) (environment : Option Bytes) (a : Arguments) : Prop where
  spelled : list.Spelled
  once : (list.options.map Prod.fst).Nodup
  named : [] ∉ list.files
  present : list.files ≠ []
  files : a.files = list.files.map Path.mk
  wording : list.Says .wording "failed to" a.wording
  summaryFile : list.Names environment a.summaryFile
  logLevel : list.Says .logLevel "warn" a.logLevel

end ArgumentList

end ErrorWording
