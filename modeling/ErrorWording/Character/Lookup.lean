import ErrorWording.Character.Age
import ErrorWording.Character.Break
import ErrorWording.Character.Script
import ErrorWording.Character.Trait

set_option autoImplicit false

namespace ErrorWording

inductive PropertyQuery where
  | named (name : List Char)
  | valued (name value : List Char)
deriving DecidableEq, Repr

inductive PropertyProblem where
  | unknownProperty
  | unknownValue
deriving DecidableEq, Repr

namespace PropertyQuery

def significant (c : Char) : Bool :=
  c.toNat < 0x80 && c != ' ' && c != '_' && c != '-'

def looseName (written : List Char) : String :=
  let lowered (text : List Char) := (text.filter significant).map Char.toLower
  match written with
  | first :: second :: rest =>
      if (first = 'i' ∨ first = 'I') ∧ (second = 's' ∨ second = 'S') then
        if lowered rest = ['c'] then "isc" else String.ofList (lowered rest)
      else String.ofList (lowered written)
  | _ => String.ofList (lowered written)

def knownProperties : List String :=
  ["age", "bc", "bidiclass", "bidimirroringglyph", "bidipairedbracket",
    "bidipairedbrackettype", "blk", "block", "bmg", "bpb", "bpt", "canonicalcombiningclass",
    "casefolding", "ccc", "ce", "cf", "changeswhennfkccasefolded", "cjkaccountingnumeric",
    "cjkcompatibilityvariant", "cjkiicore", "cjkirggsource", "cjkirghsource",
    "cjkirgjsource", "cjkirgksource", "cjkirgkpsource", "cjkirgmsource", "cjkirgssource",
    "cjkirgtsource", "cjkirgusource", "cjkirguksource", "cjkirgvsource", "cjkothernumeric",
    "cjkprimarynumeric", "cjkrsunicode", "compex", "compositionexclusion", "cwkcf",
    "decompositionmapping", "decompositiontype", "dm", "dt", "ea", "eastasianwidth",
    "equideo", "equivalentunifiedideograph", "expandsonnfc", "expandsonnfd",
    "expandsonnfkc", "expandsonnfkd", "fcnfkc", "fcnfkcclosure",
    "fullcompositionexclusion", "gc", "gcb", "generalcategory", "graphemeclusterbreak",
    "hangulsyllabletype", "hst", "incb", "indicconjunctbreak",
    "indicpositionalcategory", "indicsyllabiccategory", "inpc", "insc", "isc",
    "isocomment", "jamoshortname", "jg", "joininggroup", "joiningtype", "jsn", "jt",
    "kaccountingnumeric", "kcompatibilityvariant", "kehcat", "kehdesc", "kehhg", "kehifao",
    "kehjsesh", "kehnomirror", "kehnorotate", "kiicore", "kirggsource", "kirghsource",
    "kirgjsource", "kirgkpsource", "kirgksource", "kirgmsource", "kirgssource",
    "kirgtsource", "kirguksource", "kirgusource", "kirgvsource", "kmandarin",
    "kothernumeric", "kprimarynumeric", "krsunicode", "ktotalstrokes", "kunihancore2020",
    "lb", "lc", "linebreak", "lowercasemapping", "na", "na1", "name", "namealias", "nfcqc",
    "nfcquickcheck", "nfdqc", "nfdquickcheck", "nfkccasefold", "nfkccf", "nfkcqc",
    "nfkcquickcheck", "nfkcscf", "nfkcsimplecasefold", "nfkdqc", "nfkdquickcheck", "nt",
    "numerictype", "numericvalue", "nv", "oalpha", "odi", "ogrext", "oidc", "oids",
    "olower", "omath", "otheralphabetic", "otherdefaultignorablecodepoint",
    "othergraphemeextend", "otheridcontinue", "otheridstart", "otherlowercase",
    "othermath", "otheruppercase", "oupper", "sb", "sc", "scf", "script",
    "scriptextensions", "scx", "sentencebreak", "sfc", "simplecasefolding",
    "simplelowercasemapping", "simpletitlecasemapping", "simpleuppercasemapping", "slc",
    "stc", "suc", "tc", "titlecasemapping", "uc", "unicode1name", "unicoderadicalstroke",
    "uppercasemapping", "urs", "verticalorientation", "vo", "wb", "wordbreak", "xonfc",
    "xonfd", "xonfkc", "xonfkd"]

def orUnknownValue (found : Option CharSet) : Except PropertyProblem CharSet :=
  match found with
  | some set => .ok set
  | none => .error .unknownValue

def category? (name : String) : Option CharSet :=
  if name = "any" then some .any
  else if name = "ascii" then some .ascii
  else if name = "assigned" then some Category.unassigned.complement
  else if name = "cn" ∨ name = "unassigned" then some Category.unassigned
  else if name = "c" ∨ name = "other" then
    some (Category.unassigned.union (.unionAll [Category.control.set, Category.format.set,
      Category.privateUse.set]))
  else (Category.named.find? (name ∈ ·.1)).map fun entry => Category.unionOf entry.2

def surrogates : List String := ["cs", "surrogate"]

def ofName (name : String) : Except PropertyProblem CharSet :=
  let property := name ∉ ["cf", "sc", "lc"]
  match Trait.named? name, category? name, Script.named? name with
  | some t, _, _ => .ok t.set
  | none, some set, _ => if property ∧ name ∈ knownProperties then .error .unknownProperty else .ok set
  | none, none, some s => .ok s.set
  | none, none, none =>
      if name ∈ surrogates ∨ name ∈ Script.unused then .error .unknownValue
      else .error .unknownProperty

def ofValue (property value : String) : Except PropertyProblem CharSet :=
  let among (names : List String) := property ∈ names
  if among ["gc", "generalcategory"] then orUnknownValue (category? value)
  else if among ["sc", "script"] then orUnknownValue ((Script.named? value).map (·.set))
  else if among ["scx", "scriptextensions"] then
    orUnknownValue ((Script.named? value).map (·.extension))
  else if among ["age"] then orUnknownValue (Age.named? value)
  else if among ["gcb", "graphemeclusterbreak"] then
    orUnknownValue (Break.named? Break.graphemes value)
  else if among ["wb", "wordbreak"] then orUnknownValue (Break.named? Break.words value)
  else if among ["sb", "sentencebreak"] then orUnknownValue (Break.named? Break.sentences value)
  else if property ∈ knownProperties ∨ (Trait.named? property).isSome then .error .unknownValue
  else .error .unknownProperty

def set : PropertyQuery → Except PropertyProblem CharSet
  | .named name => ofName (looseName name)
  | .valued name value => ofValue (looseName name) (looseName value)

end PropertyQuery

namespace CharSet

def traitOf (name : String) : CharSet :=
  ((Trait.named? name).map (·.set)).getD .empty

def word : CharSet :=
  .unionAll
    [traitOf "alphabetic", traitOf "joincontrol",
      Category.unionOf [.nonspacingMark, .spacingMark, .enclosingMark, .decimalNumber,
        .connectorPunctuation]]

def digit : CharSet := Category.decimalNumber.set

def blank : CharSet := traitOf "whitespace"

def alphabetic : CharSet := traitOf "alphabetic"

def numeric : CharSet := Category.unionOf [.decimalNumber, .letterNumber, .otherNumber]

end CharSet

end ErrorWording
