set_option autoImplicit false

namespace ErrorWording

inductive Parameter where
  | wording
  | summaryFile
  | logLevel
deriving DecidableEq, Repr

inductive Query where
  | help
  | version
deriving DecidableEq, Repr

inductive Switch where
  | parameter (p : Parameter)
  | query (q : Query)
deriving DecidableEq, Repr

namespace Parameter

def all : List Parameter := [.wording, .summaryFile, .logLevel]

def name : Parameter → String
  | .wording => "prefix"
  | .summaryFile => "summary-file"
  | .logLevel => "log-level"

def usage : Parameter → String
  | .wording => "--prefix <PREFIX>"
  | .summaryFile => "--summary-file <PATH>"
  | .logLevel => "--log-level <LOG_LEVEL>"

end Parameter

namespace Query

def name : Query → String
  | .help => "help"
  | .version => "version"

def letter : Query → Char
  | .help => 'h'
  | .version => 'V'

def ofLetter? (c : Char) : Option Query :=
  [Query.help, .version].find? (·.letter == c)

end Query

namespace Switch

def all : List Switch :=
  Parameter.all.map .parameter ++ [.query .help, .query .version]

def name : Switch → String
  | .parameter p => p.name
  | .query q => q.name

def flag (s : Switch) : String :=
  "--" ++ s.name

def usage : Switch → String
  | .parameter p => p.usage
  | .query q => "--" ++ q.name

def ofName? (name : String) : Option Switch :=
  all.find? (·.name == name)

end Switch

end ErrorWording
