import ErrorWording.Command.Switch
import ErrorWording.Text.Printable
import ErrorWording.Text.Utf8

set_option autoImplicit false

namespace ErrorWording

inductive Operand where
  | parameter (p : Parameter)
  | files
deriving DecidableEq, Repr

def Operand.usage : Operand → String
  | .parameter p => p.usage
  | .files => "<FILE>..."

inductive UsageLine where
  | general
  | listing (given : List Switch)
  | instead (q : Query)
deriving DecidableEq, Repr

inductive UsageFault where
  | noValue (operand : Operand)
  | undecodable
  | repeated (p : Parameter)
  | noFiles (given : List Switch)
  | needlessValue (q : Query) (value : Bytes) (started : Bool)
  | unknownLong (name : Bytes) (similar : Option Switch) (line : UsageLine)
  | unknownLetter (letter : String)
deriving DecidableEq, Repr

namespace UsageLine

def operands : UsageLine → String
  | .general => " [OPTIONS] <FILE>..."
  | .listing given => String.join (given.map fun s => " " ++ s.usage) ++ " <FILE>..."
  | .instead q =>
      " --" ++ q.name ++ " <FILE|" ++
        String.intercalate "|" (Parameter.all.map (·.usage)) ++ ">"

def render (program : String) (line : UsageLine) : MarkedText :=
  [.plain "Usage: ", .emphasized program, .plain line.operands]

end UsageLine

namespace UsageFault

def unexpected (argument : String) : MarkedText :=
  [.plain "unexpected argument '", .emphasized argument, .plain "' found"]

def escapeTip (argument : String) : MarkedText :=
  [.plain "to pass '", .emphasized argument, .plain "' as a value, use '",
    .emphasized ("-- " ++ argument), .plain "'"]

def problem : UsageFault → MarkedText
  | .noValue operand =>
      [.plain ("a value is required for '" ++ operand.usage ++ "' but none was supplied")]
  | .undecodable => [.plain "invalid UTF-8 was detected in one or more arguments"]
  | .repeated p => [.plain ("the argument '" ++ p.usage ++ "' cannot be used multiple times")]
  | .noFiles _ =>
      [.plain "the following required arguments were not provided:\n  <FILE>..."]
  | .needlessValue q value _ =>
      [.plain "unexpected value '", .emphasized (Utf8.lossy value),
        .plain ("' for '--" ++ q.name ++ "' found; no more were expected")]
  | .unknownLong name _ _ => unexpected ("--" ++ Utf8.lossy name)
  | .unknownLetter letter => unexpected ("-" ++ letter)

def tip? : UsageFault → Option MarkedText
  | .unknownLong _ (some similar) _ =>
      some [.plain ("a similar argument exists: '" ++ similar.flag ++ "'")]
  | .unknownLong name none _ => some (escapeTip ("--" ++ Utf8.lossy name))
  | .unknownLetter letter => some (escapeTip ("-" ++ letter))
  | _ => none

def usageLine? : UsageFault → Option UsageLine
  | .noValue _ => none
  | .undecodable => some .general
  | .repeated _ => some .general
  | .noFiles given => some (.listing given)
  | .needlessValue q _ started => some (if started then .instead q else .listing [.query q])
  | .unknownLong _ _ line => some line
  | .unknownLetter _ => some .general

def render (program : String) (f : UsageFault) : MarkedText :=
  .plain "error: " :: f.problem ++ .plain "\n\n" ::
    f.tip?.elim [] (fun tip => .plain "  tip: " :: tip ++ [.plain "\n\n"]) ++
    f.usageLine?.elim [] (fun line => line.render program ++ [.plain "\n\n"]) ++
    [.plain "For more information, try '--help'.\n"]

end UsageFault

end ErrorWording
