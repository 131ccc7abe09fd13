import ErrorWording.Command.Parse

set_option autoImplicit false

namespace ErrorWording

namespace Program

def standardName : String := "errorf-lint"

def nameOf (called : Option Bytes) : String :=
  let names := ((called.getD []).splitOn 0x2F).filter fun name => name != [] && name != [0x2E]
  match names.getLast? with
  | none => standardName
  | some name =>
      if name = [0x2E, 0x2E] then standardName else (Utf8.string? name).getD standardName

def indented (text : String) : String :=
  String.ofList (text.toList.flatMap fun c =>
    if c = '\n' then '\n' :: List.replicate 31 ' ' else [c])

/-- The value of the variable is not marked, so a sequence that it leaves open goes on up to the
name of the next parameter. -/
def helpText (program : String) (environment : Option Bytes) : MarkedText :=
  .plain "Check that fmt.Errorf messages start with the required wording\n\n" ::
    UsageLine.general.render program ++
    [.plain <| "\n\n" ++
      "Arguments:\n" ++
      "  <FILE>...  Go source files to check\n\n" ++
      "Options:\n" ++
      "      --prefix <PREFIX>        Wording every error message must start with " ++
      "[default: \"failed to\"]\n" ++
      "      --summary-file <PATH>    File the run summary is appended to " ++
      "[env: GITHUB_STEP_SUMMARY=" ++ indented (Utf8.lossy (environment.getD [])) ++ "]\n" ++
      "      ",
    .emphasized "--log-level",
    .plain <| " <LOG_LEVEL>  Log level (trace, debug, info, warn, error) [default: warn]\n" ++
      "  -h, --help                   Print help\n" ++
      "  -V, --version                Print version\n"]

def versionText : String := standardName ++ " 0.1.0\n"

end Program

namespace Ending

def text (program : String) (environment : Option Bytes) : Ending → MarkedText
  | .query .help => Program.helpText program environment
  | .query .version => [.plain Program.versionText]
  | .fault f => f.render program

def render (manner : Printable.Manner) (program : String) (environment : Option Bytes)
    (e : Ending) : String :=
  Printable.shown manner (e.text program environment)

def isFault : Ending → Bool
  | .query _ => false
  | .fault _ => true

end Ending

end ErrorWording
