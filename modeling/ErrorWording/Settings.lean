import ErrorWording.Command.Arguments
import ErrorWording.Linter

set_option autoImplicit false

namespace ErrorWording

structure Settings where
  files : List Path
  wording : String
  summaryFile : Option Path
  logLevel : String
deriving DecidableEq, Repr

inductive SettingsFault where
  | emptyWording
deriving DecidableEq, Repr

def SettingsFault.text : SettingsFault → String
  | .emptyWording => "--prefix must not be empty"

namespace Settings

def ofArguments (a : Arguments) : Except SettingsFault Settings :=
  if a.wording = "" then .error .emptyWording
  else
    .ok
      { files := a.files
        wording := a.wording
        -- An empty path stands for none.
        summaryFile := a.summaryFile.filter fun p => p.bytes != []
        logLevel := a.logLevel }

def linter (s : Settings) : Linter where
  wording := ⟨s.wording⟩
  destination := .ofPath? s.summaryFile

end Settings

end ErrorWording
