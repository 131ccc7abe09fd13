import ErrorWording.Command.Help
import ErrorWording.Journal.Filter
import ErrorWording.Settings

set_option autoImplicit false

namespace ErrorWording

structure Invocation where
  called : Option Bytes
  arguments : List Bytes
  summaryVariable : Option Bytes
  filterVariable : Option Bytes
deriving DecidableEq, Repr

structure Outcome where
  exitCode : Nat
  store : Store
  outlet : Output
  messages : String
deriving DecidableEq, Repr

namespace Level

def padded (l : Level) : String :=
  String.ofList (l.name.toList ++ List.replicate (5 - l.name.length) ' ')

end Level

namespace Record

def indentedText (r : Record) : String :=
  String.ofList (r.text.toList.flatMap fun c =>
    if c = '\n' then ['\n', ' ', ' ', ' ', ' '] else [c])

def render (time : String) (r : Record) : String :=
  let line := "[" ++ time ++ " " ++ r.level.padded ++ " " ++ r.target ++ "] " ++ r.indentedText
  Printable.shown .stream [.plain (line ++ "\n")]

end Record

namespace RunFault

def text : RunFault → String
  | .output (.refused f) => f.text
  | .output .stalled => Fault.Kind.interrupted.text
  | .overflow => Tally.overflowText

end RunFault

namespace Program

def failure (text : String) : String :=
  "error: " ++ text ++ "\n"

def warningLine (text : String) : String :=
  "warning: " ++ text ++ ", ignoring it\n"

def filterText (i : Invocation) (s : Settings) : List Char :=
  -- The variable counts even when it is empty, and not at all when it is no text.
  (i.filterVariable.bind Utf8.decode?).getD s.logLevel.toList

def messagesOf (time : String) (written : List Char) (journal : List Record) : String :=
  let (filter, warnings) := Filter.parse written
  String.join (warnings.map warningLine) ++
    String.join ((journal.filter filter.shows).map (·.render time))

inductive Plan where
  | answer (text : String)
  | refuse (text : String)
  | lint (s : Settings)
deriving DecidableEq, Repr

def plan (i : Invocation) : Plan :=
  match Arguments.parse i.arguments i.summaryVariable with
  | .error e =>
      let text := e.render .stream (nameOf i.called) i.summaryVariable
      if e.isFault then .refuse text else .answer text
  | .ok a =>
      match Settings.ofArguments a with
      | .error f => .refuse (failure f.text)
      | .ok s => .lint s

def verdict : Except RunFault Tally → Nat × String
  | .ok t => (t.exitCode, "")
  | .error f => (1, failure f.text)

def lint (time : String) (i : Invocation) (s : Settings) (store : Store) (outlet : Outlet) :
    Outcome :=
  let start : World := ⟨store, outlet, [.started s.files.length]⟩
  let (world, result) := s.linter.run start s.files
  let messages := messagesOf time (filterText i s) world.journal
  ⟨(verdict result).1, world.store, world.outlet, messages ++ (verdict result).2⟩

def run (time : String) (i : Invocation) (store : Store) (outlet : Outlet) : Outcome :=
  match plan i with
  -- Whether the output takes the answer is not looked at.
  | .answer text => ⟨0, store, (outlet.offer (bytesOf text)).1, ""⟩
  | .refuse text => ⟨1, store, outlet, text⟩
  | .lint s => lint time i s store outlet

end Program

end ErrorWording
