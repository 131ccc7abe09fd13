import ErrorWording.Program
import Std.Time

set_option autoImplicit false

namespace ErrorWording.CommandLine

def faultOf (e : IO.Error) : Fault :=
  match e with
  | .alreadyExists _ code _ | .interrupted _ code _ | .noFileOrDirectory _ code _
  | .invalidArgument _ code _ | .permissionDenied _ code _ | .resourceExhausted _ code _
  | .inappropriateType _ code _ | .noSuchThing _ code _ => .code code.toNat
  | .otherError code _ | .resourceBusy code _ | .resourceVanished code _
  | .unsupportedOperation code _ | .hardwareFault code _ | .unsatisfiedConstraints code _
  | .illegalOperation code _ | .protocolError code _ | .timeExpired code _ =>
      .code code.toNat
  | .unexpectedEof => .bare .unexpectedEof
  | .userError text => .described .other text

def attempt {α : Type} (act : IO α) : IO (Except Fault α) :=
  try
    return .ok (← act)
  catch e =>
    return .error (faultOf e)

def bytesOfArray (bytes : ByteArray) : Bytes :=
  bytes.data.toList

def arrayOf (bytes : Bytes) : ByteArray :=
  ⟨bytes.toArray⟩

def openFile (p : Path) (mode : IO.FS.Mode) : IO (Except Fault IO.FS.Handle) :=
  match p.fault?, Utf8.string? p.bytes with
  | some f, _ => return .error f
  | none, none => return .error .missingEntry
  | none, some name => attempt (IO.FS.Handle.mk name mode)

def deliveries (p : Path) : IO (Except Fault (List Delivery)) := do
  match ← openFile p .read with
  | .error f => return .error f
  | .ok handle =>
      match ← attempt handle.readBinToEnd with
      | .error f => return .ok [.failure f]
      | .ok content => return .ok [.bytes (bytesOfArray content)]

def addAll (handle : IO.FS.Handle) : List Bytes → IO Unit
  | [] => return ()
  | piece :: rest => do
      handle.write (arrayOf piece)
      handle.flush
      addAll handle rest

def append (p : Path) (pieces : List Bytes) : IO (Option Fault) := do
  match ← openFile p .append with
  | .error f => return some f
  | .ok handle =>
      match ← attempt (addAll handle pieces) with
      | .error f => return some f
      | .ok () => return none

def put (pieces : List Bytes) : IO (Option Halt) := do
  let output ← IO.getStdout
  match ← attempt (do output.write (arrayOf pieces.flatten); output.flush) with
  | .error f => return some (.refused f)
  | .ok () => return none

def flush : IO (Option Halt) := do
  let output ← IO.getStdout
  match ← attempt output.flush with
  | .error f => return some (.refused f)
  | .ok () => return none

def now : IO String := do
  let time ← Std.Time.Timestamp.now
  let time := Std.Time.DateTime.ofTimestamp time Std.Time.TimeZone.ZoneRules.UTC
  return time.format "uuuu-MM-dd'T'HH:mm:ss'Z'"

def note (filter : Filter) (r : Record) : IO Unit := do
  if filter.shows r then
    IO.eprint (r.render (← now))

def services (filter : Filter) : Services IO where
  read := deliveries
  append := append
  write := put
  flush := flush
  note := note filter

def lint (i : Invocation) (s : Settings) : IO UInt32 := do
  let (filter, warnings) := Filter.parse (Program.filterText i s)
  for warning in warnings do
    IO.eprint (Program.warningLine warning)
  note filter (.started s.files.length)
  let result ← (services filter).run s.linter s.files
  IO.eprint (Program.verdict result).2
  return (Program.verdict result).1.toUInt32

end ErrorWording.CommandLine

open ErrorWording in
def main (arguments : List String) : IO UInt32 := do
  let invocation : Invocation :=
    { called := none
      arguments := arguments.map bytesOf
      summaryVariable := (← IO.getEnv "GITHUB_STEP_SUMMARY").map bytesOf
      filterVariable := (← IO.getEnv "RUST_LOG").map bytesOf }
  match Program.plan invocation with
  | .answer text =>
      discard <| CommandLine.put [bytesOf text]
      return 0
  | .refuse text =>
      IO.eprint text
      return 1
  | .lint s => CommandLine.lint invocation s
