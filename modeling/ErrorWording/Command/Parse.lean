import ErrorWording.Command.Arguments
import ErrorWording.Command.Similarity
import ErrorWording.Command.Token
import ErrorWording.Command.Usage

set_option autoImplicit false

namespace ErrorWording

inductive Waiting where
  | parameter (p : Parameter) (value : Option Bytes)
  | files (paths : List Bytes)
deriving DecidableEq, Repr

/-- What is known after some arguments. `given` has the parameters in the order in which they were
taken up, and `filesSeen` tells whether any file was. -/
structure Intake where
  files : List Path
  wording : Option String
  summaryFile : Option Path
  logLevel : Option String
  given : List Parameter
  filesSeen : Bool
  waiting : Option Waiting
deriving DecidableEq, Repr

inductive Ending where
  | query (q : Query)
  | fault (f : UsageFault)
deriving DecidableEq, Repr

namespace Intake

def fresh : Intake := ⟨[], none, none, none, [], false, none⟩

def started (s : Intake) : Bool :=
  s.filesSeen || s.given != []

def switches (s : Intake) : List Switch :=
  s.given.map .parameter

def assign (s : Intake) (p : Parameter) (value : Bytes) : Intake × Option UsageFault :=
  if p ∈ s.given then ({ s with given := s.given.erase p }, some (.repeated p))
  else
    let s := { s with given := s.given ++ [p] }
    match p, Utf8.string? value with
    | .summaryFile, _ =>
        if value = [] then (s, some (.noValue (.parameter .summaryFile)))
        else ({ s with summaryFile := some ⟨value⟩ }, none)
    | .wording, some text => ({ s with wording := some text }, none)
    | .logLevel, some text => ({ s with logLevel := some text }, none)
    | _, none => (s, some .undecodable)

def settle (s : Intake) : Intake × Option UsageFault :=
  match s.waiting with
  | none => (s, none)
  | some (.parameter p none) => ({ s with waiting := none }, some (.noValue (.parameter p)))
  | some (.parameter p (some value)) => { s with waiting := none }.assign p value
  | some (.files paths) =>
      let s := { s with waiting := none, filesSeen := true }
      if [] ∈ paths then (s, some (.noValue .files))
      else ({ s with files := s.files ++ paths.map Path.mk }, none)

def proceed : Intake × Option UsageFault → Except Ending Intake
  | (s, none) => .ok s
  | (_, some f) => .error (.fault f)

def addFile (s : Intake) (word : Bytes) : Except Ending Intake :=
  match s.waiting with
  | some (.files paths) => .ok { s with waiting := some (.files (paths ++ [word])) }
  | _ =>
      match proceed s.settle with
      | .error e => .error e
      | .ok s => .ok { s with waiting := some (.files [word]) }

def takeWord (s : Intake) (word : Bytes) : Except Ending Intake :=
  match s.waiting with
  | some (.parameter p none) => .ok { s with waiting := some (.parameter p (some word)) }
  | _ => s.addFile word

def takeParameter (s : Intake) (p : Parameter) (attached : Option Bytes) :
    Except Ending Intake :=
  match proceed s.settle with
  | .error e => .error e
  | .ok s =>
      match attached with
      | none => .ok { s with waiting := some (.parameter p none) }
      | some value => proceed (s.assign p value)

def takeQuery (s : Intake) (q : Query) (attached : Option Bytes) : Ending :=
  match attached with
  | some value => .fault (.needlessValue q value s.started)
  | none =>
      match s.settle with
      | (_, some f) => .fault f
      | (_, none) => .query q

def refuse (s : Intake) (name : Bytes) : UsageFault :=
  -- What is wrong with the value that waits is passed over.
  let (s, _) := s.settle
  match Similarity.suggest? (Utf8.lossy name).toList with
  | some similar =>
      let given := s.switches
      .unknownLong name (some similar)
        (.listing (if similar ∈ given then given else given ++ [similar]))
  | none => .unknownLong name none (if s.started then .listing s.switches else .general)

def step (s : Intake) : Token → Except Ending Intake
  | .terminator => .ok s
  | .word word => s.takeWord word
  | .long name attached =>
      match (Utf8.string? name).bind Switch.ofName? with
      | some (.parameter p) => s.takeParameter p attached
      | some (.query q) => .error (s.takeQuery q attached)
      | none => .error (.fault (s.refuse name))
  | .letters cluster =>
      let letter := Token.leadingText cluster
      match letter.toList.head?.bind Query.ofLetter? with
      | some q => .error (s.takeQuery q none)
      | none => .error (.fault (.unknownLetter letter))

def readFiles (s : Intake) : List Bytes → Except Ending Intake
  | [] => .ok s
  | argument :: rest =>
      match s.addFile argument with
      | .error e => .error e
      | .ok s => readFiles s rest

def readAll (s : Intake) : List Bytes → Except Ending Intake
  | [] => .ok s
  | argument :: rest =>
      match Token.ofArgument argument with
      | .terminator => s.readFiles rest
      | token =>
          match s.step token with
          | .error e => .error e
          | .ok s => readAll s rest

def fallBack (s : Intake) (environment : Option Bytes) : Intake × Option UsageFault :=
  match environment with
  | none => (s, none)
  | some value => if .summaryFile ∈ s.given then (s, none) else s.assign .summaryFile value

def finish (s : Intake) (environment : Option Bytes) : Except Ending Arguments :=
  match proceed s.settle with
  | .error e => .error e
  | .ok s =>
      match proceed (s.fallBack environment) with
      | .error e => .error e
      | .ok s =>
          if s.files = [] then .error (.fault (.noFiles s.switches))
          else
            .ok
              { files := s.files
                wording := s.wording.getD Wording.standard.required
                summaryFile := s.summaryFile
                logLevel := s.logLevel.getD "warn" }

end Intake

def Arguments.parse (arguments : List Bytes) (environment : Option Bytes) :
    Except Ending Arguments :=
  match Intake.fresh.readAll arguments with
  | .error e => .error e
  | .ok s => s.finish environment

end ErrorWording
