import ErrorWording.Fault
import ErrorWording.Store.Basic
import ErrorWording.Wording

set_option autoImplicit false

namespace ErrorWording

inductive ScanFault where
  | missing
  | unreadable (f : Fault)
deriving DecidableEq, Repr

namespace ScanFault

def ofFault (f : Fault) : ScanFault :=
  if f.kind = .notFound then .missing else .unreadable f

def text : ScanFault → String
  | .missing => "file not found"
  | .unreadable f => f.text

def cause? : ScanFault → Option Fault
  | .missing => none
  | .unreadable f => some f

end ScanFault

inductive Diagnostic where
  | violation (path : Path) (v : Violation) (message : String)
  | missing (path : Path)
  | unreadable (path : Path) (reason : String)
deriving DecidableEq, Repr

def Path.between (p : Path) (front back : List String) : List Bytes :=
  front.map bytesOf ++ p.displayed ++ back.map bytesOf

theorem Path.between_flatten (p : Path) (first : String) (front back : List String) :
    (p.between (first :: front) back).flatten =
      bytesOf ((front ++ p.display :: back).foldl (· ++ ·) first) := by
  rw [bytes_of_appends, between]
  simp [p.displayed_flatten]

namespace Diagnostic

def ofViolation (w : Wording) (p : Path) (v : Violation) : Diagnostic :=
  .violation p v (w.complaint v)

def ofFault (p : Path) : ScanFault → Diagnostic
  | .missing => .missing p
  | .unreadable f => .unreadable p f.text

def path : Diagnostic → Path
  | .violation p _ _ => p
  | .missing p => p
  | .unreadable p _ => p

def render : Diagnostic → String
  | .violation p v message =>
      "::error title=Incorrect error message format,file=" ++ p.display ++
        ",line=" ++ toString v.line ++ ",col=" ++ toString v.column ++
        ",endLine=" ++ toString v.line ++ ",endColumn=" ++ toString v.endColumn ++
        "::" ++ message
  | .missing p => "::error file=" ++ p.display ++ "::File not found."
  | .unreadable p reason =>
      "::error file=" ++ p.display ++ "::Error processing file: " ++ reason

/-- The pieces of the rendered text, in the sizes in which they reach a writer. -/
def pieces : Diagnostic → List Bytes
  | .violation p v message =>
      p.between ["::error title=", "Incorrect error message format", ",file="]
        [",line=", toString v.line, ",col=", toString v.column, ",endLine=", toString v.line,
          ",endColumn=", toString v.endColumn, "::", message]
  | .missing p => p.between ["::error file="] ["::File not found."]
  | .unreadable p reason => p.between ["::error file="] ["::Error processing file: ", reason]

def outputLine (a : Diagnostic) : Bytes :=
  bytesOf (a.render ++ "\n")

def outputPieces (a : Diagnostic) : List Bytes :=
  a.pieces ++ [bytesOf "\n"]

theorem pieces_flatten (a : Diagnostic) : a.pieces.flatten = bytesOf a.render := by
  cases a with
  | violation p v message =>
      have title : "::error title=Incorrect error message format,file=" =
          "::error title=" ++ "Incorrect error message format" ++ ",file=" := rfl
      have parts := congrArg (fun front => bytesOf (front ++ p.display ++ ",line=" ++
        toString v.line ++ ",col=" ++ toString v.column ++ ",endLine=" ++ toString v.line ++
        ",endColumn=" ++ toString v.endColumn ++ "::" ++ message)) title
      exact (p.between_flatten _ _ _).trans parts.symm
  | missing p => exact p.between_flatten _ _ _
  | unreadable p reason => exact p.between_flatten _ _ _

@[simp] theorem output_pieces_flatten (a : Diagnostic) :
    a.outputPieces.flatten = a.outputLine := by
  rw [outputPieces, List.flatten_append, pieces_flatten]
  exact (bytes_of_appends a.render ["\n"]).symm

end Diagnostic

end ErrorWording
