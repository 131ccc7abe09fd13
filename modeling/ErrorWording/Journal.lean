import ErrorWording.Diagnostic

set_option autoImplicit false

namespace ErrorWording

inductive Level where
  | error
  | warn
  | info
  | debug
  | trace
deriving DecidableEq, Repr

namespace Level

def rank : Level → Nat
  | .error => 1
  | .warn => 2
  | .info => 3
  | .debug => 4
  | .trace => 5

def name : Level → String
  | .error => "ERROR"
  | .warn => "WARN"
  | .info => "INFO"
  | .debug => "DEBUG"
  | .trace => "TRACE"

end Level

structure Record where
  level : Level
  target : String
  text : String
deriving DecidableEq, Repr

namespace Record

def started (files : Nat) : Record :=
  ⟨.debug, "errorf_lint", "checking " ++ toString files ++ " file(s)"⟩

def scanned (p : Path) (violations : Nat) : Record :=
  ⟨.debug, "errorf_lint::scanner::engine",
    p.display ++ ": " ++ toString violations ++ " violation(s)"⟩

def unscanned (p : Path) (f : ScanFault) : Record :=
  ⟨.debug, "errorf_lint::report::reporter", p.display ++ ": " ++ f.text⟩

def unsaved (p : Path) (f : Fault) : Record :=
  ⟨.warn, "errorf_lint::report::summary",
    "Failed to append summary to " ++ p.display ++ ": " ++ f.text⟩

end Record

end ErrorWording
