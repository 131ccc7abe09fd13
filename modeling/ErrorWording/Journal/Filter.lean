import ErrorWording.Journal
import ErrorWording.Pattern

set_option autoImplicit false

namespace ErrorWording

structure Directive where
  target : Option String
  ceiling : Nat
deriving DecidableEq, Repr

structure Filter where
  directives : List Directive
  pattern : Option (Pattern Pattern.Step)
deriving DecidableEq, Repr

namespace Directive

def covers (d : Directive) (target : String) : Bool :=
  match d.target with
  | none => true
  | some beginning => beginning.toList.isPrefixOf target.toList

def weight (d : Directive) : Nat :=
  (d.target.map String.utf8ByteSize).getD 0

def ceiling? (name : List Char) : Option Nat :=
  let names := ["off", "error", "warn", "info", "debug", "trace"]
  names.findIdx? (·.toList == name.map Char.toLower)

def everything : Nat := Level.trace.rank

def parse (written : List Char) : Except (List Char) Directive :=
  match written.splitOn '=' with
  | [name] =>
      match ceiling? name with
      | some ceiling => .ok ⟨none, ceiling⟩
      | none => .ok ⟨some (String.ofList name), everything⟩
  | [target, level] =>
      let level := Blank.trim level
      if level = [] then .ok ⟨some (String.ofList target), everything⟩
      else
        match ceiling? level with
        | some ceiling => .ok ⟨some (String.ofList target), ceiling⟩
        | none => .error level
  | _ => .error written

def insert (d : Directive) (directives : List Directive) : List Directive :=
  if directives.any (·.target == d.target) then
    directives.map fun old => if old.target = d.target then d else old
  else directives ++ [d]

end Directive

namespace Filter

def ceilingFor? (f : Filter) (target : String) : Option Nat :=
  let best := (f.directives.filter (·.covers target)).foldl
    (fun best d =>
      match best with
      | none => some d
      -- Of two that are equally long the later one counts.
      | some top => if top.weight ≤ d.weight then some d else some top)
    none
  best.map (·.ceiling)

def shows (f : Filter) (r : Record) : Bool :=
  (f.ceilingFor? r.target).any (r.level.rank ≤ ·) && f.pattern.all (·.occursIn r.text)

def ofDirectives (directives : List Directive) (pattern : Option (Pattern Pattern.Step)) : Filter :=
  ⟨if directives = [] then [⟨none, Level.error.rank⟩] else directives, pattern⟩

def invalid (written : List Char) : String :=
  "invalid logging spec '" ++ String.ofList written ++ "'"

def readDirectives (written : List Char) : List Directive × List String :=
  let entries := ((written.splitOn ',').map Blank.trim).filter (· != [])
  entries.foldl
    (fun (directives, warnings) entry =>
      match Directive.parse entry with
      | .ok d => (d.insert directives, warnings)
      | .error wrong => (directives, warnings ++ [invalid wrong]))
    ([], [])

def parse (written : List Char) : Filter × List String :=
  match written.splitOn '/' with
  | [list] =>
      let (directives, warnings) := readDirectives list
      (ofDirectives directives none, warnings)
  | [list, pattern] =>
      let (directives, warnings) := readDirectives list
      match Pattern.parse pattern with
      | .ok p => (ofDirectives directives (some p), warnings)
      | .error fault =>
          (ofDirectives directives none,
            warnings ++ ["invalid regex filter - " ++ fault.render pattern])
  | _ => (ofDirectives [] none, [invalid written ++ " (too many '/'s)"])

end Filter

end ErrorWording
