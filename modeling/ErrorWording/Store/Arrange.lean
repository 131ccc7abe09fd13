import ErrorWording.Store.Resolve

set_option autoImplicit false

namespace ErrorWording

inductive Arrangement where
  | file (p : Path) (content : Bytes)
  | directory (p : Path)
  | link (p : Path) (target : Path)
  | removal (p : Path)
deriving DecidableEq, Repr

namespace Store

def base (s : Store) (p : Path) : Location :=
  if p.isAbsolute then [] else s.here

def makeDirectories (s : Store) (dir : Location) : List Name → Store × Option Location
  | [] => (s, some dir)
  | name :: rest =>
      match s.walk .reading Path.linkLimit dir [name] with
      | .ok (.directory l) => makeDirectories s l rest
      | .ok (.free l) => makeDirectories (s.put l .directory) l rest
      | _ => (s, none)

def makeParent (s : Store) (p : Path) : Store × Option (Location × Name) :=
  let names := p.names.filter (· != [])
  match s.makeDirectories (s.base p) names.dropLast, names.getLast? with
  | (s, some dir), some name => (s, some (dir, name))
  | (s, _), _ => (s, none)

def arrange (s : Store) : Arrangement → Store
  | .file p content =>
      let s := (s.makeParent p).1
      match s.resolve .adding p with
      | .ok (.file l _) => s.put l (.file content)
      | .ok (.free l) => s.put l (.file content)
      | _ => s
  | .directory p => (s.makeDirectories (s.base p) (p.names.filter (· != []))).1
  | .link p target =>
      match s.makeParent p with
      | (s, some (dir, name)) =>
          if (s.lookup (dir ++ [name])).isNone then s.put (dir ++ [name]) (.link target) else s
      | (s, none) => s
  | .removal p =>
      let names := p.names.filter (· != [])
      match s.walk .reading Path.linkLimit (s.base p) names.dropLast, names.getLast? with
      | .ok (.directory dir), some name => s.erase (dir ++ [name])
      | _, _ => s

def ofArrangements (changes : List Arrangement) : Store :=
  changes.foldl arrange fresh

end Store

end ErrorWording
