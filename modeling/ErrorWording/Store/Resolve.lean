import ErrorWording.Fault
import ErrorWording.Store.Basic

set_option autoImplicit false

namespace ErrorWording

namespace Path

def slash : UInt8 := 0x2F

def isAbsolute (p : Path) : Bool :=
  p.bytes.head? == some slash

def names (p : Path) : List Name :=
  let pieces := p.bytes.splitOn slash
  -- A slash at the end leaves an empty name, which only a directory can satisfy.
  pieces.dropLast.filter (· != []) ++ pieces.getLast?.toList

def nameLimit : Nat := 255

def lengthBound : Nat := 4096

def linkLimit : Nat := 40

def fault? (p : Path) : Option Fault :=
  if 0 ∈ p.bytes then some .nulInPath
  else if p.bytes = [] then some .missingEntry
  else if lengthBound ≤ p.bytes.length then some .nameTooLong
  else none

end Path

inductive Target where
  | file (l : Location) (content : Bytes)
  | directory (l : Location)
  | device (d : Device)
  | free (l : Location)
deriving DecidableEq, Repr

inductive Purpose where
  | reading
  | adding
deriving DecidableEq, Repr

namespace Store

def dot : Name := [0x2E]

def dots : Name := [0x2E, 0x2E]

/-- Follows names from a directory. `follow` goes on with the names of a link's target, from the
directory that it is relative to. -/
def descend (s : Store) (purpose : Purpose)
    (follow : Location → List Name → Except Fault Target) :
    Location → List Name → Except Fault Target
  | dir, [] => .ok (.directory dir)
  | dir, name :: rest =>
      if purpose = .adding ∧ rest = [[]] then .error .isADirectory
      else if name = [] ∨ name = dot then descend s purpose follow dir rest
      else if name = dots then descend s purpose follow dir.dropLast rest
      else if Path.nameLimit < name.length then .error .nameTooLong
      else
        match s.lookup (dir ++ [name]) with
        | none => if rest = [] then .ok (.free (dir ++ [name])) else .error .missingEntry
        | some .directory => descend s purpose follow (dir ++ [name]) rest
        | some (.link target) =>
            follow (if target.isAbsolute then [] else dir) (target.names ++ rest)
        | some (.file content) =>
            if rest = [] then .ok (.file (dir ++ [name]) content) else .error .notADirectory
        | some (.device d) =>
            if rest = [] then .ok (.device d) else .error .notADirectory

def walk (s : Store) (purpose : Purpose) : Nat → Location → List Name → Except Fault Target
  | 0 => s.descend purpose fun _ _ => .error .linkLoop
  | links + 1 => s.descend purpose (walk s purpose links)

def resolve (s : Store) (purpose : Purpose) (p : Path) : Except Fault Target :=
  match p.fault? with
  | some f => .error f
  | none =>
      s.walk purpose Path.linkLimit (if p.isAbsolute then [] else s.here) p.names

end Store

end ErrorWording
