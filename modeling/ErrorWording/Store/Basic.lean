import ErrorWording.Reply

/-!
A file system as one process sees it that is alone with it. Permissions and times are left out, and
reading a file never fails half way. That a file cannot be opened for adding or that a disk is full
is not computed but told by `Store.replies`, in any order of successes and failures.
-/

set_option autoImplicit false

namespace ErrorWording

structure Path where
  bytes : Bytes
deriving DecidableEq, Repr

def Path.display (p : Path) : String :=
  Utf8.lossy p.bytes

/-- The pieces in which a path is displayed. -/
def Path.displayed (p : Path) : List Bytes :=
  (Utf8.stretches [] (Utf8.units p.bytes)).map Utf8.encode

theorem Path.displayed_flatten (p : Path) : p.displayed.flatten = bytesOf p.display := by
  have text := Utf8.stretches_flatten [] (Utf8.units p.bytes)
  rw [List.nil_append] at text
  rw [displayed, display, bytesOf, Utf8.lossy, String.toList_ofList, ← text]
  simp only [Utf8.encode, List.flatMap_def, List.map_flatten, List.flatten_flatten, List.map_map]
  rfl

abbrev Name := Bytes

abbrev Location := List Name

inductive Device where
  | null
  | full
deriving DecidableEq, Repr

inductive Entry where
  | file (content : Bytes)
  | directory
  | link (target : Path)
  | device (d : Device)
deriving DecidableEq, Repr

/-- `here` is where relative paths start. `replies` answers the calls that open a file for adding or
add to it; calls after the last reply succeed. -/
structure Store where
  entries : List (Location × Entry)
  here : Location
  replies : List Reply
deriving DecidableEq, Repr

namespace Store

def lookup (s : Store) (l : Location) : Option Entry :=
  if l = [] then some .directory else s.entries.lookup l

def put (s : Store) (l : Location) (e : Entry) : Store :=
  { s with entries := (l, e) :: s.entries.filter fun entry => entry.1 != l }

def erase (s : Store) (l : Location) : Store :=
  { s with entries := s.entries.filter fun entry => !l.isPrefixOf entry.1 }

theorem lookup_root (s : Store) : s.lookup [] = some .directory := by
  simp [lookup]

theorem lookup_put_self (s : Store) (l : Location) (e : Entry) (below : l ≠ []) :
    (s.put l e).lookup l = some e := by
  simp [lookup, put, below]

theorem lookup_filter_of_ne (l k : Location) (entries : List (Location × Entry))
    (different : k ≠ l) :
    (entries.filter fun entry => entry.1 != l).lookup k = entries.lookup k := by
  induction entries with
  | nil => rfl
  | cons entry rest ih =>
      obtain ⟨place, e⟩ := entry
      by_cases same : place = l
      · have other : (k == place) = false := by simpa [same] using different
        simp [same, List.lookup_cons, ih, show (k == l) = false from by simpa using different]
      · by_cases hit : k = place
        · simp [same, hit]
        · simp [same, List.lookup_cons, ih, show (k == place) = false from by simpa using hit]

theorem lookup_put_of_ne (s : Store) (l k : Location) (e : Entry) (different : k ≠ l) :
    (s.put l e).lookup k = s.lookup k := by
  have other : (k == l) = false := by simpa using different
  simp only [lookup, put, List.lookup_cons, other, lookup_filter_of_ne l k s.entries different]

def devices : Location := [bytesOf "dev"]

def workplace : Location := [bytesOf "work"]

def fresh : Store where
  entries :=
    [(devices, .directory), (devices ++ [bytesOf "null"], .device .null),
      (devices ++ [bytesOf "full"], .device .full), (workplace, .directory)]
  here := workplace
  replies := []

def answering (s : Store) (replies : List Reply) : Store :=
  { s with replies := replies }

@[simp] theorem answering_replies (s : Store) (replies : List Reply) :
    (s.answering replies).replies = replies := rfl

@[simp] theorem put_replies (s : Store) (l : Location) (e : Entry) :
    (s.put l e).replies = s.replies := rfl

@[simp] theorem answering_here (s : Store) (replies : List Reply) :
    (s.answering replies).here = s.here := rfl

@[simp] theorem lookup_answering (s : Store) (replies : List Reply) (l : Location) :
    (s.answering replies).lookup l = s.lookup l := rfl

end Store

end ErrorWording
