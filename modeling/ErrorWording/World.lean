import ErrorWording.Journal
import ErrorWording.Output
import ErrorWording.Store.Access

set_option autoImplicit false

namespace ErrorWording

/-- All that a run can change. The journal has its oldest record first. -/
structure World where
  store : Store
  outlet : Output
  journal : List Record
deriving DecidableEq, Repr

/-- What a run asks for. A program has one of these with real files, and a world is another. -/
structure Services (m : Type → Type) where
  read : Path → m (Except Fault (List Delivery))
  append : Path → List Bytes → m (Option Fault)
  write : List Bytes → m (Option Halt)
  flush : m (Option Halt)
  note : Record → m Unit

namespace World

def fresh : World := ⟨.fresh, .boundless, []⟩

def read (world : World) (p : Path) : World × Except Fault (List Delivery) :=
  (world, world.store.read p)

def append (world : World) (p : Path) (pieces : List Bytes) : World × Option Fault :=
  ({ world with store := (world.store.append p pieces).1 }, (world.store.append p pieces).2)

def writeAll (world : World) (pieces : List Bytes) : World × Option Halt :=
  ({ world with outlet := (world.outlet.offerAll pieces).1 }, (world.outlet.offerAll pieces).2)

def flush (world : World) : World × Option Halt :=
  ({ world with outlet := world.outlet.flush.1 }, world.outlet.flush.2)

def note (world : World) (r : Record) : World :=
  { world with journal := world.journal ++ [r] }

def services : Services (StateM World) where
  read p := fun world => (world.read p).swap
  append p pieces := fun world => (world.append p pieces).swap
  write pieces := fun world => (world.writeAll pieces).swap
  flush := fun world => world.flush.swap
  note r := fun world => ((), world.note r)

def serve {α : Type} (world : World) (act : StateM World α) : World × α :=
  (act.run world).swap

section Serve

variable {α β : Type} (world : World)

@[simp] theorem serve_pure (a : α) : world.serve (pure a) = (world, a) := rfl

@[simp] theorem serve_bind (act : StateM World α) (next : α → StateM World β) :
    world.serve (act >>= next) = (world.serve act).1.serve (next (world.serve act).2) := rfl

@[simp] theorem serve_read (p : Path) :
    world.serve (services.read p) = (world, world.store.read p) := rfl

@[simp] theorem serve_append (p : Path) (pieces : List Bytes) :
    world.serve (services.append p pieces) = world.append p pieces := rfl

@[simp] theorem serve_write (pieces : List Bytes) :
    world.serve (services.write pieces) = world.writeAll pieces := rfl

@[simp] theorem serve_flush : world.serve services.flush = world.flush := rfl

@[simp] theorem serve_note (r : Record) :
    world.serve (services.note r) = (world.note r, ()) := rfl

end Serve

end World

end ErrorWording
