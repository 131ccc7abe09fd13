import ErrorWording.Scan
import ErrorWording.Tally
import ErrorWording.World

set_option autoImplicit false

namespace ErrorWording

inductive Destination where
  | output
  | file (p : Path)
deriving DecidableEq, Repr

def Destination.ofPath? : Option Path → Destination
  -- An empty path stands for none.
  | some p => if p.bytes = [] then .output else .file p
  | none => .output

namespace Wording

def judge (w : Wording) : Except Fault (List Delivery) → Except ScanFault (List Violation)
  | .error f => .error (.ofFault f)
  | .ok deliveries =>
      match w.scanDeliveries deliveries with
      -- What was found before the fault is discarded.
      | .error f => .error (.unreadable f)
      | .ok found => .ok found

def inspect (w : Wording) (s : Store) (p : Path) : Except ScanFault (List Violation) :=
  w.judge (s.read p)

def diagnose (w : Wording) (p : Path) : Except ScanFault (List Violation) → List Diagnostic
  | .ok found => found.map (Diagnostic.ofViolation w p)
  | .error f => [.ofFault p f]

end Wording

inductive RunFault where
  | output (halt : Halt)
  | overflow
deriving DecidableEq, Repr

structure Linter where
  wording : Wording
  destination : Destination
deriving DecidableEq, Repr

namespace Services

variable {m : Type → Type} [Monad m] (around : Services m) (r : Linter) (t : Tally)

def scan (p : Path) : m (Except ScanFault (List Violation)) := do
  match r.wording.judge (← around.read p) with
  | .ok found =>
      around.note (.scanned p found.length)
      return .ok found
  | .error f => return .error f

def check (p : Path) : m (List Diagnostic) := do
  match ← around.scan r p with
  | .ok found => return r.wording.diagnose p (.ok found)
  | .error f =>
      around.note (.unscanned p f)
      return r.wording.diagnose p (.error f)

def lintPath (p : Path) : m (Except Halt Nat) := do
  let diagnostics ← around.check r p
  match ← around.write (diagnostics.flatMap (·.outputPieces)) with
  | some halt => return .error halt
  | none => return .ok diagnostics.length

def lintPaths (t : Tally) : List Path → m (Except RunFault Tally)
  | [] => return .ok t
  | p :: rest => do
      match ← around.lintPath r p with
      | .error halt => return .error (.output halt)
      | .ok errors =>
          match t.record? errors with
          | none => return .error .overflow
          | some t => lintPaths t rest

def deliver : Destination → m (Option Halt)
  | .output => if t.hasErrors then around.write t.noticePieces else return none
  | .file p => do
      if t.hasErrors then
        match ← around.append p t.blockPieces with
        | none => return none
        | some f =>
            -- The output takes what could not be added to the file, whatever part of it was.
            around.note (.unsaved p f)
            around.write t.noticePieces
      else return none

def run (paths : List Path) : m (Except RunFault Tally) := do
  match ← around.lintPaths r .zero paths with
  | .error f => return .error f
  | .ok t =>
      match ← around.deliver t r.destination with
      | some halt => return .error (.output halt)
      | none =>
          match ← around.flush with
          | some halt => return .error (.output halt)
          | none => return .ok t

end Services

def Tally.deliver (t : Tally) (world : World) (d : Destination) : World × Option Halt :=
  world.serve (World.services.deliver t d)

theorem Tally.deliver_output (t : Tally) (world : World) :
    t.deliver world .output =
      if t.hasErrors then world.writeAll t.noticePieces else (world, none) := by
  unfold deliver Services.deliver
  cases t.hasErrors <;> rfl

theorem Tally.deliver_file (t : Tally) (world : World) (p : Path) :
    t.deliver world (.file p) =
      if t.hasErrors then
        match world.append p t.blockPieces with
        | (after, none) => (after, none)
        | (after, some f) => (after.note (.unsaved p f)).writeAll t.noticePieces
      else (world, none) := by
  unfold deliver Services.deliver
  cases t.hasErrors with
  | false => rfl
  | true =>
      simp only [if_true, World.serve_bind, World.serve_append]
      rcases world.append p t.blockPieces with ⟨after, result⟩
      cases result <;> rfl

namespace Linter

def standard : Linter := ⟨.standard, .output⟩

variable (r : Linter) (world : World)

def scan (p : Path) : World × Except ScanFault (List Violation) :=
  world.serve (World.services.scan r p)

def check (p : Path) : World × List Diagnostic :=
  world.serve (World.services.check r p)

def lintPath (p : Path) : World × Except Halt Nat :=
  world.serve (World.services.lintPath r p)

def lintPaths (t : Tally) (paths : List Path) : World × Except RunFault Tally :=
  world.serve (World.services.lintPaths r t paths)

def run (paths : List Path) : World × Except RunFault Tally :=
  world.serve (World.services.run r paths)

theorem scan_eq (p : Path) :
    r.scan world p =
      match r.wording.inspect world.store p with
      | .ok found => (world.note (.scanned p found.length), .ok found)
      | .error f => (world, .error f) := by
  unfold scan Services.scan Wording.inspect
  rw [World.serve_bind, World.serve_read]
  cases r.wording.judge (world.store.read p) <;> rfl

theorem lint_path_eq (p : Path) :
    r.lintPath world p =
      match (r.check world p).1.writeAll ((r.check world p).2.flatMap (·.outputPieces)) with
      | (after, some halt) => (after, .error halt)
      | (after, none) => (after, .ok (r.check world p).2.length) := by
  unfold lintPath Services.lintPath check
  rw [World.serve_bind, World.serve_bind, World.serve_write]
  rcases World.writeAll _ _ with ⟨after, halt⟩
  cases halt <;> rfl

@[simp] theorem lint_paths_nil (t : Tally) : r.lintPaths world t [] = (world, .ok t) := rfl

theorem lint_paths_cons (t : Tally) (p : Path) (rest : List Path) :
    r.lintPaths world t (p :: rest) =
      match r.lintPath world p with
      | (after, .error halt) => (after, .error (.output halt))
      | (after, .ok errors) =>
          match t.record? errors with
          | none => (after, .error .overflow)
          | some next => r.lintPaths after next rest := by
  unfold lintPaths lintPath
  rw [Services.lintPaths, World.serve_bind]
  rcases World.serve world _ with ⟨after, result⟩
  cases result with
  | error halt => rfl
  | ok errors =>
      cases recorded : t.record? errors with
      | none =>
          simp only [recorded]
          rfl
      | some next => simp only [recorded]

theorem run_eq (paths : List Path) :
    r.run world paths =
      match r.lintPaths world .zero paths with
      | (after, .error f) => (after, .error f)
      | (after, .ok t) =>
          match t.deliver after r.destination with
          | (after, some halt) => (after, .error (.output halt))
          | (after, none) =>
              match after.flush with
              | (after, some halt) => (after, .error (.output halt))
              | (after, none) => (after, .ok t) := by
  unfold run Services.run lintPaths Tally.deliver
  rw [World.serve_bind]
  rcases World.serve world _ with ⟨linted, result⟩
  cases result with
  | error f => rfl
  | ok t =>
      simp only [World.serve_bind]
      rcases World.serve linted _ with ⟨delivered, halt⟩
      cases halt with
      | some halt => rfl
      | none =>
          simp only [World.serve_bind, World.serve_flush]
          rcases delivered.flush with ⟨after, halt⟩
          cases halt <;> rfl

end Linter

end ErrorWording
