/-
  BuildHarvest.World — what a run acts on.

  An action takes the world, changes it, and gives a result or a failure; what it changed
  before it failed stays changed.
-/

import BuildHarvest.Failure
import BuildHarvest.Log
import BuildHarvest.Network
import BuildHarvest.Volume

namespace BuildHarvest

structure World where
  volume : Volume
  network : Network
  /-- What the run has told, oldest first. -/
  notices : List Notice
  deriving DecidableEq, Repr

/-- The world after one thing more has been told. -/
def World.note (w : World) (n : Notice) : World := { w with notices := w.notices ++ [n] }

abbrev Action (ε α : Type) := ExceptT ε (StateM World) α

namespace Action

variable {ε α : Type}

def tell (n : Notice) : Action ε Unit := modify (·.note n)

def volume : Action ε Volume := return (← get).volume

/-- An operation on the volume that may be refused. -/
def attempt (blame : Errno → ε) (op : Volume → Except Errno (α × Volume)) : Action ε α := do
  match op (← volume) with
  | .ok (a, v) => do
    modify fun w => { w with volume := v }
    return a
  | .error e => throw (blame e)

/-- An operation that may leave the volume changed though it fails. -/
def attemptPartly (blame : Errno → ε) (op : Volume → Except Errno α × Volume) : Action ε α := do
  let (result, v) := op (← volume)
  modify fun w => { w with volume := v }
  match result with
  | .ok a => return a
  | .error e => throw (blame e)

/-- An exchange on the network. -/
def exchange {φ : Type} (blame : φ → ε) (op : Network → Except φ α × Network) : Action ε α := do
  let (result, n) := op (← get).network
  modify fun w => { w with network := n }
  match result with
  | .ok a => return a
  | .error f => throw (blame f)

def orThrow {φ : Type} (blame : φ → ε) (r : Except φ α) : Action ε α :=
  match r with
  | .ok a => return a
  | .error f => throw (blame f)

/-- The result of an action, its failure being one. -/
def outcome {φ : Type} (a : Action φ α) : Action ε (Except φ α) := ExceptT.lift a.run

end Action

end BuildHarvest
