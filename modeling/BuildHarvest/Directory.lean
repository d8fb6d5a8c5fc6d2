/-
  BuildHarvest.Directory — making directories, and emptying them.

  `ensure` makes a directory and those above it that are missing; what stands in the way is a
  conflict and stays. `clear` removes a directory with all that is in it, and leaves anything
  else alone. `renew` does one after the other.
-/

import BuildHarvest.World

namespace BuildHarvest.Directory

open BuildHarvest.Action

/-- The missing directory itself. That it has come meanwhile is no fault. -/
def make (p : Path) : Action Failure Unit := do
  tell (.creatingDirectory p)
  let v ← volume
  match v.mkdir p with
  | .ok v => modify fun w => { w with volume := v }
  | .error e =>
    if e = .occupied ∧ v.isDir p then return () else throw (.directoryCreation p e.reason)

/-- Whether a directory may still be made where there is nothing. -/
def isAbsence (e : Errno) : Bool := e = .noEntry || e = .notDirectory

/-- The first of some paths, each of which has the next above it. -/
def ensureFirst : List Path → Action Failure Unit
  | [] => return ()
  | p :: above => do
    match (← volume).stat p with
    | .ok .dir => return ()
    | .ok _ => throw (.directoryConflict p)
    | .error e =>
      if isAbsence e then
        ensureFirst above
        make p
      else throw (.directoryCreation p e.reason)

def ensure (p : Path) : Action Failure Unit := ensureFirst p.lineage

def clear (p : Path) : Action Failure Unit := do
  match (← volume).lstat p with
  | .error .noEntry => return ()
  | .error e => throw (.directoryClear p e.reason)
  | .ok .dir => do
    tell (.removingContents p)
    attemptPartly (fun e => .directoryClear p e.reason) (·.removeAll p)
  | .ok _ => tell (.leavingInPlace p)

def renew (p : Path) : Action Failure Unit := do
  clear p
  ensure p

end BuildHarvest.Directory
