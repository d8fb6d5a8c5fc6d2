/-
  BuildHarvest.Config — what a run is told to do, and where it works.
-/

import BuildHarvest.Path

namespace BuildHarvest

/-- What follows when an artifact cannot be downloaded. -/
inductive FailurePolicy where
  /-- Stop there. -/
  | failFast
  /-- Go on, and fail at the end. -/
  | bestEffort
  deriving DecidableEq, Repr

def FailurePolicy.text : FailurePolicy → String
  | failFast => "fail_fast"
  | bestEffort => "best_effort"

def FailurePolicy.ofText? (s : String) : Option FailurePolicy :=
  if s = failFast.text then some failFast
  else if s = bestEffort.text then some bestEffort
  else none

structure Config where
  workspace : Path
  feedUrl : String
  /-- Where a build publishes its libraries, below the build's own URL. -/
  artifactSubpath : String
  manifest : List String
  statusFile : String
  workDir : String
  libDir : String
  failurePolicy : FailurePolicy
  deriving DecidableEq, Repr

/-- The paths a run reads and writes. -/
structure Layout where
  statusFile : Path
  workDir : Path
  libDir : Path
  deriving DecidableEq, Repr

def Config.layout (c : Config) : Layout where
  statusFile := c.workspace.join (.ofText c.statusFile)
  workDir := c.workspace.join (.ofText c.workDir)
  libDir := c.workspace.join (.ofText c.libDir)

end BuildHarvest
