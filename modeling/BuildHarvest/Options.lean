/-
  BuildHarvest.Options — what the command line asks of a run, and the run's parameters.
-/

import BuildHarvest.Settings.Load
import BuildHarvest.Sync

namespace BuildHarvest

structure Options where
  config : Option String
  workspace : Option String
  feedUrl : Option String
  artifactSubpath : Option String
  artifacts : List String
  bestEffort : Bool
  report : Option String
  deriving DecidableEq, Repr

namespace Options

open BuildHarvest.Action

def empty : Options := ⟨none, none, none, none, [], false, none⟩

/-- What stands above the other settings: no artifacts leave the manifest as it is. -/
def overrides (o : Options) : Settings.Overrides where
  workspace := o.workspace.map .ofText
  feedUrl := o.feedUrl
  artifactSubpath := o.artifactSubpath
  manifest := if o.artifacts.isEmpty then none else some o.artifacts
  failurePolicy := if o.bestEffort then some .bestEffort else none

/-- A feed must be a locator before anything is fetched from it. -/
def checkFeed (config : Config) : Except Failure Unit :=
  match Url.parse config.feedUrl with
  | .ok _ => .ok ()
  | .error fault => .error (.invalidUrl config.feedUrl fault.reason)

def resolve (o : Options) (vars : Settings.Variables) : Action Failure Sync.Params := do
  let config ← Settings.load o.config vars o.overrides
  orThrow id (checkFeed config)
  let manifest ← orThrow id (Manifest.ofEntries config.manifest)
  if manifest.isEmpty then tell .emptyManifest
  return ⟨config, manifest, o.report.map .ofText⟩

end Options

end BuildHarvest
