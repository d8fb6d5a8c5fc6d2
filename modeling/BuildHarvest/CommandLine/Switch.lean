/-
  BuildHarvest.CommandLine.Switch — what can be asked for on the command line.
-/

import BuildHarvest.Text.Utf8

namespace BuildHarvest.CommandLine

/-- A switch that stands alone. -/
inductive Flag where
  | verbose
  | bestEffort
  | help
  | version
  deriving DecidableEq, Repr

/-- A switch that takes a value. -/
inductive Slot where
  | config
  | workspace
  | feedUrl
  | artifactSubpath
  | artifact
  | report
  deriving DecidableEq, Repr

inductive Switch where
  | flag (f : Flag)
  | slot (s : Slot)
  deriving DecidableEq, Repr

def Flag.long : Flag → String
  | verbose => "verbose"
  | bestEffort => "best-effort"
  | help => "help"
  | version => "version"

def Slot.long : Slot → String
  | config => "config"
  | workspace => "workspace"
  | feedUrl => "feed-url"
  | artifactSubpath => "artifact-subpath"
  | artifact => "artifact"
  | report => "report"

/-- What a value stands for. -/
def Slot.valueName : Slot → String
  | config | report => "FILE"
  | workspace => "DIR"
  | feedUrl => "URL"
  | artifactSubpath => "PATH"
  | artifact => "NAME"

namespace Switch

/-- The switches in the order in which help shows them. -/
def all : List Switch :=
  [.flag .verbose, .slot .config, .slot .workspace, .slot .feedUrl, .slot .artifactSubpath,
    .slot .artifact, .flag .bestEffort, .slot .report, .flag .help, .flag .version]

def long : Switch → String
  | .flag f => f.long
  | .slot s => s.long

def short? : Switch → Option Char
  | .flag .verbose => some 'v'
  | .slot .config => some 'c'
  | .slot .workspace => some 'w'
  | .slot .artifact => some 'm'
  | .flag .help => some 'h'
  | .flag .version => some 'V'
  | _ => none

/-- The switch as messages name it: dots after one that adds up, and the kind of value. -/
def text : Switch → String
  | .flag .verbose => "--verbose..."
  | .flag f => "--" ++ f.long
  | .slot s => "--" ++ s.long ++ " <" ++ s.valueName ++ ">"

def purpose : Switch → String
  | .flag .verbose => "Sets the level of verbosity"
  | .slot .config => "Optional config file (YAML, TOML or JSON)"
  | .slot .workspace => "Overrides the workspace root (default: $WORKSPACE)"
  | .slot .feedUrl => "Overrides the build status feed URL"
  | .slot .artifactSubpath => "Overrides the artifact directory path relative to the build URL"
  | .slot .artifact => "Replaces the artifact manifest (repeat or use comma-separated values)"
  | .flag .bestEffort => "Attempt every artifact even after a download fails"
  | .slot .report => "Writes a JSON report of every download attempt"
  | .flag .help => "Print help"
  | .flag .version => "Print version"

def ofLong? (name : Bytes) : Option Switch := all.find? fun s => Utf8.encode s.long = name

def ofShort? (c : Char) : Option Switch := all.find? fun s => s.short? = some c

theorem ofLong?_long (s : Switch) : ofLong? (Utf8.encode s.long) = some s := by
  cases s with
  | flag f => cases f <;> cbv
  | slot s => cases s <;> cbv

end Switch

end BuildHarvest.CommandLine
