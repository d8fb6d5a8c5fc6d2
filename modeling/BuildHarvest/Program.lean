/-
  BuildHarvest.Program — a call of the program, from its arguments to its exit status.
-/

import BuildHarvest.CommandLine.Help
import BuildHarvest.CommandLine.Reader
import BuildHarvest.Log.Filter
import BuildHarvest.Log.Line

namespace BuildHarvest

namespace CommandLine.Stop

def status : Stop → Nat
  | .misuse _ => 2
  | _ => 0

/-- What is shown, where nothing reads it as a terminal. -/
def shown : Stop → String
  | .help => helpText
  | .version => versionText
  | .misuse m =>
    Terminal.plain
      (m.message ++ "\n\n" ++ usage ++ "\n\nFor more information, try '--help'.\n")

end CommandLine.Stop

namespace CommandLine.Call

/-- The variable that holds a filter for the log. -/
def filterVariable : String := "RUST_LOG"

def filter (c : Call) (vars : Settings.Variables) : Filter :=
  .ofText c.level ((Settings.textOf? vars filterVariable).getD "")

/-- The notices of a run that are told. -/
def told (c : Call) (vars : Settings.Variables) (notices : List Notice) : List Notice :=
  notices.filter (c.filter vars).admits

def perform (c : Call) (vars : Settings.Variables) : Action Failure Report := do
  Sync.run (← c.options.resolve vars)

end CommandLine.Call

end BuildHarvest
