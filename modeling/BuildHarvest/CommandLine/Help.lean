/-
  BuildHarvest.CommandLine.Help — what the program says of itself.
-/

import BuildHarvest.CommandLine.Switch

namespace BuildHarvest.CommandLine

def program : String := "artisync"

def versionText : String := program ++ " 0.1.0\n"

def usage : String := "Usage: " ++ program ++ " [OPTIONS]"

/-- The name of one letter and the long one, in columns. -/
def Switch.names (s : Switch) : String :=
  (match s.short? with
    | some c => String.ofList ['-', c, ',', ' ']
    | none => "    ") ++ s.text

/-- The purposes stand in one column, two blanks behind the longest name. -/
def Switch.column : Nat := (Switch.all.map (·.names.length)).foldl max 0 + 2

def Switch.helpLine (s : Switch) : String :=
  let blanks := List.replicate (Switch.column - s.names.length) ' '
  "  " ++ s.names ++ String.ofList blanks ++ s.purpose ++ "\n"

def helpText : String :=
  "Download the libraries published by the last successful build of a CI job\n\n" ++ usage
    ++ "\n\nOptions:\n" ++ String.join (Switch.all.map (·.helpLine))

end BuildHarvest.CommandLine
