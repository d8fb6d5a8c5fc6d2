/-
  BuildHarvest.Settings.Environment — settings that stand in environment variables.

  A variable whose name begins with the program's own, in any case, holds the setting of the
  rest of its name. Text that is a truth value or a number is one; only the manifest is cut at
  commas.
-/

import BuildHarvest.Decimal.Written
import BuildHarvest.Failure
import BuildHarvest.Settings.Key
import BuildHarvest.Text.Quoted
import BuildHarvest.Unicode.Lowercase

namespace BuildHarvest.Settings

/-- The variables of a process, by name. -/
abbrev Variables := List (Bytes × Bytes)

namespace Environment

def ownPrefix : String := "artisync_"

/-- The key whose value is a list. -/
def listKey : String := "manifest"

def bool? (s : String) : Option Bool :=
  let name := Unicode.lowercase s
  if name = "true" then some true else if name = "false" then some false else none

def valueOf (key s : String) : Value :=
  match bool? s with
  | some b => .bool b
  | none =>
    match Decimal.int? s.toList with
    | some n => .int n
    | none =>
      match Decimal.float? s.toList with
      | some x => .float x
      | none =>
        if key = listKey then
          .list ((splitOn ',' s.toList).map fun item => .text (String.ofList item))
        else .text s

/-- The key that a variable's name gives, where it is one of the program's. -/
def key? (name : Bytes) : Option String :=
  (Utf8.decode? name).bind fun name =>
    let cs := (Unicode.lowercase name).toList
    if ownPrefix.toList.isPrefixOf cs then some (String.ofList (cs.drop ownPrefix.length)) else none

def fault (key : String) (value : Bytes) : SettingsFault :=
  .message ("env variable " ++ Quoted.text key ++ " contains non-Unicode data: "
    ++ Quoted.octets value)

def read : Variables → Except SettingsFault (List (String × Value))
  | [] => .ok []
  | (name, value) :: rest =>
    match key? name with
    | none => read rest
    | some key =>
      match Utf8.decode? value with
      | none => .error (fault key value)
      | some s => do return (key, valueOf key s) :: (← read rest)

end Environment

end BuildHarvest.Settings
