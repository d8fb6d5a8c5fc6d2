/-
  BuildHarvest.Settings.Format — reading a settings text in its format.

  Every format gives a table of settings by name, or nothing where the text is not in it or its
  outermost value is no table.
-/

import BuildHarvest.Ini
import BuildHarvest.Json.Lenient
import BuildHarvest.Ron
import BuildHarvest.Settings.Files
import BuildHarvest.Settings.Value
import BuildHarvest.Toml.Document
import BuildHarvest.Yaml.Document

namespace BuildHarvest.Settings

def tableOf? : Value → Option (List (String × Value))
  | .table entries => some entries
  | _ => none

mutual

def ofJson : Json.Value → Value
  | .null => .null
  | .bool b => .bool b
  | .int n => .int n
  | .float x => .float x
  | .text s => .text s
  | .list items => .list (ofJsonItems items)
  | .object members => .table (ofJsonMembers members)

def ofJsonItems : List Json.Value → List Value
  | [] => []
  | v :: rest => ofJson v :: ofJsonItems rest

def ofJsonMembers : List (String × Json.Value) → List (String × Value)
  | [] => []
  | (name, v) :: rest => (name, ofJson v) :: ofJsonMembers rest

end

/-- The table of settings that a text in some format is. -/
def Format.read? (format : Format) (cs : List Char) : Option (List (String × Value)) :=
  match format with
  | .toml => Toml.read? cs
  | .json => (Json.read? cs).bind fun v => tableOf? (ofJson v)
  | .yaml => Yaml.read? cs
  | .ini => Ini.read? cs
  | .ron => (Ron.read? cs).bind tableOf?
  | .json5 => (Json.Lenient.read? cs).bind fun v => tableOf? (ofJson v)

end BuildHarvest.Settings
