/-
  BuildHarvest.Settings.Files — finding a settings file and the format it is in.

  A name that is a file is that file, and must end in the extension of a format. Any other name
  is tried with each extension behind it, in order.
-/

import BuildHarvest.Failure
import BuildHarvest.Volume

namespace BuildHarvest.Settings

inductive Format where
  | toml
  | json
  | yaml
  | ini
  | ron
  | json5
  deriving DecidableEq, Repr

namespace Format

/-- Extensions in the order in which they are tried. -/
def extensions : List (String × Format) :=
  [("toml", toml), ("json", json), ("yaml", yaml), ("yml", yaml), ("ini", ini), ("ron", ron),
    ("json5", json5)]

def ofExtension? (e : Bytes) : Option Format :=
  (extensions.find? fun x => Utf8.encode x.1 = e).map (·.2)

end Format

/-- The path with an extension behind its last name; whatever stands mute there goes. -/
def withExtension (p : Path) (e : String) : Path :=
  match p.fileName with
  | none => p
  | some _ =>
    let (head, parts) := p.opening
    ⟨head ++ joinWith Path.separator (Path.dropMuteEnd parts) ++ Path.dot :: Utf8.encode e⟩

/-- The working directory's own path. -/
def workingPath (v : Volume) : Path := ⟨Path.separator :: joinWith Path.separator v.cwd⟩

/-- The components that lead from one directory to a path, both absolute. -/
def relative : List Path.Component → List Path.Component → List Path.Component
  | d :: ds, p :: ps =>
    if d = p then relative ds ps else (d :: ds).map (fun _ => .up) ++ p :: ps
  | ds, ps => ds.map (fun _ => .up) ++ ps

/-- How messages name a settings file. -/
def shownName (v : Volume) (file : Path) : String :=
  let steps := relative (workingPath v).components file.components
  Utf8.lossy (joinWith Path.separator (steps.map Path.Component.octets))

def unsupported (file : Path) : SettingsFault :=
  .lookup ("configuration file \x22" ++ file.text ++ "\x22 is not of a supported file format")

def missing (name : String) : SettingsFault :=
  .lookup ("configuration file \x22" ++ name ++ "\x22 not found")

/-- The file that a name means, and its format. -/
def locate (v : Volume) (name : String) : Except SettingsFault (Path × Format) :=
  let file := (workingPath v).join (.ofText name)
  if v.isFile file then
    match file.extension.bind Format.ofExtension? with
    | some format => .ok (file, format)
    | none => .error (unsupported file)
  else
    let tried := Format.extensions.map fun (e, format) => (withExtension file e, format)
    match tried.find? fun x => v.isFile x.1 with
    | some found => .ok found
    | none => .error (missing name)

/-- A mark of the octet order that may stand before a text. -/
def orderMark : Bytes := [0xEF, 0xBB, 0xBF]

/-- The characters of a settings file, whatever octets it has. -/
def charsOf (octets : Bytes) : List Char :=
  Utf8.lossyChars (if orderMark.isPrefixOf octets then octets.drop 3 else octets)

end BuildHarvest.Settings
