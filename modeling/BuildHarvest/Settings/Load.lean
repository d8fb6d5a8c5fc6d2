/-
  BuildHarvest.Settings.Load — the settings of a run, out of all their sources.

  Defaults come lowest, then a settings file, then the environment, then what the command line
  gives. The file and the environment are laid over one another first, and the result over the
  defaults.
-/

import BuildHarvest.Config
import BuildHarvest.Settings.Environment
import BuildHarvest.Settings.Files
import BuildHarvest.Settings.Format
import BuildHarvest.World

namespace BuildHarvest.Settings

/-- What stands above all other sources. -/
structure Overrides where
  workspace : Option Path
  feedUrl : Option String
  artifactSubpath : Option String
  manifest : Option (List String)
  failurePolicy : Option FailurePolicy
  deriving DecidableEq, Repr

/-! ## Names and defaults -/

def fieldNames : List String :=
  ["workspace", "feed_url", "artifact_subpath", "manifest", "status_file", "work_dir", "lib_dir",
    "failure_policy"]

/-- The variable that a calling job sets to its own directory. -/
def workspaceVariable : String := "WORKSPACE"

def textsOf (ss : List String) : Setting := .list none (ss.map Setting.text)

def defaults : Entries :=
  [("feed_url",
      .text "http://hudson-sca.us.oracle.com/view/JAX-WS/view/WLS/job/jaxws-ri-wls/api/xml"),
    ("artifact_subpath", .text "artifact/jaxws-ri/dist/jaxws-ri/lib/"),
    ("manifest", textsOf ["jsr181-api.jar", "common.sdo.jar"]),
    ("status_file", .text "urlretrieve.xml"),
    ("work_dir", .text "jaxwstop4"),
    ("lib_dir", .text "libDir"),
    ("failure_policy", .text FailurePolicy.failFast.text)]

def textOf? (vars : Variables) (name : String) : Option String :=
  (vars.lookup (Utf8.encode name)).bind Utf8.decode?

def workspaceDefault (vars : Variables) : Entries :=
  ((textOf? vars workspaceVariable).map fun s => ("workspace", Setting.text s)).toList

def Overrides.entries (o : Overrides) : Entries :=
  (o.workspace.map fun p => ("workspace", Setting.text p.text)).toList ++
  (o.feedUrl.map fun s => ("feed_url", Setting.text s)).toList ++
  (o.artifactSubpath.map fun s => ("artifact_subpath", Setting.text s)).toList ++
  (o.manifest.map fun ss => ("manifest", textsOf ss)).toList ++
  (o.failurePolicy.map fun p => ("failure_policy", Setting.text p.text)).toList

/-! ## Sources -/

def fileEntries (v : Volume) (name : String) : Except SettingsFault Entries := do
  let (file, format) ← locate v name
  match v.readFile file with
  | .error _ => throw (missing name)
  | .ok octets =>
    match format.read? (charsOf octets) with
    | none => throw (.fileParse "")
    | some entries => return entriesOf (.file (shownName v file)) entries []

def sourceEntries (v : Volume) (name? : Option String) (vars : Variables) :
    Except SettingsFault (List Entries) := do
  let file ← name?.mapM (fileEntries v)
  let environment ← Environment.read vars
  return file.toList ++ [entriesOf .environment environment []]

/-- All settings, the later ones over the earlier. -/
def layered (vars : Variables) (sources : List Entries) (o : Overrides) : Entries :=
  let middle : Entries := sources.foldl (fun es source => source.over es) []
  o.entries.over (middle.over (defaults ++ workspaceDefault vars))

/-! ## Reading the fields -/

def originText (s : Setting) : String := (s.origin.map fun o => " in " ++ o.text).getD ""

/-- What a setting is that should have been something else. -/
def kindText : Setting → String
  | .scalar _ .null => "unit value"
  | .scalar _ (.bool b) => "boolean \x60" ++ (if b then "true" else "false") ++ "\x60"
  | .scalar _ (.int n) => "integer \x60" ++ toString n ++ "\x60"
  | .scalar _ (.float x) =>
    let t := Decimal.text x
    let isWhole := x.isFinite && !t.contains '.'
    "floating point \x60" ++ (if isWhole then t ++ ".0" else t) ++ "\x60"
  | .scalar _ (.text s) => "string " ++ Quoted.text s
  | .list .. => "sequence"
  | .table .. => "map"

def atKey (key : String) : String := " for key \x60" ++ key ++ "\x60"

def readText (key : String) (s : Setting) : Except SettingsFault String :=
  let refusal := SettingsFault.wrongType
    ("invalid type: " ++ kindText s ++ ", expected a string" ++ atKey key ++ originText s)
  match s with
  | .scalar _ v =>
    match v.text? with
    | some t => .ok t
    | none => .error refusal
  | _ => .error refusal

def readTexts (key : String) (s : Setting) : Except SettingsFault (List String) :=
  match s with
  | .list _ items => items.zipIdx.mapM fun (item, i) => readText (key ++ "[" ++ toString i ++ "]") item
  | _ => .error (.refused ("invalid type: " ++ kindText s ++ ", expected a sequence" ++ atKey key))

/-- The policy that a text, or a table of one name, stands for. -/
def readPolicy (key : String) (s : Setting) : Except SettingsFault FailurePolicy :=
  let name? : Option String :=
    match s with
    | .scalar _ (.text t) => some t
    | .table _ [(name, _)] => some name
    | _ => none
  match name? with
  | none =>
    .error (.refused ("value of enum FailurePolicy should be represented by either string or "
      ++ "table with exactly one key" ++ atKey key))
  | some name =>
    match FailurePolicy.ofText? name with
    | some p => .ok p
    | none =>
      .error (.refused ("enum FailurePolicy does not have variant constructor " ++ name
        ++ atKey key))

def unknownField (name : String) : SettingsFault :=
  let known := ", ".intercalate (fieldNames.map fun n => "\x60" ++ n ++ "\x60")
  .message ("unknown field \x60" ++ name ++ "\x60, expected one of " ++ known)

def Entries.field (es : Entries) (name : String) : Setting := (es.get? name).getD .nil

def readConfig (es : Entries) : Except SettingsFault Config := do
  if let some (name, _) := es.find? fun e => !fieldNames.contains e.1 then
    throw (unknownField name)
  let textAt (name : String) := readText name (es.field name)
  return {
    workspace := .ofText (← textAt "workspace")
    feedUrl := ← textAt "feed_url"
    artifactSubpath := ← textAt "artifact_subpath"
    manifest := ← readTexts "manifest" (es.field "manifest")
    statusFile := ← textAt "status_file"
    workDir := ← textAt "work_dir"
    libDir := ← textAt "lib_dir"
    failurePolicy := ← readPolicy "failure_policy" (es.field "failure_policy") }

/-! ## All together -/

def noWorkspace : Failure :=
  .invalidSettings ("No workspace provided. Set " ++ workspaceVariable
    ++ ", configure workspace or pass --workspace.")

def hasWorkspace (es : Entries) : Bool :=
  match readText "workspace" (es.field "workspace") with
  | .ok _ => true
  | .error _ => false

def configOf (es : Entries) : Except Failure Config :=
  if hasWorkspace es then (readConfig es).mapError .settings else .error noWorkspace

/-- The settings of a run; nothing is changed but what is told. -/
def load (name? : Option String) (vars : Variables) (o : Overrides) : Action Failure Config := do
  if let some name := name? then Action.tell (.readingSettings name)
  let v ← Action.volume
  let sources ← Action.orThrow .settings (sourceEntries v name? vars)
  Action.orThrow id (configOf (layered vars sources o))

end BuildHarvest.Settings
