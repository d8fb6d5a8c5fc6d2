/-
  BuildHarvest.Failure — what can end a run, and how each cause is worded.
-/

import BuildHarvest.Path

namespace BuildHarvest

/-- What is wrong with the settings a plan is read from. -/
inductive SettingsFault where
  /-- A required key has no value. -/
  | notFound (reason : String)
  /-- A settings file that cannot be read as a table; its reader's own words. -/
  | fileParse (reason : String)
  /-- A value of a kind its key cannot take. -/
  | wrongType (reason : String)
  /-- A value that is refused at its key. -/
  | refused (reason : String)
  /-- A key or variable that cannot be taken at all. -/
  | message (reason : String)
  /-- No settings file where one is named. -/
  | lookup (reason : String)
  deriving DecidableEq, Repr

def SettingsFault.reason : SettingsFault → String
  | notFound r | fileParse r | wrongType r | refused r | message r | lookup r => r

inductive Failure where
  | settings (fault : SettingsFault)
  | invalidSettings (details : String)
  | system (reason : String)
  | statusFetch (url reason : String)
  | statusMalformed (document reason : String)
  | missingNode (path : String)
  | invalidUrl (url reason : String)
  | invalidEntry (entry reason : String)
  | directoryConflict (path : Path)
  | directoryCreation (path : Path) (reason : String)
  | directoryClear (path : Path) (reason : String)
  | download (failed : Nat) (filename url reason : String)
  | reportWrite (path : Path) (reason : String)
  | reportFormat (reason : String)
  | http (reason : String)
  | unexpected (reason : String)
  deriving DecidableEq, Repr

def Failure.message : Failure → String
  | settings fault => "Configuration error: " ++ fault.reason
  | invalidSettings details => "Invalid configuration: " ++ details
  | system reason => "I/O error: " ++ reason
  | statusFetch url reason => "Failed to fetch status feed from " ++ url ++ ": " ++ reason
  | statusMalformed document reason =>
    "Failed to parse status document " ++ document ++ ": " ++ reason
  | missingNode path => "Status document has no node at path '" ++ path ++ "'"
  | invalidUrl url reason => "Invalid URL " ++ url ++ ": " ++ reason
  | invalidEntry entry reason => "Invalid manifest entry '" ++ entry ++ "': " ++ reason
  | directoryConflict path =>
    "A file with the same name as the desired directory, '" ++ path.text ++ "', already exists"
  | directoryCreation path reason =>
    "Directory creation failed at " ++ path.text ++ ": " ++ reason
  | directoryClear path reason => "Failed to clear directory " ++ path.text ++ ": " ++ reason
  | download failed filename url reason =>
    toString failed ++ " artifact download(s) failed, first failure: " ++ filename ++ " from "
      ++ url ++ ": " ++ reason
  | reportWrite path reason => "Failed to write run report to " ++ path.text ++ ": " ++ reason
  | reportFormat reason => "JSON serialization/deserialization error: " ++ reason
  | http reason => "HTTP request error: " ++ reason
  | unexpected reason => "Unexpected error: " ++ reason

end BuildHarvest
