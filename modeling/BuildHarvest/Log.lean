/-
  BuildHarvest.Log — what a run tells while it goes on.

  A notice says what happened; its level, its topic, its words and its fields follow from that.
-/

import BuildHarvest.Path

namespace BuildHarvest

/-- How much a reader must want to know to be told. -/
inductive Level where
  | warn
  | info
  | debug
  | trace
  deriving DecidableEq, Repr

namespace Level

def rank : Level → Nat
  | warn => 2
  | info => 3
  | debug => 4
  | trace => 5

def text : Level → String
  | warn => "WARN"
  | info => "INFO"
  | debug => "DEBUG"
  | trace => "TRACE"

end Level

inductive Notice where
  | readingSettings (path : String)
  | emptyManifest
  | creatingDirectory (path : Path)
  | leavingInPlace (path : Path)
  | removingContents (path : Path)
  | fetchingFeed (url : String)
  | storedFeed (url : String) (output : Path) (bytes : Nat)
  | readingBuild (path : Path)
  | extraBuilds (count : Nat)
  | foundBase (build base : String)
  | startingDownloads (count : Nat) (dir : Path)
  | downloading (filename url : String) (output : Path) (index count : Nat)
  | downloaded (url : String) (bytes : Nat) (sha256 : String)
  | downloadFailed (reason : String)
  | stopping (skipped : Nat)
  | reportWritten (path : Path)
  | completed
  deriving DecidableEq, Repr

namespace Notice

def level : Notice → Level
  | creatingDirectory _ => .trace
  | readingSettings _ | leavingInPlace _ | removingContents _ | storedFeed .. | extraBuilds _
  | downloaded .. => .debug
  | emptyManifest | downloadFailed _ | stopping _ => .warn
  | fetchingFeed _ | readingBuild _ | foundBase .. | startingDownloads .. | downloading ..
  | reportWritten _ | completed => .info

/-- The topic under which a reader can ask for notices. -/
def topic : Notice → String
  | readingSettings _ => "artisync_lib::config::loader"
  | emptyManifest => "artisync_lib::cli::commands"
  | creatingDirectory _ | leavingInPlace _ | removingContents _ => "artisync_lib::directory"
  | fetchingFeed _ | storedFeed .. => "artisync_lib::feed::fetch"
  | extraBuilds _ => "artisync_lib::feed::extract"
  | readingBuild _ | foundBase .. | startingDownloads .. | completed => "artisync_lib::cli::sync"
  | downloading .. | downloaded .. | downloadFailed _ | stopping _ =>
    "artisync_lib::download::download"
  | reportWritten _ => "artisync_lib::report"

def message : Notice → String
  | readingSettings path => "Reading configuration file " ++ path
  | emptyManifest => "Artifact manifest is empty, nothing will be downloaded"
  | creatingDirectory _ => "Creating directory"
  | leavingInPlace _ => "Not a directory, leaving in place"
  | removingContents _ => "Removing previous contents"
  | fetchingFeed url => "Fetching status feed from " ++ url
  | storedFeed .. => "Stored status feed snapshot"
  | readingBuild path => "Reading last successful build from " ++ path.text
  | extraBuilds _ =>
    "Status document has more than one lastSuccessfulBuild element, using the first"
  | foundBase _ base => "Artifact base URL is " ++ base
  | startingDownloads count dir =>
    "Downloading " ++ toString count ++ " artifact(s) into " ++ dir.text
  | downloading filename _ _ index count =>
    "Downloading " ++ filename ++ " (" ++ toString index ++ "/" ++ toString count ++ ")"
  | downloaded .. => "Downloaded"
  | downloadFailed reason => "Download failed: " ++ reason
  | stopping skipped =>
    "Stopping after first failure, " ++ toString skipped ++ " artifact(s) not attempted"
  | reportWritten path => "Run report written to " ++ path.text
  | completed => "Artifact sync completed successfully"

/-- A value told beside the words. -/
inductive Field where
  | number (n : Nat)
  | text (s : String)
  /-- Text that a line shows in quotes. -/
  | quotation (s : String)
  deriving DecidableEq, Repr

def fields : Notice → List (String × Field)
  | creatingDirectory path | leavingInPlace path | removingContents path =>
    [("path", .text path.text)]
  | storedFeed url output bytes =>
    [("url", .quotation url), ("output", .text output.text), ("bytes", .number bytes)]
  | extraBuilds count => [("extra_builds", .number count)]
  | foundBase build _ => [("build_url", .text build)]
  | downloading _ url output _ _ => [("url", .text url), ("output", .text output.text)]
  | downloaded url bytes sha256 =>
    [("url", .text url), ("bytes", .number bytes), ("sha256", .text sha256)]
  | _ => []

end Notice

end BuildHarvest
