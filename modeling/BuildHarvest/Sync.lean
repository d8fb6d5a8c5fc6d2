/-
  BuildHarvest.Sync — one run, from the status feed to the libraries in place.

  The feed is fetched and read before anything is removed. The library directory is emptied,
  so what an earlier run left there does not stay, and the files of the manifest are fetched
  into it. The report is written whether or not all of them came.
-/

import BuildHarvest.Directory
import BuildHarvest.Download
import BuildHarvest.Feed.Snapshot

namespace BuildHarvest

open BuildHarvest.Action

def Report.write (r : Report) (file : Path) : Action Failure Unit := do
  attemptPartly (fun e => .reportWrite file e.reason) (·.save file (Utf8.encode r.render))
  tell (.reportWritten file)

namespace Sync

/-- How the program calls itself to servers. -/
def agent : String := "artisync/0.1.0"

/-- What a run needs: settings, the files to fetch, and where the report goes. -/
structure Params where
  config : Config
  manifest : Manifest
  report : Option Path

/-- The build that the feed names, and where its libraries are. -/
def locate (config : Config) (layout : Layout) : Action Failure (String × ArtifactBase) := do
  Directory.ensure config.workspace
  let _ ← Feed.fetch (some agent) config.feedUrl layout.statusFile
  tell (.readingBuild layout.statusFile)
  let build ← Feed.buildAt layout.statusFile
  let base ← orThrow id (ArtifactBase.ofBuild build config.artifactSubpath)
  tell (.foundBase build base.text)
  return (build, base)

/-- The working directory, and an empty library directory. -/
def prepare (layout : Layout) : Action Failure Unit := do
  Directory.ensure layout.workDir
  Directory.renew layout.libDir

/-- The files of the manifest, fetched into the library directory. -/
def fetchAll (params : Params) (base : ArtifactBase) : Action Failure (List Outcome) := do
  let items := Item.ofManifest base params.manifest
  let dir := params.config.layout.libDir
  tell (.startingDownloads items.length dir)
  Download.all (some agent) items dir params.config.failurePolicy

/-- The report goes where it is wanted, and a file that did not come is a failure. -/
def conclude (file? : Option Path) (report : Report) : Action Failure Report := do
  if let some file := file? then report.write file
  let _ ← orThrow id (Outcomes.result report.outcomes)
  tell .completed
  return report

def run (params : Params) : Action Failure Report := do
  let (build, base) ← locate params.config params.config.layout
  prepare params.config.layout
  let outcomes ← fetchAll params base
  conclude params.report ⟨build, base.text, outcomes⟩

end Sync

end BuildHarvest
