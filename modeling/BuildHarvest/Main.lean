/-
  BuildHarvest.Main — the command.

  The working directory is read into a volume, the run acts on that, and what the run changed
  is written back. There is no link to a network from here.
-/

import BuildHarvest.Program

namespace BuildHarvest.Command

def octetsOf (a : ByteArray) : Bytes := a.toList

def arrayOf (bs : Bytes) : ByteArray := ⟨bs.toArray⟩

def placeText (l : Loc) : String := "/" ++ Utf8.lossy (joinWith Path.separator l)

/-- An entry of a directory with all that lies under it. -/
partial def gather (parent : Loc) (entry : IO.FS.DirEntry) : IO (List (Loc × Entry)) := do
  let l := parent ++ [Utf8.encode entry.fileName]
  match (← entry.path.symlinkMetadata).type with
  | .file => return [(l, .file (octetsOf (← IO.FS.readBinFile entry.path)))]
  | .dir => do
    let below ← (← entry.path.readDir).toList.mapM (gather l)
    return (l, .dir) :: below.flatten
  | _ => return []

def openVolume : IO Volume := do
  let here ← IO.currentDir
  let l := (splitOn Path.separator (Utf8.encode here.toString)).filter (· ≠ [])
  let above := (List.range l.length).map fun i => (l.take (i + 1), Entry.dir)
  let below ← (← here.readDir).toList.mapM (gather l)
  return ⟨⟨above ++ below.flatten, []⟩, l⟩

/-- The entries of one tree that another does not have, shallow ones first. -/
def missing (t other : Tree) : List (Loc × Entry) :=
  (t.entries.filter fun e => other.get? e.1 ≠ some e.2).mergeSort fun a b =>
    a.1.length ≤ b.1.length

def save (before after : Tree) : IO Unit := do
  for (l, e) in (missing before after).reverse do
    match e with
    | .dir => IO.FS.removeDir (placeText l)
    | _ => IO.FS.removeFile (placeText l)
  for (l, e) in missing after before do
    match e with
    | .dir => IO.FS.createDirAll (placeText l)
    | .file contents => IO.FS.writeBinFile (placeText l) (arrayOf contents)
    | .link _ => return

/-- A name, an equals sign and a value. -/
def variableOf (bs : Bytes) : Bytes × Bytes :=
  (bs.takeWhile (· != CommandLine.equals), (bs.dropWhile (· != CommandLine.equals)).drop 1)

def environment : IO Settings.Variables := do
  let held := octetsOf (← IO.FS.readBinFile "/proc/self/environ")
  return ((splitOn 0 held).filter (· ≠ [])).map variableOf

def perform (call : CommandLine.Call) : IO UInt32 := do
  let vars ← environment
  let world : World := ⟨← openVolume, ⟨false, [], []⟩, []⟩
  let (result, after) := (call.perform vars).run world
  for notice in call.told vars after.notices do
    IO.println notice.line
  save world.volume.tree after.volume.tree
  match result with
  | .ok _ => return 0
  | .error failure => do
    IO.eprintln ("Error: " ++ failure.message)
    return 1

end BuildHarvest.Command

open BuildHarvest in
def main (arguments : List String) : IO UInt32 := do
  match CommandLine.parse (arguments.map Utf8.encode) with
  | .ok call => Command.perform call
  | .error stop => do
    if stop.status = 0 then IO.print stop.shown else IO.eprint stop.shown
    return stop.status.toUInt32
