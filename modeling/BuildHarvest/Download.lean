/-
  BuildHarvest.Download — fetching files one after another.

  A file is written, hashed and counted piece by piece as it arrives. Every item that is attempted
  has an outcome; a failure is one, and ends the list only where the policy says so.
-/

import BuildHarvest.ArtifactBase
import BuildHarvest.Config
import BuildHarvest.Report
import BuildHarvest.Sha256
import BuildHarvest.Sink
import BuildHarvest.Transfer
import BuildHarvest.World

namespace BuildHarvest.Download

open BuildHarvest.Action

/-- What was being done, and what stopped it. -/
def context (deed cause : String) : String := deed ++ ": " ++ cause

/-- Writes a body to a file, hashes it and counts its octets as they come. -/
def store (url : String) (file : Path) :
    Transfer.Body → Sink → Sha256.Hasher → UInt64 → Action String (Sink × Sha256.Hasher × UInt64)
  | .done, sink, hasher, written => return (sink, hasher, written)
  | .cut, _, _, _ =>
    throw (context ("Failed to read from " ++ url) (Transfer.Fault.account .cut))
  | .chunk octets rest, sink, hasher, written => do
    let hasher := hasher.update octets
    let sink ← attemptPartly (fun e => context ("Failed to write to " ++ file.text) e.reason)
      (·.within sink.place (sink.writeAll octets))
    store url file rest sink hasher (written + octets.length.toUInt64)

/-- Writes a body to a file that is created for it, or emptied: how many octets it has, and its
digest. -/
def keep (url : String) (file : Path) (body : Transfer.Body) : Action String (UInt64 × String) := do
  let sink ← attempt
    (fun e => context ("Failed to create output file: " ++ file.text) e.reason) (Sink.create · file)
  let (sink, hasher, written) ← store url file body sink .new 0
  attemptPartly (fun e => context ("Failed to flush " ++ file.text) e.reason)
    (·.within sink.place sink.flush)
  return (written, Sha256.hexText hasher.finish)

/-- Fetches one file: how many octets it has, and its digest. -/
def one (agent : Option String) (url : String) (file : Path) : Action String (UInt64 × String) := do
  let response ← exchange (fun fault => context ("Failed to request " ++ url) fault.account)
    (Transfer.request agent url)
  let response ← orThrow (fun fault => context ("Failed to fetch " ++ url) fault.account)
    response.accepted
  keep url file response.body

def attemptItem (agent : Option String) (item : Item) (file : Path) : Action Failure Status := do
  match ← outcome (one agent item.url file) with
  | .ok (bytes, sha256) => do
    tell (.downloaded item.url bytes.toNat sha256)
    return .downloaded bytes sha256
  | .error reason => do
    tell (.downloadFailed reason)
    return .failed reason

/-- The outcomes of the items from one of `total` on. -/
def attemptFrom (agent : Option String) (dir : Path) (policy : FailurePolicy) (total : Nat) :
    Nat → List Item → Action Failure (List Outcome)
  | _, [] => return []
  | index, item :: rest => do
    let file := dir.join (.ofText item.filename)
    tell (.downloading item.filename item.url file (index + 1) total)
    let o : Outcome := ⟨item.filename, item.url, ← attemptItem agent item file⟩
    if !o.isSuccess ∧ policy = .failFast then
      if 0 < rest.length then tell (.stopping rest.length)
      return [o]
    else
      let os ← attemptFrom agent dir policy total (index + 1) rest
      return o :: os

/-- Fetches items into a directory that is there. -/
def all (agent : Option String) (items : List Item) (dir : Path) (policy : FailurePolicy) :
    Action Failure (List Outcome) :=
  attemptFrom agent dir policy items.length 0 items

end BuildHarvest.Download
