/-
  BuildHarvest.Feed.Snapshot — the status feed as a file.

  `fetch` stores what the feed's server sends as it arrives, and `buildAt` reads the last
  successful build from such a file.
-/

import BuildHarvest.Feed
import BuildHarvest.Sink
import BuildHarvest.Transfer
import BuildHarvest.World

namespace BuildHarvest.Feed

open BuildHarvest.Action

/-- A fault of the exchange, as the feed's failure. -/
def unfetched (url : String) (fault : Transfer.Fault) : Failure := .statusFetch url fault.text

/-- A refusal of the system, as a failure. -/
def refused (e : Errno) : Failure := .system e.reason

/-- Writes a body to a file and counts its octets as they come. -/
def store (url : String) : Transfer.Body → Sink → UInt64 → Action Failure (Sink × UInt64)
  | .done, sink, written => return (sink, written)
  | .cut, _, _ => throw (unfetched url .cut)
  | .chunk octets rest, sink, written => do
    let sink ← attemptPartly refused (·.within sink.place (sink.writeAll octets))
    store url rest sink (written + octets.length.toUInt64)

/-- Writes a body to a file that is created for it, or emptied: how many octets it has. -/
def keep (url : String) (file : Path) (body : Transfer.Body) : Action Failure UInt64 := do
  let sink ← attempt refused (Sink.create · file)
  let (sink, written) ← store url body sink 0
  attemptPartly refused (·.within sink.place sink.flush)
  return written

/-- Stores the feed, and says how many octets it has. -/
def fetch (agent : Option String) (url : String) (file : Path) : Action Failure Nat := do
  tell (.fetchingFeed url)
  let response ← exchange (unfetched url) fun n =>
    let (answer, n) := Transfer.request agent url n
    (answer.bind (·.accepted), n)
  let written ← keep url file response.body
  tell (.storedFeed url file written.toNat)
  return written.toNat

/-- The URL of the last successful build in a stored feed. -/
def buildAt (file : Path) : Action Failure String := do
  match (← volume).readFile file with
  | .error .isDirectory => throw (.statusMalformed file.text Errno.isDirectory.reason)
  | .error e => throw (.statusMalformed file.text (unreadable ++ e.reason))
  | .ok octets =>
    let (result, extra) := lastBuild file.text (Markup.read octets)
    if 0 < extra then tell (.extraBuilds extra)
    orThrow id result

end BuildHarvest.Feed
