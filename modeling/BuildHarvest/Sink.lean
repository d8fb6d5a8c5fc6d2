/-
  BuildHarvest.Sink — a file that is written piece by piece.

  What is written waits in a buffer. It is passed on to the file before a write that would make the
  buffer overflow, and a write that is as long as the buffer goes past it. The file takes what it is
  passed and stores it behind the writer's back, so that a refusal is told to whoever passes
  something on, or flushes, next. What still waits when the writer gives up is lost.

  Every operation is on what the file holds and on the room that there is for it;
  `Volume.within` lets it act on a file's place.
-/

import BuildHarvest.Volume

namespace BuildHarvest

/-- A file that is open for writing. -/
structure Sink where
  place : Loc
  /-- What waits in the buffer. -/
  held : Bytes
  /-- A refusal that nobody has been told yet. -/
  refusal : Option Errno
  deriving DecidableEq, Repr

namespace Sink

def bufferSize : Nat := 8192

/-- How many octets the file takes at once. -/
def gulp : Nat := 2097152

/-- Creates a file, or empties it, and opens it. -/
def create (v : Volume) (p : Path) : Except Errno (Sink × Volume) := do
  let (l, v) ← v.create p
  return (⟨l, [], none⟩, v)

/-- Passes octets on to the file. -/
def pass (s : Sink) (octets : Bytes) (room : Option Nat) (contents : Bytes) :
    Except Errno Sink × Bytes :=
  match s.refusal with
  | some e => (.error e, contents)
  | none =>
    let (refusal, contents) := Volume.append room contents octets
    (.ok { s with refusal := refusal }, contents)

/-- Passes on what waits. -/
def drain (s : Sink) (room : Option Nat) (contents : Bytes) : Except Errno Sink × Bytes :=
  if s.held = [] then (.ok s, contents)
  else { s with held := [] }.pass s.held room contents

/-- Takes octets, as many as fit into one gulp. -/
def write (s : Sink) (octets : Bytes) (room : Option Nat) (contents : Bytes) :
    Except Errno Sink × Bytes :=
  let (ready, contents) :=
    if bufferSize < s.held.length + octets.length then s.drain room contents else (.ok s, contents)
  match ready with
  | .error e => (.error e, contents)
  | .ok s =>
    if octets.length < bufferSize then (.ok { s with held := s.held ++ octets }, contents)
    else s.pass (octets.take gulp) room contents

/-- Takes octets gulp by gulp. -/
def writeAll (s : Sink) (octets : Bytes) (room : Option Nat) (contents : Bytes) :
    Except Errno Sink × Bytes :=
  if octets = [] then (.ok s, contents)
  else
    match s.write octets room contents with
    | (.error e, contents) => (.error e, contents)
    | (.ok s, contents) => s.writeAll (octets.drop gulp) room contents
termination_by octets.length
decreasing_by
  have := List.length_pos_iff.mpr ‹octets ≠ []›
  simp only [List.length_drop, gulp]
  omega

/-- Passes on what waits, and waits until all has been stored. -/
def flush (s : Sink) (room : Option Nat) (contents : Bytes) : Except Errno Unit × Bytes :=
  match s.drain room contents with
  | (.error e, contents) => (.error e, contents)
  | (.ok s, contents) => (s.refusal.elim (.ok ()) .error, contents)

end Sink

end BuildHarvest
