/-
  BuildHarvest.Feed — the status feed of a build job.

  A feed is a document, and the URL of the last successful build is the text of the first `url`
  element inside its first `lastSuccessfulBuild` element, both at any depth and without a
  namespace. Only text that stands directly in the `url` element counts, and nothing is
  trimmed. The whole document is read, so a fault behind the match is still a fault; further
  `lastSuccessfulBuild` elements are counted.
-/

import BuildHarvest.Failure
import BuildHarvest.Markup.Reader

namespace BuildHarvest.Feed

open Markup

def buildElement : String := "lastSuccessfulBuild"

def urlElement : String := "url"

/-- Progress of the search. -/
structure Search where
  /-- How many elements are open. -/
  depth : Nat
  /-- The depth of the first build element, once it is met. -/
  build : Option Nat
  /-- The depth of the `url` element being read. -/
  url : Option Nat
  /-- The text of that element so far, last piece first. -/
  pieces : List String
  found : Option String
  /-- The first build element has ended without a `url` element. -/
  closed : Bool
  /-- Build elements met after the search was over. -/
  extra : Nat
  deriving DecidableEq, Repr

namespace Search

def start : Search := ⟨0, none, none, [], none, false, 0⟩

def isOver (s : Search) : Bool := s.found.isSome || s.closed

def enter (s : Search) (name : Name) : Search :=
  let s := { s with depth := s.depth + 1 }
  if name.space.isSome then s
  else if s.isOver then
    if name.label = buildElement then { s with extra := s.extra + 1 } else s
  else
    match s.build, s.url with
    | none, _ => if name.label = buildElement then { s with build := some s.depth } else s
    | some _, none => if name.label = urlElement then { s with url := some s.depth } else s
    | some _, some _ => s

def leave (s : Search) : Search :=
  let next :=
    if s.url = some s.depth then
      { s with found := some (String.join s.pieces.reverse), url := none, pieces := [] }
    else if s.build = some s.depth then { s with closed := true }
    else s
  { next with depth := s.depth - 1 }

def hear (s : Search) (text : String) : Search :=
  if s.url = some s.depth then { s with pieces := text :: s.pieces } else s

def step (s : Search) : Event → Search
  | .opening name _ => s.enter name
  | .closing _ => s.leave
  | .text text => s.hear text
  | _ => s

def result (s : Search) : Except Failure String :=
  match s.found, s.build with
  | some url, _ => .ok url
  | none, none => .error (.missingNode buildElement)
  | none, some _ => .error (.missingNode (buildElement ++ "/" ++ urlElement))

/-- Goes on through what the reader gives: an event is a step, and a fault ends the search. -/
def run (document : String) (s : Search) : List (Except Fault Event) → Except Failure Search
  | [] => .ok s
  | .ok event :: rest => (s.step event).run document rest
  | .error fault :: _ => .error (.statusMalformed document fault.reason)

/-- All events are steps, unless a fault stands behind them. -/
theorem run_items (document : String) (s : Search) (stream : Stream) : s.run document stream.items =
    match stream.fault with
    | some fault => .error (.statusMalformed document fault.reason)
    | none => .ok (stream.events.foldl step s) := by
  obtain ⟨events, fault⟩ := stream
  induction events generalizing s with
  | nil => cases fault <;> rfl
  | cons event events ih => exact ih (s.step event)

end Search

def search (events : List Event) : Search := events.foldl Search.step .start

/-- How a feed without a file is called. -/
def anonymous : String := "<status feed>"

/-- How the reason begins where a feed's file cannot be opened. -/
def unreadable : String := "unable to open for reading: "

/-- The URL of the last successful build, and how many build elements were passed over. -/
def lastBuild (document : String) (s : Stream) : Except Failure String × Nat :=
  match Search.start.run document s.items with
  | .error e => (.error e, 0)
  | .ok found => (found.result, found.extra)

/-- A fault ends the search wherever it comes; without one, all events are searched. -/
theorem lastBuild_eq (document : String) (s : Stream) : lastBuild document s =
    match s.fault with
    | some fault => (.error (.statusMalformed document fault.reason), 0)
    | none => ((search s.events).result, (search s.events).extra) := by
  rw [lastBuild, Search.run_items]
  cases s.fault <;> rfl

end BuildHarvest.Feed
