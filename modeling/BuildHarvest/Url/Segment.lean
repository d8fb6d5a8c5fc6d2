/-
  BuildHarvest.Url.Segment — putting a name behind the path of a locator.

  `Url.child u name` writes the whole name as one segment behind the directory `u`: an empty
  last segment gives way to it, and every character that could end the segment is escaped. The
  names `.` and `..` add nothing. Tabs and line ends of the name are dropped, and a name that is
  a dot segment without them moves as that segment does.
-/

import BuildHarvest.Url.Parse

namespace BuildHarvest.Url

/-- The directory itself, without the empty segment behind its last slash. -/
def withoutEmptyEnd (ss : List String) : List String :=
  if 1 < ss.length ∧ ss.getLast? = some "" then ss.dropLast else ss

def segmentOf (kind : SchemeKind) (name : String) : List Char :=
  escape (if kind.isSpecial then specialSegmentSet else segmentSet)
    (name.toList.filter (!isDropped ·))

/-- Where a new segment goes: a lone empty segment gives way. -/
def pushBase (ss : List String) : List String := if ss = [""] then [] else ss

def pushSegment (kind : SchemeKind) (ss : List String) (name : String) : List String :=
  if name = "." ∨ name = ".." then ss
  else settleFile kind (descend (pushBase ss) (segmentOf kind name) true)

def child (u : Url) (name : String) : Url :=
  match u.route with
  | .bare _ => u
  | .segments ss =>
    { u with route := .segments (pushSegment (schemeKind u.scheme) (withoutEmptyEnd ss) name) }

end BuildHarvest.Url
