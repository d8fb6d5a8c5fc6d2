/-
  BuildHarvest.ArtifactBase — the directory of a build's published libraries.

  The directory's text is the build's URL and the path below it with one separator between and
  one at the end (`ArtifactBase.address`). It must be a locator with a path, and each artifact
  is one segment behind it.
-/

import BuildHarvest.Manifest
import BuildHarvest.Url.Segment

namespace BuildHarvest

structure ArtifactBase where
  url : Url
  rooted : url.isBare = false

namespace ArtifactBase

def closed (cs : List Char) : List Char := if cs.getLast? = some '/' then cs else cs ++ ['/']

def addressChars (build subpath : List Char) : List Char :=
  closed (closed build ++ subpath.dropWhile (· == '/'))

/-- The text the directory is read from. -/
def address (build subpath : String) : String :=
  String.ofList (addressChars build.toList subpath.toList)

def bareReason : String := "URL cannot hold artifact paths"

def ofBuild (build subpath : String) : Except Failure ArtifactBase :=
  let text := address build subpath
  match Url.parse text with
  | .error fault => .error (.invalidUrl text fault.reason)
  | .ok url =>
    if h : url.isBare = false then .ok ⟨url, h⟩ else .error (.invalidUrl text bareReason)

def text (b : ArtifactBase) : String := b.url.text

def urlOf (b : ArtifactBase) (filename : String) : String := (b.url.child filename).text

end ArtifactBase

/-- One file to fetch: its name, kept for the local file, and where it is. -/
structure Item where
  filename : String
  url : String
  deriving DecidableEq, Repr

def Item.ofManifest (base : ArtifactBase) (m : Manifest) : List Item :=
  m.toList.map fun name => ⟨name, base.urlOf name⟩

end BuildHarvest
