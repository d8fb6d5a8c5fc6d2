/-
  BuildHarvest.Url.Idna — international domain names in ASCII.

  A name is mapped character by character, composed, and cut into labels at full stops. A label
  with characters beyond ASCII is written in Punycode behind `xn--`; one that comes so written
  must be the writing of such a label. Labels are not looked at for hyphens or length, but
  their characters, their joiners and, where one runs from right to left, their directions are.
-/

import BuildHarvest.Text.Utf8
import BuildHarvest.Unicode.Composition
import BuildHarvest.Unicode.Direction
import BuildHarvest.Unicode.HostMapping
import BuildHarvest.Unicode.Joining
import BuildHarvest.Url.Punycode

namespace BuildHarvest.Url.Idna

open Unicode

def isAscii (c : Char) : Bool := c.toNat < 0x80

/-- ASCII characters that no domain has. -/
def isForbidden (c : Char) : Bool :=
  c.toNat ≤ 0x20 || c == '\x7F' ||
    ['%', '#', '/', ':', '<', '>', '?', '@', '[', '\\', ']', '^', '|'].contains c

/-- Every character replaced by what stands for it, and letters and marks composed. -/
def mapped? (cs : List Char) : Option (List Char) :=
  (cs.foldr (fun c r => (hostImage c).bind fun img => r.map (img ++ ·)) (some [])).map composed

def zeroWidthNonJoiner : Char := '\u200C'

def zeroWidthJoiner : Char := '\u200D'

/-- Marks of this class are viramas, after which a joiner may stand. -/
def viramaClass : Nat := 9

def joinersFit (before : List Char) : List Char → Bool
  | [] => true
  | c :: rest =>
    let afterVirama := (before.head?.map combiningClass).getD 0 == viramaClass
    (if c == zeroWidthNonJoiner then
      afterVirama || (reachesForward before && reachesBack rest)
    else if c == zeroWidthJoiner then afterVirama
    else true) && joinersFit (c :: before) rest

/-- A label beyond ASCII has only characters that stand for themselves, does not begin with a
mark, and puts joiners where they join. -/
def isSound (label : List Char) : Bool :=
  label.all isHostStable && !(label.head?.map marks.contains).getD false && joinersFit [] label

/-! ## Direction -/

def runsRightToLeft (c : Char) : Bool :=
  match direction c with
  | .rightToLeft | .arabicLetter | .arabicNumber => true
  | _ => false

def fitsRightToLeft : Direction → Bool
  | .left | .separator => false
  | _ => true

def fitsLeftToRight : Direction → Bool
  | .rightToLeft | .arabicLetter | .arabicNumber | .separator => false
  | _ => true

/-- The last direction that is not a mark's. -/
def lastDirection (ds : List Direction) : Option Direction :=
  (ds.reverse.dropWhile (· == .mark)).head?

/-- A label's direction is that of its first character, and the rest agrees with it. -/
def directionsFit (label : List Char) : Bool :=
  let ds := label.map direction
  match ds.head? with
  | none => true
  | some .left =>
    ds.all fitsLeftToRight &&
      (match lastDirection ds with
        | some .left | some .europeanNumber => true
        | _ => false)
  | some .rightToLeft | some .arabicLetter =>
    ds.all fitsRightToLeft &&
      (match lastDirection ds with
        | some .rightToLeft | some .arabicLetter | some .europeanNumber | some .arabicNumber =>
          true
        | _ => false) &&
      !(ds.contains .europeanNumber && ds.contains .arabicNumber)
  | some _ => false

/-! ## Labels -/

def mark : List Char := "xn--".toList

/-- Longer labels are refused. -/
def maxPlainLength : Nat := 1000

def maxWrittenLength : Nat := 2000

/-- The characters a label stands for. -/
def unwritten? (label : List Char) : Option (List Char) :=
  if mark.isPrefixOf label then
    let written := label.drop mark.length
    if maxWrittenLength < written.length then none
    else
      (Punycode.decode? written).bind fun plain =>
        if plain.all isAscii || composed plain != plain || !isSound plain then none
        else some plain
  else if label.all isAscii then some label
  else if isSound label then some label
  else none

def written? (plain : List Char) : Option (List Char) :=
  if plain.all isAscii then some plain
  else if maxPlainLength < plain.length then none
  else some (mark ++ Punycode.encode plain)

/-- A label that came written stays as it came. -/
def settled? (label : List Char) : Option (List Char) :=
  if label.all isAscii then some label else written? label

/-- The ASCII form of a domain name. -/
def toAscii? (cs : List Char) : Option (List Char) :=
  (mapped? cs).bind fun name =>
    let labels := splitOn '.' name
    (labels.mapM unwritten?).bind fun plain =>
      if plain.any (·.any runsRightToLeft) && !plain.all directionsFit then none
      else
        (labels.mapM settled?).bind fun out =>
          let text := joinWith '.' out
          if text.any isForbidden then none else some text

end BuildHarvest.Url.Idna
