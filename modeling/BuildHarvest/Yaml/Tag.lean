/-
  BuildHarvest.Yaml.Tag — tags and the lines that declare them.

  A tag is a handle between exclamation marks and a suffix, or a whole name in angle brackets.
  A line that begins with a percent sign gives a version, or says what a handle stands for.
-/

import BuildHarvest.Text.Split
import BuildHarvest.Text.Utf8
import BuildHarvest.Yaml.Cursor

namespace BuildHarvest.Yaml

structure Tag where
  handle : String
  suffix : String
  deriving DecidableEq, Repr

namespace Tag

def isUriChar (c : Char) : Bool :=
  (isWord c && c != '_') || "#;/?:@&=+$,_.!~*\x27()[]%".toList.contains c

def isTagChar (c : Char) : Bool := isUriChar c && !isFlow c && c != '!'

/-- How many octets a character has that begins with one. -/
def octetCount? (b : UInt8) : Option Nat :=
  if b < 0x80 then some 1
  else if b &&& 0xE0 = 0xC0 then some 2
  else if b &&& 0xF0 = 0xE0 then some 3
  else if b &&& 0xF8 = 0xF0 then some 4
  else none

def octet? : List Char → Option UInt8
  | '%' :: a :: b :: _ => (digitsValue? 16 hexDigit? [a, b]).map (·.toUInt8)
  | _ => none

/-- The character that escapes stand for, and how many characters they have. -/
def escaped? (cs : List Char) : Option (Char × Nat) := do
  let first ← octet? cs
  let count ← octetCount? first
  let octets ← (List.range count).mapM fun i => octet? (cs.drop (3 * i))
  match Utf8.decodeChars? octets with
  | some [c] => some (c, 3 * count)
  | _ => none

/-- The characters of a name, escapes read; characters so far last first. -/
def nameFrom (p : Char → Bool) : Nat → List Char → Cursor → Option (List Char × Cursor)
  | 0, soFar, c => some (soFar.reverse, c)
  | fuel + 1, soFar, c =>
    if !p c.char then some (soFar.reverse, c)
    else if c.char = '%' then
      (escaped? c.rest).bind fun (x, n) => nameFrom p fuel (x :: soFar) (c.skip n)
    else nameFrom p fuel (c.char :: soFar) (c.skip 1)

def cutName (p : Char → Bool) (c : Cursor) : Option (List Char × Cursor) :=
  nameFrom p (c.rest.length + 1) [] c

/-- An exclamation mark, word characters, and a second mark if there is one. -/
def cutHandle (c : Cursor) : Option (List Char × Cursor) :=
  if c.char ≠ '!' then none
  else
    let word := (c.skip 1).span isWord
    let d := c.skip (word.length + 1)
    if d.char = '!' then some ('!' :: word ++ ['!'], d.skip 1) else some ('!' :: word, d)

def verbatim (c : Cursor) : Option (Tag × Cursor) :=
  (cutName isUriChar (c.skip 2)).bind fun (cs, d) =>
    if d.char = '>' then some (⟨"", String.ofList cs⟩, d.skip 1) else none

def isHandle (cs : List Char) : Bool := 2 ≤ cs.length && cs.getLast? == some '!'

def shorthand (c : Cursor) : Option (Tag × Cursor) :=
  (cutHandle c).bind fun (h, d) =>
    (cutName isTagChar d).bind fun (cs, d) =>
      if isHandle h then
        if cs = [] then none else some (⟨String.ofList h, String.ofList cs⟩, d)
      else
        match h.drop 1 ++ cs with
        | [] => some (⟨"", "!"⟩, d)
        | suffix => some (⟨"!", String.ofList suffix⟩, d)

/-- The tag at the cursor. A gap must follow it. -/
def scan (inFlow : Bool) (c : Cursor) : Option (Tag × Cursor) :=
  (if c.ahead 1 = '<' then verbatim c else shorthand c).bind fun (t, d) =>
    if isGap d.char || (inFlow && isFlow d.char) then some (t, d) else none

end Tag

/-- What a line with a percent sign says. -/
inductive Directive where
  | version
  | tag (handle leading : String)
  deriving DecidableEq, Repr

namespace Directive

def blanks (c : Cursor) : Cursor := c.skipBlanks (c.span isBlank).length

def number (c : Cursor) : Option Cursor :=
  let ds := c.span Char.isDigit
  if ds = [] ∨ 9 < ds.length then none else some (c.skip ds.length)

def versionValue (c : Cursor) : Option Cursor :=
  (number (blanks c)).bind fun d => if d.char = '.' then number (d.skip 1) else none

def leadingName (c : Cursor) : Option (List Char × Cursor) :=
  if c.char = '!' then (Tag.cutName Tag.isUriChar (c.skip 1)).map fun (cs, d) => ('!' :: cs, d)
  else if Tag.isTagChar c.char then Tag.cutName Tag.isUriChar c
  else none

def tagValue (c : Cursor) : Option (Directive × Cursor) :=
  (Tag.cutHandle (blanks c)).bind fun (h, d) =>
    if !Tag.isHandle h ∧ h ≠ ['!'] then none
    else
      (leadingName (blanks d)).bind fun (cs, d) =>
        if isGap d.char then some (.tag (String.ofList h) (String.ofList cs), d) else none

/-- The line at whose percent sign the cursor is. -/
def scan (c : Cursor) : Option (Directive × Cursor) :=
  let name := (c.skip 1).span isWord
  let d := c.skip (name.length + 1)
  if name = [] ∨ !isGap d.char then none
  else
    let value : Option (Directive × Cursor) :=
      if name = "YAML".toList then (versionValue d).map fun d => (.version, d)
      else if name = "TAG".toList then tagValue d
      else some (.tag "" "", d.skip (d.span (!isBreakOrEnd ·)).length)
    value.bind fun (directive, d) =>
      (d.skipLine true).bind fun d =>
        if isBreakOrEnd d.char then some (directive, d.skipBreak) else none

end Directive

end BuildHarvest.Yaml
