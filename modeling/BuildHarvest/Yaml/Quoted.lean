/-
  BuildHarvest.Yaml.Quoted — scalars in quotes.

  A line end inside reads as a blank, and one that further line ends follow as those; blanks
  around it are dropped. Double quotes take escapes, and a backslash at a line's end joins the
  lines.
-/

import BuildHarvest.Text.Split
import BuildHarvest.Yaml.Cursor

namespace BuildHarvest.Yaml

/-- How many digits follow a letter that escapes by number. -/
def escapeDigits? (c : Char) : Option Nat :=
  if c = 'x' then some 2 else if c = 'u' then some 4 else if c = 'U' then some 8 else none

def namedEscape? (c : Char) : Option Char :=
  if c = '0' then some '\x00'
  else if c = 'a' then some '\x07'
  else if c = 'b' then some '\x08'
  else if c = 't' ∨ c = '\t' then some '\t'
  else if c = 'n' then some '\n'
  else if c = 'v' then some '\x0B'
  else if c = 'f' then some '\x0C'
  else if c = 'r' then some '\r'
  else if c = 'e' then some '\x1B'
  else if c = ' ' ∨ c = '\x22' ∨ c = '/' ∨ c = '\\' then some c
  else if c = 'N' then some '\u0085'
  else if c = '_' then some '\u00A0'
  else if c = 'L' then some '\u2028'
  else if c = 'P' then some '\u2029'
  else none

/-- The character behind a backslash, and how many characters its escape has. -/
def escape? (cs : List Char) : Option (Char × Nat) :=
  match cs with
  | [] => none
  | c :: rest =>
    match escapeDigits? c with
    | some digits =>
      let ds := rest.take digits
      if ds.length < digits then none
      else
        (digitsValue? 16 hexDigit? ds).bind fun n =>
          if n.isValidChar then some (Char.ofNat n, digits + 2) else none
    | none => (namedEscape? c).map (·, 2)

/-- What a scalar in quotes has gathered; characters last first. -/
structure Quotation where
  chars : List Char
  /-- Blanks that count only if the line goes on. -/
  blanks : List Char
  /-- Line ends behind the first one. -/
  breaks : List Char
  /-- A line end has been passed. -/
  folding : Bool
  /-- That line end was there to be read. -/
  broken : Bool

namespace Quotation

def empty : Quotation := ⟨[], [], [], false, false⟩

/-- What the blanks and line ends passed amount to. -/
def settle (q : Quotation) : Quotation :=
  let chars :=
    if q.folding then
      if q.broken && q.breaks.isEmpty then ' ' :: q.chars else q.breaks ++ q.chars
    else q.blanks ++ q.chars
  ⟨chars, [], [], false, false⟩

/-- Characters up to a gap, to the closing quote or to an escaped line end. -/
def takeSolid (single : Bool) : Nat → Quotation → Cursor → Option (Quotation × Cursor)
  | 0, q, c => some (q, c)
  | fuel + 1, q, c =>
    let x := c.char
    if isGap x then some (q, c)
    else if single then
      if x = '\x27' then
        if c.ahead 1 = '\x27' then
          takeSolid single fuel { q with chars := x :: q.chars } (c.skip 2)
        else some (q, c)
      else takeSolid single fuel { q with chars := x :: q.chars } (c.skip 1)
    else if x = '\x22' then some (q, c)
    else if x = '\\' then
      if isBreak (c.ahead 1) then some ({ q with folding := true }, (c.skip 1).skipBreak)
      else
        (escape? (c.rest.drop 1)).bind fun (e, n) =>
          takeSolid single fuel { q with chars := e :: q.chars } (c.skip n)
    else takeSolid single fuel { q with chars := x :: q.chars } (c.skip 1)

/-- Blanks and line ends. -/
def takeGap (indent : Int) : Nat → Quotation → Cursor → Option (Quotation × Cursor)
  | 0, q, c => some (q, c)
  | fuel + 1, q, c =>
    let x := c.char
    if isBlank x then
      if q.folding then
        if x = '\t' ∧ (c.col : Int) < indent then none
        else takeGap indent fuel q (c.skipBlanks 1)
      else takeGap indent fuel { q with blanks := x :: q.blanks } (c.skipBlanks 1)
    else if isBreak x then
      if q.folding then takeGap indent fuel { q with breaks := '\n' :: q.breaks } c.skipBreak
      else takeGap indent fuel { q with blanks := [], folding := true, broken := true } c.skipBreak
    else some (q, c)

def scan (single : Bool) (indent : Int) : Nat → Quotation → Cursor → Option (List Char × Cursor)
  | 0, _, _ => none
  | fuel + 1, q, c =>
    if c.col = 0 ∧ c.atDocumentMark then none
    else if isEnd c.char then none
    else if (c.col : Int) < indent then none
    else
      (takeSolid single fuel q c).bind fun (q, c) =>
        if c.char = (if single then '\x27' else '\x22') then some (q.chars.reverse, c.skip 1)
        else (takeGap indent (fuel + 1) q c).bind fun (q, c) => scan single indent fuel q.settle c

end Quotation

/-- What may stand behind a scalar in quotes that began on a line. -/
def mayFollowQuotes (inFlow : Bool) (line : Nat) (c : Cursor) : Bool :=
  let x := c.char
  isBreakOrEnd x || (inFlow && (x == ',' || x == ']' || x == '\x7d'))
    || (x == ':' && (inFlow || line == c.line))

/-- The text of a scalar whose opening quote is at the cursor. -/
def quoted (single inFlow : Bool) (indent : Int) (c : Cursor) : Option (String × Cursor) :=
  (Quotation.scan single indent (c.rest.length + 2) .empty (c.skip 1)).bind fun (cs, d) =>
    (d.skipLine true).bind fun d =>
      if mayFollowQuotes inFlow c.line d then some (String.ofList cs, d) else none

end BuildHarvest.Yaml
