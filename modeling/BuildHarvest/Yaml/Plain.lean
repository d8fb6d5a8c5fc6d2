/-
  BuildHarvest.Yaml.Plain — scalars without quotes.

  A plain scalar ends at a colon or comment that is set off by blanks, at a sign of the
  collection in brackets around it, or where a line is indented less than it may be. Lines are
  joined as they are in quotes.
-/

import BuildHarvest.Yaml.Cursor

namespace BuildHarvest.Yaml

namespace Plain

/-- What has been gathered; characters last first. -/
structure Gathered where
  chars : List Char
  /-- Blanks that count only if the line goes on. -/
  blanks : List Char
  /-- A line end has been passed. -/
  broken : Bool
  /-- Empty lines behind it. -/
  breaks : Nat

/-- A character that can go on a scalar. -/
def continues (inFlow : Bool) (c next : Char) : Bool :=
  if c == ':' && (isGap next || (inFlow && isFlow next)) then false
  else !(inFlow && isFlow c)

/-- What stands between the last characters and the next. -/
def Gathered.join (g : Gathered) (fresh : Bool) : List Char :=
  if fresh then
    if g.broken && g.breaks == 0 then [' '] else List.replicate g.breaks '\n'
  else g.blanks

/-- The characters up to a gap or the end of the scalar. -/
def run (inFlow : Bool) : List Char → List Char
  | [] => []
  | c :: rest =>
    if isGap c || !continues inFlow c (rest.headD '\x00') then [] else c :: run inFlow rest

def takeGap (indent : Int) : Nat → Gathered → Cursor → Option (Gathered × Cursor)
  | 0, g, c => some (g, c)
  | fuel + 1, g, c =>
    let x := c.char
    if isBlank x then
      if !c.fresh then takeGap indent fuel { g with blanks := x :: g.blanks } (c.skipBlanks 1)
      else if x = '\t' ∧ (c.col : Int) < indent then
        (c.skipLine true).bind fun d =>
          if isBreakOrEnd d.char then takeGap indent fuel g d else none
      else takeGap indent fuel g (c.skipBlanks 1)
    else if isBreak x then
      if c.fresh then takeGap indent fuel { g with breaks := g.breaks + 1 } c.skipBreak
      else takeGap indent fuel { g with blanks := [], broken := true } c.skipBreak
    else some (g, c)

def scan (inFlow : Bool) (indent : Int) : Nat → Gathered → Cursor → Option (Gathered × Cursor)
  | 0, _, _ => none
  | fuel + 1, g, c =>
    if (c.fresh && c.atDocumentMark) || c.char == '#' then some (g, c)
    else if inFlow && c.char == '-' && isFlow (c.ahead 1) then none
    else
      let cs := run inFlow c.rest
      let (g, c) : Gathered × Cursor :=
        if cs.isEmpty then (g, c)
        else (⟨cs.reverse ++ g.join c.fresh ++ g.chars, [], false, 0⟩, c.skip cs.length)
      if isBlank c.char || isBreak c.char then
        (takeGap indent (fuel + 1) g c).bind fun (g, c) =>
          if !inFlow && (c.col : Int) < indent then some (g, c)
          else scan inFlow indent fuel g c
      else some (g, c)

end Plain

/-- The text of the scalar that begins at the cursor, inside what is indented by `outer`. -/
def plain (inFlow : Bool) (outer : Int) (c : Cursor) : Option (String × Cursor) :=
  let indent := outer + 1
  if inFlow && (c.col : Int) < indent then none
  else
    (Plain.scan inFlow indent (c.rest.length + 1) ⟨[], [], false, 0⟩ c).bind fun (g, d) =>
      if g.chars.isEmpty then none else some (String.ofList g.chars.reverse, d)

end BuildHarvest.Yaml
