/-
  BuildHarvest.Ini — settings as lines of names and values under headings.

  A name ends at `=` or `:` and its value at the end of the line; a value may have stretches in
  quotes, and a backslash escapes. What stands under a heading is a table of that name, and of
  two headings of one name the later one counts. A comment begins its line.
-/

import BuildHarvest.Settings.Value
import BuildHarvest.Text.Blank
import BuildHarvest.Text.Split

namespace BuildHarvest.Ini

open Settings (Value)

/-- A place in a text: what is left, and whether a line begins there. -/
structure Cursor where
  rest : List Char
  atStart : Bool

/-- Past some characters. -/
def Cursor.past (c : Cursor) (n : Nat) : Cursor :=
  match (c.rest.take n).getLast? with
  | none => c
  | some last => ⟨c.rest.drop n, last == '\n'⟩

def Cursor.skipWhile (c : Cursor) (p : Char → Bool) : Cursor := c.past (c.rest.takeWhile p).length

/-! ## Escapes -/

def namedEscape (c : Char) : List Char :=
  if c = '0' then ['\x00']
  else if c = 'a' then ['\x07']
  else if c = 'b' then ['\x08']
  else if c = 't' then ['\t']
  else if c = 'r' then ['\r']
  else if c = 'n' then ['\n']
  else if c = '\n' then []
  else [c]

/-- What a backslash and the characters behind it stand for, and how many those are. -/
def escape? (cs : List Char) : Option (List Char × Nat) :=
  match cs with
  | [] => none
  | 'x' :: rest =>
    let ds := rest.take 4
    if ds.length < 4 then none
    else
      (digitsValue? 16 hexDigit? ds).bind fun n =>
        if n.isValidChar then some ([Char.ofNat n], 6) else none
  | c :: _ => some (namedEscape c, 2)

/-- Characters up to one that passes a test. The text may end before one comes, or may not. -/
def until? (stop : Char → Bool) (mayEnd : Bool) : Nat → Cursor → Option (List Char × Cursor)
  | 0, _ => none
  | fuel + 1, c =>
    match c.rest with
    | [] => if mayEnd then some ([], c) else none
    | x :: rest =>
      if stop x then some ([], c)
      else if x = '\\' then
        (escape? rest).bind fun (cs, n) =>
          (until? stop mayEnd fuel (c.past n)).map fun (ds, c) => (cs ++ ds, c)
      else (until? stop mayEnd fuel (c.past 1)).map fun (ds, c) => (x :: ds, c)

def take? (stop : Char → Bool) (mayEnd : Bool) (c : Cursor) : Option (List Char × Cursor) :=
  until? stop mayEnd (c.rest.length + 1) c

/-! ## Values -/

def isLineEnd (c : Char) : Bool := c == '\n' || c == '\r'

/-- The stretches of a value: those in quotes as they are, and the last one trimmed. -/
def stretches : Nat → Bool → Cursor → Option (List Char × Cursor)
  | 0, _, _ => none
  | fuel + 1, isFirst, c =>
    match c.rest with
    | [] => some ([], c)
    | q :: _ =>
      if q = '\x22' ∨ q = '\x27' then do
        let (cs, c) ← take? (· == q) false (c.past 1)
        let (more, c) ← stretches fuel false (c.past 1)
        return (cs ++ more, c)
      else do
        let (cs, c) ← take? isLineEnd true c
        return (if isFirst then trim cs else trimEnd cs, c)

def value (c : Cursor) : Option (String × Cursor) :=
  let c := c.skipWhile fun x => x == '\t' || (isWhite x && !isLineEnd x)
  (stretches (c.rest.length + 1) true c).map fun (cs, c) => (String.ofList cs, c)

/-! ## Lines -/

abbrev Properties := List (String × Value)

structure Section where
  heading : String
  properties : Properties

/-- What has been read: the lines before any heading, the sections, the last one first, and a
name whose value is to come. -/
structure State where
  top : Properties
  sections : List Section
  name : List Char

def State.put (s : State) (v : String) : State :=
  let p := (String.ofList s.name, Value.text v)
  match s.sections with
  | [] => { s with top := s.top ++ [p], name := [] }
  | h :: rest =>
    { s with sections := { h with properties := h.properties ++ [p] } :: rest, name := [] }

def State.enter (s : State) (heading : String) : State :=
  { s with sections := ⟨heading, []⟩ :: s.sections }

def isNameEnd (c : Char) : Bool := c == '=' || c == ':'

/-- A comment, a heading, a value or a name. -/
def step (s : State) (c : Cursor) (x : Char) : Option (State × Cursor) :=
  if x = ';' ∨ x = '#' then
    if c.atStart then some (s, (c.skipWhile (· != '\n')).past 1) else none
  else if x = '[' then
    (take? (· == ']') false (c.past 1)).map fun (cs, c) =>
      (s.enter (String.ofList (trim cs)), c.past 1)
  else if isNameEnd x then
    if s.name = [] then none else (value (c.past 1)).map fun (v, c) => (s.put v, c)
  else (take? isNameEnd false c).map fun (cs, c) => ({ s with name := trim cs }, c)

def run : Nat → State → Cursor → Option State
  | 0, _, _ => none
  | fuel + 1, s, c =>
    let c := c.skipWhile isWhite
    match c.rest with
    | [] => some s
    | x :: _ => (step s c x).bind fun (s, c) => run fuel s c

/-- The table that a text is, headings behind the lines that have none. -/
def read? (cs : List Char) : Option (List (String × Value)) :=
  (run (cs.length + 1) ⟨[], [], []⟩ ⟨cs, true⟩).map fun s =>
    s.top ++ s.sections.reverse.map fun h => (h.heading, .table h.properties)

end BuildHarvest.Ini
