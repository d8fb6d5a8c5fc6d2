/-
  BuildHarvest.Yaml.Cursor — a place in a text, with its line and column.

  The character zero stands for the end of the text and ends it wherever it is met. A line ends
  at a line feed, a carriage return, or both in that order, and reads as a line feed.
-/

namespace BuildHarvest.Yaml

structure Cursor where
  rest : List Char
  index : Nat
  line : Nat
  col : Nat
  /-- Nothing but blanks stands before it in its line. -/
  fresh : Bool
  deriving DecidableEq, Repr

def isBreak (c : Char) : Bool := c == '\n' || c == '\r'

def isEnd (c : Char) : Bool := c == '\x00'

def isBreakOrEnd (c : Char) : Bool := isBreak c || isEnd c

def isBlank (c : Char) : Bool := c == ' ' || c == '\t'

def isGap (c : Char) : Bool := isBlank c || isBreakOrEnd c

/-- Characters that structure collections in brackets. -/
def isFlow (c : Char) : Bool :=
  c == ',' || c == '[' || c == ']' || c == '\x7b' || c == '\x7d'

def isWord (c : Char) : Bool := c.isAlphanum || c == '_' || c == '-'

namespace Cursor

def ofText (cs : List Char) : Cursor := ⟨cs, 0, 0, 0, true⟩

def char (c : Cursor) : Char := c.rest.headD '\x00'

/-- The character `n` places on. -/
def ahead (c : Cursor) (n : Nat) : Char := c.rest.getD n '\x00'

/-- Past blanks of a line. -/
def skipBlanks (c : Cursor) (n : Nat) : Cursor :=
  { c with rest := c.rest.drop n, index := c.index + n, col := c.col + n }

/-- Past other characters of a line. -/
def skip (c : Cursor) (n : Nat) : Cursor := { c.skipBlanks n with fresh := n = 0 && c.fresh }

/-- Past a line end, where one is. -/
def skipBreak (c : Cursor) : Cursor :=
  let next (n : Nat) : Cursor := ⟨c.rest.drop n, c.index + n, c.line + 1, 0, true⟩
  match c.rest with
  | '\r' :: '\n' :: _ => next 2
  | '\r' :: _ => next 1
  | '\n' :: _ => next 1
  | _ => c

/-- The characters up to one that fails a test. -/
def span (c : Cursor) (p : Char → Bool) : List Char := c.rest.takeWhile p

/-- Past the blanks and comment of a line; whether tabs and whether blanks stood there. A comment
that follows no blank is refused. -/
def toLineEnd (c : Cursor) (tabs : Bool) : Option (Bool × Bool × Cursor) :=
  let gap := c.span fun x => x == ' ' || (tabs && x == '\t')
  let c := c.skipBlanks gap.length
  let found (c : Cursor) := some (gap.contains '\t', gap.contains ' ', c)
  if c.char = '#' then
    if gap.isEmpty then none else found (c.skip (c.span (!isBreakOrEnd ·)).length)
  else found c

/-- Past the blanks and comment of a line. -/
def skipLine (c : Cursor) (tabs : Bool) : Option Cursor := (c.toLineEnd tabs).map (·.2.2)

def startsWith (c : Cursor) (mark : Char) : Bool :=
  c.char == mark && c.ahead 1 == mark && c.ahead 2 == mark && isGap (c.ahead 3)

/-- Three dashes alone. -/
def atDocumentStart (c : Cursor) : Bool := c.startsWith '-'

/-- Three points alone. -/
def atDocumentEnd (c : Cursor) : Bool := c.startsWith '.'

def atDocumentMark (c : Cursor) : Bool := c.atDocumentStart || c.atDocumentEnd

end Cursor

end BuildHarvest.Yaml
