/-
  BuildHarvest.Markup.Basic — what a document says, piece by piece.

  A document is read as events: an element begins or ends, text stands between, and so do
  character data sections, comments and instructions. A stream of events ends well or in a
  fault.
-/

namespace BuildHarvest.Markup

/-- A name with the short form of its namespace. -/
structure Name where
  space : Option String
  label : String
  deriving DecidableEq, Repr

inductive Event where
  | opening (name : Name) (attributes : List (Name × String))
  | closing (name : Name)
  | text (s : String)
  | data (s : String)
  | comment (s : String)
  | instruction (name : String) (s : String)
  deriving DecidableEq, Repr

/-- Why a text is no document. -/
inductive Fault where
  | encoding
  | character
  | token
  | tag
  | nesting
  | reference
  | expansion
  | declaration
  | instruction
  | ending
  deriving DecidableEq, Repr

def Fault.reason : Fault → String
  | encoding => "malformed or contradictory encoding"
  | character => "character that a document cannot hold"
  | token => "unexpected markup"
  | tag => "malformed tag"
  | nesting => "elements that do not nest"
  | reference => "reference to nothing"
  | expansion => "entity that grows too large"
  | declaration => "malformed declaration"
  | instruction => "malformed instruction"
  | ending => "document that ends too early"

/-- Everything read, in order, and the fault that stopped the reading. -/
structure Stream where
  events : List Event
  fault : Option Fault
  deriving DecidableEq, Repr

/-- The same one after the other: the events, and behind them the fault. -/
def Stream.items (s : Stream) : List (Except Fault Event) :=
  s.events.map .ok ++ (s.fault.map .error).toList

/-! ## Characters -/

def isBlank (c : Char) : Bool := c == ' ' || c == '\t' || c == '\n' || c == '\r'

/-- The two editions of the format differ in the controls they admit. -/
inductive Edition where
  | first
  | second
  deriving DecidableEq, Repr

def inRanges (spans : List (Nat × Nat)) (c : Char) : Bool :=
  spans.any fun s => s.1 ≤ c.toNat && c.toNat ≤ s.2

/-- Characters that a reference by number can stand for. -/
def Edition.admits : Edition → Char → Bool
  | first, c =>
    c == '\t' || c == '\n' || c == '\r' ||
      inRanges [(0x20, 0xD7FF), (0xE000, 0xFFFD), (0x10000, 0x10FFFF)] c
  | second, c => inRanges [(0x1, 0xD7FF), (0xE000, 0xFFFD), (0x10000, 0x10FFFF)] c

/-- Characters that can stand in a document themselves. -/
def Edition.admitsPlain : Edition → Char → Bool
  | first, c => first.admits c
  | second, c =>
    second.admits c &&
      !inRanges [(0x1, 0x8), (0xB, 0xC), (0xE, 0x1F), (0x7F, 0x84), (0x86, 0x9F)] c

def isNameStart (c : Char) : Bool :=
  inRanges [(0x3A, 0x3A), (0x41, 0x5A), (0x5F, 0x5F), (0x61, 0x7A), (0xC0, 0xD6), (0xD8, 0xF6),
    (0xF8, 0x2FF), (0x370, 0x37D), (0x37F, 0x1FFF), (0x200C, 0x200D), (0x2070, 0x218F),
    (0x2C00, 0x2FEF), (0x3001, 0xD7FF), (0xF900, 0xFDCF), (0xFDF0, 0xFFFD), (0x10000, 0xEFFFF)] c

def isNameChar (c : Char) : Bool :=
  isNameStart c ||
    inRanges [(0x2D, 0x2E), (0x30, 0x39), (0xB7, 0xB7), (0x300, 0x36F), (0x203F, 0x2040)] c

/-! ## References -/

/-- Entities by name; a parameter entity's name begins with `%`. -/
abbrev Entities := List (String × List Char)

/-- The first definition of a name counts. -/
def Entities.define (es : Entities) (name : String) (value : List Char) : Entities :=
  if (es.lookup name).isSome then es else es ++ [(name, value)]

def namedChar? (name : String) : Option Char :=
  if name = "lt" then some '<'
  else if name = "gt" then some '>'
  else if name = "amp" then some '&'
  else if name = "apos" then some '\x27'
  else if name = "quot" then some '\x22'
  else none

end BuildHarvest.Markup
