/-
  BuildHarvest.Url.Percent — octets written as `%` and two digits.

  Each part of a URL has its own set of characters that are escaped; characters beyond ASCII
  always are, octet by octet. `unescape` reads escapes back and leaves a `%` that begins none.
-/

import BuildHarvest.Text.Split
import BuildHarvest.Text.Utf8

namespace BuildHarvest.Url

abbrev EscapeSet := Char → Bool

def controlSet : EscapeSet := fun c => c.toNat < 0x20 || 0x7F ≤ c.toNat

def fragmentSet : EscapeSet := fun c =>
  controlSet c || c == ' ' || c == '\x22' || c == '<' || c == '>' || c == '\x60'

def querySet : EscapeSet := fun c =>
  controlSet c || c == ' ' || c == '\x22' || c == '#' || c == '<' || c == '>'

/-- The query of a special scheme. -/
def specialQuerySet : EscapeSet := fun c => querySet c || c == '\x27'

def pathSet : EscapeSet := fun c =>
  fragmentSet c || c == '#' || c == '?' || c == '\x7b' || c == '\x7d'

def userinfoSet : EscapeSet := fun c =>
  pathSet c || c == '/' || c == ':' || c == ';' || c == '=' || c == '@' || c == '['
    || c == '\\' || c == ']' || c == '^' || c == '|'

/-- One segment that is added to a path as a whole. -/
def segmentSet : EscapeSet := fun c => pathSet c || c == '/' || c == '%'

def specialSegmentSet : EscapeSet := fun c => segmentSet c || c == '\\'

def escapeDigit (n : Nat) : Char := if n < 10 then Char.ofNat (48 + n) else Char.ofNat (55 + n)

def escapeOctet (b : UInt8) : List Char :=
  ['%', escapeDigit (b.toNat / 16), escapeDigit (b.toNat % 16)]

def escapeChar (set : EscapeSet) (c : Char) : List Char :=
  if set c then (Utf8.encodeChar c).flatMap escapeOctet else [c]

def escape (set : EscapeSet) (cs : List Char) : List Char := cs.flatMap (escapeChar set)

/-- The octet of an escape's two digits. -/
def escaped? (a b : Char) : Option UInt8 :=
  match hexDigit? a, hexDigit? b with
  | some x, some y => some (x * 16 + y).toUInt8
  | _, _ => none

/-- The octets that a text with escapes stands for. -/
def unescape : List Char → Bytes
  | [] => []
  | '%' :: a :: b :: rest =>
    match escaped? a b with
    | some o => o :: unescape rest
    | none => 0x25 :: unescape (a :: b :: rest)
  | c :: rest => Utf8.encodeChar c ++ unescape rest

end BuildHarvest.Url
