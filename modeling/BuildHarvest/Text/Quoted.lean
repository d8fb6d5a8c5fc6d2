/-
  BuildHarvest.Text.Quoted — text in quotes, as messages show it.

  A character that cannot be shown is written by its name or its number; the rest stands as it
  is. Octets that are no text are written one by one.
-/

import BuildHarvest.Text.Split
import BuildHarvest.Text.Utf8
import BuildHarvest.Unicode.Printable

namespace BuildHarvest.Quoted

/-- The letter behind a backslash that names a character. -/
def name? (c : Char) : Option Char :=
  if c = '\x00' then some '0'
  else if c = '\t' then some 't'
  else if c = '\n' then some 'n'
  else if c = '\r' then some 'r'
  else if c = '\x22' ∨ c = '\\' then some c
  else none

def escapeChar (c : Char) : List Char :=
  match name? c with
  | some n => ['\\', n]
  | none =>
    if Unicode.isPlain c then [c]
    else '\\' :: 'u' :: '\x7b' :: (hexText c.toNat).toList ++ ['\x7d']

def enclose (cs : List Char) : String := String.ofList ('\x22' :: cs ++ ['\x22'])

def text (s : String) : String := enclose (s.toList.flatMap escapeChar)

/-- Beside octets, the single quote is escaped too. -/
def escapeCharBesideOctets (c : Char) : List Char := if c = '\x27' then ['\\', c] else escapeChar c

def upperHex (n : Nat) : Char := if n < 10 then Char.ofNat (48 + n) else Char.ofNat (55 + n)

def escapeOctet (b : UInt8) : List Char :=
  ['\\', 'x', upperHex (b.toNat / 16), upperHex (b.toNat % 16)]

/-- Takes the first character of some octets, or the first octet where none begins there. -/
def octetsFrom : Nat → Bytes → List Char
  | 0, _ | _, [] => []
  | fuel + 1, b :: bs =>
    match Utf8.takeFrom .idle (b :: bs) with
    | some (c, rest) => escapeCharBesideOctets c ++ octetsFrom fuel rest
    | none => escapeOctet b ++ octetsFrom fuel bs

def octets (bs : Bytes) : String := enclose (octetsFrom bs.length bs)

end BuildHarvest.Quoted
