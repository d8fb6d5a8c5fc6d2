/-
  BuildHarvest.Markup.Encoding — from octets to the characters of a document.

  A byte-order mark settles the encoding; without one it is UTF-8 until the declaration names
  another encoding of single octets. `Encoding.next` reads one character, and there is none
  where the octets are not well formed.
-/

import BuildHarvest.Text.Utf8

namespace BuildHarvest.Markup

inductive Encoding where
  /-- UTF-8, because nothing said otherwise. -/
  | assumed
  | utf8
  | latin1
  | ascii
  | utf16Big
  | utf16Little
  deriving DecidableEq, Repr

/-- What a declaration can name. -/
inductive EncodingName where
  | utf8
  | latin1
  | utf16
  | ascii
  deriving DecidableEq, Repr

namespace Encoding

/-- The encoding that a byte-order mark tells, and what stands behind the mark. -/
def sniff (bs : Bytes) : Encoding × Bytes :=
  match bs with
  | 0xEF :: 0xBB :: 0xBF :: rest => (utf8, rest)
  | 0xFE :: 0xFF :: rest => (utf16Big, rest)
  | 0xFF :: 0xFE :: rest => (utf16Little, rest)
  | _ => (assumed, bs)

/-- Names agree as far as the shorter of the two goes, whatever the case. -/
def agrees (known : String) (name : List Char) : Bool :=
  (known.toList.zip name).all fun p => p.1 == p.2.toLower

def named? (name : List Char) : Option EncodingName :=
  if agrees "utf-8" name || agrees "utf8" name then some .utf8
  else if agrees "iso-8859-1" name || agrees "latin1" name then some .latin1
  else if agrees "utf-16" name || agrees "utf16" name then some .utf16
  else if agrees "ascii" name || agrees "us-ascii" name then some .ascii
  else none

/-- The encoding after a declaration; none where it contradicts what is known. -/
def declared? : Encoding → EncodingName → Option Encoding
  | assumed, .utf8 | utf8, .utf8 => some utf8
  | assumed, .latin1 => some latin1
  | assumed, .ascii => some ascii
  | utf16Big, .utf16 => some utf16Big
  | utf16Little, .utf16 => some utf16Little
  | _, _ => none

/-- The character of one or two units of sixteen bits. -/
def ofUnits (next : Bytes → Option (Nat × Bytes)) (bs : Bytes) : Option (Char × Bytes) :=
  (next bs).bind fun (a, rest) =>
    if a < 0xD800 ∨ 0xE000 ≤ a then some (Char.ofNat a, rest)
    else if 0xDC00 ≤ a then none
    else
      (next rest).bind fun (b, rest) =>
        if 0xDC00 ≤ b ∧ b < 0xE000 then
          some (Char.ofNat (0x10000 + (a - 0xD800) * 1024 + (b - 0xDC00)), rest)
        else none

def unitBig : Bytes → Option (Nat × Bytes)
  | a :: b :: rest => some (a.toNat * 256 + b.toNat, rest)
  | _ => none

def unitLittle : Bytes → Option (Nat × Bytes)
  | a :: b :: rest => some (b.toNat * 256 + a.toNat, rest)
  | _ => none

/-- The first character and what stands behind it. -/
def next (e : Encoding) (bs : Bytes) : Option (Char × Bytes) :=
  match e with
  | assumed | utf8 => Utf8.takeFrom .idle bs
  | latin1 =>
    match bs with
    | b :: rest => some (Char.ofNat b.toNat, rest)
    | [] => none
  | ascii =>
    match bs with
    | b :: rest => if b < 0x80 then some (Char.ofNat b.toNat, rest) else none
    | [] => none
  | utf16Big => ofUnits unitBig bs
  | utf16Little => ofUnits unitLittle bs

end Encoding

end BuildHarvest.Markup
