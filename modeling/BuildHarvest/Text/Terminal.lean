/-
  BuildHarvest.Text.Terminal — text that is safe to show on a terminal.

  `tame` names the characters that a terminal would obey. `plain` leaves out what a terminal
  would obey: escape sequences, and controls that are not blanks.
-/

import BuildHarvest.Text.Utf8
import BuildHarvest.Text.Split

namespace BuildHarvest.Terminal

def tameChar (c : Char) : List Char :=
  let n := c.toNat
  if n = 0x1B then ['\\', 'x', '1', 'b']
  else if n = 0x07 then ['\\', 'x', '0', '7']
  else if n = 0x08 then ['\\', 'x', '0', '8']
  else if n = 0x0C then ['\\', 'x', '0', 'c']
  else if n = 0x7F then ['\\', 'x', '7', 'f']
  else if 0x80 ≤ n ∧ n ≤ 0x9F then '\\' :: 'u' :: '\x7b' :: (hexText n).toList ++ ['\x7d']
  else [c]

def tame (s : String) : String := String.ofList (s.toList.flatMap tameChar)

/-- Between sequences, or inside one, by what its first octets were. -/
inductive Mode where
  | ground
  | escape
  /-- After an escape and octets that only add to it. -/
  | extended
  /-- In numbers before the letter that ends the sequence. -/
  | control
  /-- In a text that a bell ends. -/
  | title
  /-- In a text that only an escape ends. -/
  | message
  deriving DecidableEq, Repr

def isBlankControl (b : UInt8) : Bool := b == 9 || b == 10 || b == 12 || b == 13

/-- The second octet of a sequence. -/
def Mode.opened (b : UInt8) : Mode :=
  if b = 0x5B then .control
  else if b = 0x5D then .title
  else if b = 0x50 ∨ b = 0x58 ∨ b = 0x5E ∨ b = 0x5F then .message
  else if b < 0x20 ∨ b = 0x7F then .escape
  else if b < 0x30 then .extended
  else .ground

/-- The mode after an octet, and whether the octet is shown. Octets inside a character of
several are always shown; a blank control breaks off a sequence that it stands in. -/
def Mode.feed (m : Mode) (b : UInt8) : Mode × Bool :=
  if b = 0x1B then (.escape, false)
  else if 0x80 ≤ b ∧ b < 0xC0 then (.ground, true)
  else if b = 0x18 ∨ b = 0x1A then (.ground, false)
  else
    match m with
    | .ground => (.ground, isBlankControl b || (0x20 ≤ b && b != 0x7F))
    | .title => (if b = 0x07 then .ground else .title, false)
    | .message => (.message, false)
    | .escape | .extended | .control =>
      if isBlankControl b then (.ground, true)
      else if 0x80 ≤ b then (m, false)
      else
        match m with
        | .escape => (Mode.opened b, false)
        | .extended => (if 0x30 ≤ b ∧ b < 0x7F then .ground else .extended, false)
        | _ => (if 0x40 ≤ b ∧ b < 0x7F then .ground else .control, false)

def plainFrom : Mode → Bytes → Bytes
  | _, [] => []
  | m, b :: rest =>
    let (next, shown) := m.feed b
    if shown then b :: plainFrom next rest else plainFrom next rest

def plain (s : String) : String := Utf8.lossy (plainFrom .ground (Utf8.encode s))

end BuildHarvest.Terminal
