/-
  BuildHarvest.Json.Printer — writing JSON texts over several lines.

  Members and elements stand on lines of their own, two blanks deeper than what holds them.
  Only quotes, backslashes and control characters are escaped.
-/

import BuildHarvest.Json.Basic
import BuildHarvest.Text.Split

namespace BuildHarvest.Json

/-- The escape of a control character. -/
def controlEscape (c : Char) : List Char :=
  if c = '\x08' then ['\\', 'b']
  else if c = '\x0C' then ['\\', 'f']
  else if c = '\n' then ['\\', 'n']
  else if c = '\r' then ['\\', 'r']
  else if c = '\t' then ['\\', 't']
  else ['\\', 'u', '0', '0', hexChar (c.toNat / 16), hexChar (c.toNat % 16)]

def escapeChar (c : Char) : List Char :=
  if c = '\x22' ∨ c = '\\' then ['\\', c]
  else if c.toNat < 0x20 then controlEscape c
  else [c]

def quoted (s : String) : List Char := '\x22' :: s.toList.flatMap escapeChar ++ ['\x22']

def newline (depth : Nat) : List Char := '\n' :: List.replicate (2 * depth) ' '

/-- What stands between the brackets of something that is not empty. -/
def lines (depth : Nat) (parts : List (List Char)) : List Char :=
  match parts with
  | [] => []
  | first :: rest =>
    newline (depth + 1) ++ first ++ rest.flatMap (fun p => ',' :: newline (depth + 1) ++ p) ++
      newline depth

def listText (depth : Nat) (parts : List (List Char)) : List Char :=
  '[' :: lines depth parts ++ [']']

def memberText (name : String) (value : List Char) : List Char :=
  quoted name ++ [':', ' '] ++ value

def objectText (depth : Nat) (parts : List (String × List Char)) : List Char :=
  '\x7b' :: lines depth (parts.map fun p => memberText p.1 p.2) ++ ['\x7d']

def natText (n : Nat) : List Char := Nat.toDigits 10 n

end BuildHarvest.Json
