/-
  BuildHarvest.Unicode.Ranges — sets and maps of characters as rows of text.

  A row holds words in hexadecimal: `61-7a` is a range and `aa` one character; `41/1a/1>61`
  sends twenty-six characters in steps of one to those from `61` on; `e6>61.65` sends one to
  several.
-/

import BuildHarvest.Text.Split

namespace BuildHarvest.Unicode

def words (rows : List String) : List (List Char) :=
  rows.flatMap fun row => (splitOn ' ' row.toList).filter (· ≠ [])

/-- Ranges of code points, both ends included. -/
structure Ranges where
  spans : List (Nat × Nat)

namespace Ranges

def span (word : List Char) : Nat × Nat :=
  match splitOn '-' word with
  | [a, b] => (hexValue a, hexValue b)
  | _ => (hexValue word, hexValue word)

def ofRows (rows : List String) : Ranges := ⟨(words rows).map span⟩

def contains (r : Ranges) (c : Char) : Bool :=
  r.spans.any fun s => s.1 ≤ c.toNat && c.toNat ≤ s.2

end Ranges

/-- Characters `first`, `first + step`, … , `count` of them, each sent as far as the first is
sent to `image`. -/
structure Run where
  first : Nat
  count : Nat
  step : Nat
  image : Nat

namespace Run

def imageOf? (r : Run) (n : Nat) : Option Nat :=
  if r.first ≤ n ∧ n < r.first + r.count * r.step ∧ (n - r.first) % r.step = 0 then
    some (r.image + (n - r.first))
  else none

def ofWord (word : List Char) : Run :=
  match splitOn '>' word with
  | [source, image] =>
    match splitOn '/' source with
    | [a, n, s] => ⟨hexValue a, hexValue n, hexValue s, hexValue image⟩
    | _ => ⟨hexValue source, 1, 1, hexValue image⟩
  | _ => ⟨0, 0, 1, 0⟩

def ofRows (rows : List String) : List Run := (words rows).map ofWord

def find? (runs : List Run) (c : Char) : Option Char :=
  (runs.findSome? (·.imageOf? c.toNat)).map Char.ofNat

end Run

/-- A character and the ones it stands for. -/
structure Expansion where
  source : Nat
  image : List Char

def Expansion.ofWord (word : List Char) : Expansion :=
  match splitOn '>' word with
  | [source, image] =>
    ⟨hexValue source, (splitOn '.' image).map fun w => Char.ofNat (hexValue w)⟩
  | _ => ⟨0, []⟩

def Expansion.ofRows (rows : List String) : List Expansion := (words rows).map ofWord

def Expansion.find? (es : List Expansion) (c : Char) : Option (List Char) :=
  (es.find? (·.source == c.toNat)).map (·.image)

end BuildHarvest.Unicode
