/-
  BuildHarvest.Settings.Key — names that lead into a setting.

  A key is a name, and steps into what it holds: `.name` for a table and `[n]` for a list,
  where a negative `n` counts from the end. Text that is no such key is a name by itself. A
  step makes the table or list that it needs, and a list grows to hold the place.
-/

import BuildHarvest.Settings.Setting
import BuildHarvest.Text.Split
import BuildHarvest.Word

namespace BuildHarvest.Settings

inductive Step where
  | name (s : String)
  | index (i : Int)
  deriving DecidableEq, Repr

structure Key where
  root : String
  steps : List Step
  deriving DecidableEq, Repr

namespace Key

def isNameChar (c : Char) : Bool :=
  ('a' ≤ c && c ≤ 'z') || ('A' ≤ c && c ≤ 'Z') || ('0' ≤ c && c ≤ '9') || c == '_' || c == '-'

/-- A name and what stands behind it. -/
def cutName (cs : List Char) : Option (String × List Char) :=
  match cs.takeWhile isNameChar with
  | [] => none
  | name => some (String.ofList name, cs.dropWhile isNameChar)

def isGap (c : Char) : Bool := c == ' ' || c == '\t'

/-- The whole number that an index is, where it fits in sixty-four bits. -/
def index? (cs : List Char) : Option Int :=
  let (negative, ds) :=
    match cs with
    | '-' :: rest => (true, rest)
    | _ => (false, cs)
  if ds = [] then none
  else
    (digitsValue? 10 decimalDigit? ds).bind (Word.signed? negative)

/-- The text between an opening bracket and its closing one. -/
def cutIndex (cs : List Char) : Option (Int × List Char) :=
  match cs.dropWhile (· != ']') with
  | [] => none
  | _ :: rest =>
    let inside := (cs.takeWhile (· != ']')).dropWhile isGap
    (index? (inside.reverse.dropWhile isGap).reverse).map (·, rest)

def steps? : Nat → List Char → Option (List Step)
  | _, [] => some []
  | 0, _ => none
  | fuel + 1, c :: cs =>
    if c = '.' then
      (cutName cs).bind fun (name, rest) => (steps? fuel rest).map (.name name :: ·)
    else if c = '[' then
      (cutIndex cs).bind fun (i, rest) => (steps? fuel rest).map (.index i :: ·)
    else none

def ofText (s : String) : Key :=
  let path := (cutName s.toList).bind fun (name, rest) =>
    (steps? rest.length rest).map fun steps => (⟨name, steps⟩ : Key)
  path.getD ⟨s, []⟩

end Key

/-! ## Changing what a key leads to -/

def modifyFirst (f : Setting → Setting) : List Setting → List Setting
  | [] => [f .nil]
  | s :: rest => f s :: rest

/-- Changes the place `n` of a list, which grows to have it. -/
def modifyAt (f : Setting → Setting) : Nat → List Setting → List Setting
  | 0, items => modifyFirst f items
  | n + 1, [] => .nil :: modifyAt f n []
  | n + 1, s :: rest => s :: modifyAt f n rest

/-- Changes the place of an index; one before the beginning makes the list grow there. -/
def modifyIndex (f : Setting → Setting) (i : Int) (items : List Setting) : List Setting :=
  if 0 ≤ i then modifyAt f i.toNat items
  else if i.natAbs ≤ items.length then modifyAt f (items.length - i.natAbs) items
  else modifyFirst f (List.replicate (i.natAbs - items.length) .nil ++ items)

def modifyUnder (f : Setting → Setting) : List Step → Setting → Setting
  | [], s => f s
  | .name n :: rest, s =>
    let (o, es) : Option Origin × Entries :=
      match s with
      | .table o es => (o, es)
      | _ => (none, [])
    .table o (es.alter n fun old => modifyUnder f rest (old.getD .nil))
  | .index i :: rest, s =>
    let (o, items) : Option Origin × List Setting :=
      match s with
      | .list o items => (o, items)
      | _ => (none, [])
    .list o (modifyIndex (modifyUnder f rest) i items)

/-- Lays a setting over what a key leads to. -/
def Entries.set (es : Entries) (key : Key) (s : Setting) : Entries :=
  es.alter key.root fun old => modifyUnder (assign s) key.steps (old.getD .nil)

/-- Lays the settings of a source over others, each name being read as a key. -/
def Entries.over (source below : Entries) : Entries :=
  source.foldl (fun es e => es.set (Key.ofText e.1) e.2) below

end BuildHarvest.Settings
