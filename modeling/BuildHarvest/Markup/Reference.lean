/-
  BuildHarvest.Markup.Reference — what stands between `&` and `;`.

  A reference names a character by its number, one of five characters by name, or an entity
  that the document type defines.
-/

import BuildHarvest.Markup.Basic
import BuildHarvest.Text.Split
import BuildHarvest.Word

namespace BuildHarvest.Markup

/-- The digits of a number behind an optional plus sign. -/
def unsigned? (base : Nat) (digit? : Char → Option Nat) (cs : List Char) : Option Nat :=
  let cs := if cs.head? = some '+' then cs.tail else cs
  if cs = [] then none
  else (digitsValue? base digit? cs).bind fun n => if n < Word.values 32 then some n else none

/-- The character of a number, decimal or, behind an `x`, hexadecimal. -/
def numbered? (ed : Edition) (cs : List Char) : Option Char :=
  let n :=
    match cs with
    | 'x' :: digits => unsigned? 16 hexDigit? digits
    | _ => unsigned? 10 decimalDigit? cs
  n.bind fun n =>
    if h : n.isValidChar then
      let c := Char.ofNatAux n h
      if ed.admits c then some c else none
    else none

inductive Referent where
  | char (c : Char)
  | entity (value : List Char)
  deriving DecidableEq, Repr

/-- A character that can be the next one of a reference. -/
def continuesReference (soFar : List Char) (c : Char) : Bool :=
  if soFar.isEmpty then isNameStart c || c == '#' else isNameChar c

def referent? (ed : Edition) (es : Entities) (cs : List Char) : Option Referent :=
  match cs with
  | [] => none
  | '#' :: number => (numbered? ed number).map .char
  | _ =>
    let name := String.ofList cs
    match namedChar? name with
    | some c => some (.char c)
    | none => (es.lookup name).map .entity

def Referent.text : Referent → List Char
  | char c => [c]
  | entity value => value

end BuildHarvest.Markup
