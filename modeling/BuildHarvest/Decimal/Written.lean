/-
  BuildHarvest.Decimal.Written — numbers as plain text writes them.

  A whole number is a sign, which may be missing, and digits, and it fits in sixty-four bits.
  Any other number has a point or an exponent, or is one of the named ones, in any case.
-/

import BuildHarvest.Decimal.Shortest
import BuildHarvest.Text.Split
import BuildHarvest.Word

namespace BuildHarvest.Decimal

def cutSign (cs : List Char) : Bool × List Char :=
  match cs with
  | '-' :: rest => (true, rest)
  | '+' :: rest => (false, rest)
  | _ => (false, cs)

/-- The digit of a base. -/
def digitBelow? (base : Nat) (c : Char) : Option Nat := (hexDigit? c).filter (· < base)

def intIn? (base : Nat) (cs : List Char) : Option Int :=
  let (negative, ds) := cutSign cs
  if ds = [] then none else (digitsValue? base (digitBelow? base) ds).bind (Word.signed? negative)

def int? (cs : List Char) : Option Int := intIn? 10 cs

def exponent? (cs : List Char) : Option Int :=
  let (negative, ds) := cutSign cs
  if ds = [] then none
  else (digitsValue? 10 decimalDigit? ds).map fun n => if negative then -(n : Int) else n

/-- Digits with at most one point among them, and perhaps an exponent. -/
def unsignedFloat? (cs : List Char) : Option Float :=
  let isMark (c : Char) : Bool := c == 'e' || c == 'E'
  let mantissa := cs.takeWhile (!isMark ·)
  let exponent : Option Int :=
    match cs.dropWhile (!isMark ·) with
    | [] => some 0
    | _ :: rest => exponent? rest
  let whole := mantissa.takeWhile (· != '.')
  let fraction := (mantissa.dropWhile (· != '.')).drop 1
  if whole = [] ∧ fraction = [] then none
  else
    exponent.bind fun e =>
      (digitsValue? 10 decimalDigit? (whole ++ fraction)).map fun n =>
        nearest n (e - fraction.length)

def float? (cs : List Char) : Option Float :=
  let (negative, body) := cutSign cs
  let name := String.ofList (body.map Char.toLower)
  let size : Option Float :=
    if name = "inf" ∨ name = "infinity" then some (1 / 0)
    else if name = "nan" then some (0 / 0)
    else unsignedFloat? body
  size.map fun x => if negative then -x else x

end BuildHarvest.Decimal
