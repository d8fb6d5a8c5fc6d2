/-
  BuildHarvest.Decimal.Shortest — floating-point numbers in decimal.

  A finite number other than zero is `m · 2^q`, and the reals that round to it are an interval
  around it, whose ends belong to it when `m` is even. `shortest` is the decimal with the fewest
  digits in that interval, the nearest to the number where there are two. `positional` writes it
  without an exponent.
-/

import BuildHarvest.Word

namespace BuildHarvest.Decimal

/-- The parts of a finite number: `mantissa · 2^exponent`, exactly. -/
structure Binary where
  mantissa : Nat
  exponent : Int
  /-- The next number below is only half as far away as the one above. -/
  lopsided : Bool
  deriving DecidableEq, Repr

def fractionBits : Nat := Word.values 52

def Binary.ofBits (bits : Nat) : Binary :=
  let fraction := bits % fractionBits
  let power := bits / fractionBits % 2048
  if power = 0 then ⟨fraction, -1074, false⟩
  else ⟨fractionBits + fraction, (power : Int) - 1075, fraction == 0 && 1 < power⟩

/-- `digits · 10^exponent`. -/
structure Numeral where
  digits : Nat
  exponent : Int
  deriving DecidableEq, Repr

/-- A number as a quotient, and the ends of its interval over the same denominator. -/
structure Interval where
  value : Nat
  low : Nat
  high : Nat
  denominator : Nat
  closed : Bool

def Binary.interval (b : Binary) : Interval :=
  let e := b.exponent - 2
  let scale := Nat.pow 2 e.toNat
  let value := 4 * b.mantissa
  ⟨value * scale, (value - if b.lopsided then 1 else 2) * scale, (value + 2) * scale,
    Nat.pow 2 (-e).toNat, b.mantissa % 2 == 0⟩

namespace Interval

def holds (i : Interval) (n : Nat) : Bool :=
  if i.closed then i.low ≤ n && n ≤ i.high else i.low < n && n < i.high

/-- The interval in units of `10^k`. -/
def inUnits (i : Interval) (k : Int) : Interval :=
  let up := Nat.pow 10 (-k).toNat
  ⟨i.value * up, i.low * up, i.high * up, i.denominator * Nat.pow 10 k.toNat, i.closed⟩

/-- The neighbour of the value on the grid of `10^k` that lies in the interval, the nearer of
two, the even one of two equally near. -/
def onGrid? (i : Interval) (k : Int) : Option Nat :=
  let j := i.inUnits k
  let below := j.value / j.denominator
  let rest := j.value % j.denominator
  let hasBelow := j.holds (below * j.denominator)
  let hasAbove := j.holds ((below + 1) * j.denominator)
  if hasBelow && hasAbove then
    if 2 * rest < j.denominator || (2 * rest == j.denominator && below % 2 == 0) then some below
    else some (below + 1)
  else if hasBelow && below != 0 then some below
  else if hasAbove then some (below + 1)
  else none

end Interval

/-- The least `p` from `start` on with `num < den · 10^p`, among `tries` many. -/
def magnitudeFrom (num den : Nat) (start : Int) : Nat → Int
  | 0 => start
  | tries + 1 =>
    if num * Nat.pow 10 (-start).toNat < den * Nat.pow 10 start.toNat then start
    else magnitudeFrom num den (start + 1) tries

/-- The place of the first digit: doubles lie between 10^-324 and 10^309. -/
def Interval.magnitude (i : Interval) : Int := magnitudeFrom i.value i.denominator (-325) 640

/-- Grids of more and more digits; seventeen always suffice. -/
def shortestFrom (i : Interval) (p : Int) (n : Nat) : Nat → Numeral
  | 0 => ⟨i.value / i.denominator, 0⟩
  | tries + 1 =>
    match i.onGrid? (p - n) with
    | some d => ⟨d, p - n⟩
    | none => shortestFrom i p (n + 1) tries

def shortest (b : Binary) : Numeral :=
  let i := b.interval
  shortestFrom i i.magnitude 1 17

/-- The numeral without an exponent. -/
def Numeral.positional (d : Numeral) : String :=
  let digits := (toString d.digits).toList
  if 0 ≤ d.exponent then String.ofList (digits ++ List.replicate d.exponent.toNat '0')
  else
    let places := (-d.exponent).toNat
    let padded := List.replicate (places + 1 - digits.length) '0' ++ digits
    let whole := padded.take (padded.length - places)
    let fraction := padded.drop (padded.length - places)
    let fraction := (fraction.reverse.dropWhile (· == '0')).reverse
    String.ofList (whole ++ if fraction.isEmpty then [] else '.' :: fraction)

/-- A number as settings show it. -/
def text (x : Float) : String :=
  if x.isNaN then "NaN"
  else
    let bits := x.toBits.toNat
    let sign := if Word.values 63 ≤ bits then "-" else ""
    let bits := bits % Word.values 63
    if bits / fractionBits = 2047 then sign ++ "inf"
    else if bits = 0 then sign ++ "0"
    else sign ++ (shortest (Binary.ofBits bits)).positional

/-! ## Reading -/

/-- The number nearest to `digits · 10^exponent`. Outside this reach every number is zero or
infinite. -/
def nearest (digits : Nat) (exponent : Int) : Float :=
  let size := ((toString digits).length : Int) + exponent
  if digits = 0 ∨ size < -330 then 0
  else if 320 < size then 1 / 0
  else Float.ofScientific digits (exponent < 0) exponent.natAbs

end BuildHarvest.Decimal
