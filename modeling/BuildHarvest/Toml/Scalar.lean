/-
  BuildHarvest.Toml.Scalar — numbers, truth values and times of TOML documents.

  A word without quotes is one of these or nothing. Whole numbers fit in sixty-four bits, other
  numbers are finite unless they are named, and a time is kept as the text that stands for it.
-/

import BuildHarvest.Settings.Value
import BuildHarvest.Toml.Text
import BuildHarvest.Word

namespace BuildHarvest.Toml

open Settings (Value)

/-! ## Numbers -/

/-- Digits with single underscores between them, without those. -/
def digits? (isDigit : Char → Bool) (cs : List Char) : Option (List Char) :=
  let groups := splitOn '_' cs
  if groups.all fun g => !g.isEmpty && g.all isDigit then some groups.flatten else none

def cutSign (cs : List Char) : Bool × List Char :=
  match cs with
  | '-' :: rest => (true, rest)
  | '+' :: rest => (false, rest)
  | _ => (false, cs)

/-- Digits that begin with no zero but a lone one. -/
def decimalDigits? (cs : List Char) : Option (List Char) :=
  (digits? Char.isDigit cs).bind fun ds =>
    match ds with
    | '0' :: _ :: _ => none
    | _ => some ds

def based? (base : Nat) (isDigit : Char → Bool) (cs : List Char) : Option Int :=
  (digits? isDigit cs).bind fun ds => (digitsValue? base hexDigit? ds).bind (Word.signed? false)

def int? (cs : List Char) : Option Int :=
  match cs with
  | '0' :: 'x' :: rest => based? 16 (fun c => (hexDigit? c).isSome) rest
  | '0' :: 'o' :: rest => based? 8 (fun c => '0' ≤ c && c ≤ '7') rest
  | '0' :: 'b' :: rest => based? 2 (fun c => c == '0' || c == '1') rest
  | _ =>
    let (negative, ds) := cutSign cs
    (decimalDigits? ds).bind fun ds => (digitsValue? 10 decimalDigit? ds).bind (Word.signed? negative)

/-- The text before the first of some marks, and the text behind it. -/
def cutAt (isMark : Char → Bool) (cs : List Char) : List Char × Option (List Char) :=
  match cs.dropWhile (!isMark ·) with
  | [] => (cs, none)
  | _ :: rest => (cs.takeWhile (!isMark ·), some rest)

def exponent? (cs : List Char) : Option Int :=
  let (negative, ds) := cutSign cs
  (digits? Char.isDigit ds).bind fun ds =>
    (digitsValue? 10 decimalDigit? ds).map fun n => if negative then -(n : Int) else n

def unsignedFloat? (cs : List Char) : Option Float :=
  let (mantissa, exponent) := cutAt (fun c => c == 'e' || c == 'E') cs
  let (whole, fraction) := cutAt (· == '.') mantissa
  if exponent.isNone ∧ fraction.isNone then none
  else do
    let e ← (exponent.map exponent?).getD (some 0)
    let whole ← decimalDigits? whole
    let fraction ← (fraction.map (digits? Char.isDigit)).getD (some [])
    let n ← digitsValue? 10 decimalDigit? (whole ++ fraction)
    let x := Decimal.nearest n (e - fraction.length)
    if x.isInf then none else some x

def float? (cs : List Char) : Option Float :=
  let (negative, body) := cutSign cs
  let size : Option Float :=
    if body = "inf".toList then some (1 / 0)
    else if body = "nan".toList then some (0 / 0)
    else unsignedFloat? body
  size.map fun x => if negative then -x else x

/-! ## Times -/

/-- A number of just so many digits. -/
def fixed? (count : Nat) (cs : List Char) : Option (Nat × List Char) :=
  let ds := cs.take count
  if ds.length < count then none
  else (digitsValue? 10 decimalDigit? ds).map (·, cs.drop count)

def padded (width n : Nat) : List Char :=
  let ds := Nat.toDigits 10 n
  List.replicate (width - ds.length) '0' ++ ds

def isLeap (year : Nat) : Bool := year % 4 == 0 && (year % 100 != 0 || year % 400 == 0)

def daysOf (year month : Nat) : Nat :=
  if month = 2 then if isLeap year then 29 else 28
  else if month = 4 ∨ month = 6 ∨ month = 9 ∨ month = 11 then 30
  else 31

def mark? (c : Char) : List Char → Option (List Char)
  | d :: rest => if d = c then some rest else none
  | [] => none

def date : Reader (List Char) := fun cs => do
  let (year, cs) ← fixed? 4 cs
  let (month, cs) ← fixed? 2 (← mark? '-' cs)
  let (day, cs) ← fixed? 2 (← mark? '-' cs)
  if 1 ≤ month ∧ month ≤ 12 ∧ 1 ≤ day ∧ day ≤ daysOf year month then
    return (padded 4 year ++ '-' :: padded 2 month ++ '-' :: padded 2 day, cs)
  else none

/-- Parts of a second: nine digits count, and zeros at their end are not shown but for a lone
one. -/
def fractionOfSecond : Reader (List Char) := fun cs =>
  match cs with
  | '.' :: rest =>
    let ds := rest.takeWhile Char.isDigit
    if ds.isEmpty then none
    else
      let shown := ((ds.take 9).reverse.dropWhile (· == '0')).reverse
      some ('.' :: (if shown.isEmpty then ['0'] else shown), rest.drop ds.length)
  | _ => some ([], cs)

/-- The second may be left out. -/
def time : Reader (List Char) := fun cs => do
  let (hour, cs) ← fixed? 2 cs
  let (minute, cs) ← fixed? 2 (← mark? ':' cs)
  if 23 < hour ∨ 59 < minute then none
  else
    let start := padded 2 hour ++ ':' :: padded 2 minute
    match cs with
    | ':' :: rest =>
      let (second, rest) ← fixed? 2 rest
      if 60 < second then none
      else
        let (fraction, rest) ← fractionOfSecond rest
        return (start ++ ':' :: padded 2 second ++ fraction, rest)
    | _ => return (start, cs)

/-- How far a time is from the one all places share; none where the time is a local one. -/
def offset? (cs : List Char) : Option (List Char) :=
  match cs with
  | [] => some []
  | ['Z'] | ['z'] => some ['Z']
  | sign :: rest => do
    if sign ≠ '+' ∧ sign ≠ '-' then none
    else
      let (hours, rest) ← fixed? 2 rest
      let (minutes, rest) ← fixed? 2 (← mark? ':' rest)
      if 23 < hours ∨ 59 < minutes ∨ rest ≠ [] then none
      else
        let shown := if hours = 0 ∧ minutes = 0 then '+' else sign
        return shown :: padded 2 hours ++ ':' :: padded 2 minutes

def isDateEnd (c : Char) : Bool := c == 'T' || c == 't' || c == ' '

/-- The text of a date, a time, or both. -/
def moment? (cs : List Char) : Option (List Char) :=
  match date cs with
  | some (d, []) => some d
  | some (d, c :: rest) =>
    if isDateEnd c then do
      let (t, rest) ← time rest
      return d ++ 'T' :: t ++ (← offset? rest)
    else none
  | none =>
    match time cs with
    | some (t, []) => some t
    | _ => none

/-! ## Words -/

def ofWord? (cs : List Char) : Option Value :=
  if cs = "true".toList then some (.bool true)
  else if cs = "false".toList then some (.bool false)
  else
    match int? cs, float? cs, moment? cs with
    | some n, _, _ => some (.int n)
    | none, some x, _ => some (.float x)
    | none, none, some t => some (.text (String.ofList t))
    | none, none, none => none

def isWordChar (c : Char) : Bool :=
  isBareChar c || c == '+' || c == '.' || c == ':'

/-- A blank stands inside a word between a date and a time. -/
def word : Reader (List Char) := fun cs =>
  let w := cs.takeWhile isWordChar
  let rest := cs.drop w.length
  match date w, rest with
  | some (_, []), ' ' :: d :: more =>
    if d.isDigit then
      let t := (d :: more).takeWhile isWordChar
      some (w ++ ' ' :: t, (d :: more).drop t.length)
    else some (w, rest)
  | _, _ => some (w, rest)

def scalar : Reader Value := fun cs =>
  (word cs).bind fun (w, rest) => (ofWord? w).map (·, rest)

end BuildHarvest.Toml
