/-
  BuildHarvest.Json.Reader — reading JSON texts.

  Each reader takes characters and gives what it read with what stands behind. Values nest at
  most 127 deep; a number too large to be one, a lone surrogate and a raw control character are
  refused, and so is anything behind the value.
-/

import BuildHarvest.Decimal.Shortest
import BuildHarvest.Json.Basic
import BuildHarvest.Text.Split
import BuildHarvest.Word

namespace BuildHarvest.Json

abbrev Reader (α : Type) := List Char → Option (α × List Char)

def isBlank (c : Char) : Bool := c == ' ' || c == '\t' || c == '\n' || c == '\r'

def skipBlanks (cs : List Char) : List Char := cs.dropWhile isBlank

/-! ## Texts -/

def hexUnit : Reader Nat
  | a :: b :: c :: d :: rest => (digitsValue? 16 hexDigit? [a, b, c, d]).map (·, rest)
  | _ => none

/-- The character behind `\u`, which may take a second escape. -/
def escapedUnit (cs : List Char) : Option (Char × List Char) :=
  (hexUnit cs).bind fun (a, rest) =>
    if a < 0xD800 ∨ 0xE000 ≤ a then some (Char.ofNat a, rest)
    else if 0xDC00 ≤ a then none
    else
      match rest with
      | '\\' :: 'u' :: rest =>
        (hexUnit rest).bind fun (b, rest) =>
          if 0xDC00 ≤ b ∧ b < 0xE000 then
            some (Char.ofNat (0x10000 + (a - 0xD800) * 1024 + (b - 0xDC00)), rest)
          else none
      | _ => none

/-- The character that a letter behind a backslash stands for. -/
def escapedChar? (c : Char) : Option Char :=
  if c = '\x22' ∨ c = '\\' ∨ c = '/' then some c
  else if c = 'b' then some '\x08'
  else if c = 'f' then some '\x0C'
  else if c = 'n' then some '\n'
  else if c = 'r' then some '\r'
  else if c = 't' then some '\t'
  else none

/-- The characters up to the closing quote; those read are kept last first. -/
def stringFrom : Nat → List Char → List Char → Option (String × List Char)
  | 0, _, _ => none
  | fuel + 1, soFar, cs =>
    match cs with
    | [] => none
    | '\x22' :: rest => some (String.ofList soFar.reverse, rest)
    | '\\' :: 'u' :: rest =>
      (escapedUnit rest).bind fun (c, rest) => stringFrom fuel (c :: soFar) rest
    | '\\' :: c :: rest => (escapedChar? c).bind fun c => stringFrom fuel (c :: soFar) rest
    | c :: rest => if c.toNat < 0x20 then none else stringFrom fuel (c :: soFar) rest

/-- The text behind an opening quote. -/
def string (cs : List Char) : Option (String × List Char) := stringFrom (cs.length + 1) [] cs

/-! ## Numbers -/

/-- The first digits that make a number of sixty-four bits, and the rest. -/
def leadingDigits (n : Nat) : List Char → Nat × List Char
  | [] => (n, [])
  | c :: rest =>
    match decimalDigit? c with
    | none => (n, c :: rest)
    | some d => if Word.values 64 ≤ n * 10 + d then (n, c :: rest) else leadingDigits (n * 10 + d) rest

/-- Scales by powers of ten, by 10^308 at a time downwards; none where that is infinite. -/
def scaled? : Nat → Float → Int → Option Float
  | 0, _, _ => none
  | fuel + 1, x, exponent =>
    if exponent.natAbs ≤ 308 then
      let power := Float.ofScientific 1 false exponent.natAbs
      if 0 ≤ exponent then
        let y := x * power
        if y.isInf then none else some y
      else some (x / power)
    else if x == 0 then some x
    else if 0 ≤ exponent then none
    else scaled? fuel (x / 1e308) (exponent + 308)

/-- A number in parts: its sign, its leading digits, and the power of ten they stand at. -/
structure Numeral where
  negative : Bool
  digits : Nat
  exponent : Int
  /-- Neither point nor exponent was written, and no digit was left out. -/
  whole : Bool

/-- The exponent behind `e`; one out of reach makes zero or nothing of the number. -/
def exponentPart (n : Numeral) (cs : List Char) : Option (Numeral × List Char) :=
  let (down, cs) :=
    match cs with
    | '+' :: rest => (false, rest)
    | '-' :: rest => (true, rest)
    | _ => (false, cs)
  let ds := cs.takeWhile Char.isDigit
  if ds.isEmpty then none
  else
    let e := (digitsValue? 10 decimalDigit? ds).getD 0
    let rest := cs.drop ds.length
    if Word.values 31 ≤ e then
      if n.digits ≠ 0 ∧ !down then none else some ({ n with digits := 0, whole := false }, rest)
    else some ({ n with exponent := n.exponent + (if down then -(e : Int) else e), whole := false },
      rest)

def exponentOpt (n : Numeral) (cs : List Char) : Option (Numeral × List Char) :=
  match cs with
  | 'e' :: rest | 'E' :: rest => exponentPart n rest
  | _ => some (n, cs)

/-- Digits behind a point. -/
def fractionPart (n : Numeral) (cs : List Char) : Option (Numeral × List Char) :=
  let ds := cs.takeWhile Char.isDigit
  if ds.isEmpty then none
  else
    let (digits, left) := leadingDigits n.digits ds
    let used := ds.length - left.length
    exponentOpt { n with digits := digits, exponent := n.exponent - used, whole := false }
      (cs.drop ds.length)

/-- The digits before a point: one zero, or digits that do not begin with it. -/
def numeral (negative : Bool) (cs : List Char) : Option (Numeral × List Char) :=
  let ds := cs.takeWhile Char.isDigit
  match ds with
  | [] => none
  | '0' :: _ :: _ => none
  | _ =>
    let (digits, left) := leadingDigits 0 ds
    let n : Numeral := ⟨negative, digits, left.length, left.isEmpty⟩
    match cs.drop ds.length with
    | '.' :: rest => fractionPart { n with whole := false } rest
    | rest => exponentOpt n rest

def Numeral.value? (n : Numeral) : Option Value :=
  let signed (x : Float) : Float := if n.negative then -x else x
  if n.whole then
    if !n.negative then some (.int n.digits)
    else if n.digits = 0 ∨ Word.values 63 < n.digits then some (.float (signed n.digits.toFloat))
    else some (.int (-(n.digits : Int)))
  else (scaled? (n.exponent.natAbs / 308 + 1) n.digits.toFloat n.exponent).map fun x =>
    .float (signed x)

def number (negative : Bool) (cs : List Char) : Option (Value × List Char) :=
  (numeral negative cs).bind fun (n, rest) => n.value?.map (·, rest)

/-! ## Values -/

/-- Elements behind an opening bracket that is not closed at once. -/
def elements (item : Reader Value) : Nat → List Char → Option (List Value × List Char)
  | 0, _ => none
  | fuel + 1, cs =>
    (item cs).bind fun (v, rest) =>
      match skipBlanks rest with
      | ',' :: rest => (elements item fuel rest).map fun (vs, rest) => (v :: vs, rest)
      | ']' :: rest => some ([v], rest)
      | _ => none

/-- Members behind an opening brace that is not closed at once. -/
def members (item : Reader Value) : Nat → List Char → Option (List (String × Value) × List Char)
  | 0, _ => none
  | fuel + 1, cs =>
    match skipBlanks cs with
    | '\x22' :: rest =>
      (string rest).bind fun (name, rest) =>
        match skipBlanks rest with
        | ':' :: rest =>
          (item rest).bind fun (v, rest) =>
            match skipBlanks rest with
            | ',' :: rest => (members item fuel rest).map fun (ms, rest) => ((name, v) :: ms, rest)
            | '\x7d' :: rest => some ([(name, v)], rest)
            | _ => none
        | _ => none
    | _ => none

def word (name : String) (v : Value) (cs : List Char) : Option (Value × List Char) :=
  if name.toList.isPrefixOf cs then some (v, cs.drop name.length) else none

/-- A value whose lists and objects nest at most `depth` deep. -/
def value : Nat → List Char → Option (Value × List Char)
  | depth, cs =>
    match skipBlanks cs with
    | '\x22' :: rest => (string rest).map fun (s, rest) => (.text s, rest)
    | '[' :: rest =>
      match depth with
      | 0 => none
      | depth + 1 =>
        match skipBlanks rest with
        | ']' :: rest => some (.list [], rest)
        | _ => (elements (value depth) rest.length rest).map fun (vs, rest) => (.list vs, rest)
    | '\x7b' :: rest =>
      match depth with
      | 0 => none
      | depth + 1 =>
        match skipBlanks rest with
        | '\x7d' :: rest => some (.object [], rest)
        | _ => (members (value depth) rest.length rest).map fun (ms, rest) => (.object ms, rest)
    | 'n' :: rest => word "ull" .null rest
    | 't' :: rest => word "rue" (.bool true) rest
    | 'f' :: rest => word "alse" (.bool false) rest
    | '-' :: rest => number true rest
    | cs => number false cs

def maxDepth : Nat := 127

/-- The value of a whole text. -/
def read? (cs : List Char) : Option Value :=
  (value maxDepth cs).bind fun (v, rest) => if (skipBlanks rest).isEmpty then some v else none

end BuildHarvest.Json
