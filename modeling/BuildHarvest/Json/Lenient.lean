/-
  BuildHarvest.Json.Lenient — reading JSON as people write it.

  Beside what JSON has there are comments, names without quotes, texts in single quotes, commas
  behind the last item, signs and bases of numbers, and numbers that are not finite.
-/

import BuildHarvest.Json.Reader
import BuildHarvest.Text.Blank
import BuildHarvest.Unicode.Letters
import BuildHarvest.Word

namespace BuildHarvest.Json.Lenient

/-! ## Between tokens -/

def isLineEnd (c : Char) : Bool :=
  c == '\n' || c == '\r' || c == '\u2028' || c == '\u2029'

def isGap (c : Char) : Bool := (isWhite c && c != '\u0085') || c == '\uFEFF'

/-- What stands behind the end of a comment of the kind that has one. -/
def afterComment : List Char → Option (List Char)
  | '*' :: '/' :: rest => some rest
  | _ :: rest => afterComment rest
  | [] => none

def skipFrom : Nat → List Char → Option (List Char)
  | 0, cs => some cs
  | fuel + 1, cs =>
    match cs.dropWhile isGap with
    | '/' :: '/' :: rest => skipFrom fuel (rest.dropWhile (!isLineEnd ·))
    | '/' :: '*' :: rest => (afterComment rest).bind (skipFrom fuel)
    | cs => some cs

/-- Past gaps and comments. -/
def skip (cs : List Char) : Option (List Char) := skipFrom (cs.length + 1) cs

/-! ## Texts -/

/-- The character that a letter behind a backslash stands for; most stand for themselves. -/
def escapedChar? (c : Char) (next : Option Char) : Option Char :=
  if c = 'b' then some '\x08'
  else if c = 'f' then some '\x0C'
  else if c = 'n' then some '\n'
  else if c = 'r' then some '\r'
  else if c = 't' then some '\t'
  else if c = 'v' then some '\x0B'
  else if c = '0' then if (next.map Char.isDigit).getD false then none else some '\x00'
  else if c.isDigit then none
  else some c

def hexOctet : Reader Char
  | a :: b :: rest => (digitsValue? 16 hexDigit? [a, b]).map fun n => (Char.ofNat n, rest)
  | _ => none

def stringFrom (quote : Char) : Nat → List Char → List Char → Option (String × List Char)
  | 0, _, _ => none
  | fuel + 1, soFar, cs =>
    match cs with
    | [] => none
    | '\\' :: 'u' :: rest =>
      (escapedUnit rest).bind fun (c, rest) => stringFrom quote fuel (c :: soFar) rest
    | '\\' :: 'x' :: rest =>
      (hexOctet rest).bind fun (c, rest) => stringFrom quote fuel (c :: soFar) rest
    | '\\' :: '\r' :: '\n' :: rest => stringFrom quote fuel soFar rest
    | '\\' :: c :: rest =>
      if isLineEnd c then stringFrom quote fuel soFar rest
      else (escapedChar? c rest.head?).bind fun c => stringFrom quote fuel (c :: soFar) rest
    | c :: rest =>
      if c = quote then some (String.ofList soFar.reverse, rest)
      else if c = '\n' ∨ c = '\r' then none
      else stringFrom quote fuel (c :: soFar) rest

/-- The text behind an opening quote. -/
def string (quote : Char) (cs : List Char) : Option (String × List Char) :=
  stringFrom quote (cs.length + 1) [] cs

/-! ## Names -/

def isNameStart (c : Char) : Bool := Unicode.isLetter c || c == '$' || c == '_'

def isNameChar (c : Char) : Bool :=
  Unicode.isNamePart c || c == '$' || c == '\u200C' || c == '\u200D'

def nameFrom (p : Char → Bool) : Nat → List Char → Option (List Char × List Char)
  | 0, _ => none
  | fuel + 1, cs =>
    let read : Option (Char × List Char) :=
      match cs with
      | '\\' :: 'u' :: rest => escapedUnit rest
      | c :: rest => if p c then some (c, rest) else none
      | [] => none
    match read with
    | some (c, rest) =>
      if p c then (nameFrom isNameChar fuel rest).map fun (ds, rest) => (c :: ds, rest) else none
    | none => if cs.head? = some '\\' then none else some ([], cs)

def name (cs : List Char) : Option (String × List Char) :=
  match nameFrom isNameStart (cs.length + 1) cs with
  | some (c :: ds, rest) => some (String.ofList (c :: ds), rest)
  | _ => none

def memberName (cs : List Char) : Option (String × List Char) :=
  match cs with
  | '\x22' :: rest => string '\x22' rest
  | '\x27' :: rest => string '\x27' rest
  | _ => name cs

/-! ## Numbers -/

/-- A whole number, as such if it fits in sixty-four bits with its sign. -/
def wholeValue (negative : Bool) (n : Nat) : Value :=
  if n < Word.values 63 then .int (if negative then -(n : Int) else n)
  else .float (if negative then -(Decimal.nearest n 0) else Decimal.nearest n 0)

def hexNumber (negative : Bool) (cs : List Char) : Option (Value × List Char) :=
  let ds := cs.takeWhile fun c => (hexDigit? c).isSome
  if ds = [] then none
  else some (wholeValue negative (hexValue ds), cs.drop ds.length)

/-- The exponent behind a number, if one is there. -/
def exponent (cs : List Char) : Option (Option Int × List Char) :=
  match cs with
  | 'e' :: rest | 'E' :: rest =>
    let (negative, rest) : Bool × List Char :=
      match rest with
      | '-' :: rest => (true, rest)
      | '+' :: rest => (false, rest)
      | rest => (false, rest)
    let ds := rest.takeWhile Char.isDigit
    if ds = [] then none
    else
      let n : Int := (digitsValue? 10 decimalDigit? ds).getD 0
      some (some (if negative then -n else n), rest.drop ds.length)
  | _ => some (none, cs)

/-- Digits with a point before, behind or among them. -/
def decimal (negative : Bool) (cs : List Char) : Option (Value × List Char) := do
  let whole := cs.takeWhile Char.isDigit
  let rest := cs.drop whole.length
  let hasPoint := rest.head? = some '.'
  let rest := if hasPoint then rest.drop 1 else rest
  let fraction := if hasPoint then rest.takeWhile Char.isDigit else []
  let (e, rest) ← exponent (rest.drop fraction.length)
  let n ← digitsValue? 10 decimalDigit? (whole ++ fraction)
  if (whole = [] ∧ fraction = []) ∨ (whole.head? = some '0' ∧ 1 < whole.length) then none
  else if !hasPoint ∧ e = none then some (wholeValue negative n, rest)
  else
    let x := Decimal.nearest n (e.getD 0 - fraction.length)
    some (.float (if negative then -x else x), rest)

def unsigned (negative : Bool) (cs : List Char) : Option (Value × List Char) :=
  match cs with
  | '0' :: 'x' :: rest | '0' :: 'X' :: rest => hexNumber negative rest
  | 'I' :: rest => word "nfinity" (.float (if negative then -(1 / 0) else 1 / 0)) rest
  | 'N' :: rest => word "aN" (.float (0 / 0)) rest
  | _ => decimal negative cs

/-- What may not follow a number at once. -/
def ends (r : Value × List Char) : Option (Value × List Char) :=
  if (r.2.head?.map isNameChar).getD false then none else some r

def number (cs : List Char) : Option (Value × List Char) :=
  let read :=
    match cs with
    | '-' :: rest => unsigned true rest
    | '+' :: rest => unsigned false rest
    | _ => unsigned false cs
  read.bind ends

/-! ## Values -/

def items (item : Reader Value) : Nat → List Char → Option (List Value × List Char)
  | 0, _ => none
  | fuel + 1, cs => do
    match ← skip cs with
    | ']' :: rest => return ([], rest)
    | cs =>
      let (v, rest) ← item cs
      match ← skip rest with
      | ',' :: rest =>
        let (vs, rest) ← items item fuel rest
        return (v :: vs, rest)
      | ']' :: rest => return ([v], rest)
      | _ => none

def members (item : Reader Value) : Nat → List Char → Option (List (String × Value) × List Char)
  | 0, _ => none
  | fuel + 1, cs => do
    match ← skip cs with
    | '\x7d' :: rest => return ([], rest)
    | cs =>
      let (k, rest) ← memberName cs
      match ← skip rest with
      | ':' :: rest =>
        let (v, rest) ← item (← skip rest)
        match ← skip rest with
        | ',' :: rest =>
          let (ms, rest) ← members item fuel rest
          return ((k, v) :: ms, rest)
        | '\x7d' :: rest => return ([(k, v)], rest)
        | _ => none
      | _ => none

def value : Nat → List Char → Option (Value × List Char)
  | depth, cs =>
    match cs with
    | '\x22' :: rest => (string '\x22' rest).map fun (s, rest) => (.text s, rest)
    | '\x27' :: rest => (string '\x27' rest).map fun (s, rest) => (.text s, rest)
    | '[' :: rest =>
      match depth with
      | 0 => none
      | depth + 1 =>
        (items (value depth) (rest.length + 1) rest).map fun (vs, rest) => (.list vs, rest)
    | '\x7b' :: rest =>
      match depth with
      | 0 => none
      | depth + 1 =>
        (members (value depth) (rest.length + 1) rest).map fun (ms, rest) => (.object ms, rest)
    | 'n' :: rest => (word "ull" .null rest).bind ends
    | 't' :: rest => (word "rue" (.bool true) rest).bind ends
    | 'f' :: rest => (word "alse" (.bool false) rest).bind ends
    | _ => number cs

/-- The value of a whole text. -/
def read? (cs : List Char) : Option Value := do
  let (v, rest) ← value (cs.length + 1) (← skip cs)
  if (← skip rest).isEmpty then some v else none

end BuildHarvest.Json.Lenient
