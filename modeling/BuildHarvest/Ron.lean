/-
  BuildHarvest.Ron — settings in object notation with structures.

  A structure's fields stand in parentheses under plain names and read as a table, a tuple reads
  as a list, and a value that may be missing reads as the value or as nothing. Names before
  parentheses say nothing.
-/

import BuildHarvest.Decimal.Written
import BuildHarvest.Settings.Value
import BuildHarvest.Text.Utf8
import BuildHarvest.Unicode.Letters
import BuildHarvest.Word

namespace BuildHarvest.Ron

open Settings (Value)

abbrev Reader (α : Type) := List Char → Option (α × List Char)

/-! ## Between tokens -/

def isGap (c : Char) : Bool :=
  c == ' ' || (9 ≤ c.toNat && c.toNat ≤ 13) || c == '\u0085' || c == '\u200E' || c == '\u200F'
    || c == '\u2028' || c == '\u2029'

/-- What stands behind the end of a comment; such comments nest. -/
def afterComment : Nat → List Char → Option (List Char)
  | depth, '/' :: '*' :: rest => afterComment (depth + 1) rest
  | 0, '*' :: '/' :: rest => some rest
  | depth + 1, '*' :: '/' :: rest => afterComment depth rest
  | depth, _ :: rest => afterComment depth rest
  | _, [] => none

def skipFrom : Nat → List Char → Option (List Char)
  | 0, cs => some cs
  | fuel + 1, cs =>
    match cs.dropWhile isGap with
    | '/' :: '/' :: rest => skipFrom fuel (rest.dropWhile (· != '\n'))
    | '/' :: '*' :: rest => (afterComment 0 rest).bind (skipFrom fuel)
    | '/' :: _ => none
    | cs => some cs

def skip (cs : List Char) : Option (List Char) := skipFrom (cs.length + 1) cs

/-! ## Names -/

def isNameStart (c : Char) : Bool := Unicode.isLetter c || c == '_'

def isRawChar (c : Char) : Bool := c.isAlphanum || c == '_' || c == '.' || c == '+' || c == '-'

def name (cs : List Char) : Option (String × List Char) :=
  match cs with
  | 'r' :: '#' :: rest =>
    match rest.takeWhile isRawChar with
    | [] => none
    | raw => some (String.ofList raw, rest.drop raw.length)
  | c :: rest =>
    if isNameStart c then
      let more := rest.takeWhile Unicode.isNamePart
      some (String.ofList (c :: more), rest.drop more.length)
    else none
  | [] => none

/-! ## Texts -/

/-- The character behind a backslash. -/
def escape : Reader Char
  | '\x27' :: rest => some ('\x27', rest)
  | '\x22' :: rest => some ('\x22', rest)
  | '\\' :: rest => some ('\\', rest)
  | 'n' :: rest => some ('\n', rest)
  | 'r' :: rest => some ('\r', rest)
  | 't' :: rest => some ('\t', rest)
  | '0' :: rest => some ('\x00', rest)
  | 'x' :: a :: b :: rest => (digitsValue? 16 hexDigit? [a, b]).map fun n => (Char.ofNat n, rest)
  | 'u' :: '\x7b' :: rest =>
    let ds := rest.takeWhile (· != '\x7d')
    if ds = [] ∨ 6 < ds.length ∨ ds.length = rest.length then none
    else
      (digitsValue? 16 hexDigit? ds).bind fun n =>
        if n.isValidChar then some (Char.ofNat n, rest.drop (ds.length + 1)) else none
  | _ => none

def stringFrom : Nat → List Char → List Char → Option (String × List Char)
  | 0, _, _ => none
  | fuel + 1, soFar, cs =>
    match cs with
    | [] => none
    | '\x22' :: rest => some (String.ofList soFar.reverse, rest)
    | '\\' :: rest => (escape rest).bind fun (c, rest) => stringFrom fuel (c :: soFar) rest
    | c :: rest => stringFrom fuel (c :: soFar) rest

def string (cs : List Char) : Option (String × List Char) := stringFrom (cs.length + 1) [] cs

/-- The rest of a text without escapes that ends at a quote and so many number signs. -/
def rawFrom (close : List Char) : List Char → List Char → Option (String × List Char)
  | _, [] => none
  | soFar, c :: rest =>
    if close.isPrefixOf (c :: rest) then
      some (String.ofList soFar.reverse, (c :: rest).drop close.length)
    else rawFrom close (c :: soFar) rest

def rawString (cs : List Char) : Option (String × List Char) :=
  let signs := cs.takeWhile (· == '#')
  match cs.drop signs.length with
  | '\x22' :: rest => rawFrom ('\x22' :: signs) [] rest
  | _ => none

def character (cs : List Char) : Option (Value × List Char) :=
  let read : Option (Char × List Char) :=
    match cs with
    | '\\' :: rest => escape rest
    | '\x27' :: _ | [] => none
    | c :: rest => some (c, rest)
  match read with
  | some (c, '\x27' :: rest) => some (.text (String.singleton c), rest)
  | _ => none

/-! ## Numbers -/

def kinds : List String :=
  ["i8", "i16", "i32", "i64", "u8", "u16", "u32", "u64", "f32", "f64"]

def isNumberChar (c : Char) : Bool :=
  c.isAlphanum || c == '_' || c == '.' || c == '+' || c == '-'

/-- A number's text without the kind behind it and without underscores. -/
def bare (cs : List Char) : List Char :=
  let kind := kinds.find? fun k =>
    cs.length > k.length && k.toList == cs.drop (cs.length - k.length)
      && !("0x".toList.isPrefixOf cs)
  (cs.take (cs.length - (kind.map String.length).getD 0)).filter (· != '_')

/-- A whole number of sixty-four bits, with a sign or without. -/
def int? (cs : List Char) : Option Int :=
  let (negative, body) := Decimal.cutSign cs
  let (base, ds) : Nat × List Char :=
    match body with
    | '0' :: 'x' :: rest => (16, rest)
    | '0' :: 'o' :: rest => (8, rest)
    | '0' :: 'b' :: rest => (2, rest)
    | _ => (10, body)
  if ds = [] then none
  else
    (digitsValue? base (Decimal.digitBelow? base) ds).bind
      (if negative then Word.signed? true else Word.unsigned?)

def float? (cs : List Char) : Option Float :=
  let (negative, body) := Decimal.cutSign cs
  let size : Option Float :=
    if body = "inf".toList then some (1 / 0)
    else if body = "NaN".toList then some (0 / 0)
    else Decimal.unsignedFloat? body
  size.map fun x => if negative then -x else x

/-- The text of a number: a sign stands in it only at its beginning or behind an exponent's
letter. -/
def numberText : Bool → List Char → List Char
  | _, [] => []
  | mayHaveSign, c :: rest =>
    if !isNumberChar c || ((c == '+' || c == '-') && !mayHaveSign) then []
    else c :: numberText (c == 'e' || c == 'E') rest

def number (cs : List Char) : Option (Value × List Char) :=
  let written := numberText true cs
  let rest := cs.drop written.length
  match int? (bare written), float? (bare written) with
  | some n, _ => some (.int n, rest)
  | none, some x => some (.float x, rest)
  | none, none => none

/-! ## Values -/

/-- Values with commas between them, up to a closing sign. -/
def items (close : Char) (item : Reader Value) :
    Nat → List Char → Option (List Value × List Char)
  | 0, _ => none
  | fuel + 1, cs => do
    let cs ← skip cs
    if cs.head? = some close then return ([], cs.drop 1)
    else
      let (v, rest) ← item cs
      match ← skip rest with
      | ',' :: rest =>
        let (vs, rest) ← items close item fuel rest
        return (v :: vs, rest)
      | c :: rest => if c = close then return ([v], rest) else none
      | [] => none

/-- Pairs with commas between them, up to a closing sign. -/
def pairs (close : Char) (key : Reader String) (item : Reader Value) :
    Nat → List Char → Option (List (String × Value) × List Char)
  | 0, _ => none
  | fuel + 1, cs => do
    let cs ← skip cs
    if cs.head? = some close then return ([], cs.drop 1)
    else
      let (k, rest) ← key cs
      match ← skip rest with
      | ':' :: rest =>
        let (v, rest) ← item (← skip rest)
        match ← skip rest with
        | ',' :: rest =>
          let (ps, rest) ← pairs close key item fuel rest
          return ((k, v) :: ps, rest)
        | c :: rest => if c = close then return ([(k, v)], rest) else none
        | [] => none
      | _ => none

/-- A key of a map is a text. -/
def textKey (item : Reader Value) : Reader String := fun cs =>
  match item cs with
  | some (.scalar (.text s), rest) => some (s, rest)
  | _ => none

/-- What stands in parentheses has names. -/
def hasNames (cs : List Char) : Bool :=
  ((skip cs).bind name).any fun (_, rest) => ((skip rest).bind List.head?) == some ':'

/-- What stands behind an opening parenthesis. -/
def parenthesised (item : Reader Value) (cs : List Char) : Option (Value × List Char) :=
  if hasNames cs then
    (pairs ')' name item (cs.length + 1) cs).map fun (ps, rest) => (.table ps, rest)
  else (items ')' item (cs.length + 1) cs).map fun (vs, rest) => (.list vs, rest)

/-- The one value in parentheses. -/
def enclosed (item : Reader Value) (cs : List Char) : Option (Value × List Char) := do
  match ← skip cs with
  | '(' :: rest =>
    let (v, rest) ← item (← skip rest)
    match ← skip rest with
    | ')' :: rest => return (v, rest)
    | ',' :: rest =>
      match ← skip rest with
      | ')' :: rest => return (v, rest)
      | _ => none
    | _ => none
  | _ => none

/-- A value that begins with a name. -/
def named (item : Reader Value) (word : String) (rest : List Char) : Option (Value × List Char) :=
  if word = "true" then some (.bool true, rest)
  else if word = "false" then some (.bool false, rest)
  else if word = "None" then some (.null, rest)
  else if word = "inf" then some (.float (1 / 0), rest)
  else if word = "NaN" then some (.float (0 / 0), rest)
  else if word = "Some" then enclosed item rest
  else
    (skip rest).bind fun behind =>
      match behind with
      | '(' :: inside => parenthesised item inside
      | _ => some (.null, rest)

def value : Nat → List Char → Option (Value × List Char)
  | 0, _ => none
  | depth + 1, cs =>
    let item := value depth
    match cs with
    | '(' :: ')' :: rest => some (.null, rest)
    | '(' :: rest => parenthesised item rest
    | '[' :: rest =>
      (items ']' item (rest.length + 1) rest).map fun (vs, rest) => (.list vs, rest)
    | '\x7b' :: rest =>
      (pairs '\x7d' (textKey item) item (rest.length + 1) rest).map fun (ps, rest) =>
        (.table ps, rest)
    | '\x22' :: rest => (string rest).map fun (s, rest) => (.text s, rest)
    | 'r' :: '\x22' :: _ | 'r' :: '#' :: '\x22' :: _ | 'r' :: '#' :: '#' :: _ =>
      (rawString (cs.drop 1)).map fun (s, rest) => (.text s, rest)
    | 'b' :: '\x22' :: rest => (string rest).map fun (s, rest) => (.text s, rest)
    | '\x27' :: rest => character rest
    | _ =>
      match name cs with
      | some (word, rest) => named item word rest
      | none => number cs

/-! ## Extensions -/

def extensions : List String :=
  ["unwrap_newtypes", "implicit_some", "unwrap_variant_newtypes", "explicit_struct_names"]

/-- Names of extensions with commas between them. -/
def extensionNames : Nat → List Char → Option (List Char)
  | 0, _ => none
  | fuel + 1, cs => do
    let (word, rest) ← name (← skip cs)
    if !extensions.contains word then none
    else
      match ← skip rest with
      | ',' :: rest =>
        match ← skip rest with
        | ')' :: rest => return rest
        | rest => extensionNames fuel rest
      | ')' :: rest => return rest
      | _ => none

def expect (c : Char) (cs : List Char) : Option (List Char) := do
  match ← skip cs with
  | d :: rest => if d = c then return rest else none
  | [] => none

/-- Past the lines that turn extensions on. -/
def header : Nat → List Char → Option (List Char)
  | 0, _ => none
  | fuel + 1, cs => do
    let cs ← skip cs
    match cs with
    | '#' :: rest =>
      let rest ← expect '[' (← expect '!' rest)
      let (word, rest) ← name (← skip rest)
      if word ≠ "enable" then none
      else
        let inside ← expect '(' rest
        let behind ← extensionNames (inside.length + 1) inside
        header fuel (← expect ']' behind)
    | _ => return cs

def maxDepth : Nat := 128

/-- The value of a whole text. -/
def read? (cs : List Char) : Option Value := do
  let (v, rest) ← value maxDepth (← header (cs.length + 1) cs)
  if (← skip rest).isEmpty then some v else none

end BuildHarvest.Ron
