/-
  BuildHarvest.Toml.Text — texts and keys of TOML documents.

  Each reader takes characters and gives what it read with what stands behind. Double quotes
  take escapes and single ones none; three of either may hold line ends, the first of which is
  not part of the text.
-/

import BuildHarvest.Text.Split

namespace BuildHarvest.Toml

abbrev Reader (α : Type) := List Char → Option (α × List Char)

def isGap (c : Char) : Bool := c == ' ' || c == '\t'

def skipGaps (cs : List Char) : List Char := cs.dropWhile isGap

/-- What stands behind a line end, where there is one. -/
def lineEnd? : List Char → Option (List Char)
  | '\n' :: rest => some rest
  | '\r' :: '\n' :: rest => some rest
  | _ => none

/-- A character that may stand in a text or a comment. -/
def isShown (c : Char) : Bool := c == '\t' || (0x20 ≤ c.toNat && c.toNat != 0x7F)

/-! ## Escapes -/

def scalar? (n : Nat) : Option Char := if n.isValidChar then some (Char.ofNat n) else none

def hexEscape (digits : Nat) (cs : List Char) : Option (Char × List Char) :=
  let ds := cs.take digits
  if ds.length < digits then none
  else
    ((digitsValue? 16 hexDigit? ds).bind scalar?).map (·, cs.drop digits)

/-- The character behind a backslash. -/
def escape : Reader Char
  | 'b' :: rest => some ('\x08', rest)
  | 't' :: rest => some ('\t', rest)
  | 'n' :: rest => some ('\n', rest)
  | 'f' :: rest => some ('\x0C', rest)
  | 'r' :: rest => some ('\r', rest)
  | 'e' :: rest => some ('\x1B', rest)
  | '\x22' :: rest => some ('\x22', rest)
  | '\\' :: rest => some ('\\', rest)
  | 'x' :: rest => hexEscape 2 rest
  | 'u' :: rest => hexEscape 4 rest
  | 'U' :: rest => hexEscape 8 rest
  | _ => none

/-! ## Texts in one line -/

/-- The rest of a text in double quotes; characters already read are kept last first. -/
def basicFrom : Nat → List Char → List Char → Option (List Char × List Char)
  | 0, _, _ => none
  | fuel + 1, soFar, cs =>
    match cs with
    | [] => none
    | '\x22' :: rest => some (soFar.reverse, rest)
    | '\\' :: rest => (escape rest).bind fun (c, rest) => basicFrom fuel (c :: soFar) rest
    | c :: rest => if isShown c then basicFrom fuel (c :: soFar) rest else none

def basic : Reader (List Char) := fun cs => basicFrom (cs.length + 1) [] cs

/-- The rest of a text in single quotes. -/
def literal (cs : List Char) : Option (List Char × List Char) :=
  let inside := cs.takeWhile fun c => c != '\x27' && isShown c
  match cs.drop inside.length with
  | '\x27' :: rest => some (inside, rest)
  | _ => none

/-! ## Texts over several lines -/

/-- Up to two quotes may stand before the three that close a text. -/
def closing (quote : Char) (cs : List Char) : Option (List Char × List Char) :=
  let run := (cs.takeWhile (· == quote)).length
  if run < 3 then none
  else
    let inside := min (run - 3) 2
    some (List.replicate inside quote, cs.drop (inside + 3))

def isLineBlank (c : Char) : Bool := isGap c || c == '\n' || c == '\r'

/-- Behind a backslash at a line's end: the next character that is no blank. -/
def continued? (cs : List Char) : Option (List Char) :=
  (lineEnd? (skipGaps cs)).map fun rest => rest.dropWhile isLineBlank

def multilineFrom (quote : Char) : Nat → List Char → List Char → Option (List Char × List Char)
  | 0, _, _ => none
  | fuel + 1, soFar, cs =>
    match closing quote cs with
    | some (quotes, rest) => some (soFar.reverse ++ quotes, rest)
    | none =>
      match cs with
      | [] => none
      | '\r' :: '\n' :: rest => multilineFrom quote fuel ('\n' :: '\r' :: soFar) rest
      | '\n' :: rest => multilineFrom quote fuel ('\n' :: soFar) rest
      | c :: rest =>
        if c = '\\' ∧ quote = '\x22' then
          match continued? rest with
          | some rest => multilineFrom quote fuel soFar rest
          | none => (escape rest).bind fun (c, rest) => multilineFrom quote fuel (c :: soFar) rest
        else if isShown c then multilineFrom quote fuel (c :: soFar) rest
        else none

def multiline (quote : Char) (cs : List Char) : Option (List Char × List Char) :=
  let inside := (lineEnd? cs).getD cs
  multilineFrom quote (inside.length + 1) [] inside

/-- A text in any of its four forms. -/
def text : Reader String := fun cs =>
  let read : Option (List Char × List Char) :=
    match cs with
    | '\x22' :: '\x22' :: '\x22' :: rest => multiline '\x22' rest
    | '\x22' :: rest => basic rest
    | '\x27' :: '\x27' :: '\x27' :: rest => multiline '\x27' rest
    | '\x27' :: rest => literal rest
    | _ => none
  read.map fun (s, rest) => (String.ofList s, rest)

/-! ## Keys -/

def isBareChar (c : Char) : Bool :=
  ('a' ≤ c && c ≤ 'z') || ('A' ≤ c && c ≤ 'Z') || ('0' ≤ c && c ≤ '9') || c == '_' || c == '-'

def simpleKey : Reader String := fun cs =>
  match cs with
  | '\x22' :: rest => (basic rest).map fun (s, rest) => (String.ofList s, rest)
  | '\x27' :: rest => (literal rest).map fun (s, rest) => (String.ofList s, rest)
  | _ =>
    match cs.takeWhile isBareChar with
    | [] => none
    | name => some (String.ofList name, cs.dropWhile isBareChar)

/-- Names with points between them. -/
def keyFrom : Nat → List Char → Option (List String × List Char)
  | 0, _ => none
  | fuel + 1, cs =>
    (simpleKey (skipGaps cs)).bind fun (name, rest) =>
      match skipGaps rest with
      | '.' :: rest => (keyFrom fuel rest).map fun (names, rest) => (name :: names, rest)
      | rest => some ([name], rest)

def key : Reader (List String) := fun cs => keyFrom (cs.length + 1) cs

end BuildHarvest.Toml
