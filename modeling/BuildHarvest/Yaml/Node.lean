/-
  BuildHarvest.Yaml.Node — what the parts of a document are.

  A plain scalar without a tag is what it looks like: nothing, a truth value, a number, or text.
  A tag of the common set makes it one of these, and a scalar that cannot be that is no value.
-/

import BuildHarvest.Decimal.Written
import BuildHarvest.Settings.Value
import BuildHarvest.Yaml.Tag

namespace BuildHarvest.Yaml

inductive Node where
  /-- What a tag cannot mean. -/
  | bad
  | null
  | bool (b : Bool)
  | int (n : Int)
  /-- A number, as it is written. -/
  | real (text : String)
  | text (s : String)
  | list (items : List Node)
  | map (entries : List (Node × Node))

namespace Node

open Settings (Value)

/-! ## Scalars -/

def infinities : List String := [".inf", ".Inf", ".INF"]

def notNumbers : List String := [".nan", ".NaN", ".NAN"]

def isSignedInfinity (cs : List Char) : Bool :=
  infinities.contains (String.ofList (if cs.head? = some '+' ∨ cs.head? = some '-' then cs.drop 1 else cs))

/-- Text that is a number with a point, an exponent or a name. -/
def isReal (s : String) : Bool :=
  isSignedInfinity s.toList || notNumbers.contains s
    || (s.toList.any Char.isDigit && (Decimal.float? s.toList).isSome)

/-- Numbers with a mark in front: of base sixteen or eight, or a plus sign. -/
def markedInt? (cs : List Char) : Option Int :=
  match cs with
  | '0' :: 'x' :: rest => Decimal.intIn? 16 rest
  | '0' :: 'o' :: rest => Decimal.intIn? 8 rest
  | '+' :: rest => Decimal.int? rest
  | _ => none

def ofPlain (s : String) : Node :=
  match markedInt? s.toList with
  | some n => .int n
  | none =>
    if ["", "~", "null"].contains s then .null
    else if ["true", "True", "TRUE"].contains s then .bool true
    else if ["false", "False", "FALSE"].contains s then .bool false
    else
      match Decimal.int? s.toList with
      | some n => .int n
      | none => if isReal s then .real s else .text s

/-- What the tags of the common set begin with. -/
def commonHandle : String := "tag:yaml.org,2002:"

def ofTagged (t : Tag) (s : String) : Node :=
  if t.handle ≠ commonHandle then .text s
  else if t.suffix = "bool" then
    if s = "true" then .bool true else if s = "false" then .bool false else .bad
  else if t.suffix = "int" then ((Decimal.int? s.toList).map Node.int).getD .bad
  else if t.suffix = "float" then if isReal s then .real s else .bad
  else if t.suffix = "null" then if s = "~" ∨ s = "null" then .null else .bad
  else .text s

/-- What a scalar is; one in quotes or lines is text whatever its tag. -/
def ofScalar (isPlain : Bool) (t : Option Tag) (s : String) : Node :=
  if !isPlain then .text s
  else
    match t with
    | some t => ofTagged t s
    | none => ofPlain s

/-! ## Mappings -/

/-- Scalars that are one and the same key. -/
def isSameKey : Node → Node → Bool
  | bool a, bool b => a == b
  | int a, int b => a == b
  | real a, real b => a == b
  | text a, text b => a == b
  | null, null => true
  | _, _ => false

def isBad : Node → Bool
  | bad => true
  | _ => false

/-- A mapping's nodes, keys and values in turn; a key that comes twice is refused. A key that is
no value gives way to the node behind it. -/
def entriesFrom : Option Node → List Node → List (Node × Node) → Option (List (Node × Node))
  | _, [], es => some es.reverse
  | none, n :: rest, es => entriesFrom (if n.isBad then none else some n) rest es
  | some k, n :: rest, es =>
    if es.any fun e => k.isSameKey e.1 then none else entriesFrom none rest ((k, n) :: es)

def ofPairs? (nodes : List Node) : Option Node := (entriesFrom none nodes []).map .map

/-! ## Settings -/

def key? : Node → Option String
  | text s => some s
  | int n => some (toString n)
  | bool b => some (if b then "true" else "false")
  | real s => some s
  | _ => none

mutual

/-- The setting that a node is; a number must have digits, and a key must be a scalar. -/
def value? : Node → Option Value
  | bad | null => some .null
  | bool b => some (.bool b)
  | int n => some (.int n)
  | real s => (Decimal.float? s.toList).map .float
  | text s => some (.text s)
  | list items => (values? items).map .list
  | map entries => (entries? entries).map .table

def values? : List Node → Option (List Value)
  | [] => some []
  | n :: rest => n.value?.bind fun v => (values? rest).map (v :: ·)

def entries? : List (Node × Node) → Option (List (String × Value))
  | [] => some []
  | (k, n) :: rest =>
    k.key?.bind fun name => n.value?.bind fun v => (entries? rest).map ((name, v) :: ·)

end

end Node

end BuildHarvest.Yaml
