/-
  BuildHarvest.Toml.Document — reading TOML documents.

  A document is lines: a key and its value, or a header that says where the keys behind it
  belong. A table stands in a way that says what may be added to it: one that a header opened is
  opened once, one that a longer header implied may still be opened, and one that a key with
  points made is only added to by such keys.
-/

import BuildHarvest.Toml.Scalar

namespace BuildHarvest.Toml

open Settings (Value)

inductive Standing where
  /-- A longer header went through it. -/
  | implied
  /-- A key with points went through it. -/
  | dotted
  /-- It has a header of its own. -/
  | opened
  deriving DecidableEq, Repr

inductive Node where
  /-- A value, which nothing can be added to. -/
  | leaf (v : Value)
  | table (standing : Standing) (entries : List (String × Node))
  /-- Tables under one header in double brackets, the last one first. -/
  | tables (ts : List (List (String × Node)))

abbrev Nodes := List (String × Node)

def replace (name : String) (n : Node) (es : Nodes) : Nodes :=
  es.map fun e => if e.1 = name then (name, n) else e

/-- Changes the table at the end of a path, making those that are missing. -/
def within (viaKey : Bool) (f : Standing → Nodes → Option Nodes) :
    List String → Standing → Nodes → Option Nodes
  | [], standing, es => f standing es
  | name :: rest, _, es =>
    match es.lookup name with
    | none =>
      let standing : Standing := if viaKey then .dotted else .implied
      (within viaKey f rest standing []).map fun sub => es ++ [(name, .table standing sub)]
    | some (.table standing sub) =>
      if viaKey ∧ standing = .opened then none
      else
        (within viaKey f rest standing sub).map fun sub => replace name (.table standing sub) es
    | some (.tables (last :: ts)) =>
      if viaKey then none
      else
        (within viaKey f rest .opened last).map fun last => replace name (.tables (last :: ts)) es
    | some _ => none

/-- Puts a value under a key, within a table. -/
def putKey (path : List String) (v : Value) (standing : Standing) (es : Nodes) : Option Nodes :=
  match path.getLast? with
  | none => none
  | some name =>
    let put (here : Standing) (es : Nodes) : Option Nodes :=
      let isMixed := here = .dotted ↔ path.length = 1
      if isMixed ∨ (es.lookup name).isSome then none else some (es ++ [(name, .leaf v)])
    within true put path.dropLast standing es

def openTable (name : String) (_ : Standing) (es : Nodes) : Option Nodes :=
  match es.lookup name with
  | none => some (es ++ [(name, .table .opened [])])
  | some (.table .implied sub) => some (replace name (.table .opened sub) es)
  | some _ => none

def addTable (name : String) (_ : Standing) (es : Nodes) : Option Nodes :=
  match es.lookup name with
  | none => some (es ++ [(name, .tables [[]])])
  | some (.tables ts) => some (replace name (.tables ([] :: ts)) es)
  | some _ => none

/-! ## The value that nodes amount to -/

mutual

def Node.value : Node → Value
  | .leaf v => v
  | .table _ es => .table (valuesOf es)
  | .tables ts => .list (tableValues ts).reverse

def valuesOf : List (String × Node) → List (String × Value)
  | [] => []
  | (name, n) :: rest => (name, n.value) :: valuesOf rest

def tableValues : List (List (String × Node)) → List Value
  | [] => []
  | t :: rest => .table (valuesOf t) :: tableValues rest

end

/-! ## Values -/

def skipComment (cs : List Char) : Option (List Char) :=
  match cs with
  | '#' :: rest =>
    let behind := rest.dropWhile isShown
    match behind with
    | [] => some []
    | _ => if (lineEnd? behind).isSome then some behind else none
  | _ => some cs

/-- Skips blanks, comments and line ends. -/
def skipLines : Nat → List Char → Option (List Char)
  | 0, cs => some cs
  | fuel + 1, cs =>
    (skipComment (skipGaps cs)).bind fun cs =>
      match lineEnd? cs with
      | some rest => skipLines fuel rest
      | none => some cs

def skipAll (cs : List Char) : Option (List Char) := skipLines (cs.length + 1) cs

/-- Items behind an opening bracket. -/
def items (item : Reader Value) : Nat → List Char → Option (List Value × List Char)
  | 0, _ => none
  | fuel + 1, cs => do
    match ← skipAll cs with
    | ']' :: rest => return ([], rest)
    | cs =>
      let (v, rest) ← item cs
      match ← skipAll rest with
      | ',' :: rest =>
        let (vs, rest) ← items item fuel rest
        return (v :: vs, rest)
      | ']' :: rest => return ([v], rest)
      | _ => none

/-- A key, the sign behind it, and its value. -/
def pair (item : Reader Value) (cs : List Char) : Option ((List String × Value) × List Char) := do
  let (path, rest) ← key cs
  let rest ← mark? '=' (skipGaps rest)
  let (v, rest) ← item (skipGaps rest)
  return ((path, v), rest)

/-- Pairs behind an opening brace, put into the table read so far. -/
def members (item : Reader Value) : Nat → Nodes → List Char → Option (Nodes × List Char)
  | 0, _, _ => none
  | fuel + 1, es, cs => do
    match ← skipAll cs with
    | '\x7d' :: rest => return (es, rest)
    | cs =>
      let ((path, v), rest) ← pair item cs
      let es ← putKey path v .opened es
      match ← skipAll rest with
      | ',' :: rest => members item fuel es rest
      | '\x7d' :: rest => return (es, rest)
      | _ => none

def maxDepth : Nat := 80

/-- A value whose lists and tables nest at most so deep. -/
def value : Nat → List Char → Option (Value × List Char)
  | depth, cs =>
    match cs with
    | '\x22' :: _ | '\x27' :: _ => (text cs).map fun (s, rest) => (.text s, rest)
    | '[' :: rest =>
      match depth with
      | 0 => none
      | depth + 1 =>
        (items (value depth) (rest.length + 1) rest).map fun (vs, rest) => (.list vs, rest)
    | '\x7b' :: rest =>
      match depth with
      | 0 => none
      | depth + 1 =>
        (members (value depth) (rest.length + 1) [] rest).map fun (es, rest) =>
          (.table (valuesOf es), rest)
    | _ => scalar cs

/-! ## Lines -/

/-- What a document has said so far. -/
structure State where
  root : Nodes
  /-- The header in force. -/
  header : List String

/-- The rest of a line holds nothing but a comment. -/
def endOfLine (cs : List Char) : Option (List Char) :=
  (skipComment (skipGaps cs)).bind fun cs => if cs = [] then some [] else lineEnd? cs

/-- A header in as many brackets as are given. -/
def header (closing : List Char) (cs : List Char) : Option (List String × List Char) :=
  (key cs).bind fun (path, rest) =>
    let rest := skipGaps rest
    if closing.isPrefixOf rest then some (path, rest.drop closing.length) else none

def State.enter (s : State) (path : List String)
    (f : String → Standing → Nodes → Option Nodes) : Option State :=
  path.getLast?.bind fun name =>
    (within false (f name) path.dropLast .opened s.root).map fun root => ⟨root, path⟩

def State.put (s : State) (path : List String) (v : Value) : Option State :=
  (within false (putKey path v) s.header .opened s.root).map fun root => { s with root := root }

def line (s : State) (cs : List Char) : Option (State × List Char) :=
  match cs with
  | '[' :: '[' :: rest => do
    let (path, rest) ← header [']', ']'] rest
    return (← s.enter path addTable, ← endOfLine rest)
  | '[' :: rest => do
    let (path, rest) ← header [']'] rest
    return (← s.enter path openTable, ← endOfLine rest)
  | _ => do
    let ((path, v), rest) ← pair (value maxDepth) cs
    return (← s.put path v, ← endOfLine rest)

def linesFrom : Nat → State → List Char → Option State
  | 0, _, _ => none
  | fuel + 1, s, cs => do
    match ← skipAll cs with
    | [] => return s
    | cs =>
      let (s, rest) ← line s cs
      linesFrom fuel s rest

/-- The table that a whole document is. -/
def read? (cs : List Char) : Option (List (String × Value)) :=
  let cs := if cs.head? = some '\uFEFF' then cs.drop 1 else cs
  (linesFrom (cs.length + 1) ⟨[], []⟩ cs).map fun s => valuesOf s.root

end BuildHarvest.Toml
