/-
  BuildHarvest.Yaml.Document — the documents that tokens make.

  A node is a scalar or a collection, before which an anchor and a tag may stand in either
  order. An anchor names the node that it stands before, and an alias stands for the node last
  named so.
-/

import BuildHarvest.Yaml.Node
import BuildHarvest.Yaml.Token

namespace BuildHarvest.Yaml.Document

structure State where
  tokens : List Token
  /-- What handles stand for. -/
  handles : List (String × String)
  /-- The number of the last anchor of each name. -/
  anchors : List (String × Nat)
  /-- How many anchors there have been. -/
  count : Nat
  /-- The nodes behind anchors, by number. -/
  named : List (Nat × Node)

abbrev Reader := State → Option (Node × State)

namespace State

def next? (s : State) : Option Token := s.tokens.head?

def skip (s : State) : State := { s with tokens := s.tokens.drop 1 }

def anchor (s : State) (name : String) : Nat × State :=
  (s.count, { s with anchors := (name, s.count) :: s.anchors, count := s.count + 1 })

/-- The node that an alias stands for: one that is not complete yet is no value. -/
def aliased? (s : State) (name : String) : Option Node :=
  (s.anchors.lookup name).map fun i => (s.named.lookup i).getD .bad

def remember (s : State) (i : Option Nat) (n : Node) : State :=
  match i with
  | some i => { s with named := (i, n) :: s.named }
  | none => s

end State

def secondHandle : String := "!!"

/-- A tag with what its handle stands for. -/
def resolved? (s : State) (t : Tag) : Option Tag :=
  if t.handle = secondHandle then
    some { t with handle := (s.handles.lookup t.handle).getD Node.commonHandle }
  else
    match s.handles.lookup t.handle with
    | some leading => some { t with handle := leading }
    | none => if Tag.isHandle t.handle.toList then none else some t

/-! ## Nodes -/

/-- What stands before a node. -/
structure Properties where
  anchor : Option Nat
  tag : Option Tag

def Properties.none : Properties := ⟨.none, .none⟩

def takeAnchor (p : Properties) (s : State) : Properties × State :=
  match s.tokens with
  | .anchor name :: rest =>
    let (i, s) := ({ s with tokens := rest } : State).anchor name
    ({ p with anchor := some i }, s)
  | _ => (p, s)

def takeTag (p : Properties) (s : State) : Option (Properties × State) :=
  match s.tokens with
  | .tag t :: rest => (resolved? s t).map fun t => ({ p with tag := some t }, { s with tokens := rest })
  | _ => some (p, s)

def properties (s : State) : Option (Properties × State) :=
  match s.tokens with
  | .anchor _ :: _ => let (p, s) := takeAnchor .none s; takeTag p s
  | .tag _ :: _ => (takeTag .none s).map fun (p, s) => takeAnchor p s
  | _ => some (.none, s)

/-- The next token is one of some kind. -/
def sees (s : State) (p : Token → Bool) : Bool := (s.next?.map p).getD false

/-- A node, or nothing where one of some tokens comes instead. -/
def orNull (stop : Token → Bool) (item : Reader) (s : State) : Option (Node × State) :=
  if sees s stop then some (.null, s) else item s

def isKeyOrValue (t : Token) : Bool := t = .key ∨ t = .value

def endsBlockPart (t : Token) : Bool := isKeyOrValue t || t = .blockEnd

/-! ## Collections by indentation -/

def blockItems (item : Reader) : Nat → State → Option (List Node × State)
  | 0, _ => none
  | fuel + 1, s =>
    match s.next? with
    | some .blockEnd => some ([], s.skip)
    | some .entry => do
      let (n, s) ← orNull (fun t => t = .entry ∨ t = .blockEnd) item s.skip
      let (ns, s) ← blockItems item fuel s
      return (n :: ns, s)
    | _ => none

/-- A sequence that is not indented deeper than the mapping it stands in. -/
def looseItems (item : Reader) : Nat → State → Option (List Node × State)
  | 0, _ => none
  | fuel + 1, s =>
    match s.next? with
    | some .entry => do
      let (n, s) ← orNull (fun t => t = .entry || endsBlockPart t) item s.skip
      let (ns, s) ← looseItems item fuel s
      return (n :: ns, s)
    | _ => some ([], s)

/-- The value behind a key, where there is one. -/
def blockValue (item : Reader) (s : State) : Option (Node × State) :=
  if sees s (· = .value) then orNull endsBlockPart item s.skip else some (.null, s)

/-- Keys and values in turn. -/
def blockPairs (item : Reader) : Nat → State → Option (List Node × State)
  | 0, _ => none
  | fuel + 1, s =>
    match s.next? with
    | some .blockEnd => some ([], s.skip)
    | some .key => do
      let (k, s) ← orNull endsBlockPart item s.skip
      let (v, s) ← blockValue item s
      let (ns, s) ← blockPairs item fuel s
      return (k :: v :: ns, s)
    | some .value => do
      let (v, s) ← blockValue item s
      let (ns, s) ← blockPairs item fuel s
      return (.null :: v :: ns, s)
    | _ => none

/-! ## Collections in brackets -/

def endsMember (t : Token) : Bool := t = .flowEntry ∨ t = .flowMappingEnd

def endsItem (t : Token) : Bool := t = .flowEntry ∨ t = .flowSequenceEnd

/-- The value behind a key, up to what ends the pair. -/
def flowValue (stop : Token → Bool) (item : Reader) (s : State) : Option (Node × State) :=
  if sees s (· = .value) then orNull stop item s.skip else some (.null, s)

/-- One key and its value. A node without a sign is a key alone. -/
def flowPair (item : Reader) (s : State) : Option (Node × Node × State) :=
  match s.next? with
  | some .key => do
    let (k, s) ← orNull (fun t => t = .value || endsMember t) item s.skip
    let (v, s) ← flowValue endsMember item s
    return (k, v, s)
  | some .value => do
    let (v, s) ← flowValue endsMember item s
    return (.null, v, s)
  | _ => do
    let (k, s) ← item s
    return (k, .null, s)

def flowPairs (item : Reader) : Nat → Bool → State → Option (List Node × State)
  | 0, _, _ => none
  | fuel + 1, isFirst, s =>
    if sees s (· = .flowMappingEnd) then some ([], s.skip)
    else if !isFirst && !sees s (· = .flowEntry) then none
    else
      let s := if isFirst then s else s.skip
      if sees s (· = .flowMappingEnd) then some ([], s.skip)
      else do
        let (k, v, s) ← flowPair item s
        let (ns, s) ← flowPairs item fuel false s
        return (k :: v :: ns, s)

/-- A pair that stands in a sequence by itself. -/
def lonePair (item : Reader) (s : State) : Option (Node × State) := do
  let (k, s) ←
    if sees s fun t => t = .value || endsItem t then some (Node.null, s.skip) else item s
  let (v, s) ← flowValue endsItem item s
  return (← Node.ofPairs? [k, v], s)

def flowItem (item : Reader) (s : State) : Option (Node × State) :=
  if sees s (· = .key) then lonePair item s.skip else item s

def flowItems (item : Reader) : Nat → Bool → State → Option (List Node × State)
  | 0, _, _ => none
  | fuel + 1, isFirst, s =>
    if sees s (· = .flowSequenceEnd) then some ([], s.skip)
    else if !isFirst && !sees s (· = .flowEntry) then none
    else
      let s := if isFirst then s else s.skip
      if sees s (· = .flowSequenceEnd) then some ([], s.skip)
      else do
        let (n, s) ← flowItem item s
        let (ns, s) ← flowItems item fuel false s
        return (n :: ns, s)

/-! ## Any node -/

def listOf (r : Option (List Node × State)) : Option (Node × State) :=
  r.map fun (ns, s) => (.list ns, s)

def mapOf (r : Option (List Node × State)) : Option (Node × State) :=
  r.bind fun (ns, s) => (Node.ofPairs? ns).map (·, s)

/-- A node behind its properties. `inBlock` admits collections by indentation, and `loose` a
sequence that is not indented deeper. -/
def content (node : Bool → Bool → Reader) (inBlock loose : Bool) (p : Properties) (s : State) :
    Option (Node × State) :=
  let fuel := s.tokens.length + 1
  let plainNode := node false false
  match s.next? with
  | some (.scalar t isPlain) => some (.ofScalar isPlain p.tag t, s.skip)
  | some .flowSequenceStart => listOf (flowItems plainNode fuel true s.skip)
  | some .flowMappingStart => mapOf (flowPairs plainNode fuel true s.skip)
  | t =>
    if t = some .entry ∧ loose then listOf (looseItems (node true false) fuel s)
    else if t = some .sequenceStart ∧ inBlock then
      listOf (blockItems (node true false) fuel s.skip)
    else if t = some .mappingStart ∧ inBlock then
      mapOf (blockPairs (node true true) fuel s.skip)
    else if p.anchor.isSome ∨ p.tag.isSome then some (.ofScalar true p.tag "", s)
    else none

def node : Nat → Bool → Bool → Reader
  | 0, _, _, _ => none
  | fuel + 1, inBlock, loose, s =>
    match s.tokens with
    | .alias name :: rest =>
      (s.aliased? name).map fun n => (n, { s with tokens := rest })
    | _ =>
      (properties s).bind fun (p, s) =>
        (content (node fuel) inBlock loose p s).map fun (n, s) => (n, s.remember p.anchor n)

/-! ## Documents -/

def isDirective : Token → Bool
  | .directive _ => true
  | _ => false

/-- The directives before a document; a version and each handle are given once. -/
def directives : Nat → Bool → List (String × String) → State → Option State
  | 0, _, _, _ => none
  | fuel + 1, hasVersion, handles, s =>
    match s.next? with
    | some (.directive .version) =>
      if hasVersion then none else directives fuel true handles s.skip
    | some (.directive (.tag handle leading)) =>
      if (handles.lookup handle).isSome then none
      else directives fuel hasVersion ((handle, leading) :: handles) s.skip
    | _ => some { s with handles := handles }

def isStart (t : Token) : Bool := t = .documentStart

def isStop (t : Token) : Bool := t = .documentEnd

/-- What stands where a document between marks holds nothing. -/
def endsDocument (t : Token) : Bool := isDirective t || isStart t || isStop t

def rootNode (s : State) : Option (Node × State) := node (s.tokens.length + 1) true false s

/-- A document whose beginning is marked. -/
def marked (s : State) : Option (Node × State) :=
  (directives (s.tokens.length + 1) false [] s).bind fun s =>
    if !sees s isStart then none
    else
      let s := s.skip
      if s.tokens.isEmpty then some (.null, s) else orNull endsDocument rootNode s

def documents : Nat → Bool → State → Option (List Node)
  | 0, _, _ => none
  | fuel + 1, mayBeBare, s =>
    let s := { s with tokens := s.tokens.dropWhile isStop }
    if s.tokens.isEmpty then some []
    else
      let isMarked := sees s fun t => isDirective t || isStart t
      if !isMarked && !mayBeBare then none
      else
        (if isMarked then marked s else rootNode s).bind fun (n, s) =>
          let s := { s with handles := [] }
          let ended := sees s isStop
          if !ended && sees s isDirective then none
          else (documents fuel ended (if ended then s.skip else s)).map (n :: ·)

def ofTokens? (ts : List Token) : Option (List Node) :=
  documents (ts.length + 1) true ⟨ts, [], [], 0, []⟩

end BuildHarvest.Yaml.Document

namespace BuildHarvest.Yaml

/-- The table that a text's only document is; a text without a document is an empty one. -/
def read? (cs : List Char) : Option (List (String × Settings.Value)) :=
  ((Token.ofText? cs).bind Document.ofTokens?).bind fun nodes =>
    match nodes with
    | [] => some []
    | [.map entries] => Node.entries? entries
    | _ => none

end BuildHarvest.Yaml
