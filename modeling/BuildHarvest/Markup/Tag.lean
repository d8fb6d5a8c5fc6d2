/-
  BuildHarvest.Markup.Tag — names and the inside of an opening tag.

  A tag is read token by token (`Tag.feed`): blanks separate attributes, each attribute is
  given once, and its value stands in quotes. Attributes named `xmlns` bind short forms of
  namespaces for the element; every short form that is used must be bound.
-/

import BuildHarvest.Markup.Reference
import BuildHarvest.Markup.Token

namespace BuildHarvest.Markup

/-- A name with at most one colon, which separates two parts that are not empty. -/
def Name.ofChars? (cs : List Char) : Option Name :=
  if !(cs.head?.map isNameStart).getD false then none
  else
    match splitOn ':' cs with
    | [label] => some ⟨none, String.ofList label⟩
    | [space, label] =>
      if space = [] ∨ label = [] then none
      else some ⟨some (String.ofList space), String.ofList label⟩
    | _ => none

/-- Short forms that belong to the format. -/
def isReserved (space : Option String) : Bool := space == some "xml" || space == some "xmlns"

def xmlSpace : String := "http://www.w3.org/XML/1998/namespace"

def xmlnsSpace : String := "http://www.w3.org/2000/xmlns/"

/-- Where in a tag the reading is; what has been read of a name or value, last first. -/
inductive Tag.Part where
  | gap
  | label (soFar : List Char)
  | afterLabel (name : Name)
  | beforeValue (name : Name)
  | value (name : Name) (delim : Token) (soFar : List Char)
  | reference (name : Name) (delim : Token) (soFar : List Char) (ref : List Char)
  | afterValue
  deriving DecidableEq, Repr

structure Tag where
  name : Name
  /-- Attributes so far, last first. -/
  attributes : List (Name × String)
  /-- Short forms bound so far. -/
  spaces : List String
  part : Tag.Part
  deriving DecidableEq, Repr

namespace Tag

/-- An attribute is complete. -/
def bindValue (t : Tag) (name : Name) (value : String) : Except Fault Tag :=
  if name.space = some "xmlns" then
    if name.label = "xmlns" then .error .tag
    else if name.label = "xml" ∧ value ≠ xmlSpace then .error .tag
    else if value = "" then .error .tag
    else .ok { t with spaces := name.label :: t.spaces, part := .afterValue }
  else if name = ⟨none, "xmlns"⟩ then
    if ["xmlns", "xml", xmlSpace, xmlnsSpace].contains value then .error .tag
    else .ok { t with part := .afterValue }
  else .ok { t with attributes := (name, value) :: t.attributes, part := .afterValue }

def named (t : Tag) (soFar : List Char) (next : Name → Part) : Except Fault Tag :=
  match Name.ofChars? soFar.reverse with
  | none => .error .tag
  | some name =>
    if t.attributes.any (·.1 == name) then .error .tag else .ok { t with part := next name }

def feedValue (ed : Edition) (t : Tag) (name : Name) (delim : Token) (soFar : List Char)
    (tok : Token) : Except Fault Tag :=
  if tok = delim then t.bindValue name (String.ofList soFar.reverse)
  else
    match tok with
    | .referenceStart => .ok { t with part := .reference name delim soFar [] }
    | .openTag | .instructionStart => .error .tag
    | .char c =>
      if ed.admitsPlain c then .ok { t with part := .value name delim (c :: soFar) }
      else .error .character
    | _ => .ok { t with part := .value name delim (tok.text.reverse ++ soFar) }

def feedReference (ed : Edition) (es : Entities) (t : Tag) (name : Name) (delim : Token)
    (soFar ref : List Char) (tok : Token) : Except Fault Tag :=
  match tok with
  | .char c =>
    if continuesReference ref c then .ok { t with part := .reference name delim soFar (c :: ref) }
    else .error .reference
  | .referenceEnd =>
    match referent? ed es ref.reverse with
    | some r => .ok { t with part := .value name delim (r.text.reverse ++ soFar) }
    | none => .error .reference
  | _ => .error .reference

/-- One token that does not end the tag. -/
def feed (ed : Edition) (es : Entities) (t : Tag) (tok : Token) : Except Fault Tag :=
  match t.part with
  | .gap =>
    match tok with
    | .char c =>
      if isBlank c then .ok t
      else if isNameStart c then .ok { t with part := .label [c] }
      else .error .tag
    | _ => .error .tag
  | .label soFar =>
    match tok with
    | .equals => t.named soFar .beforeValue
    | .char c =>
      if isBlank c then t.named soFar .afterLabel
      else if isNameChar c then .ok { t with part := .label (c :: soFar) }
      else .error .tag
    | _ => .error .tag
  | .afterLabel name =>
    if tok = .equals then .ok { t with part := .beforeValue name }
    else if tok.isBlank then .ok t
    else .error .tag
  | .beforeValue name =>
    if tok = .quote ∨ tok = .apostrophe then .ok { t with part := .value name tok [] }
    else if tok.isBlank then .ok t
    else .error .tag
  | .value name delim soFar => feedValue ed t name delim soFar tok
  | .reference name delim soFar ref => feedReference ed es t name delim soFar ref tok
  | .afterValue => if tok.isBlank then .ok { t with part := .gap } else .error .tag

/-- A tag can end where no attribute is open. -/
def canEnd (t : Tag) : Bool :=
  match t.part with
  | .gap | .afterValue => true
  | _ => false

/-- All short forms in use are bound, in the tag or around it. -/
def isBound (t : Tag) (around : List String) : Bool :=
  let known := t.spaces ++ around
  let fits (space : Option String) : Bool :=
    (space.map fun s => s == "xml" || s == "xmlns" || known.contains s).getD true
  fits t.name.space && t.attributes.all fun a => fits a.1.space

end Tag

end BuildHarvest.Markup
