/-
  BuildHarvest.Yaml.Token — the words and signs of a text.

  Signs that a text only implies by its indentation are tokens too: where a collection begins
  and ends, and that a scalar is a key. That shows only at the colon behind it, so each place
  where a key might begin is remembered, and the sign is put in there afterwards.
-/

import BuildHarvest.Yaml.Block
import BuildHarvest.Yaml.Plain
import BuildHarvest.Yaml.Quoted
import BuildHarvest.Yaml.Tag

namespace BuildHarvest.Yaml

inductive Token where
  | directive (d : Directive)
  | documentStart
  | documentEnd
  | sequenceStart
  | mappingStart
  | blockEnd
  | flowSequenceStart
  | flowSequenceEnd
  | flowMappingStart
  | flowMappingEnd
  | entry
  | flowEntry
  | key
  | value
  | alias (name : String)
  | anchor (name : String)
  | tag (t : Tag)
  /-- A scalar in quotes or in lines is always text. -/
  | scalar (text : String) (isPlain : Bool)
  deriving DecidableEq, Repr

namespace Token

/-- A place where a key might begin. -/
structure Candidate where
  possible : Bool
  /-- Nothing but a key may stand there. -/
  required : Bool
  /-- How many tokens stand before it. -/
  position : Nat
  index : Nat
  line : Nat
  col : Nat
  deriving DecidableEq, Repr

def Candidate.absent : Candidate := ⟨false, false, 0, 0, 0, 0⟩

/-- An indentation that another one has taken the place of. -/
structure Indent where
  before : Int
  /-- It holds a collection, which ends with it. -/
  isBlock : Bool
  deriving DecidableEq, Repr

structure Scanner where
  cursor : Cursor
  /-- The tokens so far, last first. -/
  told : List Token
  indent : Int
  indents : List Indent
  /-- One for each collection in brackets around the cursor, and one for what is around them. -/
  candidates : List Candidate
  /-- How many collections in brackets are around the cursor. -/
  flow : Nat
  keyAllowed : Bool
  /-- Where a colon needs no blank behind it. -/
  adjacentAt : Option Nat
  /-- A mapping in braces has begun. -/
  inMapping : Bool
  /-- For each sequence in brackets, whether a mapping without braces is open in it. -/
  implicit : List Bool
  /-- The column of the last token, where that is an anchor or a tag. -/
  propertyAt : Option Nat

abbrev Result := Option Scanner

namespace Scanner

def start (cs : List Char) : Scanner :=
  ⟨.ofText cs, [], -1, [], [.absent], 0, true, none, false, [], none⟩

def inFlow (s : Scanner) : Bool := s.flow ≠ 0

def tell (s : Scanner) (t : Token) : Scanner := { s with told := t :: s.told, propertyAt := none }

/-- Puts a token in where so many tokens stand before it. -/
def insert (s : Scanner) (position : Nat) (t : Token) : Scanner :=
  { s with told := s.told.insertIdx (s.told.length - position) t }

def moveTo (s : Scanner) (c : Cursor) : Scanner := { s with cursor := c }

def allowKey (s : Scanner) : Scanner := { s with keyAllowed := true }

def forbidKey (s : Scanner) : Scanner := { s with keyAllowed := false }

/-! ## Candidates -/

def candidate (s : Scanner) : Candidate := s.candidates.headD .absent

def setCandidate (s : Scanner) (k : Candidate) : Scanner :=
  { s with candidates := k :: s.candidates.drop 1 }

def holdsBlock (s : Scanner) : Bool := (s.indents.head?.map (·.isBlock)).getD false

/-- Remembers the cursor's place, if a key is allowed there. -/
def saveKey (s : Scanner) : Scanner :=
  if !s.keyAllowed then s
  else
    let c := s.cursor
    let required := !s.inFlow && s.indent == (c.col : Int) && s.holdsBlock
    s.setCandidate ⟨true, required, s.told.length, c.index, c.line, c.col⟩

/-- Gives the last place up; refused where only a key may stand there. -/
def dropKey (s : Scanner) : Result :=
  let k := s.candidate
  if k.possible && k.required then none else some (s.setCandidate { k with possible := false })

def maxKeyLength : Nat := 1024

def isStale (s : Scanner) (k : Candidate) : Bool :=
  k.possible && !s.inFlow && (k.line < s.cursor.line || k.index + maxKeyLength < s.cursor.index)

/-- Gives up the places whose line is over. -/
def dropStale (s : Scanner) : Result :=
  if s.candidates.any fun k => s.isStale k && k.required then none
  else
    some { s with
      candidates := s.candidates.map fun k => if s.isStale k then { k with possible := false } else k }

/-! ## Indentation -/

/-- Ends the collections that are indented deeper than a column. -/
def unroll (col : Int) : List Indent → Scanner → Scanner
  | [], s => s
  | i :: rest, s =>
    if s.inFlow || s.indent ≤ col then s
    else
      let s := { s with indent := i.before, indents := rest }
      unroll col rest (if i.isBlock then s.tell .blockEnd else s)

def unrollTo (s : Scanner) (col : Int) : Scanner := unroll col s.indents s

/-- Without an indentation that holds no collection after all. -/
def dropSpare (s : Scanner) (col : Nat) : Scanner :=
  match s.indents with
  | i :: rest =>
    if s.indent ≤ (col : Int) && !i.isBlock then { s with indent := i.before, indents := rest } else s
  | [] => s

/-- Begins a collection where a column is deeper than the indentation in force. -/
def roll (s : Scanner) (col : Nat) (position : Option Nat) (t : Token) : Scanner :=
  if s.inFlow then s
  else
    let s := s.dropSpare col
    if s.indent < (col : Int) then
      let s := { s with indents := ⟨s.indent, true⟩ :: s.indents, indent := col }
      match position with
      | some p => s.insert p t
      | none => s.tell t
    else s

/-- One column deeper, without a collection. -/
def rollOne (s : Scanner) : Scanner :=
  if !s.inFlow && s.holdsBlock then
    { s with indents := ⟨s.indent, false⟩ :: s.indents, indent := s.indent + 1 }
  else s

def dropSpares : List Indent → Scanner → Scanner
  | [], s => s
  | i :: rest, s =>
    if i.isBlock then s else dropSpares rest { s with indent := i.before, indents := rest }

/-! ## Between tokens -/

def skipGaps : Nat → Scanner → Result
  | 0, s => some s
  | fuel + 1, s =>
    let c := s.cursor
    let x := c.char
    if x = '\t' ∧ !s.indents.isEmpty ∧ c.fresh ∧ (c.col : Int) < s.indent then
      (c.skipLine true).bind fun d =>
        if isBreakOrEnd d.char then skipGaps fuel (s.moveTo d) else none
    else if isBlank x then skipGaps fuel (s.moveTo (c.skipBlanks 1))
    else if isBreak x then
      let s := s.moveTo c.skipBreak
      skipGaps fuel (if s.inFlow then s else s.allowKey)
    else if x = '#' then skipGaps fuel (s.moveTo (c.skip (c.span (!isBreakOrEnd ·)).length))
    else some s

def toNext (s : Scanner) : Result := skipGaps (s.cursor.rest.length + 1) s

/-! ## Tokens -/

def fetchDirective (s : Scanner) : Result :=
  (s.unrollTo (-1)).dropKey.bind fun s =>
    (Directive.scan s.cursor).map fun (d, c) => (s.forbidKey.moveTo c).tell (.directive d)

def fetchMark (s : Scanner) (t : Token) : Result :=
  (s.unrollTo (-1)).dropKey.map fun s => (s.forbidKey.moveTo (s.cursor.skip 3)).tell t

/-- Nothing but a comment may stand behind the end of a document. -/
def fetchDocumentEnd (s : Scanner) : Result :=
  (s.fetchMark .documentEnd).bind fun s =>
    (s.cursor.skipLine true).bind fun c => if isBreakOrEnd c.char then some (s.moveTo c) else none

def maxFlow : Nat := 255

def openFlow (s : Scanner) (t : Token) : Result :=
  let s := s.saveKey.rollOne
  if s.flow = maxFlow then none
  else
    let s := { s.allowKey with candidates := .absent :: s.candidates, flow := s.flow + 1 }
    let s :=
      if t = .flowMappingStart then { s with inMapping := true }
      else { s with implicit := false :: s.implicit }
    ((s.cursor.skip 1).skipLine true).map fun c => (s.moveTo c).tell t

/-- Ends a mapping without braces, if one is open. -/
def endImplicit (s : Scanner) : Scanner :=
  match s.implicit with
  | true :: rest =>
    { s with implicit := false :: rest, inMapping := false }.tell .flowMappingEnd
  | _ => s

def closeFlow (s : Scanner) (t : Token) : Result :=
  s.dropKey.bind fun s =>
    let s := if s.inFlow then { s with candidates := s.candidates.drop 1, flow := s.flow - 1 } else s
    let s := s.forbidKey
    let s :=
      if t = .flowSequenceEnd then
        let s := s.endImplicit
        { s with implicit := s.implicit.drop 1 }
      else s
    ((s.cursor.skip 1).skipLine true).map fun c =>
      let s := (s.moveTo c).tell t
      if s.inFlow then { s with adjacentAt := some c.index } else s

def fetchFlowEntry (s : Scanner) : Result :=
  s.dropKey.bind fun s =>
    let s := s.allowKey.endImplicit
    ((s.cursor.skip 1).skipLine true).map fun c => (s.moveTo c).tell .flowEntry

def fetchEntry (s : Scanner) : Result :=
  let c := s.cursor
  if s.inFlow || !s.keyAllowed || (c.col == 0 && s.propertyAt == some 0 && -1 < s.indent) then none
  else
    let s := s.roll c.col none .sequenceStart
    ((c.skip 1).toLineEnd true).bind fun (tabs, _, c) =>
      if tabs && c.char == '-' && isGap (c.ahead 1) then none
      else
        (c.skipLine false).bind fun c =>
          let s := s.moveTo c
          let s := if isBreak c.char || isFlow c.char then s.rollOne else s
          s.dropKey.map fun s => s.allowKey.tell .entry

/-- The gap behind a question mark: blanks but no tab, line ends and comments. -/
def keyGap : Nat → Bool → Scanner → Result
  | 0, _, _ => none
  | fuel + 1, found, s =>
    let c := s.cursor
    if c.char = ' ' then keyGap fuel true (s.moveTo (c.skipBlanks 1))
    else if isBreak c.char then
      let s := s.moveTo c.skipBreak
      keyGap fuel true (if s.inFlow then s else s.allowKey)
    else if c.char = '#' then
      keyGap fuel found (s.moveTo (c.skip (c.span (!isBreakOrEnd ·)).length))
    else if found && c.char != '\t' then some s
    else none

def fetchKey (s : Scanner) : Result :=
  let c := s.cursor
  if !s.inFlow && !s.keyAllowed then none
  else
    let s := if s.inFlow then { s with inMapping := true } else s.roll c.col none .mappingStart
    s.dropKey.bind fun s =>
      let s := { s with keyAllowed := !s.inFlow }.moveTo (c.skip 1)
      (keyGap (c.rest.length + 1) false s).map (·.tell .key)

/-- The key at the remembered place, with the collection that begins there. -/
def keyBefore (s : Scanner) (k : Candidate) (isImplicit : Bool) (line : Nat) : Result :=
  let s := s.insert k.position .key
  if isImplicit && k.line < line then none
  else
    let s := if isImplicit then s.insert k.position .flowMappingStart else s
    let s := (s.roll k.col (some k.position) .mappingStart).rollOne
    some (s.setCandidate { k with possible := false }).forbidKey

/-- A value whose key is empty or was given by a question mark. -/
def bareValue (s : Scanner) (isImplicit : Bool) (col : Nat) : Result :=
  let s := if isImplicit then s.tell .flowMappingStart else s
  if !s.inFlow && !s.keyAllowed then none
  else
    let s := (s.roll col none .mappingStart).rollOne
    some { s with keyAllowed := !s.inFlow }

def fetchValue (s : Scanner) : Result :=
  let k := s.candidate
  let c := s.cursor
  let isImplicit := !s.implicit.isEmpty && !s.inMapping
  let s := if isImplicit then { s with implicit := true :: s.implicit.drop 1 } else s
  let d := c.skip 1
  let past : Option Cursor :=
    if d.char = '\t' then
      (d.toLineEnd true).bind fun (_, blanks, e) => if !blanks && isWord e.char then none else some e
    else some d
  past.bind fun d =>
    let s := s.moveTo d
    (if k.possible then s.keyBefore k isImplicit c.line else s.bareValue isImplicit c.col).map
      (·.tell .value)

def isAnchorChar (c : Char) : Bool := !isGap c && !isFlow c && c != '\uFEFF'

def fetchAnchor (s : Scanner) (make : String → Token) : Result :=
  let s := s.saveKey.forbidKey
  let c := s.cursor
  let name := (c.skip 1).span isAnchorChar
  if name = [] then none
  else
    some { (s.moveTo (c.skip (name.length + 1))).tell (make (String.ofList name)) with
      propertyAt := some c.col }

def fetchTag (s : Scanner) : Result :=
  let s := s.saveKey.forbidKey
  (Tag.scan s.inFlow s.cursor).map fun (t, c) =>
    { (s.moveTo c).tell (.tag t) with propertyAt := some s.cursor.col }

def fetchBlock (s : Scanner) (literal : Bool) : Result :=
  let s := s.saveKey.allowKey
  let s := dropSpares s.indents s
  (block literal s.indent s.cursor).map fun (t, c) => (s.moveTo c).tell (.scalar t false)

def fetchQuoted (s : Scanner) (single : Bool) : Result :=
  let s := s.saveKey.forbidKey
  (quoted single s.inFlow s.indent s.cursor).bind fun (t, c) =>
    (s.moveTo c).toNext.map fun s =>
      { s with adjacentAt := some s.cursor.index }.tell (.scalar t false)

def fetchPlain (s : Scanner) : Result :=
  let s := s.saveKey.forbidKey
  let s := dropSpares s.indents s
  (plain s.inFlow s.indent s.cursor).map fun (t, c) =>
    let s := (s.moveTo c).tell (.scalar t true)
    if c.fresh then s.allowKey else s

/-- A colon that is a sign. -/
def isValueSign (s : Scanner) (next : Char) : Bool :=
  isGap next || (s.inFlow && (isFlow next || s.adjacentAt == some s.cursor.index))

/-- The token that a character begins. -/
def fetchAt (s : Scanner) : Result :=
  let c := s.cursor.char
  let next := s.cursor.ahead 1
  if c = '[' then s.openFlow .flowSequenceStart
  else if c = '\x7b' then s.openFlow .flowMappingStart
  else if c = ']' then s.closeFlow .flowSequenceEnd
  else if c = '\x7d' then s.closeFlow .flowMappingEnd
  else if c = ',' then s.fetchFlowEntry
  else if c = '-' ∧ isGap next then s.fetchEntry
  else if c = '?' ∧ isGap next then s.fetchKey
  else if c = ':' ∧ s.isValueSign next then s.fetchValue
  else if c = '*' then s.fetchAnchor .alias
  else if c = '&' then s.fetchAnchor .anchor
  else if c = '!' then s.fetchTag
  else if (c = '|' ∨ c = '>') ∧ !s.inFlow then s.fetchBlock (c = '|')
  else if c = '\x27' ∨ c = '\x22' then s.fetchQuoted (c = '\x27')
  else if c = '%' ∨ c = '@' ∨ c = '\x60' then none
  else s.fetchPlain

/-- The next token, unless the text is over. -/
def fetch (s : Scanner) : Result :=
  let c := s.cursor
  if c.col = 0 ∧ c.char = '%' then s.fetchDirective
  else if c.col = 0 ∧ c.atDocumentStart then s.fetchMark .documentStart
  else if c.col = 0 ∧ c.atDocumentEnd then s.fetchDocumentEnd
  else if (c.col : Int) < s.indent then none
  else s.fetchAt

/-- All that is still open ends with the text. -/
def finish (s : Scanner) : Option (List Token) :=
  if s.candidates.any fun k => k.required && k.possible then none
  else some (s.unrollTo (-1)).told.reverse

def run : Nat → Scanner → Option (List Token)
  | 0, _ => none
  | fuel + 1, s =>
    (s.toNext.bind dropStale).bind fun s =>
      let s := s.unrollTo s.cursor.col
      if isEnd s.cursor.char then s.finish else s.fetch.bind (run fuel)

end Scanner

/-- The tokens of a whole text. -/
def ofText? (cs : List Char) : Option (List Token) := Scanner.run (cs.length + 2) (.start cs)

end Token

end BuildHarvest.Yaml
