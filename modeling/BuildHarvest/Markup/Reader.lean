/-
  BuildHarvest.Markup.Reader — documents as streams of events.

  `read` takes octets character by character through the lexer and a machine over its tokens
  (`Machine.take`). An entity in content is read again in place of its reference, and at most
  ten expansions, of at most a million characters waiting, stand between two characters of the
  document itself; so every reading ends. A document needs an element, elements must nest, and
  only blanks, comments and instructions stand outside.
-/

import BuildHarvest.Markup.Doctype
import BuildHarvest.Markup.Encoding
import BuildHarvest.Markup.Tag

namespace BuildHarvest.Markup

/-! ## The declaration of a document -/

structure Declaration where
  edition : Edition
  encoding : Option EncodingName
  deriving DecidableEq, Repr

namespace Declaration

/-- A word, an equals sign and a value in quotes, with what stands behind. -/
def item? (word : String) (cs : List Char) : Option (List Char × List Char) :=
  if word.toList.isPrefixOf cs then
    match (cs.drop word.length).dropWhile isBlank with
    | '=' :: rest =>
      match rest.dropWhile isBlank with
      | q :: rest =>
        if q = '\x22' ∨ q = '\x27' then Doctype.cutAt q rest else none
      | [] => none
    | _ => none
  else none

/-- The blanks before an item, at least one. -/
def gap? (cs : List Char) : Option (List Char) :=
  match cs with
  | c :: _ => if isBlank c then some (cs.dropWhile isBlank) else none
  | [] => none

/-- `standalone` or nothing ends a declaration. -/
def endsWell (cs : List Char) : Bool :=
  match cs with
  | [] => true
  | _ =>
    match item? "standalone" cs with
    | some (v, rest) =>
      (String.ofList v == "yes" || String.ofList v == "no") && rest.all isBlank
    | none => false

def edition? (v : List Char) : Option Edition :=
  if v = "1.0".toList then some .first else if v = "1.1".toList then some .second else none

/-- The text behind `<?xml `. -/
def ofChars? (cs : List Char) : Option Declaration :=
  (item? "version" (cs.dropWhile isBlank)).bind fun (v, rest) =>
    (edition? v).bind fun edition =>
      match rest with
      | [] => some ⟨edition, none⟩
      | _ =>
        (gap? rest).bind fun rest =>
          match item? "encoding" rest with
          | none => if endsWell rest then some ⟨edition, none⟩ else none
          | some (name, rest) =>
            (Encoding.named? name).bind fun name =>
              match rest with
              | [] => some ⟨edition, some name⟩
              | _ =>
                (gap? rest).bind fun rest =>
                  if endsWell rest then some ⟨edition, some name⟩ else none

end Declaration

/-! ## The machine -/

/-- What has been met, in the order in which it may first appear. -/
inductive Met where
  | nothing
  | blank
  | declaration
  | remark
  | doctype
  | element
  deriving DecidableEq, Repr

def Met.rank : Met → Nat
  | nothing => 0
  | blank => 1
  | declaration => 2
  | remark => 3
  | doctype => 4
  | element => 5

/-- Where in a document the reading is; text so far is kept last first. -/
inductive Part where
  | content
  | openingName (soFar : List Char)
  | opening (t : Tag)
  | closingName (soFar : List Char)
  | closingEnd (name : Name)
  | comment (soFar : List Char)
  | data (soFar : List Char)
  | instruction (soFar : List Char)
  | reference (soFar : List Char)
  | doctype (d : Doctype)
  deriving DecidableEq, Repr

structure Machine where
  part : Part
  met : Met
  edition : Edition
  encoding : Encoding
  entities : Entities
  /-- Elements that are open, innermost first, each with the short forms bound in it. -/
  unclosed : List (Name × List String)
  /-- Text not yet told, last first. -/
  pending : List Char
  /-- Events told, last first. -/
  told : List Event

namespace Machine

def start (encoding : Encoding) : Machine :=
  ⟨.content, .nothing, .first, encoding, [], [], [], []⟩

def meet (m : Machine) (k : Met) : Machine := if m.met.rank < k.rank then { m with met := k } else m

/-- Tells the text that has been read. -/
def flush (m : Machine) : Machine :=
  if m.pending.isEmpty then m
  else { m with pending := [], told := .text (String.ofList m.pending.reverse) :: m.told }

def tell (m : Machine) (e : Event) : Machine := { m with told := e :: m.told, part := .content }

def push (m : Machine) (cs : List Char) : Machine :=
  { m with pending := cs.reverse ++ m.pending }

def isInside (m : Machine) : Bool := !m.unclosed.isEmpty

abbrev Result := Except Fault (Machine × Option (List Char))

def on (m : Machine) : Result := .ok (m, none)

def enter (m : Machine) (p : Part) : Result := on { m with part := p }

/-- A character of content. -/
def takeChar (m : Machine) (c : Char) : Result :=
  if isBlank c then on ((m.push [c]).meet .blank)
  else if !m.isInside then .error .nesting
  else if m.edition.admitsPlain c then on (m.push [c])
  else .error .character

/-- A mark that is text inside elements. -/
def takeText (m : Machine) (tok : Token) : Result :=
  if m.isInside then on (m.push tok.text) else .error .nesting

def takeContent (m : Machine) (tok : Token) : Result :=
  match tok with
  | .char c => m.takeChar c
  | .tagEnd | .equals | .apostrophe | .quote | .instructionEnd | .emptyTagEnd | .referenceEnd =>
    m.takeText tok
  | .referenceStart => if m.isInside then m.enter (.reference []) else .error .nesting
  | .openTag => (m.flush.meet .element).enter (.openingName [])
  | .closeTag => if m.isInside then m.flush.enter (.closingName []) else .error .nesting
  | .commentStart => (m.flush.meet .remark).enter (.comment [])
  | .doctypeStart =>
    if m.met.rank < Met.doctype.rank then (m.flush.meet .doctype).enter (.doctype .outside)
    else .error .token
  | .instructionStart => m.flush.enter (.instruction [])
  | .dataStart => if m.isInside then m.flush.enter (.data []) else .error .nesting
  | .commentEnd | .dataEnd | .declarationStart => .error .token

/-! ### Elements -/

/-- An opening tag is complete. -/
def openElement (m : Machine) (t : Tag) (isEmpty : Bool) : Result :=
  let around := m.unclosed.flatMap (·.2)
  if !t.isBound around then .error .tag
  else
    let m := m.tell (.opening t.name t.attributes.reverse)
    on (if isEmpty then m.tell (.closing t.name)
      else { m with unclosed := (t.name, t.spaces) :: m.unclosed })

def closeElement (m : Machine) (name : Name) : Result :=
  match m.unclosed with
  | (top, _) :: rest =>
    if top = name then on ({ m with unclosed := rest }.tell (.closing name)) else .error .nesting
  | [] => .error .nesting

def takeOpeningName (m : Machine) (soFar : List Char) (tok : Token) : Result :=
  let named (k : Name → Result) : Result :=
    match Name.ofChars? soFar.reverse with
    | some name => if isReserved name.space then .error .tag else k name
    | none => .error .tag
  let tag (name : Name) : Tag := ⟨name, [], [], .gap⟩
  match tok with
  | .tagEnd => named fun name => m.openElement (tag name) false
  | .emptyTagEnd => named fun name => m.openElement (tag name) true
  | .char c =>
    if isNameChar c then m.enter (.openingName (c :: soFar))
    else if isBlank c then named fun name => m.enter (.opening (tag name))
    else .error .tag
  | _ => .error .tag

def takeOpening (m : Machine) (t : Tag) (tok : Token) : Result :=
  if (tok = .tagEnd ∨ tok = .emptyTagEnd) ∧ t.canEnd then m.openElement t (tok = .emptyTagEnd)
  else (t.feed m.edition m.entities tok).bind fun t => m.enter (.opening t)

def takeClosingName (m : Machine) (soFar : List Char) (tok : Token) : Result :=
  let named (k : Name → Result) : Result :=
    match Name.ofChars? soFar.reverse with
    | some name => k name
    | none => .error .tag
  match tok with
  | .tagEnd => named m.closeElement
  | .char c =>
    if isNameChar c then m.enter (.closingName (c :: soFar))
    else if isBlank c then named fun name => m.enter (.closingEnd name)
    else .error .tag
  | _ => .error .tag

/-! ### Instructions -/

/-- A document's own declaration, which only opens it. -/
def declare (m : Machine) (cs : List Char) : Result :=
  if m.met ≠ .nothing then .error .declaration
  else
    match Declaration.ofChars? cs with
    | none => .error .declaration
    | some d =>
      let m := { m.meet .declaration with edition := d.edition, part := .content }
      match d.encoding with
      | none => on m
      | some name =>
        match m.encoding.declared? name with
        | some e => on { m with encoding := e }
        | none => .error .encoding

def isDeclarationName (name : List Char) : Bool := name.map Char.toLower == "xml".toList

/-- An instruction is complete: a name and, behind a blank, text. -/
def instruct (m : Machine) (cs : List Char) : Result :=
  let name := cs.takeWhile isNameChar
  let rest := cs.drop name.length
  if !((name.head?.map isNameStart).getD false) then .error .instruction
  else
    match rest with
    | [] =>
      if isDeclarationName name then .error .instruction
      else on ((m.meet .remark).tell (.instruction (String.ofList name) ""))
    | c :: rest =>
      if !isBlank c then .error .instruction
      else if name = "xml".toList then m.declare rest
      else if isDeclarationName name then .error .instruction
      else if rest.all m.edition.admits then
        on (m.tell (.instruction (String.ofList name) (String.ofList rest)))
      else .error .character

/-! ### All parts -/

/-- Text up to a mark that ends it. -/
def takeUntil (m : Machine) (stop : Token) (tok : Token) (again : List Char → Part)
    (soFar : List Char) (ended : Event) : Result :=
  if tok = stop then on (m.tell ended)
  else
    match tok with
    | .char c =>
      if m.edition.admitsPlain c then m.enter (again (c :: soFar)) else .error .character
    | _ => m.enter (again (tok.text.reverse ++ soFar))

def takeReference (m : Machine) (soFar : List Char) (tok : Token) : Result :=
  match tok with
  | .char c =>
    if continuesReference soFar.reverse c then m.enter (.reference (c :: soFar))
    else .error .reference
  | .referenceEnd =>
    match referent? m.edition m.entities soFar.reverse with
    | some (.char c) => { m.push [c] with part := .content }.on
    | some (.entity text) => .ok ({ m with part := .content }, some text)
    | none => .error .reference
  | _ => .error .reference

def takeDoctype (m : Machine) (d : Doctype) (tok : Token) : Result :=
  (d.feed m.edition m.entities tok).bind fun p =>
    match p with
    | .on d es => on { m with part := .doctype d, entities := es }
    | .expand text => .ok ({ m with part := .doctype .outside }, some text)
    | .done => m.enter .content

/-- One token; perhaps with text to be read before the document goes on. -/
def take (m : Machine) (tok : Token) : Result :=
  match m.part with
  | .content => m.takeContent tok
  | .openingName soFar => m.takeOpeningName soFar tok
  | .opening t => m.takeOpening t tok
  | .closingName soFar => m.takeClosingName soFar tok
  | .closingEnd name =>
    if tok = .tagEnd then m.closeElement name
    else if tok.isBlank then on m
    else .error .tag
  | .comment soFar =>
    m.takeUntil .commentEnd tok .comment soFar (.comment (String.ofList soFar.reverse))
  | .data soFar => m.takeUntil .dataEnd tok .data soFar (.data (String.ofList soFar.reverse))
  | .instruction soFar =>
    if tok = .instructionEnd then m.instruct soFar.reverse
    else m.enter (.instruction (tok.text.reverse ++ soFar))
  | .reference soFar => m.takeReference soFar tok
  | .doctype d => m.takeDoctype d tok

/-- The tokens of one character. Only the last of them can ask for text to be read first. -/
def takeAll (m : Machine) : List Token → Result
  | [] => on m
  | [tok] => m.take tok
  | tok :: rest => (m.take tok).bind fun r => r.1.takeAll rest

/-- The document ends: nothing may be open. -/
def finish (m : Machine) (mode : Mode) : Stream :=
  let told := m.flush.told.reverse
  let complete := m.part = .content ∧ m.met = .element ∧ m.unclosed = [] ∧ mode = .plain
  ⟨told, if complete then none else some .ending⟩

def stop (m : Machine) (f : Fault) : Stream := ⟨m.told.reverse, some f⟩

end Machine

/-! ## Reading -/

def maxExpansions : Nat := 10

def maxWaiting : Nat := 1000000

/-- One character through the lexer and the machine. -/
def takeOne (m : Machine) (mode : Mode) (c : Char) :
    Except Fault (Machine × Option (List Char) × Mode) :=
  (mode.feed c).bind fun (toks, mode) => (m.takeAll toks).map fun (m, text) => (m, text, mode)

/-- Reads characters until one of them asks for text to be read first: that text, and the
characters behind it. -/
def readChars (m : Machine) (mode : Mode) :
    List Char → Except Stream (Machine × Mode × Option (List Char × List Char))
  | [] => .ok (m, mode, none)
  | c :: waiting =>
    match takeOne m mode c with
    | .error f => .error (m.stop f)
    | .ok (m, none, mode) => readChars m mode waiting
    | .ok (m, some text, mode) => .ok (m, mode, some (text, waiting))

/-- Reads the characters that wait. `left` counts the expansions that are still granted. -/
def readWaiting : (left : Nat) → Machine → Mode → List Char → Except Stream (Machine × Mode)
  | left, m, mode, waiting =>
    match readChars m mode waiting with
    | .error s => .error s
    | .ok (m, mode, none) => .ok (m, mode)
    | .ok (m, mode, some (text, waiting)) =>
      match left with
      | 0 => .error (m.stop .expansion)
      | left + 1 =>
        if maxWaiting < waiting.length then .error (m.stop .expansion)
        else readWaiting left m mode (text ++ waiting)

/-- Reads octets, one character a round. A character has one octet at least, so no more rounds
are needed than there are octets. -/
def readFrom : (rounds : Nat) → Machine → Mode → Bytes → Stream
  | _, m, mode, [] => m.finish mode
  | 0, m, _, _ :: _ => m.stop .encoding
  | rounds + 1, m, mode, source =>
    match m.encoding.next source with
    | none => m.stop .encoding
    | some (c, source) =>
      match takeOne m mode c with
      | .error f => m.stop f
      | .ok (m, text, mode) =>
        match readWaiting (maxExpansions - (if text.isSome then 1 else 0)) m mode (text.getD []) with
        | .error s => s
        | .ok (m, mode) => readFrom rounds m mode source

/-- The events of a document. -/
def read (octets : Bytes) : Stream :=
  let (encoding, source) := Encoding.sniff octets
  readFrom source.length (.start encoding) .plain source

end BuildHarvest.Markup
