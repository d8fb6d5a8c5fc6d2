/-
  BuildHarvest.Markup.Token — the marks that structure a document.

  The lexer is a machine over characters (`Mode.feed`): it holds back the beginning of a mark
  until it is clear what it is. Comments, character data, instructions and declarations have
  modes of their own, in which other marks are plain characters. `]]>` is a fault wherever it
  ends no character data.
-/

import BuildHarvest.Markup.Basic

namespace BuildHarvest.Markup

inductive Token where
  | char (c : Char)
  | openTag
  | closeTag
  | tagEnd
  | emptyTagEnd
  | equals
  | apostrophe
  | quote
  | referenceStart
  | referenceEnd
  | instructionStart
  | instructionEnd
  | commentStart
  | commentEnd
  | dataStart
  | dataEnd
  | doctypeStart
  | declarationStart
  deriving DecidableEq, Repr

namespace Token

/-- The characters that a mark is written with. -/
def text : Token → List Char
  | char c => [c]
  | openTag => ['<']
  | closeTag => ['<', '/']
  | tagEnd => ['>']
  | emptyTagEnd => ['/', '>']
  | equals => ['=']
  | apostrophe => ['\x27']
  | quote => ['\x22']
  | referenceStart => ['&']
  | referenceEnd => [';']
  | instructionStart => ['<', '?']
  | instructionEnd => ['?', '>']
  | commentStart => ['<', '!', '-', '-']
  | commentEnd => ['-', '-', '>']
  | dataStart => "<![CDATA[".toList
  | dataEnd => [']', ']', '>']
  | doctypeStart => "<!DOCTYPE".toList
  | declarationStart => ['<', '!']

def isBlank : Token → Bool
  | char c => Markup.isBlank c
  | _ => false

end Token

/-- Where the lexer is, and what it holds back. -/
inductive Mode where
  | plain
  | less
  | bang
  /-- Inside the word that begins a comment, character data or the document type. -/
  | word (rest : List Char) (mark : Token)
  | slash
  | question
  | bracket
  | brackets
  | comment
  | commentDash
  | commentDashes
  | data
  | dataBracket
  | dataBrackets
  | instruction
  | instructionQuestion
  | declaration
  | quoted (delim : Char)
  deriving DecidableEq, Repr

namespace Mode

abbrev Step := Except Fault (List Token × Mode)

def fromPlain (c : Char) : List Token × Mode :=
  if c = '<' then ([], less)
  else if c = '>' then ([.tagEnd], plain)
  else if c = '/' then ([], slash)
  else if c = '=' then ([.equals], plain)
  else if c = '\x22' then ([.quote], plain)
  else if c = '\x27' then ([.apostrophe], plain)
  else if c = '?' then ([], question)
  else if c = ']' then ([], bracket)
  else if c = '&' then ([.referenceStart], plain)
  else if c = ';' then ([.referenceEnd], plain)
  else ([.char c], plain)

/-- What was held back turns out plain. -/
def release (held : List Token) (c : Char) : Step :=
  let (ts, m) := fromPlain c
  .ok (held ++ ts, m)

/-- The mode that a mark opens. -/
def opened : Token → Mode
  | .commentStart => comment
  | .dataStart => data
  | _ => plain

def fromDeclaration (c : Char) : Step :=
  if c = '<' then .error .token
  else if c = '>' then .ok ([.tagEnd], plain)
  else if c = '&' then .ok ([.referenceStart], declaration)
  else if c = ';' then .ok ([.referenceEnd], declaration)
  else if c = '\x22' then .ok ([.quote], quoted c)
  else if c = '\x27' then .ok ([.apostrophe], quoted c)
  else .ok ([.char c], declaration)

def afterLess (c : Char) : Step :=
  if c = '?' then .ok ([.instructionStart], instruction)
  else if c = '/' then .ok ([.closeTag], plain)
  else if c = '!' then .ok ([], bang)
  else if isNameChar c then release [.openTag] c
  else .error .token

def afterBang (c : Char) : Step :=
  if c = '-' then .ok ([], word ['-'] .commentStart)
  else if c = '[' then .ok ([], word "CDATA[".toList .dataStart)
  else if c = 'D' then .ok ([], word "OCTYPE".toList .doctypeStart)
  else if c = 'E' ∨ c = 'A' ∨ c = 'N' then .ok ([.declarationStart, .char c], declaration)
  else .error .token

def inWord (rest : List Char) (mark : Token) (c : Char) : Step :=
  match rest with
  | [] => .error .token
  | d :: rest =>
    if c ≠ d then .error .token
    else if rest = [] then .ok ([mark], opened mark)
    else .ok ([], word rest mark)

def feed (m : Mode) (c : Char) : Step :=
  match m with
  | plain => .ok (fromPlain c)
  | less => afterLess c
  | bang => afterBang c
  | word rest mark => inWord rest mark c
  | slash => if c = '>' then .ok ([.emptyTagEnd], plain) else release [.char '/'] c
  | question => if c = '>' then .ok ([.instructionEnd], plain) else release [.char '?'] c
  | bracket => if c = ']' then .ok ([], brackets) else release [.char ']'] c
  | brackets =>
    if c = '>' then .error .token
    else if c = ']' then .ok ([.char ']'], brackets)
    else release [.char ']', .char ']'] c
  | comment => if c = '-' then .ok ([], commentDash) else .ok ([.char c], comment)
  | commentDash =>
    if c = '-' then .ok ([], commentDashes) else .ok ([.char '-', .char c], comment)
  | commentDashes => if c = '>' then .ok ([.commentEnd], plain) else .error .token
  | data => if c = ']' then .ok ([], dataBracket) else .ok ([.char c], data)
  | dataBracket =>
    if c = ']' then .ok ([], dataBrackets) else .ok ([.char ']', .char c], data)
  | dataBrackets =>
    if c = '>' then .ok ([.dataEnd], plain)
    else if c = ']' then .ok ([.char ']'], dataBrackets)
    else .ok ([.char ']', .char ']', .char c], data)
  | instruction => if c = '?' then .ok ([], instructionQuestion) else .ok ([.char c], instruction)
  | instructionQuestion =>
    if c = '>' then .ok ([.instructionEnd], plain)
    else if c = '?' then .ok ([.char '?'], instructionQuestion)
    else .ok ([.char '?', .char c], instruction)
  | declaration => fromDeclaration c
  | quoted delim =>
    if c = delim then .ok ([if c = '\x22' then .quote else .apostrophe], declaration)
    else .ok ([.char c], quoted delim)

end Mode

end BuildHarvest.Markup
