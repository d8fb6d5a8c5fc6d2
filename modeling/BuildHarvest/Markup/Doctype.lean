/-
  BuildHarvest.Markup.Doctype — the document type, of which only entities count.

  Strings, comments and declarations of elements, attributes and notations are passed over. An
  entity's value is text in quotes, in which references by number and to parameter entities are
  replaced at once; one that is kept elsewhere stands for nothing.
-/

import BuildHarvest.Markup.Reference
import BuildHarvest.Markup.Token

namespace BuildHarvest.Markup

namespace Doctype

/-! ## Entity declarations -/

/-- The text up to a character, and what stands behind that character. -/
def cutAt (stop : Char) : List Char → Option (List Char × List Char)
  | [] => none
  | c :: rest => if c = stop then some ([], rest) else (cutAt stop rest).map fun p => (c :: p.1, p.2)

theorem cutAt_shorter {stop : Char} {cs a b : List Char} (h : cutAt stop cs = some (a, b)) :
    b.length < cs.length := by
  induction cs generalizing a with
  | nil => simp [cutAt] at h
  | cons c cs ih =>
    simp only [cutAt] at h
    split at h
    · simp only [Option.some.injEq, Prod.mk.injEq] at h
      simp [h.2]
    · obtain ⟨p, hp, he⟩ := Option.map_eq_some_iff.1 h
      have := ih (a := p.1) (by rw [hp, ← (Prod.mk.inj he).2])
      simp only [List.length_cons]
      omega

/-- An entity's value with its references by number and to parameter entities replaced. -/
def value (ed : Edition) (es : Entities) (cs : List Char) : Except Fault (List Char) :=
  match cs with
  | [] => .ok []
  | '&' :: '#' :: rest =>
    match _h : cutAt ';' rest with
    | none => .error .reference
    | some (digits, after) =>
      match numbered? ed digits with
      | none => .error .reference
      | some c => (value ed es after).map (c :: ·)
  | '&' :: c :: rest =>
    if ed.admits c then (value ed es rest).map (['&', c] ++ ·) else .error .character
  | ['&'] => .error .reference
  | '%' :: rest =>
    match _h : cutAt ';' rest with
    | none => .error .reference
    | some (name, after) =>
      if !name.all isNameChar then .error .reference
      else
        match es.lookup (String.ofList ('%' :: name)) with
        | none => .error .reference
        | some v => (value ed es after).map (v ++ ·)
  | c :: rest => if ed.admits c then (value ed es rest).map (c :: ·) else .error .character
  termination_by cs.length
  decreasing_by
    all_goals simp only [List.length_cons]
    all_goals first
      | (have e := cutAt_shorter ‹_›; omega)
      | omega

def chars (ts : List Token) : List Char := ts.flatMap Token.text

def isCapital (c : Char) : Bool := 'A' ≤ c && c ≤ 'Z'

/-- A name, and what stands behind the blank that ends it. -/
def cutName (ts : List Token) : Option (List Char × List Token) :=
  let name := ts.takeWhile fun t => match t with | .char c => isNameChar c | _ => false
  let rest := ts.drop name.length
  match rest with
  | t :: rest =>
    if t.isBlank && ((chars name).head?.map isNameStart).getD false then some (chars name, rest)
    else none
  | [] => none

def skipBlanks (ts : List Token) : List Token := ts.dropWhile Token.isBlank

/-- The definition behind the word that opens an entity declaration. -/
def define (ed : Edition) (es : Entities) (ts : List Token) : Except Fault Entities :=
  let ts := skipBlanks ts
  let (lead, ts) : List Char × List Token :=
    match ts with
    | .char '%' :: rest => (['%'], skipBlanks rest)
    | _ => ([], ts)
  match cutName ts with
  | none => .error .declaration
  | some (name, ts) =>
    let name := String.ofList (lead ++ name)
    match skipBlanks ts with
    | .char 'S' :: _ | .char 'P' :: _ => .ok (es.define name [])
    | .quote :: rest => (value ed es (chars (rest.takeWhile (· ≠ .quote)))).map (es.define name)
    | .apostrophe :: rest =>
      (value ed es (chars (rest.takeWhile (· ≠ .apostrophe)))).map (es.define name)
    | _ => .error .declaration

/-- A whole declaration, without the characters around it. -/
def declare (ed : Edition) (es : Entities) (ts : List Token) : Except Fault Entities :=
  let word := ts.takeWhile fun t => match t with | .char c => isCapital c | _ => false
  match ts.drop word.length with
  | t :: rest =>
    if !t.isBlank then .error .declaration
    else
      let word := String.ofList (chars word)
      if word = "ENTITY" then define ed es rest
      else if ["NOTATION", "ELEMENT", "ATTLIST"].contains word then .ok es
      else .error .declaration
  | [] => .error .declaration

end Doctype

/-! ## The document type as a whole -/

/-- Where in the document type the reading is. -/
inductive Doctype where
  | outside
  | string (delim : Token)
  | comment
  /-- Behind a `%`; the name so far, last first. -/
  | parameter (soFar : List Char)
  /-- Inside a declaration; its tokens so far, last first. -/
  | declaration (soFar : List Token)
  deriving DecidableEq, Repr

namespace Doctype

/-- What a token does: the reading goes on, perhaps with text to be read first, or ends. -/
inductive Progress where
  | on (d : Doctype) (es : Entities)
  | expand (text : List Char)
  | done

def feedOutside (es : Entities) (tok : Token) : Except Fault Progress :=
  match tok with
  | .tagEnd => .ok .done
  | .declarationStart => .ok (.on (.declaration []) es)
  | .char '%' => .ok (.on (.parameter []) es)
  | .commentStart => .ok (.on .comment es)
  | .quote | .apostrophe => .ok (.on (.string tok) es)
  | .dataStart | .dataEnd => .error .token
  | _ => .ok (.on .outside es)

def feedParameter (es : Entities) (soFar : List Char) (tok : Token) : Except Fault Progress :=
  match tok with
  | .char c =>
    if isNameChar c then .ok (.on (.parameter (c :: soFar)) es) else .error .reference
  | .referenceEnd =>
    match es.lookup (String.ofList ('%' :: soFar.reverse)) with
    | some text => .ok (.expand text)
    | none => .error .reference
  | _ => .error .reference

def feed (ed : Edition) (es : Entities) (d : Doctype) (tok : Token) : Except Fault Progress :=
  match d with
  | outside => feedOutside es tok
  | string delim => .ok (.on (if tok = delim then .outside else d) es)
  | comment => .ok (.on (if tok = .commentEnd then .outside else d) es)
  | parameter soFar => feedParameter es soFar tok
  | declaration soFar =>
    if tok = .tagEnd then (declare ed es soFar.reverse).map (.on .outside)
    else .ok (.on (.declaration (tok :: soFar)) es)

end Doctype

end BuildHarvest.Markup
