/-
  BuildHarvest.Url.Parse — reading locators.

  `Url.parse` reads a whole locator; `Url.resolve` one that may be relative to another. Blanks
  and controls around the text are dropped, tabs and line ends everywhere. Dot segments are
  resolved while the path is read, and a segment that is a drive letter is never left.
-/

import BuildHarvest.Url.Host

namespace BuildHarvest.Url

/-! ## Paths -/

def isAlpha (c : Char) : Bool := ('a' ≤ c && c ≤ 'z') || ('A' ≤ c && c ≤ 'Z')

/-- A letter and a colon or bar. -/
def isDrive : List Char → Bool
  | [a, b] => isAlpha a && (b == ':' || b == '|')
  | _ => false

/-- One dot, plain or escaped: what is left of the text behind it. -/
def afterDot : List Char → Option (List Char)
  | '.' :: rest => some rest
  | '%' :: '2' :: 'e' :: rest | '%' :: '2' :: 'E' :: rest => some rest
  | _ => none

def isDot (segment : List Char) : Bool := afterDot segment == some []

def isDotDot (segment : List Char) : Bool :=
  match afterDot segment with
  | some rest => isDot rest
  | none => false

/-- The path without its last segment. -/
def climb (ss : List String) : List String :=
  match ss.getLast? with
  | some last => if isDrive last.toList then ss else ss.dropLast
  | none => []

/-- Puts one segment, already escaped, behind a path. A dot segment at the end leaves an empty
one. -/
def descend (ss : List String) (segment : List Char) (isLast : Bool) : List String :=
  if isDotDot segment then climb ss ++ (if isLast then [""] else [])
  else if isDot segment then ss ++ (if isLast then [""] else [])
  else ss ++ [String.ofList segment]

def descendAll (ss : List String) : List (List Char) → List String
  | [] => ss
  | [segment] => descend ss segment true
  | segment :: rest => descendAll (descend ss segment false) rest

def isSlash (kind : SchemeKind) (c : Char) : Bool := c == '/' || (kind.isSpecial && c == '\\')

/-- Backslashes separate the segments of special schemes too. -/
def rawSegments (kind : SchemeKind) (cs : List Char) : List (List Char) :=
  splitOn '/' (cs.map fun c => if isSlash kind c then '/' else c)

/-- A file's path has no empty segments in front. -/
def settleFile (kind : SchemeKind) (ss : List String) : List String :=
  match kind with
  | .file =>
    match ss.dropWhile (· == "") with
    | [] => [""]
    | rest => rest
  | _ => ss

/-- The path that a text behind its opening slash continues from `start`. -/
def segmentsFrom (kind : SchemeKind) (start : List String) (cs : List Char) : List String :=
  settleFile kind (descendAll start ((rawSegments kind cs).map (escape pathSet)))

/-- A path behind an authority: special schemes have one even where nothing is written. -/
def authorityPath (kind : SchemeKind) (cs : List Char) : List String :=
  match cs with
  | [] => if kind.isSpecial then [""] else []
  | c :: rest => if isSlash kind c then segmentsFrom kind [] rest else segmentsFrom kind [] cs

/-! ## Query and fragment -/

/-- The text before the first character of a kind, and from it on. -/
def cut (p : Char → Bool) (cs : List Char) : List Char × List Char :=
  (cs.takeWhile (!p ·), cs.dropWhile (!p ·))

def isTail (c : Char) : Bool := c == '?' || c == '#'

def queryText (kind : SchemeKind) (cs : List Char) : String :=
  String.ofList (escape (if kind.isSpecial then specialQuerySet else querySet) cs)

def fragmentText (cs : List Char) : String := String.ofList (escape fragmentSet cs)

/-- Query and fragment of what stands behind a path. -/
def tail (kind : SchemeKind) : List Char → Option String × Option String
  | '?' :: rest =>
    let (q, f) := cut (· == '#') rest
    (some (queryText kind q), if f.isEmpty then none else some (fragmentText f.tail))
  | '#' :: rest => (none, some (fragmentText rest))
  | _ => (none, none)

/-! ## Authority -/

structure Authority where
  username : String
  password : Option String
  host : Option Host
  port : Option Nat
  deriving DecidableEq, Repr

/-- What stands before and after the last `@`. -/
def cutUserinfo (cs : List Char) : Option (List Char × List Char) :=
  if cs.contains '@' then
    let after := (cs.reverse.takeWhile (· ≠ '@')).reverse
    some (cs.take (cs.length - after.length - 1), after)
  else none

/-- Name and password; an empty password is none. -/
def credentials (cs : List Char) : String × Option String :=
  let (name, rest) := cut (· == ':') cs
  (String.ofList (escape userinfoSet name),
    match rest.tail with
    | [] => none
    | p => some (String.ofList (escape userinfoSet p)))

/-- The host up to a colon outside brackets, and from the colon on. -/
def cutPort (inside : Bool) : List Char → List Char × List Char
  | [] => ([], [])
  | ':' :: rest =>
    if inside then
      let (h, p) := cutPort inside rest
      (':' :: h, p)
    else ([], ':' :: rest)
  | c :: rest =>
    let (h, p) := cutPort (if c == '[' then true else if c == ']' then false else inside) rest
    (c :: h, p)

/-- The port that digits write, none where there are none or it is the scheme's own, and what
stands behind. -/
def portOf (scheme : String) (cs : List Char) : Except Fault (Option Nat × List Char) :=
  let (digits, rest) := cut (fun c => !c.isDigit) cs
  let value := (digitsValue? 10 decimalDigit? digits).getD 0
  if 65535 < value then .error .port
  else
    match rest with
    | [] => .ok (if digits.isEmpty ∨ some value = defaultPort? scheme then none else some value, [])
    | '\\' :: _ =>
      .ok (if digits.isEmpty ∨ some value = defaultPort? scheme then none else some value, rest)
    | _ => .error .port

/-- The authority of a text without slashes, and what stands behind its port. `followed` says
that a path, query or fragment comes after the text. -/
def authorityOf (scheme : String) (kind : SchemeKind) (cs : List Char) (followed : Bool) :
    Except Fault (Authority × List Char) := do
  let (info, place) := (cutUserinfo cs).getD ([], cs)
  if (cutUserinfo cs).isSome && info.isEmpty && place.isEmpty && followed then
    throw .emptyHost
  let (name, pass) := credentials info
  let (hostText, portText) := cutPort false place
  if kind.isSpecial && hostText.isEmpty then throw .emptyHost
  let host ← if kind.isSpecial then Host.ofDomain hostText else Host.ofVerbatim hostText
  if host = .empty ∧ (!portText.isEmpty ∨ name ≠ "" ∨ pass.isSome) then throw .emptyHost
  let (port, rest) ← portOf scheme portText.tail
  return (⟨name, pass, some host, port⟩, rest)

/-! ## Whole locators -/

def isSchemeChar (c : Char) : Bool :=
  isAlpha c || c.isDigit || c == '+' || c == '-' || c == '.'

/-- The scheme in small letters and what stands behind its colon. -/
def cutScheme (cs : List Char) : Option (String × List Char) :=
  match cut (· == ':') cs with
  | (c :: name, ':' :: rest) =>
    if isAlpha c && name.all isSchemeChar then
      some (String.ofList ((c :: name).map Char.toLower), rest)
    else none
  | _ => none

/-- A locator whose authority begins here. -/
def afterSlashes (scheme : String) (kind : SchemeKind) (cs : List Char) : Except Fault Url := do
  let (before, rest) := cut (fun c => isSlash kind c || isTail c) cs
  let (a, extra) ← authorityOf scheme kind before (!rest.isEmpty)
  let (path, after) := cut isTail (extra ++ rest)
  let (query, fragment) := tail kind after
  return ⟨scheme, a.username, a.password, a.host, a.port, .segments (authorityPath kind path),
    query, fragment⟩

/-- The host of a file and what stands behind it. A drive letter is no host, and neither is
the name of this machine. -/
def fileHost (cs : List Char) : Except Fault (Host × List Char) := do
  let (name, rest) := cut (fun c => isSlash .file c || isTail c) cs
  if isDrive name then return (.empty, '/' :: cs)
  else if name.isEmpty then return (.empty, rest)
  else
    match ← Host.ofDomain name with
    | .domain "localhost" => return (.empty, rest)
    | host => return (host, rest)

def fileAt (host : Host) (cs : List Char) : Url :=
  let (path, after) := cut isTail cs
  let (query, fragment) := tail .file after
  ⟨"file", "", none, some host, none, .segments (authorityPath .file path), query, fragment⟩

def ofFile (cs : List Char) : Except Fault Url :=
  match cs with
  | c :: d :: rest =>
    if isSlash .file c && isSlash .file d then do
      let (host, rest) ← fileHost rest
      return fileAt host rest
    else .ok (fileAt .empty cs)
  | _ => .ok (fileAt .empty cs)

/-- A locator of another scheme, with an authority, a rooted path or bare text. -/
def ofOther (scheme : String) (cs : List Char) : Except Fault Url :=
  match cs with
  | '/' :: '/' :: rest => afterSlashes scheme .other rest
  | _ =>
    let (path, after) := cut isTail cs
    let (query, fragment) := tail .other after
    let route : Route :=
      match path with
      | '/' :: rest => .segments (segmentsFrom .other [] rest)
      | _ => .bare (String.ofList (escape controlSet path))
    .ok ⟨scheme, "", none, none, none, route, query, fragment⟩

def ofScheme (scheme : String) (cs : List Char) : Except Fault Url :=
  match schemeKind scheme with
  | .file => ofFile cs
  | .special => afterSlashes scheme .special (cs.dropWhile (isSlash .special))
  | .other => ofOther scheme cs

def isOuter (c : Char) : Bool := c.toNat ≤ 0x20

def isDropped (c : Char) : Bool := c == '\t' || c == '\n' || c == '\r'

/-- The text without what does not count. -/
def trimmed (s : String) : List Char :=
  (((s.toList.dropWhile isOuter).reverse.dropWhile isOuter).reverse).filter (!isDropped ·)

def parse (s : String) : Except Fault Url :=
  match cutScheme (trimmed s) with
  | some (scheme, rest) => ofScheme scheme rest
  | none => .error .relative

/-! ## Relative references -/

/-- A reference without a scheme, beside a locator that has a path of segments. -/
def beside (base : Url) (ss : List String) (cs : List Char) : Except Fault Url :=
  let kind := schemeKind base.scheme
  match cs with
  | [] => .ok { base with fragment := none }
  | '#' :: rest => .ok { base with fragment := some (fragmentText rest) }
  | '?' :: _ =>
    let (query, fragment) := tail kind cs
    .ok { base with query := query, fragment := fragment }
  | c :: rest =>
    if isSlash kind c then
      match rest with
      | d :: rest' =>
        if isSlash kind d then
          match kind with
          | .file => ofFile cs
          | .special => afterSlashes base.scheme kind (rest'.dropWhile (isSlash kind))
          | .other => afterSlashes base.scheme kind rest'
        else .ok (rooted kind rest)
      | [] => .ok (rooted kind rest)
    else
      let (path, after) := cut isTail cs
      let (query, fragment) := tail kind after
      .ok { base with
        route := .segments (segmentsFrom kind ss.dropLast path), query, fragment }
where
  rooted (kind : SchemeKind) (rest : List Char) : Url :=
    let (path, after) := cut isTail rest
    let (query, fragment) := tail kind after
    { base with route := .segments (segmentsFrom kind [] path), query, fragment }

/-- What a reference means at a locator. A special scheme's reference may name the scheme and
go on without slashes. -/
def resolve (base : Url) (s : String) : Except Fault Url :=
  let cs := trimmed s
  match cutScheme cs, base.route with
  | some (scheme, rest), .segments ss =>
    if scheme = base.scheme ∧ schemeKind scheme = .special ∧
        (rest.takeWhile (isSlash .special)).length < 2 then
      beside base ss rest
    else ofScheme scheme rest
  | some (scheme, rest), .bare _ => ofScheme scheme rest
  | none, .segments ss => beside base ss cs
  | none, .bare _ =>
    match cs with
    | '#' :: rest => .ok { base with fragment := some (fragmentText rest) }
    | _ => .error .relative

end BuildHarvest.Url
