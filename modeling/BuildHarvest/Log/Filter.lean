/-
  BuildHarvest.Log.Filter — which notices a reader asks for.

  A filter is written as directives with commas between them: a level for all topics, or a
  topic and the level up to which it is told. A topic covers all topics that begin with it.
  Of the directives that cover a notice the most particular one decides, and of equals the
  last. What cannot be read is passed over; a filter without directives is a level for all.
-/

import BuildHarvest.Log
import BuildHarvest.Text.Blank
import BuildHarvest.Text.Split
import BuildHarvest.Text.Utf8
import BuildHarvest.Unicode.Letters

namespace BuildHarvest

/-- How far notices are told. -/
inductive Threshold where
  | nothing
  /-- Errors only, and no notice is one. -/
  | errors
  | upTo (level : Level)
  deriving DecidableEq, Repr

namespace Threshold

def admits : Threshold → Level → Bool
  | .upTo most, level => level.rank ≤ most.rank
  | _, _ => false

def ranked : List Threshold :=
  [.nothing, .errors, .upTo .warn, .upTo .info, .upTo .debug, .upTo .trace]

/-- A level as its rank. -/
def ofRank? (cs : List Char) : Option Threshold :=
  let digits := if cs.head? = some '+' then cs.drop 1 else cs
  if digits = [] then none else (digitsValue? 10 decimalDigit? digits).bind (ranked[·]?)

/-- A level as its name, in any case. -/
def ofName? (cs : List Char) : Option Threshold :=
  match String.ofList (cs.map Char.toLower) with
  | "off" => some .nothing
  | "error" => some .errors
  | "warn" => some (.upTo .warn)
  | "info" => some (.upTo .info)
  | "debug" => some (.upTo .debug)
  | "trace" => some (.upTo .trace)
  | _ => none

def ofText? (cs : List Char) : Option Threshold := (ofRank? cs).or (ofName? cs)

end Threshold

/-- What a directive is about. -/
inductive Scope where
  /-- Notices whose topic begins as told and that have the field told. -/
  | notices (topic field : Option (List Char))
  /-- What this program never tells. -/
  | elsewhere
  deriving DecidableEq, Repr

structure Directive where
  scope : Scope
  threshold : Threshold
  deriving DecidableEq, Repr

namespace Directive

/-- The level behind an equals sign; without one, all is told. -/
def leveled? (scope : Scope) : List Char → Option Directive
  | [] => some ⟨scope, .upTo .trace⟩
  | ['='] => some ⟨scope, .upTo .trace⟩
  | '=' :: level => (Threshold.ofText? level).map (⟨scope, ·⟩)
  | _ => none

/-- Behind an opening bracket: a name, which no notice answers to, or a field in braces. -/
def bracketed? (topic : Option (List Char)) (cs : List Char) : Option Directive :=
  let isEnd (c : Char) : Bool := c == ']' || c == '\x7b'
  let name := cs.takeWhile (!isEnd ·)
  match cs.dropWhile (!isEnd ·) with
  | ']' :: rest => leveled? .elsewhere rest
  | '\x7b' :: body =>
    let field := body.takeWhile (· != '\x7d')
    match body.dropWhile (· != '\x7d') with
    | '\x7d' :: ']' :: rest =>
      if field = [] then none
      else if name = [] ∧ '=' ∉ field then leveled? (.notices topic (some field)) rest
      else leveled? .elsewhere rest
    | _ => none
  | _ => none

def isTopicStart (c : Char) : Bool :=
  c == '-' || c == ':' || c == '_' || c.isDigit || Unicode.isLetter c

/-- A word alone is a level where it can be one, and else a topic. -/
def word (cs : List Char) : Directive :=
  match Threshold.ofText? cs with
  | some t => ⟨.notices none none, t⟩
  | none => ⟨.notices (some cs) none, .upTo .trace⟩

def bare? : List Char → Option Directive
  | [] => none
  | '[' :: rest => bracketed? none rest
  | c :: cs =>
    if isTopicStart c then
      let isEnd (c : Char) : Bool := c == '=' || c == '['
      let topic := (c :: cs).takeWhile (!isEnd ·)
      match (c :: cs).dropWhile (!isEnd ·) with
      | [] => some (word topic)
      | '[' :: rest => bracketed? (some topic) rest
      | rest => leveled? (.notices (some topic) none) rest
    else none

/-- Blanks around a directive belong to it: no topic holds them, and no level. -/
def parse? (cs : List Char) : Option Directive :=
  let body := trim cs
  if body = cs then bare? cs
  else if '=' ∈ body then none
  else (bare? body).map fun d => ⟨.elsewhere, d.threshold⟩

def covers (d : Directive) (n : Notice) : Bool :=
  match d.scope with
  | .elsewhere => false
  | .notices topic field =>
    topic.all (·.isPrefixOf n.topic.toList)
      && field.all fun f => ("message" :: n.fields.map (·.1)).any (·.toList = f)

/-- How particular a directive is: a longer topic before a field, and the names last. -/
def weight (d : Directive) : Nat × Nat × List Char :=
  match d.scope with
  | .elsewhere => (0, 0, [])
  | .notices topic field => (topic.elim 0 (·.length + 1), field.elim 0 fun _ => 1, field.getD [])

def isAtMost (d e : Directive) : Bool :=
  let a := d.weight
  let b := e.weight
  a.1 < b.1 || (a.1 == b.1 && (a.2.1 < b.2.1 || (a.2.1 == b.2.1 && !decide (b.2.2 < a.2.2))))

end Directive

/-- The directives of a filter, in the order in which they were given. -/
abbrev Filter := List Directive

namespace Filter

def ofLevel (level : Level) : Filter := [⟨.notices none none, .upTo level⟩]

def parse (s : String) : Filter := (splitOn ',' s.toList).filterMap Directive.parse?

/-- The filter that a text writes, or a level for all where it writes none. -/
def ofText (fallback : Level) (s : String) : Filter :=
  let f := parse s
  if f.isEmpty then ofLevel fallback else f

/-- The directive that decides on a notice. -/
def deciding? (f : Filter) (n : Notice) : Option Directive :=
  (f.filter (·.covers n)).foldl (fun best d =>
    match best with
    | some b => if b.isAtMost d then some d else some b
    | none => some d) none

def admits (f : Filter) (n : Notice) : Bool :=
  (f.deciding? n).any (·.threshold.admits n.level)

end Filter

end BuildHarvest
