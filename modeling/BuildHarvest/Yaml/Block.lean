/-
  BuildHarvest.Yaml.Block — scalars of whole lines.

  A literal scalar keeps its line ends, and a folded one reads a single line end between two
  lines that begin with no blank as a blank. The header says how far the lines are indented,
  unless the first of them shows it, and what becomes of the line ends at the end.
-/

import BuildHarvest.Yaml.Cursor

namespace BuildHarvest.Yaml

/-- What becomes of the line ends behind the last line. -/
inductive Chomping where
  /-- The first one stays. -/
  | clip
  | strip
  | keep
  deriving DecidableEq, Repr

namespace Block

structure Header where
  chomping : Chomping
  /-- How much deeper than what is around it; zero where the first line shows it. -/
  increment : Nat
  deriving DecidableEq, Repr

def chomping? (c : Char) : Option Chomping :=
  if c = '+' then some .keep else if c = '-' then some .strip else none

/-- One digit but zero, if there is one. -/
def increment (c : Cursor) : Option (Nat × Cursor) :=
  if c.char.isDigit then
    if c.char = '0' then none else some (c.char.toNat - 48, c.skip 1)
  else some (0, c)

def header (c : Cursor) : Option (Header × Cursor) :=
  match chomping? c.char with
  | some chomping => (increment (c.skip 1)).map fun (n, c) => (⟨chomping, n⟩, c)
  | none =>
    (increment c).map fun (n, d) =>
      match if n = 0 then none else chomping? d.char with
      | some chomping => (⟨chomping, n⟩, d.skip 1)
      | none => (⟨.clip, n⟩, d)

/-- Past the indentation and empty lines; how many of those there were. -/
def skipIndent (indent : Nat) : Nat → Nat → Cursor → Nat × Cursor
  | 0, breaks, c => (breaks, c)
  | fuel + 1, breaks, c =>
    let spaces := (c.span (· == ' ')).length
    let c := c.skipBlanks (min spaces (indent - c.col))
    if isBreak c.char then skipIndent indent fuel (breaks + 1) c.skipBreak else (breaks, c)

/-- Past the blanks and empty lines before the first line; how many lines, and the widest
indentation. -/
def skipFirst : Nat → Nat → Nat → Cursor → Nat × Nat × Cursor
  | 0, breaks, widest, c => (breaks, widest, c)
  | fuel + 1, breaks, widest, c =>
    let c := c.skipBlanks (c.span (· == ' ')).length
    let widest := max widest c.col
    if isBreak c.char then skipFirst fuel (breaks + 1) widest c.skipBreak
    else (breaks, widest, c)

/-- The lines read so far, characters last first, and what stands between them and the next. -/
structure Lines where
  chars : List Char
  /-- The last line had an end. -/
  broken : Bool
  /-- Empty lines behind it. -/
  breaks : Nat
  /-- It began with a blank. -/
  blank : Bool

/-- What joins the next line. -/
def Lines.join (s : Lines) (literal nextBlank : Bool) : List Char :=
  let empty := List.replicate s.breaks '\n'
  if !literal && s.broken && !s.blank && !nextBlank then
    if s.breaks = 0 then [' '] else empty
  else (if s.broken then ['\n'] else []) ++ empty

def lines (literal : Bool) (indent : Nat) : Nat → Lines → Cursor → Lines × Cursor
  | 0, s, c => (s, c)
  | fuel + 1, s, c =>
    if c.col ≠ indent ∨ isEnd c.char ∨ (indent = 0 ∧ c.atDocumentEnd) then (s, c)
    else
      let blank := isBlank c.char
      let content := c.span (!isBreakOrEnd ·)
      let chars := content.reverse ++ s.join literal blank ++ s.chars
      let d := c.skip content.length
      if isEnd d.char then (⟨chars, false, 0, blank⟩, d)
      else
        let (breaks, d) := skipIndent indent (d.rest.length + 1) 0 d.skipBreak
        lines literal indent fuel ⟨chars, true, breaks, blank⟩ d

/-- The text with the line ends that its header leaves. -/
def Lines.text (s : Lines) (chomping : Chomping) (endsOpen : Bool) : List Char :=
  let first := (if s.broken then ['\n'] else []) ++ if endsOpen then ['\n'] else []
  match chomping with
  | .strip => s.chars.reverse
  | .clip => s.chars.reverse ++ first
  | .keep => s.chars.reverse ++ first ++ List.replicate s.breaks '\n'

/-- The text of a scalar that has no lines. -/
def emptyText (chomping : Chomping) (hasLine : Bool) (breaks : Nat) : List Char :=
  match chomping with
  | .strip => []
  | .clip => if hasLine then ['\n'] else []
  | .keep => if !hasLine then [] else if breaks = 0 then ['\n'] else List.replicate breaks '\n'

end Block

/-- The text of a scalar whose sign is at the cursor, inside what is indented by `outer`. -/
def block (literal : Bool) (outer : Int) (c : Cursor) : Option (String × Cursor) :=
  (Block.header (c.skip 1)).bind fun (h, d) =>
    (d.skipLine true).bind fun d =>
      let hasLine := isBreak d.char
      let d := d.skipBreak
      if (!hasLine && !isEnd d.char) || d.char == '\t' then none
      else
        let fuel := d.rest.length + 1
        let (breaks, indent, d) :=
          if h.increment = 0 then
            let (breaks, widest, d) := Block.skipFirst fuel 0 0 d
            (breaks, max widest (outer + 1).toNat, d)
          else
            let indent := outer.toNat + h.increment
            let (breaks, d) := Block.skipIndent indent fuel 0 d
            (breaks, indent, d)
        if isEnd d.char then
          let broken := hasLine && d.line != c.line
          some (String.ofList (Block.emptyText h.chomping broken breaks), d)
        else if d.col < indent ∧ outer < (d.col : Int) then none
        else
          let (s, d) := Block.lines literal indent fuel ⟨[], false, breaks, false⟩ d
          let endsOpen := isEnd d.char && max indent 1 ≤ d.col
          some (String.ofList (s.text h.chomping endsOpen), d)

end BuildHarvest.Yaml
