/-
  BuildHarvest.CommandLine.Reader — the arguments of a call and what they ask for.

  Arguments are taken one after the other. A switch that takes a value keeps it back until the
  next switch or the end, and only then is the value looked at; so what is wrong with the
  value gives way to an argument behind it that is no switch at all.
-/

import BuildHarvest.CommandLine.Switch
import BuildHarvest.Log
import BuildHarvest.Options
import BuildHarvest.Text.Split

namespace BuildHarvest

/-- How much a run tells that was asked so often to tell more. -/
def Level.ofVerbosity : Nat → Level
  | 0 => .info
  | 1 => .debug
  | _ => .trace

namespace CommandLine

/-- An argument that makes no sense where it stands. -/
inductive Misuse where
  | unexpected (argument : String)
  | missingValue (slot : Slot)
  | repeated (switch : Switch)
  | excessValue (flag : Flag) (value : String)
  | notText
  deriving DecidableEq, Repr

def Misuse.message : Misuse → String
  | unexpected argument => "error: unexpected argument '" ++ argument ++ "' found"
  | missingValue slot =>
    "error: a value is required for '" ++ (Switch.slot slot).text ++ "' but none was supplied"
  | repeated s => "error: the argument '" ++ s.text ++ "' cannot be used multiple times"
  | excessValue flag value =>
    "error: unexpected value '" ++ value ++ "' for '" ++ (Switch.flag flag).text
      ++ "' found; no more were expected"
  | notText => "error: invalid UTF-8 was detected in one or more arguments"

/-- Why reading ends without a run. -/
inductive Stop where
  | help
  | version
  | misuse (m : Misuse)
  deriving DecidableEq, Repr

/-- What is asked of a run, and how much it tells. -/
structure Call where
  options : Options
  level : Level
  deriving DecidableEq, Repr

/-! ## Single arguments -/

def dash : UInt8 := 0x2D

def equals : UInt8 := 0x3D

def comma : UInt8 := 0x2C

/-- What an argument looks like. -/
inductive Shape where
  /-- Two dashes alone: no switches follow. -/
  | divider
  | long (name : Bytes) (value : Option Bytes)
  /-- One dash and letters, each a switch. -/
  | short (letters : Bytes)
  | plain
  deriving DecidableEq, Repr

/-- A long switch ends at the first equals sign, and its value begins behind that. -/
def Shape.ofLong (body : Bytes) : Shape :=
  let value? : Option Bytes :=
    match body.dropWhile (· != equals) with
    | [] => none
    | _ :: value => some value
  .long (body.takeWhile (· != equals)) value?

def Shape.of (argument : Bytes) : Shape :=
  match argument with
  | [] => .plain
  | a :: rest =>
    if a = dash then
      match rest with
      | [] => .plain
      | b :: body =>
        if b = dash then if body = [] then .divider else .ofLong body else .short (b :: body)
    else .plain

theorem Shape.ofLong_bare {name : Bytes} (h : equals ∉ name) :
    Shape.ofLong name = .long name none := by
  have hn : ∀ b ∈ name, (b != equals) = true := fun b hb => by
    simpa using fun e : b = equals => h (e ▸ hb)
  have ht : name.takeWhile (· != equals) = name := by
    have := @List.takeWhile_append_of_pos _ _ name [] hn
    simpa using this
  have hd : name.dropWhile (· != equals) = [] := by
    have := @List.dropWhile_append_of_pos _ _ name [] hn
    simpa using this
  simp [ofLong, ht, hd]

theorem Shape.ofLong_attached {name : Bytes} (value : Bytes) (h : equals ∉ name) :
    Shape.ofLong (name ++ equals :: value) = .long name (some value) := by
  have hn : ∀ b ∈ name, (b != equals) = true := fun b hb => by
    simpa using fun e : b = equals => h (e ▸ hb)
  simp [ofLong, List.takeWhile_append_of_pos hn, List.dropWhile_append_of_pos hn]

/-! ## What has been given so far -/

structure Given where
  options : Options
  verbosity : Nat
  /-- The switch that still keeps its value back, or waits for it. -/
  pending : Option (Slot × Option Bytes)
  /-- Behind the divider nothing is a switch. -/
  divided : Bool
  deriving DecidableEq, Repr

def misuse {α : Type} (m : Misuse) : Except Stop α := .error (.misuse m)

def readText (value : Bytes) : Except Stop String :=
  match Utf8.decode? value with
  | some s => .ok s
  | none => misuse .notText

/-- A value for a slot that holds one at most. -/
def only (slot : Slot) (held : Option String) (value : Bytes) : Except Stop (Option String) :=
  if held.isSome then misuse (.repeated (.slot slot)) else (readText value).map some

/-- Artifacts add up, and commas stand between them. -/
def more (held : List String) (value : Bytes) : Except Stop (List String) :=
  ((splitOn comma value).mapM readText).map (held ++ ·)

def filled (o : Options) (slot : Slot) (value : Bytes) : Except Stop Options :=
  match slot with
  | .config => (only slot o.config value).map fun v => { o with config := v }
  | .workspace => (only slot o.workspace value).map fun v => { o with workspace := v }
  | .feedUrl => (only slot o.feedUrl value).map fun v => { o with feedUrl := v }
  | .artifactSubpath =>
    (only slot o.artifactSubpath value).map fun v => { o with artifactSubpath := v }
  | .artifact => (more o.artifacts value).map fun names => { o with artifacts := names }
  | .report => (only slot o.report value).map fun v => { o with report := v }

namespace Given

def start : Given := ⟨.empty, 0, none, false⟩

def fill (g : Given) (slot : Slot) (value : Bytes) : Except Stop Given :=
  (filled g.options slot value).map fun o => { g with options := o }

/-- Nothing is kept back any more. -/
def settle (g : Given) : Except Stop Given :=
  match g.pending with
  | none => .ok g
  | some (slot, none) => misuse (.missingValue slot)
  | some (slot, some value) => { g with pending := none }.fill slot value

def raise (g : Given) (flag : Flag) : Except Stop Given :=
  match flag with
  | .verbose => .ok { g with verbosity := g.verbosity + 1 }
  | .bestEffort =>
    if g.options.bestEffort then misuse (.repeated (.flag flag))
    else .ok { g with options := { g.options with bestEffort := true } }
  | .help => .error .help
  | .version => .error .version

def giveFlag (g : Given) (flag : Flag) : Except Stop Given := do (← g.settle).raise flag

/-- A slot with the value that is attached to it, or waiting for the next argument. -/
def giveSlot (g : Given) (slot : Slot) (value : Option Bytes) : Except Stop Given := do
  let g ← g.settle
  match value with
  | some value => g.fill slot value
  | none => return { g with pending := some (slot, none) }

/-! ## Taking arguments -/

def takeLong (g : Given) (name : Bytes) (value : Option Bytes) : Except Stop Given :=
  match Switch.ofLong? name with
  | none => misuse (.unexpected ("--" ++ Utf8.lossy name))
  | some (.slot slot) => g.giveSlot slot value
  | some (.flag flag) =>
    match value with
    | some value => misuse (.excessValue flag (Utf8.lossy value))
    | none => g.giveFlag flag

/-- What stands behind the letter of a slot is its value; an equals sign between them is no part
of it. -/
def attached (rest : Bytes) : Option Bytes :=
  match rest with
  | [] => none
  | b :: value => some (if b = equals then value else rest)

def takeLetters (g : Given) (letters : Bytes) : Except Stop Given :=
  if letters = [] then .ok g
  else
    match h : Utf8.takeFrom .idle letters with
    | none => misuse (.unexpected ("-" ++ Utf8.lossy letters))
    | some (c, rest) =>
      have := Utf8.takeFrom_shorter h
      match Switch.ofShort? c with
      | none => misuse (.unexpected (String.ofList ['-', c]))
      | some (.slot slot) => g.giveSlot slot (attached rest)
      | some (.flag flag) => do (← g.giveFlag flag).takeLetters rest
termination_by letters.length

/-- Only a switch that waits for its value can use an argument that is no switch. -/
def takePlain (g : Given) (argument : Bytes) : Except Stop Given :=
  match g.pending with
  | some (slot, none) => .ok { g with pending := some (slot, some argument) }
  | _ => misuse (.unexpected (Utf8.lossy argument))

def take (g : Given) (argument : Bytes) : Except Stop Given :=
  if g.divided then misuse (.unexpected (Utf8.lossy argument))
  else
    match Shape.of argument with
    | .divider => .ok { g with divided := true }
    | .long name value => g.takeLong name value
    | .short letters => g.takeLetters letters
    | .plain => g.takePlain argument

def call (g : Given) : Call := ⟨g.options, Level.ofVerbosity g.verbosity⟩

end Given

/-- What the arguments of a call ask for. -/
def parse (arguments : List Bytes) : Except Stop Call := do
  let g ← arguments.foldlM Given.take .start
  return (← g.settle).call

end CommandLine

end BuildHarvest
