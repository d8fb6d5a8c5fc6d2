/-
  BuildHarvest.Settings.Setting — settings of several sources laid over one another.

  A setting is a value that may know where it was written. `assign` lays one over another: a
  table is laid over a table entry by entry, and anything else takes the other's place. A table
  that comes about by laying has no origin.
-/

import BuildHarvest.Settings.Value

namespace BuildHarvest.Settings

/-- Where a setting was written. -/
inductive Origin where
  | file (name : String)
  | environment
  deriving DecidableEq, Repr

def Origin.text : Origin → String
  | file name => name
  | environment => "the environment"

inductive Setting where
  | scalar (origin : Option Origin) (s : Scalar)
  | list (origin : Option Origin) (items : List Setting)
  | table (origin : Option Origin) (entries : List (String × Setting))

/-- Settings by name; each name is there once. -/
abbrev Entries := List (String × Setting)

namespace Setting

def origin : Setting → Option Origin
  | scalar o _ | list o _ | table o _ => o

/-- A setting that holds nothing. -/
def nil : Setting := .scalar none .null

def text (s : String) : Setting := .scalar none (.text s)

end Setting

namespace Entries

def get? (es : Entries) (name : String) : Option Setting := es.lookup name

/-- Changes what a name holds. A new name comes last. -/
def alter (name : String) (f : Option Setting → Setting) : Entries → Entries
  | [] => [(name, f none)]
  | (k, s) :: rest =>
    if k = name then (k, f (some s)) :: rest else (k, s) :: alter name f rest

theorem get?_alter (es : Entries) (name other : String) (f : Option Setting → Setting) :
    get? (alter name f es) other
      = if other = name then some (f (get? es name)) else get? es other := by
  induction es with
  | nil =>
    by_cases h : other = name
    · simp [alter, get?, h]
    · have : (other == name) = false := by simpa using h
      simp [alter, get?, List.lookup_cons, h, this]
  | cons e es ih =>
    obtain ⟨k, s⟩ := e
    simp only [get?] at ih
    by_cases hk : k = name
    · subst hk
      by_cases h : other = k
      · simp [alter, get?, h]
      · have : (other == k) = false := by simpa using h
        simp [alter, get?, List.lookup_cons, h, this]
    · have hn : (name == k) = false := by simpa using Ne.symm hk
      by_cases h : other = k
      · subst h
        simp [alter, get?, hk]
      · have : (other == k) = false := by simpa using h
        simp [alter, get?, hk, List.lookup_cons, this, hn, ih]

end Entries

/-! ## Laying one setting over another -/

mutual

def assign : Setting → Setting → Setting
  | .table _ entries, .table o es => .table o (assignAll entries es)
  | .table _ entries, _ => .table none (assignAll entries [])
  | .scalar o s, _ => .scalar o s
  | .list o items, _ => .list o items

def assignAll : List (String × Setting) → Entries → Entries
  | [], es => es
  | (name, s) :: rest, es =>
    assignAll rest (es.alter name fun old => assign s (old.getD .nil))

end

/-! ## Settings of one source -/

mutual

def Setting.ofValue (o : Origin) : Value → Setting
  | .scalar s => .scalar (some o) s
  | .list items => .list (some o) (listOf o items)
  | .table entries => .table (some o) (entriesOf o entries [])

def listOf (o : Origin) : List Value → List Setting
  | [] => []
  | v :: rest => Setting.ofValue o v :: listOf o rest

/-- Of two entries of one name the later one counts. -/
def entriesOf (o : Origin) : List (String × Value) → Entries → Entries
  | [], es => es
  | (name, v) :: rest, es => entriesOf o rest (es.alter name fun _ => Setting.ofValue o v)

end

end BuildHarvest.Settings
