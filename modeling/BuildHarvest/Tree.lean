/-
  BuildHarvest.Tree — files, links and directories by location.

  A location is the list of names from the root down. The root is always a directory; `get?` is
  the view of a tree, and each operation is told by one equation on it. How much a file can hold
  may be limited by its location, and no operation changes that.
-/

import BuildHarvest.Path

namespace BuildHarvest

abbrev Loc := List Bytes

inductive Entry where
  | file (contents : Bytes)
  | link (target : Path)
  | dir
  deriving DecidableEq, Repr

structure Tree where
  entries : List (Loc × Entry)
  /-- How many octets a file can hold, where they are limited. -/
  rooms : List (Loc × Nat)
  deriving DecidableEq, Repr

namespace Tree

def empty : Tree := ⟨[], []⟩

def get? (t : Tree) (l : Loc) : Option Entry := if l = [] then some .dir else t.entries.lookup l

/-- How many octets a file at a location can hold, if they are limited. -/
def room? (t : Tree) (l : Loc) : Option Nat := t.rooms.lookup l

/-- The entries whose locations pass a test. -/
def keep (t : Tree) (p : Loc → Bool) : Tree := { t with entries := t.entries.filter fun e => p e.1 }

def put (t : Tree) (l : Loc) (e : Entry) : Tree :=
  { t with entries := (l, e) :: (t.keep (· ≠ l)).entries }

def remove (t : Tree) (l : Loc) : Tree := t.keep (· ≠ l)

/-- Strictly under a directory. -/
def isUnder (d l : Loc) : Bool := d.isPrefixOf l && d != l

/-- Without anything under a directory. -/
def clear (t : Tree) (d : Loc) : Tree := t.keep (!isUnder d ·)

/-- Nothing lies under a directory. -/
def isBare (t : Tree) (d : Loc) : Bool := t.entries.all fun e => !isUnder d e.1

theorem lookup_filter (es : List (Loc × Entry)) (p : Loc → Bool) (l : Loc) :
    (es.filter fun e => p e.1).lookup l = if p l then es.lookup l else none := by
  induction es with
  | nil => simp
  | cons e es ih =>
    obtain ⟨k, x⟩ := e
    by_cases hl : l = k
    · subst hl
      by_cases hp : p l <;> simp [hp, ih]
    · have hb : (l == k) = false := by simpa using hl
      by_cases hp : p k <;> simp [hp, List.lookup_cons, hb, ih]

@[simp]
theorem get?_root (t : Tree) : t.get? [] = some .dir := by simp [get?]

theorem get?_keep (t : Tree) (p : Loc → Bool) {l : Loc} (h : l ≠ []) :
    (t.keep p).get? l = if p l then t.get? l else none := by
  simp [get?, keep, h, lookup_filter]

theorem get?_put (t : Tree) (e : Entry) {k : Loc} (l : Loc) (h : k ≠ []) :
    (t.put k e).get? l = if l = k then some e else t.get? l := by
  by_cases hl : l = []
  · subst hl
    simp [get?, Ne.symm h]
  · by_cases hk : l = k
    · subst hk
      simp [get?, put, hl]
    · have : (l == k) = false := by simpa using hk
      have key := lookup_filter t.entries (fun x => decide (x ≠ k)) l
      simp only [hk, ne_eq, not_false_eq_true, decide_true, if_true] at key
      simp only [get?, put, hl, hk, List.lookup_cons, this, keep, if_false]
      exact key

theorem get?_remove (t : Tree) {k : Loc} (l : Loc) (h : l ≠ []) :
    (t.remove k).get? l = if l = k then none else t.get? l := by
  rw [remove, get?_keep t _ h]
  by_cases hk : l = k <;> simp [hk]

theorem get?_clear (t : Tree) (d : Loc) {l : Loc} (h : l ≠ []) :
    (t.clear d).get? l = if isUnder d l then none else t.get? l := by
  rw [clear, get?_keep t _ h]
  cases isUnder d l <;> simp

/-- Every entry's directory is one. -/
def Rooted (t : Tree) : Prop :=
  ∀ l n, (t.get? (l ++ [n])).isSome → t.get? l = some .dir

/-- No entry is a link. -/
def LinkFree (t : Tree) : Prop := ∀ l p, t.get? l ≠ some (.link p)

end Tree

end BuildHarvest
