/-
  BuildHarvest.Path — path names.

  A path is octets; `/` separates its parts. A part that is empty or `.` says nothing, except
  a `.` that opens the path. `components` is the list of what is said, and `join`, `parent`
  and `extension` are the text operations on it. Paths are shown with U+FFFD for octets that
  are no text.
-/

import BuildHarvest.Text.Split
import BuildHarvest.Text.Utf8

namespace BuildHarvest

structure Path where
  octets : Bytes
  deriving DecidableEq, Repr

namespace Path

def separator : UInt8 := 0x2F

def dot : UInt8 := 0x2E

def ofText (s : String) : Path := ⟨Utf8.encode s⟩

/-- The path as messages show it. -/
def text (p : Path) : String := Utf8.lossy p.octets

def isEmpty (p : Path) : Bool := p.octets.isEmpty

def isAbsolute (p : Path) : Bool := p.octets.head? == some separator

/-- What `d` reaches by `p`: an absolute `p` stands alone, and one separator stands between
the two. An empty `p` leaves a separator at the end. -/
def join (d p : Path) : Path :=
  if p.isAbsolute then p
  else if d.isEmpty || d.octets.getLast? == some separator then ⟨d.octets ++ p.octets⟩
  else ⟨d.octets ++ separator :: p.octets⟩

inductive Component where
  | root
  | here
  | up
  | name (octets : Bytes)
  deriving DecidableEq, Repr

def Component.octets : Component → Bytes
  | root => [separator]
  | here => [dot]
  | up => [dot, dot]
  | name n => n

/-- A part that says nothing. -/
def isMute (part : Bytes) : Bool := part.isEmpty || part == [dot]

def Component.ofPart (part : Bytes) : Component :=
  if part = [dot, dot] then .up else .name part

/-- What opens the path, a root or a `.`, and the parts after it. -/
def opening (p : Path) : Bytes × List Bytes :=
  match p.octets with
  | [] => ([], [])
  | b :: rest =>
    if b = separator then ([separator], splitOn separator rest)
    else if b = dot then
      match rest with
      | [] => ([dot], [])
      | c :: _ => if c = separator then ([dot], splitOn separator rest) else ([], splitOn separator (b :: rest))
    else ([], splitOn separator (b :: rest))

def components (p : Path) : List Component :=
  let (head, parts) := p.opening
  let first : List Component :=
    if head = [separator] then [.root] else if head = [dot] then [.here] else []
  first ++ (parts.filter (!isMute ·)).map Component.ofPart

def dropMuteEnd (parts : List Bytes) : List Bytes := (parts.reverse.dropWhile isMute).reverse

/-- The text before the last component, without what stands mute at its end; `none` for a path
that has no component but the root. -/
def parent (p : Path) : Option Path :=
  let (head, parts) := p.opening
  match dropMuteEnd parts with
  | [] => if head = [dot] then some ⟨[]⟩ else none
  | part :: rest => some ⟨head ++ joinWith separator (dropMuteEnd (part :: rest).dropLast)⟩

/-- The last component, when it is a name. -/
def fileName (p : Path) : Option Bytes :=
  match p.components.getLast? with
  | some (.name n) => some n
  | _ => none

/-- What stands before and after the last dot of a name that does not open with it. -/
def splitExtension (name : Bytes) : Bytes × Option Bytes :=
  let after := (name.reverse.takeWhile (· != dot)).reverse
  let before := name.take (name.length - after.length - 1)
  if after.length < name.length ∧ before ≠ [] then (before, some after) else (name, none)

def extension (p : Path) : Option Bytes := p.fileName.bind fun n => (splitExtension n).2

/-! ## A parent is shorter -/

theorem joinWith_append_length (sep : UInt8) (xs ys : List Bytes) :
    (joinWith sep xs).length ≤ (joinWith sep (xs ++ ys)).length := by
  induction xs with
  | nil => simp [joinWith]
  | cons x xs ih =>
    cases xs with
    | nil => cases ys <;> simp [joinWith]
    | cons x' xs => simpa [joinWith] using ih

theorem joinWith_concat_length (sep : UInt8) (xs : List Bytes) {y : Bytes} (h : y ≠ []) :
    (joinWith sep xs).length < (joinWith sep (xs ++ [y])).length := by
  have hy : 0 < y.length := List.length_pos_iff.2 h
  induction xs with
  | nil => simpa [joinWith] using hy
  | cons x xs ih =>
    cases xs with
    | nil => simp only [List.cons_append, List.nil_append, joinWith, List.length_append,
        List.length_cons]; omega
    | cons x' xs => simpa [joinWith] using ih

theorem dropMuteEnd_append (parts : List Bytes) : ∃ rest, parts = dropMuteEnd parts ++ rest := by
  refine ⟨(parts.reverse.takeWhile isMute).reverse, ?_⟩
  rw [dropMuteEnd, ← List.reverse_append, List.takeWhile_append_dropWhile, List.reverse_reverse]

theorem dropMuteEnd_getLast {parts init : List Bytes} {last : Bytes}
    (h : dropMuteEnd parts = init ++ [last]) : last ≠ [] := by
  intro e
  have hr : parts.reverse.dropWhile isMute = last :: init.reverse := by
    have := congrArg List.reverse h
    simpa [dropMuteEnd] using this
  have : isMute last = false := by
    have := List.head?_dropWhile_not isMute parts.reverse
    rw [hr] at this
    simpa using this
  simp [e, isMute] at this

theorem octets_opening (p : Path) :
    p.octets = p.opening.1 ++ joinWith separator p.opening.2 := by
  unfold opening
  split
  · next h => simp [joinWith, h]
  · next b rest h =>
    split
    · next e => rw [h, joinWith_splitOn]; simp [e]
    · split
      · next e =>
        split
        · next hr => simp [h, e, joinWith]
        · split
          · rw [h, joinWith_splitOn]; simp [e]
          · rw [h, joinWith_splitOn]; simp
      · rw [h, joinWith_splitOn]; simp

theorem parent_shorter {p q : Path} (hq : q ≠ ⟨[]⟩) (h : p.parent = some q) :
    q.octets.length < p.octets.length := by
  have ho := octets_opening p
  revert h
  unfold parent
  generalize p.opening = o at ho ⊢
  obtain ⟨head, parts⟩ := o
  simp only at ho ⊢
  obtain ⟨rest, hrest⟩ := dropMuteEnd_append parts
  cases hd : dropMuteEnd parts with
  | nil =>
    intro h
    by_cases e : head = [dot]
    · simp only [e, if_true, Option.some.injEq] at h
      exact absurd h.symm hq
    · simp [e] at h
  | cons part more =>
    intro h
    obtain ⟨init, last, hil⟩ : ∃ init last, part :: more = init ++ [last] :=
      ⟨_, _, (List.dropLast_concat_getLast (List.cons_ne_nil part more)).symm⟩
    have hl := dropMuteEnd_getLast (hd.trans hil)
    have hq' := (Option.some.inj h).symm
    obtain ⟨rest', hrest'⟩ := dropMuteEnd_append init
    have h1 := joinWith_append_length separator (dropMuteEnd init) rest'
    rw [← hrest'] at h1
    have h2 := joinWith_concat_length separator init hl
    have h3 := joinWith_append_length separator (init ++ [last]) rest
    rw [← hil, ← hd, ← hrest] at h3
    rw [hq', ho, hil]
    simp only [List.dropLast_concat, List.length_append]
    rw [← hil, ← hd] at h2
    omega

/-! ## The paths above a path -/

def lineageOf : (rounds : Nat) → Path → List Path
  | 0, _ => []
  | rounds + 1, p =>
    p :: match p.parent with
      | some q => if q.isEmpty then [] else lineageOf rounds q
      | none => []

/-- A path and, from the nearest on, the paths above it that have text. -/
def lineage (p : Path) : List Path := lineageOf (p.octets.length + 1) p

theorem lineageOf_eq {m n : Nat} {p : Path} (hm : p.octets.length < m) (hn : p.octets.length < n) :
    lineageOf m p = lineageOf n p := by
  induction m generalizing n p with
  | zero => omega
  | succ m ih =>
    obtain ⟨n, rfl⟩ : ∃ k, n = k + 1 := ⟨n - 1, by omega⟩
    simp only [lineageOf, List.cons.injEq, true_and]
    split
    · rename_i q hq
      split
      · rfl
      · rename_i he
        have := parent_shorter (q := q) (by rintro rfl; exact he rfl) hq
        exact ih (by omega) (by omega)
    · rfl

theorem lineage_eq (p : Path) :
    p.lineage = p :: match p.parent with
      | some q => if q.isEmpty then [] else q.lineage
      | none => [] := by
  rw [lineage, lineageOf]
  congr 1
  split
  · rename_i q hq
    split
    · rfl
    · rename_i he
      have := parent_shorter (q := q) (by rintro rfl; exact he rfl) hq
      exact lineageOf_eq (by omega) (by omega)
  · rfl

end Path

end BuildHarvest
