/-
  BuildHarvest.Proofs.Entries — what a name holds after settings were laid over one another.

  Proved:
  - A key leads into the field of its first name, and that name by itself is a key of no steps
    (`ofText_root`).
  - `get?_over`: where a source sets a field by its own name and to a whole value, the field holds
    that value afterwards, and otherwise what it held before.
  - `Laid.get?_over`: where a source was laid over others itself, each field that it has is laid over
    the field below.
  - `without_over`: all the other fields come out the same whatever a source says about one.
  - `get?_entriesOf`: of the values that one source has for a name the last counts.
-/

import BuildHarvest.Settings.Key
import Mathlib.Data.List.TakeWhile

namespace BuildHarvest.Settings

/-! ## Keys -/

namespace Key

/-- Text that is a name and no more. -/
def IsPlain (s : String) : Prop := ofText s = ⟨s, []⟩

theorem ofText_name {name : List Char} (hne : name ≠ []) (h : ∀ c ∈ name, isNameChar c = true) :
    IsPlain (String.ofList name) := by
  have htake : name.takeWhile isNameChar = name := List.takeWhile_eq_self_iff.mpr h
  have hdrop : name.dropWhile isNameChar = [] := List.dropWhile_eq_nil_iff.mpr h
  have hcut : cutName name = some (String.ofList name, []) := by
    rw [cutName, htake, hdrop]
    cases name with
    | nil => exact absurd rfl hne
    | cons c cs => rfl
  simp only [IsPlain, ofText, String.toList_ofList, hcut, Option.bind_some]
  rfl

/-- The first name of a key is a key by itself. -/
theorem ofText_root (s : String) : IsPlain (ofText s).root := by
  rcases hc : cutName s.toList with _ | ⟨name, rest⟩
  · have hs : ofText s = ⟨s, []⟩ := by simp [ofText, hc]
    rw [IsPlain, hs]
    exact hs
  · rcases hsteps : steps? rest.length rest with _ | steps
    · have hs : ofText s = ⟨s, []⟩ := by simp [ofText, hc, hsteps]
      rw [IsPlain, hs]
      exact hs
    · have hs : ofText s = ⟨name, steps⟩ := by simp [ofText, hc, hsteps]
      have hname : s.toList.takeWhile isNameChar ≠ [] ∧ name = String.ofList (s.toList.takeWhile isNameChar) := by
        unfold cutName at hc
        split at hc
        · cases hc
        · rename_i hne
          exact ⟨hne, (Prod.mk.inj (Option.some.inj hc)).1.symm⟩
      rw [hs, hname.2]
      exact ofText_name hname.1 fun c hc => List.mem_takeWhile_imp hc

end Key

/-- The field that a key leads into. -/
def rootOf (key : String) : String := (Key.ofText key).root

theorem rootOf_plain {name : String} (h : Key.IsPlain name) : rootOf name = name := by rw [rootOf, h]

theorem rootOf_rootOf (key : String) : rootOf (rootOf key) = rootOf key := rootOf_plain (Key.ofText_root key)

namespace Entries

variable {name : String}

/-! ## Names -/

def names (es : Entries) : List String := es.map Prod.fst

@[simp]
theorem names_nil : names [] = [] := rfl

@[simp]
theorem names_cons (e : String × Setting) (es : Entries) : names (e :: es) = e.1 :: names es := rfl

theorem mem_names_alter {n k : String} {f : Option Setting → Setting} {es : Entries} :
    n ∈ names (alter k f es) ↔ n = k ∨ n ∈ names es := by
  induction es with
  | nil => simp [alter]
  | cons e es ih =>
    obtain ⟨m, s⟩ := e
    by_cases hk : m = k
    · subst hk
      simp [alter]
    · simp only [alter, if_neg hk, names_cons, List.mem_cons, ih]
      exact or_left_comm

theorem nodup_alter {k : String} {f : Option Setting → Setting} {es : Entries} (h : (names es).Nodup) :
    (names (alter k f es)).Nodup := by
  induction es with
  | nil => simp [alter]
  | cons e es ih =>
    obtain ⟨m, s⟩ := e
    obtain ⟨hm, hes⟩ := List.nodup_cons.mp h
    by_cases hk : m = k
    · simpa [alter, hk] using h
    · simp only [alter, if_neg hk, names_cons]
      refine List.nodup_cons.mpr ⟨fun hmem => ?_, ih hes⟩
      rcases mem_names_alter.mp hmem with e | hmem
      · exact hk e
      · exact hm hmem

theorem get?_cons (k : String) (s : Setting) (es : Entries) :
    get? ((k, s) :: es) name = if name = k then some s else get? es name := by
  by_cases h : name = k
  · simp [get?, h]
  · have : (name == k) = false := by simpa using h
    simp [get?, List.lookup_cons, h, this]

theorem get?_eq_none {es : Entries} : get? es name = none ↔ name ∉ names es := by
  induction es with
  | nil => simp [get?]
  | cons e es ih =>
    rw [get?_cons, names_cons, List.mem_cons]
    by_cases h : name = e.1 <;> simp [h, ih]

theorem get?_of_mem {es : Entries} (h : (names es).Nodup) {s : Setting} (hs : (name, s) ∈ es) : get? es name = some s := by
  induction es with
  | nil => cases hs
  | cons e es ih =>
    obtain ⟨he, hes⟩ := List.nodup_cons.mp h
    rw [get?_cons]
    rcases List.mem_cons.mp hs with rfl | hs
    · exact if_pos rfl
    · rw [if_neg, ih hes hs]
      rintro rfl
      exact he (List.mem_map.mpr ⟨_, hs, rfl⟩)

/-! ## Settings in parts -/

theorem names_option {α : Type} (x : Option α) (name : String) (f : α → Setting) :
    (names (x.map fun a => (name, f a)).toList).Sublist [name] := by
  cases x with
  | none => exact List.nil_sublist _
  | some a => exact List.Sublist.refl _

theorem get?_option {α : Type} (x : Option α) (name other : String) (f : α → Setting) :
    get? (x.map fun a => (name, f a)).toList other = if other = name then x.map f else none := by
  cases x with
  | none => simp [get?]
  | some a => exact get?_cons name (f a) []

theorem get?_append (es below : Entries) (name : String) :
    get? (es ++ below) name = (es.get? name).or (below.get? name) := List.lookup_append

/-! ## One setting laid over others -/

theorem set_eq_alter (es : Entries) (k : String) (s : Setting) : es.set (Key.ofText k) s =
    alter (rootOf k) (fun old => modifyUnder (assign s) (Key.ofText k).steps (old.getD .nil)) es := rfl

theorem over_cons (k : String) (s : Setting) (source below : Entries) :
    Entries.over ((k, s) :: source) below = Entries.over source (below.set (Key.ofText k) s) := rfl

theorem get?_set (es : Entries) (k : String) (s : Setting) : get? (es.set (Key.ofText k) s) name =
    if name = rootOf k then some (modifyUnder (assign s) (Key.ofText k).steps ((get? es (rootOf k)).getD .nil))
    else get? es name :=
  get?_alter es (rootOf k) name _

theorem nodup_over {source below : Entries} (h : (names below).Nodup) : (names (source.over below)).Nodup := by
  induction source generalizing below with
  | nil => exact h
  | cons e source ih => exact ih (nodup_alter h)

theorem mem_names_over {n : String} {source below : Entries} :
    n ∈ names (source.over below) ↔ (∃ e ∈ source, rootOf e.1 = n) ∨ n ∈ names below := by
  induction source generalizing below with
  | nil => simp [Entries.over]
  | cons e source ih =>
    obtain ⟨k, s⟩ := e
    rw [over_cons, ih, set_eq_alter, mem_names_alter, eq_comm (a := n)]
    simp only [List.mem_cons, or_and_right, exists_or, exists_eq_left, or_assoc]
    exact or_left_comm

/-! ## A whole source laid over others -/

/-- A setting that takes the place of whatever was there. -/
def IsWhole (s : Setting) : Prop := ∀ old, assign s old = s

/-- A source that says what a field is, if at all, under the field's own name, once and as a whole. -/
structure Direct (name : String) (source : Entries) : Prop where
  once : (names source).Nodup
  itself : ∀ e ∈ source, rootOf e.1 = name → e.1 = name ∧ IsWhole e.2

theorem Direct.tail {e : String × Setting} {source : Entries} (h : Direct name (e :: source)) : Direct name source where
  once := (List.nodup_cons.mp h.once).2
  itself := fun x hx => h.itself x (List.mem_cons_of_mem e hx)

theorem get?_over {source : Entries} (hn : Key.IsPlain name) (h : Direct name source) (below : Entries) :
    get? (source.over below) name = (get? source name).or (get? below name) := by
  induction source generalizing below with
  | nil => rfl
  | cons e source ih =>
    obtain ⟨k, s⟩ := e
    rw [over_cons, ih h.tail, get?_set, get?_cons]
    by_cases hk : name = rootOf k
    · obtain ⟨hself, hwhole⟩ := h.itself (k, s) List.mem_cons_self hk.symm
      obtain rfl : k = name := hself
      have hnone : get? source k = none := get?_eq_none.mpr (List.nodup_cons.mp h.once).1
      have hsteps : (Key.ofText k).steps = [] := by rw [hn]
      rw [if_pos hk, if_pos rfl, hnone, hsteps]
      exact congrArg some (hwhole _)
    · have hne : name ≠ k := by
        rintro rfl
        exact hk (rootOf_plain hn).symm
      rw [if_neg hk, if_neg hne]

/-- Settings by the names of fields, each name once. -/
structure Laid (es : Entries) : Prop where
  once : es.names.Nodup
  rooted : ∀ name ∈ es.names, rootOf name = name

theorem laid_nil : Laid [] where
  once := List.nodup_nil
  rooted := fun _ h => nomatch h

theorem Laid.onto {below : Entries} (h : Laid below) (source : Entries) : Laid (source.over below) where
  once := nodup_over h.once
  rooted := by
    intro name hn
    rcases mem_names_over.mp hn with ⟨e, -, rfl⟩ | hbelow
    · exact rootOf_rootOf e.1
    · exact h.rooted name hbelow

theorem laid_foldl (sources : List Entries) {es : Entries} (h : Laid es) :
    Laid (sources.foldl (fun es source => source.over es) es) := by
  induction sources generalizing es with
  | nil => exact h
  | cons source sources ih => exact ih (h.onto source)

theorem Laid.tail {e : String × Setting} {es : Entries} (h : Laid (e :: es)) : Laid es where
  once := (List.nodup_cons.mp h.once).2
  rooted := fun name hn => h.rooted name (List.mem_cons_of_mem e.1 hn)

/-- What lies over others changes each field that it has, and no other. -/
theorem Laid.get?_over {source : Entries} (h : Laid source) (hn : Key.IsPlain name) (below : Entries) :
    get? (source.over below) name =
      ((get? source name).map fun s => assign s ((get? below name).getD .nil)).or (get? below name) := by
  induction source generalizing below with
  | nil => rfl
  | cons e source ih =>
    obtain ⟨k, s⟩ := e
    have hroot : rootOf k = k := h.rooted k List.mem_cons_self
    rw [over_cons, ih h.tail, get?_set, get?_cons, hroot]
    by_cases hk : name = k
    · subst hk
      have hnone : get? source name = none := get?_eq_none.mpr (List.nodup_cons.mp h.once).1
      have hsteps : (Key.ofText name).steps = [] := by rw [hn]
      rw [if_pos rfl, if_pos rfl, hnone, hsteps]
      rfl
    · rw [if_neg hk, if_neg hk]

/-- Settings that say what a field is hide what lies below. -/
theorem direct_over {low source : Entries} {s : Setting} (hl : Laid low) (hn : Key.IsPlain name)
    (hsource : Direct name source) (hs : source.get? name = some s) (hwhole : IsWhole s) :
    (source.over low).get? name = some s ∧ Direct name (source.over low) := by
  have hget : (source.over low).get? name = some s := by
    rw [get?_over hn hsource, hs, Option.some_or]
  refine ⟨hget, (hl.onto source).once, ?_⟩
  intro e he hroot
  rw [(hl.onto source).rooted e.1 (List.mem_map_of_mem he)] at hroot
  have hmem := get?_of_mem (hl.onto source).once (show (e.1, e.2) ∈ _ from he)
  rw [hroot, hget] at hmem
  rw [← Option.some.inj hmem]
  exact ⟨hroot, hwhole⟩

/-! ## All fields but one -/

/-- The settings that are none of a field's. -/
def without (name : String) (es : Entries) : Entries := es.filter fun e => rootOf e.1 ≠ name

@[simp]
theorem without_cons (e : String × Setting) (es : Entries) :
    without name (e :: es) = if rootOf e.1 = name then without name es else e :: without name es := by
  by_cases h : rootOf e.1 = name <;> simp [without, h]

theorem without_alter (k : String) (f : Option Setting → Setting) (es : Entries) :
    without name (alter k f es) = if rootOf k = name then without name es else alter k f (without name es) := by
  induction es with
  | nil => simp [without, alter, List.filter_cons]
  | cons e es ih =>
    obtain ⟨m, s⟩ := e
    by_cases hk : m = k
    · subst hk
      by_cases h : rootOf m = name <;> simp [alter, h]
    · by_cases h : rootOf m = name
      · simp [alter, hk, h, ih]
      · by_cases h' : rootOf k = name <;> simp [alter, hk, h, h', ih]

theorem without_over (source below : Entries) :
    without name (source.over below) = (without name source).over (without name below) := by
  induction source generalizing below with
  | nil => rfl
  | cons e source ih =>
    obtain ⟨k, s⟩ := e
    rw [over_cons, ih, set_eq_alter, without_alter, rootOf_rootOf, without_cons]
    by_cases h : rootOf k = name
    · rw [if_pos h, if_pos h]
    · rw [if_neg h, if_neg h, over_cons, set_eq_alter]

theorem without_option {α : Type} (x : Option α) (name k : String) (g : α → Setting) :
    without name (x.map fun a => (k, g a)).toList = if rootOf k = name then [] else (x.map fun a => (k, g a)).toList := by
  cases x with
  | none => exact (ite_self _).symm
  | some a => exact without_cons (k, g a) []

theorem without_append (name : String) (es es' : Entries) :
    without name (es ++ es') = es.without name ++ es'.without name := List.filter_append ..

theorem get?_without {m : String} (h : rootOf m ≠ name) (es : Entries) : get? (without name es) m = get? es m := by
  induction es with
  | nil => rfl
  | cons e es ih =>
    obtain ⟨k, s⟩ := e
    rw [without_cons, get?_cons]
    by_cases hk : rootOf k = name
    · have hne : m ≠ k := by
        rintro rfl
        exact h hk
      rw [if_pos hk, if_neg hne, ih]
    · rw [if_neg hk, get?_cons, ih]

end Entries

/-! ## The settings of one source -/

/-- The value of a name, the last one where there are several. -/
def last? {α : Type} (xs : List (String × α)) (name : String) : Option α := xs.reverse.lookup name

section

variable {α β : Type}

theorem last?_cons (k : String) (a : α) (xs : List (String × α)) (name : String) :
    last? ((k, a) :: xs) name = (last? xs name).or (if name = k then some a else none) := by
  rw [last?, List.reverse_cons, List.lookup_append]
  by_cases h : name = k
  · simp [h, last?]
  · have : (name == k) = false := by simpa using h
    simp [List.lookup_cons, h, this, last?]

theorem last?_map (f : String → α → β) (xs : List (String × α)) (name : String) :
    last? (xs.map fun x => (x.1, f x.1 x.2)) name = (last? xs name).map (f name) := by
  induction xs with
  | nil => rfl
  | cons x xs ih =>
    obtain ⟨k, a⟩ := x
    rw [List.map_cons, last?_cons, last?_cons, ih, Option.map_or]
    by_cases h : name = k <;> simp [h]

theorem mem_of_last? {xs : List (String × α)} {name : String} {a : α} (h : last? xs name = some a) : (name, a) ∈ xs := by
  induction xs with
  | nil => cases h
  | cons x xs ih =>
    obtain ⟨k, b⟩ := x
    rw [last?_cons, Option.or_eq_some_iff] at h
    rcases h with h | ⟨-, h⟩
    · exact List.mem_cons_of_mem _ (ih h)
    · split at h
      · obtain rfl := Option.some.inj h
        subst name
        exact List.mem_cons_self
      · cases h

end

section

variable {o : Origin}

theorem get?_entriesOf (values : List (String × Value)) (es : Entries) (name : String) :
    (entriesOf o values es).get? name = ((last? values name).map (Setting.ofValue o)).or (es.get? name) := by
  induction values generalizing es with
  | nil => rfl
  | cons x values ih =>
    obtain ⟨k, v⟩ := x
    rw [entriesOf, ih, Entries.get?_alter, last?_cons, Option.map_or, Option.or_assoc]
    by_cases h : name = k <;> simp [h]

theorem nodup_entriesOf {values : List (String × Value)} {es : Entries} (h : es.names.Nodup) :
    (entriesOf o values es).names.Nodup := by
  induction values generalizing es with
  | nil => exact h
  | cons x values ih => exact ih (Entries.nodup_alter h)

theorem mem_names_entriesOf {values : List (String × Value)} {es : Entries} {name : String} :
    name ∈ (entriesOf o values es).names ↔ name ∈ values.map Prod.fst ∨ name ∈ es.names := by
  induction values generalizing es with
  | nil => simp [entriesOf]
  | cons x values ih =>
    rw [entriesOf, ih, Entries.mem_names_alter, List.map_cons, List.mem_cons, or_assoc]
    exact or_left_comm

/-- What stands in a source alone is one of its values. -/
theorem exists_of_mem_entriesOf {values : List (String × Value)} {e : String × Setting} (h : e ∈ entriesOf o values []) :
    ∃ v, last? values e.1 = some v ∧ e.2 = Setting.ofValue o v := by
  have hnil : Entries.names [] = [] := rfl
  have hget := Entries.get?_of_mem (nodup_entriesOf (hnil ▸ List.nodup_nil)) (show (e.1, e.2) ∈ _ from h)
  rw [get?_entriesOf] at hget
  obtain ⟨v, hv, he⟩ := Option.map_eq_some_iff.mp ((Option.or_none).symm.trans hget)
  exact ⟨v, hv, he.symm⟩

theorem without_entriesOf (name : String) (values : List (String × Value)) (es : Entries) :
    (entriesOf o values es).without name = entriesOf o (values.filter fun x => rootOf x.1 ≠ name) (es.without name) := by
  induction values generalizing es with
  | nil => rfl
  | cons x values ih =>
    rw [entriesOf, ih, Entries.without_alter]
    by_cases h : rootOf x.1 = name <;> simp [h, entriesOf]

end

end BuildHarvest.Settings
