/-
  BuildHarvest.Proofs.Tree — how one tree relates to another.

  `Grows t t'`: every directory and every link of `t` is in `t'`, and every file of `t` is a
  file of `t'`, perhaps with other contents. Whatever a run does but clearing grows the tree.
  `Rooted` and `LinkFree` survive every change that a run makes (`rooted_put`, `rooted_clear`,
  `rooted_remove`, `linkFree_put`).
-/

import BuildHarvest.Tree

namespace BuildHarvest

/-- The same entry, or a file in place of a file. -/
def Entry.Like (e e' : Entry) : Prop := e' = e ∨ ∃ a b, e = .file a ∧ e' = .file b

theorem Entry.Like.trans {a b c : Entry} (hab : a.Like b) (hbc : b.Like c) : a.Like c := by
  rcases hab with rfl | ⟨x, y, rfl, rfl⟩
  · exact hbc
  · rcases hbc with rfl | ⟨_, z, _, rfl⟩
    · exact .inr ⟨x, y, rfl, rfl⟩
    · exact .inr ⟨x, z, rfl, rfl⟩

namespace Tree

/-! ## Under a directory -/

theorem isUnder_iff {d l : Loc} : isUnder d l = true ↔ d <+: l ∧ d ≠ l := by
  simp [isUnder, List.isPrefixOf_iff_prefix]

theorem isUnder_ne_nil {d l : Loc} (h : isUnder d l = true) : l ≠ [] := by
  obtain ⟨hp, hne⟩ := isUnder_iff.mp h
  rintro rfl
  exact hne (List.prefix_nil.mp hp)

theorem isUnder_child (d : Loc) (n : Bytes) : isUnder d (d ++ [n]) = true :=
  isUnder_iff.mpr ⟨List.prefix_append d [n], by simp⟩

theorem isUnder_extend {d l : Loc} (n : Bytes) (h : d <+: l) : isUnder d (l ++ [n]) = true := by
  refine isUnder_iff.mpr ⟨h.trans (List.prefix_append l [n]), ?_⟩
  rintro rfl
  have hl := h.length_le
  rw [List.length_append, List.length_singleton] at hl
  omega

/-- What lies under a directory lies at or under one of its entries. -/
theorem isUnder_entry {d l : Loc} (h : isUnder d l = true) : ∃ n, d ++ [n] <+: l := by
  obtain ⟨⟨rest, rfl⟩, hne⟩ := isUnder_iff.mp h
  cases rest with
  | nil => simp at hne
  | cons n rest => exact ⟨n, rest, by simp⟩

theorem get?_clear_all (t : Tree) (d l : Loc) : (t.clear d).get? l = if isUnder d l then none else t.get? l := by
  by_cases hl : l = []
  · subst hl
    have : isUnder d [] = false := by
      cases hu : isUnder d [] with
      | false => rfl
      | true => exact absurd rfl (isUnder_ne_nil hu)
    rw [this, get?_root, get?_root]
    rfl
  · exact get?_clear t d hl

theorem isBare_iff {t : Tree} {d : Loc} : t.isBare d = true ↔ ∀ l, isUnder d l = true → t.get? l = none := by
  constructor
  · intro h l hl
    simp only [get?, isUnder_ne_nil hl, if_false, List.lookup_eq_none_iff]
    intro x hx
    refine bne_iff_ne.mpr ?_
    rintro rfl
    have := List.all_eq_true.mp h x hx
    rw [hl] at this
    cases this
  · intro h
    refine List.all_eq_true.mpr fun x hx => ?_
    cases hu : isUnder d x.1 with
    | false => rfl
    | true =>
      have := h x.1 hu
      simp only [get?, isUnder_ne_nil hu, if_false, List.lookup_eq_none_iff] at this
      exact absurd rfl (bne_iff_ne.mp (this x hx))

/-! ## Trees that keep what another has -/

/-- One tree has what another has, files perhaps with other contents. -/
def Grows (t t' : Tree) : Prop := ∀ l e, t.get? l = some e → ∃ e', t'.get? l = some e' ∧ e.Like e'

theorem Grows.refl (t : Tree) : Grows t t := fun _ e h => ⟨e, h, .inl rfl⟩

theorem Grows.trans {a b c : Tree} (hab : Grows a b) (hbc : Grows b c) : Grows a c := by
  intro l e h
  obtain ⟨e', h', k⟩ := hab l e h
  obtain ⟨e'', h'', k'⟩ := hbc l e' h'
  exact ⟨e'', h'', k.trans k'⟩

theorem Grows.dir {t t' : Tree} (g : Grows t t') {l : Loc} (h : t.get? l = some .dir) : t'.get? l = some .dir := by
  obtain ⟨e, he, rfl | ⟨_, _, hd, _⟩⟩ := g l _ h
  · exact he
  · cases hd

theorem Grows.link {t t' : Tree} (g : Grows t t') {l : Loc} {p : Path} (h : t.get? l = some (.link p)) :
    t'.get? l = some (.link p) := by
  obtain ⟨e, he, rfl | ⟨_, _, hd, _⟩⟩ := g l _ h
  · exact he
  · cases hd

theorem Grows.file {t t' : Tree} (g : Grows t t') {l : Loc} {c : Bytes} (h : t.get? l = some (.file c)) :
    ∃ c', t'.get? l = some (.file c') := by
  obtain ⟨e, he, rfl | ⟨_, b, _, rfl⟩⟩ := g l _ h
  · exact ⟨c, he⟩
  · exact ⟨b, he⟩

theorem Grows.absent {t t' : Tree} (g : Grows t t') {l : Loc} (h : t'.get? l = none) : t.get? l = none := by
  cases ht : t.get? l with
  | none => rfl
  | some e =>
    obtain ⟨e', he, _⟩ := g l e ht
    rw [h] at he
    cases he

/-- Where the larger tree has a directory, the other has it or nothing. -/
theorem Grows.none_or_dir {t t' : Tree} (g : Grows t t') {l : Loc} (h : t'.get? l = some .dir) :
    t.get? l = none ∨ t.get? l = some .dir := by
  cases ht : t.get? l with
  | none => exact .inl rfl
  | some e =>
    obtain ⟨e', he, rfl | ⟨_, _, _, rfl⟩⟩ := g l e ht
    · rw [h] at he
      exact .inr he.symm
    · rw [h] at he
      cases he

/-- What is put where nothing was, or a file in place of a file. -/
def Fits (t : Tree) (l : Loc) (e : Entry) : Prop :=
  t.get? l = none ∨ ∃ a b, t.get? l = some (.file a) ∧ e = .file b

theorem ne_nil_of_fits {t : Tree} {l : Loc} {e : Entry} (h : Fits t l e) : l ≠ [] := by
  rintro rfl
  rcases h with h | ⟨_, _, h, _⟩ <;> rw [get?_root] at h <;> cases h

theorem grows_put {t : Tree} {l : Loc} {e : Entry} (h : Fits t l e) : Grows t (t.put l e) := by
  have hl := ne_nil_of_fits h
  intro m f hm
  rw [get?_put t e m hl]
  by_cases hml : m = l
  · subst hml
    rcases h with h | ⟨a, b, h, rfl⟩
    · rw [h] at hm; cases hm
    · rw [h] at hm
      exact ⟨_, if_pos rfl, .inr ⟨a, b, (Option.some.inj hm).symm, rfl⟩⟩
  · exact ⟨f, by rw [if_neg hml, hm], .inl rfl⟩

/-! ## Rooted trees -/

/-- A tree is rooted when each entry's directory is one. -/
theorem rooted_of_entries {t : Tree} (h : ∀ e ∈ t.entries, t.get? e.1.dropLast = some .dir) : t.Rooted := by
  intro l n hs
  simp only [get?, List.append_eq_nil_iff, List.cons_ne_nil, and_false, if_false] at hs
  obtain ⟨e, he⟩ := Option.isSome_iff_exists.mp hs
  obtain ⟨before, after, hes, _⟩ := List.lookup_eq_some_iff.mp he
  have := h (l ++ [n], e) (by rw [hes]; simp)
  rwa [List.dropLast_concat] at this

theorem rooted_absent {t : Tree} (hr : t.Rooted) {l m : Loc} (hl : t.get? l = none) (hm : isUnder l m = true) :
    t.get? m = none := by
  obtain ⟨⟨rest, rfl⟩, -⟩ := isUnder_iff.mp hm
  clear hm
  induction rest generalizing l with
  | nil => simpa using hl
  | cons n rest ih =>
    have hn : t.get? (l ++ [n]) = none := by
      cases hs : t.get? (l ++ [n]) with
      | none => rfl
      | some e =>
        have := hr l n (by rw [hs]; rfl)
        rw [hl] at this
        cases this
    simpa using ih hn

/-- Only a directory has something under it. -/
theorem rooted_under {t : Tree} (hr : t.Rooted) {l m : Loc} (hl : t.get? l ≠ some .dir) (hm : isUnder l m = true) :
    t.get? m = none := by
  obtain ⟨n, hn⟩ := isUnder_entry hm
  have hc : t.get? (l ++ [n]) = none := by
    cases hs : t.get? (l ++ [n]) with
    | none => rfl
    | some e => exact absurd (hr l n (by rw [hs]; rfl)) hl
  by_cases he : l ++ [n] = m
  · rwa [← he]
  · exact rooted_absent hr hc (isUnder_iff.mpr ⟨hn, he⟩)

/-- What is above a directory is one. -/
theorem dir_of_prefix {t : Tree} (hr : t.Rooted) {l m : Loc} (hl : t.get? l = some .dir) (hm : m <+: l) :
    t.get? m = some .dir := by
  by_cases he : m = l
  · rw [he, hl]
  · by_cases hd : t.get? m = some .dir
    · exact hd
    · have := rooted_under hr hd (isUnder_iff.mpr ⟨hm, he⟩)
      rw [hl] at this
      cases this

/-- A new entry of a directory, or another file in place of one. -/
theorem rooted_put {t : Tree} (hr : t.Rooted) {g : Loc} {n : Bytes} {e : Entry} (hg : t.get? g = some .dir)
    (hf : Fits t (g ++ [n]) e) : (t.put (g ++ [n]) e).Rooted := by
  intro l m h
  have hne : g ++ [n] ≠ [] := by simp
  rw [get?_put t e _ hne] at h
  rw [get?_put t e _ hne]
  by_cases hl : l ++ [m] = g ++ [n]
  · obtain ⟨rfl, -⟩ := List.append_inj' hl rfl
    rw [if_neg (by simp), hg]
  · rw [if_neg hl] at h
    have hd := hr l m h
    by_cases he : l = g ++ [n]
    · rcases hf with hf | ⟨a, b, hf, -⟩ <;> rw [he, hf] at hd <;> cases hd
    · rw [if_neg he, hd]

theorem rooted_clear {t : Tree} (hr : t.Rooted) (d : Loc) : (t.clear d).Rooted := by
  intro l n h
  rw [get?_clear t d (by simp)] at h
  by_cases hl : l = []
  · subst hl; exact get?_root _
  · rw [get?_clear t d hl]
    split at h
    · cases h
    · rename_i hu
      rw [if_neg (fun hl => hu (isUnder_extend n (isUnder_iff.mp hl).1)), hr l n h]

theorem rooted_remove {t : Tree} (hr : t.Rooted) {d : Loc} (hd : t.isBare d = true) : (t.remove d).Rooted := by
  intro l n h
  rw [get?_remove t _ (by simp)] at h
  by_cases hl : l = []
  · subst hl; exact get?_root _
  · rw [get?_remove t l hl]
    split at h
    · cases h
    · have hld : l ≠ d := by
        rintro rfl
        rw [isBare_iff.mp hd _ (isUnder_child l n)] at h
        cases h
      rw [if_neg hld, hr l n h]

/-! ## Trees without links -/

def isLink : Entry → Bool
  | .link _ => true
  | _ => false

theorem isLink_of_get? {t : Tree} {l : Loc} {target : Path} (h : t.get? l = some (.link target)) :
    ∃ e ∈ t.entries, e.1 = l ∧ isLink e.2 = true := by
  by_cases h0 : l = []
  · subst h0
    rw [get?_root] at h
    cases h
  · simp only [get?, h0, if_false] at h
    obtain ⟨before, after, hes, _⟩ := List.lookup_eq_some_iff.mp h
    exact ⟨(l, .link target), by rw [hes]; simp, rfl, rfl⟩

theorem linkFree_of_entries {t : Tree} (h : ∀ e ∈ t.entries, isLink e.2 = false) : t.LinkFree := by
  intro l p hl
  obtain ⟨e, he, -, hlink⟩ := isLink_of_get? hl
  rw [h e he] at hlink
  cases hlink

theorem linkFree_put {t : Tree} (h : t.LinkFree) {l : Loc} {e : Entry} (hl : l ≠ []) (he : ∀ p, e ≠ .link p) :
    (t.put l e).LinkFree := by
  intro m p hm
  rw [get?_put t e m hl] at hm
  split at hm
  · exact he p (Option.some.inj hm)
  · exact h m p hm

/-- Putting twice is putting once. -/
theorem put_put (t : Tree) (l : Loc) (a b : Entry) : (t.put l a).put l b = t.put l b := by
  simp [put, keep, List.filter_filter]

end Tree

end BuildHarvest
