/-
  BuildHarvest.Proofs.Walk — where steps lead.

  Proved:
  - `walk_append`: a walk goes on where its first part ended, with the links that are left.
  - `walk_grows`: a walk that succeeds leads to the same place in every tree that has all that
    this one has, so what a run adds never turns a path elsewhere.
  - `walk_plain`: without links on the way a walk leads where the text alone says (`place`), and it
    does so wherever all on its way is the same (`walk_agree`).
  - `leg_open`: names taken where nothing stands in the way lead to a directory, unless one of them is
    missing or too long.
-/

import BuildHarvest.Proofs.Steps
import BuildHarvest.Proofs.Tree

namespace BuildHarvest.Volume

open BuildHarvest.Tree (Grows LinkFree)

/-! ## Going on -/

theorem leg_append (t : Tree) (l : Loc) (a b : List Step) : leg t l (a ++ b) =
    match leg t l a with
    | .ok (.arrival d) => leg t d b
    | .ok (.link d target rest) => .ok (.link d target (rest ++ b))
    | .error e => .error e := by
  induction a generalizing l with
  | nil => rfl
  | cons s a ih =>
    simp only [List.cons_append, leg]
    split
    · rfl
    · cases s with
      | here => exact ih l
      | up => exact ih l.dropLast
      | down name =>
        simp only
        split
        · rfl
        · split
          · rfl
          · rfl
          · exact ih (l ++ [name])

theorem walk_eq (t : Tree) (links : Nat) (l : Loc) (ss : List Step) : walk t links l ss =
    match leg t l ss with
    | .error e => .error e
    | .ok (.arrival d) => .ok (d, links)
    | .ok (.link d target rest) =>
      match links with
      | 0 => .error .tooManyLinks
      | links + 1 => walk t links (origin target d) (allSteps target ++ rest) := by
  cases links with
  | zero =>
    rw [walk]
    cases leg t l ss with
    | error e => rfl
    | ok g => cases g <;> rfl
  | succ links =>
    rw [walk]
    cases leg t l ss with
    | error e => rfl
    | ok g => cases g <;> rfl

theorem walk_append (t : Tree) (links : Nat) (l : Loc) (a b : List Step) : walk t links l (a ++ b) =
    match walk t links l a with
    | .ok (d, left) => walk t left d b
    | .error e => .error e := by
  induction links generalizing l a with
  | zero =>
    rw [walk_eq t 0 l (a ++ b), walk_eq t 0 l a, leg_append]
    cases leg t l a with
    | error e => rfl
    | ok g =>
      cases g with
      | arrival d => exact (walk_eq t 0 d b).symm
      | link d target rest => rfl
  | succ links ih =>
    rw [walk_eq t (links + 1) l (a ++ b), walk_eq t (links + 1) l a, leg_append]
    cases leg t l a with
    | error e => rfl
    | ok g =>
      cases g with
      | arrival d => exact (walk_eq t (links + 1) d b).symm
      | link d target rest =>
        simp only
        rw [← List.append_assoc, ih]

theorem walk_append_ok {t : Tree} {links : Nat} {l : Loc} {a b : List Step} {r : Loc × Nat}
    (h : walk t links l (a ++ b) = .ok r) : ∃ d left, walk t links l a = .ok (d, left) ∧ walk t left d b = .ok r := by
  rw [walk_append] at h
  split at h
  · rename_i d left hw
    exact ⟨d, left, hw, h⟩
  · cases h

theorem walk_nil (t : Tree) (links : Nat) (l : Loc) : walk t links l [] = .ok (l, links) := walk_eq t links l []

/-- A step is taken in a directory. -/
theorem dir_of_walk_cons {t : Tree} {links : Nat} {l : Loc} {s : Step} {ss : List Step} {r : Loc × Nat}
    (h : walk t links l (s :: ss) = .ok r) : t.get? l = some .dir := by
  rw [walk_eq, leg.eq_def] at h
  by_cases hd : t.get? l = some .dir
  · exact hd
  · simp only [if_pos hd] at h
    cases h

/-- A name that is taken is one that the system takes. -/
theorem length_of_walk_cons {t : Tree} {links : Nat} {l : Loc} {name : Bytes} {ss : List Step} {r : Loc × Nat}
    (h : walk t links l (.down name :: ss) = .ok r) : name.length ≤ maxNameLength := by
  have hd := dir_of_walk_cons h
  rw [walk_eq, leg.eq_def] at h
  by_cases hlen : maxNameLength < name.length
  · simp only [hd, ne_eq, not_true_eq_false, if_false, if_pos hlen] at h
    cases h
  · omega

/-- Every name of a walk is one that the system takes. -/
theorem length_of_walk {t : Tree} {links : Nat} {l : Loc} {name : Bytes} {ss : List Step} {r : Loc × Nat}
    (hm : .down name ∈ ss) (h : walk t links l ss = .ok r) : name.length ≤ maxNameLength := by
  obtain ⟨a, b, rfl⟩ := List.append_of_mem hm
  obtain ⟨_, _, _, h2⟩ := walk_append_ok h
  exact length_of_walk_cons h2

/-- Staying is possible in a directory only. -/
theorem walk_still {t : Tree} {ss : List Step} (hs : Still ss) {links : Nat} {l : Loc} (hd : t.get? l = some .dir) :
    walk t links l ss = .ok (l, links) := by
  induction ss with
  | nil => exact walk_nil t links l
  | cons s ss ih =>
    obtain rfl := hs s List.mem_cons_self
    have := ih (fun s h => hs s (List.mem_cons_of_mem _ h))
    rw [walk_eq] at this ⊢
    simp only [leg, hd, ne_eq, not_true_eq_false, if_false]
    exact this

theorem eq_of_walk_still {t : Tree} {ss : List Step} (hs : Still ss) {links : Nat} {l : Loc} {r : Loc × Nat}
    (h : walk t links l ss = .ok r) : r = (l, links) := by
  cases ss with
  | nil => rw [walk_nil] at h; exact (Except.ok.inj h).symm
  | cons s ss =>
    rw [walk_still hs (dir_of_walk_cons h)] at h
    exact (Except.ok.inj h).symm

/-! ## Walks in a tree that has more -/

theorem leg_grows {t t' : Tree} (g : Grows t t') {l : Loc} {ss : List Step} {r : Leg} (h : leg t l ss = .ok r) :
    leg t' l ss = .ok r := by
  induction ss generalizing l with
  | nil => exact h
  | cons s ss ih =>
    simp only [leg] at h ⊢
    by_cases hd : t.get? l = some .dir
    · rw [if_neg (by simp [hd])] at h
      rw [if_neg (by simp [g.dir hd])]
      cases s with
      | here => exact ih h
      | up => exact ih h
      | down name =>
        simp only at h ⊢
        by_cases hn : maxNameLength < name.length
        · rw [if_pos hn] at h; cases h
        · rw [if_neg hn] at h ⊢
          cases he : t.get? (l ++ [name]) with
          | none => rw [he] at h; cases h
          | some e =>
            rw [he] at h
            cases e with
            | link p => rw [g.link he]; exact h
            | dir => rw [g.dir he]; exact ih h
            | file c =>
              obtain ⟨c', hc⟩ := g.file he
              rw [hc]
              exact ih h
    · rw [if_pos hd] at h; cases h

theorem walk_grows {t t' : Tree} (g : Grows t t') {links : Nat} {l : Loc} {ss : List Step} {r : Loc × Nat}
    (h : walk t links l ss = .ok r) : walk t' links l ss = .ok r := by
  induction links generalizing l ss with
  | zero =>
    rw [walk_eq] at h ⊢
    cases hl : leg t l ss with
    | error e => rw [hl] at h; cases h
    | ok leg => rw [leg_grows g hl]; rwa [hl] at h
  | succ links ih =>
    rw [walk_eq] at h ⊢
    cases hl : leg t l ss with
    | error e => rw [hl] at h; cases h
    | ok leg =>
      rw [leg_grows g hl]
      rw [hl] at h
      cases leg with
      | arrival d => exact h
      | link d target rest => exact ih h

/-! ## Walks without links -/

/-- Where a step leads by its text. -/
def Step.take (l : Loc) : Step → Loc
  | .here => l
  | .up => l.dropLast
  | .down name => l ++ [name]

/-- Where steps lead by their text. -/
def placeFrom (l : Loc) (ss : List Step) : Loc := ss.foldl Step.take l

/-- Where a path leads by its text, read in a working directory. -/
def place (cwd : Loc) (p : Path) : Loc := placeFrom (origin p cwd) (steps p)

/-- Every place that steps lead through by their text, first and last ones included. -/
def stationsFrom (l : Loc) : List Step → List Loc
  | [] => [l]
  | s :: ss => l :: stationsFrom (s.take l) ss

def stations (cwd : Loc) (p : Path) : List Loc := stationsFrom (origin p cwd) (steps p)

theorem mem_stationsFrom_self (l : Loc) (ss : List Step) : l ∈ stationsFrom l ss := by
  cases ss with
  | nil => exact List.mem_singleton_self l
  | cons s ss => exact List.mem_cons_self

theorem placeFrom_append (l : Loc) (a b : List Step) : placeFrom l (a ++ b) = placeFrom (placeFrom l a) b :=
  List.foldl_append

theorem mem_stationsFrom {l m : Loc} {ss : List Step} :
    m ∈ stationsFrom l ss ↔ ∃ a b, ss = a ++ b ∧ m = placeFrom l a := by
  induction ss generalizing l with
  | nil =>
    constructor
    · intro h
      exact ⟨[], [], rfl, List.mem_singleton.mp h⟩
    · rintro ⟨a, b, h, rfl⟩
      obtain ⟨rfl, -⟩ := List.append_eq_nil_iff.mp h.symm
      exact List.mem_singleton.mpr rfl
  | cons s ss ih =>
    rw [stationsFrom, List.mem_cons, ih]
    constructor
    · rintro (rfl | ⟨a, b, rfl, rfl⟩)
      · exact ⟨[], s :: ss, rfl, rfl⟩
      · exact ⟨s :: a, b, rfl, rfl⟩
    · rintro ⟨a, b, h, rfl⟩
      cases a with
      | nil => exact .inl rfl
      | cons x a =>
        obtain ⟨rfl, rfl⟩ := List.cons.inj h
        exact .inr ⟨a, b, rfl, rfl⟩

theorem mem_stationsFrom_append {l m : Loc} {a b : List Step} :
    m ∈ stationsFrom l (a ++ b) ↔ m ∈ stationsFrom l a ∨ m ∈ stationsFrom (placeFrom l a) b := by
  induction a generalizing l with
  | nil =>
    constructor
    · exact .inr
    · rintro (h | h)
      · rw [List.mem_singleton.mp h]
        exact mem_stationsFrom.mpr ⟨[], b, rfl, rfl⟩
      · exact h
  | cons s a ih =>
    rw [List.cons_append, stationsFrom, stationsFrom, List.mem_cons, List.mem_cons, ih, or_assoc]
    rfl

/-- The way ends where the steps lead. -/
theorem mem_stationsFrom_end (l : Loc) (ss : List Step) : placeFrom l ss ∈ stationsFrom l ss :=
  mem_stationsFrom.mpr ⟨ss, [], (List.append_nil _).symm, rfl⟩

/-- No place on the way is a link. -/
def PlainFrom (t : Tree) (l : Loc) (ss : List Step) : Prop := ∀ m ∈ stationsFrom l ss, ∀ target, t.get? m ≠ some (.link target)

theorem leg_plain {t : Tree} {l : Loc} {ss : List Step} (h : PlainFrom t l ss) {r : Leg} (hr : leg t l ss = .ok r) :
    r = .arrival (placeFrom l ss) := by
  induction ss generalizing l with
  | nil => exact (Except.ok.inj hr).symm
  | cons s ss ih =>
    have hnext : PlainFrom t (s.take l) ss := fun m hm => h m (List.mem_cons_of_mem _ hm)
    simp only [leg] at hr
    split at hr
    · cases hr
    · cases s with
      | here => exact ih hnext hr
      | up => exact ih hnext hr
      | down name =>
        simp only at hr
        split at hr
        · cases hr
        · split at hr
          · cases hr
          · rename_i target he
            exact absurd he (hnext _ (mem_stationsFrom_self _ _) target)
          · exact ih hnext hr

/-- Without links on the way a walk leads where its text says. -/
theorem walk_plain {t : Tree} {links : Nat} {l : Loc} {ss : List Step} (h : PlainFrom t l ss) {r : Loc × Nat}
    (hr : walk t links l ss = .ok r) : r = (placeFrom l ss, links) := by
  rw [walk_eq] at hr
  cases hl : leg t l ss with
  | error e => rw [hl] at hr; cases hr
  | ok g =>
    rw [leg_plain h hl] at hl
    rw [hl] at hr
    exact (Except.ok.inj hr).symm

theorem leg_agree {t t' : Tree} {l : Loc} {ss : List Step} (h : ∀ m ∈ stationsFrom l ss, t'.get? m = t.get? m) :
    leg t' l ss = leg t l ss := by
  induction ss generalizing l with
  | nil => rfl
  | cons s ss ih =>
    have hnext : leg t' (s.take l) ss = leg t (s.take l) ss := ih fun m hm => h m (List.mem_cons_of_mem _ hm)
    simp only [leg, h l (mem_stationsFrom_self _ _)]
    cases s with
    | here => rw [show leg t' l ss = leg t l ss from hnext]
    | up => rw [show leg t' l.dropLast ss = leg t l.dropLast ss from hnext]
    | down name =>
      have hnamed : t'.get? (l ++ [name]) = t.get? (l ++ [name]) :=
        h _ (List.mem_cons_of_mem _ (mem_stationsFrom_self ((Step.down name).take l) ss))
      simp only [hnamed, show leg t' (l ++ [name]) ss = leg t (l ++ [name]) ss from hnext]

/-- A walk without links comes to the same where all on its way is the same. -/
theorem walk_agree {t t' : Tree} {links : Nat} {l : Loc} {ss : List Step} (hp : PlainFrom t l ss)
    (h : ∀ m ∈ stationsFrom l ss, t'.get? m = t.get? m) : walk t' links l ss = walk t links l ss := by
  rw [walk_eq, walk_eq t, leg_agree h]
  cases hl : leg t l ss with
  | error e => rfl
  | ok g =>
    obtain rfl := leg_plain hp hl
    rfl

/-- The places on the way to where a walk without links ends are directories. -/
theorem dirs_of_walk {t : Tree} {links : Nat} {l m : Loc} {ss : List Step} (hp : PlainFrom t l ss) {r : Loc × Nat}
    (hw : walk t links l ss = .ok r) (hm : m ∈ stationsFrom l ss) (hne : m ≠ r.1) : t.get? m = some .dir := by
  obtain ⟨before, after, rfl, rfl⟩ := mem_stationsFrom.mp hm
  have hbefore : PlainFrom t l before := fun m hm => hp m (mem_stationsFrom_append.mpr (.inl hm))
  obtain ⟨d, left, h1, h2⟩ := walk_append_ok hw
  obtain ⟨rfl, rfl⟩ := Prod.mk.inj (walk_plain hbefore h1)
  cases after with
  | nil =>
    rw [walk_nil] at h2
    exact absurd (congrArg Prod.fst (Except.ok.inj h2)) hne
  | cons s after => exact dir_of_walk_cons h2

/-! ## Ways of names -/

/-- Steps that all go down. -/
def Descends (ss : List Step) : Prop := ∀ s ∈ ss, ∃ name, s = .down name

theorem Descends.append {a b : List Step} (h : Descends (a ++ b)) : Descends a ∧ Descends b :=
  ⟨fun s hs => h s (List.mem_append_left _ hs), fun s hs => h s (List.mem_append_right _ hs)⟩

/-- On the way down, each place is above the last. -/
theorem prefix_of_mem_stationsFrom {l m : Loc} {ss : List Step} (hs : Descends ss) (hm : m ∈ stationsFrom l ss) :
    m <+: placeFrom l ss := by
  induction ss generalizing l m with
  | nil =>
    rw [List.mem_singleton.mp hm]
    exact List.prefix_rfl
  | cons s ss ih =>
    obtain ⟨name, rfl⟩ := hs s List.mem_cons_self
    have hrest : Descends ss := fun s h => hs s (List.mem_cons_of_mem _ h)
    rcases List.mem_cons.mp hm with rfl | hm
    · exact (List.prefix_append m [name]).trans (ih hrest (mem_stationsFrom_self _ ss))
    · exact ih hrest hm

/-- Names taken one after the other where no file and no link stands in the way: they lead to a
directory, unless one of them is missing or too long. -/
theorem leg_open {t : Tree} {l : Loc} {ss : List Step} (hs : Descends ss) (hd : t.get? l = some .dir)
    (hway : ∀ m ∈ stationsFrom l ss, t.get? m = none ∨ t.get? m = some .dir) :
    leg t l ss = .ok (.arrival (placeFrom l ss)) ∧ t.get? (placeFrom l ss) = some .dir ∨
      leg t l ss = .error .noEntry ∧ (∃ m ∈ stationsFrom l ss, t.get? m = none) ∨
      leg t l ss = .error .nameTooLong ∧ ∃ name, .down name ∈ ss ∧ maxNameLength < name.length := by
  induction ss generalizing l with
  | nil => exact .inl ⟨rfl, hd⟩
  | cons s ss ih =>
    obtain ⟨name, rfl⟩ := hs s List.mem_cons_self
    have hnext : ∀ m ∈ stationsFrom (l ++ [name]) ss, t.get? m = none ∨ t.get? m = some .dir :=
      fun m hm => hway m (List.mem_cons_of_mem _ hm)
    simp only [leg, hd, ne_eq, not_true_eq_false, if_false]
    by_cases hlen : maxNameLength < name.length
    · exact .inr (.inr ⟨if_pos hlen, name, List.mem_cons_self, hlen⟩)
    · rw [if_neg hlen]
      rcases hnext _ (mem_stationsFrom_self _ ss) with he | he
      · rw [he]
        exact .inr (.inl ⟨rfl, _, List.mem_cons_of_mem _ (mem_stationsFrom_self _ ss), he⟩)
      · rw [he]
        rcases ih (fun s h => hs s (List.mem_cons_of_mem _ h)) he hnext with h | ⟨h, m, hm, hn⟩ | ⟨h, n, hm, hn⟩
        · exact .inl h
        · exact .inr (.inl ⟨h, m, List.mem_cons_of_mem _ hm, hn⟩)
        · exact .inr (.inr ⟨h, n, List.mem_cons_of_mem _ hm, hn⟩)

/-! ## Places of joined paths -/

theorem place_join (cwd : Loc) (d p : Path) (h : p.isAbsolute = false) :
    place cwd (d.join p) = placeFrom (place cwd d) (steps p) := by
  rw [place, steps_join d p h, origin_join d p cwd h, placeFrom_append]
  rfl

theorem place_join_name (cwd : Loc) (d : Path) {n : Bytes} (h : Path.IsName n) :
    place cwd (d.join ⟨n⟩) = place cwd d ++ [n] := by
  rw [place_join cwd d _ (isAbsolute_name h), steps_name h]
  rfl

/-! ## The places on the way -/

theorem place_mem_stations (cwd : Loc) (p : Path) : place cwd p ∈ stations cwd p := mem_stationsFrom_end _ _

/-- The way of steps without the last of them. -/
theorem stationsFrom_dropLast {l m : Loc} {ss : List Step} (h : m ∈ stationsFrom l ss.dropLast) : m ∈ stationsFrom l ss := by
  rcases List.eq_nil_or_concat ss with rfl | ⟨init, last, rfl⟩
  · exact h
  · rw [List.concat_eq_append, List.dropLast_concat] at h
    rw [List.concat_eq_append]
    exact mem_stationsFrom_append.mpr (.inl h)

/-- A separator at the end leads through no other place. -/
theorem stationsFrom_allSteps {l m : Loc} {p : Path} (h : m ∈ stationsFrom l (allSteps p)) : m ∈ stationsFrom l (steps p) := by
  unfold allSteps at h
  split at h
  · rcases mem_stationsFrom_append.mp h with h | h
    · exact h
    · have hm : m = placeFrom l (steps p) := by
        simpa [stationsFrom, Step.take] using h
      rw [hm]
      exact mem_stationsFrom_end l (steps p)
  · exact h

theorem mem_stations_join {cwd : Loc} {d p : Path} (h : p.isAbsolute = false) {l : Loc} :
    l ∈ stations cwd (d.join p) ↔ l ∈ stations cwd d ∨ l ∈ stationsFrom (place cwd d) (steps p) := by
  rw [stations, steps_join d p h, origin_join d p cwd h]
  exact mem_stationsFrom_append

theorem mem_stations_join_name {cwd l : Loc} {d : Path} {n : Bytes} (h : Path.IsName n) :
    l ∈ stations cwd (d.join ⟨n⟩) ↔ l ∈ stations cwd d ∨ l = place cwd d ++ [n] := by
  rw [mem_stations_join (isAbsolute_name h), steps_name h]
  simp only [stationsFrom, List.mem_cons, List.not_mem_nil, or_false]
  constructor
  · rintro (hd | rfl | hlast)
    · exact .inl hd
    · exact .inl (place_mem_stations cwd d)
    · exact .inr hlast
  · rintro (hd | hlast)
    · exact .inl hd
    · exact .inr (.inr hlast)

/-- The paths above a path lead to the places on its way. -/
theorem place_mem_stations_of_lineage {p q : Path} (h : q ∈ p.lineage) (cwd : Loc) : place cwd q ∈ stations cwd p := by
  obtain ⟨⟨after, ha⟩, habs⟩ := steps_of_mem_lineage h
  exact mem_stationsFrom.mpr ⟨steps q, after, ha, by rw [origin_congr habs]; rfl⟩

/-- The way of a path leads by the ways of the paths above it. -/
theorem stations_of_lineage {p q : Path} (h : q ∈ p.lineage) {cwd l : Loc} (hl : l ∈ stations cwd q) : l ∈ stations cwd p := by
  obtain ⟨⟨after, ha⟩, habs⟩ := steps_of_mem_lineage h
  rw [stations, ha, origin_congr habs]
  exact mem_stationsFrom_append.mpr (.inl hl)

end BuildHarvest.Volume
