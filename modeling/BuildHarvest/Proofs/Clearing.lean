/-
  BuildHarvest.Proofs.Clearing — what clearing a directory takes away.

  The paths here are made of names, and no place above the last one is a link; at the last name
  and anywhere else there may be links.

  Proved (`clear_exact`), of a clearing that succeeds:
  - What is a directory at the place of the path is gone with all that is under it, and all else is as
    it was; where something else or nothing is there, all is as it was. But this is so exactly if the
    path is no noose (`Noose`): one that ends with a separator and names a link to a directory in
    which the link lies itself. Then all that is in that directory is gone, the link with it
    (`a_noose_takes_what_is_around_it`).
  - To clear once more is to do nothing.
-/

import BuildHarvest.Proofs.Making

namespace BuildHarvest

namespace Volume

open BuildHarvest.Tree (isUnder isUnder_iff Grows)

/-- No place above the last step of a path is a link. -/
def Direct (v : Volume) (p : Path) : Prop := PlainFrom v.tree (origin p v.cwd) (steps p).dropLast

/-- A path that ends with a separator and names a link to a directory in which the link lies. -/
def Noose (v : Volume) (p : Path) (d : Loc) : Prop :=
  endsOpen p = true ∧ (∃ target, v.tree.get? (place v.cwd p) = some (.link target)) ∧ v.LeadsTo p d ∧
    isUnder d (place v.cwd p) = true

/-- A directory at a place is gone with all that was under it, and all else is as it was; where something
else or nothing was, nothing has changed. -/
def Cleared (v v' : Volume) (l : Loc) : Prop :=
  v.tree.get? l = some .dir ∧ (∀ m, v'.tree.get? m = if l <+: m then none else v.tree.get? m) ∨
    v.tree.get? l ≠ some .dir ∧ v' = v

/-- A path of names by its last: the places before the last one are above it. -/
structure Last (v : Volume) (p : Path) (init : List Step) (name : Bytes) : Prop where
  steps_eq : steps p = init ++ [.down name]
  descends : Descends init
  direct : PlainFrom v.tree (origin p v.cwd) init

theorem exists_last {v : Volume} {p : Path} (hne : steps p ≠ []) (hs : Descends (steps p)) (hp : v.Direct p) :
    ∃ init name, Last v p init name := by
  obtain ⟨init, last, h⟩ : ∃ init last, steps p = init ++ [last] := ⟨_, _, (List.dropLast_concat_getLast hne).symm⟩
  rw [h] at hs
  obtain ⟨name, rfl⟩ := hs last (by simp)
  refine ⟨init, name, h, hs.append.1, ?_⟩
  rw [Direct, h, List.dropLast_concat] at hp
  exact hp

namespace Last

variable {v : Volume} {p : Path} {init : List Step} {name : Bytes} (h : Last v p init name)

include h

theorem place_eq : place v.cwd p = placeFrom (origin p v.cwd) init ++ [name] := by
  rw [place, h.steps_eq, placeFrom_append]
  rfl

theorem mem_stations {m : Loc} : m ∈ stations v.cwd p ↔ m ∈ stationsFrom (origin p v.cwd) init ∨ m = place v.cwd p := by
  rw [stations, h.steps_eq, mem_stationsFrom_append, h.place_eq]
  simp only [stationsFrom, List.mem_cons, List.not_mem_nil, or_false]
  constructor
  · rintro (hm | rfl | rfl)
    · exact .inl hm
    · exact .inl (mem_stationsFrom_end _ _)
    · exact .inr rfl
  · rintro (hm | rfl)
    · exact .inl hm
    · exact .inr (.inr rfl)

/-- A place before the last is above it. -/
theorem above {m : Loc} (hm : m ∈ stationsFrom (origin p v.cwd) init) : isUnder m (place v.cwd p) = true := by
  rw [h.place_eq]
  exact Tree.isUnder_extend name (prefix_of_mem_stationsFrom h.descends hm)

theorem not_prefix {m : Loc} (hm : m ∈ stationsFrom (origin p v.cwd) init) : ¬ place v.cwd p <+: m := by
  intro hp
  obtain ⟨hm', hne⟩ := isUnder_iff.mp (h.above hm)
  exact hne (hm'.eq_of_length_le hp.length_le)

/-- What a place before the last lies under, the last place lies under. -/
theorem under {d m : Loc} (hm : m ∈ stationsFrom (origin p v.cwd) init) (hd : isUnder d m = true) :
    isUnder d (place v.cwd p) = true := by
  obtain ⟨hp, hne⟩ := isUnder_iff.mp hd
  obtain ⟨hp', hne'⟩ := isUnder_iff.mp (h.above hm)
  refine isUnder_iff.mpr ⟨hp.trans hp', ?_⟩
  rintro rfl
  exact hne (hp.eq_of_length_le hp'.length_le)

theorem descends_all : Descends (steps p) := by
  rw [h.steps_eq]
  intro s hs
  rcases List.mem_append.mp hs with hs | hs
  · exact h.descends s hs
  · exact ⟨name, List.mem_singleton.mp hs⟩

theorem octets_ne_nil : p.octets ≠ [] := Volume.octets_ne_nil (s := .down name) (by rw [h.steps_eq]; simp)

/-! ### Where it leads -/

/-- A path that leads to a directory: the directory is at the last place, or a link is. -/
theorem of_leadsTo {m : Loc} (hm : v.LeadsTo p m) : ∃ left,
    v.trail p init = .ok (placeFrom (origin p v.cwd) init, left) ∧
      v.tree.get? (placeFrom (origin p v.cwd) init) = some .dir ∧ name.length ≤ maxNameLength ∧
      (v.tree.get? (place v.cwd p) = some .dir ∧ m = place v.cwd p ∨
        ∃ target, v.tree.get? (place v.cwd p) = some (.link target)) := by
  obtain ⟨hc, ⟨left, hw⟩, hdir⟩ := leadsTo_iff.mp hm
  rw [trail, h.steps_eq] at hw
  obtain ⟨d, left', h1, h2⟩ := walk_append_ok hw
  obtain ⟨rfl, rfl⟩ := Prod.mk.inj (walk_plain h.direct h1)
  have hd := dir_of_walk_cons h2
  have hlen := length_of_walk_cons h2
  refine ⟨maxLinks, h1, hd, hlen, ?_⟩
  rw [h.place_eq]
  rw [walk_eq] at h2
  simp only [leg, hd, ne_eq, not_true_eq_false, if_false, if_neg (Nat.not_lt.mpr hlen)] at h2
  cases he : v.tree.get? (placeFrom (origin p v.cwd) init ++ [name]) with
  | none =>
    rw [he] at h2
    cases h2
  | some e =>
    rw [he] at h2
    cases e with
    | link target => exact .inr ⟨target, rfl⟩
    | dir =>
      obtain ⟨rfl, -⟩ := Prod.mk.inj (Except.ok.inj h2)
      exact .inl ⟨rfl, rfl⟩
    | file c =>
      obtain ⟨rfl, -⟩ := Prod.mk.inj (Except.ok.inj h2)
      rw [he] at hdir
      cases hdir

theorem ordinary {m : Loc} (hm : v.LeadsTo p m) : Ordinary p := by
  obtain ⟨hc, ⟨left, hw⟩, _⟩ := leadsTo_iff.mp hm
  exact ⟨hc, h.descends_all, fun name hn => length_of_walk hn hw⟩

/-- All places before the last are directories then. -/
theorem dirs {m : Loc} (hm : v.LeadsTo p m) {k : Loc} (hk : k ∈ stationsFrom (origin p v.cwd) init) :
    v.tree.get? k = some .dir := by
  obtain ⟨left, hw, hd, _⟩ := h.of_leadsTo hm
  by_cases he : k = placeFrom (origin p v.cwd) init
  · rw [he, hd]
  · exact dirs_of_walk h.direct hw hk he

theorem leadsTo_place {left : Nat} (hc : check p = .ok ()) (hw : v.trail p init = .ok (placeFrom (origin p v.cwd) init, left))
    (hd : v.tree.get? (placeFrom (origin p v.cwd) init) = some .dir) (hlen : name.length ≤ maxNameLength)
    (he : v.tree.get? (place v.cwd p) = some .dir) : v.LeadsTo p (place v.cwd p) := by
  rw [h.place_eq] at he ⊢
  refine leadsTo_iff.mpr ⟨hc, ⟨left, ?_⟩, he⟩
  rw [h.steps_eq]
  exact trail_down hw hd hlen he fun _ e => by cases e

theorem leadsTo_of_lstat (hl : v.lstat p = .ok .dir) : ∃ m, v.LeadsTo p m := by
  rcases lstat_dir_cases hl with hm | hnil | ⟨init', last, r, hs, hdown, _⟩
  · exact hm
  · rw [h.steps_eq] at hnil
    simp at hnil
  · obtain ⟨-, hlast⟩ := List.append_inj' (h.steps_eq.symm.trans hs) rfl
    exact absurd (List.cons.inj hlast).1.symm (hdown name)

/-- What such a path names where nothing but directories is on its way. -/
theorem lstat_open (hc : check p = .ok ()) (hd : v.tree.get? (origin p v.cwd) = some .dir) (ho : v.Open p) :
    v.lstat p = .ok .dir ∧ v.tree.get? (place v.cwd p) = some .dir ∨
      v.lstat p = .error .noEntry ∧ (∃ m ∈ stations v.cwd p, v.tree.get? m = none) ∨
      v.lstat p = .error .nameTooLong ∧ ∃ name, .down name ∈ steps p ∧ maxNameLength < name.length := by
  by_cases hopen : endsOpen p = true
  · rw [lstat, if_pos hopen]
    rcases leg_open h.descends_all hd ho with ⟨hleg, he⟩ | ⟨hleg, hm⟩ | ⟨hleg, hn⟩
    · refine .inl ⟨stat_dir_iff.mpr ⟨hc, _, maxLinks, ?_, he⟩, he⟩
      rw [trail, walk_eq, hleg]
    · refine .inr (.inl ⟨stat_of_error hc ?_, hm⟩)
      rw [trail, walk_eq, hleg]
    · refine .inr (.inr ⟨stat_of_error hc ?_, hn⟩)
      rw [trail, walk_eq, hleg]
  · have refused {e : Errno} (hw : v.trail p init = .error e) : v.lstat p = .error e := by
      rw [lstat, if_neg hopen, target_of_error h.steps_eq hc hw]
      rfl
    have hinit : ∀ m ∈ stationsFrom (origin p v.cwd) init, v.tree.get? m = none ∨ v.tree.get? m = some .dir :=
      fun m hm => ho m (h.mem_stations.mpr (.inl hm))
    rcases leg_open h.descends hd hinit with ⟨hleg, he⟩ | ⟨hleg, m, hm, hn⟩ | ⟨hleg, n, hn, hlong⟩
    · have hw : v.trail p init = .ok (placeFrom (origin p v.cwd) init, maxLinks) := by rw [trail, walk_eq, hleg]
      by_cases hlen : maxNameLength < name.length
      · refine .inr (.inr ⟨?_, name, by rw [h.steps_eq]; simp, hlen⟩)
        rw [lstat, if_neg hopen, target_of_trail h.steps_eq hw he hc, if_pos hlen]
        rfl
      · rw [lstat_of_trail h.steps_eq hw he hc (by simpa using hopen) (Nat.not_lt.mp hlen), ← h.place_eq]
        rcases ho _ (place_mem_stations v.cwd p) with hp | hp
        · rw [hp]
          exact .inr (.inl ⟨rfl, _, place_mem_stations v.cwd p, hp⟩)
        · rw [hp]
          exact .inl ⟨rfl, rfl⟩
    · exact .inr (.inl ⟨refused (by rw [trail, walk_eq, hleg]), m, h.mem_stations.mpr (.inl hm), hn⟩)
    · exact .inr (.inr ⟨refused (by rw [trail, walk_eq, hleg]), n, by rw [h.steps_eq]; simp [hn], hlong⟩)

/-- The same path where less is in the tree. -/
theorem shrinks {u : Volume} (hg : Grows u.tree v.tree) (hc : u.cwd = v.cwd) : Last u p init name := by
  refine ⟨h.steps_eq, h.descends, fun m hm target he => ?_⟩
  rw [hc] at hm
  exact h.direct m hm target (hg.link he)

/-- The way to the last name is there where all on it is as it was. -/
theorem spared {u : Volume} (hc : u.cwd = v.cwd) (ha : ∀ m ∈ stationsFrom (origin p v.cwd) init, u.tree.get? m = v.tree.get? m)
    {left : Nat} (hw : v.trail p init = .ok (placeFrom (origin p v.cwd) init, left))
    (hd : v.tree.get? (placeFrom (origin p v.cwd) init) = some .dir) :
    u.trail p init = .ok (placeFrom (origin p v.cwd) init, left) ∧ u.tree.get? (placeFrom (origin p v.cwd) init) = some .dir := by
  refine ⟨?_, (ha _ (mem_stationsFrom_end _ _)).trans hd⟩
  rw [← hw, trail, trail, hc]
  exact walk_agree h.direct ha

/-- Where the last place has gone and nothing is in the way, the path names nothing. -/
theorem lstat_gone (hp : Ordinary p) (hd : v.tree.get? (origin p v.cwd) = some .dir) (ho : v.Open p)
    (hn : v.tree.get? (place v.cwd p) = none) : v.lstat p = .error .noEntry := by
  rcases h.lstat_open hp.taken hd ho with ⟨_, he⟩ | ⟨hl, _⟩ | ⟨_, name, hin, hlong⟩
  · rw [hn] at he
    cases he
  · exact hl
  · have := hp.short name hin
    omega

/-- A path that led to a directory names nothing where less is in the tree and the last place has gone. -/
theorem lstat_shrunk {u : Volume} {m : Loc} (hm : v.LeadsTo p m) (hg : Grows u.tree v.tree) (hc : u.cwd = v.cwd)
    (hd : u.tree.get? (origin p v.cwd) = some .dir) (hn : u.tree.get? (place v.cwd p) = none) : u.lstat p = .error .noEntry := by
  refine (h.shrinks hg hc).lstat_gone (h.ordinary hm) (by rwa [hc]) ?_ (by rwa [hc])
  intro k hk
  rw [hc] at hk
  rcases h.mem_stations.mp hk with hk | rfl
  · exact hg.none_or_dir (h.dirs hm hk)
  · exact .inl hn

/-- What is named without being a directory, or not there, is no directory at the last place either. -/
theorem not_dir (hr : v.tree.Rooted) (hl : v.lstat p ≠ .ok .dir) (hn : ∀ e, v.lstat p = .error e → e = .noEntry) :
    v.tree.get? (place v.cwd p) ≠ some .dir := by
  intro hd
  have hdirs : ∀ m ∈ stations v.cwd p, v.tree.get? m = some .dir := by
    intro m hm
    rcases h.mem_stations.mp hm with hm | rfl
    · exact Tree.dir_of_prefix hr hd (isUnder_iff.mp (h.above hm)).1
    · exact hd
  cases hc : check p with
  | error e => exact check_ne h.octets_ne_nil hc (hn e (lstat_of_check hc))
  | ok _ =>
    have hopen : v.Open p := fun m hm => .inr (hdirs m hm)
    rcases h.lstat_open hc (hdirs _ (mem_stationsFrom_self _ _)) hopen with ⟨hdir, _⟩ | ⟨_, m, hm, hnone⟩ | ⟨hlong, _⟩
    · exact hl hdir
    · rw [hdirs m hm] at hnone
      cases hnone
    · cases hn _ hlong

/-! ### What a removal takes -/

/-- The directory at the last place is removed for good. -/
theorem removed_dir {v' : Volume} {m : Loc} (hm : v.LeadsTo p m) (he : v.tree.get? (place v.cwd p) = some .dir)
    (hrm : v.removeAll p = (.ok (), v')) : v.Empties (place v.cwd p) v' ∧ v'.tree.get? (place v.cwd p) = none := by
  obtain ⟨left, hw, hd, hlen, hlast⟩ := h.of_leadsTo hm
  obtain ⟨l, hl, hcase⟩ := (removeAll_cases hrm).resolve_left fun ⟨_, he, _⟩ => by cases he
  obtain rfl := Except.ok.inj (hm.1.symm.trans hl)
  have hplace : m = place v.cwd p := by
    rcases hlast with ⟨_, hplace⟩ | ⟨target, hlink⟩
    · exact hplace
    · rw [he] at hlink
      cases hlink
  subst hplace
  rcases hcase with hrm | ⟨_, hmissing⟩
  · exact empties_rmdir hl hrm
  · -- the way to it is spared, so it is not missing
    exfalso
    have hc := empties_clear v (place v.cwd p)
    have hself : (v.tree.clear (place v.cwd p)).get? (place v.cwd p) = some .dir := by
      rw [Tree.get?_clear_all, if_neg (fun hu => (isUnder_iff.mp hu).2 rfl), he]
    obtain ⟨hw', hd'⟩ := h.spared hc.cwd (fun k hk => hc.apart (h.not_prefix hk)) hw hd
    have hu := h.shrinks hc.shrinks hc.cwd
    exact rmdir_of_leadsTo (hu.leadsTo_place (leadsTo_iff.mp hm).1 hw' hd' hlen hself) (hmissing rfl)

/-- A link at the last place is followed, and what it leads to is removed only around the link. -/
theorem removed_link {v' : Volume} {m : Loc} {target : Path} (hm : v.LeadsTo p m)
    (he : v.tree.get? (place v.cwd p) = some (.link target)) (hrm : v.removeAll p = (.ok (), v')) :
    isUnder m (place v.cwd p) = true ∧ v' = { v with tree := v.tree.clear m } ∧ v'.tree.get? (origin p v'.cwd) = some .dir := by
  obtain ⟨left, hw, hd, hlen, -⟩ := h.of_leadsTo hm
  obtain ⟨hck, -, -⟩ := leadsTo_iff.mp hm
  obtain ⟨l, hl, hcase⟩ := (removeAll_cases hrm).resolve_left fun ⟨_, he, _⟩ => by cases he
  obtain rfl := Except.ok.inj (hm.1.symm.trans hl)
  have hc := empties_clear v m
  have hu := h.shrinks hc.shrinks hc.cwd
  have hunder : isUnder m (place v.cwd p) = true := by
    cases hunder : isUnder m (place v.cwd p) with
    | true => rfl
    | false =>
      -- the way to the link is spared and so is the link, which is no directory to remove
      exfalso
      have hspared : ∀ k ∈ stationsFrom (origin p v.cwd) init, (v.tree.clear m).get? k = v.tree.get? k := by
        intro k hk
        rw [Tree.get?_clear_all, if_neg]
        intro hk'
        rw [h.under hk hk'] at hunder
        cases hunder
      have hlink : (v.tree.clear m).get? (placeFrom (origin p v.cwd) init ++ [name]) = some (.link target) := by
        rw [← h.place_eq, Tree.get?_clear_all, hunder]
        exact he
      have hrefused : rmdir { v with tree := v.tree.clear m } p = .error .notDirectory := by
        obtain ⟨hw', hd'⟩ := h.spared hc.cwd hspared hw hd
        rw [rmdir_of_trail h.steps_eq hw' hd' hck hlen]
        simp only [hlink]
      rcases hcase with hcase | ⟨_, hmissing⟩
      · rw [hrefused] at hcase
        cases hcase
      · cases hrefused.symm.trans (hmissing rfl)
  rcases hcase with hcase | ⟨rfl, hmissing⟩
  · -- nothing can be removed at a place that has gone
    exfalso
    obtain ⟨x, hx, -⟩ := rmdir_ok hcase
    obtain ⟨_, _, _, _, hlast⟩ := hu.of_leadsTo hx
    simp only [Tree.get?_clear_all, hunder, if_true] at hlast
    simp at hlast
  · refine ⟨hunder, rfl, ?_⟩
    by_cases horigin : (v.tree.clear m).get? (origin p v.cwd) = some .dir
    · exact horigin
    · -- without a place to begin at, the removal is refused
      exfalso
      obtain ⟨s, rest, hs⟩ : ∃ s rest, steps p = [] ++ s :: rest := by
        obtain ⟨s, rest, hs⟩ := List.exists_cons_of_ne_nil (show steps p ≠ [] by rw [h.steps_eq]; simp)
        exact ⟨s, rest, hs⟩
      have hstart : trail { v with tree := v.tree.clear m } p [] = .ok (origin p v.cwd, maxLinks) := walk_nil _ _ _
      have hmissing := hmissing rfl
      rw [rmdir, target_behind hstart horigin hs hck] at hmissing
      cases hmissing

theorem cleared_dir {v' : Volume} {m : Loc} (hm : v.LeadsTo p m) (he : v.tree.get? (place v.cwd p) = some .dir)
    (hrm : v.removeAll p = (.ok (), v')) : v.Cleared v' (place v.cwd p) ∧ v'.lstat p = .error .noEntry := by
  obtain ⟨hempties, hgone⟩ := h.removed_dir hm he hrm
  refine ⟨.inl ⟨he, fun k => ?_⟩, ?_⟩
  · by_cases hk : place v.cwd p <+: k
    · rw [if_pos hk, hempties.gone hgone hk]
    · rw [if_neg hk, hempties.apart hk]
  · have hstart := mem_stationsFrom_self (origin p v.cwd) init
    have horigin := (hempties.apart (h.not_prefix hstart)).trans (h.dirs hm hstart)
    exact h.lstat_shrunk hm hempties.shrinks hempties.cwd horigin hgone

theorem cleared_link {v' : Volume} {m : Loc} {target : Path} (hl : v.lstat p = .ok .dir) (hm : v.LeadsTo p m)
    (he : v.tree.get? (place v.cwd p) = some (.link target)) (hrm : v.removeAll p = (.ok (), v')) :
    v.Noose p m ∧ (∀ k, v'.tree.get? k = if isUnder m k then none else v.tree.get? k) ∧ v'.lstat p = .error .noEntry := by
  obtain ⟨hunder, rfl, horigin⟩ := h.removed_link hm he hrm
  have htree (k : Loc) : (v.tree.clear m).get? k = if isUnder m k then none else v.tree.get? k := Tree.get?_clear_all _ _ _
  refine ⟨⟨?_, ⟨target, he⟩, hm, hunder⟩, htree, ?_⟩
  · -- only with a separator behind it a link is named as a directory
    by_cases hopen : endsOpen p = true
    · exact hopen
    · obtain ⟨left, hw, hdir, hlen, -⟩ := h.of_leadsTo hm
      rw [lstat_of_trail h.steps_eq hw hdir (leadsTo_iff.mp hm).1 (by simpa using hopen) hlen, ← h.place_eq, he] at hl
      cases Except.ok.inj hl
  · have hc := empties_clear v m
    exact h.lstat_shrunk hm hc.shrinks hc.cwd horigin ((htree _).trans (if_pos hunder))

end Last

end Volume

namespace Directory

open BuildHarvest.Action
open BuildHarvest.Tree (isUnder isUnder_iff)
open BuildHarvest.Volume (Descends Ordinary place stationsFrom)

variable {p : Path} {w w' : World}

/-! ## The whole -/

/-- What is named without being a directory, or not there, is left as it is. -/
theorem clear_again (hl : w.volume.lstat p ≠ .ok .dir) (hn : ∀ e, w.volume.lstat p = .error e → e = .noEntry) :
    ∃ w', (clear p).on w = (.ok (), w') ∧ w'.volume = w.volume := by
  obtain ⟨r, w', hon, hv, hr, -⟩ := clear_spared hl
  rw [hr.mpr hn] at hon
  exact ⟨w', hon, hv⟩

/-- What a clearing that succeeded took away, and that another takes nothing. -/
theorem clear_exact (hr : w.volume.tree.Rooted) (hne : Volume.steps p ≠ []) (hs : Descends (Volume.steps p))
    (hd : w.volume.Direct p) (h : (clear p).on w = (.ok (), w')) :
    (w.volume.Cleared w'.volume (place w.volume.cwd p) ↔ ∀ d, ¬ w.volume.Noose p d) ∧
    (∀ d, w.volume.Noose p d → ∀ m, w'.volume.tree.get? m = if isUnder d m then none else w.volume.tree.get? m) ∧
    ∃ w'', (clear p).on w' = (.ok (), w'') ∧ w''.volume = w'.volume := by
  obtain ⟨init, name, hlast⟩ := Volume.exists_last hne hs hd
  obtain ⟨hl, hn, hv⟩ | ⟨hl, hrm⟩ : (w.volume.lstat p ≠ .ok .dir ∧ (∀ e, w.volume.lstat p = .error e → e = .noEntry) ∧
      w'.volume = w.volume) ∨ w.volume.lstat p = .ok .dir ∧ w.volume.removeAll p = (.ok (), w'.volume) := by
    rcases clear_ok h with ⟨hl, hv⟩ | hremoved | ⟨e, hl, he, hv⟩
    · exact .inl ⟨by simp [hl], fun e he => by rw [hl] at he; exact (Except.error.inj he).symm, hv⟩
    · exact .inr hremoved
    · exact .inl ⟨by simp [hl, he], fun e he => (by rw [hl] at he; cases he), hv⟩
  · -- what is named is no directory
    have hnoose : ∀ d, ¬ w.volume.Noose p d := by
      rintro d ⟨hopen, -, hlead, -⟩
      rw [Volume.lstat, if_pos hopen] at hl
      exact hl (Volume.stat_dir_iff_leadsTo.mpr ⟨d, hlead⟩)
    exact ⟨⟨fun _ => hnoose, fun _ => .inr ⟨hlast.not_dir hr hl hn, hv⟩⟩, fun d hd => absurd hd (hnoose d),
      clear_again (hv ▸ hl) (hv ▸ hn)⟩
  · obtain ⟨m, hm⟩ := hlast.leadsTo_of_lstat hl
    -- nothing is left to be named, so another clearing finds nothing
    have again (hnext : w'.volume.lstat p = .error .noEntry) : ∃ w'', (clear p).on w' = (.ok (), w'') ∧ w''.volume = w'.volume :=
      clear_again (by simp [hnext]) fun e h => by rw [hnext] at h; exact (Except.error.inj h).symm
    obtain ⟨_, _, _, _, ⟨he, -⟩ | ⟨target, he⟩⟩ := hlast.of_leadsTo hm
    · obtain ⟨hcleared, hnext⟩ := hlast.cleared_dir hm he hrm
      have hnoose : ∀ d, ¬ w.volume.Noose p d := by
        rintro d ⟨-, ⟨target, hlink⟩, -⟩
        rw [he] at hlink
        cases hlink
      exact ⟨⟨fun _ => hnoose, fun _ => hcleared⟩, fun d hd => absurd hd (hnoose d), again hnext⟩
    · obtain ⟨hnoose, htree, hnext⟩ := hlast.cleared_link hl hm he hrm
      refine ⟨⟨fun hcleared => ?_, fun hno => absurd hnoose (hno m)⟩, fun d hd => ?_, again hnext⟩
      · -- the link was there and has gone
        exfalso
        have hgone := (htree (place w.volume.cwd p)).trans (if_pos hnoose.2.2.2)
        rcases hcleared with ⟨hdir, _⟩ | ⟨_, hsame⟩
        · rw [he] at hdir
          cases hdir
        · rw [hsame, he] at hgone
          cases hgone
      · obtain rfl := Except.ok.inj (hm.1.symm.trans hd.2.2.1.1)
        exact htree

/-- A directory `lib` with a file and a link out of it, to the directory `kept` of a file beside it. -/
def linkedOut : World := worldOf [
  ([Utf8.encode "lib"], .dir), ([Utf8.encode "lib", Utf8.encode "old"], .file [1]),
  ([Utf8.encode "lib", Utf8.encode "out"], .link (.ofText "../kept")),
  ([Utf8.encode "kept"], .dir), ([Utf8.encode "kept", Utf8.encode "a"], .file [2])]

/-- What a link inside leads to stays when `lib` is cleared. -/
theorem a_link_inside_is_not_followed : linkedOut.volume.tree.Rooted ∧ Volume.steps (.ofText "lib") ≠ [] ∧
    Descends (Volume.steps (.ofText "lib")) ∧ linkedOut.volume.Direct (.ofText "lib") ∧
    ∃ w', (clear (.ofText "lib")).on linkedOut = (.ok (), w') ∧
      ∀ m, w'.volume.tree.get? m = if [Utf8.encode "lib"] <+: m then none else linkedOut.volume.tree.get? m := by
  have hr : linkedOut.volume.tree.Rooted := Tree.rooted_of_entries (by decide)
  have hsteps : Volume.steps (.ofText "lib") = [.down (Utf8.encode "lib")] := by decide
  have hs : Descends (Volume.steps (.ofText "lib")) := by
    rw [hsteps]
    simp [Volume.Descends]
  have hd : linkedOut.volume.Direct (.ofText "lib") := by
    intro m hm target
    rw [hsteps] at hm
    obtain rfl : m = [] := List.mem_singleton.mp hm
    simp
  have hne : Volume.steps (.ofText "lib") ≠ [] := by simp [hsteps]
  have hplace : place linkedOut.volume.cwd (.ofText "lib") = [Utf8.encode "lib"] := by decide
  obtain ⟨⟨_, w'⟩, hdone⟩ := Option.isSome_iff_exists.mp
    (show ((clear (.ofText "lib")).done? linkedOut).isSome = true by decide +kernel)
  have hon := done?_eq_some.mp hdone
  obtain ⟨hiff, -, -⟩ := clear_exact hr hne hs hd hon
  refine ⟨hr, hne, hs, hd, w', hon, ?_⟩
  rw [hplace] at hiff
  rcases hiff.mpr fun d hnoose => absurd hnoose.1 (by decide) with ⟨_, hexact⟩ | ⟨hdir, _⟩
  · exact hexact
  · exact absurd (by decide) hdir

/-- A directory `kept` with a file, and a link in it to the directory itself. -/
def noosed : World := worldOf [([Utf8.encode "kept"], .dir), ([Utf8.encode "kept", Utf8.encode "a"], .file [2]),
  ([Utf8.encode "kept", Utf8.encode "loop"], .link (.ofText "."))]

/-- With a separator behind it, a link is cleared that lies in the directory it leads to, and with it all that is there. -/
theorem a_noose_takes_what_is_around_it : (clear (.ofText "kept/loop/")).failure? noosed = none ∧
    noosed.volume.tree.get? [Utf8.encode "kept", Utf8.encode "loop"] = some (.link (.ofText ".")) ∧
    noosed.volume.tree.get? [Utf8.encode "kept", Utf8.encode "a"] = some (.file [2]) ∧
    ((clear (.ofText "kept/loop/")).on noosed).2.volume.tree.get? [Utf8.encode "kept", Utf8.encode "loop"] = none ∧
    ((clear (.ofText "kept/loop/")).on noosed).2.volume.tree.get? [Utf8.encode "kept", Utf8.encode "a"] = none ∧
    ((clear (.ofText "kept/loop/")).on noosed).2.volume.tree.get? [Utf8.encode "kept"] = some .dir := by
  refine ⟨?_, ?_, ?_, ?_, ?_, ?_⟩ <;> decide +kernel

end Directory

end BuildHarvest
