/-
  BuildHarvest.Proofs.Removal — what removing a directory with all that is in it does to a volume.

  Proved:
  - `rmdir_ok`: only a directory in which nothing is can be removed alone, and its path led to it.
  - `removeAll_ok`: what lay under a directory is gone, and so is the directory, unless its path
    led through what was under it (`removeAll_cases`).
  - `removeAll_name`: a directory beside the way to it is removed without fail.
-/

import BuildHarvest.Proofs.Volume

namespace BuildHarvest.Volume

open BuildHarvest.Tree (Grows isUnder isUnder_iff)

/-- What is under a directory is gone, perhaps the directory too. -/
structure Empties (v : Volume) (l : Loc) (v' : Volume) : Prop where
  under : ∀ m, isUnder l m = true → v'.tree.get? m = none
  self : v'.tree.get? l = none ∨ v'.tree.get? l = v.tree.get? l
  other : ∀ m, isUnder l m = false → m ≠ l → v'.tree.get? m = v.tree.get? m
  cwd : v'.cwd = v.cwd
  rooms : v'.tree.rooms = v.tree.rooms
  rooted : v.tree.Rooted → v'.tree.Rooted

theorem empties_clear (v : Volume) (l : Loc) : v.Empties l { v with tree := v.tree.clear l } where
  under m hm := by rw [Tree.get?_clear_all, if_pos hm]
  self := by
    rw [Tree.get?_clear_all, if_neg (fun h => (isUnder_iff.mp h).2 rfl)]
    exact .inr rfl
  other m hm _ := by rw [Tree.get?_clear_all, if_neg (by simp [hm])]
  cwd := rfl
  rooms := rfl
  rooted hr := Tree.rooted_clear hr l

theorem empties_remove {v v' : Volume} {l : Loc} (hl : l ≠ []) (h : v.Empties l v') :
    v.Empties l { v' with tree := v'.tree.remove l } where
  under m hm := by
    rw [Tree.get?_remove _ _ (Tree.isUnder_ne_nil hm), h.under m hm, ite_self]
  self := by rw [Tree.get?_remove _ _ hl, if_pos rfl]; exact .inl rfl
  other m hm hne := by
    by_cases h0 : m = []
    · subst h0
      exact (Tree.get?_root _).trans (Tree.get?_root _).symm
    · rw [Tree.get?_remove _ _ h0, if_neg hne, h.other m hm hne]
  cwd := h.cwd
  rooms := h.rooms
  rooted hr := Tree.rooted_remove (h.rooted hr) (Tree.isBare_iff.mpr h.under)

/-- Where nothing is, nothing is left to remove. -/
theorem empties_absent {v : Volume} {l : Loc} (hr : v.tree.Rooted) (h : v.tree.get? l = none) : v.Empties l v where
  under _ hm := Tree.rooted_absent hr h hm
  self := .inl h
  other _ _ _ := rfl
  cwd := rfl
  rooms := rfl
  rooted := id

/-- What is neither the emptied place nor under it is as it was. -/
theorem Empties.apart {v v' : Volume} {l m : Loc} (h : v.Empties l v') (hm : ¬ l <+: m) : v'.tree.get? m = v.tree.get? m := by
  refine h.other m ?_ ?_
  · cases hu : isUnder l m with
    | false => rfl
    | true => exact absurd (isUnder_iff.mp hu).1 hm
  · rintro rfl
    exact hm List.prefix_rfl

/-- Where the emptied place is gone itself, nothing lies at it. -/
theorem Empties.gone {v v' : Volume} {l m : Loc} (h : v.Empties l v') (hl : v'.tree.get? l = none) (hm : l <+: m) :
    v'.tree.get? m = none := by
  by_cases he : l = m
  · rw [← he, hl]
  · exact h.under m (isUnder_iff.mpr ⟨hm, he⟩)

theorem Empties.shrinks {v v' : Volume} {l : Loc} (h : v.Empties l v') : Grows v'.tree v.tree := by
  intro m e he
  refine ⟨e, ?_, .inl rfl⟩
  cases hu : isUnder l m with
  | true => rw [h.under m hu] at he; cases he
  | false =>
    by_cases hm : m = l
    · subst hm
      rcases h.self with hs | hs <;> rw [hs] at he
      · cases he
      · exact he
    · rw [← h.other m hu hm, he]

theorem Empties.linkFree {v v' : Volume} {l : Loc} (h : v.Empties l v') (hl : v.tree.LinkFree) : v'.tree.LinkFree :=
  fun m p hm => hl m p (h.shrinks.link hm)

theorem rmdir_ok {v v' : Volume} {p : Path} (h : v.rmdir p = .ok v') : ∃ l, v.LeadsTo p l ∧ l ≠ [] ∧
    v.tree.isBare l = true ∧ v' = { v with tree := v.tree.remove l } := by
  obtain ⟨g, hg, h⟩ := bind_ok h
  split at h
  · cases h
  · cases h
  · cases h
  · rename_i name hl
    obtain ⟨init, hs, hw, hd, hn⟩ := target_down hg hl
    split at h
    · cases h
    · rename_i he
      split at h
      · rename_i hb
        refine ⟨g.dir ++ [name], leadsTo_iff.mpr ⟨(target_ok hg).1, ⟨g.links, ?_⟩, he⟩, by simp, hb, (Except.ok.inj h).symm⟩
        rw [hs]
        exact trail_down hw hd hn he (fun _ e => by cases e)
      · cases h
    · cases h

/-- A directory that a path leads to is not missing when it is to be removed. -/
theorem rmdir_of_leadsTo {v : Volume} {p : Path} {d : Loc} (h : v.LeadsTo p d) : v.rmdir p ≠ .error .noEntry := by
  obtain ⟨g, hg, hdown⟩ := target_of_leadsTo h
  simp only [rmdir, hg, bind, Except.bind]
  split
  · simp
  · simp
  · simp
  · rename_i name hl
    rcases hdown name hl with he | ⟨target, he⟩ <;> rw [he]
    · simp only
      split <;> simp
    · simp

/-- What has been emptied, and can be removed where a path led. -/
theorem empties_rmdir {v v' : Volume} {p : Path} {l : Loc} (hl : v.resolve p = .ok l)
    (h : rmdir { v with tree := v.tree.clear l } p = .ok v') : v.Empties l v' ∧ v'.tree.get? l = none := by
  have hc := empties_clear v l
  obtain ⟨m, hm, hne, _, rfl⟩ := rmdir_ok h
  obtain rfl := Except.ok.inj ((resolve_grows hc.shrinks hc.cwd.symm hm.1).symm.trans hl)
  refine ⟨empties_remove hne hc, ?_⟩
  rw [Tree.get?_remove _ _ hne, if_pos rfl]

/-- A removal: what lies under the directory goes, then the directory as far as it can. It succeeds too
where the directory is not found any more, its path having led through what was under it. -/
theorem removeAll_cases {v v' : Volume} {p : Path} {r : Except Errno Unit} (h : v.removeAll p = (r, v')) :
    (∃ e, r = .error e ∧ v' = v) ∨ ∃ l, v.resolve p = .ok l ∧
      (rmdir { v with tree := v.tree.clear l } p = .ok v' ∨
        v' = { v with tree := v.tree.clear l } ∧ (r = .ok () → rmdir { v with tree := v.tree.clear l } p = .error .noEntry)) := by
  unfold removeAll at h
  split at h
  · exact .inl ⟨_, (Prod.mk.inj h).1.symm, (Prod.mk.inj h).2.symm⟩
  · rename_i l hl
    refine .inr ⟨l, hl, ?_⟩
    simp only at h
    split at h
    · rename_i v₁ hrm
      obtain rfl := (Prod.mk.inj h).2
      exact .inl hrm
    · rename_i hrm
      exact .inr ⟨(Prod.mk.inj h).2.symm, fun _ => hrm⟩
    · obtain ⟨hr, hv⟩ := Prod.mk.inj h
      exact .inr ⟨hv.symm, fun hok => by rw [hok] at hr; cases hr⟩

theorem removeAll_empties {v v' : Volume} {p : Path} {r : Except Errno Unit} (h : v.removeAll p = (r, v')) :
    v' = v ∨ ∃ l, v.resolve p = .ok l ∧ v.Empties l v' := by
  rcases removeAll_cases h with ⟨_, _, hv⟩ | ⟨l, hl, hrm | ⟨rfl, _⟩⟩
  · exact .inl hv
  · exact .inr ⟨l, hl, (empties_rmdir hl hrm).1⟩
  · exact .inr ⟨l, hl, empties_clear v l⟩

/-- After a removal that succeeded the path leads to no directory. -/
theorem removeAll_ok {v v' : Volume} {p : Path} (h : v.removeAll p = (.ok (), v')) :
    ∃ l, v.resolve p = .ok l ∧ v.Empties l v' ∧ ∀ d, ¬ v'.LeadsTo p d := by
  rcases removeAll_cases h with ⟨_, he, _⟩ | ⟨l, hl, hrm | ⟨rfl, hmissing⟩⟩
  · cases he
  · obtain ⟨he, hnone⟩ := empties_rmdir hl hrm
    refine ⟨l, hl, he, fun d hd => ?_⟩
    obtain rfl := Except.ok.inj ((resolve_grows he.shrinks he.cwd.symm hd.1).symm.trans hl)
    rw [hd.2] at hnone
    cases hnone
  · exact ⟨l, hl, empties_clear v l, fun d hd => rmdir_of_leadsTo hd (hmissing rfl)⟩

/-- A directory beside the way to it is removed with all that is in it, and the way is as it was. -/
theorem removeAll_name {v : Volume} {p : Path} {name : Bytes} {d : Loc} (hn : Path.IsName name) (hp : v.Plain p)
    (hd : v.LeadsTo p d) (hway : ∀ m ∈ stations v.cwd p, ¬ d ++ [name] <+: m) (h : v.lstat (p.join ⟨name⟩) = .ok .dir) :
    ∃ v', v.removeAll (p.join ⟨name⟩) = (.ok (), v') ∧ v.Empties (d ++ [name]) v' ∧ v'.LeadsTo p d ∧
      v'.tree.get? (d ++ [name]) = none := by
  obtain ⟨hc, hlen, he⟩ := lstat_name_dir hn hd h
  have hcleared := empties_clear v (d ++ [name])
  have hne : d ++ [name] ≠ [] := by simp
  have hspared {v' : Volume} (hv' : v.Empties (d ++ [name]) v') : v'.LeadsTo p d :=
    hd.agree hp hv'.cwd fun m hm => hv'.apart (hway m hm)
  have hself : (v.tree.clear (d ++ [name])).get? (d ++ [name]) = some .dir := by
    rw [Tree.get?_clear _ _ hne, if_neg (fun hu => (isUnder_iff.mp hu).2 rfl), he]
  have hbare : (v.tree.clear (d ++ [name])).isBare (d ++ [name]) = true := Tree.isBare_iff.mpr hcleared.under
  refine ⟨_, ?_, empties_remove hne hcleared, hspared (empties_remove hne hcleared), ?_⟩
  · rw [removeAll, (leadsTo_name hn hd hc hlen he).1]
    simp only
    rw [rmdir_name hn (hspared hcleared) hc hlen hself hbare]
  · simp only
    rw [Tree.get?_remove _ _ hne, if_pos rfl]

end BuildHarvest.Volume
