/-
  BuildHarvest.Proofs.Independence — what lay in the library directory has no part in a run.

  Proved (`run_independent`): two runs in worlds that hold the same outside of the library directory,
  where nothing or a directory is in each, come to the same result and ask for the same; and unless
  they fail before their downloads they leave the same tree. Links lie in the library directory
  only, the names in the workspace differ, and the path of the workspace does not go through the
  library directory: making what is missing of that path meets what lay there
  (`a_workspace_behind_its_library_meets_what_lay_there`).

  Up to the clearing all paths go past the library directory, so both worlds agree apart from it;
  what is cleared is gone in both, so they agree everywhere then (`meets_clear`).
-/

import BuildHarvest.Proofs.Agreement
import BuildHarvest.Proofs.EarlyFailure

namespace BuildHarvest.Sync

open BuildHarvest.Action
open Volume (Avoids)

variable {α β : Type} {cwd : Loc} {X : Loc → Prop}

/-- No place at all is left out. -/
def Nowhere (_ : Loc) : Prop := False

theorem avoids_nowhere (cwd : Loc) (p : Path) : Avoids Nowhere cwd p := fun _ _ => id

/-! ## Two runs of an action -/

/-- What an action comes to in two worlds: an early failure, the same one after the same requests, or
the same result in worlds that agree everywhere. -/
inductive Meets (cwd : Loc) (x x' : Except Failure α × World) : Prop where
  | failed (e : Failure) (early : e.IsEarly) (here : x.1 = .error e) (there : x'.1 = .error e)
    (network : x'.2.network = x.2.network)
  | agreed (result : x'.1 = x.1) (agree : World.Agree cwd Nowhere x.2 x'.2)

theorem meets_of_blind {a : Action Failure α} (ha : Blind cwd Nowhere a) {u u' : World} (h : World.Agree cwd Nowhere u u') :
    Meets cwd (a.on u) (a.on u') :=
  .agreed (ha u u' h).1 (ha u u' h).2

/-- What is blind goes on from where the two runs have met. -/
theorem Meets.bind {a : Action Failure α} {f : α → Action Failure β} {u u' : World} (h : Meets cwd (a.on u) (a.on u'))
    (hf : ∀ x, Blind cwd Nowhere (f x)) : Meets cwd ((a >>= f).on u) ((a >>= f).on u') := by
  rw [on_bind, on_bind]
  generalize a.on u = x at h
  generalize a.on u' = x' at h
  obtain ⟨r, v⟩ := x
  obtain ⟨r', v'⟩ := x'
  cases h with
  | failed e early here there network =>
    obtain rfl : r = .error e := here
    obtain rfl : r' = .error e := there
    exact .failed e early rfl rfl network
  | agreed result agree =>
    obtain rfl : r' = r := result
    cases r' with
    | error e => exact .agreed rfl agree
    | ok x => exact meets_of_blind (hf x) agree

/-- Two runs that agree apart from some places come to meet if they do after a part that is blind to these. -/
theorem meets_bind {a : Action Failure α} {f : α → Action Failure β} {u u' : World} (ha : Blind cwd X a)
    (he : FailsBy Failure.IsEarly a) (h : World.Agree cwd X u u')
    (hf : ∀ x v v', a.on u = (.ok x, v) → a.on u' = (.ok x, v') → World.Agree cwd X v v' → Meets cwd ((f x).on v) ((f x).on v')) :
    Meets cwd ((a >>= f).on u) ((a >>= f).on u') := by
  obtain ⟨hr, hagree⟩ := ha u u' h
  rw [on_bind, on_bind]
  rcases hv : a.on u with ⟨r, v⟩
  rcases hv' : a.on u' with ⟨r', v'⟩
  rw [hv, hv'] at hr hagree
  obtain rfl : r' = r := hr
  cases r' with
  | error e => exact .failed e (he u v e hv) rfl rfl hagree.network
  | ok x => exact hf x v v' hv hv' hagree

/-! ## The clearing -/

/-- Two worlds that agree apart from a name, where nothing or a directory is in each, meet when that
name is cleared. -/
theorem meets_clear {d : Loc} {p : Path} {name : Bytes} {u u' : World} (hn : Path.IsName name)
    (h : World.Agree cwd (fun l => d ++ [name] <+: l) u u') (hway : Avoids (fun l => d ++ [name] <+: l) cwd p)
    (hd : u.volume.LeadsTo p d) (hr : u.volume.tree.Rooted) (hr' : u'.volume.tree.Rooted)
    (he : u.volume.tree.get? (d ++ [name]) = none ∨ u.volume.tree.get? (d ++ [name]) = some .dir)
    (he' : u'.volume.tree.get? (d ++ [name]) = none ∨ u'.volume.tree.get? (d ++ [name]) = some .dir) :
    Meets cwd ((Directory.clear (p.join ⟨name⟩)).on u) ((Directory.clear (p.join ⟨name⟩)).on u') := by
  obtain rfl := h.here
  have hd' := h.volume.leadsTo hway hd
  have hplain := h.volume.plainFrom hway
  have hway' : Avoids (fun l => d ++ [name] <+: l) u'.volume.cwd p := h.volume.cwd ▸ hway
  have hplain' : u'.volume.Plain p := fun m hm target hlink => by
    refine hway' m hm (h.volume.links m target ?_)
    rw [← h.volume.same m (hway' m hm), hlink]
  cases hrf : Volume.refusal? p name with
  | some e =>
    rw [Directory.clear_name_refused hn hd hrf, Directory.clear_name_refused hn hd' hrf]
    exact .failed (.directoryClear (p.join ⟨name⟩) e.reason) trivial rfl rfl h.network
  | none =>
    obtain ⟨w, hclear, hnet, hempty, hnone⟩ := Directory.clear_name hn hd hrf hr hplain hway he
    obtain ⟨w', hclear', hnet', hempty', hnone'⟩ := Directory.clear_name hn hd' hrf hr' hplain' hway' he'
    rw [hclear, hclear']
    refine .agreed rfl ⟨⟨?_, fun l _ => ?_, fun l target hlink => ?_⟩,
      (hempty'.rooms.trans h.rooms).trans hempty.rooms.symm, (hnet'.trans h.network).trans hnet.symm, hempty.cwd⟩
    · exact (hempty'.cwd.trans h.volume.cwd).trans hempty.cwd.symm
    · by_cases hl : d ++ [name] <+: l
      · rw [hempty.gone hnone hl, hempty'.gone hnone' hl]
      · rw [hempty.apart hl, hempty'.apart hl, h.volume.same l hl]
    · by_cases hl : d ++ [name] <+: l
      · rw [hempty.gone hnone hl] at hlink
        cases hlink
      · rw [hempty.apart hl] at hlink
        exact hl (h.volume.links l target hlink)

/-! ## Two runs -/

/-- Nothing, or a directory, is at a place. -/
def NothingOrDir (w : World) (l : Loc) : Prop := w.volume.tree.get? l = none ∨ w.volume.tree.get? l = some .dir

/-- Two worlds that differ in the library directory only, where nothing or a directory is in each. -/
structure DifferInLibrary (params : Params) (w w' : World) : Prop where
  rooted : w.volume.tree.Rooted ∧ w'.volume.tree.Rooted
  here : NothingOrDir w (library params w)
  there : NothingOrDir w' (library params w)
  cwd : w'.volume.cwd = w.volume.cwd
  rooms : w'.volume.tree.rooms = w.volume.tree.rooms
  network : w'.network = w.network
  same : ∀ l, ¬ library params w <+: l → w'.volume.tree.get? l = w.volume.tree.get? l

section

variable {params : Params} {w w' : World}

theorem LibraryApart.of_agree (h : LibraryApart params w)
    (hagree : World.Agree w.volume.cwd (fun l => library params w <+: l) w w') : LibraryApart params w' where
  names := h.names
  way := by
    rw [library, hagree.volume.cwd]
    exact h.way
  links l target hlink := by
    rw [library, hagree.volume.cwd]
    by_cases hl : library params w <+: l
    · exact hl
    · rw [hagree.volume.same l hl] at hlink
      exact h.links l target hlink

/-- Two runs that have located their build meet when their directories are prepared. -/
theorem meets_prepare (h : LibraryApart params w) (h' : LibraryApart params w') (hlib : NothingOrDir w (library params w))
    (hlib' : NothingOrDir w' (library params w')) {u u' : World} (hq : Quiet params w u) (hq' : Quiet params w' u')
    (hagree : World.Agree w.volume.cwd (fun l => library params w <+: l) u u') (hr : u.volume.tree.Rooted)
    (hr' : u'.volume.tree.Rooted) {d : Loc} (hd : u.volume.LeadsTo params.config.workspace d) :
    Meets w.volume.cwd ((prepare params.config.layout).on u) ((prepare params.config.layout).on u') := by
  have hwork : Avoids (fun l => library params w <+: l) w.volume.cwd params.config.layout.workDir :=
    h.wayOfName h.names.work h.names.workNe
  have hplace := Volume.resolve_plain (hq.plain h h.way) hd.1
  rw [hq.cwd] at hplace
  have hlibrary : library params w = d ++ [Utf8.encode params.config.libDir] := by rw [library_eq h.names.lib, hplace]
  have hcwd : library params w' = library params w := by
    rw [library, library, ← hq'.cwd, hagree.volume.cwd, hq.cwd]
  refine meets_bind (Directory.blind_ensure hwork) (failsBy_ensure _) hagree fun _ v v' hv hv' hagree => ?_
  have hadds := Directory.adds_ensure params.config.layout.workDir u
  have hadds' := Directory.adds_ensure params.config.layout.workDir u'
  have hq := quiet_work h hq
  have hq' := quiet_work h' hq'
  rw [hv] at hadds hq
  rw [hv'] at hadds' hq'
  refine Meets.bind ?_ fun _ => Directory.blind_ensure (avoids_nowhere _ _)
  have hway := h.way
  have hthere := hq.kept h (List.prefix_refl _)
  have hthere' := hq'.kept h' (List.prefix_refl _)
  rw [NothingOrDir] at hlib hlib'
  rw [← hthere] at hlib
  rw [← hthere', hcwd] at hlib'
  rw [hlibrary] at hagree hway hlib hlib'
  exact meets_clear h.names.lib hagree hway (hadds.leadsTo hd) (hadds.rooted hr) (hadds'.rooted hr') hlib hlib'

/-- Two runs in worlds that differ in the library directory only. -/
theorem meets_run (h : LibraryApart params w) (hd : DifferInLibrary params w w') :
    Meets w.volume.cwd ((run params).on w) ((run params).on w') := by
  have hagree : World.Agree w.volume.cwd (fun l => library params w <+: l) w w' := ⟨⟨hd.cwd, hd.same, h.links⟩, hd.rooms, hd.network, rfl⟩
  have h' := h.of_agree hagree
  have hstatus : Avoids (fun l => library params w <+: l) w.volume.cwd params.config.layout.statusFile :=
    h.wayOfName h.names.status h.names.statusNe
  have hlibrary : library params w' = library params w := by rw [library, library, hd.cwd]
  refine meets_bind (blind_locate h.way hstatus) (failsBy_locate _ _) hagree fun located u u' hu hu' hagree => ?_
  obtain ⟨build, base⟩ := located
  have hq := quiet_locate h
  have hq' := quiet_locate h'
  have hext := extends_locate params.config params.config.layout w
  have hext' := extends_locate params.config params.config.layout w'
  rw [hu] at hq hext
  rw [hu'] at hq' hext'
  obtain ⟨d, hlead⟩ := locate_leadsTo hu
  refine Meets.bind ?_ fun _ => blind_bind (blind_fetchAll fun _ _ => avoids_nowhere _ _) fun _ =>
    blind_conclude _ fun _ _ => avoids_nowhere _ _
  exact meets_prepare h h' hd.here (hlibrary ▸ hd.there) hq hq' hagree (hext.volume.rooted hd.rooted.1)
    (hext'.volume.rooted hd.rooted.2) hlead

/-- What lay in the library directory has no part in a run. -/
theorem run_independent (h : LibraryApart params w) (hd : DifferInLibrary params w w') :
    ((run params).on w').1 = ((run params).on w).1 ∧
      ((run params).on w').2.network = ((run params).on w).2.network ∧
      ((∀ e, ((run params).on w).1 = .error e → ¬ e.IsEarly) →
        ∀ l, ((run params).on w').2.volume.tree.get? l = ((run params).on w).2.volume.tree.get? l) := by
  cases meets_run h hd with
  | failed e early here there network =>
    exact ⟨by rw [here, there], network, fun hlate => absurd early (hlate e here)⟩
  | agreed result agree => exact ⟨result, agree.network, fun _ l => agree.volume.same l id⟩

end

/-! ## Runs that should not differ -/

/-- A workspace, with what lies beside its library directory and what is held there. -/
def worldWith (beside held : List (Loc × Entry)) : World := smallWorld ([([Utf8.encode "w"], .dir)] ++ beside ++ held)

/-- Entries under a place do not come into what is seen elsewhere. -/
theorem get?_append_apart {d l : Loc} (hl : ¬ d <+: l) (entries more : List (Loc × Entry)) (hm : ∀ e ∈ more, d <+: e.1) :
    Tree.get? ⟨entries ++ more, []⟩ l = Tree.get? ⟨entries, []⟩ l := by
  by_cases h0 : l = []
  · rw [h0, Tree.get?_root, Tree.get?_root]
  · have hnone : more.lookup l = none := by
      refine List.lookup_eq_none_iff.mpr fun e he => bne_iff_ne.mpr ?_
      rintro rfl
      exact hl (hm e he)
    simp only [Tree.get?, h0, if_false, List.lookup_append, hnone, Option.or_none]

theorem differ_in_library {params : Params} {beside held : List (Loc × Entry)}
    (hlibrary : library params (worldWith beside []) = [Utf8.encode "w", Utf8.encode "l"])
    (hrooted : (worldWith beside []).volume.tree.Rooted) (hrooted' : (worldWith beside held).volume.tree.Rooted)
    (hheld : ∀ e ∈ held, [Utf8.encode "w", Utf8.encode "l"] <+: e.1)
    (hhere : NothingOrDir (worldWith beside []) [Utf8.encode "w", Utf8.encode "l"])
    (hthere : NothingOrDir (worldWith beside held) [Utf8.encode "w", Utf8.encode "l"]) :
    DifferInLibrary params (worldWith beside []) (worldWith beside held) where
  rooted := ⟨hrooted, hrooted'⟩
  here := hlibrary ▸ hhere
  there := hlibrary ▸ hthere
  cwd := rfl
  rooms := rfl
  network := rfl
  same l hl := by
    rw [hlibrary] at hl
    exact (get?_append_apart hl _ held hheld).trans (get?_append_apart hl _ [] (by simp)).symm

/-- A library directory where a directory has the name of the library, and a link is. -/
def litter : List (Loc × Entry) := [
  ([Utf8.encode "w", Utf8.encode "l"], .dir), ([Utf8.encode "w", Utf8.encode "l", Utf8.encode "a"], .dir),
  ([Utf8.encode "w", Utf8.encode "l", Utf8.encode "a", Utf8.encode "x"], .link (.ofText "/"))]

theorem litter_has_no_part : ∃ report w₁ w₂, (run oneLibrary).on (worldWith [] []) = (.ok report, w₁) ∧
    (run oneLibrary).on (worldWith [] litter) = (.ok report, w₂) ∧ ∀ l, w₂.volume.tree.get? l = w₁.volume.tree.get? l := by
  have hrun : ((run oneLibrary).on (worldWith [] [])).1.toOption.isSome = true := by decide +kernel
  obtain ⟨report, hfresh⟩ := on_of_isSome hrun
  have hapart : LibraryApart oneLibrary (worldWith [] []) :=
    ⟨plainNames_small "w" ⟨["a"], by decide⟩, by decide, fun l target h => absurd h (Tree.linkFree_of_entries (by decide) l target)⟩
  have hdiffer : DifferInLibrary oneLibrary (worldWith [] []) (worldWith [] litter) :=
    differ_in_library (by decide) (Tree.rooted_of_entries (by decide)) (Tree.rooted_of_entries (by decide)) (by decide)
      (.inl (by decide)) (.inr (by decide))
  obtain ⟨hresult, _, htree⟩ := run_independent hapart hdiffer
  have hlate : ∀ e, ((run oneLibrary).on (worldWith [] [])).1 = .error e → ¬ e.IsEarly := fun e he => by
    rw [hfresh] at he
    cases he
  have hlittered : ((run oneLibrary).on (worldWith [] litter)).1.toOption = some report := by
    rw [hresult, hfresh]
    rfl
  exact ⟨report, _, _, hfresh, on_of_toOption hlittered, htree hlate⟩

/-- Two runs that should come to the same, and do not. -/
structure ComeApart (params : Params) (w w' : World) : Prop where
  names : PlainNames params.config
  differ : DifferInLibrary params w w'
  linkFree : w.volume.tree.LinkFree ∧ w'.volume.tree.LinkFree
  results : ((run params).on w).1 ≠ ((run params).on w').1

theorem results_ne {params : Params} {w w' : World} (h : (run params).failure? w ≠ (run params).failure? w') :
    ((run params).on w).1 ≠ ((run params).on w').1 := fun hsame => h (by rw [failure?, failure?, hsame])

/-- Where the path of the workspace goes through the library directory, what lay there comes into the
run: a file under it is in the way of a directory, and a directory at it opens the way to a file. -/
theorem a_workspace_behind_its_library_meets_what_lay_there :
    ComeApart (smallParams "w/l/x/../.." "l" ⟨["a"], by decide⟩) (worldWith [] [])
      (worldWith [] [([Utf8.encode "w", Utf8.encode "l"], .dir),
        ([Utf8.encode "w", Utf8.encode "l", Utf8.encode "x"], .file [])]) ∧
    ComeApart (smallParams "w/l/../f/.." "l" ⟨["a"], by decide⟩) (worldWith [([Utf8.encode "w", Utf8.encode "f"], .file [])] [])
      (worldWith [([Utf8.encode "w", Utf8.encode "f"], .file [])] [([Utf8.encode "w", Utf8.encode "l"], .dir)]) := by
  have hran : (run (smallParams "w/l/x/../.." "l" ⟨["a"], by decide⟩)).failure? (worldWith [] []) = none := by decide +kernel
  have hheld : (run (smallParams "w/l/x/../.." "l" ⟨["a"], by decide⟩)).failure? (worldWith []
      [([Utf8.encode "w", Utf8.encode "l"], .dir), ([Utf8.encode "w", Utf8.encode "l", Utf8.encode "x"], .file [])]) =
      some (.directoryConflict (.ofText "w/l/x")) := by decide +kernel
  have hmade : (run (smallParams "w/l/../f/.." "l" ⟨["a"], by decide⟩)).failure?
      (worldWith [([Utf8.encode "w", Utf8.encode "f"], .file [])] []) =
      some (.directoryCreation (.ofText "w/l/../f") Errno.occupied.reason) := by decide +kernel
  have hthere : (run (smallParams "w/l/../f/.." "l" ⟨["a"], by decide⟩)).failure?
      (worldWith [([Utf8.encode "w", Utf8.encode "f"], .file [])] [([Utf8.encode "w", Utf8.encode "l"], .dir)]) =
      some (.directoryConflict (.ofText "w/l/../f")) := by decide +kernel
  constructor
  · refine ⟨plainNames_small _ _, ?_, ⟨Tree.linkFree_of_entries (by decide), Tree.linkFree_of_entries (by decide)⟩, results_ne ?_⟩
    · exact differ_in_library (by decide) (Tree.rooted_of_entries (by decide)) (Tree.rooted_of_entries (by decide)) (by decide)
        (.inl (by decide)) (.inr (by decide))
    · rw [hran, hheld]
      simp
  · refine ⟨plainNames_small _ _, ?_, ⟨Tree.linkFree_of_entries (by decide), Tree.linkFree_of_entries (by decide)⟩, results_ne ?_⟩
    · exact differ_in_library (by decide) (Tree.rooted_of_entries (by decide)) (Tree.rooted_of_entries (by decide)) (by decide)
        (.inl (by decide)) (.inr (by decide))
    · rw [hmade, hthere]
      simp

end BuildHarvest.Sync
