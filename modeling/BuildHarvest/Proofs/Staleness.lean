/-
  BuildHarvest.Proofs.Staleness — what an earlier run left in the library directory.

  Proved, of every run that got to its downloads, in every tree (`run_fresh`):
  - All that is in the library directory at the end has come with the downloads, under the name
    of an item attempted in this run, or is the report, exactly when nothing was in it as they began.
  - Nothing was, and all that lay where the library directory's path led is gone, where the path
    names no link and every `..` in it is taken where something is (`Straight`).
  - Where the path names a link nothing is cleared, and what the directory behind it held is
    still there (`a_linked_library_keeps_what_it_held`).

  `a_way_back_made_late_keeps_what_was_there`: a `..` behind a directory that is missing does
  the same as a link.
-/

import BuildHarvest.Proofs.Sync

namespace BuildHarvest.Sync

open BuildHarvest.Action
open BuildHarvest.Directory (NamesLink)
open BuildHarvest.Tree (isUnder)

/-! ## The library directory from the downloads to the end -/

/-- What has come with the downloads: it was not there before, and is of an attempted name or the report. -/
def Stages.Brought (s : Stages) (params : Params) (v : Volume) (d l : Loc) : Prop :=
  s.renewed.volume.tree.get? l = none ∧
    ((∃ o ∈ s.outcomes, l = d ++ [Utf8.encode o.filename]) ∨ ∃ file, params.report = some file ∧ v.resolve file = .ok l)

section

variable {s : Stages} {params : Params} {w w' : World} {r : Except Failure Report} {d : Loc}

theorem extends_concluded (hs : s.Of params w) (hc : (conclude params.report s.report).on s.fetched = (r, w')) :
    s.renewed.Extends w' := by
  have := extends_conclude params.report s.report s.fetched
  rw [hc] at this
  exact hs.extends_fetched.trans this

/-- From an empty library directory on, all that is in it has been brought. -/
theorem brought_of_findsEmpty (hs : s.Of params w) (hc : (conclude params.report s.report).on s.fetched = (r, w'))
    (hd : s.renewed.volume.LeadsTo params.config.layout.libDir d) (hbare : s.FindsEmpty d) {l : Loc} (hu : isUnder d l = true)
    (hsome : w'.volume.tree.get? l ≠ none) : s.Brought params w'.volume d l := by
  refine ⟨hbare l hu, ?_⟩
  rcases (conclude_frame hc).1 with hv | ⟨file, l', v, contents, hfile, hcreate, hv⟩
  · rw [hv] at hsome
    exact .inl (hs.attempted_of_fetched hd hbare hu hsome)
  · have hput := Volume.puts_of_create hcreate contents
    by_cases he : l = l'
    · subst he
      exact .inr ⟨file, hfile, hv ▸ Volume.resolve_create hcreate _⟩
    · rw [hv, hput.other he] at hsome
      exact .inl (hs.attempted_of_fetched hd hbare hu hsome)

/-- What is there when the downloads begin is there at the end. -/
theorem findsEmpty_iff (hs : s.Of params w) (hc : (conclude params.report s.report).on s.fetched = (r, w'))
    (hd : s.renewed.volume.LeadsTo params.config.layout.libDir d) :
    s.FindsEmpty d ↔ ∀ l, isUnder d l = true → w'.volume.tree.get? l ≠ none → s.Brought params w'.volume d l := by
  constructor
  · intro hbare l hu hsome
    exact brought_of_findsEmpty hs hc hd hbare hu hsome
  · intro hall l hu
    cases he : s.renewed.volume.tree.get? l with
    | none => rfl
    | some e =>
      obtain ⟨e', he', _⟩ := (extends_concluded hs hc).volume.grows l e he
      have := (hall l hu (by rw [he']; simp)).1
      rw [he] at this
      cases this

end

/-! ## A whole run -/

/-- The library directory after a run that succeeded or failed for a download. -/
theorem run_fresh {params : Params} {w w' : World} {r : Except Failure Report} (hr : w.volume.tree.Rooted)
    (h : (run params).on w = (r, w')) (hdel : Delivers r) : ∃ (s : Stages) (d : Loc), s.Of params w ∧
      w'.volume.LeadsTo params.config.layout.libDir d ∧
      (s.FindsEmpty d ↔ ∀ l, isUnder d l = true → w'.volume.tree.get? l ≠ none → s.Brought params w'.volume d l) ∧
      (¬ NamesLink s.worked.volume params.config.layout.libDir → s.cleared.volume.Straight params.config.layout.libDir →
        s.FindsEmpty d ∧ ∀ d₀ l, w.volume.resolve params.config.layout.libDir = .ok d₀ → isUnder d₀ l = true →
          s.cleared.volume.tree.get? l = none) ∧
      (NamesLink s.worked.volume params.config.layout.libDir →
        s.worked.volume.LeadsTo params.config.layout.libDir d ∧ s.renewed.volume = s.worked.volume) := by
  obtain ⟨s, hs, hc⟩ := run_stages h hdel
  obtain ⟨d, hd⟩ := Directory.ensure_leadsTo hs.renewed
  have hworked := hs.extends_worked.volume.rooted hr
  refine ⟨s, d, hs, (extends_concluded hs hc).volume.leadsTo hd, findsEmpty_iff hs hc hd, fun hl hstraight => ?_, fun hl => ?_⟩
  · obtain ⟨d', hd', hbare⟩ := Directory.renew_empty (hs.rooted_cleared hr) hl hstraight hs.cleared hs.renewed
    obtain rfl := Except.ok.inj (hd.1.symm.trans hd'.1)
    refine ⟨hbare, fun d₀ l hd₀ hu => ?_⟩
    exact Directory.gone_of_clear hworked hl hs.cleared (hs.extends_worked.volume.resolve hd₀) hu
  · obtain ⟨_, hv, _⟩ := Directory.renew_link hworked hl hs.cleared hs.renewed
    exact ⟨hv ▸ hd, hv⟩

theorem fresh_after_a_small_run : ∃ r w', (run oneLibrary).on usedWorld = (r, w') ∧
    ∃ (s : Stages) (d : Loc), s.Of oneLibrary usedWorld ∧ w'.volume.LeadsTo ⟨Utf8.encode "w/l"⟩ d ∧
      ∀ l, isUnder d l = true → w'.volume.tree.get? l ≠ none → ∃ o ∈ s.outcomes, l = d ++ [Utf8.encode o.filename] := by
  have hr : usedWorld.volume.tree.Rooted := Tree.rooted_of_entries (by decide)
  have hrun : ((run oneLibrary).on usedWorld).1.toOption.isSome = true := by decide +kernel
  obtain ⟨report, hreport⟩ := on_of_isSome hrun
  obtain ⟨s, d, hs, hd, hall, hfresh, _⟩ := run_fresh hr hreport trivial
  refine ⟨_, _, hreport, s, d, hs, hd, fun l hl hsome => ?_⟩
  have hdir : s.worked.volume.lstat ⟨Utf8.encode "w/l"⟩ = .ok .dir := by
    have hstages : (stages? oneLibrary usedWorld).bind
        (fun s => (s.worked.volume.lstat ⟨Utf8.encode "w/l"⟩).toOption) = some .dir := by decide +kernel
    rw [stages?_eq_some.mpr hs] at hstages
    exact ok_of_toOption hstages
  have hlink : ¬ NamesLink s.worked.volume ⟨Utf8.encode "w/l"⟩ := by
    rintro ⟨target, ht⟩
    cases hdir.symm.trans ht
  have hstraight : s.cleared.volume.Straight ⟨Utf8.encode "w/l"⟩ :=
    ⟨[], Volume.steps ⟨Utf8.encode "w/l"⟩, _, rfl, Volume.walk_nil _ _ _, by decide⟩
  rcases (hall.mp (hfresh hlink hstraight).1 l hl hsome).2 with ho | ⟨file, hf, _⟩
  · exact ho
  · cases hf

/-- A library directory that is a link to a directory with a file of an earlier run. -/
def linkedWorld : World := smallWorld [
  ([Utf8.encode "w"], .dir), ([Utf8.encode "w", Utf8.encode "l"], .link ⟨Utf8.encode "kept"⟩),
  ([Utf8.encode "w", Utf8.encode "kept"], .dir), ([Utf8.encode "w", Utf8.encode "kept", Utf8.encode "old"], .file [1])]

theorem a_linked_library_keeps_what_it_held : linkedWorld.volume.tree.Rooted ∧ ∃ report w',
    (run (smallParams "w" "l" ⟨[], by decide⟩)).on linkedWorld = (.ok report, w') ∧ report.outcomes = [] ∧
      w'.volume.LeadsTo ⟨Utf8.encode "w/l"⟩ [Utf8.encode "w", Utf8.encode "kept"] ∧
      w'.volume.tree.get? [Utf8.encode "w", Utf8.encode "kept", Utf8.encode "old"] = some (.file [1]) := by
  have hrun : ((run (smallParams "w" "l" ⟨[], by decide⟩)).on linkedWorld).1.toOption = some ⟨"http://[::]", "http://[::]/", []⟩ := by
    decide +kernel
  refine ⟨Tree.rooted_of_entries (by decide), _, _, on_of_toOption hrun, rfl, ⟨ok_of_toOption ?_, ?_⟩, ?_⟩
  · decide +kernel
  · decide +kernel
  · decide +kernel

/-- What `..` is taken from is made after the clearing, which found nothing to clear. -/
theorem a_way_back_made_late_keeps_what_was_there : ∃ report w',
    (run (smallParams "w" "new/../l" ⟨[], by decide⟩)).on usedWorld = (.ok report, w') ∧ report.outcomes = [] ∧
      w'.volume.LeadsTo ⟨Utf8.encode "w/new/../l"⟩ [Utf8.encode "w", Utf8.encode "l"] ∧
      w'.volume.tree.get? [Utf8.encode "w", Utf8.encode "l", Utf8.encode "old"] = some (.file [1]) := by
  have hrun : ((run (smallParams "w" "new/../l" ⟨[], by decide⟩)).on usedWorld).1.toOption
      = some ⟨"http://[::]", "http://[::]/", []⟩ := by decide +kernel
  refine ⟨_, _, on_of_toOption hrun, rfl, ⟨ok_of_toOption ?_, ?_⟩, ?_⟩
  · decide +kernel
  · decide +kernel
  · decide +kernel

end BuildHarvest.Sync
