/-
  BuildHarvest.Proofs.ExactImage — the library directory after a run that succeeded.

  Proved (`run_exact`): in a tree without links, a run that succeeds leaves in its library
  directory exactly the manifest's files, each with the body that the servers finally give for
  it, and its report says so. The library directory is a plain name in the workspace, the report
  goes elsewhere, and the path of the workspace goes through nothing under the library directory:
  what it goes through is made again after the clearing
  (`a_workspace_behind_its_library_finds_more_than_files`).
-/

import BuildHarvest.Proofs.Sync

namespace BuildHarvest.Sync

open BuildHarvest.Action
open Download (Attempt lastDeposit?)
open BuildHarvest.Tree (isUnder isUnder_iff)
open Volume (place stations)

/-- In a directory there are files of some names, and nothing else. -/
structure Image (t : Tree) (d : Loc) (names : List String) (body : String → Bytes) : Prop where
  dir : t.get? d = some .dir
  entries : ∀ l, isUnder d l = true → ((t.get? l).isSome = true ↔ ∃ name ∈ names, l = d ++ [Utf8.encode name])
  file : ∀ name ∈ names, t.get? (d ++ [Utf8.encode name]) = some (.file (body name))

/-- Where the library directory is. -/
def library (params : Params) (w : World) : Loc := place w.volume.cwd params.config.layout.libDir

/-! ## An empty library directory -/

section

variable {s : Stages} {params : Params} {w : World}

/-- The workspace is there when the library directory is cleared. -/
theorem workspace_leadsTo (hs : s.Of params w) (hl : w.volume.tree.LinkFree) :
    s.worked.volume.LeadsTo params.config.workspace (place w.volume.cwd params.config.workspace) := by
  obtain ⟨d, hd⟩ := locate_leadsTo hs.located
  have hworked := extends_ensure params.config.layout.workDir s.located
  rw [hs.worked] at hworked
  have hd := hworked.volume.leadsTo hd
  have hplace := Volume.resolve_linkFree (hs.extends_worked.volume.linkFree hl) hd.1
  rw [hs.extends_worked.volume.cwd] at hplace
  rwa [← hplace]

theorem library_eq (hname : Path.IsName (Utf8.encode params.config.libDir)) :
    library params w = place w.volume.cwd params.config.workspace ++ [Utf8.encode params.config.libDir] :=
  Volume.place_join_name _ _ hname

/-- Once it has been cleared, nothing lies under a library directory with a plain name. -/
theorem cleared_bare (hs : s.Of params w) (hr : w.volume.tree.Rooted) (hl : w.volume.tree.LinkFree)
    (hname : Path.IsName (Utf8.encode params.config.libDir)) {l : Loc} (hu : isUnder (library params w) l = true) :
    s.cleared.volume.tree.get? l = none := by
  have hwl := hs.extends_worked.volume.linkFree hl
  rw [library_eq hname] at hu
  exact Directory.bare_of_clear_name hname (workspace_leadsTo hs hl) (hs.extends_worked.volume.rooted hr) (hwl _) hs.cleared hu

/-- The downloads find the library directory empty, if the workspace is not behind it. -/
theorem renewed_bare (hs : s.Of params w) (hr : w.volume.tree.Rooted) (hl : w.volume.tree.LinkFree)
    (hname : Path.IsName (Utf8.encode params.config.libDir))
    (hway : ∀ l ∈ stations w.volume.cwd params.config.workspace, isUnder (library params w) l = false) {l : Loc}
    (hu : isUnder (library params w) l = true) : s.renewed.volume.tree.get? l = none := by
  have hcleared := cleared_bare hs hr hl hname hu
  have hensure := Directory.ensure_linkFree params.config.layout.libDir (hs.linkFree_cleared hl) l
  rw [hs.renewed, hs.cwd_cleared] at hensure
  rcases hensure with hsame | ⟨hst, _, _⟩
  · rw [hsame, hcleared]
  · -- a directory made on the way is one that the workspace's path goes through, or the library itself
    exfalso
    rcases (Volume.mem_stations_join_name hname).mp hst with hws | hlast
    · rw [hway l hws] at hu
      cases hu
    · rw [hlast, ← library_eq hname] at hu
      exact (isUnder_iff.mp hu).2 rfl

/-- The library directory is there when the downloads begin. -/
theorem library_leadsTo (hs : s.Of params w) (hl : w.volume.tree.LinkFree) :
    s.renewed.volume.LeadsTo params.config.layout.libDir (library params w) := by
  obtain ⟨d, hd⟩ := Directory.ensure_leadsTo hs.renewed
  have hplace := Volume.resolve_linkFree (hs.linkFree_renewed hl) hd.1
  rw [hs.cwd_renewed] at hplace
  rwa [library, ← hplace]

/-! ## The downloads of a run that succeeded -/

/-- The octets that the servers finally give for an artifact. -/
def served (base : ArtifactBase) (n : Network) (name : String) : Bytes :=
  match Retrieval.answer (some agent) (base.urlOf name) n with
  | .ok response => response.body.octets
  | .error _ => []

/-- What the report says of an artifact that came. -/
def arrived (base : ArtifactBase) (n : Network) (name : String) : Outcome :=
  ⟨name, base.urlOf name, .downloaded (served base n name).length.toUInt64 (Sha256.hex (served base n name))⟩

/-- Every attempt of a run without failures put what the servers give into its file. -/
theorem attempt_served (hs : s.Of params w) (hok : ∀ o ∈ s.outcomes, o.isSuccess = true) {a : Attempt}
    (ha : a ∈ s.attempts params) :
    a.outcome = arrived s.base w.network a.item.filename ∧
      a.deposit? (some agent) params.config.layout.libDir = some (served s.base w.network a.item.filename) ∧
      ∃ response, Retrieval.answer (some agent) (s.base.urlOf a.item.filename) w.network = .ok response ∧
        response.body.isWhole = true ∧ response.body.octets = served s.base w.network a.item.filename := by
  obtain ⟨hi, hstatus, _, hnet⟩ := Download.attempt_spec _ _ _ ha
  have hsucc := hok a.outcome (by rw [hs.attempts.1]; exact List.mem_map_of_mem ha)
  obtain ⟨name, _, hitem⟩ := List.mem_map.mp hi
  have hfile : a.item.filename = name := by rw [← hitem]
  have hurl : a.item.url = s.base.urlOf name := by rw [← hitem]
  cases hst : a.status with
  | failed reason =>
    rw [Outcome.isSuccess, show a.outcome.status = a.status from rfl, hst] at hsucc
    cases hsucc
  | downloaded bytes digest =>
    rw [hst] at hstatus
    obtain ⟨response, hans, hwhole, hdep, rfl, rfl⟩ := Download.tryItem_downloaded hstatus.symm
    have hsame : w.network.Same a.before.network := hs.network_renewed.trans hnet
    rw [Retrieval.answer_same hsame, hurl] at hans
    have hserved : served s.base w.network name = response.body.octets := by rw [served, hans]
    rw [hfile, hserved]
    refine ⟨?_, hdep, response, hans, hwhole, rfl⟩
    rw [Attempt.outcome, arrived, hserved, hst, hfile, hurl]

/-- Every entry of the manifest has been attempted, in order, and has come. -/
theorem outcomes_arrived (hs : s.Of params w) (hok : ∀ o ∈ s.outcomes, o.isSuccess = true) :
    s.outcomes = params.manifest.entries.map (arrived s.base w.network) ∧
      ∀ name ∈ params.manifest.entries, ∃ a ∈ s.attempts params, a.item.filename = name := by
  have hitems : (s.attempts params).map (·.item) = Item.ofManifest s.base params.manifest := by
    refine Download.attempts_items _ _ _ fun a ha => hok a.outcome ?_
    rw [hs.attempts.1]
    exact List.mem_map_of_mem ha
  constructor
  · have : (s.attempts params).map Attempt.outcome = ((s.attempts params).map (·.item)).map fun i => arrived s.base w.network i.filename := by
      rw [List.map_map]
      exact List.map_congr_left fun a ha => (attempt_served hs hok ha).1
    rw [hs.attempts.1, this, hitems, Item.ofManifest, List.map_map]
    rfl
  · intro name hname
    have : (⟨name, s.base.urlOf name⟩ : Item) ∈ (s.attempts params).map (·.item) := by
      rw [hitems]
      exact List.mem_map_of_mem hname
    obtain ⟨a, ha, hitem⟩ := List.mem_map.mp this
    exact ⟨a, ha, by rw [hitem]⟩

/-- What was put last into the file of an entry is what the servers give for it. -/
theorem lastDeposit?_served (hs : s.Of params w) (hok : ∀ o ∈ s.outcomes, o.isSuccess = true) {name : String}
    (hmem : name ∈ params.manifest.entries) :
    lastDeposit? (some agent) params.config.layout.libDir (s.attempts params) (Utf8.encode name) =
      some (served s.base w.network name) := by
  obtain ⟨a, ha, hfile⟩ := (outcomes_arrived hs hok).2 name hmem
  refine Download.lastDeposit?_eq (fun b hb hn => ?_) ⟨a, ha, by rw [hfile]⟩
  rw [(attempt_served hs hok hb).2.1, Utf8.encode_injective hn]

/-- After downloads without failures into an empty library directory. -/
theorem image_fetched (hs : s.Of params w) (hok : ∀ o ∈ s.outcomes, o.isSuccess = true) {d : Loc}
    (hd : s.renewed.volume.LeadsTo params.config.layout.libDir d)
    (hbare : s.FindsEmpty d) :
    Image s.fetched.volume.tree d params.manifest.entries (served s.base w.network) := by
  obtain ⟨hname, hother⟩ := hs.fetched_get? hd hbare
  have hfile : ∀ name ∈ params.manifest.entries,
      s.fetched.volume.tree.get? (d ++ [Utf8.encode name]) = some (.file (served s.base w.network name)) := by
    intro name hmem
    rw [hname, lastDeposit?_served hs hok hmem]
    rfl
  refine ⟨hs.extends_fetched.volume.grows.dir hd.2, fun l hu => ⟨fun hsome => ?_, ?_⟩, hfile⟩
  · obtain ⟨o, ho, hl⟩ := hs.attempted_of_fetched hd hbare hu (Option.isSome_iff_ne_none.mp hsome)
    rw [(outcomes_arrived hs hok).1] at ho
    obtain ⟨name, hmem, rfl⟩ := List.mem_map.mp ho
    exact ⟨name, hmem, hl⟩
  · rintro ⟨name, hmem, rfl⟩
    rw [hfile name hmem]
    rfl

end

/-! ## A whole run -/

/-- An entry of the library directory is not touched by a file that goes elsewhere. -/
theorem Image.of_puts {v v' : Volume} {d l : Loc} {contents : Bytes} {names : List String} {body : String → Bytes}
    (h : Image v.tree d names body) (hput : v.Puts l contents v') (hl : isUnder d l = false) : Image v'.tree d names body := by
  have other {m : Loc} (hm : isUnder d m = true) : v'.tree.get? m = v.tree.get? m :=
    hput.other (by rintro rfl; rw [hl] at hm; cases hm)
  refine ⟨hput.adds.grows.dir h.dir, fun m hm => ?_, fun name hname => ?_⟩
  · rw [other hm]
    exact h.entries m hm
  · rw [other (Tree.isUnder_child d _)]
    exact h.file name hname

/-- A run that succeeds leaves exactly the manifest in its library directory, and reports it. -/
theorem run_exact {params : Params} {w w' : World} {report : Report} (hr : w.volume.tree.Rooted) (hl : w.volume.tree.LinkFree)
    (hname : Path.IsName (Utf8.encode params.config.libDir))
    (hway : ∀ l ∈ stations w.volume.cwd params.config.workspace, isUnder (library params w) l = false)
    (hreport : ∀ file, params.report = some file → isUnder (library params w) (place w.volume.cwd file) = false)
    (h : (run params).on w = (.ok report, w')) :
    (∃ feed, Retrieval.answer (some agent) params.config.feedUrl w.network = .ok feed ∧ feed.body.isWhole = true ∧
      (Feed.lastBuild params.config.layout.statusFile.text (Markup.read feed.body.octets)).1 = .ok report.buildUrl) ∧
    ∃ base, ArtifactBase.ofBuild report.buildUrl params.config.artifactSubpath = .ok base ∧ report.artifactBase = base.text ∧
      w'.volume.LeadsTo params.config.layout.libDir (library params w) ∧
      Image w'.volume.tree (library params w) params.manifest.entries (served base w.network) ∧
      report.outcomes = params.manifest.entries.map (arrived base w.network) ∧
      ∀ name ∈ params.manifest.entries, ∃ response, Retrieval.answer (some agent) (base.urlOf name) w.network = .ok response ∧
        response.body.isWhole = true ∧ response.body.octets = served base w.network name := by
  obtain ⟨s, hs, hc⟩ := run_stages h trivial
  obtain ⟨hframe, hfinal⟩ := conclude_frame hc
  obtain ⟨rfl, hok⟩ := hfinal report rfl
  obtain ⟨hbase, _⟩ := locate_ok hs.located
  obtain ⟨feed, _, hfeed, hwhole, hbuild, _⟩ := hs.feed
  have hend : s.fetched.Extends w' := by
    have := extends_conclude params.report s.report s.fetched
    rwa [hc] at this
  have hlfetched := hs.extends_fetched.volume.linkFree (hs.linkFree_renewed hl)
  have hd := library_leadsTo hs hl
  have himage := image_fetched hs hok hd fun l => renewed_bare hs hr hl hname hway
  refine ⟨⟨feed, hfeed, hwhole, hbuild⟩, s.base, hbase, rfl,
    (hs.extends_fetched.trans hend).volume.leadsTo hd, ?_, (outcomes_arrived hs hok).1, fun name hmem => ?_⟩
  · rcases hframe with hv | ⟨file, l, v, _, hfile, hcr, hv⟩
    · rw [hv]
      exact himage
    · have hplace := Volume.create_linkFree hlfetched hcr
      rw [hs.extends_fetched.volume.cwd, hs.cwd_renewed] at hplace
      rw [hv]
      exact himage.of_puts (Volume.puts_of_create hcr _) (hplace ▸ hreport file hfile)
  · obtain ⟨a, ha, rfl⟩ := (outcomes_arrived hs hok).2 name hmem
    exact (attempt_served hs hok ha).2.2

theorem exact_after_a_small_run : ∃ report w', (run oneLibrary).on usedWorld = (.ok report, w') ∧
    ∀ l, isUnder [Utf8.encode "w", Utf8.encode "l"] l = true →
      ((w'.volume.tree.get? l).isSome = true ↔ l = [Utf8.encode "w", Utf8.encode "l", Utf8.encode "a"]) := by
  have hrun : ((run oneLibrary).on usedWorld).1.toOption.isSome = true := by decide +kernel
  obtain ⟨report, hreport⟩ := on_of_isSome hrun
  have hlibrary : library oneLibrary usedWorld = [Utf8.encode "w", Utf8.encode "l"] := by decide
  obtain ⟨_, base, _, _, _, himage, _⟩ := run_exact
    (Tree.rooted_of_entries (by decide)) (Tree.linkFree_of_entries (by decide)) (by decide) (by decide)
    (fun file hf => by cases hf) hreport
  rw [hlibrary] at himage
  refine ⟨report, _, hreport, fun l hl => ?_⟩
  rw [himage.entries l hl]
  constructor
  · rintro ⟨name, hname, rfl⟩
    rw [List.mem_singleton.mp hname]
    rfl
  · rintro rfl
    exact ⟨"a", List.mem_cons_self, rfl⟩

theorem a_workspace_behind_its_library_finds_more_than_files : usedWorld.volume.tree.LinkFree ∧ ∃ report w',
    (run (smallParams "w/l/x/../.." "l" ⟨["a"], by decide⟩)).on usedWorld = (.ok report, w') ∧
      w'.volume.LeadsTo (smallParams "w/l/x/../.." "l" ⟨["a"], by decide⟩).config.layout.libDir [Utf8.encode "w", Utf8.encode "l"] ∧
      w'.volume.tree.get? [Utf8.encode "w", Utf8.encode "l", Utf8.encode "x"] = some .dir := by
  have hrun : ((run (smallParams "w/l/x/../.." "l" ⟨["a"], by decide⟩)).on usedWorld).1.toOption.isSome = true := by
    decide +kernel
  obtain ⟨report, hreport⟩ := on_of_isSome hrun
  refine ⟨Tree.linkFree_of_entries (by decide), report, _, hreport, ⟨ok_of_toOption ?_, ?_⟩, ?_⟩
  · decide +kernel
  · decide +kernel
  · decide +kernel

end BuildHarvest.Sync
