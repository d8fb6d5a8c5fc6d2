/-
  BuildHarvest.Proofs.Survival — what is left at the end of a run of what its steps made.

  The names of the status file, the working directory and the library directory are any texts, so
  their paths may meet. The trees are without links, so places are by text.

  Proved (`run_survivors`), of a run that succeeds without a report:
  - The library directory is there and holds each file of the manifest, with the body that the
    servers finally give for it.
  - The working directory is there exactly if no place that its path goes through is lost: none
    lies in a library directory that was there to be cleared, or it is made again on the way to
    that (`Loses`).
  - The status file holds the feed exactly if no other place that its path goes through is lost, and
    it is not cleared away or overwritten, or only by an artifact of the same octets (`Leaves`).
  So all of it is left where the paths of the status file and the working directory do not go into
  the library directory (`Leaves.beside`). Nothing checks the names for that: with
  an empty one for the library directory, this is the workspace
  (`a_library_without_a_name_clears_the_workspace`).
-/

import BuildHarvest.Options
import BuildHarvest.Proofs.Agreement
import BuildHarvest.Proofs.ExactImage

namespace BuildHarvest

/-! ## Paths whose ways are there -/

namespace Volume

/-- A path that led to a directory does so still if its way is there. -/
theorem isDir_iff_way {v v' : Volume} {p : Path} {d : Loc} (hp : v.Plain p) (hp' : v'.Plain p) (hc : v'.cwd = v.cwd)
    (h : v.LeadsTo p d) : v'.isDir p = true ↔ ∀ m ∈ stations v.cwd p, v'.tree.get? m = some .dir := by
  rw [isDir_iff, stat_dir_iff_leadsTo]
  constructor
  · rintro ⟨d', hd'⟩ m hm
    exact dirs_of_leadsTo hp' hd' (hc ▸ hm)
  · intro hway
    exact ⟨d, h.agree hp hc fun m hm => by rw [hway m hm, dirs_of_leadsTo hp h hm]⟩

theorem readFile_ok {v : Volume} {p : Path} {contents : Bytes} (h : v.readFile p = .ok contents) :
    ∃ l, v.resolve p = .ok l ∧ v.tree.get? l = some (.file contents) := by
  obtain ⟨e, hs, h⟩ := bind_ok h
  obtain ⟨l, hr, hs⟩ := bind_ok hs
  refine ⟨l, hr, ?_⟩
  cases he : v.tree.get? l with
  | none =>
    rw [he] at hs
    cases hs
  | some e' =>
    rw [he] at hs
    obtain rfl := Except.ok.inj hs
    cases e' with
    | file c => rw [Except.ok.inj h]
    | dir => cases h
    | link target => cases h

/-- A file is read as before exactly if its way is there and it is the same. -/
theorem readFile_iff_way {v v' : Volume} {p : Path} {l : Loc} {contents : Bytes} (hp : v.Plain p) (hp' : v'.Plain p)
    (hc : v'.cwd = v.cwd) (hr : v.resolve p = .ok l) (hf : v.tree.get? l = some (.file contents)) :
    v'.readFile p = .ok contents ↔
      (∀ m ∈ stations v.cwd p, m ≠ l → v'.tree.get? m = some .dir) ∧ v'.tree.get? l = some (.file contents) := by
  constructor
  · intro h
    obtain ⟨l', hr', hf'⟩ := readFile_ok h
    have hsame : l' = l := by rw [resolve_plain hp hr, resolve_plain hp' hr', hc]
    subst hsame
    exact ⟨fun m hm hne => dirs_of_resolve hp' hr' (hc ▸ hm) hne, hf'⟩
  · rintro ⟨hway, hf'⟩
    have hagree : v.Agree (fun m => m ∉ stations v.cwd p) v' := by
      refine ⟨hc, fun m hm => ?_, fun m target hlink hm => hp m hm target hlink⟩
      have hm := Decidable.not_not.mp hm
      by_cases he : m = l
      · rw [he, hf, hf']
      · rw [hway m hm he, dirs_of_resolve hp hr hm he]
    rw [hagree.readFile fun m hm hout => hout hm]
    exact readFile_of_resolve hr hf

end Volume

namespace Sync

open BuildHarvest.Action
open Volume (place stations)
open BuildHarvest.Tree (isUnder isUnder_iff)

/-! ## What the clearing takes -/

/-- The library directory was there to be cleared. -/
def Stages.Clears (s : Stages) (params : Params) : Prop := s.worked.volume.lstat params.config.layout.libDir = .ok .dir

/-- A place that is cleared away, and not made again on the way to the library directory. -/
def Stages.Loses (s : Stages) (params : Params) (w : World) (l : Loc) : Prop :=
  s.Clears params ∧ library params w <+: l ∧ l ∉ stations w.volume.cwd params.config.layout.libDir

/-- The place of an entry of the manifest. -/
def IsArtifactPlace (params : Params) (w : World) (l : Loc) : Prop :=
  ∃ name ∈ params.manifest.entries, l = library params w ++ [Utf8.encode name]

/-- A file that the clearing and the downloads leave, with what it holds. -/
structure Stages.Leaves (s : Stages) (params : Params) (w : World) (file : Path) (contents : Bytes) : Prop where
  way : ∀ l ∈ stations w.volume.cwd file, l ≠ place w.volume.cwd file → ¬ s.Loses params w l
  /-- It is cleared away only for an artifact. -/
  cleared : s.Clears params → library params w <+: place w.volume.cwd file → IsArtifactPlace params w (place w.volume.cwd file)
  /-- Such an artifact has the same octets. -/
  overwritten : ∀ name ∈ params.manifest.entries, place w.volume.cwd file = library params w ++ [Utf8.encode name] →
    served s.base w.network name = contents

/-- A file whose path does not go into the library directory is left. -/
theorem Stages.Leaves.beside (s : Stages) {params : Params} {w : World} {file : Path} (contents : Bytes)
    (h : ∀ l ∈ stations w.volume.cwd file, ¬ library params w <+: l) : s.Leaves params w file contents where
  way l hl _ hlost := h l hl hlost.2.1
  cleared _ hp := absurd hp (h _ (Volume.place_mem_stations _ _))
  overwritten _ _ he := absurd (he ▸ List.prefix_append _ _) (h _ (Volume.place_mem_stations _ _))

section

variable {s : Stages} {params : Params} {w : World} (hs : s.Of params w) (hl : w.volume.tree.LinkFree)

include hs hl

/-- What is not cleared is as it was. -/
theorem cleared_else {l : Loc} (h : ¬ (s.Clears params ∧ library params w <+: l)) :
    s.cleared.volume.tree.get? l = s.worked.volume.tree.get? l := by
  rcases Directory.clear_ok hs.cleared with ⟨_, hv⟩ | ⟨hdir, hrm⟩ | ⟨_, _, _, hv⟩
  · rw [hv]
  · obtain ⟨d, hd, hempty, _⟩ := Volume.removeAll_ok hrm
    have hplace := Volume.resolve_linkFree (hs.extends_worked.volume.linkFree hl) hd
    rw [hs.extends_worked.volume.cwd] at hplace
    obtain rfl : d = library params w := hplace
    exact hempty.apart fun hp => h ⟨hdir, hp⟩
  · rw [hv]

theorem cleared_gone (h : s.Clears params) {l : Loc} (hu : isUnder (library params w) l = true) :
    s.cleared.volume.tree.get? l = none := by
  rcases Directory.clear_ok hs.cleared with ⟨hno, _⟩ | ⟨_, hrm⟩ | ⟨_, he, hne, _⟩
  · rw [show s.worked.volume.lstat _ = _ from h] at hno
    cases hno
  · obtain ⟨d, hd, hempty, _⟩ := Volume.removeAll_ok hrm
    have hplace := Volume.resolve_linkFree (hs.extends_worked.volume.linkFree hl) hd
    rw [hs.extends_worked.volume.cwd] at hplace
    obtain rfl : d = library params w := hplace
    exact hempty.under l hu
  · rw [show s.worked.volume.lstat _ = _ from h] at he
    exact absurd (Except.ok.inj he).symm hne

/-- The way to the library directory is there when the downloads begin. -/
theorem renewed_way {l : Loc} (h : l ∈ stations w.volume.cwd params.config.layout.libDir) :
    s.renewed.volume.tree.get? l = some .dir := by
  refine Volume.dirs_of_leadsTo (Volume.plain_of_linkFree (hs.linkFree_renewed hl) _) (library_leadsTo hs hl) ?_
  rwa [hs.cwd_renewed]

/-- Elsewhere nothing has been made since the clearing. -/
theorem renewed_else {l : Loc} (h : l ∉ stations w.volume.cwd params.config.layout.libDir) :
    s.renewed.volume.tree.get? l = s.cleared.volume.tree.get? l := by
  have hensure := Directory.ensure_linkFree params.config.layout.libDir (hs.linkFree_cleared hl) l
  rw [hs.renewed, hs.cwd_cleared] at hensure
  rcases hensure with hsame | ⟨hway, _⟩
  · exact hsame
  · exact absurd hway h

theorem renewed_lost {l : Loc} (h : s.Loses params w l) : s.renewed.volume.tree.get? l = none := by
  obtain ⟨hclears, hp, hout⟩ := h
  have hne : library params w ≠ l := by
    rintro rfl
    exact hout (Volume.place_mem_stations _ _)
  rw [renewed_else hs hl hout, cleared_gone hs hl hclears (isUnder_iff.mpr ⟨hp, hne⟩)]

/-- The downloads put what the servers give at the places of the manifest, and change nothing else. -/
theorem fetched_served (hok : ∀ o ∈ s.outcomes, o.isSuccess = true) :
    (∀ name ∈ params.manifest.entries, s.fetched.volume.tree.get? (library params w ++ [Utf8.encode name]) =
      some (.file (served s.base w.network name))) ∧
    ∀ l, ¬ IsArtifactPlace params w l → s.fetched.volume.tree.get? l = s.renewed.volume.tree.get? l := by
  obtain ⟨hname, hother⟩ := hs.fetched_over (library_leadsTo hs hl) fun _ => hs.linkFree_renewed hl _
  refine ⟨fun name hmem => ?_, fun l hout => ?_⟩
  · rw [hname, lastDeposit?_served hs hok hmem]
    rfl
  · by_cases hentry : ∃ name, l = library params w ++ [name]
    · obtain ⟨name, rfl⟩ := hentry
      have hnone : Download.lastDeposit? (some agent) params.config.layout.libDir (s.attempts params) name = none := by
        cases hlast : Download.lastDeposit? (some agent) params.config.layout.libDir (s.attempts params) name with
        | none => rfl
        | some contents =>
          obtain ⟨a, ha, rfl, _⟩ := Download.mem_of_lastDeposit? hlast
          obtain ⟨entry, hmem, hitem⟩ := List.mem_map.mp (Download.attempt_spec _ _ _ ha).1
          exact absurd ⟨entry, hmem, by rw [← hitem]⟩ hout
      rw [hname, hnone]
      rfl
    · exact hother l fun name he => hentry ⟨name, he⟩

/-- A directory that was there before the clearing is there at the end exactly if it is not lost. -/
theorem fetched_dir_iff (hok : ∀ o ∈ s.outcomes, o.isSuccess = true) {l : Loc} (hdir : s.worked.volume.tree.get? l = some .dir) :
    s.fetched.volume.tree.get? l = some .dir ↔ ¬ s.Loses params w l := by
  obtain ⟨hserved, hother⟩ := fetched_served hs hl hok
  constructor
  · intro hend hlost
    by_cases hplace : IsArtifactPlace params w l
    · obtain ⟨name, hmem, rfl⟩ := hplace
      rw [hserved name hmem] at hend
      cases hend
    · rw [hother l hplace, renewed_lost hs hl hlost] at hend
      cases hend
  · intro hkept
    refine hs.extends_fetched.volume.grows.dir ?_
    by_cases hway : l ∈ stations w.volume.cwd params.config.layout.libDir
    · exact renewed_way hs hl hway
    · rw [renewed_else hs hl hway, cleared_else hs hl fun h => hkept ⟨h.1, h.2, hway⟩, hdir]

theorem fetched_artifact_iff (hok : ∀ o ∈ s.outcomes, o.isSuccess = true) {name : String} (hname : name ∈ params.manifest.entries)
    {contents : Bytes} : s.fetched.volume.tree.get? (library params w ++ [Utf8.encode name]) = some (.file contents) ↔
      served s.base w.network name = contents := by
  rw [(fetched_served hs hl hok).1 name hname, Option.some.injEq, Entry.file.injEq]

/-- A file that was there before the clearing, at no place of an artifact, is there at the end exactly if it
is not cleared away. -/
theorem fetched_other_iff (hok : ∀ o ∈ s.outcomes, o.isSuccess = true) {l : Loc} {contents : Bytes}
    (hfile : s.worked.volume.tree.get? l = some (.file contents)) (hplace : ¬ IsArtifactPlace params w l) :
    s.fetched.volume.tree.get? l = some (.file contents) ↔ ¬ (s.Clears params ∧ library params w <+: l) := by
  rw [(fetched_served hs hl hok).2 l hplace]
  constructor
  · rintro hend ⟨hclears, hp⟩
    have hout : l ∉ stations w.volume.cwd params.config.layout.libDir := fun hway => by
      rw [renewed_way hs hl hway] at hend
      cases hend
    rw [renewed_lost hs hl ⟨hclears, hp, hout⟩] at hend
    cases hend
  · intro hkept
    have hcleared := cleared_else hs hl hkept
    have hout : l ∉ stations w.volume.cwd params.config.layout.libDir := fun hway => by
      -- a file on the way would have stayed, and nothing could have been made there
      have hensured := renewed_way hs hl hway
      rw [hfile] at hcleared
      obtain ⟨_, hthere⟩ := hs.extends_renewed.volume.grows.file hcleared
      rw [hthere] at hensured
      cases hensured
    rw [renewed_else hs hl hout, hcleared, hfile]

/-- A file that was there before the clearing is there at the end, with the same octets, exactly if
nothing clears it away but an artifact of these octets comes in its place, and no other. -/
theorem fetched_file_iff (hok : ∀ o ∈ s.outcomes, o.isSuccess = true) {l : Loc} {contents : Bytes}
    (hfile : s.worked.volume.tree.get? l = some (.file contents)) :
    s.fetched.volume.tree.get? l = some (.file contents) ↔
      (s.Clears params → library params w <+: l → IsArtifactPlace params w l) ∧
      ∀ name ∈ params.manifest.entries, l = library params w ++ [Utf8.encode name] → served s.base w.network name = contents := by
  by_cases hplace : IsArtifactPlace params w l
  · obtain ⟨name, hname, rfl⟩ := hplace
    rw [fetched_artifact_iff hs hl hok hname]
    constructor
    · intro hsame
      refine ⟨fun _ _ => ⟨name, hname, rfl⟩, fun name' _ he => ?_⟩
      rw [← Utf8.encode_injective (List.cons.inj (List.append_inj' he rfl).2).1, hsame]
    · rintro ⟨_, hsame⟩
      exact hsame name hname rfl
  · rw [fetched_other_iff hs hl hok hfile hplace]
    constructor
    · intro hkept
      exact ⟨fun hclears hp => absurd ⟨hclears, hp⟩ hkept, fun name hname he => absurd ⟨name, hname, he⟩ hplace⟩
    · rintro ⟨hkept, _⟩ ⟨hclears, hp⟩
      exact hplace (hkept hclears hp)

/-! ## What the steps made -/

/-- The feed is at the place of the status file when the library directory is cleared. -/
theorem snapshot_worked : ∃ feed : Transfer.Response,
    Retrieval.answer (some agent) params.config.feedUrl w.network = .ok feed ∧ feed.body.isWhole = true ∧
      s.located.volume.readFile params.config.layout.statusFile = .ok feed.body.octets ∧
      s.worked.volume.resolve params.config.layout.statusFile = .ok (place w.volume.cwd params.config.layout.statusFile) ∧
      s.worked.volume.tree.get? (place w.volume.cwd params.config.layout.statusFile) = some (.file feed.body.octets) := by
  obtain ⟨feed, l, hfeed, hwhole, _, hresolve, hheld⟩ := hs.feed
  have hlocated := hs.extends_located.volume.linkFree hl
  have hplace := Volume.resolve_linkFree hlocated hresolve
  rw [hs.extends_located.volume.cwd] at hplace
  subst hplace
  have hadds := Directory.adds_ensure params.config.layout.workDir s.located
  have hensure := Directory.ensure_linkFree params.config.layout.workDir hlocated (place w.volume.cwd params.config.layout.statusFile)
  rw [hs.worked] at hadds hensure
  refine ⟨feed, hfeed, hwhole, Volume.readFile_of_resolve hresolve hheld, hadds.resolve hresolve, ?_⟩
  rcases hensure with hsame | ⟨_, hnone, _⟩
  · rw [hsame, hheld]
  · rw [hheld] at hnone
    cases hnone

theorem linkFree_fetched : s.fetched.volume.tree.LinkFree := hs.extends_fetched.volume.linkFree (hs.linkFree_renewed hl)

/-- A path that led to a directory before the clearing does so at the end exactly if no place on its way is lost. -/
theorem fetched_isDir_iff (hok : ∀ o ∈ s.outcomes, o.isSuccess = true) {p : Path} {d : Loc} (hp : s.worked.volume.LeadsTo p d) :
    s.fetched.volume.isDir p = true ↔ ∀ l ∈ stations w.volume.cwd p, ¬ s.Loses params w l := by
  have hplain := Volume.plain_of_linkFree (hs.extends_worked.volume.linkFree hl) p
  have hcwd := hs.extends_worked.volume.cwd
  rw [Volume.isDir_iff_way hplain (Volume.plain_of_linkFree (linkFree_fetched hs hl) p) (hs.cwd_fetched.trans hcwd.symm) hp, hcwd]
  exact forall₂_congr fun l hway => fetched_dir_iff hs hl hok (Volume.dirs_of_leadsTo hplain hp (hcwd ▸ hway))

/-- A file that was read before the clearing is read so at the end exactly if it is left. -/
theorem fetched_readFile_iff (hok : ∀ o ∈ s.outcomes, o.isSuccess = true) {p : Path} {contents : Bytes}
    (hp : s.worked.volume.resolve p = .ok (place w.volume.cwd p))
    (hfile : s.worked.volume.tree.get? (place w.volume.cwd p) = some (.file contents)) :
    s.fetched.volume.readFile p = .ok contents ↔ s.Leaves params w p contents := by
  have hplain := Volume.plain_of_linkFree (hs.extends_worked.volume.linkFree hl) p
  have hcwd := hs.extends_worked.volume.cwd
  rw [Volume.readFile_iff_way hplain (Volume.plain_of_linkFree (linkFree_fetched hs hl) p) (hs.cwd_fetched.trans hcwd.symm) hp hfile,
    hcwd, fetched_file_iff hs hl hok hfile]
  have hdir (l : Loc) (hway : l ∈ stations w.volume.cwd p) (hne : l ≠ place w.volume.cwd p) :=
    fetched_dir_iff hs hl hok (Volume.dirs_of_resolve hplain hp (hcwd ▸ hway) hne)
  constructor
  · rintro ⟨hway, hcleared, hover⟩
    exact ⟨fun l hl hne => (hdir l hl hne).mp (hway l hl hne), hcleared, hover⟩
  · intro h
    exact ⟨fun l hl hne => (hdir l hl hne).mpr (h.way l hl hne), h.cleared, h.overwritten⟩

end

/-! ## A whole run -/

/-- What is left at the end of a run of what its steps made. -/
theorem run_survivors {params : Params} {w w' : World} {report : Report} (hl : w.volume.tree.LinkFree)
    (hreport : params.report = none) (h : (run params).on w = (.ok report, w')) :
    ∃ (s : Stages) (feed : Transfer.Response), s.Of params w ∧
      Retrieval.answer (some agent) params.config.feedUrl w.network = .ok feed ∧ feed.body.isWhole = true ∧
      s.located.volume.readFile params.config.layout.statusFile = .ok feed.body.octets ∧
      s.worked.volume.isDir params.config.layout.workDir = true ∧
      (w'.volume.LeadsTo params.config.layout.libDir (library params w) ∧ ∀ name ∈ params.manifest.entries,
        w'.volume.tree.get? (library params w ++ [Utf8.encode name]) = some (.file (served s.base w.network name))) ∧
      (w'.volume.isDir params.config.layout.workDir = true ↔
        ∀ l ∈ stations w.volume.cwd params.config.layout.workDir, ¬ s.Loses params w l) ∧
      (w'.volume.readFile params.config.layout.statusFile = .ok feed.body.octets ↔
        s.Leaves params w params.config.layout.statusFile feed.body.octets) := by
  obtain ⟨s, hs, hc⟩ := run_stages h trivial
  obtain ⟨hframe, hfinal⟩ := conclude_frame hc
  have hok := (hfinal report rfl).2
  have hend : w'.volume = s.fetched.volume := by
    rcases hframe with hv | ⟨file, _, _, _, hfile, _⟩
    · exact hv
    · rw [hreport] at hfile
      cases hfile
  obtain ⟨feed, hfeed, hwhole, hread, hresolve, hheld⟩ := snapshot_worked hs hl
  obtain ⟨d, hwork⟩ := Directory.ensure_leadsTo hs.worked
  have hworked : s.worked.volume.isDir params.config.layout.workDir = true :=
    Volume.isDir_iff.mpr (Volume.stat_dir_iff_leadsTo.mpr ⟨d, hwork⟩)
  rw [hend]
  exact ⟨s, feed, hs, hfeed, hwhole, hread, hworked,
    ⟨hs.extends_fetched.volume.leadsTo (library_leadsTo hs hl), (fetched_served hs hl hok).1⟩,
    fetched_isDir_iff hs hl hok hwork, fetched_readFile_iff hs hl hok hresolve hheld⟩

theorem a_small_run_keeps_what_it_made : ∃ report w' feed, (run oneLibrary).on usedWorld = (.ok report, w') ∧
    Retrieval.answer (some agent) oneLibrary.config.feedUrl usedWorld.network = .ok feed ∧
    w'.volume.readFile ⟨Utf8.encode "w/status"⟩ = .ok feed.body.octets ∧ w'.volume.isDir ⟨Utf8.encode "w/work"⟩ = true ∧
    (w'.volume.tree.get? [Utf8.encode "w", Utf8.encode "l", Utf8.encode "a"]).isSome = true := by
  have hrun : ((run oneLibrary).on usedWorld).1.toOption.isSome = true := by decide +kernel
  obtain ⟨report, hreport⟩ := on_of_isSome hrun
  have hlibrary : library oneLibrary usedWorld = [Utf8.encode "w", Utf8.encode "l"] := by decide
  obtain ⟨s, feed, _, hfeed, _, _, _, ⟨_, hserved⟩, hwork, hsnapshot⟩ :=
    run_survivors (Tree.linkFree_of_entries (by decide)) rfl hreport
  have hstatus : ∀ l ∈ stations usedWorld.volume.cwd oneLibrary.config.layout.statusFile, ¬ library oneLibrary usedWorld <+: l := by
    rw [hlibrary]
    decide
  have hbeside : ∀ l ∈ stations usedWorld.volume.cwd oneLibrary.config.layout.workDir, ¬ library oneLibrary usedWorld <+: l := by
    rw [hlibrary]
    decide
  refine ⟨report, _, feed, hreport, hfeed, hsnapshot.mpr (.beside s _ hstatus),
    hwork.mpr fun l hl hlost => hbeside l hl hlost.2.1, ?_⟩
  have ha := hserved "a" List.mem_cons_self
  rw [hlibrary] at ha
  rw [show [Utf8.encode "w", Utf8.encode "l", Utf8.encode "a"] = [Utf8.encode "w", Utf8.encode "l"] ++ [Utf8.encode "a"] from rfl, ha]
  rfl

/-- With an empty name for the library directory, what the run made before is cleared with it. -/
theorem a_library_without_a_name_clears_the_workspace : usedWorld.volume.tree.LinkFree ∧ ∃ params w₁ report w',
    (Options.resolve ⟨none, some "w", some "http://[::]/feed", some "", ["a"], false, none⟩
      [(Utf8.encode "ARTISYNC_LIB_DIR", Utf8.encode "")]).on usedWorld = (.ok params, w₁) ∧
    (run params).on w₁ = (.ok report, w') ∧ params.report = none ∧
    (∀ contents, w'.volume.readFile params.config.layout.statusFile ≠ .ok contents) ∧
    w'.volume.isDir params.config.layout.workDir = false := by
  refine ⟨Tree.linkFree_of_entries (by decide), ?_⟩
  generalize hres : (Options.resolve ⟨none, some "w", some "http://[::]/feed", some "", ["a"], false, none⟩
    [(Utf8.encode "ARTISYNC_LIB_DIR", Utf8.encode "")]) = resolve
  have hboth : ((resolve >>= run).on usedWorld).1.toOption.isSome = true := by subst hres; decide +kernel
  have hgone : (resolve.on usedWorld).1.toOption.map (fun p =>
      (p.report, (((resolve >>= run).on usedWorld).2.volume.readFile p.config.layout.statusFile).toOption.isSome,
        ((resolve >>= run).on usedWorld).2.volume.isDir p.config.layout.workDir)) = some (none, false, false) := by
    subst hres; decide +kernel
  obtain ⟨report, hreport⟩ := on_of_isSome hboth
  obtain ⟨params, w₁, h₁, h₂⟩ := on_bind_ok hreport
  rw [h₁] at hgone
  obtain ⟨hrep, hends⟩ := Prod.mk.inj (Option.some.inj hgone)
  obtain ⟨hsnapshot, hwork⟩ := Prod.mk.inj hends
  refine ⟨params, w₁, report, _, h₁, h₂, hrep, fun contents hread => ?_, hwork⟩
  rw [hread] at hsnapshot
  cases hsnapshot

end Sync

end BuildHarvest
