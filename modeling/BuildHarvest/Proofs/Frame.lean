/-
  BuildHarvest.Proofs.Frame — what a run leaves as it was, links included.

  Links lie at the library directory or in it, and may lead anywhere; the names in the workspace
  differ, and the path of the workspace meets no link (`LinksApart`).

  Proved (`run_frame`), whatever comes of the run:
  - It changes nothing but the status file, what lies at its library directory, and its report;
    and it makes no other directories than the working directory and those missing on the way to
    the workspace. Where the library directory is a link, an artifact's file may be beside it.
  - Clearing the library directory takes away the links in it and changes nothing elsewhere.

  A path that meets no link acts at the place of its text, and a run makes no links, so up to its
  downloads all its paths but that of the library directory keep to their places (`Framed`). The
  downloads and the report change only the places that their paths lead to at the end (`WritesTo`).

  `a_link_that_is_followed_leads_astray`: why the links that a run follows are left out.
-/

import BuildHarvest.Proofs.EarlyFailure

namespace BuildHarvest.Sync

open BuildHarvest.Action
open Volume (place stations)
open BuildHarvest.Tree (isUnder isUnder_iff)

/-! ## Writing where paths lead -/

/-- One volume after another: files have been written, each where one of some paths leads now. -/
structure WritesTo (files : Path → Prop) (v u : Volume) : Prop where
  adds : v.Adds u
  kept : ∀ l, (∀ file, files file → u.resolve file ≠ .ok l) → u.tree.get? l = v.tree.get? l

theorem WritesTo.refl (files : Path → Prop) (v : Volume) : WritesTo files v v := ⟨.refl v, fun _ _ => rfl⟩

theorem WritesTo.write {files : Path → Prop} {v u u' : Volume} (h : WritesTo files v u) {file : Path} (hf : files file)
    {l : Loc} (contents : Bytes) (hc : u.create file = .ok (l, u')) : WritesTo files v (u'.fill l contents) := by
  have hput := Volume.puts_of_create hc contents
  refine ⟨h.adds.trans hput.adds, fun m hm => ?_⟩
  have hne : m ≠ l := by
    rintro rfl
    exact hm file hf (Volume.resolve_create hc contents)
  rw [hput.other hne]
  exact h.kept m fun f hf hr => hm f hf (hput.adds.resolve hr)

/-- The files of the manifest in the library directory, and the report. -/
def IsDelivered (params : Params) (file : Path) : Prop :=
  (∃ name ∈ params.manifest.entries, file = params.config.layout.libDir.join (.ofText name)) ∨ params.report = some file

theorem writesTo_end {s : Stages} {params : Params} {w w' : World} {r : Except Failure Report} (hs : s.Of params w)
    (hc : (conclude params.report s.report).on s.fetched = (r, w')) :
    WritesTo (IsDelivered params) s.renewed.volume w'.volume := by
  have hfetched : WritesTo (IsDelivered params) s.renewed.volume ((fetchAll params s.base).on s.renewed).2.volume :=
    keeps_fetchAll (P := fun u => WritesTo (IsDelivered params) s.renewed.volume u.volume) (fun _ _ h => h) (fun _ _ h _ => h)
      (fun name hname _ _ _ contents h hcr => h.write (.inl ⟨name, hname, rfl⟩) contents hcr) s.renewed (.refl _ _)
  rw [hs.fetched] at hfetched
  have hend : WritesTo (IsDelivered params) s.renewed.volume ((conclude params.report s.report).on s.fetched).2.volume :=
    keeps_conclude (P := fun u => WritesTo (IsDelivered params) s.renewed.volume u.volume) (fun _ _ h => h)
      (fun _ hfile _ _ _ contents h hcr => h.write (.inr hfile) contents hcr) s.fetched hfetched
  rwa [hc] at hend

/-! ## Before the downloads -/

/-- Links lie at the library directory or in it, and the path of the workspace meets none. -/
structure LinksApart (params : Params) (w : World) : Prop where
  names : PlainNames params.config
  links : ∀ l target, w.volume.tree.get? l = some (.link target) → library params w <+: l
  plain : w.volume.Plain params.config.workspace

/-- On the way to the workspace, or at the working directory. -/
def IsPassed (params : Params) (w : World) (l : Loc) : Prop :=
  l ∈ stations w.volume.cwd params.config.workspace ∨ l = place w.volume.cwd params.config.layout.workDir

/-- A place as it was, or a directory where one was missing. -/
def Spared (params : Params) (w : World) (v : Volume) (l : Loc) : Prop :=
  v.tree.get? l = w.volume.tree.get? l ∨ IsPassed params w l ∧ w.volume.tree.get? l = none ∧ v.tree.get? l = some .dir

/-- A world after another: there are no new links, and all but the status file and what lies at the
library directory is spared. -/
structure Framed (params : Params) (w u : World) : Prop where
  cwd : u.volume.cwd = w.volume.cwd
  links : ∀ l target, u.volume.tree.get? l = some (.link target) → w.volume.tree.get? l = some (.link target)
  spared : ∀ l, ¬ library params w <+: l → l ≠ place w.volume.cwd params.config.layout.statusFile →
    Spared params w u.volume l

/-- The library directory is a link. -/
def LinkedLibrary (params : Params) (w : World) : Prop := ∃ target, w.volume.tree.get? (library params w) = some (.link target)

section

variable {params : Params} {w u : World}

/-- An entry of the workspace with another name is not at the library directory. -/
theorem LinksApart.notLink (h : LinksApart params w) {name : String} (hn : Path.IsName (Utf8.encode name))
    (hne : name ≠ params.config.libDir) (target : Path) :
    w.volume.tree.get? (place w.volume.cwd (params.config.workspace.join (.ofText name))) ≠ some (.link target) := by
  intro hlink
  have hp := h.links _ _ hlink
  rw [library_eq h.names.lib, Path.ofText, Volume.place_join_name _ _ hn] at hp
  have heq := hp.eq_of_length (by simp)
  exact hne (Utf8.encode_injective (List.cons.inj (List.append_inj' heq rfl).2).1).symm

namespace Framed

theorem refl (params : Params) (w : World) : Framed params w w := ⟨rfl, fun _ _ h => h, fun _ _ _ => .inl rfl⟩

/-- A path that met no link meets none. -/
theorem plain (f : Framed params w u) {p : Path} (hp : w.volume.Plain p) : u.volume.Plain p := by
  intro m hm target hlink
  rw [f.cwd] at hm
  exact hp m hm target (f.links m target hlink)

theorem of_volume (f : Framed params w u) {u' : World} (hv : u'.volume = u.volume) : Framed params w u' where
  cwd := by rw [hv, f.cwd]
  links l target := by
    rw [hv]
    exact f.links l target
  spared l hl hs := by
    rw [hv]
    exact f.spared l hl hs

/-- A directory made on the way, or at the library directory. -/
theorem mkdir (f : Framed params w u) {p : Path} (hp : w.volume.Plain p)
    (hway : IsPassed params w (place w.volume.cwd p) ∨ place w.volume.cwd p = library params w) {v : Volume}
    (hm : u.volume.mkdir p = .ok v) : Framed params w { u with volume := v } := by
  obtain ⟨hnone, hne, rfl⟩ := Volume.mkdir_plain (f.plain hp) hm
  rw [f.cwd] at hnone hne
  refine ⟨f.cwd, fun l target hlink => ?_, fun l hl hs => ?_⟩
  · simp only [f.cwd] at hlink
    rw [Tree.get?_put _ _ _ hne] at hlink
    split at hlink
    · cases hlink
    · exact f.links l target hlink
  · have hspared := f.spared l hl hs
    unfold Spared at hspared ⊢
    simp only [f.cwd]
    rw [Tree.get?_put _ _ _ hne]
    by_cases he : l = place w.volume.cwd p
    · subst he
      rw [hnone] at hspared
      rw [if_pos rfl]
      rcases hway with hway | hlibrary
      · refine .inr ⟨hway, ?_, rfl⟩
        rcases hspared with hwas | ⟨_, _, hdir⟩
        · exact hwas.symm
        · cases hdir
      · exact absurd (hlibrary ▸ List.prefix_refl _) hl
    · rw [if_neg he]
      exact hspared

/-- The status file, written at its place. -/
theorem write (f : Framed params w u) (hp : w.volume.Plain params.config.layout.statusFile) {l : Loc} {v : Volume}
    (contents : Bytes) (hc : u.volume.create params.config.layout.statusFile = .ok (l, v)) :
    Framed params w { u with volume := v.fill l contents } := by
  have hput := Volume.puts_of_create hc contents
  have hplace := Volume.create_plain (f.plain hp) hc
  rw [f.cwd] at hplace
  refine ⟨hput.cwd.trans f.cwd, fun m target hlink => ?_, fun m hl hs => ?_⟩
  · simp only at hlink
    rw [hput.get?] at hlink
    split at hlink
    · cases hlink
    · exact f.links m target hlink
  · have hspared := f.spared m hl hs
    unfold Spared at hspared ⊢
    simp only
    rwa [hput.other (hplace ▸ hs)]

/-- What lies at the library directory, emptied. -/
theorem remove (f : Framed params w u) {v : Volume} (hv : u.volume.Empties (library params w) v) :
    Framed params w { u with volume := v } := by
  refine ⟨hv.cwd.trans f.cwd, fun l target hlink => f.links l target (hv.shrinks.link hlink), fun l hl hs => ?_⟩
  have hspared := f.spared l hl hs
  unfold Spared at hspared ⊢
  simp only
  rwa [hv.apart hl]

end Framed

/-! ## The stages before the downloads -/

theorem LinksApart.plainName (h : LinksApart params w) {name : String} (hn : Path.IsName (Utf8.encode name))
    (hlink : ∀ target, w.volume.tree.get? (place w.volume.cwd (params.config.workspace.join (.ofText name))) ≠ some (.link target)) :
    w.volume.Plain (params.config.workspace.join (.ofText name)) := by
  intro m hm target
  rcases (Volume.mem_stations_join_name hn).mp hm with hws | rfl
  · exact h.plain m hws target
  · have hname := hlink target
    rwa [Path.ofText, Volume.place_join_name _ _ hn] at hname

theorem plain_of_lineage {v : Volume} {p q : Path} (h : v.Plain p) (hq : q ∈ p.lineage) : v.Plain q :=
  fun m hm target => h m (Volume.stations_of_lineage hq hm) target

/-- What is made on the way of a name in the workspace is on the way to the workspace, or at that name. -/
theorem passed_of_lineage {name : String} (hn : Path.IsName (Utf8.encode name)) {q : Path}
    (hq : q ∈ (params.config.workspace.join (.ofText name)).lineage) :
    place w.volume.cwd q ∈ stations w.volume.cwd params.config.workspace ∨
      place w.volume.cwd q = place w.volume.cwd (params.config.workspace.join (.ofText name)) := by
  rcases (Volume.mem_stations_join_name hn).mp (Volume.place_mem_stations_of_lineage hq w.volume.cwd) with hws | hlast
  · exact .inl hws
  · rw [Path.ofText, Volume.place_join_name _ _ hn]
    exact .inr hlast

theorem framed_locate (h : LinksApart params w) : Framed params w ((locate params.config params.config.layout).on w).2 := by
  refine keeps_locate (P := Framed params w) (fun _ _ f => f.of_volume rfl) (fun _ _ f _ => f.of_volume rfl)
    (fun q hq _ _ f hm => f.mkdir (plain_of_lineage h.plain hq) (.inl (.inl (Volume.place_mem_stations_of_lineage hq _))) hm)
    (fun _ _ _ contents f hc => f.write ?_ contents hc) w (.refl params w)
  exact h.plainName h.names.status (h.notLink h.names.status h.names.statusNe)

theorem framed_work (h : LinksApart params w) : Keeps (Framed params w) (Directory.ensure params.config.layout.workDir) := by
  have hplain := h.plainName h.names.work (h.notLink h.names.work h.names.workNe)
  refine Directory.keeps_ensure (fun _ _ f => f.of_volume rfl) fun q hq _ _ f hm => f.mkdir (plain_of_lineage hplain hq) ?_ hm
  exact .inl (passed_of_lineage h.names.work hq)

/-- A library directory that is no link is renewed at its place. -/
theorem framed_renew (h : LinksApart params w) (hlib : ¬ LinkedLibrary params w) :
    Keeps (Framed params w) (Directory.renew params.config.layout.libDir) := by
  have hplain := h.plainName h.names.lib fun target hlink => hlib ⟨target, hlink⟩
  refine keeps_bind (Directory.keeps_clear (fun _ _ f => f.of_volume rfl) fun u _ v f hrm => ?_) fun _ =>
    Directory.keeps_ensure (fun _ _ f => f.of_volume rfl) fun q hq _ _ f hm => f.mkdir (plain_of_lineage hplain hq) ?_ hm
  · rcases Volume.removeAll_empties hrm with rfl | ⟨d, hd, hempty⟩
    · exact f
    · have hplace := Volume.resolve_plain (f.plain hplain) hd
      rw [f.cwd] at hplace
      obtain rfl : d = library params w := hplace
      exact f.remove hempty
  · rcases passed_of_lineage h.names.lib hq with hway | hlibrary
    · exact .inl (.inl hway)
    · exact .inr hlibrary

/-- Where the workspace is, and what is at the library directory there. -/
theorem leadsTo_home (h : LinksApart params w) (f : Framed params w u) {d : Loc} (hd : u.volume.LeadsTo params.config.workspace d) :
    library params w = d ++ [Utf8.encode params.config.libDir] := by
  have hplace := Volume.resolve_plain (f.plain h.plain) hd.1
  rw [f.cwd] at hplace
  rw [library_eq h.names.lib, hplace]

/-- A library directory that is a link is not renewed. -/
theorem renew_linked (hn : Path.IsName (Utf8.encode params.config.libDir)) {d : Loc} (hd : u.volume.LeadsTo params.config.workspace d) {target : Path}
    (hlink : u.volume.tree.get? (d ++ [Utf8.encode params.config.libDir]) = some (.link target)) :
    ((Directory.renew params.config.layout.libDir).on u).2.volume = u.volume := by
  have hclear : ((Directory.clear params.config.layout.libDir).on u).2.volume = u.volume :=
    Directory.clear_name_link hn hd hlink
  rw [Directory.renew, on_bind]
  rcases hc : (Directory.clear params.config.layout.libDir).on u with ⟨e | _, u₁⟩ <;> rw [hc] at hclear
  · exact hclear
  · have hv : u₁.volume = u.volume := hclear
    have hthere : u₁.volume.tree.get? (d ++ [Utf8.encode params.config.libDir]) ≠ none := by
      rw [hv, hlink]
      simp
    exact (Directory.ensure_name_there hn (hv ▸ hd) hthere).trans hv

/-- Preparing the directories, once the workspace is there. -/
theorem framed_prepare (h : LinksApart params w) (hadds : w.volume.Adds u.volume) (f : Framed params w u) {d : Loc}
    (hd : u.volume.LeadsTo params.config.workspace d) : Framed params w ((prepare params.config.layout).on u).2 := by
  have hwork := framed_work h u f
  have hadds' := Directory.adds_ensure params.config.layout.workDir u
  rw [prepare, on_bind]
  rcases he : (Directory.ensure params.config.layout.workDir).on u with ⟨e | _, u₁⟩ <;> rw [he] at hwork hadds'
  · exact hwork
  · by_cases hlib : LinkedLibrary params w
    · obtain ⟨target, hlink⟩ := hlib
      have hd₁ : u₁.volume.LeadsTo params.config.workspace d := hadds'.leadsTo hd
      have hlink₁ : u₁.volume.tree.get? (library params w) = some (.link target) := (hadds.trans hadds').grows.link hlink
      rw [leadsTo_home h hwork hd₁] at hlink₁
      exact hwork.of_volume (renew_linked h.names.lib hd₁ hlink₁)
    · exact framed_renew h hlib u₁ hwork

/-! ## The clearing -/

section

variable {s : Stages} (h : LinksApart params w) (hs : s.Of params w)

include h hs

/-- When the library directory is cleared, the workspace is there, and nothing but its entries has changed. -/
theorem framed_worked : Framed params w s.worked ∧ ∃ d, s.worked.volume.LeadsTo params.config.workspace d ∧
    library params w = d ++ [Utf8.encode params.config.libDir] := by
  have hlocated := framed_locate h
  rw [hs.located] at hlocated
  have hworked := framed_work h s.located hlocated
  have hadds := Directory.adds_ensure params.config.layout.workDir s.located
  rw [hs.worked] at hworked hadds
  obtain ⟨d, hd⟩ := locate_leadsTo hs.located
  exact ⟨hworked, d, hadds.leadsTo hd, leadsTo_home h hworked (hadds.leadsTo hd)⟩

theorem framed_renewed : Framed params w s.renewed := by
  have hlocated := framed_locate h
  rw [hs.located] at hlocated
  obtain ⟨d, hd⟩ := locate_leadsTo hs.located
  have hprepared := framed_prepare h hs.extends_located.volume hlocated hd
  rwa [hs.prepared] at hprepared

/-- The clearing changes nothing that does not lie at the library directory. -/
theorem cleared_apart {l : Loc} (hl : ¬ library params w <+: l) : s.cleared.volume.tree.get? l = s.worked.volume.tree.get? l := by
  obtain ⟨hworked, d, hd, hlibrary⟩ := framed_worked h hs
  by_cases hlib : LinkedLibrary params w
  · obtain ⟨target, hlink⟩ := hlib
    have hthere := hs.extends_worked.volume.grows.link hlink
    rw [hlibrary] at hthere
    have hv := Directory.clear_name_link h.names.lib hd hthere
    have hcleared : (Directory.clear (params.config.workspace.join ⟨Utf8.encode params.config.libDir⟩)).on s.worked = _ := hs.cleared
    rw [hcleared] at hv
    rw [show s.cleared.volume = s.worked.volume from hv]
  · rcases hs.cleared_frame with hv | ⟨d', hd', hempty⟩
    · rw [hv]
    · have hplain := h.plainName h.names.lib fun target hlink => hlib ⟨target, hlink⟩
      have hplace := Volume.resolve_plain (hworked.plain hplain) hd'
      rw [hworked.cwd] at hplace
      obtain rfl : d' = library params w := hplace
      exact hempty.apart hl

variable (hlib : ¬ LinkedLibrary params w)

include hlib

/-- Nothing lies in a library directory that has been cleared, if it is no link. -/
theorem cleared_under (hr : w.volume.tree.Rooted) {l : Loc} (hu : isUnder (library params w) l = true) :
    s.cleared.volume.tree.get? l = none := by
  obtain ⟨hworked, d, hd, hlibrary⟩ := framed_worked h hs
  have hunlinked : ∀ target, s.worked.volume.tree.get? (d ++ [Utf8.encode params.config.libDir]) ≠ some (.link target) := by
    intro target hlink
    rw [← hlibrary] at hlink
    exact hlib ⟨target, hworked.links _ _ hlink⟩
  rw [hlibrary] at hu
  exact Directory.bare_of_clear_name h.names.lib hd (hs.extends_worked.volume.rooted hr) hunlinked hs.cleared hu

/-- There are no links any more then. -/
theorem cleared_linkFree (hr : w.volume.tree.Rooted) : s.cleared.volume.tree.LinkFree := by
  intro l target hlink
  have hworked : s.worked.volume.tree.get? l = some (.link target) := by
    rcases hs.cleared_frame with hv | ⟨_, _, hempty⟩
    · rwa [hv] at hlink
    · exact hempty.shrinks.link hlink
  have hfirst := (framed_worked h hs).1.links l target hworked
  by_cases he : l = library params w
  · exact hlib ⟨target, he ▸ hfirst⟩
  · rw [cleared_under h hs hlib hr (isUnder_iff.mpr ⟨h.links l target hfirst, Ne.symm he⟩)] at hlink
    cases hlink

end

/-! ## A whole run -/

/-- What is neither in the library directory nor delivered is at the end as the downloads found it. -/
theorem end_of_renewed (h : LinksApart params w) (hr : w.volume.tree.Rooted) {s : Stages} (hs : s.Of params w) {w' : World}
    {r : Except Failure Report} (hc : (conclude params.report s.report).on s.fetched = (r, w')) {l : Loc}
    (hl : ¬ library params w <+: l) (hreport : ∀ file, params.report = some file → w'.volume.resolve file ≠ .ok l)
    (hlinked : LinkedLibrary params w → ∀ name ∈ params.manifest.entries,
      w'.volume.resolve (params.config.layout.libDir.join (.ofText name)) ≠ .ok l) :
    w'.volume.tree.get? l = s.renewed.volume.tree.get? l := by
  have hwritten := writesTo_end hs hc
  refine hwritten.kept l fun file hfile hresolve => ?_
  rcases hfile with ⟨name, hname, rfl⟩ | hfile
  · by_cases hlib : LinkedLibrary params w
    · exact hlinked hlib name hname hresolve
    · -- without links an artifact's file is in the library directory
      have hfree := hwritten.adds.linkFree (hs.extends_renewed.volume.linkFree (cleared_linkFree h hs hlib hr))
      have hplace := Volume.resolve_linkFree hfree hresolve
      rw [hwritten.adds.cwd, hs.cwd_renewed, Path.ofText,
        Volume.place_join_name _ _ (Manifest.isName_of_sound (params.manifest.sound name hname))] at hplace
      exact hl (hplace ▸ List.prefix_append _ _)
  · exact hreport file hfile hresolve

/-- What a run changes where links lie in its library directory only. -/
theorem run_frame (h : LinksApart params w) (hr : w.volume.tree.Rooted) {w' : World} {r : Except Failure Report}
    (hrun : (run params).on w = (r, w')) :
    (∀ l, ¬ library params w <+: l → l ≠ place w.volume.cwd params.config.layout.statusFile →
      (∀ file, params.report = some file → w'.volume.resolve file ≠ .ok l) →
      (LinkedLibrary params w → ∀ name ∈ params.manifest.entries,
        w'.volume.resolve (params.config.layout.libDir.join (.ofText name)) ≠ .ok l) → Spared params w w'.volume l) ∧
    ∀ s : Stages, s.Of params w →
      (∀ l, ¬ library params w <+: l → s.cleared.volume.tree.get? l = s.worked.volume.tree.get? l) ∧
      (¬ LinkedLibrary params w → ∀ l, isUnder (library params w) l = true → s.cleared.volume.tree.get? l = none) := by
  refine ⟨fun l hl hstatus hreport hlinked => ?_, fun s hs => ⟨fun l hl => cleared_apart h hs hl, fun hlib l hu => ?_⟩⟩
  · rcases run_cases hrun with ⟨_, _, hlocate⟩ | ⟨_, _, w₁, _, _, hlocate, hprepare⟩ | ⟨s, hs, hc⟩
    · have hframed := framed_locate h
      rw [hlocate] at hframed
      exact hframed.spared l hl hstatus
    · have hframed := framed_locate h
      have hadds := (extends_locate params.config params.config.layout w).volume
      obtain ⟨d, hd⟩ := locate_leadsTo hlocate
      rw [hlocate] at hframed hadds
      have hprepared := framed_prepare h hadds hframed hd
      rw [hprepare] at hprepared
      exact hprepared.spared l hl hstatus
    · have hlast := end_of_renewed h hr hs hc hl hreport hlinked
      have hspared := (framed_renewed h hs).spared l hl hstatus
      unfold Spared at hspared ⊢
      rwa [hlast]
  · exact cleared_under h hs hlib hr hu

end

theorem LibraryApart.linksApart {params : Params} {w : World} (h : LibraryApart params w) : LinksApart params w :=
  ⟨h.names, h.links, fun m hm target he => h.way m hm (h.links m target he)⟩

/-- A library directory that holds a link to a directory beside the workspace. -/
def outwardWorld : World := smallWorld [
  ([Utf8.encode "w"], .dir), ([Utf8.encode "w", Utf8.encode "l"], .dir),
  ([Utf8.encode "w", Utf8.encode "l", Utf8.encode "k"], .link (.ofText "../../other")),
  ([Utf8.encode "other"], .dir), ([Utf8.encode "other", Utf8.encode "kept"], .file [1])]

/-- The link goes, and what it led to stays. -/
theorem what_a_link_led_to_stays : ∃ (s : Stages) (report : Report) (w' : World), s.Of oneLibrary outwardWorld ∧
    (run oneLibrary).on outwardWorld = (.ok report, w') ∧
    s.cleared.volume.tree.get? [Utf8.encode "w", Utf8.encode "l", Utf8.encode "k"] = none ∧
    w'.volume.tree.get? [Utf8.encode "other", Utf8.encode "kept"] = some (.file [1]) := by
  have hrun : ((run oneLibrary).on outwardWorld).1.toOption.isSome = true := by decide +kernel
  obtain ⟨report, hreport⟩ := on_of_isSome hrun
  obtain ⟨s, hs, _⟩ := run_stages hreport trivial
  have hapart : LibraryApart oneLibrary outwardWorld := by
    refine ⟨plainNames_small "w" ⟨["a"], by decide⟩, by decide, fun l target hl => ?_⟩
    obtain ⟨e, he, rfl, hlink⟩ := Tree.isLink_of_get? hl
    have hheld : ∀ e ∈ outwardWorld.volume.tree.entries, Tree.isLink e.2 = true → library oneLibrary outwardWorld <+: e.1 := by
      decide
    exact hheld e he hlink
  have hdir : outwardWorld.volume.tree.get? (library oneLibrary outwardWorld) = some .dir := by decide
  have hunlinked : ¬ LinkedLibrary oneLibrary outwardWorld := by
    rintro ⟨target, hlink⟩
    rw [hdir] at hlink
    cases hlink
  have hkept : outwardWorld.volume.tree.get? [Utf8.encode "other", Utf8.encode "kept"] = some (.file [1]) := by decide
  obtain ⟨hframe, hcleared⟩ := run_frame hapart.linksApart (Tree.rooted_of_entries (by decide)) hreport
  refine ⟨s, report, _, hs, hreport, (hcleared s hs).2 hunlinked _ (by decide), ?_⟩
  rcases hframe [Utf8.encode "other", Utf8.encode "kept"] (by decide) (by decide) (fun file hf => by cases hf)
    (fun hlib => absurd hlib hunlinked) with hsame | ⟨_, hnone, _⟩
  · rw [hsame, hkept]
  · rw [hkept] at hnone
    cases hnone

/-! ## Links that are followed -/

/-- A run with plain names from a world where links lie at the library directory or in it alone, which makes
something elsewhere in a place that is not on its way. -/
structure Strays (params : Params) (w : World) (home l : Loc) : Prop where
  names : PlainNames params.config
  report : params.report = none
  workspace : w.volume.LeadsTo params.config.workspace home
  links : ∀ m target, w.volume.tree.get? m = some (.link target) → home ++ [Utf8.encode params.config.libDir] <+: m
  elsewhere : ¬ home ++ [Utf8.encode params.config.libDir] <+: l ∧ l ≠ home ++ [Utf8.encode params.config.statusFile] ∧
    l ≠ home ++ [Utf8.encode params.config.workDir] ∧ ¬ l <+: home
  missing : w.volume.tree.get? l = none
  made : ((run params).on w).2.volume.tree.get? l ≠ none

/-- A library directory that holds a link down to a directory beside it. -/
def aslantWorld : World := smallWorld [
  ([Utf8.encode "w"], .dir), ([Utf8.encode "w", Utf8.encode "l"], .dir),
  ([Utf8.encode "w", Utf8.encode "l", Utf8.encode "k"], .link (.ofText "../x/y/z")),
  ([Utf8.encode "w", Utf8.encode "x"], .dir), ([Utf8.encode "w", Utf8.encode "x", Utf8.encode "y"], .dir),
  ([Utf8.encode "w", Utf8.encode "x", Utf8.encode "y", Utf8.encode "z"], .dir)]

/-- A library directory that is a link to a directory beside the workspace. -/
def besideItsWorkspace : World := smallWorld [
  ([Utf8.encode "w"], .dir), ([Utf8.encode "w", Utf8.encode "l"], .link (.ofText "../kept")), ([Utf8.encode "kept"], .dir)]

/-- Where the path of the workspace goes through a link in the library directory, it leads elsewhere once
that is cleared; and where the library directory is a link, the artifacts go to where it leads. -/
theorem a_link_that_is_followed_leads_astray :
    Strays (smallParams "w/l/k/../../.." "l" ⟨["a"], by decide⟩) aslantWorld [Utf8.encode "w"] [Utf8.encode "l"] ∧
    Strays oneLibrary besideItsWorkspace [Utf8.encode "w"] [Utf8.encode "kept", Utf8.encode "a"] := by
  have linked {w : World} {d : Loc} (h : ∀ e ∈ w.volume.tree.entries, Tree.isLink e.2 = true → d <+: e.1) (m : Loc) (target : Path)
      (hm : w.volume.tree.get? m = some (.link target)) : d <+: m := by
    obtain ⟨e, he, rfl, hlink⟩ := Tree.isLink_of_get? hm
    exact h e he hlink
  constructor
  · refine ⟨plainNames_small _ _, rfl, ⟨ok_of_toOption ?_, by decide⟩, linked (by decide), by decide, by decide, ?_⟩
    · decide +kernel
    · decide +kernel
  · refine ⟨plainNames_small _ _, rfl, ⟨ok_of_toOption ?_, by decide⟩, linked (by decide), by decide, by decide, ?_⟩
    · decide +kernel
    · decide +kernel

end BuildHarvest.Sync
