/-
  BuildHarvest.Proofs.Confinement — what a run touches, and what of it is outside its workspace.

  Places are by text here, so the trees are without links. A run may touch the place of its
  status file, that of its library directory with what is under it (`Touches`), and the places
  on the way to its directories, where it makes what is missing (`OnTheWay`). `Confined`: all of
  this is in the workspace or leads to it. Names that are relative and go nowhere up are
  confined (`confined_of_inner`); nothing checks that they are.

  Proved (`run_confined`):
  - Whatever comes of a run, it changes nothing else but its report.
  - So a run whose names are confined changes nothing outside the workspace but its report, and
    makes only directories that lead to the workspace. What is cleared lies in the workspace.
  - Whether its names are confined or not, a run that gets to its downloads has written the
    status file at its place and cleared the library directory at its place.

  `a_name_that_goes_up_clears_what_is_beside_the_workspace`: settings give such names.
-/

import BuildHarvest.Options
import BuildHarvest.Proofs.Sync

namespace BuildHarvest.Sync

open BuildHarvest.Action
open Volume (place stations placeFrom)
open BuildHarvest.Tree (isUnder isUnder_iff)

/-! ## Names that stay inside -/

section

variable (config : Config) (cwd : Loc)

/-- Where the workspace is. -/
def home : Loc := place cwd config.workspace

/-- The place of the status file, or one in the library directory. -/
def Touches (l : Loc) : Prop := l = place cwd config.layout.statusFile ∨ place cwd config.layout.libDir <+: l

/-- A place that is passed on the way to a directory of a run. -/
def OnTheWay (l : Loc) : Prop := ∃ dir ∈ madePaths config, l ∈ stations cwd dir

/-- On the way to the workspace. -/
def LeadsIn (l : Loc) : Prop := l <+: home config cwd ∨ l ∈ stations cwd config.workspace

structure Confined : Prop where
  status : home config cwd <+: place cwd config.layout.statusFile
  library : home config cwd <+: place cwd config.layout.libDir
  way : ∀ l, OnTheWay config cwd l → home config cwd <+: l ∨ LeadsIn config cwd l

/-- A relative path that goes nowhere up. -/
def IsInner (name : String) : Prop := (Path.ofText name).isAbsolute = false ∧ .up ∉ Volume.steps (.ofText name)

instance (name : String) : Decidable (IsInner name) := inferInstanceAs (Decidable (_ ∧ _))

end

theorem prefix_placeFrom {ss : List Volume.Step} (h : .up ∉ ss) (l : Loc) : l <+: placeFrom l ss := by
  induction ss generalizing l with
  | nil => exact List.prefix_rfl
  | cons s ss ih =>
    have hrest := ih (fun hm => h (List.mem_cons_of_mem _ hm))
    cases s with
    | here => exact hrest l
    | up => exact absurd List.mem_cons_self h
    | down name => exact (List.prefix_append l [name]).trans (hrest (l ++ [name]))

theorem prefix_stationsFrom {ss : List Volume.Step} (h : .up ∉ ss) {l m : Loc} (hm : m ∈ Volume.stationsFrom l ss) : l <+: m := by
  obtain ⟨a, b, rfl, rfl⟩ := Volume.mem_stationsFrom.mp hm
  exact prefix_placeFrom (fun hu => h (List.mem_append_left _ hu)) l

theorem confined_of_inner {config : Config} (cwd : Loc) (hs : IsInner config.statusFile) (hw : IsInner config.workDir)
    (hl : IsInner config.libDir) : Confined config cwd where
  status := by
    rw [Config.layout, Volume.place_join cwd _ _ hs.1]
    exact prefix_placeFrom hs.2 _
  library := by
    rw [Config.layout, Volume.place_join cwd _ _ hl.1]
    exact prefix_placeFrom hl.2 _
  way l := by
    rintro ⟨dir, hdir, hm⟩
    have joined {name : String} (hn : IsInner name) (hm : l ∈ stations cwd (config.workspace.join (.ofText name))) :
        home config cwd <+: l ∨ LeadsIn config cwd l := by
      rcases (Volume.mem_stations_join hn.1).mp hm with h | h
      · exact .inr (.inr h)
      · exact .inl (prefix_stationsFrom hn.2 h)
    simp only [madePaths, List.mem_cons, List.not_mem_nil, or_false] at hdir
    rcases hdir with rfl | rfl | rfl
    · exact .inr (.inr hm)
    · exact joined hw hm
    · exact joined hl hm

/-! ## What a step spares -/

/-- A place as it was, or a new directory on the way. -/
def Kept (config : Config) (v v' : Volume) (l : Loc) : Prop :=
  v'.tree.get? l = v.tree.get? l ∨ OnTheWay config v.cwd l ∧ v.tree.get? l = none ∧ v'.tree.get? l = some .dir

/-- After some of a run: what is neither touched nor the report is kept. -/
structure Spares (params : Params) (w u : World) : Prop where
  cwd : u.volume.cwd = w.volume.cwd
  linkFree : u.volume.tree.LinkFree
  kept : ∀ l, ¬ Touches params.config w.volume.cwd l → (∀ file, params.report = some file → l ≠ place w.volume.cwd file) →
    Kept params.config w.volume u.volume l

theorem touches_written {params : Params} {cwd : Loc} {file : Path} (hf : IsWritten params file) :
    Touches params.config cwd (place cwd file) ∨ params.report = some file := by
  rcases hf with rfl | ⟨name, hname, rfl⟩ | hf
  · exact .inl (.inl rfl)
  · refine .inl (.inr ?_)
    rw [Path.ofText, Volume.place_join_name cwd _ (Manifest.isName_of_sound (params.manifest.sound name hname))]
    exact List.prefix_append _ _
  · exact .inr hf

theorem spares_mkdir {params : Params} {w u : World} {v : Volume} {dir p : Path} (hdir : dir ∈ madePaths params.config)
    (hp : p ∈ dir.lineage) (h : Spares params w u) (hm : u.volume.mkdir p = .ok v) : Spares params w { u with volume := v } := by
  obtain ⟨hn, hne, rfl⟩ := Volume.mkdir_linkFree h.linkFree hm
  rw [h.cwd] at hn hne
  refine ⟨h.cwd, Tree.linkFree_put h.linkFree (h.cwd ▸ hne) (fun _ e => by cases e), fun l ht hrep => ?_⟩
  have hkept := h.kept l ht hrep
  unfold Kept at hkept ⊢
  simp only [h.cwd]
  rw [Tree.get?_put _ _ _ hne]
  split
  · rename_i he
    subst he
    rw [hn] at hkept
    rcases hkept with hwas | ⟨_, _, hd⟩
    · exact .inr ⟨⟨dir, hdir, Volume.place_mem_stations_of_lineage hp _⟩, hwas.symm, rfl⟩
    · cases hd
  · exact hkept

theorem spares_write {params : Params} {w u : World} {v : Volume} {file : Path} {l : Loc} {contents : Bytes}
    (hfile : IsWritten params file) (h : Spares params w u) (hc : u.volume.create file = .ok (l, v)) :
    Spares params w { u with volume := v.fill l contents } := by
  have hput := Volume.puts_of_create hc contents
  have hplace := Volume.create_linkFree h.linkFree hc
  rw [h.cwd] at hplace
  refine ⟨hput.cwd.trans h.cwd, hput.adds.linkFree h.linkFree, fun l' ht hrep => ?_⟩
  have hne : l' ≠ l := by
    rintro rfl
    rcases touches_written hfile with htouch | hf
    · exact ht (hplace ▸ htouch)
    · exact hrep file hf hplace
  have hkept := h.kept l' ht hrep
  unfold Kept at hkept ⊢
  simp only
  rwa [hput.other hne]

theorem spares_remove {params : Params} {w u : World} {v : Volume} {r : Except Errno Unit} (h : Spares params w u)
    (hrm : u.volume.removeAll params.config.layout.libDir = (r, v)) : Spares params w { u with volume := v } := by
  rcases Volume.removeAll_empties hrm with rfl | ⟨d, hd, he⟩
  · exact h
  · have hplace := Volume.resolve_linkFree h.linkFree hd
    rw [h.cwd] at hplace
    refine ⟨he.cwd.trans h.cwd, he.linkFree h.linkFree, fun l ht hrep => ?_⟩
    have hout : ¬ d <+: l := fun hp => ht (.inr (hplace ▸ hp))
    have hunder : isUnder d l = false := by
      cases hu : isUnder d l with
      | false => rfl
      | true => exact absurd (isUnder_iff.mp hu).1 hout
    have hkept := h.kept l ht hrep
    unfold Kept at hkept ⊢
    simp only
    rwa [he.other l hunder (by rintro rfl; exact hout List.prefix_rfl)]

theorem spares_run (params : Params) {w : World} (hl : w.volume.tree.LinkFree) : Spares params w ((run params).on w).2 :=
  keeps_run (P := Spares params w) (fun _ _ h => ⟨h.cwd, h.linkFree, h.kept⟩) (fun _ _ h _ => ⟨h.cwd, h.linkFree, h.kept⟩)
    (fun _ hdir _ hp _ _ h hm => spares_mkdir hdir hp h hm) (fun _ hfile _ _ _ _ h hc => spares_write hfile h hc)
    (fun _ _ _ h hrm => spares_remove h hrm) w ⟨rfl, hl, fun _ _ _ => .inl rfl⟩

/-- What is outside the workspace is not touched under confined names. -/
theorem not_touches_of_confined {config : Config} {cwd l : Loc} (hc : Confined config cwd) (hout : ¬ home config cwd <+: l) :
    ¬ Touches config cwd l := by
  rintro (rfl | hlib)
  · exact hout hc.status
  · exact hout (hc.library.trans hlib)

/-! ## A whole run -/

/-- What the clearing changes lies in a confined library directory, so in the workspace. -/
theorem home_of_cleared {s : Stages} {params : Params} {w : World} (hs : s.Of params w) (hl : w.volume.tree.LinkFree)
    (hc : Confined params.config w.volume.cwd) {l : Loc} (hne : s.cleared.volume.tree.get? l ≠ s.worked.volume.tree.get? l) :
    home params.config w.volume.cwd <+: l := by
  rcases hs.cleared_frame with hv | ⟨d, hd, he⟩
  · exact absurd (by rw [hv]) hne
  · have hplace := Volume.resolve_linkFree (hs.extends_worked.volume.linkFree hl) hd
    rw [hs.extends_worked.volume.cwd] at hplace
    have hin : home params.config w.volume.cwd <+: d := hplace ▸ hc.library
    cases hu : isUnder d l with
    | true => exact hin.trans (isUnder_iff.mp hu).1
    | false =>
      by_cases hld : l = d
      · rwa [hld]
      · exact absurd (he.other l hu hld) hne

/-- A run that gets to its downloads has written its status file where that has its place. -/
theorem status_written {s : Stages} {params : Params} {w : World} (hs : s.Of params w) (hl : w.volume.tree.LinkFree) :
    ∃ contents, s.located.volume.tree.get? (place w.volume.cwd params.config.layout.statusFile) = some (.file contents) := by
  obtain ⟨feed, _, _, _, _, hresolve, hheld⟩ := hs.feed
  have hplace := Volume.resolve_linkFree (hs.extends_located.volume.linkFree hl) hresolve
  rw [hs.extends_located.volume.cwd] at hplace
  exact ⟨feed.body.octets, hplace ▸ hheld⟩

/-- It has made its working directory where that has its place. -/
theorem work_made {s : Stages} {params : Params} {w : World} (hs : s.Of params w) (hl : w.volume.tree.LinkFree) :
    s.worked.volume.tree.get? (place w.volume.cwd params.config.layout.workDir) = some .dir := by
  obtain ⟨d, hd⟩ := Directory.ensure_leadsTo hs.worked
  have hplace := Volume.resolve_linkFree (hs.extends_worked.volume.linkFree hl) hd.1
  rw [hs.extends_worked.volume.cwd] at hplace
  rw [← hplace]
  exact hd.2

/-- What a run changes, and what of it lies outside its workspace, in a tree without links. -/
theorem run_confined {params : Params} {w w' : World} {r : Except Failure Report} (hr : w.volume.tree.Rooted)
    (hl : w.volume.tree.LinkFree) (h : (run params).on w = (r, w')) :
    (∀ l, ¬ Touches params.config w.volume.cwd l → (∀ file, params.report = some file → l ≠ place w.volume.cwd file) →
      Kept params.config w.volume w'.volume l) ∧
    (Confined params.config w.volume.cwd →
      (∀ l, ¬ home params.config w.volume.cwd <+: l → (∀ file, params.report = some file → l ≠ place w.volume.cwd file) →
        w'.volume.tree.get? l = w.volume.tree.get? l ∨
          LeadsIn params.config w.volume.cwd l ∧ w.volume.tree.get? l = none ∧ w'.volume.tree.get? l = some .dir) ∧
      ∀ s : Stages, s.Of params w → ∀ l, s.cleared.volume.tree.get? l ≠ s.worked.volume.tree.get? l →
        home params.config w.volume.cwd <+: l) ∧
    (Delivers r → ∃ s : Stages, s.Of params w ∧
      (∃ contents, s.located.volume.tree.get? (place w.volume.cwd params.config.layout.statusFile) = some (.file contents)) ∧
      s.worked.volume.tree.get? (place w.volume.cwd params.config.layout.workDir) = some .dir ∧
      ∀ d l, w.volume.LeadsTo params.config.layout.libDir d → isUnder d l = true →
        d = place w.volume.cwd params.config.layout.libDir ∧ s.cleared.volume.tree.get? l = none) := by
  have hkept := (spares_run params hl).kept
  rw [h] at hkept
  refine ⟨hkept, fun hc => ⟨fun l hout hrep => ?_, fun s hs l hne => home_of_cleared hs hl hc hne⟩, fun hdel => ?_⟩
  · rcases hkept l (not_touches_of_confined hc hout) hrep with hsame | ⟨hway, hmade⟩
    · exact .inl hsame
    · exact .inr ⟨(hc.way l hway).resolve_left hout, hmade⟩
  · obtain ⟨s, hs, _⟩ := run_stages h hdel
    have hwl := hs.extends_worked.volume.linkFree hl
    refine ⟨s, hs, status_written hs hl, work_made hs hl, fun d l hd hu => ⟨Volume.resolve_linkFree hl hd.1, ?_⟩⟩
    exact Directory.gone_of_clear (hs.extends_worked.volume.rooted hr) (Directory.not_namesLink hwl _) hs.cleared
      (hs.extends_worked.volume.leadsTo hd).1 hu

/-- A workspace with a directory beside it. -/
def besideWorld : World := smallWorld [
  ([Utf8.encode "w"], .dir), ([Utf8.encode "other"], .dir), ([Utf8.encode "other", Utf8.encode "kept"], .file [1])]

theorem inner_names_spare_what_is_beside : ∃ r w', (run oneLibrary).on besideWorld = (r, w') ∧
    Delivers r ∧ w'.volume.tree.get? [Utf8.encode "other", Utf8.encode "kept"] = some (.file [1]) := by
  have hrun : ((run oneLibrary).on besideWorld).1.toOption.isSome = true := by decide +kernel
  obtain ⟨report, hreport⟩ := on_of_isSome hrun
  refine ⟨_, _, hreport, trivial, ?_⟩
  obtain ⟨_, hconfined, _⟩ := run_confined (Tree.rooted_of_entries (by decide)) (Tree.linkFree_of_entries (by decide))
    hreport
  have hinner : Confined oneLibrary.config besideWorld.volume.cwd :=
    confined_of_inner _ (by decide) (by decide) (by decide)
  rcases (hconfined hinner).1 [Utf8.encode "other", Utf8.encode "kept"] (by decide) (fun file hf => by cases hf) with hsame | ⟨_, hnone, _⟩
  · exact hsame
  · cases hnone

theorem a_name_that_goes_up_clears_what_is_beside_the_workspace : besideWorld.volume.tree.LinkFree ∧ ∃ params w₁ report w',
    (Options.resolve ⟨none, some "w", some "http://[::]/feed", some "", ["a"], false, none⟩
      [(Utf8.encode "ARTISYNC_LIB_DIR", Utf8.encode "../other")]).on besideWorld = (.ok params, w₁) ∧
    (run params).on w₁ = (.ok report, w') ∧ params.report = none ∧
    home params.config w₁.volume.cwd = [Utf8.encode "w"] ∧
    w₁.volume.tree.get? [Utf8.encode "other", Utf8.encode "kept"] = some (.file [1]) ∧
    w'.volume.tree.get? [Utf8.encode "other", Utf8.encode "kept"] = none := by
  refine ⟨Tree.linkFree_of_entries (by decide), ?_⟩
  generalize hres : (Options.resolve ⟨none, some "w", some "http://[::]/feed", some "", ["a"], false, none⟩
    [(Utf8.encode "ARTISYNC_LIB_DIR", Utf8.encode "../other")]) = resolve
  have hboth : ((resolve >>= run).on besideWorld).1.toOption.isSome = true := by subst hres; decide +kernel
  have hgone : ((resolve >>= run).on besideWorld).2.volume.tree.get? [Utf8.encode "other", Utf8.encode "kept"] = none := by
    subst hres; decide +kernel
  have hplace : (resolve.on besideWorld).1.toOption.map (fun p => (p.report, home p.config (resolve.on besideWorld).2.volume.cwd))
      = some (none, [Utf8.encode "w"]) := by subst hres; decide +kernel
  have hthere : (resolve.on besideWorld).2.volume.tree.get? [Utf8.encode "other", Utf8.encode "kept"] = some (.file [1]) := by
    subst hres; decide +kernel
  obtain ⟨report, hreport⟩ := on_of_isSome hboth
  obtain ⟨params, w₁, h₁, h₂⟩ := on_bind_ok hreport
  rw [h₁] at hplace hthere
  obtain ⟨hrep, hhome⟩ := Prod.mk.inj (Option.some.inj hplace)
  exact ⟨params, w₁, report, _, h₁, h₂, hrep, hhome, hthere, hgone⟩

end BuildHarvest.Sync
