/-
  BuildHarvest.Proofs.EarlyFailure — what a run that failed before its downloads has cost.

  Proved (`early_failure_costs_nothing`):
  - Where the parameters of a run cannot be had, nothing has been asked of a server and the volume
    is as it was.
  - A run that fails for anything but a download or its report has asked for the feed, and for
    what the feed's locator leads on to, alone; and its library directory is as it was, with all
    that lay in it. Links lie there only, the names in the workspace differ, and the path of the
    workspace does not go through the library directory: what it goes through is made before the
    feed is asked for (`a_workspace_behind_its_library_is_made_before_the_feed`).

  A run keeps to the status file and to missing directories on its way (`Quiet`) as far as the
  renewal of the library directory, and a renewal that fails has changed nothing
  (`Directory.renew_name_error`).
-/

import BuildHarvest.Program
import BuildHarvest.Proofs.ExactImage
import BuildHarvest.Proofs.Verdict

namespace BuildHarvest

open BuildHarvest.Action

/-! ## Parameters that cannot be had -/

theorem Settings.keeps_load {P : World → Prop} (note : ∀ w n, P w → P (w.note n)) (name? : Option String)
    (vars : Settings.Variables) (o : Settings.Overrides) : Keeps P (Settings.load name? vars o) := by
  have hrest : Keeps P (do
      let v ← Action.volume
      let sources ← orThrow .settings (Settings.sourceEntries v name? vars)
      orThrow id (Settings.configOf (Settings.layered vars sources o)) : Action Failure Config) :=
    keeps_bind (fun _ h => h) fun _ => keeps_bind (keeps_orThrow _ _) fun _ => keeps_orThrow _ _
  cases name? with
  | none => exact hrest
  | some name => exact keeps_bind (keeps_tell note _) fun _ => hrest

/-- Having the parameters changes nothing but what is told. -/
theorem Options.keeps_resolve {P : World → Prop} (note : ∀ w n, P w → P (w.note n)) (o : Options)
    (vars : Settings.Variables) : Keeps P (o.resolve vars) := by
  refine keeps_bind (Settings.keeps_load note _ _ _) fun config => keeps_bind (keeps_orThrow _ _) fun _ =>
    keeps_bind (keeps_orThrow _ _) fun manifest => ?_
  cases hempty : manifest.isEmpty with
  | true => exact keeps_bind (keeps_tell note _) fun _ => keeps_pure _
  | false => exact keeps_pure _

namespace Sync

open Volume (place stations)

/-! ## The stage that failed -/

/-- A run that failed before its downloads: it located no build, or could not prepare its directories. -/
theorem run_early {params : Params} {w w' : World} {e : Failure} (h : (run params).on w = (.error e, w'))
    (hd : ¬ e.IsDownload) (hr : ∀ file reason, e ≠ .reportWrite file reason) :
    (locate params.config params.config.layout).on w = (.error e, w') ∨
      ∃ build base w₁, (locate params.config params.config.layout).on w = (.ok (build, base), w₁) ∧
        (prepare params.config.layout).on w₁ = (.error e, w') := by
  rcases run_cases h with ⟨e', he, hl⟩ | ⟨build, base, w₁, e', he, hl, hp⟩ | ⟨s, _, hc⟩
  · obtain rfl := Except.error.inj he
    exact .inl hl
  · obtain rfl := Except.error.inj he
    exact .inr ⟨build, base, w₁, hl, hp⟩
  · exfalso
    rcases conclude_result hc with ⟨file, reason, _, he⟩ | ⟨_, he⟩
    · exact hr file reason (Except.error.inj he)
    · split at he
      · cases he
      · rename_i e' hfirst
        obtain ⟨_, _, _, _, _, _, _, rfl⟩ := Outcomes.isFirst_of_failure? hfirst
        rw [Except.error.inj he] at hd
        exact hd trivial

/-! ## What a run asks for before its downloads -/

theorem ensure_network (p : Path) (w : World) : ((Directory.ensure p).on w).2.network = w.network :=
  Directory.keeps_ensure (P := fun u => u.network = w.network) (fun _ _ h => h) (fun _ _ _ _ h _ => h) w rfl

/-- Once the workspace is there, the feed is asked for, and nothing else to locate the build. -/
theorem locate_network_made {config : Config} {w w₁ : World} (h : (Directory.ensure config.workspace).on w = (.ok (), w₁))
    (layout : Layout) :
    ((locate config layout).on w).2.network = (Transfer.request (some agent) config.feedUrl w.network).2 := by
  have hensure := ensure_network config.workspace w
  have hfetch := Feed.fetch_network (some agent) config.feedUrl layout.statusFile w₁
  rw [h] at hensure
  rw [show w₁.network = w.network from hensure] at hfetch
  rw [locate, on_bind, h]
  simp only
  rw [on_bind]
  rcases hf : (Feed.fetch (some agent) config.feedUrl layout.statusFile).on w₁ with ⟨_ | n, w₂⟩ <;> rw [hf] at hfetch
  · exact hfetch
  · have note (u : World) (n : Notice) (h : u.network = w₂.network) : (u.note n).network = w₂.network := h
    rw [← hfetch]
    exact keeps_bind (keeps_tell note _) (fun _ => keeps_bind (keeps_buildAt note _) fun _ => keeps_bind (keeps_orThrow _ _)
      fun _ => keeps_bind (keeps_tell note _) fun _ => keeps_pure _) w₂ rfl

/-- A build is located by the feed's request, if by any. -/
theorem locate_network (config : Config) (layout : Layout) (w : World) :
    ((locate config layout).on w).2.network = w.network ∨
      ((locate config layout).on w).2.network = (Transfer.request (some agent) config.feedUrl w.network).2 := by
  rcases he : (Directory.ensure config.workspace).on w with ⟨_ | _, w₁⟩
  · have hensure := ensure_network config.workspace w
    rw [he] at hensure
    rw [locate, on_bind, he]
    exact .inl hensure
  · exact .inr (locate_network_made he layout)

theorem prepare_network (layout : Layout) (w : World) : ((prepare layout).on w).2.network = w.network := by
  have hensure (p : Path) : Keeps (fun u => u.network = w.network) (Directory.ensure p) :=
    Directory.keeps_ensure (fun _ _ h => h) (fun _ _ _ _ h _ => h)
  exact keeps_bind (hensure _) (fun _ => keeps_bind (Directory.keeps_clear (fun _ _ h => h) fun _ _ _ h _ => h)
    fun _ => hensure _) w rfl

/-! ## A library directory that lies apart -/

/-- The three entries of the workspace have plain names, and the library directory has its own. -/
structure PlainNames (config : Config) : Prop where
  status : Path.IsName (Utf8.encode config.statusFile)
  work : Path.IsName (Utf8.encode config.workDir)
  lib : Path.IsName (Utf8.encode config.libDir)
  statusNe : config.statusFile ≠ config.libDir
  workNe : config.workDir ≠ config.libDir

/-- The library directory is apart from what a run does before it is renewed. -/
structure LibraryApart (params : Params) (w : World) : Prop where
  names : PlainNames params.config
  /-- The path of the workspace does not go through it. -/
  way : ∀ l ∈ stations w.volume.cwd params.config.workspace, ¬ library params w <+: l
  /-- There are no links elsewhere. -/
  links : ∀ l target, w.volume.tree.get? l = some (.link target) → library params w <+: l

section

variable {params : Params} {w u : World}

/-- Neither does the path of another name in the workspace. -/
theorem LibraryApart.wayOfName (h : LibraryApart params w) {name : String} (hn : Path.IsName (Utf8.encode name))
    (hne : name ≠ params.config.libDir) :
    ∀ l ∈ stations w.volume.cwd (params.config.workspace.join (.ofText name)), ¬ library params w <+: l := by
  intro l hl
  rcases (Volume.mem_stations_join_name hn).mp hl with hws | rfl
  · exact h.way l hws
  · intro hp
    rw [library_eq h.names.lib] at hp
    have heq := hp.eq_of_length (by simp)
    exact hne (Utf8.encode_injective (List.cons.inj (List.append_inj' heq rfl).2).1).symm

/-- A world after another: nothing has changed but the status file, and directories that were missing
on the way of the working directory. -/
structure Quiet (params : Params) (w u : World) : Prop where
  cwd : u.volume.cwd = w.volume.cwd
  frame : ∀ l, u.volume.tree.get? l = w.volume.tree.get? l ∨
    (l = place w.volume.cwd params.config.layout.statusFile ∧ ∃ c, u.volume.tree.get? l = some (.file c)) ∨
    l ∈ stations w.volume.cwd params.config.layout.workDir ∧ w.volume.tree.get? l = none ∧ u.volume.tree.get? l = some .dir

namespace Quiet

theorem refl (params : Params) (w : World) : Quiet params w w := ⟨rfl, fun _ => .inl rfl⟩

/-- What lies at the library directory is as it was. -/
theorem kept (q : Quiet params w u) (h : LibraryApart params w) {l : Loc} (hl : library params w <+: l) :
    u.volume.tree.get? l = w.volume.tree.get? l := by
  rcases q.frame l with hsame | ⟨rfl, _⟩ | ⟨hway, _⟩
  · exact hsame
  · exact absurd hl (h.wayOfName h.names.status h.names.statusNe _ (Volume.place_mem_stations _ _))
  · exact absurd hl (h.wayOfName h.names.work h.names.workNe l hway)

/-- A path beside the library directory meets no link. -/
theorem plain (q : Quiet params w u) (h : LibraryApart params w) {p : Path}
    (hp : ∀ l ∈ stations w.volume.cwd p, ¬ library params w <+: l) : u.volume.Plain p := by
  intro m hm target hlink
  rw [q.cwd] at hm
  rcases q.frame m with hsame | ⟨_, c, hfile⟩ | ⟨_, _, hdir⟩
  · exact hp m hm (h.links m target (hsame.symm.trans hlink))
  · rw [hfile] at hlink
    cases hlink
  · rw [hdir] at hlink
    cases hlink

theorem mkdir (q : Quiet params w u) (h : LibraryApart params w) {p : Path} {v : Volume}
    (hp : ∀ l ∈ stations w.volume.cwd p, l ∈ stations w.volume.cwd params.config.layout.workDir)
    (hm : u.volume.mkdir p = .ok v) : Quiet params w { u with volume := v } := by
  have hplain := q.plain h fun l hl => h.wayOfName h.names.work h.names.workNe l (hp l hl)
  obtain ⟨hnone, hne, rfl⟩ := Volume.mkdir_plain hplain hm
  refine ⟨q.cwd, fun l => ?_⟩
  simp only
  rw [Tree.get?_put _ _ _ hne]
  split
  · rename_i hl
    subst hl
    rw [q.cwd] at hnone ⊢
    refine .inr (.inr ⟨hp _ (Volume.place_mem_stations _ _), ?_, rfl⟩)
    rcases q.frame (place w.volume.cwd p) with hsame | ⟨_, c, hfile⟩ | ⟨_, hw, _⟩
    · rw [← hsame, hnone]
    · rw [hnone] at hfile
      cases hfile
    · exact hw
  · exact q.frame l

theorem write (q : Quiet params w u) (h : LibraryApart params w) {l : Loc} {v : Volume} (contents : Bytes)
    (hc : u.volume.create params.config.layout.statusFile = .ok (l, v)) :
    Quiet params w { u with volume := v.fill l contents } := by
  have hput := Volume.puts_of_create hc contents
  have hplace := Volume.create_plain (q.plain h (h.wayOfName h.names.status h.names.statusNe)) hc
  rw [q.cwd] at hplace
  refine ⟨hput.cwd.trans q.cwd, fun m => ?_⟩
  simp only
  by_cases hm : m = l
  · subst hm
    exact .inr (.inl ⟨hplace, contents, hput.self⟩)
  · rw [hput.other hm]
    exact q.frame m

end Quiet

/-! ## A run that fails before its downloads -/

theorem quiet_locate (h : LibraryApart params w) : Quiet params w ((locate params.config params.config.layout).on w).2 := by
  refine keeps_locate (P := Quiet params w) (fun _ _ q => ⟨q.cwd, q.frame⟩) (fun _ _ q _ => ⟨q.cwd, q.frame⟩)
    (fun p hp _ _ q hm => q.mkdir h (fun l hl => ?_) hm) (fun _ _ _ contents q hc => q.write h contents hc) w (.refl params w)
  exact (Volume.mem_stations_join (Volume.isAbsolute_name h.names.work)).mpr (.inl (Volume.stations_of_lineage hp hl))

theorem quiet_work (h : LibraryApart params w) (q : Quiet params w u) :
    Quiet params w ((Directory.ensure params.config.layout.workDir).on u).2 :=
  Directory.keeps_ensure (P := Quiet params w) (fun _ _ q => ⟨q.cwd, q.frame⟩)
    (fun _ hp _ _ q hm => q.mkdir h (fun _ hl => Volume.stations_of_lineage hp hl) hm) u q

/-- Preparing the directories of a workspace that is there fails before anything has been removed. -/
theorem quiet_prepare (h : LibraryApart params w) (q : Quiet params w u) {d : Loc}
    (hd : u.volume.LeadsTo params.config.workspace d) {e : Failure} {w' : World}
    (hp : (prepare params.config.layout).on u = (.error e, w')) : Quiet params w w' := by
  have hwork := quiet_work h q
  have hadds := Directory.adds_ensure params.config.layout.workDir u
  rcases on_bind_error hp with he | ⟨_, u₁, he, hrenew⟩ <;> rw [he] at hwork hadds
  · exact hwork
  · have hd : u₁.volume.LeadsTo params.config.workspace d := hadds.leadsTo hd
    have hplain := hwork.plain h h.way
    have hplace := Volume.resolve_plain hplain hd.1
    rw [hwork.cwd] at hplace
    have hv := Directory.renew_name_error h.names.lib hplain hd (fun m hm => ?_) hrenew
    · exact ⟨(congrArg Volume.cwd hv).trans hwork.cwd, fun l => hv ▸ hwork.frame l⟩
    · rw [hwork.cwd] at hm
      have := h.way m hm
      rwa [library_eq h.names.lib, ← hplace] at this

variable {w' : World} {e : Failure} (hrun : (run params).on w = (.error e, w')) (hd : ¬ e.IsDownload)
  (hr : ∀ file reason, e ≠ .reportWrite file reason)

include hrun hd hr

theorem isEarly_of_run : e.IsEarly := by
  rcases run_early hrun hd hr with hl | ⟨_, _, _, _, hp⟩
  · exact failsBy_locate _ _ _ _ _ hl
  · exact failsBy_prepare _ _ _ _ hp

theorem quiet_early (h : LibraryApart params w) : Quiet params w w' := by
  have hq := quiet_locate h
  rcases run_early hrun hd hr with hl | ⟨build, base, w₁, hl, hp⟩ <;> rw [hl] at hq
  · exact hq
  · obtain ⟨d, hd⟩ := locate_leadsTo hl
    exact quiet_prepare h hq hd hp

/-- Before its downloads a run asks for the feed, where that leads on to, and nothing else. -/
theorem early_asks : w'.network = w.network ∨ ∃ url, Transfer.target params.config.feedUrl = .ok url ∧
    Transfer.Asks w.network (some agent) url w.network w'.network := by
  have hlocate := locate_network params.config params.config.layout w
  have hfinal : w'.network = w.network ∨
      w'.network = (Transfer.request (some agent) params.config.feedUrl w.network).2 := by
    rcases run_early hrun hd hr with hl | ⟨_, _, w₁, hl, hp⟩ <;> rw [hl] at hlocate
    · exact hlocate
    · have hprepare := prepare_network params.config.layout w₁
      rw [hp] at hprepare
      rwa [← show w'.network = w₁.network from hprepare] at hlocate
  rcases hfinal with hn | hn
  · exact .inl hn
  · rw [hn]
    exact Transfer.request_asks (some agent) params.config.feedUrl w.network

end

/-- Failing early costs nothing: neither a file of the library directory, nor a request but the feed's. -/
theorem early_failure_costs_nothing :
    (∀ (call : CommandLine.Call) (vars : Settings.Variables) (w w' : World) (e : Failure),
      (call.options.resolve vars).on w = (.error e, w') →
        (call.perform vars).on w = (.error e, w') ∧ w'.volume = w.volume ∧ w'.network = w.network) ∧
    ∀ (params : Params) (w w' : World) (e : Failure), LibraryApart params w → (run params).on w = (.error e, w') →
      ¬ e.IsDownload → (∀ file reason, e ≠ .reportWrite file reason) →
        e.IsEarly ∧ (∀ l, library params w <+: l → w'.volume.tree.get? l = w.volume.tree.get? l) ∧
          (w'.network = w.network ∨ ∃ url, Transfer.target params.config.feedUrl = .ok url ∧
            Transfer.Asks w.network (some agent) url w.network w'.network) := by
  constructor
  · intro call vars w w' e h
    have hkept := Options.keeps_resolve (P := fun u => u.volume = w.volume ∧ u.network = w.network) (fun _ _ h => h)
      call.options vars w ⟨rfl, rfl⟩
    rw [h] at hkept
    refine ⟨?_, hkept⟩
    rw [CommandLine.Call.perform, on_bind, h]
  · intro params w w' e hapart hrun hd hr
    refine ⟨isEarly_of_run hrun hd hr, ?_, early_asks hrun hd hr⟩
    intro l hl
    exact (quiet_early hrun hd hr hapart).kept hapart hl

/-! ## Runs without a feed -/

/-- A library directory in use, and a server that has no feed. -/
def feedlessWorld : World := { usedWorld with network := ⟨true, [], []⟩ }

/-- What a run fails for where the feed is not found. -/
def feedNotFound : Failure :=
  .statusFetch "http://[::]/feed" "HTTP status client error (404 Not Found) for url (http://[::]/feed)"

/-- The names of a small run are plain. -/
theorem plainNames_small (workspace : String) (manifest : Manifest) : PlainNames (smallParams workspace "l" manifest).config where
  status := show Path.IsName (Utf8.encode "status") by decide
  work := show Path.IsName (Utf8.encode "work") by decide
  lib := show Path.IsName (Utf8.encode "l") by decide
  statusNe := show "status" ≠ "l" by decide
  workNe := show "work" ≠ "l" by decide

theorem oneLibrary_apart : LibraryApart oneLibrary feedlessWorld where
  names := plainNames_small "w" ⟨["a"], by decide⟩
  way := by decide
  links l target h := absurd h (Tree.linkFree_of_entries (by decide) l target)

/-- A call without a workspace, and a run without a feed: the file of an earlier run stays. -/
theorem early_failures_of_both_kinds :
    (∃ e w', ((⟨.empty, .info⟩ : CommandLine.Call).perform []).on usedWorld = (.error e, w') ∧ w'.volume = usedWorld.volume) ∧
    ∃ w', (run oneLibrary).on feedlessWorld = (.error feedNotFound, w') ∧
      w'.volume.tree.get? [Utf8.encode "w", Utf8.encode "l", Utf8.encode "old"] = some (.file [1]) ∧
      ∃ url, Transfer.target oneLibrary.config.feedUrl = .ok url ∧
        Transfer.Asks feedlessWorld.network (some agent) url feedlessWorld.network w'.network := by
  constructor
  · have hresolve : ((Options.empty.resolve []).failure? usedWorld).isSome = true := by decide +kernel
    obtain ⟨e, he⟩ := Option.isSome_iff_exists.mp hresolve
    obtain ⟨w', he⟩ := failure?_eq_some.mp he
    obtain ⟨hperform, hv, _⟩ := early_failure_costs_nothing.1 ⟨.empty, .info⟩ [] usedWorld w' e he
    exact ⟨e, w', hperform, hv⟩
  · have hfailure : (run oneLibrary).failure? feedlessWorld = some feedNotFound := by decide +kernel
    have hheard : ((run oneLibrary).on feedlessWorld).2.network.requests ≠ [] := by decide +kernel
    have hold : feedlessWorld.volume.tree.get? [Utf8.encode "w", Utf8.encode "l", Utf8.encode "old"] = some (.file [1]) := by
      decide +kernel
    obtain ⟨w', hrun⟩ := failure?_eq_some.mp hfailure
    obtain ⟨_, hkept, hasks⟩ := early_failure_costs_nothing.2 oneLibrary feedlessWorld w' feedNotFound oneLibrary_apart hrun id
      (fun _ _ he => by cases he)
    refine ⟨w', hrun, ?_, ?_⟩
    · rw [hkept _ ⟨[Utf8.encode "old"], by decide⟩, hold]
    · rcases hasks with hnone | hasks
      · rw [hrun, show w'.network = _ from hnone] at hheard
        exact absurd rfl hheard
      · exact hasks

/-- Where the path of the workspace goes through the library directory, a directory that it names is
made there, though the run fails for the feed. -/
theorem a_workspace_behind_its_library_is_made_before_the_feed :
    PlainNames (smallParams "w/l/x/../.." "l" ⟨["a"], by decide⟩).config ∧ feedlessWorld.volume.tree.LinkFree ∧ ∃ w',
      (run (smallParams "w/l/x/../.." "l" ⟨["a"], by decide⟩)).on feedlessWorld = (.error feedNotFound, w') ∧
        library (smallParams "w/l/x/../.." "l" ⟨["a"], by decide⟩) feedlessWorld = [Utf8.encode "w", Utf8.encode "l"] ∧
        feedlessWorld.volume.tree.get? [Utf8.encode "w", Utf8.encode "l", Utf8.encode "x"] = none ∧
        w'.volume.tree.get? [Utf8.encode "w", Utf8.encode "l", Utf8.encode "x"] = some .dir := by
  have hfailure : (run (smallParams "w/l/x/../.." "l" ⟨["a"], by decide⟩)).failure? feedlessWorld = some feedNotFound := by
    decide +kernel
  have hmade : ((run (smallParams "w/l/x/../.." "l" ⟨["a"], by decide⟩)).on feedlessWorld).2.volume.tree.get?
      [Utf8.encode "w", Utf8.encode "l", Utf8.encode "x"] = some .dir := by decide +kernel
  obtain ⟨w', hrun⟩ := failure?_eq_some.mp hfailure
  rw [hrun] at hmade
  exact ⟨plainNames_small _ _, Tree.linkFree_of_entries (by decide), w', hrun, by decide, by decide, hmade⟩

end Sync

end BuildHarvest
