/-
  BuildHarvest.Proofs.Sync — a run by its stages.

  A run that got to its downloads went through five worlds before them (`Stages`), and it did so
  wherever it succeeded or failed for a download (`run_stages`). All stages but one only add to
  the volume, and none changes what the servers hold (`Extends`).
-/

import BuildHarvest.Proofs.Directory
import BuildHarvest.Proofs.Download
import BuildHarvest.Proofs.Snapshot
import BuildHarvest.Sync

namespace BuildHarvest

/-- One world after another: files and directories have been added, and the servers are the same. -/
structure World.Extends (w w' : World) : Prop where
  volume : w.volume.Adds w'.volume
  network : w.network.Same w'.network

theorem World.Extends.refl (w : World) : w.Extends w := ⟨.refl _, .refl _⟩

theorem World.Extends.trans {a b c : World} (hab : a.Extends b) (hbc : b.Extends c) : a.Extends c :=
  ⟨hab.volume.trans hbc.volume, hab.network.trans hbc.network⟩

theorem World.Extends.note {a b : World} (h : a.Extends b) (n : Notice) : a.Extends (b.note n) := ⟨h.volume, h.network⟩

def Failure.IsDownload : Failure → Prop
  | .download .. => True
  | _ => False

/-- What a run may fail for before its downloads. -/
def Failure.IsEarly : Failure → Prop
  | .system _ | .statusFetch .. | .statusMalformed .. | .missingNode _ | .invalidUrl .. => True
  | .directoryConflict _ | .directoryCreation .. | .directoryClear .. => True
  | _ => False

theorem Failure.IsEarly.not_isDownload {e : Failure} (h : e.IsEarly) : ¬ e.IsDownload := by
  cases e with
  | download => exact h.elim
  | _ => exact id

namespace Sync

open BuildHarvest.Action

/-! ## What each stage keeps -/

section Keeping

variable {P : World → Prop} (note : ∀ w n, P w → P (w.note n))
  (ask : ∀ w n, P w → w.network.Same n → P { w with network := n })

include note

theorem keeps_buildAt (file : Path) : Keeps P (Feed.buildAt file) := by
  refine keeps_bind (fun w h => h) fun v => ?_
  split
  · exact keeps_throw _
  · exact keeps_throw _
  · simp only
    split
    · exact keeps_bind (keeps_tell note _) fun _ => keeps_orThrow _ _
    · exact keeps_orThrow _ _

include ask

theorem keeps_locate {config : Config} {layout : Layout}
    (mkdir : ∀ p ∈ config.workspace.lineage, ∀ w v, P w → w.volume.mkdir p = .ok v → P { w with volume := v })
    (write : ∀ w l v contents, P w → w.volume.create layout.statusFile = .ok (l, v) →
      P { w with volume := v.fill l contents }) : Keeps P (locate config layout) := by
  exact keeps_bind (Directory.keeps_ensure note mkdir) fun _ => keeps_bind (Feed.keeps_fetch note ask write) fun _ =>
    keeps_bind (keeps_tell note _) fun _ => keeps_bind (keeps_buildAt note _) fun _ => keeps_bind (keeps_orThrow _ _) fun _ => keeps_bind (keeps_tell note _) fun _ => keeps_pure _

theorem keeps_fetchAll {params : Params} {base : ArtifactBase}
    (write : ∀ name ∈ params.manifest.entries, ∀ w l v contents, P w →
      w.volume.create (params.config.layout.libDir.join (.ofText name)) = .ok (l, v) →
      P { w with volume := v.fill l contents }) : Keeps P (fetchAll params base) := by
  refine keeps_bind (keeps_tell note _) fun _ => Download.keeps_all _ _ _ note ask fun item hi => ?_
  obtain ⟨name, hname, rfl⟩ := List.mem_map.mp hi
  exact write name hname

omit ask in
theorem keeps_conclude {file? : Option Path} {report : Report}
    (write : ∀ file, file? = some file → ∀ w l v contents, P w → w.volume.create file = .ok (l, v) →
      P { w with volume := v.fill l contents }) : Keeps P (conclude file? report) := by
  have hend : Keeps P (do
      let _ ← orThrow id (Outcomes.result report.outcomes)
      tell .completed
      return report : Action Failure Report) :=
    keeps_bind (keeps_orThrow _ _) fun _ => keeps_bind (keeps_tell note _) fun _ => keeps_pure _
  cases file? with
  | none => exact hend
  | some file =>
    have hwrite : Keeps P (report.write file) := by
      refine keeps_bind (fun w h => ?_) fun _ => keeps_tell note _
      rw [on_attemptPartly, Volume.save_eq]
      rcases hc : w.volume.create file with e | ⟨l, v⟩
      · exact h
      · exact write file rfl w l v _ h hc
    exact keeps_bind hwrite fun _ => hend

/-- The paths that a run makes directories of. -/
def madePaths (config : Config) : List Path := [config.workspace, config.layout.workDir, config.layout.libDir]

/-- The paths that a run writes files to. -/
def IsWritten (params : Params) (file : Path) : Prop :=
  file = params.config.layout.statusFile ∨ (∃ name ∈ params.manifest.entries, file = params.config.layout.libDir.join (.ofText name)) ∨
    params.report = some file

/-- A run keeps what its single steps keep. -/
theorem keeps_run {params : Params}
    (mkdir : ∀ dir ∈ madePaths params.config, ∀ p ∈ dir.lineage, ∀ w v, P w → w.volume.mkdir p = .ok v →
      P { w with volume := v })
    (write : ∀ file, IsWritten params file → ∀ w l v contents, P w → w.volume.create file = .ok (l, v) →
      P { w with volume := v.fill l contents })
    (remove : ∀ w r v, P w → w.volume.removeAll params.config.layout.libDir = (r, v) → P { w with volume := v }) :
    Keeps P (run params) := by
  have hprepare : Keeps P (prepare params.config.layout) :=
    keeps_bind (Directory.keeps_ensure note (mkdir _ (by simp [madePaths]))) fun _ =>
      keeps_bind (Directory.keeps_clear note remove) fun _ => Directory.keeps_ensure note (mkdir _ (by simp [madePaths]))
  exact keeps_bind (keeps_locate note ask (mkdir _ (by simp [madePaths])) (write _ (.inl rfl))) fun _ =>
    keeps_bind hprepare fun _ =>
      keeps_bind (keeps_fetchAll note ask fun name hname => write _ (.inr (.inl ⟨name, hname, rfl⟩))) fun _ =>
        keeps_conclude note fun file hfile => write file (.inr (.inr hfile))

end Keeping

/-! ## What each stage adds -/

theorem extends_locate (config : Config) (layout : Layout) (w : World) : w.Extends ((locate config layout).on w).2 :=
  keeps_locate (P := w.Extends) (fun _ n h => h.note n) (fun _ _ h hs => ⟨h.volume, h.network.trans hs⟩)
    (fun _ _ _ _ h hm => ⟨h.volume.trans (Volume.adds_mkdir hm), h.network⟩)
    (fun _ _ _ _ h hc => ⟨h.volume.trans (Volume.puts_of_create hc _).adds, h.network⟩) w (.refl w)

theorem extends_ensure (p : Path) (w : World) : w.Extends ((Directory.ensure p).on w).2 :=
  Directory.keeps_ensure (P := w.Extends) (fun _ n h => h.note n)
    (fun _ _ _ _ h hm => ⟨h.volume.trans (Volume.adds_mkdir hm), h.network⟩) w (.refl w)

theorem extends_fetchAll (params : Params) (base : ArtifactBase) (w : World) : w.Extends ((fetchAll params base).on w).2 :=
  keeps_fetchAll (P := w.Extends) (fun _ n h => h.note n) (fun _ _ h hs => ⟨h.volume, h.network.trans hs⟩)
    (fun _ _ _ _ _ _ h hc => ⟨h.volume.trans (Volume.puts_of_create hc _).adds, h.network⟩) w (.refl w)

theorem extends_conclude (file? : Option Path) (report : Report) (w : World) :
    w.Extends ((conclude file? report).on w).2 :=
  keeps_conclude (P := w.Extends) (fun _ n h => h.note n)
    (fun _ _ _ _ _ _ h hc => ⟨h.volume.trans (Volume.puts_of_create hc _).adds, h.network⟩) w (.refl w)

theorem same_clear (p : Path) (w : World) : w.network.Same ((Directory.clear p).on w).2.network :=
  Directory.keeps_clear (P := fun u => w.network.Same u.network) (fun _ _ h => h) (fun _ _ _ h _ => h) w (.refl _)

/-! ## Locating a build -/

theorem buildAt_ok {file : Path} {w w' : World} {build : String} {octets : Bytes}
    (h : (Feed.buildAt file).on w = (.ok build, w')) (hread : w.volume.readFile file = .ok octets) :
    (Feed.lastBuild file.text (Markup.read octets)).1 = .ok build := by
  rw [Feed.buildAt, on_bind, on_volume] at h
  simp only [hread] at h
  have thrown {w₁ : World} (h : (orThrow id (Feed.lastBuild file.text (Markup.read octets)).1).on w₁ = (.ok build, w')) :
      (Feed.lastBuild file.text (Markup.read octets)).1 = .ok build := by
    rw [on_orThrow] at h
    cases hb : (Feed.lastBuild file.text (Markup.read octets)).1 with
    | error e =>
      rw [hb] at h
      cases (Prod.mk.inj h).1
    | ok b =>
      rw [hb] at h
      rw [Except.ok.inj (Prod.mk.inj h).1]
  split at h
  · rw [on_bind, on_tell] at h
    exact thrown h
  · exact thrown h

/-- A build located: the feed is in its file, and the directory of the libraries is the build's. -/
theorem locate_ok {config : Config} {layout : Layout} {w w' : World} {build : String} {base : ArtifactBase}
    (h : (locate config layout).on w = (.ok (build, base), w')) :
    ArtifactBase.ofBuild build config.artifactSubpath = .ok base ∧
      ∃ w₁, (Directory.ensure config.workspace).on w = (.ok (), w₁) ∧
        ∃ response l v, Retrieval.answer (some agent) config.feedUrl w₁.network = .ok response ∧
          response.body.isWhole = true ∧ w₁.volume.create layout.statusFile = .ok (l, v) ∧
          w'.volume = v.fill l response.body.octets ∧
          (Feed.lastBuild layout.statusFile.text (Markup.read response.body.octets)).1 = .ok build := by
  obtain ⟨_, w₁, he, h⟩ := on_bind_ok h
  obtain ⟨_, w₂, hf, h⟩ := on_bind_ok h
  obtain ⟨_, w₃, ht, h⟩ := on_bind_ok h
  obtain ⟨build', w₄, hb, h⟩ := on_bind_ok h
  obtain ⟨base', w₅, ho, h⟩ := on_bind_ok h
  obtain ⟨_, w₆, ht', h⟩ := on_bind_ok h
  obtain ⟨hpair, rfl⟩ := Prod.mk.inj h
  obtain ⟨rfl, rfl⟩ := Prod.mk.inj (Except.ok.inj hpair)
  obtain ⟨-, rfl⟩ := Prod.mk.inj ht
  obtain ⟨-, rfl⟩ := Prod.mk.inj ht'
  rw [on_orThrow] at ho
  obtain ⟨hbase, rfl⟩ := Prod.mk.inj ho
  have hv : w₄.volume = w₂.volume := by
    have := keeps_buildAt (P := fun u => u.volume = w₂.volume) (fun _ _ h => h) layout.statusFile
      (w₂.note (.readingBuild layout.statusFile)) rfl
    rwa [hb] at this
  refine ⟨?_, w₁, he, ?_⟩
  · cases hob : ArtifactBase.ofBuild build' config.artifactSubpath with
    | error e =>
      rw [hob] at hbase
      cases hbase
    | ok b =>
      rw [hob] at hbase
      rw [Except.ok.inj hbase]
  · obtain ⟨response, l, v, ha, hw, hc, hw₂⟩ := Feed.fetch_ok hf
    refine ⟨response, l, v, ha, hw, hc, hv.trans hw₂, buildAt_ok hb ?_⟩
    show w₂.volume.readFile layout.statusFile = _
    rw [hw₂]
    exact Volume.readFile_of_resolve (Volume.resolve_create hc _) (Volume.puts_of_create hc _).self

/-- Once a build has been located, the workspace is there. -/
theorem locate_leadsTo {config : Config} {layout : Layout} {w w' : World} {build : String} {base : ArtifactBase}
    (h : (locate config layout).on w = (.ok (build, base), w')) : ∃ d, w'.volume.LeadsTo config.workspace d := by
  obtain ⟨_, w₁, hens, _, _, _, _, _, hc, hv, _⟩ := locate_ok h
  obtain ⟨d, hd⟩ := Directory.ensure_leadsTo hens
  refine ⟨d, ?_⟩
  rw [hv]
  exact (Volume.puts_of_create hc _).adds.leadsTo hd

/-! ## The stages of a run -/

/-- A run that got to its downloads: what it located, and the worlds after each of its stages. -/
structure Stages where
  build : String
  base : ArtifactBase
  located : World
  /-- The working directory is there. -/
  worked : World
  cleared : World
  /-- The library directory is there again. -/
  renewed : World
  fetched : World
  outcomes : List Outcome

def Stages.report (s : Stages) : Report := ⟨s.build, s.base.text, s.outcomes⟩

/-- The stages are those of a run that began in a world. -/
structure Stages.Of (s : Stages) (params : Params) (w : World) : Prop where
  located : (locate params.config params.config.layout).on w = (.ok (s.build, s.base), s.located)
  worked : (Directory.ensure params.config.layout.workDir).on s.located = (.ok (), s.worked)
  cleared : (Directory.clear params.config.layout.libDir).on s.worked = (.ok (), s.cleared)
  renewed : (Directory.ensure params.config.layout.libDir).on s.cleared = (.ok (), s.renewed)
  fetched : (fetchAll params s.base).on s.renewed = (.ok s.outcomes, s.fetched)

/-- The stages of a run, if it gets through all of them. -/
def stages? (params : Params) (w : World) : Option Stages := do
  let ((build, base), located) ← (locate params.config params.config.layout).done? w
  let (_, worked) ← (Directory.ensure params.config.layout.workDir).done? located
  let (_, cleared) ← (Directory.clear params.config.layout.libDir).done? worked
  let (_, renewed) ← (Directory.ensure params.config.layout.libDir).done? cleared
  let (outcomes, fetched) ← (fetchAll params base).done? renewed
  return ⟨build, base, located, worked, cleared, renewed, fetched, outcomes⟩

theorem stages?_eq_some {s : Stages} {params : Params} {w : World} : stages? params w = some s ↔ s.Of params w := by
  simp only [stages?, bind, Option.bind_eq_some_iff, done?_eq_some, pure, Option.some.injEq]
  constructor
  · rintro ⟨_, h₁, _, h₂, _, h₃, _, h₄, _, h₅, rfl⟩
    exact ⟨h₁, h₂, h₃, h₄, h₅⟩
  · intro h
    exact ⟨((s.build, s.base), s.located), h.located, ((), s.worked), h.worked, ((), s.cleared), h.cleared,
      ((), s.renewed), h.renewed, (s.outcomes, s.fetched), h.fetched, rfl⟩

/-! ## Failures before the downloads -/

theorem failsBy_ensure (p : Path) : FailsBy Failure.IsEarly (Directory.ensure p) := by
  suffices h : ∀ ps, FailsBy Failure.IsEarly (Directory.ensureFirst ps) from h _
  intro ps
  induction ps with
  | nil => exact failsBy_pure ()
  | cons p above ih =>
    have hmake : FailsBy Failure.IsEarly (Directory.make p) := by
      intro w w' e h
      rw [Directory.make_on] at h
      split at h
      · cases (Prod.mk.inj h).1
      · split at h
        · cases (Prod.mk.inj h).1
        · obtain rfl := Except.error.inj (Prod.mk.inj h).1
          exact trivial
    refine failsBy_bind failsBy_volume fun v => ?_
    split
    · exact failsBy_pure ()
    · exact failsBy_throw trivial
    · split
      · exact failsBy_bind ih fun _ => hmake
      · exact failsBy_throw trivial

theorem failsBy_clear (p : Path) : FailsBy Failure.IsEarly (Directory.clear p) := by
  refine failsBy_bind failsBy_volume fun v => ?_
  split
  · exact failsBy_pure ()
  · exact failsBy_throw trivial
  · exact failsBy_bind (failsBy_tell _) fun _ => failsBy_attemptPartly (fun _ => trivial) _
  · exact failsBy_tell _

theorem lastBuild_error {document : String} {stream : Markup.Stream} {e : Failure} (h : (Feed.lastBuild document stream).1 = .error e) :
    e.IsEarly := by
  rw [Feed.lastBuild_eq] at h
  split at h
  · obtain rfl := Except.error.inj h
    exact trivial
  · simp only [Feed.Search.result] at h
    split at h
    · cases h
    · obtain rfl := Except.error.inj h
      exact trivial
    · obtain rfl := Except.error.inj h
      exact trivial

theorem ofBuild_error {build subpath : String} {e : Failure} (h : ArtifactBase.ofBuild build subpath = .error e) :
    e.IsEarly := by
  unfold ArtifactBase.ofBuild at h
  dsimp only at h
  split at h
  · obtain rfl := Except.error.inj h
    exact trivial
  · split at h
    · cases h
    · obtain rfl := Except.error.inj h
      exact trivial

theorem failsBy_locate (config : Config) (layout : Layout) : FailsBy Failure.IsEarly (locate config layout) := by
  have hfetch : FailsBy Failure.IsEarly (Feed.fetch (some agent) config.feedUrl layout.statusFile) := by
    intro w w' e h
    rw [Feed.fetch_on] at h
    split at h
    · rename_i m _ _
      obtain rfl := Except.error.inj (Prod.mk.inj h).1
      cases m <;> exact trivial
    · cases (Prod.mk.inj h).1
  have hbuild : FailsBy Failure.IsEarly (Feed.buildAt layout.statusFile) := by
    refine failsBy_bind failsBy_volume fun v => ?_
    split
    · exact failsBy_throw trivial
    · exact failsBy_throw trivial
    · simp only
      split
      · exact failsBy_bind (failsBy_tell _) fun _ => failsBy_orThrow fun _ he => lastBuild_error he
      · exact failsBy_orThrow fun _ he => lastBuild_error he
  have hbase (build : String) : FailsBy Failure.IsEarly
      (orThrow id (ArtifactBase.ofBuild build config.artifactSubpath) : Action Failure ArtifactBase) :=
    failsBy_orThrow fun _ he => ofBuild_error he
  exact failsBy_bind (failsBy_ensure _) fun _ => failsBy_bind hfetch fun _ => failsBy_bind (failsBy_tell _) fun _ =>
    failsBy_bind hbuild fun build => failsBy_bind (hbase build) fun _ => failsBy_bind (failsBy_tell _) fun _ => failsBy_pure _

theorem failsBy_prepare (layout : Layout) : FailsBy Failure.IsEarly (prepare layout) :=
  failsBy_bind (failsBy_ensure _) fun _ => failsBy_bind (failsBy_clear _) fun _ => failsBy_ensure _

/-- A result that only a run gives that got to its downloads. -/
def Delivers (r : Except Failure Report) : Prop :=
  match r with
  | .ok _ => True
  | .error e => e.IsDownload

theorem fetchAll_ok (params : Params) (base : ArtifactBase) (w : World) : ∃ outcomes w', (fetchAll params base).on w = (.ok outcomes, w') := by
  rw [fetchAll, on_bind, on_tell]
  obtain ⟨w', h, _⟩ := Download.all_on (some agent) params.config.layout.libDir params.config.failurePolicy
    (Item.ofManifest base params.manifest) (w.note (.startingDownloads (Item.ofManifest base params.manifest).length
      params.config.layout.libDir))
  exact ⟨_, w', h⟩

/-- How far a run comes: it locates no build, its directories cannot be prepared, or it goes through all
its stages. -/
theorem run_cases {params : Params} {w w' : World} {r : Except Failure Report} (h : (run params).on w = (r, w')) :
    (∃ e, r = .error e ∧ (locate params.config params.config.layout).on w = (.error e, w')) ∨
    (∃ build base w₁ e, r = .error e ∧ (locate params.config params.config.layout).on w = (.ok (build, base), w₁) ∧
      (prepare params.config.layout).on w₁ = (.error e, w')) ∨
    ∃ s : Stages, s.Of params w ∧ (conclude params.report s.report).on s.fetched = (r, w') := by
  rw [run, on_bind] at h
  rcases hl : (locate params.config params.config.layout).on w with ⟨e | ⟨build, base⟩, w₁⟩ <;> rw [hl] at h
  · obtain ⟨rfl, rfl⟩ := Prod.mk.inj h
    exact .inl ⟨e, rfl, rfl⟩
  simp only at h
  rw [on_bind] at h
  rcases hp : (prepare params.config.layout).on w₁ with ⟨e | _, w₄⟩ <;> rw [hp] at h
  · obtain ⟨rfl, rfl⟩ := Prod.mk.inj h
    exact .inr (.inl ⟨build, base, w₁, e, rfl, rfl, hp⟩)
  obtain ⟨_, w₂, hwork, hp⟩ := on_bind_ok hp
  obtain ⟨w₃, hclear, hensure⟩ := Directory.renew_ok hp
  obtain ⟨outcomes, w₅, hf⟩ := fetchAll_ok params base w₄
  simp only at h
  rw [on_bind, hf] at h
  exact .inr (.inr ⟨⟨build, base, w₁, w₂, w₃, w₄, w₅, outcomes⟩, ⟨hl, hwork, hclear, hensure, hf⟩, h⟩)

/-- A run that succeeded, or failed for a download, went through all its stages. -/
theorem run_stages {params : Params} {w w' : World} {r : Except Failure Report} (h : (run params).on w = (r, w'))
    (hr : Delivers r) : ∃ s : Stages, s.Of params w ∧ (conclude params.report s.report).on s.fetched = (r, w') := by
  rcases run_cases h with ⟨e, rfl, hl⟩ | ⟨_, _, _, e, rfl, _, hp⟩ | hs
  · exact absurd hr (failsBy_locate _ _ _ _ _ hl).not_isDownload
  · exact absurd hr (failsBy_prepare _ _ _ _ hp).not_isDownload
  · exact hs

theorem isSuccess_of_result {os os' : List Outcome} (h : Outcomes.result os = .ok os') : ∀ o ∈ os, o.isSuccess = true := by
  intro o ho
  unfold Outcomes.result at h
  split at h
  · rename_i hf
    have := List.findSome?_eq_none_iff.mp hf o ho
    rw [Option.map_eq_none_iff] at this
    unfold Outcome.reason? at this
    unfold Outcome.isSuccess
    split at this
    · rfl
    · cases this
  · cases h

/-- The end of a run: the verdict on its outcomes. -/
def verdict (report : Report) : Action Failure Report := do
  let _ ← orThrow id (Outcomes.result report.outcomes)
  tell .completed
  return report

theorem verdict_on {report : Report} {w w' : World} {r : Except Failure Report} (h : (verdict report).on w = (r, w')) :
    w'.volume = w.volume ∧ ∀ report', r = .ok report' → report' = report ∧ ∀ o ∈ report.outcomes, o.isSuccess = true := by
  rw [verdict, on_bind, on_orThrow] at h
  rcases hr : Outcomes.result report.outcomes with e | os <;> rw [hr] at h
  · obtain ⟨rfl, rfl⟩ := Prod.mk.inj h
    exact ⟨rfl, fun _ e => by cases e⟩
  · obtain ⟨rfl, rfl⟩ := Prod.mk.inj h
    exact ⟨rfl, fun _ e => ⟨(Except.ok.inj e).symm, isSuccess_of_result hr⟩⟩

theorem write_on (report : Report) (file : Path) (w : World) : (report.write file).on w =
    match w.volume.save file (Utf8.encode report.render) with
    | (.ok (), v) => (.ok (), { w with volume := v }.note (.reportWritten file))
    | (.error e, v) => (.error (.reportWrite file e.reason), { w with volume := v }) := by
  rw [Report.write, on_bind, on_attemptPartly]
  rcases w.volume.save file (Utf8.encode report.render) with ⟨e | _, v⟩ <;> rfl

theorem write_frame {report : Report} {file : Path} {w w' : World} {r : Except Failure Unit} (h : (report.write file).on w = (r, w')) :
    w'.volume = w.volume ∨ ∃ l v contents, w.volume.create file = .ok (l, v) ∧ w'.volume = v.fill l contents := by
  have hv : ((report.write file).on w).2.volume = (w.volume.save file (Utf8.encode report.render)).2 := by
    rw [write_on]
    rcases w.volume.save file (Utf8.encode report.render) with ⟨_ | _, _⟩ <;> rfl
  rw [h] at hv
  rw [hv, Volume.save_eq]
  rcases hc : w.volume.create file with e | ⟨l, v⟩
  · exact .inl rfl
  · exact .inr ⟨l, v, _, rfl, rfl⟩

/-- What comes after the downloads: the report where it is wanted, and nothing else. -/
theorem conclude_frame {file? : Option Path} {report : Report} {w w' : World} {r : Except Failure Report}
    (h : (conclude file? report).on w = (r, w')) :
    (w'.volume = w.volume ∨ ∃ file l v contents, file? = some file ∧ w.volume.create file = .ok (l, v) ∧
      w'.volume = v.fill l contents) ∧
    ∀ report', r = .ok report' → report' = report ∧ ∀ o ∈ report.outcomes, o.isSuccess = true := by
  cases file? with
  | none =>
    have h : (verdict report).on w = (r, w') := h
    exact ⟨.inl (verdict_on h).1, (verdict_on h).2⟩
  | some file =>
    have h : (report.write file >>= fun _ => verdict report).on w = (r, w') := h
    rw [on_bind] at h
    rcases hw : (report.write file).on w with ⟨e | _, w₁⟩ <;> rw [hw] at h
    · obtain ⟨rfl, rfl⟩ := Prod.mk.inj h
      refine ⟨?_, fun _ e => by cases e⟩
      rcases write_frame hw with hv | ⟨l, v, contents, hc, hv⟩
      · exact .inl hv
      · exact .inr ⟨file, l, v, contents, rfl, hc, hv⟩
    · obtain ⟨hv, hok⟩ := verdict_on h
      refine ⟨?_, hok⟩
      rcases write_frame hw with hw₁ | ⟨l, v, contents, hc, hw₁⟩
      · exact .inl (hv.trans hw₁)
      · exact .inr ⟨file, l, v, contents, rfl, hc, hv.trans hw₁⟩

theorem Stages.Of.prepared {s : Stages} {params : Params} {w : World} (h : s.Of params w) :
    (prepare params.config.layout).on s.located = (.ok (), s.renewed) := by
  rw [prepare, on_bind, h.worked]
  simp only [Directory.renew]
  rw [on_bind, h.cleared]
  exact h.renewed

/-- What follows the stages of a run. -/
theorem Stages.Of.run {s : Stages} {params : Params} {w : World} (h : s.Of params w) :
    (Sync.run params).on w = (conclude params.report s.report).on s.fetched := by
  rw [Sync.run, on_bind, h.located]
  simp only
  rw [on_bind, h.prepared]
  simp only
  rw [on_bind, h.fetched]
  rfl

/-! ## The downloads of a run -/

/-- The world in which the first item is attempted. -/
def Stages.opened (s : Stages) (params : Params) : World :=
  s.renewed.note (.startingDownloads (Item.ofManifest s.base params.manifest).length params.config.layout.libDir)

def Stages.attempts (s : Stages) (params : Params) : List Download.Attempt :=
  Download.attempts (some agent) params.config.layout.libDir params.config.failurePolicy (Item.ofManifest s.base params.manifest)
    (s.opened params)

theorem Stages.Of.attempts {s : Stages} {params : Params} {w : World} (h : s.Of params w) :
    s.outcomes = (s.attempts params).map Download.Attempt.outcome ∧
      s.fetched.volume = (Download.ending (s.opened params) (s.attempts params)).volume := by
  obtain ⟨w', hall, hv, _⟩ := Download.all_on (some agent) params.config.layout.libDir params.config.failurePolicy
    (Item.ofManifest s.base params.manifest) (s.opened params)
  have hf := h.fetched
  rw [fetchAll, on_bind, on_tell] at hf
  obtain ⟨hos, rfl⟩ := Prod.mk.inj (hall.symm.trans hf)
  exact ⟨(Except.ok.inj hos).symm, hv⟩

theorem isName_of_mem {params : Params} {base : ArtifactBase} :
    ∀ item ∈ Item.ofManifest base params.manifest, Path.IsName (Utf8.encode item.filename) := by
  intro item hi
  obtain ⟨name, hname, rfl⟩ := List.mem_map.mp hi
  exact Manifest.isName_of_sound (params.manifest.sound name hname)

namespace Stages.Of

variable {s : Stages} {params : Params} {w : World}

theorem extends_located (h : s.Of params w) : w.Extends s.located := by
  have := extends_locate params.config params.config.layout w
  rwa [h.located] at this

theorem extends_worked (h : s.Of params w) : w.Extends s.worked := by
  have := extends_ensure params.config.layout.workDir s.located
  rw [h.worked] at this
  exact h.extends_located.trans this

theorem extends_renewed (h : s.Of params w) : s.cleared.Extends s.renewed := by
  have := extends_ensure params.config.layout.libDir s.cleared
  rwa [h.renewed] at this

theorem extends_fetched (h : s.Of params w) : s.renewed.Extends s.fetched := by
  have := extends_fetchAll params s.base s.renewed
  rwa [h.fetched] at this

theorem network_renewed (h : s.Of params w) : w.network.Same s.renewed.network := by
  have := same_clear params.config.layout.libDir s.worked
  rw [h.cleared] at this
  exact (h.extends_worked.network.trans this).trans h.extends_renewed.network

theorem cleared_frame (h : s.Of params w) : s.cleared.volume = s.worked.volume ∨
    ∃ d, s.worked.volume.resolve params.config.layout.libDir = .ok d ∧ s.worked.volume.Empties d s.cleared.volume := by
  have := Directory.clear_frame params.config.layout.libDir s.worked
  rwa [h.cleared] at this

theorem rooted_cleared (h : s.Of params w) (hr : w.volume.tree.Rooted) : s.cleared.volume.tree.Rooted := by
  have hr' := h.extends_worked.volume.rooted hr
  rcases h.cleared_frame with hv | ⟨d, _, he⟩
  · rwa [hv]
  · exact he.rooted hr'

theorem linkFree_cleared (h : s.Of params w) (hl : w.volume.tree.LinkFree) : s.cleared.volume.tree.LinkFree := by
  have hl' := h.extends_worked.volume.linkFree hl
  rcases h.cleared_frame with hv | ⟨d, _, he⟩
  · rwa [hv]
  · exact he.linkFree hl'

theorem cwd_cleared (h : s.Of params w) : s.cleared.volume.cwd = w.volume.cwd := by
  rcases h.cleared_frame with hv | ⟨d, _, he⟩
  · rw [hv, h.extends_worked.volume.cwd]
  · rw [he.cwd, h.extends_worked.volume.cwd]

theorem linkFree_renewed (h : s.Of params w) (hl : w.volume.tree.LinkFree) : s.renewed.volume.tree.LinkFree :=
  h.extends_renewed.volume.linkFree (h.linkFree_cleared hl)

theorem cwd_renewed (h : s.Of params w) : s.renewed.volume.cwd = w.volume.cwd :=
  h.extends_renewed.volume.cwd.trans h.cwd_cleared

theorem cwd_fetched (h : s.Of params w) : s.fetched.volume.cwd = w.volume.cwd :=
  h.extends_fetched.volume.cwd.trans h.cwd_renewed

/-- The build is that of the feed which the servers give, and the status file holds this feed. -/
theorem feed (h : s.Of params w) : ∃ (feed : Transfer.Response) (l : Loc),
    Retrieval.answer (some agent) params.config.feedUrl w.network = .ok feed ∧ feed.body.isWhole = true ∧
      (Feed.lastBuild params.config.layout.statusFile.text (Markup.read feed.body.octets)).1 = .ok s.build ∧
      s.located.volume.resolve params.config.layout.statusFile = .ok l ∧
      s.located.volume.tree.get? l = some (.file feed.body.octets) := by
  obtain ⟨_, w₁, hens, feed, l, v, hfeed, hwhole, hcr, hv, hbuild⟩ := locate_ok h.located
  have hw₁ := extends_ensure params.config.workspace w
  rw [hens] at hw₁
  rw [Retrieval.answer_same hw₁.network] at hfeed
  rw [hv]
  exact ⟨feed, l, hfeed, hwhole, hbuild, Volume.resolve_create hcr _, (Volume.puts_of_create hcr _).self⟩

end Stages.Of

/-- Nothing is in a directory when the downloads begin. -/
def Stages.FindsEmpty (s : Stages) (d : Loc) : Prop := ∀ l, Tree.isUnder d l = true → s.renewed.volume.tree.get? l = none

/-- Downloads into a library directory without links: each file there holds what was put into it last,
and nothing else has changed. -/
theorem Stages.Of.fetched_over {s : Stages} {params : Params} {w : World} (h : s.Of params w) {d : Loc}
    (hd : s.renewed.volume.LeadsTo params.config.layout.libDir d)
    (hlink : ∀ name target, s.renewed.volume.tree.get? (d ++ [name]) ≠ some (.link target)) :
    (∀ name, s.fetched.volume.tree.get? (d ++ [name]) =
      ((Download.lastDeposit? (some agent) params.config.layout.libDir (s.attempts params) name).map Entry.file).or
        (s.renewed.volume.tree.get? (d ++ [name]))) ∧
    ∀ l, (∀ name, l ≠ d ++ [name]) → s.fetched.volume.tree.get? l = s.renewed.volume.tree.get? l := by
  have hopened : (s.opened params).volume.LeadsTo params.config.layout.libDir d := hd
  obtain ⟨_, hname, hother⟩ := Download.attempts_get? (Item.ofManifest s.base params.manifest).length 0 hopened isName_of_mem
    fun item _ => hlink (Utf8.encode item.filename)
  rw [h.attempts.2]
  exact ⟨hname, hother⟩

/-- Downloads into an empty library directory: a file there holds what was put into it last, or is not there. -/
theorem Stages.Of.fetched_get? {s : Stages} {params : Params} {w : World} (h : s.Of params w) {d : Loc}
    (hd : s.renewed.volume.LeadsTo params.config.layout.libDir d)
    (hbare : s.FindsEmpty d) :
    (∀ name, s.fetched.volume.tree.get? (d ++ [name]) =
      (Download.lastDeposit? (some agent) params.config.layout.libDir (s.attempts params) name).map Entry.file) ∧
    ∀ l, (∀ name, l ≠ d ++ [name]) → s.fetched.volume.tree.get? l = s.renewed.volume.tree.get? l := by
  have hnone (name : Bytes) : s.renewed.volume.tree.get? (d ++ [name]) = none := hbare _ (Tree.isUnder_child d name)
  obtain ⟨hname, hother⟩ := h.fetched_over hd fun name target he => by
    rw [hnone] at he
    cases he
  refine ⟨fun name => ?_, hother⟩
  rw [hname, hnone, Option.or_none]

/-- Downloads into an empty directory leave files of attempted names there, and nothing else. -/
theorem Stages.Of.attempted_of_fetched {s : Stages} {params : Params} {w : World} (hs : s.Of params w) {d : Loc}
    (hd : s.renewed.volume.LeadsTo params.config.layout.libDir d)
    (hbare : s.FindsEmpty d) {l : Loc} (hl : Tree.isUnder d l = true)
    (hsome : s.fetched.volume.tree.get? l ≠ none) : ∃ o ∈ s.outcomes, l = d ++ [Utf8.encode o.filename] := by
  obtain ⟨hname, hother⟩ := hs.fetched_get? hd hbare
  by_cases he : ∃ name, l = d ++ [name]
  · obtain ⟨name, rfl⟩ := he
    rw [hname] at hsome
    cases hlast : Download.lastDeposit? (some agent) params.config.layout.libDir (s.attempts params) name with
    | none =>
      rw [hlast] at hsome
      exact absurd rfl hsome
    | some contents =>
      obtain ⟨a, ha, hn, _⟩ := Download.mem_of_lastDeposit? hlast
      refine ⟨a.outcome, by rw [hs.attempts.1]; exact List.mem_map_of_mem ha, ?_⟩
      rw [← hn]
      rfl
  · rw [hother l (fun name e => he ⟨name, e⟩)] at hsome
    exact absurd (hbare l hl) hsome

/-! ## A small run -/

/-- A server at whose root a build has published one library. -/
def smallNetwork : Network where
  isUp := true
  resources := [
    ⟨"http://[::]/feed", 200, Utf8.encode "<lastSuccessfulBuild><url>http://[::]</url></lastSuccessfulBuild>", none, none, []⟩,
    ⟨"http://[::]/a", 200, [65, 66], none, none, []⟩]
  requests := []

/-- A run on that server, with its workspace and library directory. -/
def smallParams (workspace libDir : String) (manifest : Manifest) : Params where
  config := ⟨.ofText workspace, "http://[::]/feed", "", manifest.entries, "status", "work", libDir, .failFast⟩
  manifest := manifest
  report := none

/-- A run for its one library, into `w/l`. -/
def oneLibrary : Params := smallParams "w" "l" ⟨["a"], by decide⟩

/-- A world at rest, with some files, on that server. -/
def smallWorld (entries : List (Loc × Entry)) : World := ⟨⟨⟨entries, []⟩, []⟩, smallNetwork, []⟩

/-- A library directory there, `w/l`, that holds a file of an earlier run. -/
def usedWorld : World := smallWorld [
  ([Utf8.encode "w"], .dir), ([Utf8.encode "w", Utf8.encode "l"], .dir),
  ([Utf8.encode "w", Utf8.encode "l", Utf8.encode "old"], .file [1])]

theorem on_of_toOption {α : Type} {a : Action Failure α} {w : World} {x : α} (h : (a.on w).1.toOption = some x) :
    a.on w = (.ok x, (a.on w).2) := Prod.ext (ok_of_toOption h) rfl

theorem on_of_isSome {α : Type} {a : Action Failure α} {w : World} (h : (a.on w).1.toOption.isSome = true) :
    ∃ x, a.on w = (.ok x, (a.on w).2) :=
  (Option.isSome_iff_exists.mp h).imp fun _ hx => on_of_toOption hx

end Sync

end BuildHarvest
