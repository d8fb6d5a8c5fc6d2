/-
  BuildHarvest.Proofs.Agreement — worlds that differ in some places only.

  Two volumes agree apart from some places when all other places hold the same, and no link
  (`Volume.Agree`); two worlds, when besides there is the same room for files, and the same has been
  asked of the same servers. An action is blind to those places when in worlds that agree it gives
  the same and leaves worlds that agree (`Blind`).

  Proved: an operation on a path whose way avoids those places comes to the same in both volumes
  (`Agree.resolve`, `Agree.mkdir`, `Agree.create`), so each stage of a run on such paths is blind
  (`blind_locate`, `blind_ensure`, `blind_fetchAll`, `blind_conclude`).
-/

import BuildHarvest.Proofs.Sync

namespace BuildHarvest

/-- The same failure, or values that are related. -/
inductive Alike {ε α : Type} (R : α → α → Prop) : Except ε α → Except ε α → Prop where
  | error (e : ε) : Alike R (.error e) (.error e)
  | ok {a a' : α} (h : R a a') : Alike R (.ok a) (.ok a')

namespace Volume

/-- Two volumes that hold the same apart from some places, and no link elsewhere. -/
structure Agree (X : Loc → Prop) (v v' : Volume) : Prop where
  cwd : v'.cwd = v.cwd
  same : ∀ l, ¬ X l → v'.tree.get? l = v.tree.get? l
  links : ∀ l target, v.tree.get? l = some (.link target) → X l

/-- The way of a path goes through none of some places. -/
def Avoids (X : Loc → Prop) (cwd : Loc) (p : Path) : Prop := ∀ l ∈ stations cwd p, ¬ X l

theorem Avoids.lineage {X : Loc → Prop} {cwd : Loc} {p q : Path} (h : Avoids X cwd p) (hq : q ∈ p.lineage) : Avoids X cwd q :=
  fun l hl => h l (stations_of_lineage hq hl)

/-! ## Operations on volumes that agree -/

namespace Agree

variable {X : Loc → Prop} {v v' : Volume} (h : v.Agree X v')

include h

theorem plainFrom {l : Loc} {ss : List Step} (ha : ∀ m ∈ stationsFrom l ss, ¬ X m) : PlainFrom v.tree l ss :=
  fun m hm target he => ha m hm (h.links m target he)

theorem walk {links : Nat} {l : Loc} {ss : List Step} (ha : ∀ m ∈ stationsFrom l ss, ¬ X m) :
    Volume.walk v'.tree links l ss = Volume.walk v.tree links l ss :=
  walk_agree (h.plainFrom ha) fun m hm => h.same m (ha m hm)

theorem resolve {p : Path} (ha : Avoids X v.cwd p) : v'.resolve p = v.resolve p := by
  have hall : ∀ m ∈ stationsFrom (origin p v.cwd) (allSteps p), ¬ X m := fun m hm => ha m (stationsFrom_allSteps hm)
  rw [Volume.resolve, Volume.resolve, h.cwd, h.walk hall]

theorem stat {p : Path} (ha : Avoids X v.cwd p) : v'.stat p = v.stat p := by
  rw [Volume.stat, Volume.stat, h.resolve ha]
  cases hr : v.resolve p with
  | error e => rfl
  | ok l =>
    obtain rfl := resolve_plain (h.plainFrom ha) hr
    simp only [bind, Except.bind, h.same _ (ha _ (place_mem_stations v.cwd p))]

theorem isDir {p : Path} (ha : Avoids X v.cwd p) : v'.isDir p = v.isDir p := by
  rw [Volume.isDir, Volume.isDir, h.stat ha]

theorem readFile {p : Path} (ha : Avoids X v.cwd p) : v'.readFile p = v.readFile p := by
  rw [Volume.readFile, Volume.readFile, h.stat ha]

theorem leadsTo {p : Path} (ha : Avoids X v.cwd p) {d : Loc} (hd : v.LeadsTo p d) : v'.LeadsTo p d := by
  have hplace := resolve_plain (h.plainFrom ha) hd.1
  refine ⟨(h.resolve ha).trans hd.1, ?_⟩
  rw [h.same d (hplace ▸ ha _ (place_mem_stations v.cwd p)), hd.2]

theorem targetFrom {links : Nat} {l : Loc} {ss : List Step} (ha : ∀ m ∈ stationsFrom l ss, ¬ X m) :
    Volume.targetFrom v'.tree links l ss = Volume.targetFrom v.tree links l ss := by
  have hinit : ∀ m ∈ stationsFrom l ss.dropLast, ¬ X m := fun m hm => ha m (stationsFrom_dropLast hm)
  rw [Volume.targetFrom, Volume.targetFrom]
  cases ss.getLast? with
  | none => rfl
  | some last =>
    simp only [h.walk hinit]
    cases hw : Volume.walk v.tree links l ss.dropLast with
    | error e => rfl
    | ok r =>
      obtain rfl := walk_plain (h.plainFrom hinit) hw
      have hdir := h.same _ (hinit _ (mem_stationsFrom.mpr ⟨ss.dropLast, [], (List.append_nil _).symm, rfl⟩))
      simp only [bind, Except.bind, hdir]

theorem target {p : Path} (ha : Avoids X v.cwd p) : v'.target p = v.target p := by
  rw [Volume.target, Volume.target, h.cwd, h.targetFrom ha]

/-- Where the last step leads down, the other volume holds the same, and no link. -/
theorem named {links : Nat} {l : Loc} {ss : List Step} (ha : ∀ m ∈ stationsFrom l ss, ¬ X m) {g : Target} {name : Bytes}
    (hg : Volume.targetFrom v.tree links l ss = .ok g) (hl : g.last = some (.down name)) :
    v'.tree.get? (g.dir ++ [name]) = v.tree.get? (g.dir ++ [name]) ∧
      ∀ target, v.tree.get? (g.dir ++ [name]) ≠ some (.link target) := by
  rcases targetFrom_ok hg with ⟨_, rfl⟩ | ⟨init, last, rfl, hw, _, hlast, _⟩
  · cases hl
  · obtain rfl := Option.some.inj (hl.symm.trans hlast)
    have hinit : ∀ m ∈ stationsFrom l init, ¬ X m := fun m hm => ha m (mem_stationsFrom_append.mpr (.inl hm))
    have hdir : g.dir = placeFrom l init := congrArg Prod.fst (walk_plain (h.plainFrom hinit) hw)
    have hout : ¬ X (g.dir ++ [name]) := by
      refine ha _ (mem_stationsFrom.mpr ⟨init ++ [.down name], [], (List.append_nil _).symm, ?_⟩)
      rw [placeFrom_append, ← hdir]
      rfl
    exact ⟨h.same _ hout, fun target he => hout (h.links _ target he)⟩

/-- The same entry, put in the same place. -/
theorem put {l : Loc} {e : Entry} (hl : l ≠ []) (he : ∀ target, e ≠ .link target) :
    Agree X { v with tree := v.tree.put l e } { v' with tree := v'.tree.put l e } where
  cwd := h.cwd
  same m hm := by
    simp only
    rw [Tree.get?_put _ _ _ hl, Tree.get?_put _ _ _ hl, h.same m hm]
  links m target hm := by
    simp only at hm
    rw [Tree.get?_put _ _ _ hl] at hm
    split at hm
    · exact absurd (Option.some.inj hm) (he target)
    · exact h.links m target hm

theorem mkdir {p : Path} (ha : Avoids X v.cwd p) : Alike (Agree X) (v.mkdir p) (v'.mkdir p) := by
  rw [Volume.mkdir, Volume.mkdir, h.target ha]
  cases hg : v.target p with
  | error e => exact .error e
  | ok g =>
    simp only [bind, Except.bind]
    split
    · rename_i name hl
      rw [(h.named ha (target_ok hg).2 hl).1]
      split
      · exact .error _
      · exact .ok (h.put (by simp) (fun _ e => by cases e))
    · exact .error _

theorem creation {rounds links : Nat} {l : Loc} {p : Path} (ha : ∀ m ∈ stationsFrom l (steps p), ¬ X m) :
    Volume.creation v'.tree (rounds + 1) links l p = Volume.creation v.tree (rounds + 1) links l p := by
  rw [Volume.creation, Volume.creation, h.targetFrom ha]
  cases hg : Volume.targetFrom v.tree links l (steps p) with
  | error e => rfl
  | ok g =>
    simp only [bind, Except.bind]
    split
    · rename_i name hl
      obtain ⟨hsame, hlink⟩ := h.named ha hg hl
      split
      · rfl
      · rw [hsame]
        split
        · rename_i target he
          exact absurd he (hlink target)
        · rfl
        · rfl
    · rfl

/-- The same file is created, whatever is put into it then. -/
theorem create {p : Path} (ha : Avoids X v.cwd p) :
    Alike (fun r r' => r'.1 = r.1 ∧ ∀ contents, Agree X (r.2.fill r.1 contents) (r'.2.fill r.1 contents)) (v.create p) (v'.create p) := by
  have hsame : Volume.creation v'.tree (maxLinks + 1) maxLinks (origin p v'.cwd) p =
      Volume.creation v.tree (maxLinks + 1) maxLinks (origin p v.cwd) p := by
    rw [h.cwd]
    exact h.creation ha
  rw [Volume.create, Volume.create, hsame]
  cases check p with
  | error e => exact .error e
  | ok _ =>
    cases hc : Volume.creation v.tree (maxLinks + 1) maxLinks (origin p v.cwd) p with
    | error e => exact .error e
    | ok l =>
      obtain ⟨d, name, rfl, _⟩ := creation_ok hc
      have hne : d ++ [name] ≠ [] := by simp
      have hfile (c : Bytes) (target : Path) : Entry.file c ≠ .link target := fun e => by cases e
      exact .ok ⟨rfl, fun contents => (h.put hne (hfile [])).put hne (hfile contents)⟩

/-- Where there is the same room, the same comes of a file that is created and filled. -/
theorem filled {α : Type} (hrooms : v'.tree.rooms = v.tree.rooms) {p : Path} (ha : Avoids X v.cwd p) (refuse : Errno → α)
    (fill : Option Nat → Loc → α × Bytes) :
    let come (v : Volume) : α × Volume :=
      match v.create p with
      | .error e => (refuse e, v)
      | .ok (l, u) => ((fill (v.tree.room? l) l).1, u.fill l (fill (v.tree.room? l) l).2)
    (come v').1 = (come v).1 ∧ Agree X (come v).2 (come v').2 := by
  have hc := h.create ha
  have hroom (l : Loc) : v'.tree.room? l = v.tree.room? l := by rw [Tree.room?, Tree.room?, hrooms]
  simp only [hroom]
  revert hc
  generalize v.create p = r
  generalize v'.create p = r'
  rintro (e | @⟨⟨l, u⟩, ⟨l', u'⟩, hl, hfill⟩)
  · exact ⟨rfl, h⟩
  · obtain rfl : l' = l := hl
    exact ⟨rfl, hfill _⟩

theorem save (hrooms : v'.tree.rooms = v.tree.rooms) {p : Path} (ha : Avoids X v.cwd p) (octets : Bytes) :
    (v'.save p octets).1 = (v.save p octets).1 ∧ Agree X (v.save p octets).2 (v'.save p octets).2 := by
  rw [Volume.save_eq, Volume.save_eq]
  exact h.filled hrooms ha Except.error fun room _ => ((overflow? room octets).elim (Except.ok ()) Except.error, fitting room octets)

theorem kept (hrooms : v'.tree.rooms = v.tree.rooms) {p : Path} (ha : Avoids X v.cwd p) (body : Transfer.Body) :
    (Retrieval.kept p body v').1 = (Retrieval.kept p body v).1 ∧ Agree X (Retrieval.kept p body v).2 (Retrieval.kept p body v').2 :=
  h.filled hrooms ha (fun e => Except.error (Retrieval.Mishap.creation e)) fun room l => Retrieval.stored room l body

end Agree

end Volume

/-! ## Actions on worlds that agree -/

open Volume (Avoids)

/-- Two worlds that hold the same apart from some places, with the same room for files, where the
same has been asked of the same servers. -/
structure World.Agree (cwd : Loc) (X : Loc → Prop) (w w' : World) : Prop where
  volume : w.volume.Agree X w'.volume
  rooms : w'.volume.tree.rooms = w.volume.tree.rooms
  network : w'.network = w.network
  here : w.volume.cwd = cwd

namespace Action

variable {ε φ α β : Type} {cwd : Loc} {X : Loc → Prop}

/-- In worlds that agree the action gives the same, and leaves worlds that agree. -/
def Blind (cwd : Loc) (X : Loc → Prop) (a : Action ε α) : Prop :=
  ∀ w w', World.Agree cwd X w w' → (a.on w').1 = (a.on w).1 ∧ World.Agree cwd X (a.on w).2 (a.on w').2

theorem blind_pure (a : α) : Blind cwd X (pure a : Action ε α) := fun _ _ h => ⟨rfl, h⟩

theorem blind_throw (e : ε) : Blind cwd X (throw e : Action ε α) := fun _ _ h => ⟨rfl, h⟩

theorem blind_bind {x : Action ε α} {f : α → Action ε β} (hx : Blind cwd X x) (hf : ∀ a, Blind cwd X (f a)) :
    Blind cwd X (x >>= f) := by
  intro w w' h
  obtain ⟨hr, hw⟩ := hx w w' h
  rw [on_bind, on_bind]
  rcases hx₁ : x.on w with ⟨r, w₁⟩
  rcases hx₂ : x.on w' with ⟨r', w₂⟩
  rw [hx₁, hx₂] at hr hw
  obtain rfl : r' = r := hr
  cases r' with
  | error e => exact ⟨rfl, hw⟩
  | ok a => exact hf a w₁ w₂ hw

theorem blind_tell (n : Notice) : Blind cwd X (tell n : Action ε Unit) := fun _ _ h => ⟨rfl, h.volume, h.rooms, h.network, h.here⟩

theorem blind_orThrow (blame : φ → ε) (r : Except φ α) : Blind cwd X (orThrow blame r) := by
  cases r with
  | error f => exact blind_throw _
  | ok a => exact blind_pure a

theorem blind_outcome {a : Action φ α} (ha : Blind cwd X a) : Blind cwd X (outcome a : Action ε (Except φ α)) := by
  intro w w' h
  obtain ⟨hr, hw⟩ := ha w w' h
  rw [on_outcome, on_outcome, hr]
  exact ⟨rfl, hw⟩

/-- What looks at the volume only where the two agree. -/
theorem blind_look {f : Volume → Action ε α} (hsame : ∀ v v', v.Agree X v' → v.cwd = cwd → f v' = f v)
    (hf : ∀ v, Blind cwd X (f v)) : Blind cwd X (volume >>= f) := by
  intro w w' h
  rw [on_bind, on_bind, on_volume, on_volume]
  simp only
  rw [hsame _ _ h.volume h.here]
  exact hf w.volume w w' h

end Action

open BuildHarvest.Action

variable {cwd : Loc} {X : Loc → Prop}

/-! ## Making directories -/

namespace Directory

theorem blind_make {p : Path} (ha : Avoids X cwd p) : Blind cwd X (make p) := by
  intro w w' h
  obtain rfl := h.here
  have hm := h.volume.mkdir ha
  have hd := h.volume.isDir ha
  have hadds (v : Volume) (hv : w.volume.mkdir p = .ok v) := Volume.adds_mkdir hv
  have hadds' (v : Volume) (hv : w'.volume.mkdir p = .ok v) := Volume.adds_mkdir hv
  rw [make_on, make_on, hd]
  revert hm hadds hadds'
  generalize w.volume.mkdir p = r
  generalize w'.volume.mkdir p = r'
  rintro (e | hv) hadds hadds'
  · simp only
    split <;> exact ⟨rfl, h.volume, h.rooms, h.network, h.here⟩
  · exact ⟨rfl, hv, (hadds' _ rfl).rooms.trans (h.rooms.trans (hadds _ rfl).rooms.symm), h.network, (hadds _ rfl).cwd⟩

theorem blind_ensureFirst {ps : List Path} (ha : ∀ p ∈ ps, Avoids X cwd p) : Blind cwd X (ensureFirst ps) := by
  induction ps with
  | nil => exact blind_pure ()
  | cons p above ih =>
    have hp := ha p List.mem_cons_self
    refine blind_look (fun v v' h hcwd => ?_) fun v => ?_
    · rw [h.stat (hcwd ▸ hp)]
    · split
      · exact blind_pure ()
      · exact blind_throw _
      · split
        · exact blind_bind (ih fun q hq => ha q (List.mem_cons_of_mem _ hq)) fun _ => blind_make hp
        · exact blind_throw _

theorem blind_ensure {p : Path} (ha : Avoids X cwd p) : Blind cwd X (ensure p) :=
  blind_ensureFirst fun _ hq => ha.lineage hq

end Directory

/-! ## Fetching files -/

/-- Retrievals into a file that is reached in the same way. -/
theorem World.Agree.retrieved {w w' : World} (h : World.Agree cwd X w w') (agent : Option String) (url : String) {file : Path}
    (ha : Avoids X cwd file) :
    (Retrieval.retrieved agent url file w'.volume w'.network).1 = (Retrieval.retrieved agent url file w.volume w.network).1 ∧
      World.Agree cwd X
        { Retrieval.asked agent url w with volume := (Retrieval.retrieved agent url file w.volume w.network).2 }
        { Retrieval.asked agent url w' with volume := (Retrieval.retrieved agent url file w'.volume w'.network).2 } := by
  obtain rfl := h.here
  have hadds (u : World) : u.volume.Adds (Retrieval.retrieved agent url file u.volume u.network).2 :=
    Retrieval.keeps_retrieved (P := fun t => u.volume.Adds t.volume) agent url (fun _ _ ht _ => ht)
      (fun _ _ _ _ ht hc => ht.trans (Volume.puts_of_create hc _).adds) (.refl _)
  have hasked : (Retrieval.asked agent url w').network = (Retrieval.asked agent url w).network := by
    rw [Retrieval.asked, Retrieval.asked, h.network]
  have hboth : (Retrieval.retrieved agent url file w'.volume w'.network).1 = (Retrieval.retrieved agent url file w.volume w.network).1 ∧
      (Retrieval.retrieved agent url file w.volume w.network).2.Agree X (Retrieval.retrieved agent url file w'.volume w'.network).2 := by
    simp only [Retrieval.retrieved, h.network]
    cases Retrieval.answer agent url w.network with
    | error m => exact ⟨rfl, h.volume⟩
    | ok response =>
      obtain ⟨hsame, hagree⟩ := h.volume.kept h.rooms ha response.body
      exact ⟨by simp only [hsame], hagree⟩
  exact ⟨hboth.1, hboth.2, (hadds w').rooms.trans (h.rooms.trans (hadds w).rooms.symm), hasked, (hadds w).cwd⟩

namespace Feed

theorem blind_fetch (agent : Option String) (url : String) {file : Path} (ha : Avoids X cwd file) :
    Blind cwd X (fetch agent url file) := by
  intro w w' h
  have hnoted : World.Agree cwd X (w.note (.fetchingFeed url)) (w'.note (.fetchingFeed url)) :=
    ⟨h.volume, h.rooms, h.network, h.here⟩
  obtain ⟨hsame, hagree⟩ := hnoted.retrieved agent url ha
  rw [fetch_on, fetch_on]
  simp only [World.note] at hsame hagree ⊢
  rcases hr : Retrieval.retrieved agent url file w.volume w.network with ⟨r, v⟩
  rcases hr' : Retrieval.retrieved agent url file w'.volume w'.network with ⟨r', v'⟩
  rw [hr, hr'] at hsame hagree
  obtain rfl : r' = r := hsame
  cases r' with
  | error m => exact ⟨rfl, hagree⟩
  | ok octets => exact ⟨rfl, hagree.volume, hagree.rooms, hagree.network, hagree.here⟩

theorem blind_buildAt {file : Path} (ha : Avoids X cwd file) : Blind cwd X (buildAt file) := by
  refine blind_look (fun v v' h hcwd => ?_) fun v => ?_
  · rw [h.readFile (hcwd ▸ ha)]
  · split
    · exact blind_throw _
    · exact blind_throw _
    · simp only
      split
      · exact blind_bind (blind_tell _) fun _ => blind_orThrow _ _
      · exact blind_orThrow _ _

end Feed

namespace Download

theorem blind_one (agent : Option String) (url : String) {file : Path} (ha : Avoids X cwd file) :
    Blind cwd X (one agent url file) := by
  intro w w' h
  obtain ⟨hsame, hagree⟩ := h.retrieved agent url ha
  rw [one_on, one_on, hsame]
  exact ⟨rfl, hagree⟩

theorem blind_attemptItem (agent : Option String) (item : Item) {file : Path} (ha : Avoids X cwd file) :
    Blind cwd X (attemptItem agent item file) := by
  refine blind_bind (blind_outcome (blind_one agent item.url ha)) fun r => ?_
  cases r with
  | ok got => exact blind_bind (blind_tell _) fun _ => blind_pure _
  | error m => exact blind_bind (blind_tell _) fun _ => blind_pure _

theorem blind_attemptFrom (agent : Option String) {dir : Path} (policy : FailurePolicy) (total index : Nat) {items : List Item}
    (ha : ∀ item ∈ items, Avoids X cwd (fileOf dir item)) : Blind cwd X (attemptFrom agent dir policy total index items) := by
  induction items generalizing index with
  | nil => exact blind_pure _
  | cons item rest ih =>
    have hrest := ih (index + 1) fun i hi => ha i (List.mem_cons_of_mem _ hi)
    refine blind_bind (blind_tell _) fun _ =>
      blind_bind (blind_attemptItem agent item (ha item List.mem_cons_self)) fun status => ?_
    simp only
    split
    · split
      · exact blind_bind (blind_tell _) fun _ => blind_pure _
      · exact blind_pure _
    · exact blind_bind hrest fun _ => blind_pure _

end Download

/-! ## The stages of a run -/

namespace Sync

theorem blind_locate {config : Config} {layout : Layout} (hw : Avoids X cwd config.workspace) (hs : Avoids X cwd layout.statusFile) :
    Blind cwd X (locate config layout) :=
  blind_bind (Directory.blind_ensure hw) fun _ => blind_bind (Feed.blind_fetch _ _ hs) fun _ =>
    blind_bind (blind_tell _) fun _ => blind_bind (Feed.blind_buildAt hs) fun _ => blind_bind (blind_orThrow _ _) fun _ =>
      blind_bind (blind_tell _) fun _ => blind_pure _

theorem blind_fetchAll {params : Params} {base : ArtifactBase}
    (ha : ∀ name ∈ params.manifest.entries, Avoids X cwd (params.config.layout.libDir.join (.ofText name))) :
    Blind cwd X (fetchAll params base) := by
  refine blind_bind (blind_tell _) fun _ => Download.blind_attemptFrom _ _ _ _ fun item hi => ?_
  obtain ⟨name, hname, rfl⟩ := List.mem_map.mp hi
  exact ha name hname

theorem blind_verdict (report : Report) : Blind cwd X (verdict report) :=
  blind_bind (blind_orThrow _ _) fun _ => blind_bind (blind_tell _) fun _ => blind_pure _

theorem blind_write (report : Report) {file : Path} (ha : Avoids X cwd file) : Blind cwd X (report.write file) := by
  refine blind_bind (fun w w' h => ?_) fun _ => blind_tell _
  obtain rfl := h.here
  obtain ⟨hsame, hagree⟩ := h.volume.save h.rooms ha (Utf8.encode report.render)
  have hadds (v : Volume) := Volume.adds_save v file (Utf8.encode report.render)
  rw [on_attemptPartly, on_attemptPartly, hsame]
  exact ⟨rfl, hagree, (hadds w'.volume).rooms.trans (h.rooms.trans (hadds w.volume).rooms.symm), h.network, (hadds w.volume).cwd⟩

theorem blind_conclude {file? : Option Path} (report : Report) (ha : ∀ file, file? = some file → Avoids X cwd file) :
    Blind cwd X (conclude file? report) := by
  cases file? with
  | none => exact blind_verdict report
  | some file => exact blind_bind (blind_write report (ha file rfl)) fun _ => blind_verdict report

end Sync

end BuildHarvest
