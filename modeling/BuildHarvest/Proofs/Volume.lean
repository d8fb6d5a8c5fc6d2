/-
  BuildHarvest.Proofs.Volume — what an operation does to a volume where it succeeds.

  Proved:
  - `stat_dir_iff`: a path is a directory when its steps lead to one, however it ends.
  - `mkdir_ok`: a directory is made where nothing was, in a directory; its path leads to it
    (`mkdir_leadsTo`) and nothing is in it (`mkdir_bare`).
  - `create_ok`: a file is created or emptied in a directory, in place of nothing or of a file;
    afterwards its path leads to it (`resolve_create`).
  - `create_name`: a name is created in the directory that the path before it leads to.
  - A last step down into a directory that is there: the operations come to what is at that one place
    (`lstat_of_trail`, `mkdir_of_trail`, `rmdir_of_trail`), as for a name joined to a path that leads
    to a directory (`mkdir_name`, `rmdir_name`, `stat_name_absent`).
  - Behind what is no directory no step is taken (`stat_behind`, `lstat_behind`).
-/

import BuildHarvest.Proofs.Walk

namespace BuildHarvest

theorem bind_ok {ε α β : Type} {x : Except ε α} {f : α → Except ε β} {b : β} (h : x >>= f = .ok b) :
    ∃ a, x = .ok a ∧ f a = .ok b := by
  cases x with
  | error e => cases h
  | ok a => exact ⟨a, rfl, h⟩

theorem ok_of_toOption {ε α : Type} {x : Except ε α} {a : α} (h : x.toOption = some a) : x = .ok a := by
  cases x with
  | error e => cases h
  | ok b => rw [Option.some.inj h]

namespace Volume

open BuildHarvest.Tree (Grows Fits Rooted LinkFree isUnder isUnder_iff)

/-! ## Where a path leads -/

/-- The steps of a path, taken in a volume. -/
def trail (v : Volume) (p : Path) (ss : List Step) : Except Errno (Loc × Nat) :=
  walk v.tree maxLinks (origin p v.cwd) ss

theorem trail_congr {p q : Path} (h : q.isAbsolute = p.isAbsolute) (v : Volume) (ss : List Step) :
    v.trail p ss = v.trail q ss := by
  rw [trail, origin_congr h, trail]

theorem resolve_ok {v : Volume} {p : Path} {l : Loc} (h : v.resolve p = .ok l) :
    check p = .ok () ∧ ∃ left, v.trail p (allSteps p) = .ok (l, left) := by
  obtain ⟨_, hc, h⟩ := bind_ok h
  obtain ⟨⟨d, left⟩, hw, h⟩ := bind_ok h
  obtain rfl := Except.ok.inj h
  exact ⟨hc, left, hw⟩

theorem resolve_of_trail {v : Volume} {p : Path} {r : Loc × Nat} (hc : check p = .ok ())
    (hw : v.trail p (allSteps p) = .ok r) : v.resolve p = .ok r.1 := by
  simp only [trail] at hw
  simp only [resolve, hc, hw, bind, Except.bind]
  rfl

theorem steps_of_allSteps {v : Volume} {p : Path} {r : Loc × Nat} (hw : v.trail p (allSteps p) = .ok r) :
    v.trail p (steps p) = .ok r := by
  unfold allSteps at hw
  split at hw
  · obtain ⟨d, left, h1, h2⟩ := walk_append_ok hw
    have := eq_of_walk_still (fun s hs => List.mem_singleton.mp hs) h2
    rwa [this]
  · exact hw

/-- What leads somewhere is taken, step by step. -/
theorem trail_of_stat {v : Volume} {p : Path} {e : Entry} (h : v.stat p = .ok e) :
    check p = .ok () ∧ ∃ r, v.trail p (steps p) = .ok r := by
  obtain ⟨l, hr, _⟩ := bind_ok h
  obtain ⟨hc, left, hw⟩ := resolve_ok hr
  exact ⟨hc, _, steps_of_allSteps hw⟩

theorem allSteps_of_steps {v : Volume} {p : Path} {d : Loc} {left : Nat} (hw : v.trail p (steps p) = .ok (d, left))
    (hd : v.tree.get? d = some .dir) : v.trail p (allSteps p) = .ok (d, left) := by
  unfold allSteps
  split
  · rw [trail, walk_append]
    simp only [trail] at hw
    rw [hw]
    exact walk_still (fun s hs => List.mem_singleton.mp hs) hd
  · exact hw

theorem stat_of_error {v : Volume} {p : Path} {e : Errno} (hc : check p = .ok ()) (hw : v.trail p (steps p) = .error e) :
    v.stat p = .error e := by
  have hall : v.trail p (allSteps p) = .error e := by
    unfold allSteps
    split
    · rw [trail] at hw ⊢
      rw [walk_append, hw]
    · exact hw
  rw [trail] at hall
  simp only [stat, resolve, hc, hall, bind, Except.bind]

theorem stat_dir_iff {v : Volume} {p : Path} : v.stat p = .ok .dir ↔
    check p = .ok () ∧ ∃ d left, v.trail p (steps p) = .ok (d, left) ∧ v.tree.get? d = some .dir := by
  constructor
  · intro h
    obtain ⟨d, hr, h⟩ := bind_ok h
    obtain ⟨hc, left, hw⟩ := resolve_ok hr
    refine ⟨hc, d, left, steps_of_allSteps hw, ?_⟩
    cases he : v.tree.get? d with
    | none => rw [he] at h; cases h
    | some e => rw [he] at h; rw [Except.ok.inj h]
  · rintro ⟨hc, d, left, hw, hd⟩
    have hr := resolve_of_trail hc (allSteps_of_steps hw hd)
    simp only [stat, hr, bind, Except.bind, hd]

theorem isDir_iff {v : Volume} {p : Path} : v.isDir p = true ↔ v.stat p = .ok .dir := by
  unfold isDir
  split
  · rename_i h
    exact ⟨fun _ => h, fun _ => rfl⟩
  · rename_i h
    exact ⟨fun hf => by simp at hf, fun hs => absurd hs h⟩

/-- A path leads to a directory. -/
def LeadsTo (v : Volume) (p : Path) (d : Loc) : Prop := v.resolve p = .ok d ∧ v.tree.get? d = some .dir

theorem leadsTo_iff {v : Volume} {p : Path} {d : Loc} : v.LeadsTo p d ↔
    check p = .ok () ∧ (∃ left, v.trail p (steps p) = .ok (d, left)) ∧ v.tree.get? d = some .dir := by
  constructor
  · rintro ⟨hr, hd⟩
    obtain ⟨hc, left, hw⟩ := resolve_ok hr
    exact ⟨hc, ⟨left, steps_of_allSteps hw⟩, hd⟩
  · rintro ⟨hc, ⟨left, hw⟩, hd⟩
    exact ⟨resolve_of_trail hc (allSteps_of_steps hw hd), hd⟩

theorem stat_dir_iff_leadsTo {v : Volume} {p : Path} : v.stat p = .ok .dir ↔ ∃ d, v.LeadsTo p d := by
  rw [stat_dir_iff]
  constructor
  · rintro ⟨hc, d, left, hw, hd⟩
    exact ⟨d, leadsTo_iff.mpr ⟨hc, ⟨left, hw⟩, hd⟩⟩
  · rintro ⟨d, h⟩
    obtain ⟨hc, ⟨left, hw⟩, hd⟩ := leadsTo_iff.mp h
    exact ⟨hc, d, left, hw, hd⟩

theorem resolve_grows {v v' : Volume} (g : Grows v.tree v'.tree) (hc : v'.cwd = v.cwd) {p : Path} {l : Loc}
    (h : v.resolve p = .ok l) : v'.resolve p = .ok l := by
  obtain ⟨hk, left, hw⟩ := resolve_ok h
  refine resolve_of_trail (r := (l, left)) hk ?_
  rw [trail, hc]
  exact walk_grows g hw

/-- No place that a path goes through by its text is a link. -/
def Plain (v : Volume) (p : Path) : Prop := PlainFrom v.tree (origin p v.cwd) (steps p)

theorem plain_of_linkFree {v : Volume} (h : v.tree.LinkFree) (p : Path) : v.Plain p := fun m _ target => h m target

theorem Plain.put {v : Volume} {p : Path} (h : v.Plain p) {l : Loc} {e : Entry} (hl : l ≠ []) (he : ∀ target, e ≠ .link target) :
    Plain { v with tree := v.tree.put l e } p := by
  intro m hm target
  simp only
  rw [Tree.get?_put _ _ _ hl]
  split
  · exact fun heq => he target (Option.some.inj heq)
  · exact h m hm target

theorem resolve_plain {v : Volume} {p : Path} (hp : v.Plain p) {l : Loc} (h : v.resolve p = .ok l) : l = place v.cwd p := by
  obtain ⟨_, left, hw⟩ := resolve_ok h
  exact congrArg Prod.fst (walk_plain hp (steps_of_allSteps hw))

theorem resolve_linkFree {v : Volume} (hl : v.tree.LinkFree) {p : Path} {l : Loc} (h : v.resolve p = .ok l) :
    l = place v.cwd p := resolve_plain (plain_of_linkFree hl p) h

/-- Every `..` of a path is taken where something is: the steps before the last of them, and it,
lead somewhere. -/
def Straight (v : Volume) (p : Path) : Prop :=
  ∃ before after r, steps p = before ++ after ∧ v.trail p before = .ok r ∧ .up ∉ after

/-- A path is straight as far as its parent; and where a `..` follows there, the parent leads somewhere. -/
theorem Straight.above {v : Volume} {p q : Path} {before after : List Step} {s : Step} (h : v.Straight p)
    (hs : steps p = steps q ++ before ++ s :: after) (ha : q.isAbsolute = p.isAbsolute) :
    v.Straight q ∧ (s = .up → ∃ r, v.trail q (steps q) = .ok r) := by
  have ho (ss : List Step) : v.trail q ss = v.trail p ss := (trail_congr ha v ss).symm
  have whole {more : List Step} {r : Loc × Nat} (hw : v.trail p (steps q ++ more) = .ok r) :
      ∃ r, v.trail q (steps q) = .ok r := by
    obtain ⟨d, left, hq, _⟩ := walk_append_ok hw
    exact ⟨(d, left), (ho _).trans hq⟩
  have straight (hq : ∃ r, v.trail q (steps q) = .ok r) : v.Straight q := by
    obtain ⟨r, hr⟩ := hq
    exact ⟨steps q, [], r, (List.append_nil _).symm, hr, by simp⟩
  obtain ⟨pre, post, r, hpp, hw, hup⟩ := h
  rcases List.append_eq_append_iff.mp (hs.symm.trans hpp) with ⟨a, hpre, hrest⟩ | ⟨c, hpre, hpost⟩
  · rw [hpre, List.append_assoc] at hw
    exact ⟨straight (whole hw), fun _ => whole hw⟩
  · have hne : s ≠ .up := by
      rintro rfl
      exact hup (by rw [hpost]; simp)
    refine ⟨?_, fun e => absurd e hne⟩
    rcases List.append_eq_append_iff.mp hpre with ⟨a, hq, _⟩ | ⟨a, hq, hc⟩
    · rw [hq] at hw
      exact straight (whole hw)
    · refine ⟨pre, a, r, hq, (ho _).trans hw, fun hm => hup ?_⟩
      rw [hpost, hc]
      exact List.mem_append_left _ (List.mem_append_left _ hm)

/-! ## Volumes that have more -/

/-- What comes of a volume when files and directories are only added to it. -/
structure Adds (v v' : Volume) : Prop where
  grows : Grows v.tree v'.tree
  cwd : v'.cwd = v.cwd
  rooms : v'.tree.rooms = v.tree.rooms
  rooted : v.tree.Rooted → v'.tree.Rooted
  linkFree : v.tree.LinkFree → v'.tree.LinkFree

theorem Adds.refl (v : Volume) : v.Adds v := ⟨.refl _, rfl, rfl, id, id⟩

theorem Adds.trans {a b c : Volume} (hab : a.Adds b) (hbc : b.Adds c) : a.Adds c :=
  ⟨hab.grows.trans hbc.grows, hbc.cwd.trans hab.cwd, hbc.rooms.trans hab.rooms, fun h => hbc.rooted (hab.rooted h),
    fun h => hbc.linkFree (hab.linkFree h)⟩

theorem Adds.resolve {v v' : Volume} (h : v.Adds v') {p : Path} {l : Loc} (hr : v.resolve p = .ok l) : v'.resolve p = .ok l :=
  resolve_grows h.grows h.cwd hr

theorem Adds.leadsTo {v v' : Volume} (h : v.Adds v') {p : Path} {d : Loc} (hd : v.LeadsTo p d) : v'.LeadsTo p d :=
  ⟨h.resolve hd.1, h.grows.dir hd.2⟩

theorem Adds.trail {v v' : Volume} (h : v.Adds v') {p : Path} {ss : List Step} {r : Loc × Nat} (hw : v.trail p ss = .ok r) :
    v'.trail p ss = .ok r := by
  rw [Volume.trail, h.cwd]
  exact walk_grows h.grows hw

/-! ## Where the last step is taken -/

theorem targetFrom_ok {t : Tree} {links : Nat} {l : Loc} {ss : List Step} {g : Target} (h : targetFrom t links l ss = .ok g) :
    (ss = [] ∧ g = ⟨l, none, links⟩) ∨ ∃ init last, ss = init ++ [last] ∧ walk t links l init = .ok (g.dir, g.links) ∧
      t.get? g.dir = some .dir ∧ g.last = some last ∧ ∀ name, last = .down name → name.length ≤ maxNameLength := by
  rcases List.eq_nil_or_concat ss with rfl | ⟨init, last, rfl⟩
  · exact .inl ⟨rfl, (Except.ok.inj h).symm⟩
  · simp only [targetFrom, List.concat_eq_append, List.getLast?_append, List.getLast?_singleton, Option.some_or,
      List.dropLast_concat] at h
    obtain ⟨⟨d, left⟩, hw, h⟩ := bind_ok h
    simp only at h
    split at h
    · cases h
    · rename_i hd
      refine .inr ⟨init, last, List.concat_eq_append, ?_⟩
      split at h
      · rename_i name
        split at h
        · cases h
        · rename_i hn
          obtain rfl := Except.ok.inj h
          refine ⟨hw, Decidable.not_not.mp hd, rfl, fun n e => ?_⟩
          rw [← Step.down.inj e]
          omega
      · rename_i hlast
        obtain rfl := Except.ok.inj h
        exact ⟨hw, Decidable.not_not.mp hd, rfl, fun n e => absurd e (hlast n)⟩

theorem targetFrom_of_walk {t : Tree} {links left : Nat} {l d : Loc} {init : List Step} {name : Bytes}
    (hw : walk t links l init = .ok (d, left)) (hd : t.get? d = some .dir) :
    targetFrom t links l (init ++ [.down name]) =
      if maxNameLength < name.length then .error .nameTooLong else .ok ⟨d, some (.down name), left⟩ := by
  simp only [targetFrom, List.getLast?_append, List.getLast?_singleton, Option.some_or, List.dropLast_concat, hw, bind,
    Except.bind, hd, ne_eq, not_true_eq_false, if_false]
  rfl

theorem target_of_error {v : Volume} {p : Path} {init : List Step} {last : Step} {e : Errno} (hs : steps p = init ++ [last])
    (hc : check p = .ok ()) (hw : v.trail p init = .error e) : v.target p = .error e := by
  rw [trail] at hw
  simp only [target, hc, hs, targetFrom, List.getLast?_append, List.getLast?_singleton, Option.some_or, List.dropLast_concat,
    hw, bind, Except.bind]

theorem target_ok {v : Volume} {p : Path} {g : Target} (h : v.target p = .ok g) :
    check p = .ok () ∧ targetFrom v.tree maxLinks (origin p v.cwd) (steps p) = .ok g := by
  obtain ⟨_, hc, h⟩ := bind_ok h
  exact ⟨hc, h⟩

/-- The last step of a path down into a directory that is there. -/
theorem target_down {v : Volume} {p : Path} {g : Target} {name : Bytes} (h : v.target p = .ok g)
    (hl : g.last = some (.down name)) :
    ∃ init, steps p = init ++ [.down name] ∧ v.trail p init = .ok (g.dir, g.links) ∧ v.tree.get? g.dir = some .dir ∧
      name.length ≤ maxNameLength := by
  obtain ⟨_, ht⟩ := target_ok h
  rcases targetFrom_ok ht with ⟨_, rfl⟩ | ⟨init, last, hs, hw, hd, hlast, hn⟩
  · cases hl
  · obtain rfl := Option.some.inj (hl.symm.trans hlast)
    exact ⟨init, hs, hw, hd, hn name rfl⟩

/-! ## Making a directory -/

theorem mkdir_ok {v v' : Volume} {p : Path} (h : v.mkdir p = .ok v') : ∃ init d left name,
    steps p = init ++ [.down name] ∧ v.trail p init = .ok (d, left) ∧ v.tree.get? d = some .dir ∧
      name.length ≤ maxNameLength ∧ v.tree.get? (d ++ [name]) = none ∧ check p = .ok () ∧
      v' = { v with tree := v.tree.put (d ++ [name]) .dir } := by
  obtain ⟨g, hg, h⟩ := bind_ok h
  split at h
  · rename_i name hl
    split at h
    · cases h
    · rename_i hn
      obtain ⟨init, hs, hw, hd, hname⟩ := target_down hg hl
      exact ⟨init, g.dir, g.links, name, hs, hw, hd, hname, Option.not_isSome_iff_eq_none.mp hn, (target_ok hg).1,
        (Except.ok.inj h).symm⟩
  · cases h

theorem adds_mkdir {v v' : Volume} {p : Path} (h : v.mkdir p = .ok v') : v.Adds v' := by
  obtain ⟨_, d, _, name, _, _, hd, _, hn, _, rfl⟩ := mkdir_ok h
  exact ⟨Tree.grows_put (.inl hn), rfl, rfl, fun hr => Tree.rooted_put hr hd (.inl hn),
    fun hl => Tree.linkFree_put hl (by simp) (fun _ e => by cases e)⟩

theorem trail_down {v : Volume} {p : Path} {init : List Step} {d : Loc} {left : Nat} {name : Bytes} {e : Entry}
    (hw : v.trail p init = .ok (d, left)) (hd : v.tree.get? d = some .dir) (hn : name.length ≤ maxNameLength)
    (he : v.tree.get? (d ++ [name]) = some e) (hl : ∀ target, e ≠ .link target) :
    v.trail p (init ++ [.down name]) = .ok (d ++ [name], left) := by
  rw [trail] at hw ⊢
  rw [walk_append, hw]
  simp only
  rw [walk_eq]
  have : leg v.tree d [.down name] = .ok (.arrival (d ++ [name])) := by
    simp only [leg, hd, he, ne_eq, not_true_eq_false, if_false, if_neg (Nat.not_lt.mpr hn)]
  rw [this]

/-- What is to be made is not there yet. -/
theorem not_trail_of_mkdir {v v' : Volume} {p : Path} (h : v.mkdir p = .ok v') (r : Loc × Nat) :
    v.trail p (steps p) ≠ .ok r := by
  obtain ⟨init, d, left, name, hs, hw, hd, hname, hn, _, _⟩ := mkdir_ok h
  intro ht
  rw [trail, hs] at ht
  obtain ⟨d', left', h1, h2⟩ := walk_append_ok ht
  obtain ⟨rfl, rfl⟩ := Prod.mk.inj (Except.ok.inj (hw.symm.trans h1))
  rw [walk_eq] at h2
  simp only [leg, hd, hn, ne_eq, not_true_eq_false, if_false, if_neg (Nat.not_lt.mpr hname)] at h2
  cases h2

/-- A directory that has been made is where its path leads, and it was not there. -/
theorem mkdir_leadsTo {v v' : Volume} {p : Path} (h : v.mkdir p = .ok v') : ∃ d, v'.LeadsTo p d ∧ v.tree.get? d = none ∧
    d ≠ [] ∧ v' = { v with tree := v.tree.put d .dir } := by
  have ha := adds_mkdir h
  obtain ⟨init, d, left, name, hs, hw, hd, hname, hn, hc, rfl⟩ := mkdir_ok h
  have hne : d ++ [name] ≠ [] := by simp
  have hnew : (v.tree.put (d ++ [name]) .dir).get? (d ++ [name]) = some .dir := by rw [Tree.get?_put _ _ _ hne, if_pos rfl]
  refine ⟨d ++ [name], leadsTo_iff.mpr ⟨hc, ⟨left, ?_⟩, hnew⟩, hn, hne, rfl⟩
  rw [hs]
  exact trail_down (ha.trail hw) (ha.grows.dir hd) hname hnew (fun _ e => by cases e)

/-- Nothing is in a directory that has just been made. -/
theorem mkdir_bare {v v' : Volume} {p : Path} {d l : Loc} (hr : v.tree.Rooted) (h : v.mkdir p = .ok v') (hd : v'.LeadsTo p d)
    (hl : isUnder d l = true) : v'.tree.get? l = none := by
  obtain ⟨m, hm, hn, hne, rfl⟩ := mkdir_leadsTo h
  obtain rfl := Except.ok.inj (hm.1.symm.trans hd.1)
  rw [Tree.get?_put _ _ _ hne, if_neg (fun e => (isUnder_iff.mp hl).2 e.symm)]
  exact Tree.rooted_absent hr hn hl

/-- Without links on the way a directory is made where its path says. -/
theorem mkdir_plain {v v' : Volume} {p : Path} (hp : v.Plain p) (h : v.mkdir p = .ok v') :
    v.tree.get? (place v.cwd p) = none ∧ place v.cwd p ≠ [] ∧
      v' = { v with tree := v.tree.put (place v.cwd p) .dir } := by
  obtain ⟨d, hd, hn, hne, rfl⟩ := mkdir_leadsTo h
  have he := resolve_plain (hp.put hne fun _ e => by cases e) hd.1
  simp only at he
  rw [← he]
  exact ⟨hn, hne, rfl⟩

theorem mkdir_linkFree {v v' : Volume} {p : Path} (hl : v.tree.LinkFree) (h : v.mkdir p = .ok v') :
    v.tree.get? (place v.cwd p) = none ∧ place v.cwd p ≠ [] ∧
      v' = { v with tree := v.tree.put (place v.cwd p) .dir } := mkdir_plain (plain_of_linkFree hl p) h

/-! ## Creating a file -/

theorem creation_ok {t : Tree} {rounds links : Nat} {l m : Loc} {p : Path} (h : creation t rounds links l p = .ok m) :
    ∃ d name, m = d ++ [name] ∧ t.get? d = some .dir ∧ (t.get? m = none ∨ ∃ c, t.get? m = some (.file c)) := by
  induction rounds generalizing links l p with
  | zero => cases h
  | succ rounds ih =>
    obtain ⟨g, hg, h⟩ := bind_ok h
    split at h
    · rename_i name hl
      split at h
      · cases h
      · rcases targetFrom_ok hg with ⟨_, rfl⟩ | ⟨init, last, hs, hw, hd, hlast, hn⟩
        · cases hl
        · split at h
          · split at h
            · cases h
            · exact ih h
          · cases h
          · rename_i hlink hdir
            obtain rfl := Except.ok.inj h
            refine ⟨g.dir, name, rfl, hd, ?_⟩
            cases he : t.get? (g.dir ++ [name]) with
            | none => exact .inl rfl
            | some e =>
              cases e with
              | file c => exact .inr ⟨c, rfl⟩
              | link target => exact absurd he (hlink target)
              | dir => exact absurd he hdir
    · cases h

/-- Once the file is there, the path leads to it. -/
theorem walk_of_creation {t t' : Tree} {rounds links : Nat} {l m : Loc} {p : Path} {c : Bytes} (hg : Grows t t')
    (hm : t'.get? m = some (.file c)) (h : creation t rounds links l p = .ok m) :
    ∃ left, walk t' links l (allSteps p) = .ok (m, left) := by
  induction rounds generalizing links l p with
  | zero => cases h
  | succ rounds ih =>
    obtain ⟨g, ht, h⟩ := bind_ok h
    split at h
    · rename_i name hl
      split at h
      · cases h
      · rename_i hopen
        rcases targetFrom_ok ht with ⟨_, rfl⟩ | ⟨init, last, hs, hw, hd, hlast, hn⟩
        · cases hl
        · obtain rfl := Option.some.inj (hl.symm.trans hlast)
          have hlen := Nat.not_lt.mpr (hn name rfl)
          have hall : allSteps p = init ++ [.down name] := by rw [allSteps, if_neg hopen, hs]
          rw [hall, walk_append, walk_grows hg hw]
          simp only
          split at h
          · rename_i target he
            split at h
            · cases h
            · rename_i links' left hleft
              obtain ⟨left', hw'⟩ := ih h
              refine ⟨left', ?_⟩
              have hleg : leg t' g.dir [.down name] = .ok (.link g.dir target []) := by
                simp only [leg, hg.dir hd, hg.link he, ne_eq, not_true_eq_false, if_false, if_neg hlen]
              rw [walk_eq, hleg, hleft]
              simpa using hw'
          · cases h
          · obtain rfl := Except.ok.inj h
            have hleg : leg t' g.dir [.down name] = .ok (.arrival (g.dir ++ [name])) := by
              simp only [leg, hg.dir hd, hm, ne_eq, not_true_eq_false, if_false, if_neg hlen]
            exact ⟨g.links, by rw [walk_eq, hleg]⟩
    · cases h

theorem create_ok {v v' : Volume} {p : Path} {l : Loc} (h : v.create p = .ok (l, v')) :
    check p = .ok () ∧ creation v.tree (maxLinks + 1) maxLinks (origin p v.cwd) p = .ok l ∧
      v' = { v with tree := v.tree.put l (.file []) } := by
  obtain ⟨_, hc, h⟩ := bind_ok h
  obtain ⟨m, hm, h⟩ := bind_ok h
  obtain ⟨rfl, rfl⟩ := Prod.mk.inj (Except.ok.inj h)
  exact ⟨hc, hm, rfl⟩

/-- A file is put in a directory, in place of nothing or of a file. -/
structure Puts (v : Volume) (l : Loc) (contents : Bytes) (v' : Volume) : Prop where
  entry : ∃ d name, l = d ++ [name] ∧ v.tree.get? d = some .dir
  fits : v.tree.get? l = none ∨ ∃ c, v.tree.get? l = some (.file c)
  tree : v'.tree = v.tree.put l (.file contents)
  cwd : v'.cwd = v.cwd

theorem puts_of_create {v v' : Volume} {p : Path} {l : Loc} (h : v.create p = .ok (l, v')) (contents : Bytes) :
    v.Puts l contents (v'.fill l contents) := by
  obtain ⟨_, hm, rfl⟩ := create_ok h
  obtain ⟨d, name, hl, hd, hf⟩ := creation_ok hm
  exact ⟨⟨d, name, hl, hd⟩, hf, Tree.put_put v.tree l (.file []) (.file contents), rfl⟩

namespace Puts

variable {v v' : Volume} {l : Loc} {contents : Bytes}

theorem ne_nil (h : v.Puts l contents v') : l ≠ [] := by
  obtain ⟨d, name, rfl, _⟩ := h.entry
  simp

theorem fitting (h : v.Puts l contents v') : Fits v.tree l (.file contents) := by
  rcases h.fits with hf | ⟨c, hf⟩
  · exact .inl hf
  · exact .inr ⟨c, contents, hf, rfl⟩

theorem get? (h : v.Puts l contents v') (m : Loc) :
    v'.tree.get? m = if m = l then some (.file contents) else v.tree.get? m := by
  rw [h.tree, Tree.get?_put _ _ _ h.ne_nil]

theorem self (h : v.Puts l contents v') : v'.tree.get? l = some (.file contents) := by rw [h.get?, if_pos rfl]

theorem other (h : v.Puts l contents v') {m : Loc} (hm : m ≠ l) : v'.tree.get? m = v.tree.get? m := by
  rw [h.get?, if_neg hm]

theorem adds (h : v.Puts l contents v') : v.Adds v' where
  grows := by
    rw [h.tree]
    exact Tree.grows_put h.fitting
  cwd := h.cwd
  rooms := by
    rw [h.tree]
    rfl
  rooted hr := by
    have hf := h.fitting
    obtain ⟨d, name, rfl, hd⟩ := h.entry
    rw [h.tree]
    exact Tree.rooted_put hr hd hf
  linkFree hl := by
    rw [h.tree]
    exact Tree.linkFree_put hl h.ne_nil (fun _ e => by cases e)

end Puts

theorem readFile_of_resolve {v : Volume} {p : Path} {l : Loc} {contents : Bytes} (h : v.resolve p = .ok l)
    (hf : v.tree.get? l = some (.file contents)) : v.readFile p = .ok contents := by
  simp only [readFile, stat, h, bind, Except.bind, hf]
  rfl

theorem resolve_create {v v' : Volume} {p : Path} {l : Loc} (h : v.create p = .ok (l, v')) (contents : Bytes) :
    (v'.fill l contents).resolve p = .ok l := by
  have hp := puts_of_create h contents
  obtain ⟨hc, hm, rfl⟩ := create_ok h
  obtain ⟨left, hw⟩ := walk_of_creation hp.adds.grows hp.self hm
  exact resolve_of_trail (r := (l, left)) hc hw

/-- Without links on the way a file is created where its path says. -/
theorem create_plain {v v' : Volume} {p : Path} (hp : v.Plain p) {l : Loc} (h : v.create p = .ok (l, v')) :
    l = place v.cwd p := by
  have hput := puts_of_create h []
  have hv' : v'.fill l [] = { v with tree := v.tree.put l (.file []) } := by rw [← hput.tree, ← hput.cwd]
  have hr := resolve_create h []
  rw [hv'] at hr
  exact resolve_plain (hp.put hput.ne_nil fun _ e => by cases e) hr

theorem create_linkFree {v v' : Volume} (hl : v.tree.LinkFree) {p : Path} {l : Loc} (h : v.create p = .ok (l, v')) :
    l = place v.cwd p := create_plain (plain_of_linkFree hl p) h

/-! ## A last step down -/

section Down

variable {v : Volume} {p : Path} {init : List Step} {d : Loc} {left : Nat} {name : Bytes}
  (hs : steps p = init ++ [.down name]) (hw : v.trail p init = .ok (d, left)) (hd : v.tree.get? d = some .dir)
  (hc : check p = .ok ())

include hs hw hd hc

theorem target_of_trail : v.target p =
    if maxNameLength < name.length then .error .nameTooLong else .ok ⟨d, some (.down name), left⟩ := by
  simp only [target, hc, bind, Except.bind, hs]
  exact targetFrom_of_walk hw hd

theorem lstat_of_trail (hopen : endsOpen p = false) (hlen : name.length ≤ maxNameLength) : v.lstat p =
    match v.tree.get? (d ++ [name]) with
    | some e => .ok e
    | none => .error .noEntry := by
  rw [lstat, hopen, if_neg (by decide), target_of_trail hs hw hd hc, if_neg (Nat.not_lt.mpr hlen)]
  rfl

theorem mkdir_of_trail (hlen : name.length ≤ maxNameLength) : v.mkdir p =
    if (v.tree.get? (d ++ [name])).isSome then .error .occupied
    else .ok { v with tree := v.tree.put (d ++ [name]) .dir } := by
  rw [mkdir, target_of_trail hs hw hd hc, if_neg (Nat.not_lt.mpr hlen)]
  rfl

theorem rmdir_of_trail (hlen : name.length ≤ maxNameLength) : v.rmdir p =
    match v.tree.get? (d ++ [name]) with
    | none => .error .noEntry
    | some .dir =>
      if v.tree.isBare (d ++ [name]) then .ok { v with tree := v.tree.remove (d ++ [name]) } else .error .notEmpty
    | some _ => .error .notDirectory := by
  rw [rmdir, target_of_trail hs hw hd hc, if_neg (Nat.not_lt.mpr hlen)]
  rfl

end Down

/-! ## Steps behind what is no directory -/

section Behind

variable {v : Volume} {p : Path} {ss : List Step} {r : Loc × Nat} (hw : v.trail p ss = .ok r) (hd : v.tree.get? r.1 ≠ some .dir)

include hw hd

/-- The next step is refused where something else than a directory is reached. -/
theorem trail_behind (s : Step) (rest : List Step) : v.trail p (ss ++ s :: rest) = .error .notDirectory := by
  rw [trail] at hw ⊢
  rw [walk_append, hw]
  simp only
  rw [walk_eq, leg.eq_def]
  simp only [if_pos hd]

variable {rest : List Step} {s : Step} (hs : steps p = ss ++ s :: rest) (hc : check p = .ok ())

include hs hc

theorem stat_behind : v.stat p = .error .notDirectory := by
  refine stat_of_error hc ?_
  rw [hs]
  exact trail_behind hw hd s rest

theorem target_behind : v.target p = .error .notDirectory := by
  have hlast : (steps p).getLast? = some ((s :: rest).getLast (by simp)) := by
    rw [hs, List.getLast?_append, List.getLast?_eq_some_getLast (by simp), Option.some_or]
  have hinit : (steps p).dropLast = ss ++ (s :: rest).dropLast := by rw [hs, List.dropLast_append_of_ne_nil (by simp)]
  simp only [target, hc, targetFrom, hlast, hinit, bind, Except.bind]
  cases hrest : (s :: rest).dropLast with
  | nil =>
    rw [List.append_nil]
    rw [trail] at hw
    simp only [hw, ne_eq, hd, not_false_eq_true, if_true]
  | cons x xs =>
    have := trail_behind hw hd x xs
    rw [trail] at this
    simp only [this]

theorem lstat_behind : v.lstat p = .error .notDirectory := by
  unfold lstat
  split
  · exact stat_behind hw hd hs hc
  · rw [target_behind hw hd hs hc]
    rfl

end Behind

/-! ## A name in a directory that is there -/

theorem endsOpen_join_name (p : Path) {name : Bytes} (hn : Path.IsName name) : endsOpen (p.join ⟨name⟩) = false := by
  obtain ⟨init, last, rfl⟩ : ∃ init last, name = init ++ [last] := by
    rcases List.eq_nil_or_concat name with rfl | ⟨init, last, h⟩
    · exact absurd rfl hn.1
    · exact ⟨init, last, by rw [h, List.concat_eq_append]⟩
  have hlast : last ≠ Path.separator := by
    rintro rfl
    exact hn.2.2.2 (List.mem_append_right _ (List.mem_singleton_self _))
  have hjoin : ∃ before, (p.join ⟨init ++ [last]⟩).octets = before ++ [last] := by
    unfold Path.join
    rw [isAbsolute_name hn, if_neg (by decide)]
    split
    · exact ⟨p.octets ++ init, (List.append_assoc _ _ _).symm⟩
    · exact ⟨p.octets ++ Path.separator :: init, by simp⟩
  obtain ⟨before, hb⟩ := hjoin
  rw [endsOpen, hb, List.getLast?_append, List.getLast?_singleton, Option.some_or]
  simp [hlast]

/-- A path is never refused by itself for what is not there, unless it is empty. -/
theorem check_ne {p : Path} (hne : p.octets ≠ []) {e : Errno} (h : check p = .error e) : e ≠ .noEntry := by
  rw [check, if_neg hne] at h
  split at h
  · obtain rfl := Except.error.inj h
    simp
  · split at h
    · obtain rfl := Except.error.inj h
      simp
    · cases h

theorem check_of_opens {p q : Path} (hp : check p = .ok ()) (hq : q.octets <+: p.octets) (hne : q.octets ≠ []) :
    check q = .ok () := by
  unfold check at hp ⊢
  split at hp
  · cases hp
  · rename_i hzero
    split at hp
    · cases hp
    · split at hp
      · cases hp
      · rename_i hlen
        have := hq.length_le
        rw [if_neg (fun h => hzero ?_), if_neg hne, if_neg (by omega)]
        simp only [List.contains_iff_mem] at h ⊢
        exact hq.subset h

/-- Where a path is refused for what is on its way, the path itself can be taken. -/
theorem check_of_stat {v : Volume} {p : Path} (hne : p.octets ≠ []) {e : Errno} (h : v.stat p = .error e)
    (he : e = .noEntry ∨ e = .notDirectory) : check p = .ok () := by
  cases hc : check p with
  | ok _ => rfl
  | error e' =>
    simp only [stat, resolve, hc, bind, Except.bind] at h
    obtain rfl := Except.error.inj h
    unfold check at hc
    rw [if_neg hne] at hc
    split at hc
    · obtain rfl := Except.error.inj hc
      simp at he
    · split at hc
      · obtain rfl := Except.error.inj hc
        simp at he
      · cases hc

theorem check_parent {p q : Path} (hp : check p = .ok ()) (hq : p.parent = some q) (hne : q ≠ ⟨[]⟩) : check q = .ok () :=
  check_of_opens hp (parent_opens hq) fun h => hne (congrArg Path.mk h)

theorem lstat_of_check {v : Volume} {p : Path} {e : Errno} (h : check p = .error e) : v.lstat p = .error e := by
  unfold lstat
  split
  · simp only [stat, resolve, h, bind, Except.bind]
  · simp only [target, h, bind, Except.bind]

theorem octets_join_name_ne_nil (p : Path) {name : Bytes} (hn : Path.IsName name) : (p.join ⟨name⟩).octets ≠ [] :=
  octets_ne_nil (s := .down name) (by rw [steps_join_name p hn]; simp)

/-- How the system refuses a name in a directory, if it does. -/
def refusal? (p : Path) (name : Bytes) : Option Errno :=
  match check (p.join ⟨name⟩) with
  | .error e => some e
  | .ok _ => if maxNameLength < name.length then some .nameTooLong else none

theorem refusal?_eq_none {p : Path} {name : Bytes} :
    refusal? p name = none ↔ check (p.join ⟨name⟩) = .ok () ∧ name.length ≤ maxNameLength := by
  rw [refusal?]
  cases check (p.join ⟨name⟩) with
  | error e => simp
  | ok _ => simp

/-- A name is never refused for what is not there. -/
theorem refusal?_ne {p : Path} {name : Bytes} (hn : Path.IsName name) : refusal? p name ≠ some .noEntry := by
  rw [refusal?]
  cases hc : check (p.join ⟨name⟩) with
  | error e =>
    intro he
    exact check_ne (octets_join_name_ne_nil p hn) hc (Option.some.inj he)
  | ok _ =>
    simp only
    split <;> simp

section Child

variable {v : Volume} {p : Path} {name : Bytes} {d : Loc} (hn : Path.IsName name) (hd : v.LeadsTo p d)

include hn hd

omit hd in
/-- The path of a name in a directory goes by the directory's own. -/
theorem trail_join_name (ss : List Step) : v.trail (p.join ⟨name⟩) ss = v.trail p ss := by
  rw [trail, origin_join p ⟨name⟩ v.cwd (isAbsolute_name hn), trail]

theorem target_name (hc : check (p.join ⟨name⟩) = .ok ()) : ∃ left, v.target (p.join ⟨name⟩) =
    if maxNameLength < name.length then .error .nameTooLong else .ok ⟨d, some (.down name), left⟩ := by
  obtain ⟨_, ⟨left, hw⟩, hdir⟩ := leadsTo_iff.mp hd
  exact ⟨left, target_of_trail (steps_join_name p hn) ((trail_join_name hn _).trans hw) hdir hc⟩

/-- What a name in a directory names, if the system takes it. -/
theorem lstat_name : v.lstat (p.join ⟨name⟩) = match refusal? p name with
    | some e => .error e
    | none =>
      match v.tree.get? (d ++ [name]) with
      | some e => .ok e
      | none => .error .noEntry := by
  rw [lstat, endsOpen_join_name p hn, if_neg (by decide), refusal?]
  cases hc : check (p.join ⟨name⟩) with
  | error e =>
    have ht : v.target (p.join ⟨name⟩) = .error e := by
      rw [target, hc]
      rfl
    rw [ht]
    rfl
  | ok _ =>
    obtain ⟨left, ht⟩ := target_name hn hd hc
    rw [ht]
    by_cases hlen : maxNameLength < name.length
    · simp only [if_pos hlen, bind, Except.bind]
    · cases he : v.tree.get? (d ++ [name]) <;> simp only [if_neg hlen, bind, Except.bind, he]

/-- A name that is a directory: its path can be taken, and the directory is there. -/
theorem lstat_name_dir (h : v.lstat (p.join ⟨name⟩) = .ok .dir) :
    check (p.join ⟨name⟩) = .ok () ∧ name.length ≤ maxNameLength ∧ v.tree.get? (d ++ [name]) = some .dir := by
  rw [lstat_name hn hd] at h
  cases hrf : refusal? p name with
  | some e =>
    rw [hrf] at h
    cases h
  | none =>
    simp only [hrf] at h
    obtain ⟨hc, hlen⟩ := refusal?_eq_none.mp hrf
    refine ⟨hc, hlen, ?_⟩
    cases he : v.tree.get? (d ++ [name]) with
    | none =>
      rw [he] at h
      cases h
    | some e =>
      rw [he] at h
      rw [Except.ok.inj h]

theorem leadsTo_name (hc : check (p.join ⟨name⟩) = .ok ()) (hlen : name.length ≤ maxNameLength)
    (he : v.tree.get? (d ++ [name]) = some .dir) : v.LeadsTo (p.join ⟨name⟩) (d ++ [name]) := by
  obtain ⟨_, ⟨left, hw⟩, hdir⟩ := leadsTo_iff.mp hd
  refine leadsTo_iff.mpr ⟨hc, ⟨left, ?_⟩, he⟩
  rw [steps_join_name p hn]
  exact trail_down ((trail_join_name hn _).trans hw) hdir hlen he (fun _ e => by cases e)

theorem stat_name_absent (hc : check (p.join ⟨name⟩) = .ok ()) (hlen : name.length ≤ maxNameLength)
    (he : v.tree.get? (d ++ [name]) = none) : v.stat (p.join ⟨name⟩) = .error .noEntry := by
  obtain ⟨_, ⟨left, hw⟩, hdir⟩ := leadsTo_iff.mp hd
  have hleg : leg v.tree d [.down name] = .error .noEntry := by
    simp only [leg, hdir, he, ne_eq, not_true_eq_false, if_false, if_neg (Nat.not_lt.mpr hlen)]
  have hwalk : walk v.tree maxLinks (origin (p.join ⟨name⟩) v.cwd) (allSteps (p.join ⟨name⟩)) = .error .noEntry := by
    rw [allSteps, endsOpen_join_name p hn, if_neg (by decide), origin_join p ⟨name⟩ v.cwd (isAbsolute_name hn),
      steps_join_name p hn, walk_append]
    rw [trail] at hw
    rw [hw]
    simp only
    rw [walk_eq, hleg]
  simp only [stat, resolve, hc, hwalk, bind, Except.bind]

theorem mkdir_name (hc : check (p.join ⟨name⟩) = .ok ()) (hlen : name.length ≤ maxNameLength)
    (he : v.tree.get? (d ++ [name]) = none) :
    v.mkdir (p.join ⟨name⟩) = .ok { v with tree := v.tree.put (d ++ [name]) .dir } := by
  obtain ⟨_, ⟨left, hw⟩, hdir⟩ := leadsTo_iff.mp hd
  rw [mkdir_of_trail (steps_join_name p hn) ((trail_join_name hn _).trans hw) hdir hc hlen, he]
  rfl

/-- A file is created at a name that the system takes, unless a directory or a link has it. -/
theorem create_name_eq (hlink : ∀ target, v.tree.get? (d ++ [name]) ≠ some (.link target)) :
    v.create (p.join ⟨name⟩) = match refusal? p name with
      | some e => .error e
      | none =>
        if v.tree.get? (d ++ [name]) = some .dir then .error .isDirectory
        else .ok (d ++ [name], { v with tree := v.tree.put (d ++ [name]) (.file []) }) := by
  obtain ⟨_, ⟨left, hw⟩, hdir⟩ := leadsTo_iff.mp hd
  have hopen : ¬ endsOpen (p.join ⟨name⟩) = true := by
    rw [endsOpen_join_name p hn]
    decide
  rw [create, origin_join p ⟨name⟩ v.cwd (isAbsolute_name hn), refusal?]
  cases hc : check (p.join ⟨name⟩) with
  | error e => rfl
  | ok _ =>
    simp only [bind, Except.bind, creation, steps_join_name p hn, targetFrom_of_walk hw hdir]
    by_cases hlen : maxNameLength < name.length
    · simp only [if_pos hlen]
    · simp only [if_neg hlen, if_neg hopen]
      cases he : v.tree.get? (d ++ [name]) with
      | none => rfl
      | some entry =>
        cases entry with
        | file c => rfl
        | link target => exact absurd he (hlink target)
        | dir => rfl

/-- A name is created in the directory that the path before it leads to. -/
theorem create_name {v' : Volume} {l : Loc} (hlink : ∀ target, v.tree.get? (d ++ [name]) ≠ some (.link target))
    (h : v.create (p.join ⟨name⟩) = .ok (l, v')) : l = d ++ [name] := by
  rw [create_name_eq hn hd hlink] at h
  split at h
  · cases h
  · split at h
    · cases h
    · exact (Prod.mk.inj (Except.ok.inj h)).1.symm

/-- Creating a name comes to the same in two volumes that hold the same there. -/
theorem create_name_alike {u : Volume} (hd' : u.LeadsTo p d) (hlink : ∀ target, v.tree.get? (d ++ [name]) ≠ some (.link target))
    (he : u.tree.get? (d ++ [name]) = v.tree.get? (d ++ [name])) :
    (u.create (p.join ⟨name⟩)).map Prod.fst = (v.create (p.join ⟨name⟩)).map Prod.fst := by
  rw [create_name_eq hn hd hlink, create_name_eq hn hd' (by rw [he]; exact hlink), he]
  cases refusal? p name with
  | some e => rfl
  | none =>
    simp only
    split <;> rfl

omit hd in
/-- Where a name was created, the system takes it. -/
theorem refusal?_of_create {r : Loc × Volume} (h : v.create (p.join ⟨name⟩) = .ok r) : refusal? p name = none := by
  obtain ⟨hc, hm, _⟩ := create_ok (show v.create (p.join ⟨name⟩) = .ok (r.1, r.2) from h)
  obtain ⟨g, hg, _⟩ := bind_ok hm
  refine refusal?_eq_none.mpr ⟨hc, ?_⟩
  rcases targetFrom_ok hg with ⟨hnil, _⟩ | ⟨init, last, hs, _, _, _, hlen⟩
  · rw [steps_join_name p hn] at hnil
    simp at hnil
  · rw [steps_join_name p hn] at hs
    exact hlen name (List.cons.inj (List.append_inj' hs rfl).2).1.symm

/-- The path of a file in a directory leads to it, if the system takes the path. -/
theorem resolve_name_file (hrf : refusal? p name = none) {contents : Bytes} (he : v.tree.get? (d ++ [name]) = some (.file contents)) :
    v.resolve (p.join ⟨name⟩) = .ok (d ++ [name]) := by
  obtain ⟨_, ⟨left, hw⟩, hdir⟩ := leadsTo_iff.mp hd
  obtain ⟨hc, hlen⟩ := refusal?_eq_none.mp hrf
  refine resolve_of_trail (r := (d ++ [name], left)) hc ?_
  rw [allSteps, if_neg (by rw [endsOpen_join_name p hn]; decide), steps_join_name p hn]
  exact trail_down ((trail_join_name hn _).trans hw) hdir hlen he (fun _ e => by cases e)

/-- A directory is made at a name only where nothing is. -/
theorem mkdir_name_ok {v' : Volume} (h : v.mkdir (p.join ⟨name⟩) = .ok v') : v.tree.get? (d ++ [name]) = none := by
  obtain ⟨g, hg, h⟩ := bind_ok h
  obtain ⟨left, ht⟩ := target_name hn hd (target_ok hg).1
  rw [hg] at ht
  split at ht
  · cases ht
  · obtain rfl := Except.ok.inj ht
    simp only at h
    split at h
    · cases h
    · rename_i hnone
      exact Option.not_isSome_iff_eq_none.mp hnone

theorem rmdir_name (hc : check (p.join ⟨name⟩) = .ok ()) (hlen : name.length ≤ maxNameLength)
    (he : v.tree.get? (d ++ [name]) = some .dir) (hb : v.tree.isBare (d ++ [name]) = true) :
    v.rmdir (p.join ⟨name⟩) = .ok { v with tree := v.tree.remove (d ++ [name]) } := by
  obtain ⟨_, ⟨left, hw⟩, hdir⟩ := leadsTo_iff.mp hd
  rw [rmdir_of_trail (steps_join_name p hn) ((trail_join_name hn _).trans hw) hdir hc hlen, he]
  simp only [hb, if_true]

/-- The path above a name in a directory leads to that directory. -/
theorem leadsTo_parent_name {q : Path} (hc : check (p.join ⟨name⟩) = .ok ()) (hq : (p.join ⟨name⟩).parent = some q)
    (hne : q ≠ ⟨[]⟩) : v.LeadsTo q d := by
  obtain ⟨_, ⟨left, hw⟩, hdir⟩ := leadsTo_iff.mp hd
  rcases parent_cases (p.join ⟨name⟩) with ⟨hnone, _⟩ | ⟨q', before, s, after, hq', hsteps, hs, hbefore, hafter, habs⟩
  · exact absurd (hnone q hq) hne
  · obtain rfl := Option.some.inj (hq.symm.trans hq')
    rw [steps_join_name p hn] at hsteps
    -- the name is the last step, so the path before it is the parent, with what stays behind that
    obtain ⟨hp, -, -⟩ := eq_of_append_still hsteps (s := []) (fun s hs => by cases hs) hafter (by simp) hs
    have habs' : q.isAbsolute = p.isAbsolute := by rw [habs hne, isAbsolute_join p ⟨name⟩ (isAbsolute_name hn)]
    rw [trail_congr habs', hp] at hw
    obtain ⟨d', left', h1, h2⟩ := walk_append_ok hw
    obtain ⟨rfl, rfl⟩ := Prod.mk.inj (eq_of_walk_still hbefore h2)
    exact leadsTo_iff.mpr ⟨check_parent hc hq hne, ⟨_, h1⟩, hdir⟩

end Child

/-- A path without links leads to the same directory where all on its way is the same. -/
theorem LeadsTo.agree {v v' : Volume} {p : Path} {d : Loc} (h : v.LeadsTo p d) (hp : v.Plain p) (hc : v'.cwd = v.cwd)
    (hs : ∀ m ∈ stations v.cwd p, v'.tree.get? m = v.tree.get? m) : v'.LeadsTo p d := by
  have hplace := resolve_plain hp h.1
  obtain ⟨hk, ⟨left, hw⟩, hd⟩ := leadsTo_iff.mp h
  refine leadsTo_iff.mpr ⟨hk, ⟨left, ?_⟩, ?_⟩
  · rw [trail, hc]
    exact (walk_agree hp hs).trans hw
  · rw [hs d (hplace ▸ place_mem_stations v.cwd p), hd]

/-- The way of a path that leads somewhere goes through directories. -/
theorem dirs_of_resolve {v : Volume} {p : Path} {l m : Loc} (hp : v.Plain p) (h : v.resolve p = .ok l)
    (hm : m ∈ stations v.cwd p) (hne : m ≠ l) : v.tree.get? m = some .dir := by
  obtain ⟨_, left, hw⟩ := resolve_ok h
  exact dirs_of_walk hp (steps_of_allSteps hw) hm hne

theorem dirs_of_leadsTo {v : Volume} {p : Path} {d m : Loc} (hp : v.Plain p) (h : v.LeadsTo p d)
    (hm : m ∈ stations v.cwd p) : v.tree.get? m = some .dir := by
  by_cases hd : m = d
  · rw [hd, h.2]
  · exact dirs_of_resolve hp h.1 hm hd

/-! ## What a path names -/

/-- The last step of a path that leads to a directory can be taken, and finds a directory or a link. -/
theorem target_of_leadsTo {v : Volume} {p : Path} {d : Loc} (h : v.LeadsTo p d) : ∃ g, v.target p = .ok g ∧
    ∀ name, g.last = some (.down name) → v.tree.get? (g.dir ++ [name]) = some .dir ∨
      ∃ target, v.tree.get? (g.dir ++ [name]) = some (.link target) := by
  obtain ⟨hc, ⟨left, hw⟩, hd⟩ := leadsTo_iff.mp h
  simp only [target, hc, bind, Except.bind]
  rcases List.eq_nil_or_concat (steps p) with he | ⟨init, last, he⟩
  · rw [he]
    exact ⟨⟨origin p v.cwd, none, maxLinks⟩, rfl, fun name e => by cases e⟩
  · rw [List.concat_eq_append] at he
    rw [trail, he] at hw
    obtain ⟨g, left', h1, h2⟩ := walk_append_ok hw
    have hg := dir_of_walk_cons h2
    rw [he]
    by_cases hl : ∃ name, last = .down name
    · obtain ⟨name, rfl⟩ := hl
      rw [walk_eq] at h2
      simp only [leg, hg, ne_eq, not_true_eq_false, if_false] at h2
      by_cases hn : maxNameLength < name.length
      · rw [if_pos hn] at h2
        cases h2
      · rw [if_neg hn] at h2
        refine ⟨⟨g, some (.down name), left'⟩, by rw [targetFrom_of_walk h1 hg, if_neg hn], fun n e => ?_⟩
        obtain rfl := Step.down.inj (Option.some.inj e)
        cases he : v.tree.get? (g ++ [name]) with
        | none => rw [he] at h2; cases h2
        | some e =>
          cases e with
          | dir => exact .inl rfl
          | link target => exact .inr ⟨target, rfl⟩
          | file c =>
            rw [he] at h2
            obtain ⟨rfl, -⟩ := Prod.mk.inj (Except.ok.inj h2)
            rw [he] at hd
            cases hd
    · refine ⟨⟨g, some last, left'⟩, ?_, fun name e => absurd ⟨name, Option.some.inj e⟩ hl⟩
      simp only [targetFrom, List.getLast?_append, List.getLast?_singleton, Option.some_or, List.dropLast_concat, h1, bind,
        Except.bind, hg, ne_eq, not_true_eq_false, if_false]
      cases last with
      | here => rfl
      | up => rfl
      | down name => exact absurd ⟨name, rfl⟩ hl

/-- A path that goes down from where another leads finds something there. -/
theorem under_of_leadsTo {v : Volume} {p q : Path} {before after : List Step} {s : Step} {d d' : Loc}
    (hs : steps p = steps q ++ before ++ s :: after) (ha : q.isAbsolute = p.isAbsolute) (hbefore : Still before)
    (hd : v.LeadsTo p d) (hq : v.LeadsTo q d') (hne : s ≠ .here) (hup : s ≠ .up) :
    ∃ l, isUnder d' l = true ∧ v.tree.get? l ≠ none := by
  obtain ⟨_, ⟨left, hw⟩, _⟩ := leadsTo_iff.mp hd
  obtain ⟨_, ⟨left', hw'⟩, hdir⟩ := leadsTo_iff.mp hq
  rw [trail_congr ha, hs, List.append_assoc] at hw
  obtain ⟨e, k, h1, h2⟩ := walk_append_ok hw
  obtain ⟨rfl, rfl⟩ := Prod.mk.inj (Except.ok.inj (hw'.symm.trans h1))
  obtain ⟨e, k, h3, h4⟩ := walk_append_ok h2
  rw [walk_still hbefore hdir] at h3
  obtain ⟨rfl, rfl⟩ := Prod.mk.inj (Except.ok.inj h3)
  cases s with
  | here => exact absurd rfl hne
  | up => exact absurd rfl hup
  | down name =>
    refine ⟨d' ++ [name], Tree.isUnder_child d' name, fun hn => ?_⟩
    rw [walk_eq, leg.eq_def] at h4
    simp only [hdir, hn, ne_eq, not_true_eq_false, if_false] at h4
    by_cases hlen : maxNameLength < name.length
    · simp only [if_pos hlen] at h4
      cases h4
    · simp only [if_neg hlen] at h4
      cases h4

/-- What leads to a directory names a directory, or a link to one. -/
theorem lstat_of_leadsTo {v : Volume} {p : Path} {d : Loc} (h : v.LeadsTo p d) :
    v.lstat p = .ok .dir ∨ ∃ target, v.lstat p = .ok (.link target) := by
  unfold lstat
  split
  · exact .inl (stat_dir_iff_leadsTo.mpr ⟨d, h⟩)
  · obtain ⟨g, hg, hdown⟩ := target_of_leadsTo h
    simp only [hg, bind, Except.bind]
    split
    · rename_i name hl
      rcases hdown name hl with he | ⟨target, he⟩ <;> rw [he]
      · exact .inl rfl
      · exact .inr ⟨target, rfl⟩
    · exact .inl rfl

/-- A path that names a directory leads to one, unless its last step stays or goes up. -/
theorem lstat_dir_cases {v : Volume} {p : Path} (h : v.lstat p = .ok .dir) : (∃ d, v.LeadsTo p d) ∨ steps p = [] ∨
    ∃ init last r, steps p = init ++ [last] ∧ (∀ name, last ≠ .down name) ∧ v.trail p init = .ok r ∧
      v.tree.get? r.1 = some .dir := by
  unfold lstat at h
  split at h
  · exact .inl (stat_dir_iff_leadsTo.mp h)
  · obtain ⟨g, hg, h⟩ := bind_ok h
    split at h
    · rename_i name hlast
      obtain ⟨init, hs, hw, hd, hlen⟩ := target_down hg hlast
      split at h
      · rename_i e he
        obtain rfl := Except.ok.inj h
        refine .inl ⟨g.dir ++ [name], leadsTo_iff.mpr ⟨(target_ok hg).1, ⟨g.links, ?_⟩, he⟩⟩
        rw [hs]
        exact trail_down hw hd hlen he fun _ e => by cases e
      · cases h
    · rename_i hdown
      rcases targetFrom_ok (target_ok hg).2 with ⟨hnil, _⟩ | ⟨init, last, hs, hw, hd, hlast, _⟩
      · exact .inr (.inl hnil)
      · exact .inr (.inr ⟨init, last, _, hs, fun name e => hdown name (by rw [hlast, e]), hw, hd⟩)

/-- A path that names a link: its last step is taken in a directory that is there. -/
theorem lstat_link {v : Volume} {p target : Path} (h : v.lstat p = .ok (.link target)) :
    ∃ init d left name, steps p = init ++ [.down name] ∧ v.trail p init = .ok (d, left) ∧
      v.tree.get? (d ++ [name]) = some (.link target) := by
  unfold lstat at h
  split at h
  · -- a separator at the end is a step that only a directory takes
    rename_i ho
    obtain ⟨d, hr, h⟩ := bind_ok h
    obtain ⟨_, left, hw⟩ := resolve_ok hr
    rw [allSteps, if_pos ho] at hw
    obtain ⟨d', left', _, h2⟩ := walk_append_ok hw
    obtain ⟨rfl, -⟩ := Prod.mk.inj (eq_of_walk_still (fun s hs => List.mem_singleton.mp hs) h2)
    rw [dir_of_walk_cons h2] at h
    cases h
  · obtain ⟨g, hg, h⟩ := bind_ok h
    split at h
    · rename_i name hl
      obtain ⟨init, hs, hw, -, -⟩ := target_down hg hl
      refine ⟨init, g.dir, g.links, name, hs, hw, ?_⟩
      split at h
      · rename_i e he
        rw [he, Except.ok.inj h]
      · cases h
    · cases h

end Volume

end BuildHarvest
