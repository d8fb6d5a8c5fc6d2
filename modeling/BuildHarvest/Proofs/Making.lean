/-
  BuildHarvest.Proofs.Making — what a directory that is made sure of costs the tree.

  Proved (`ensure_makes`), of every path in every tree, links anywhere:
  - Whatever comes of it, all entries are kept as they are, and what is new is a directory with
    nothing but directories under it.
  - Where it succeeds, the path leads to a directory, and to make sure of it once more is to do nothing.
  - A conflict is found on the way up, before anything is made: all is as it was, and what the
    conflict names is the path or one above it, and is there and no directory.
  - Without links, names that the system takes are made directories as far as they are missing, if
    nothing but directories stands on their way (`ensure_open`).
-/

import BuildHarvest.Proofs.Directory

namespace BuildHarvest

/-! ## Trees with more directories -/

namespace Tree

/-- All that a tree has, and directories where it has nothing. -/
def Furnishes (t t' : Tree) : Prop := ∀ l, t'.get? l = t.get? l ∨ t.get? l = none ∧ t'.get? l = some .dir

theorem Furnishes.refl (t : Tree) : Furnishes t t := fun _ => .inl rfl

theorem Furnishes.put {t t' : Tree} (h : Furnishes t t') {l : Loc} (hl : l ≠ []) (hn : t'.get? l = none) :
    Furnishes t (t'.put l .dir) := by
  intro m
  rw [get?_put _ _ _ hl]
  by_cases hm : m = l
  · subst hm
    rw [if_pos rfl]
    rcases h m with he | ⟨_, hd⟩
    · exact .inr ⟨by rw [← he, hn], rfl⟩
    · rw [hn] at hd
      cases hd
  · rw [if_neg hm]
    exact h m

theorem Furnishes.kept {t t' : Tree} (h : Furnishes t t') {l : Loc} {e : Entry} (he : t.get? l = some e) :
    t'.get? l = some e := by
  rcases h l with hk | ⟨hn, _⟩
  · rw [hk, he]
  · rw [he] at hn
    cases hn

theorem Furnishes.new {t t' : Tree} (h : Furnishes t t') {l : Loc} (hn : t.get? l = none) :
    t'.get? l = none ∨ t'.get? l = some .dir := by
  rcases h l with hk | ⟨_, hd⟩
  · exact .inl (by rw [hk, hn])
  · exact .inr hd

end Tree

/-! ## Paths of names -/

namespace Volume

/-- A path made of names alone that the system takes. -/
structure Ordinary (p : Path) : Prop where
  taken : check p = .ok ()
  descends : Descends (steps p)
  short : ∀ name, .down name ∈ steps p → name.length ≤ maxNameLength

/-- Nothing but directories stands on the way of a path. -/
def Open (v : Volume) (p : Path) : Prop := ∀ m ∈ stations v.cwd p, v.tree.get? m = none ∨ v.tree.get? m = some .dir

/-- What a path of names has above it is one as well, and the path is one name more. -/
theorem Ordinary.cases {p : Path} (h : Ordinary p) : steps p = [] ∨ ∃ q name, p.parent = some q ∧
    steps p = steps q ++ [.down name] ∧ name.length ≤ maxNameLength ∧ (q ≠ ⟨[]⟩ → Ordinary q ∧ q.isAbsolute = p.isAbsolute) := by
  -- no step stays, so nothing stands around a name
  have nothing {ss : List Step} (hs : Still ss) (hin : ∀ s ∈ ss, s ∈ steps p) : ss = [] := by
    refine List.eq_nil_iff_forall_not_mem.mpr fun s hm => ?_
    obtain ⟨name, hdown⟩ := h.descends s (hin s hm)
    rw [hs s hm] at hdown
    cases hdown
  rcases parent_cases p with ⟨_, hstill⟩ | ⟨q, before, s, after, hq, hsteps, _, hbefore, hafter, habs⟩
  · exact .inl (nothing hstill fun _ hs => hs)
  · obtain rfl := nothing hbefore fun s hs => by rw [hsteps]; simp [hs]
    obtain rfl := nothing hafter fun s hs => by rw [hsteps]; simp [hs]
    rw [List.append_nil] at hsteps
    obtain ⟨name, rfl⟩ := h.descends s (by rw [hsteps]; simp)
    have hin {s : Step} (hs : s ∈ steps q) : s ∈ steps p := by
      rw [hsteps]
      exact List.mem_append_left _ hs
    refine .inr ⟨q, name, hq, hsteps, h.short name (by rw [hsteps]; simp), fun hne => ⟨⟨?_, ?_, ?_⟩, habs hne⟩⟩
    · exact check_parent h.taken hq hne
    · exact fun s hs => h.descends s (hin hs)
    · exact fun name hn => h.short name (hin hn)

theorem origin_dir {v : Volume} (h : v.tree.get? v.cwd = some .dir) (p : Path) : v.tree.get? (origin p v.cwd) = some .dir := by
  unfold origin
  split
  · exact Tree.get?_root _
  · exact h

theorem Ordinary.leadsTo_origin {v : Volume} {p : Path} (h : Ordinary p) (hcwd : v.tree.get? v.cwd = some .dir)
    (hnil : steps p = []) : v.LeadsTo p (origin p v.cwd) := by
  refine leadsTo_iff.mpr ⟨h.taken, ⟨maxLinks, ?_⟩, origin_dir hcwd p⟩
  rw [hnil]
  exact walk_nil _ _ _

theorem Open.above {v : Volume} {p q : Path} {rest : List Step} (h : v.Open p) (hs : steps p = steps q ++ rest)
    (ha : q.isAbsolute = p.isAbsolute) : v.Open q := by
  intro m hm
  refine h m ?_
  rw [stations, hs, origin_congr ha]
  exact mem_stationsFrom_append.mpr (.inl hm)

/-- Where nothing stands in the way, a path leads to a directory, or something is missing. -/
theorem Ordinary.stat {v : Volume} {p : Path} (h : Ordinary p) (hcwd : v.tree.get? v.cwd = some .dir) (ho : v.Open p) :
    (∃ d, v.LeadsTo p d) ∨ v.stat p = .error .noEntry := by
  rcases leg_open h.descends (origin_dir hcwd p) ho with ⟨hleg, hd⟩ | ⟨hleg, _⟩ | ⟨_, name, hn, hlong⟩
  · refine .inl ⟨_, leadsTo_iff.mpr ⟨h.taken, ⟨maxLinks, ?_⟩, hd⟩⟩
    rw [trail, walk_eq, hleg]
  · refine .inr (stat_of_error h.taken ?_)
    rw [trail, walk_eq, hleg]
  · have := h.short name hn
    omega

end Volume

namespace Directory

open BuildHarvest.Action
open BuildHarvest.Tree (isUnder)
open BuildHarvest.Volume (Ordinary)

/-! ## What is made -/

theorem furnishes_ensure (p : Path) (w : World) : w.volume.tree.Furnishes ((ensure p).on w).2.volume.tree := by
  refine keeps_ensure (P := fun u => w.volume.tree.Furnishes u.volume.tree) (fun _ _ h => h) (fun q _ u v hu hm => ?_) w (.refl _)
  obtain ⟨d, _, hn, hne, rfl⟩ := Volume.mkdir_leadsTo hm
  exact hu.put hne hn

/-- A conflict comes up before anything is made. -/
theorem ensureFirst_conflict {ps : List Path} {q : Path} {w w' : World}
    (h : (ensureFirst ps).on w = (.error (.directoryConflict q), w')) :
    w' = w ∧ q ∈ ps ∧ ∃ e, w.volume.stat q = .ok e ∧ e ≠ .dir := by
  induction ps with
  | nil => cases (Prod.mk.inj h).1
  | cons p above ih =>
    rw [ensureFirst, on_bind, on_volume] at h
    simp only at h
    split at h
    · cases (Prod.mk.inj h).1
    · rename_i e hne hs
      obtain ⟨hq, rfl⟩ := Prod.mk.inj h
      obtain rfl := Failure.directoryConflict.inj (Except.error.inj hq)
      exact ⟨rfl, List.mem_cons_self, e, hs, fun he => hne (by rw [he])⟩
    · split at h
      · rcases on_bind_error h with ha | ⟨_, w₁, _, hm⟩
        · obtain ⟨hw, hq, he⟩ := ih ha
          exact ⟨hw, List.mem_cons_of_mem _ hq, he⟩
        · -- what cannot be made is no conflict
          rw [make_on] at hm
          split at hm
          · cases (Prod.mk.inj hm).1
          · split at hm <;> cases (Prod.mk.inj hm).1
      · cases (Prod.mk.inj h).1

/-! ## Where nothing is in the way -/

/-- A name in a directory that the way above it leads to is made one, unless something else is there. -/
theorem make_open {p : Path} {init : List Volume.Step} {d : Loc} {left : Nat} {name : Bytes} {w : World}
    (hs : Volume.steps p = init ++ [.down name]) (hw : w.volume.trail p init = .ok (d, left))
    (hd : w.volume.tree.get? d = some .dir) (hc : Volume.check p = .ok ()) (hlen : name.length ≤ Volume.maxNameLength)
    (he : w.volume.tree.get? (d ++ [name]) = none ∨ w.volume.tree.get? (d ++ [name]) = some .dir) :
    ∃ w', (make p).on w = (.ok (), w') := by
  rw [make_on, Volume.mkdir_of_trail hs hw hd hc hlen]
  rcases he with he | he
  · simp only [he, Option.isSome_none, Bool.false_eq_true, if_false]
    exact ⟨_, rfl⟩
  · have hdir : w.volume.isDir p = true := by
      refine Volume.isDir_iff.mpr (Volume.stat_dir_iff_leadsTo.mpr ⟨d ++ [name], Volume.leadsTo_iff.mpr ⟨hc, ⟨left, ?_⟩, he⟩⟩)
      rw [hs]
      exact Volume.trail_down hw hd hlen he fun _ e => by cases e
    simp only [he, hdir, Option.isSome_some, if_true, and_self]
    exact ⟨_, rfl⟩

/-- The way above a name once the directories on it have been made sure of: nothing else has come to be. -/
theorem ensureAbove_open {p q : Path} {w : World} (hl : w.volume.tree.LinkFree)
    (hcwd : w.volume.tree.get? w.volume.cwd = some .dir) (habs : q ≠ ⟨[]⟩ → q.isAbsolute = p.isAbsolute)
    (hq : q ≠ ⟨[]⟩ → ∃ w₁, (ensure q).on w = (.ok (), w₁)) :
    ∃ w₁ left, (ensureAbove (some q)).on w = (.ok (), w₁) ∧ w.volume.tree.Furnishes w₁.volume.tree ∧
      w₁.volume.trail p (Volume.steps q) = .ok (Volume.placeFrom (Volume.origin p w.volume.cwd) (Volume.steps q), left) ∧
      w₁.volume.tree.get? (Volume.placeFrom (Volume.origin p w.volume.cwd) (Volume.steps q)) = some .dir := by
  by_cases hempty : q = ⟨[]⟩
  · subst hempty
    exact ⟨w, Volume.maxLinks, rfl, .refl _, Volume.walk_nil _ _ _, Volume.origin_dir hcwd p⟩
  · obtain ⟨w₁, hon⟩ := hq hempty
    have horigin := Volume.origin_congr (habs hempty) w.volume.cwd
    have hadds := adds_ensure q w
    have hfurn := furnishes_ensure q w
    rw [hon] at hadds hfurn
    obtain ⟨d, hd⟩ := ensure_leadsTo hon
    obtain rfl : d = Volume.place w₁.volume.cwd q := Volume.resolve_linkFree (hadds.linkFree hl) hd.1
    obtain ⟨_, ⟨left, hw⟩, hdir⟩ := Volume.leadsTo_iff.mp hd
    rw [Volume.place, hadds.cwd, ← horigin] at hw hdir
    refine ⟨w₁, left, by rw [ensureAbove_some hempty, hon], hfurn, ?_, hdir⟩
    rw [← hw, Volume.trail, Volume.trail, hadds.cwd, horigin]

/-- Without links, a path of names is made a directory where nothing is in its way. -/
theorem ensure_open {p : Path} {w : World} (hp : Ordinary p) (hl : w.volume.tree.LinkFree)
    (hcwd : w.volume.tree.get? w.volume.cwd = some .dir) (ho : w.volume.Open p) : ∃ w', (ensure p).on w = (.ok (), w') := by
  generalize hn : p.octets.length = n
  induction n using Nat.strongRecOn generalizing p with
  | ind n ih =>
    rcases hp.stat hcwd ho with ⟨d, hd⟩ | hs
    · exact ⟨w, ensure_of_leadsTo hd⟩
    · rcases hp.cases with hnil | ⟨q, name, hq, hsteps, hlen, habove⟩
      · -- without steps it leads to where it begins
        have hd := hp.leadsTo_origin hcwd hnil
        exact ⟨w, ensure_of_leadsTo hd⟩
      · have hgiven (hne : q ≠ ⟨[]⟩) : ∃ w₁, (ensure q).on w = (.ok (), w₁) :=
          ih _ (hn ▸ Path.parent_shorter hne hq) (habove hne).1 (ho.above hsteps (habove hne).2) rfl
        obtain ⟨w₁, left, ha, hfurn, hw, hd⟩ := ensureAbove_open hl hcwd (fun hne => (habove hne).2) hgiven
        have hplace : Volume.place w.volume.cwd p =
            Volume.placeFrom (Volume.origin p w.volume.cwd) (Volume.steps q) ++ [name] := by
          rw [Volume.place, hsteps, Volume.placeFrom_append]
          rfl
        have hfree : w₁.volume.tree.get? (Volume.place w.volume.cwd p) = none ∨
            w₁.volume.tree.get? (Volume.place w.volume.cwd p) = some .dir := by
          rcases ho _ (Volume.place_mem_stations _ p) with h | h
          · exact hfurn.new h
          · exact .inr (hfurn.kept h)
        rw [hplace] at hfree
        rw [ensure_eq, on_bind, on_volume]
        simp only [hs]
        rw [if_pos (by decide), hq, on_bind, ha]
        exact make_open hsteps hw hd hp.taken hlen hfree

/-! ## The whole -/

/-- What comes of making sure of a directory, whatever the tree and the path. -/
theorem ensure_makes {p : Path} {w w' : World} {r : Except Failure Unit} (hr : w.volume.tree.Rooted)
    (h : (ensure p).on w = (r, w')) :
    (∀ l e, w.volume.tree.get? l = some e → w'.volume.tree.get? l = some e) ∧
    (∀ l, w.volume.tree.get? l = none → w'.volume.tree.get? l ≠ none → w'.volume.tree.get? l = some .dir ∧
      ∀ m, isUnder l m = true → w'.volume.tree.get? m = none ∨ w'.volume.tree.get? m = some .dir) ∧
    (r = .ok () → (∃ d, w'.volume.LeadsTo p d) ∧ (ensure p).on w' = (.ok (), w')) ∧
    (∀ q, r = .error (.directoryConflict q) → w' = w ∧ q ∈ p.lineage ∧ ∃ e, w.volume.stat q = .ok e ∧ e ≠ .dir) ∧
    (w.volume.tree.LinkFree → w.volume.tree.get? w.volume.cwd = some .dir → Ordinary p → w.volume.Open p → r = .ok () ∧
      ∀ l, (w.volume.tree.get? l = none ∧ w'.volume.tree.get? l ≠ none) ↔
        l ∈ Volume.stations w.volume.cwd p ∧ w.volume.tree.get? l = none) := by
  have hfurn := furnishes_ensure p w
  rw [h] at hfurn
  refine ⟨fun l e he => hfurn.kept he, fun l hn hnew => ?_, fun hok => ?_, fun q hq => ?_, fun hl hcwd hp ho => ?_⟩
  · refine ⟨(hfurn.new hn).resolve_left hnew, fun m hm => ?_⟩
    exact hfurn.new (Tree.rooted_absent hr hn hm)
  · subst hok
    obtain ⟨d, hd⟩ := ensure_leadsTo h
    exact ⟨⟨d, hd⟩, ensure_of_leadsTo hd⟩
  · subst hq
    exact ensureFirst_conflict h
  · obtain ⟨w'', hon⟩ := ensure_open hp hl hcwd ho
    obtain ⟨rfl, rfl⟩ := Prod.mk.inj (h.symm.trans hon)
    refine ⟨rfl, fun l => ⟨fun ⟨hn, hnew⟩ => ?_, fun ⟨hm, hn⟩ => ⟨hn, ?_⟩⟩⟩
    · have hway := ensure_linkFree p hl l
      rw [h] at hway
      rcases hway with hk | ⟨hm, _⟩
      · rw [hk, hn] at hnew
        exact absurd rfl hnew
      · exact ⟨hm, hn⟩
    · have hadds := adds_ensure p w
      rw [h] at hadds
      obtain ⟨d, hd⟩ := ensure_leadsTo h
      have := Volume.dirs_of_leadsTo (Volume.plain_of_linkFree (hadds.linkFree hl) p) hd (by rwa [hadds.cwd])
      rw [this]
      simp

/-- A world at rest and off the line, with some entries. -/
def worldOf (entries : List (Loc × Entry)) : World := ⟨⟨⟨entries, []⟩, []⟩, ⟨false, [], []⟩, []⟩

/-- A directory `lib`, and a file beside it. -/
def shelf : World := worldOf [([Utf8.encode "lib"], .dir), ([Utf8.encode "note"], .file [1])]

/-- Of `lib/a/b` the last two are made where `lib` is there. -/
theorem missing_directories_are_made : shelf.volume.tree.Rooted ∧ ∃ w', (ensure (.ofText "lib/a/b")).on shelf = (.ok (), w') ∧
    ∀ l, (shelf.volume.tree.get? l = none ∧ w'.volume.tree.get? l ≠ none) ↔
      l = [Utf8.encode "lib", Utf8.encode "a"] ∨ l = [Utf8.encode "lib", Utf8.encode "a", Utf8.encode "b"] := by
  have hr : shelf.volume.tree.Rooted := Tree.rooted_of_entries (by decide)
  have hsteps : Volume.steps (.ofText "lib/a/b") =
      [.down (Utf8.encode "lib"), .down (Utf8.encode "a"), .down (Utf8.encode "b")] := by decide
  have hp : Ordinary (.ofText "lib/a/b") := by
    refine ⟨rfl, ?_, ?_⟩
    · rw [hsteps]
      simp [Volume.Descends]
    · intro name hn
      rw [hsteps] at hn
      simp only [List.mem_cons, List.not_mem_nil, or_false, Volume.Step.down.injEq] at hn
      rcases hn with rfl | rfl | rfl <;> decide
  have hway : Volume.stations shelf.volume.cwd (.ofText "lib/a/b") = [[], [Utf8.encode "lib"],
      [Utf8.encode "lib", Utf8.encode "a"], [Utf8.encode "lib", Utf8.encode "a", Utf8.encode "b"]] := by decide
  have ho : shelf.volume.Open (.ofText "lib/a/b") := by
    unfold Volume.Open
    rw [hway]
    decide
  obtain ⟨-, -, -, -, hopen⟩ := ensure_makes hr (p := .ofText "lib/a/b") rfl
  obtain ⟨hok, hnew⟩ := hopen (Tree.linkFree_of_entries (by decide)) (by decide) hp ho
  refine ⟨hr, _, Prod.ext hok rfl, fun l => ?_⟩
  rw [hnew, hway]
  constructor
  · rintro ⟨hm, hn⟩
    rcases List.mem_cons.mp hm with rfl | hm
    · cases hn
    · rcases List.mem_cons.mp hm with rfl | hm
      · cases hn
      · simpa using hm
  · rintro (rfl | rfl) <;> exact ⟨by decide, by decide⟩

end Directory

end BuildHarvest
