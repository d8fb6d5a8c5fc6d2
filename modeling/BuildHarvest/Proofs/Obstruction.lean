/-
  BuildHarvest.Proofs.Obstruction — what stands where a directory is wanted.

  A path is obstructed by what it, or a path above it, names if that is there and leads to no
  directory (`Obstructs`): a file, or a link.

  Proved (`obstruction_refuses`), of every tree and every way to write the path:
  - Making sure of the directory, and renewing it, fails and leaves all as it was. So does clearing
    it, which may succeed.
  - Making sure of it ends in the conflict exactly if the system takes the path and the obstructing one
    leads somewhere. A separator or a `.` behind the name of a file leads nowhere, nor does a link
    whose target is missing: to make the directory there is refused then, and that is what is told.
  - Renewing it ends in the conflict only where the path itself is the obstructing one. Below a file
    the clearing fails before (`a_separator_hides_the_conflict`).
-/

import BuildHarvest.Proofs.Making

namespace BuildHarvest

namespace Volume

/-! ## Steps that lead to no directory -/

/-- Steps from a path's origin that lead to no directory. -/
def Blocks (v : Volume) (p : Path) (ss : List Step) : Prop := ∀ r, v.trail p ss = .ok r → v.tree.get? r.1 ≠ some .dir

/-- No step is taken behind such steps. -/
theorem Blocks.behind {v : Volume} {p : Path} {ss rest : List Step} (h : v.Blocks p ss) {r : Loc × Nat}
    (hw : v.trail p (ss ++ rest) = .ok r) : rest = [] ∧ v.tree.get? r.1 ≠ some .dir := by
  obtain ⟨d, left, h1, h2⟩ := walk_append_ok hw
  cases rest with
  | nil =>
    rw [walk_nil] at h2
    obtain rfl := Except.ok.inj h2
    exact ⟨rfl, h _ h1⟩
  | cons s rest => exact absurd (dir_of_walk_cons h2) (h _ h1)

theorem Blocks.append {v : Volume} {p : Path} {ss rest : List Step} (h : v.Blocks p ss) : v.Blocks p (ss ++ rest) :=
  fun _ hw => (h.behind hw).2

theorem Blocks.not_leadsTo {v : Volume} {p : Path} (h : v.Blocks p (steps p)) (d : Loc) : ¬ v.LeadsTo p d := by
  intro hd
  obtain ⟨_, ⟨left, hw⟩, hdir⟩ := leadsTo_iff.mp hd
  exact h _ hw hdir

theorem Blocks.stat_behind {v : Volume} {p : Path} {ss rest : List Step} {s : Step} (hs : steps p = ss ++ s :: rest)
    (h : v.Blocks p ss) : ∃ e, v.stat p = .error e := by
  cases he : v.stat p with
  | error e => exact ⟨e, rfl⟩
  | ok e =>
    obtain ⟨_, r, hw⟩ := trail_of_stat he
    rw [hs] at hw
    cases (h.behind hw).1

/-! ## What stands in the way -/

/-- The last name of a path is there and no directory, and leads to none. What stands behind the
name says nothing. -/
def Obstructs (v : Volume) (q : Path) : Prop := ∃ init name after d left e,
  steps q = init ++ .down name :: after ∧ Still after ∧ v.trail q init = .ok (d, left) ∧ v.tree.get? d = some .dir ∧
    v.tree.get? (d ++ [name]) = some e ∧ e ≠ .dir ∧ v.Blocks q (init ++ [.down name])

variable {v : Volume} {q : Path}

/-- A file at the last name of a path obstructs it. -/
theorem obstructs_file {init after : List Step} {name c : Bytes} {d : Loc} {left : Nat}
    (hs : steps q = init ++ .down name :: after) (hstill : Still after) (hw : v.trail q init = .ok (d, left))
    (hd : v.tree.get? d = some .dir) (he : v.tree.get? (d ++ [name]) = some (.file c)) : v.Obstructs q := by
  refine ⟨init, name, after, d, left, .file c, hs, hstill, hw, hd, he, by simp, fun r hr => ?_⟩
  obtain ⟨_, _, _, hlast⟩ := walk_append_ok hr
  rw [trail_down hw hd (length_of_walk_cons hlast) he fun _ e => by cases e] at hr
  rw [← Except.ok.inj hr, he]
  simp

theorem Obstructs.blocks (h : v.Obstructs q) : v.Blocks q (steps q) := by
  obtain ⟨init, name, after, d, left, e, hs, _, _, _, _, _, hblocks⟩ := h
  rw [hs, ← List.singleton_append, ← List.append_assoc]
  exact hblocks.append

theorem Obstructs.octets_ne_nil (h : v.Obstructs q) : q.octets ≠ [] := by
  obtain ⟨init, name, after, d, left, e, hs, _⟩ := h
  exact Volume.octets_ne_nil (s := .down name) (by rw [hs]; simp)

/-- No directory is made in place of it. -/
theorem Obstructs.mkdir (h : v.Obstructs q) (v' : Volume) : v.mkdir q ≠ .ok v' := by
  intro hm
  obtain ⟨init, name, after, d, left, e, hs, hstill, hw, _, he, _⟩ := h
  obtain ⟨init', d', left', name', hs', hw', _, _, hn, _, _⟩ := mkdir_ok hm
  obtain ⟨rfl, hname, -⟩ := eq_of_append_still (hs.symm.trans hs') hstill (t := []) (fun s hs => by cases hs) (by simp) (by simp)
  obtain rfl := Step.down.inj hname
  obtain ⟨rfl, -⟩ := Prod.mk.inj (Except.ok.inj (hw.symm.trans hw'))
  rw [he] at hn
  cases hn

/-- The path above it leads to a directory. -/
theorem Obstructs.above (h : v.Obstructs q) (hc : check q = .ok ()) {r : Path} (hr : q.parent = some r) (hne : r ≠ ⟨[]⟩) :
    ∃ d, v.LeadsTo r d := by
  obtain ⟨init, name, after, d, left, e, hs, hstill, hw, hd, _⟩ := h
  rcases parent_cases q with ⟨hnone, _⟩ | ⟨r', before, s, after', hr', hs', hsaid, hbefore, hafter, habs⟩
  · exact absurd (hnone r hr) hne
  · obtain rfl := Option.some.inj (hr.symm.trans hr')
    obtain ⟨rfl, -, -⟩ := eq_of_append_still (hs.symm.trans hs') hstill hafter (by simp) hsaid
    rw [trail_congr (habs hne)] at hw
    obtain ⟨d', left', h1, h2⟩ := walk_append_ok hw
    obtain ⟨rfl, rfl⟩ := Prod.mk.inj (eq_of_walk_still hbefore h2)
    exact ⟨d, leadsTo_iff.mpr ⟨check_parent hc hr hne, ⟨_, h1⟩, hd⟩⟩

theorem Obstructs.blocks_lineage {p : Path} (h : v.Obstructs q) (hq : q ∈ p.lineage) : v.Blocks p (steps q) := by
  obtain ⟨_, habs⟩ := steps_of_mem_lineage hq
  intro r hw
  rw [trail_congr habs] at hw
  exact h.blocks r hw

/-- Where the obstructing path leads somewhere, every path below it comes to what is there. -/
theorem Obstructs.reached {p : Path} (h : v.Obstructs q) (hq : q ∈ p.lineage) {e : Entry} (he : v.stat q = .ok e) :
    ∃ r, v.trail p (steps q) = .ok r ∧ v.tree.get? r.1 ≠ some .dir := by
  obtain ⟨_, habs⟩ := steps_of_mem_lineage hq
  obtain ⟨_, r, hw⟩ := trail_of_stat he
  rw [← trail_congr habs] at hw
  exact ⟨r, hw, h.blocks_lineage hq r hw⟩

/-- What is obstructed names no directory. -/
theorem Obstructs.lstat {p : Path} (h : v.Obstructs q) (hq : q ∈ p.lineage) : v.lstat p ≠ .ok .dir := by
  have hblocks : v.Blocks p (steps p) := by
    obtain ⟨⟨rest, hrest⟩, _⟩ := steps_of_mem_lineage hq
    rw [hrest]
    exact (h.blocks_lineage hq).append
  intro hl
  rcases lstat_dir_cases hl with ⟨d, hd⟩ | hnil | ⟨init, last, r, hs, hdown, hw, hd⟩
  · exact hblocks.not_leadsTo d hd
  · obtain ⟨⟨rest, hrest⟩, _⟩ := steps_of_mem_lineage hq
    obtain ⟨_, _, _, _, _, _, hsteps, _⟩ := h
    rw [hrest, hsteps] at hnil
    simp at hnil
  · cases last with
    | down name => exact hdown name rfl
    | here =>
      -- to stay is to take the steps before it, which end in a directory
      refine hblocks r ?_ hd
      rw [trail] at hw ⊢
      rw [hs, walk_append, hw]
      exact walk_still (fun s hs => List.mem_singleton.mp hs) hd
    | up =>
      rcases mem_lineage_cases hq with rfl | ⟨r, hr, hne, hqr⟩
      · obtain ⟨_, _, _, _, _, _, hsteps, hstill, _⟩ := h
        obtain ⟨-, hup, -⟩ := eq_of_append_still (hsteps.symm.trans hs) hstill (t := []) (fun s hs => by cases hs) (by simp)
          (by simp)
        cases hup
      · -- the steps of the obstructing path are all before it
        obtain ⟨s, rest, hbehind⟩ := steps_behind hr hne hqr
        have hinit : init = steps q ++ (s :: rest).dropLast := by
          rw [← List.dropLast_append_of_ne_nil (by simp), ← hbehind, hs, List.dropLast_concat]
        have hbefore : v.Blocks p init := by
          rw [hinit]
          exact (h.blocks_lineage hq).append
        exact hbefore _ hw hd

end Volume

namespace Directory

open BuildHarvest.Action

/-- An action fails, and the files are as they were. -/
def Refuses (a : Action Failure Unit) (w : World) (f : Failure) : Prop := ∃ w', a.on w = (.error f, w') ∧ w'.volume = w.volume

variable {p q : Path} {w : World}

/-! ## Making sure of an obstructed directory -/

theorem make_refused (h : ∀ v, w.volume.mkdir p ≠ .ok v) (hd : ∀ d, ¬ w.volume.LeadsTo p d) :
    ∃ e : Errno, Refuses (make p) w (.directoryCreation p e.reason) := by
  unfold Refuses
  rw [make_on]
  cases hm : w.volume.mkdir p with
  | ok v => exact absurd hm (h v)
  | error e =>
    have hdir : ¬ (e = .occupied ∧ w.volume.isDir p) := by
      rintro ⟨-, h⟩
      obtain ⟨d, h⟩ := Volume.stat_dir_iff_leadsTo.mp (Volume.isDir_iff.mp h)
      exact hd d h
    simp only [if_neg hdir]
    exact ⟨e, _, rfl, rfl⟩

/-- Where the obstructing path leads somewhere it is a conflict, else it cannot be made. -/
theorem ensure_self (h : w.volume.Obstructs q) :
    (∀ e, w.volume.stat q = .ok e → Refuses (ensure q) w (.directoryConflict q)) ∧
    ((∀ e, w.volume.stat q ≠ .ok e) → ∃ e : Errno, Refuses (ensure q) w (.directoryCreation q e.reason)) := by
  unfold Refuses
  rw [ensure_eq, on_bind, on_volume]
  simp only
  have hno := h.blocks.not_leadsTo
  cases hs : w.volume.stat q with
  | ok e =>
    refine ⟨fun _ _ => ?_, fun h => absurd rfl (h e)⟩
    cases e with
    | dir =>
      obtain ⟨d, hd⟩ := Volume.stat_dir_iff_leadsTo.mp hs
      exact absurd hd (hno d)
    | file c => exact ⟨w, rfl, rfl⟩
    | link t => exact ⟨w, rfl, rfl⟩
  | error e =>
    refine ⟨fun _ he => (by cases he), fun _ => ?_⟩
    simp only
    split
    · rename_i ha
      have hc : Volume.check q = .ok () :=
        Volume.check_of_stat h.octets_ne_nil hs (by cases e <;> cases ha <;> simp)
      -- the directories above it are there
      have habove : (ensureAbove q.parent).on w = (.ok (), w) := by
        cases hr : q.parent with
        | none => rfl
        | some r =>
          by_cases hne : r = ⟨[]⟩
          · subst hne
            rfl
          · obtain ⟨d, hd⟩ := h.above hc hr hne
            rw [ensureAbove_some hne, ensure_of_leadsTo hd]
      rw [on_bind, habove]
      exact make_refused h.mkdir hno
    · exact ⟨e, w, rfl, rfl⟩

/-- The same of every path below: it is found out on the way up. -/
theorem ensure_obstructed (hq : q ∈ p.lineage) (h : w.volume.Obstructs q) :
    (Volume.check p = .ok () → ∀ e, w.volume.stat q = .ok e → Refuses (ensure p) w (.directoryConflict q)) ∧
    (¬ (Volume.check p = .ok () ∧ ∃ e, w.volume.stat q = .ok e) →
      ∃ r ∈ p.lineage, ∃ e : Errno, Refuses (ensure p) w (.directoryCreation r e.reason)) := by
  generalize hn : p.octets.length = n
  induction n using Nat.strongRecOn generalizing p with
  | ind n ih =>
    rcases Volume.mem_lineage_cases hq with rfl | ⟨r, hr, hne, hqr⟩
    · obtain ⟨hthere, hnowhere⟩ := ensure_self h
      refine ⟨fun _ => hthere, fun hno => ?_⟩
      obtain ⟨e, he⟩ := hnowhere fun e he => hno ⟨(Volume.trail_of_stat he).1, e, he⟩
      exact ⟨q, hq, e, he⟩
    · obtain ⟨hconflict, hcreation⟩ := ih _ (hn ▸ Path.parent_shorter hne hr) hqr rfl
      obtain ⟨s, rest, hsteps⟩ := Volume.steps_behind hr hne hqr
      obtain ⟨e, hs⟩ := Volume.Blocks.stat_behind hsteps (h.blocks_lineage hq)
      unfold Refuses at *
      rw [ensure_eq, on_bind, on_volume, hr, ensureAbove_some hne]
      simp only [hs]
      by_cases ha : isAbsence e = true
      · have hne' : p.octets ≠ [] := Volume.octets_ne_nil (s := s) (by rw [hsteps]; simp)
        have hc : Volume.check p = .ok () := Volume.check_of_stat hne' hs (by cases e <;> cases ha <;> simp)
        have hcr := Volume.check_parent hc hr hne
        rw [if_pos ha, on_bind]
        refine ⟨fun _ e' he' => ?_, fun hno => ?_⟩
        · obtain ⟨w', hon, hv⟩ := hconflict hcr e' he'
          rw [hon]
          exact ⟨w', rfl, hv⟩
        · obtain ⟨r', hr', e', w', hon, hv⟩ := hcreation fun ⟨_, he⟩ => hno ⟨hc, he⟩
          rw [hon]
          refine ⟨r', ?_, e', w', rfl, hv⟩
          rw [Volume.lineage_of_parent hr hne]
          exact List.mem_cons_of_mem _ hr'
      · rw [if_neg ha]
        refine ⟨fun hc e' he' => ?_, fun _ => ⟨p, ?_, e, w, rfl, rfl⟩⟩
        · -- the system takes the path, and it ends at what is no directory
          obtain ⟨x, hx, hd⟩ := h.reached hq he'
          rw [Volume.stat_behind hx hd hsteps hc] at hs
          obtain rfl := Except.error.inj hs
          exact absurd rfl ha
        · rw [Volume.lineage_of_parent hr hne]
          exact List.mem_cons_self

theorem ensure_fails (hq : q ∈ p.lineage) (h : w.volume.Obstructs q) : ∃ f, Refuses (ensure p) w f ∧
    (f = .directoryConflict q ↔ Volume.check p = .ok () ∧ ∃ e, w.volume.stat q = .ok e) ∧
    (f = .directoryConflict q ∨ ∃ r ∈ p.lineage, ∃ e : Errno, f = .directoryCreation r e.reason) := by
  obtain ⟨hconflict, hcreation⟩ := ensure_obstructed hq h
  by_cases hthere : Volume.check p = .ok () ∧ ∃ e, w.volume.stat q = .ok e
  · obtain ⟨hc, e, he⟩ := hthere
    exact ⟨_, hconflict hc e he, ⟨fun _ => ⟨hc, e, he⟩, fun _ => rfl⟩, .inl rfl⟩
  · obtain ⟨r, hr, e, hrefuses⟩ := hcreation hthere
    exact ⟨_, hrefuses, ⟨fun hf => (by cases hf), fun hf => absurd hf hthere⟩, .inr ⟨r, hr, e, rfl⟩⟩

/-! ## Renewing an obstructed directory -/

/-- A path that leads to what is no directory names something. -/
theorem lstat_of_stat {e : Entry} (h : w.volume.Obstructs p) (hs : w.volume.stat p = .ok e) :
    ∃ e', w.volume.lstat p = .ok e' := by
  by_cases hopen : Volume.endsOpen p = true
  · exact ⟨e, by rw [Volume.lstat, if_pos hopen, hs]⟩
  · obtain ⟨hc, r, hw⟩ := Volume.trail_of_stat hs
    obtain ⟨init, name, after, d, left, e', hsteps, hstill, hinit, hd, he, _, hblocks⟩ := h
    have hw' := hw
    rw [hsteps, ← List.singleton_append, ← List.append_assoc] at hw'
    obtain ⟨rfl, _⟩ := hblocks.behind hw'
    rw [List.append_nil] at hw'
    obtain ⟨_, _, _, hlast⟩ := Volume.walk_append_ok hw'
    have hlen := Volume.length_of_walk_cons hlast
    refine ⟨e', ?_⟩
    rw [Volume.lstat_of_trail hsteps hinit hd hc (by simpa using hopen) hlen, he]

/-- Below what is there clearing fails, so where it does not the obstructing path is the path itself. -/
theorem eq_of_cleared (hq : q ∈ p.lineage) (h : w.volume.Obstructs q) (hc : Volume.check p = .ok ()) {e : Entry}
    (he : w.volume.stat q = .ok e) (hl : ∀ e, w.volume.lstat p = .error e → e = .noEntry) : q = p := by
  rcases Volume.mem_lineage_cases hq with rfl | ⟨r, hpr, hne, hqr⟩
  · rfl
  · exfalso
    obtain ⟨s, rest, hsteps⟩ := Volume.steps_behind hpr hne hqr
    obtain ⟨x, hx, hd⟩ := h.reached hq he
    cases hl _ (Volume.lstat_behind hx hd hsteps hc)

theorem renew_fails (hq : q ∈ p.lineage) (h : w.volume.Obstructs q) : ∃ f, Refuses (renew p) w f ∧
    (f = .directoryConflict q ↔ q = p ∧ ∃ e, w.volume.stat p = .ok e) ∧
    (f = .directoryConflict q ∨ (∃ r ∈ p.lineage, ∃ e : Errno, f = .directoryCreation r e.reason) ∨
      ∃ e : Errno, f = .directoryClear p e.reason) := by
  obtain ⟨r, w₁, hclear, hv₁, hr, hfails⟩ := clear_spared (h.lstat hq)
  unfold Refuses
  rw [renew, on_bind, hclear]
  cases r with
  | error f =>
    refine ⟨f, ⟨w₁, rfl, hv₁⟩, ?_, .inr (.inr (hfails f rfl))⟩
    obtain ⟨e, rfl⟩ := hfails f rfl
    refine ⟨fun hf => (by cases hf), ?_⟩
    rintro ⟨rfl, e', he'⟩
    -- what leads somewhere is named, so it has been left in place
    obtain ⟨e'', he''⟩ := lstat_of_stat h he'
    rw [he''] at hr
    have := hr.mpr fun _ hl => by cases hl
    cases this
  | ok _ =>
    obtain ⟨f, ⟨w', hon, hv'⟩, hiff, hkind⟩ := ensure_fails (w := w₁) hq (hv₁ ▸ h)
    rw [hv₁] at hiff
    refine ⟨f, ⟨w', hon, hv'.trans hv₁⟩, hiff.trans ⟨?_, ?_⟩, hkind.imp id .inl⟩
    · rintro ⟨hc, e, he⟩
      obtain rfl := eq_of_cleared hq h hc he (hr.mp rfl)
      exact ⟨rfl, e, he⟩
    · rintro ⟨rfl, e, he⟩
      exact ⟨(Volume.trail_of_stat he).1, e, he⟩

/-! ## The whole -/

/-- What an obstructed directory comes to when it is made sure of, cleared, and renewed. -/
theorem obstruction_refuses (hq : q ∈ p.lineage) (h : w.volume.Obstructs q) :
    (∃ f, Refuses (ensure p) w f ∧
      (f = .directoryConflict q ↔ Volume.check p = .ok () ∧ ∃ e, w.volume.stat q = .ok e) ∧
      (f = .directoryConflict q ∨ ∃ r ∈ p.lineage, ∃ e : Errno, f = .directoryCreation r e.reason)) ∧
    (∃ r w', (clear p).on w = (r, w') ∧ w'.volume = w.volume ∧
      (r = .ok () ↔ ∀ e, w.volume.lstat p = .error e → e = .noEntry)) ∧
    ∃ f, Refuses (renew p) w f ∧
      (f = .directoryConflict q ↔ q = p ∧ ∃ e, w.volume.stat p = .ok e) ∧
      (f = .directoryConflict q ∨ (∃ r ∈ p.lineage, ∃ e : Errno, f = .directoryCreation r e.reason) ∨
        ∃ e : Errno, f = .directoryClear p e.reason) := by
  obtain ⟨r, w₁, hclear, hv₁, hr, -⟩ := clear_spared (h.lstat hq)
  exact ⟨ensure_fails hq h, ⟨r, w₁, hclear, hv₁, hr⟩, renew_fails hq h⟩

/-- A file `lib`. -/
def blocked : World := worldOf [([Utf8.encode "lib"], .file [1])]

theorem blocked_obstructs (hs : Volume.steps q = [.down (Utf8.encode "lib")]) (ha : q.isAbsolute = false) :
    blocked.volume.Obstructs q := by
  have horigin : blocked.volume.trail q [] = .ok ([], Volume.maxLinks) := by
    rw [Volume.trail, Volume.origin, ha]
    rfl
  exact Volume.obstructs_file hs (fun s hs => by cases hs) horigin rfl rfl

/-- A file above a path is its conflict, but not once the path has been cleared. -/
theorem a_file_above_is_a_conflict : .ofText "lib" ∈ (Path.ofText "lib/a").lineage ∧ blocked.volume.Obstructs (.ofText "lib") ∧
    Refuses (ensure (.ofText "lib/a")) blocked (.directoryConflict (.ofText "lib")) ∧
    ∃ f, Refuses (renew (.ofText "lib/a")) blocked f ∧ f ≠ .directoryConflict (.ofText "lib") := by
  have hq : .ofText "lib" ∈ (Path.ofText "lib/a").lineage := by decide
  have h : blocked.volume.Obstructs (.ofText "lib") := blocked_obstructs (by decide) rfl
  obtain ⟨⟨f, hf, hiff, -⟩, -, f', hf', hiff', -⟩ := obstruction_refuses hq h
  refine ⟨hq, h, ?_, f', hf', fun he => ?_⟩
  · rwa [hiff.mpr ⟨rfl, .file [1], by rfl⟩] at hf
  · exact absurd (hiff'.mp he).1 (by decide)

/-- With a separator behind it, a file in place of the directory itself is no conflict any more. -/
theorem a_separator_hides_the_conflict : blocked.volume.Obstructs (.ofText "lib/") ∧
    (ensure (.ofText "lib")).failure? blocked = some (.directoryConflict (.ofText "lib")) ∧
    (ensure (.ofText "lib/")).failure? blocked = some (.directoryCreation (.ofText "lib/") "File exists (os error 17)") ∧
    (clear (.ofText "lib/")).failure? blocked = some (.directoryClear (.ofText "lib/") "Not a directory (os error 20)") := by
  exact ⟨blocked_obstructs (by decide) rfl, by decide +kernel, by decide +kernel, by decide +kernel⟩

end Directory

end BuildHarvest
