/-
  BuildHarvest.Proofs.Directory — what making and emptying directories comes to.

  Proved:
  - `adds_ensure`: making directories only adds; without links it adds directories alone, and
    only on the way of the path (`ensure_linkFree`).
  - `ensure_ok`: a directory that has been made sure of was there and nothing has changed, or it
    is new. That needs every `..` of the path to be taken where something is (`Straight`): else
    making the directories before a `..` opens the way to a directory that was there all along.
  - `renew_link`: a link to a directory is left as it is, with all that the directory holds.
  - `renew_empty`: any other path leads to an empty directory then, and what lay where it led is gone.
  - `renew_name_error`: a name in a directory that is there is renewed, or nothing has changed.
-/

import BuildHarvest.Directory
import BuildHarvest.Proofs.Action
import BuildHarvest.Proofs.Removal

namespace BuildHarvest.Directory

open BuildHarvest.Action
open BuildHarvest.Tree (isUnder)

/-! ## Making a directory -/

theorem make_on (p : Path) (w : World) : (make p).on w =
    match w.volume.mkdir p with
    | .ok v => (.ok (), { w.note (.creatingDirectory p) with volume := v })
    | .error e =>
      if e = .occupied ∧ w.volume.isDir p then (.ok (), w.note (.creatingDirectory p))
      else (.error (.directoryCreation p e.reason), w.note (.creatingDirectory p)) := by
  have hv : (w.note (.creatingDirectory p)).volume = w.volume := rfl
  unfold make
  rw [on_bind, on_tell]
  simp only [on_bind, on_volume, hv]
  rcases w.volume.mkdir p with e | v
  · simp only
    split <;> rfl
  · rfl

theorem make_ok {p : Path} {w w' : World} (h : (make p).on w = (.ok (), w')) :
    w.volume.mkdir p = .ok w'.volume ∨ (∃ d, w.volume.LeadsTo p d) ∧ w'.volume = w.volume := by
  rw [make_on] at h
  split at h
  · rename_i v hv
    obtain ⟨-, rfl⟩ := Prod.mk.inj h
    exact .inl hv
  · split at h
    · rename_i hd
      obtain ⟨-, rfl⟩ := Prod.mk.inj h
      exact .inr ⟨Volume.stat_dir_iff_leadsTo.mp (Volume.isDir_iff.mp hd.2), rfl⟩
    · cases (Prod.mk.inj h).1

section Keeping

variable {P : World → Prop} (note : ∀ w n, P w → P (w.note n))

include note

theorem keeps_make {p : Path} (mkdir : ∀ w v, P w → w.volume.mkdir p = .ok v → P { w with volume := v }) : Keeps P (make p) := by
  intro w h
  rw [make_on]
  split
  · rename_i v hv
    exact mkdir (w.note (.creatingDirectory p)) v (note w _ h) hv
  · split <;> exact note w _ h

theorem keeps_ensureFirst {ps : List Path}
    (mkdir : ∀ p ∈ ps, ∀ w v, P w → w.volume.mkdir p = .ok v → P { w with volume := v }) : Keeps P (ensureFirst ps) := by
  induction ps with
  | nil => exact keeps_pure ()
  | cons p above ih =>
    have hp := keeps_make note (mkdir p List.mem_cons_self)
    have ha := ih (fun q hq => mkdir q (List.mem_cons_of_mem _ hq))
    refine keeps_bind (fun w h => h) fun v => ?_
    split
    · exact keeps_pure ()
    · exact keeps_throw _
    · split
      · exact keeps_bind ha fun _ => hp
      · exact keeps_throw _

theorem keeps_ensure {p : Path} (mkdir : ∀ q ∈ p.lineage, ∀ w v, P w → w.volume.mkdir q = .ok v → P { w with volume := v }) :
    Keeps P (ensure p) := keeps_ensureFirst note mkdir

theorem keeps_clear {p : Path} (remove : ∀ w r v, P w → w.volume.removeAll p = (r, v) → P { w with volume := v }) :
    Keeps P (clear p) := by
  refine keeps_bind (fun w h => h) fun v => ?_
  split
  · exact keeps_pure ()
  · exact keeps_throw _
  · refine keeps_bind (keeps_tell note _) fun _ w h => ?_
    rw [on_attemptPartly]
    exact remove w _ _ h rfl
  · exact keeps_tell note _

end Keeping

theorem adds_ensure (p : Path) (w : World) : w.volume.Adds ((ensure p).on w).2.volume :=
  keeps_ensure (P := fun u => w.volume.Adds u.volume) (fun _ _ h => h) (fun _ _ _ _ h hm => h.trans (Volume.adds_mkdir hm)) w
    (.refl _)

/-! ## Making sure of a directory -/

/-- Makes sure of the directory above a path, where its text names one. -/
def ensureAbove : Option Path → Action Failure Unit
  | some q => if q.isEmpty then return () else ensure q
  | none => return ()

theorem ensure_eq (p : Path) : ensure p = (do
    match (← volume).stat p with
    | .ok .dir => return ()
    | .ok _ => throw (.directoryConflict p)
    | .error e =>
      if isAbsence e then
        ensureAbove p.parent
        make p
      else throw (.directoryCreation p e.reason)) := by
  rw [ensure, Path.lineage_eq, ensureFirst]
  cases p.parent with
  | none => rfl
  | some q =>
    simp only [ensureAbove]
    cases q.isEmpty <;> rfl

theorem ensureAbove_some {q : Path} (hq : q ≠ ⟨[]⟩) : ensureAbove (some q) = ensure q := by
  rw [ensureAbove, if_neg]
  intro he
  exact hq (congrArg Path.mk (List.isEmpty_iff.mp he))

theorem ensureAbove_cases {q? : Option Path} {w w' : World} (h : (ensureAbove q?).on w = (.ok (), w')) :
    w' = w ∧ (∀ q, q? = some q → q = ⟨[]⟩) ∨ ∃ q, q? = some q ∧ q ≠ ⟨[]⟩ ∧ (ensure q).on w = (.ok (), w') := by
  cases q? with
  | none => exact .inl ⟨(Prod.mk.inj h).2.symm, fun q e => by cases e⟩
  | some q =>
    by_cases hq : q = ⟨[]⟩
    · subst hq
      exact .inl ⟨(Prod.mk.inj h).2.symm, fun q e => (Option.some.inj e).symm⟩
    · rw [ensureAbove_some hq] at h
      exact .inr ⟨q, rfl, hq, h⟩

/-- A directory made sure of: it was there, or it is made once those above it are there. -/
theorem ensure_cases {p : Path} {w w' : World} (h : (ensure p).on w = (.ok (), w')) :
    (∃ d, w.volume.LeadsTo p d) ∧ w' = w ∨
      (∀ d, ¬ w.volume.LeadsTo p d) ∧ ∃ w₁, (ensureAbove p.parent).on w = (.ok (), w₁) ∧ (make p).on w₁ = (.ok (), w') := by
  rw [ensure_eq, on_bind, on_volume] at h
  simp only at h
  split at h
  · rename_i hs
    exact .inl ⟨Volume.stat_dir_iff_leadsTo.mp hs, (Prod.mk.inj h).2.symm⟩
  · cases (Prod.mk.inj h).1
  · rename_i e he
    refine .inr ⟨fun d hd => ?_, ?_⟩
    · rw [Volume.stat_dir_iff_leadsTo.mpr ⟨d, hd⟩] at he
      cases he
    · split at h
      · obtain ⟨_, w₁, ha, hm⟩ := on_bind_ok h
        exact ⟨w₁, ha, hm⟩
      · cases (Prod.mk.inj h).1

theorem ensure_leadsTo {p : Path} {w w' : World} (h : (ensure p).on w = (.ok (), w')) : ∃ d, w'.volume.LeadsTo p d := by
  rcases ensure_cases h with ⟨hd, rfl⟩ | ⟨_, w₁, _, hm⟩
  · exact hd
  · rcases make_ok hm with hm | ⟨hd, hw⟩
    · obtain ⟨d, hd, _⟩ := Volume.mkdir_leadsTo hm
      exact ⟨d, hd⟩
    · rwa [hw]

theorem adds_ensureAbove {q? : Option Path} {w w' : World} (h : (ensureAbove q?).on w = (.ok (), w')) :
    w.volume.Adds w'.volume := by
  rcases ensureAbove_cases h with ⟨rfl, _⟩ | ⟨q, _, _, hq⟩
  · exact .refl _
  · have := adds_ensure q w
    rwa [hq] at this

/-- A directory that has been made sure of was there, and nothing has changed, or is new. -/
theorem ensure_ok {p : Path} {w w' : World} (hr : w.volume.tree.Rooted) (hs : w.volume.Straight p)
    (h : (ensure p).on w = (.ok (), w')) :
    (∃ d, w.volume.LeadsTo p d) ∧ w'.volume = w.volume ∨ ∃ u, w.volume.Adds u ∧ u.mkdir p = .ok w'.volume := by
  generalize hn : p.octets.length = n
  induction n using Nat.strongRecOn generalizing p w' with
  | ind n ih =>
    rcases ensure_cases h with ⟨hd, rfl⟩ | ⟨hno, w₁, ha, hm⟩
    · exact .inl ⟨hd, rfl⟩
    · have hadds := adds_ensureAbove ha
      rcases make_ok hm with hm | ⟨⟨d, hd⟩, hw⟩
      · exact .inr ⟨w₁.volume, hadds, hm⟩
      · -- the path leads to a directory since those above it were made: none of them leads there
        exfalso
        rcases ensureAbove_cases ha with ⟨rfl, _⟩ | ⟨q, hq, hne, hq'⟩
        · exact hno d hd
        · rcases Volume.parent_cases p with ⟨hnone, _⟩ | ⟨q', before, s, after, hq'', hsteps, hsne, hbefore, _, habs⟩
          · exact hne (hnone q hq)
          · obtain rfl := Option.some.inj (hq.symm.trans hq'')
            obtain ⟨hsq, hup⟩ := hs.above hsteps (habs hne)
            rcases ih _ (hn ▸ Path.parent_shorter hne hq) hsq hq' rfl with ⟨_, hv⟩ | ⟨u, hu, hmk⟩
            · rw [hv] at hd
              exact hno d hd
            · obtain ⟨d', hd', _⟩ := Volume.mkdir_leadsTo hmk
              have hsup : s ≠ .up := fun e => by
                obtain ⟨r, hr⟩ := hup e
                exact Volume.not_trail_of_mkdir hmk r (hu.trail hr)
              obtain ⟨l, hl, hsome⟩ := Volume.under_of_leadsTo hsteps (habs hne) hbefore hd hd' hsne hsup
              exact hsome (Volume.mkdir_bare (hu.rooted hr) hmk hd' hl)

/-- Without links only directories are added, and only on the way of the path. -/
theorem ensure_linkFree (p : Path) {w : World} (hl : w.volume.tree.LinkFree) (l : Loc) :
    ((ensure p).on w).2.volume.tree.get? l = w.volume.tree.get? l ∨
      l ∈ Volume.stations w.volume.cwd p ∧ w.volume.tree.get? l = none ∧
        ((ensure p).on w).2.volume.tree.get? l = some .dir := by
  refine (keeps_ensure (P := fun u => w.volume.Adds u.volume ∧ (u.volume.tree.get? l = w.volume.tree.get? l ∨
    l ∈ Volume.stations w.volume.cwd p ∧ w.volume.tree.get? l = none ∧ u.volume.tree.get? l = some .dir))
    (fun _ _ h => h) (fun q hq u v hu hm => ⟨hu.1.trans (Volume.adds_mkdir hm), ?_⟩) w ⟨.refl _, .inl rfl⟩).2
  obtain ⟨hn, hne, rfl⟩ := Volume.mkdir_linkFree (hu.1.linkFree hl) hm
  simp only
  rw [Tree.get?_put _ _ _ hne]
  split
  · rename_i he
    subst he
    refine .inr ⟨?_, hu.1.grows.absent hn, rfl⟩
    rw [hu.1.cwd]
    exact Volume.place_mem_stations_of_lineage hq _
  · exact hu.2

/-- A directory that is there has been made sure of. -/
theorem ensure_of_leadsTo {p : Path} {w : World} {d : Loc} (h : w.volume.LeadsTo p d) : (ensure p).on w = (.ok (), w) := by
  rw [ensure_eq, on_bind, on_volume]
  simp only [Volume.stat_dir_iff_leadsTo.mpr ⟨d, h⟩]
  rfl

section Child

variable {p : Path} {name : Bytes} {d : Loc} {w : World} (hn : Path.IsName name) (hd : w.volume.LeadsTo p d)

include hn hd

theorem ensureAbove_name (hc : Volume.check (p.join ⟨name⟩) = .ok ()) :
    (ensureAbove (p.join ⟨name⟩).parent).on w = (.ok (), w) := by
  cases hq : (p.join ⟨name⟩).parent with
  | none => rfl
  | some q =>
    rw [ensureAbove]
    split
    · rfl
    · rename_i hempty
      have hne : q ≠ ⟨[]⟩ := fun e => hempty (by rw [e]; rfl)
      exact ensure_of_leadsTo (Volume.leadsTo_parent_name hn hd hc hq hne)

/-- A name in a directory is made a directory, or nothing has changed. -/
theorem ensure_name_error {e : Failure} {w' : World} (h : (ensure (p.join ⟨name⟩)).on w = (.error e, w')) :
    w'.volume = w.volume := by
  rw [ensure_eq, on_bind, on_volume] at h
  simp only at h
  split at h
  · cases (Prod.mk.inj h).1
  · obtain ⟨-, rfl⟩ := Prod.mk.inj h
    rfl
  · rename_i errno hs
    split at h
    · rename_i ha
      have hc := Volume.check_of_stat (Volume.octets_join_name_ne_nil p hn) hs (by cases errno <;> cases ha <;> simp)
      rw [on_bind, ensureAbove_name hn hd hc] at h
      simp only at h
      rw [make_on] at h
      split at h
      · cases (Prod.mk.inj h).1
      · split at h
        · cases (Prod.mk.inj h).1
        · obtain ⟨-, rfl⟩ := Prod.mk.inj h
          rfl
    · obtain ⟨-, rfl⟩ := Prod.mk.inj h
      rfl

/-- Where something is at a name already, making sure of a directory there changes nothing. -/
theorem ensure_name_there (he : w.volume.tree.get? (d ++ [name]) ≠ none) :
    ((ensure (p.join ⟨name⟩)).on w).2.volume = w.volume := by
  rcases hon : (ensure (p.join ⟨name⟩)).on w with ⟨e | _, w'⟩
  · exact ensure_name_error hn hd hon
  · rcases ensure_cases hon with ⟨_, rfl⟩ | ⟨_, w₁, ha, hm⟩
    · rfl
    · have hc : Volume.check (p.join ⟨name⟩) = .ok () := by
        rcases make_ok hm with hm | ⟨⟨_, hlead⟩, _⟩
        · obtain ⟨_, _, _, _, _, _, _, _, _, hc, _⟩ := Volume.mkdir_ok hm
          exact hc
        · exact (Volume.leadsTo_iff.mp hlead).1
      rw [ensureAbove_name hn hd hc] at ha
      obtain ⟨-, rfl⟩ := Prod.mk.inj ha
      rcases make_ok hm with hm | ⟨_, hv⟩
      · exact absurd (Volume.mkdir_name_ok hn hd hm) he
      · exact hv

/-- A name that the system takes, and where nothing is, is made a directory. -/
theorem ensure_name_absent (hc : Volume.check (p.join ⟨name⟩) = .ok ()) (hlen : name.length ≤ Volume.maxNameLength)
    (he : w.volume.tree.get? (d ++ [name]) = none) : ((ensure (p.join ⟨name⟩)).on w).1 = .ok () := by
  have hstat := Volume.stat_name_absent hn hd hc hlen he
  have hmake := Volume.mkdir_name hn hd hc hlen he
  rw [ensure_eq, on_bind, on_volume]
  simp only [hstat]
  rw [if_pos (by decide), on_bind, ensureAbove_name hn hd hc]
  simp only
  rw [make_on, hmake]

end Child

/-! ## Emptying a directory -/

/-- A clearing that succeeded: it found nothing, removed a directory, or left what is none. -/
theorem clear_ok {p : Path} {w w' : World} (h : (clear p).on w = (.ok (), w')) :
    w.volume.lstat p = .error .noEntry ∧ w'.volume = w.volume ∨
      w.volume.lstat p = .ok .dir ∧ w.volume.removeAll p = (.ok (), w'.volume) ∨
      ∃ e, w.volume.lstat p = .ok e ∧ e ≠ .dir ∧ w'.volume = w.volume := by
  rw [clear, on_bind, on_volume] at h
  simp only at h
  split at h
  · rename_i hl
    obtain ⟨-, rfl⟩ := Prod.mk.inj h
    exact .inl ⟨hl, rfl⟩
  · cases (Prod.mk.inj h).1
  · rename_i hl
    refine .inr (.inl ⟨hl, ?_⟩)
    rw [on_bind, on_tell] at h
    simp only [on_attemptPartly] at h
    obtain ⟨hr, rfl⟩ := Prod.mk.inj h
    rcases hrm : w.volume.removeAll p with ⟨r, v⟩
    simp only [World.note, hrm] at hr ⊢
    cases r with
    | error e => cases hr
    | ok _ => rfl
  · rename_i e hne hl
    obtain ⟨-, rfl⟩ := Prod.mk.inj h
    exact .inr (.inr ⟨e, hl, fun he => hne (by rw [he]), rfl⟩)

/-- A clearing that failed has changed nothing, or it failed to remove a directory. -/
theorem clear_error {p : Path} {w w' : World} {e : Failure} (h : (clear p).on w = (.error e, w')) :
    w'.volume = w.volume ∨ w.volume.lstat p = .ok .dir ∧ (w.volume.removeAll p).1 ≠ .ok () := by
  rw [clear, on_bind, on_volume] at h
  simp only at h
  split at h
  · cases (Prod.mk.inj h).1
  · obtain ⟨-, rfl⟩ := Prod.mk.inj h
    exact .inl rfl
  · rename_i hl
    refine .inr ⟨hl, fun hr => ?_⟩
    rw [on_bind, on_tell] at h
    simp only [on_attemptPartly, World.note, hr] at h
    cases (Prod.mk.inj h).1
  · cases (Prod.mk.inj h).1

/-- What is no directory is not cleared: it is left, or the clearing fails. -/
theorem clear_spared {p : Path} {w : World} (h : w.volume.lstat p ≠ .ok .dir) : ∃ r w', (clear p).on w = (r, w') ∧ w'.volume = w.volume ∧
    (r = .ok () ↔ ∀ e, w.volume.lstat p = .error e → e = .noEntry) ∧
    ∀ f, r = .error f → ∃ e : Errno, f = .directoryClear p e.reason := by
  rw [clear, on_bind, on_volume]
  simp only
  cases hl : w.volume.lstat p with
  | ok e =>
    refine ⟨.ok (), w.note (.leavingInPlace p), ?_, rfl, by simp, by simp⟩
    cases e with
    | dir => exact absurd hl h
    | file c => rfl
    | link t => rfl
  | error e =>
    by_cases he : e = .noEntry
    · subst he
      exact ⟨.ok (), w, rfl, rfl, by simp, by simp⟩
    · refine ⟨.error (.directoryClear p e.reason), w, ?_, rfl, by simp [he], fun f hf => ⟨e, (Except.error.inj hf).symm⟩⟩
      cases e with
      | noEntry => exact absurd rfl he
      | _ => rfl

/-- A path names a link. -/
def NamesLink (v : Volume) (p : Path) : Prop := ∃ target, v.lstat p = .ok (.link target)

theorem not_namesLink {v : Volume} (h : v.tree.LinkFree) (p : Path) : ¬ NamesLink v p := by
  rintro ⟨target, ht⟩
  obtain ⟨_, _, _, _, _, _, hlink⟩ := Volume.lstat_link ht
  exact h _ _ hlink

/-- What is no link leads to no directory once it has been cleared. -/
theorem not_leadsTo_of_clear {p : Path} {w w' : World} (hl : ¬ NamesLink w.volume p) (h : (clear p).on w = (.ok (), w'))
    (d : Loc) : ¬ w'.volume.LeadsTo p d := by
  intro hd
  rcases clear_ok h with ⟨hn, hv⟩ | ⟨_, hrm⟩ | ⟨e, he, hne, hv⟩
  · rw [hv] at hd
    rcases Volume.lstat_of_leadsTo hd with h | ⟨_, h⟩ <;> rw [hn] at h <;> cases h
  · obtain ⟨_, _, _, hno⟩ := Volume.removeAll_ok hrm
    exact hno d hd
  · rw [hv] at hd
    rcases Volume.lstat_of_leadsTo hd with h | ⟨target, h⟩
    · exact hne (Except.ok.inj (he.symm.trans h))
    · exact hl ⟨target, h⟩

/-- What lay under a path that is no link is gone once it has been cleared. -/
theorem gone_of_clear {p : Path} {w w' : World} (hr : w.volume.tree.Rooted) (hl : ¬ NamesLink w.volume p)
    (h : (clear p).on w = (.ok (), w')) {d l : Loc} (hd : w.volume.resolve p = .ok d) (hu : isUnder d l = true) :
    w'.volume.tree.get? l = none := by
  have kept (hv : w'.volume = w.volume) : w'.volume.tree.get? l = none := by
    have hno := not_leadsTo_of_clear hl h d
    rw [hv] at hno ⊢
    exact Tree.rooted_under hr (fun hdir => hno ⟨hd, hdir⟩) hu
  rcases clear_ok h with ⟨_, hv⟩ | ⟨_, hrm⟩ | ⟨_, _, _, hv⟩
  · exact kept hv
  · obtain ⟨d', hd', hempty, _⟩ := Volume.removeAll_ok hrm
    obtain rfl := Except.ok.inj (hd.symm.trans hd')
    exact hempty.under l hu
  · exact kept hv

/-- Whatever comes of a clearing, what is not where the path leads or under it is as it was. -/
theorem clear_frame (p : Path) (w : World) : ((clear p).on w).2.volume = w.volume ∨
    ∃ d, w.volume.resolve p = .ok d ∧ w.volume.Empties d ((clear p).on w).2.volume := by
  rw [clear, on_bind, on_volume]
  simp only
  split
  · exact .inl rfl
  · exact .inl rfl
  · rw [on_bind, on_tell]
    simp only [on_attemptPartly]
    exact Volume.removeAll_empties rfl
  · exact .inl rfl

section Child

variable {p : Path} {name : Bytes} {d : Loc} {w : World} (hn : Path.IsName name) (hd : w.volume.LeadsTo p d)

include hn hd

theorem clear_name_refused {e : Errno} (h : Volume.refusal? p name = some e) :
    (clear (p.join ⟨name⟩)).on w = (.error (.directoryClear (p.join ⟨name⟩) e.reason), w) := by
  have hlstat : w.volume.lstat (p.join ⟨name⟩) = .error e := by rw [Volume.lstat_name hn hd, h]
  rw [clear, on_bind, on_volume]
  simp only [hlstat]
  split
  · rename_i he
    obtain rfl := Except.error.inj he
    exact absurd h (Volume.refusal?_ne hn)
  · rename_i he
    obtain rfl := Except.error.inj he
    rfl
  · rename_i he
    cases he
  · rename_i he
    cases he

theorem clear_name_link {target : Path} (he : w.volume.tree.get? (d ++ [name]) = some (.link target)) :
    ((clear (p.join ⟨name⟩)).on w).2.volume = w.volume := by
  have hlstat := Volume.lstat_name hn hd
  rw [he] at hlstat
  rw [clear, on_bind, on_volume]
  simp only [hlstat]
  cases Volume.refusal? p name with
  | none => rfl
  | some e => cases e <;> rfl

/-- Nothing lies under a name that is no link once it has been cleared. -/
theorem bare_of_clear_name (hr : w.volume.tree.Rooted) (hlink : ∀ target, w.volume.tree.get? (d ++ [name]) ≠ some (.link target))
    {w' : World} (h : (clear (p.join ⟨name⟩)).on w = (.ok (), w')) {l : Loc} (hu : isUnder (d ++ [name]) l = true) :
    w'.volume.tree.get? l = none := by
  have hrf : Volume.refusal? p name = none := by
    cases hrf : Volume.refusal? p name with
    | none => rfl
    | some e =>
      rw [clear_name_refused hn hd hrf] at h
      cases (Prod.mk.inj h).1
  have hno : ¬ NamesLink w.volume (p.join ⟨name⟩) := by
    rintro ⟨target, hl⟩
    rw [Volume.lstat_name hn hd, hrf] at hl
    simp only at hl
    split at hl
    · rename_i e he
      rw [Except.ok.inj hl] at he
      exact hlink target he
    · cases hl
  by_cases hdir : w.volume.tree.get? (d ++ [name]) = some .dir
  · obtain ⟨hc, hlen⟩ := Volume.refusal?_eq_none.mp hrf
    exact gone_of_clear hr hno h (Volume.leadsTo_name hn hd hc hlen hdir).1 hu
  · have hnone := Tree.rooted_under hr hdir hu
    have hframe := clear_frame (p.join ⟨name⟩) w
    rw [h] at hframe
    rcases hframe with hv | ⟨_, _, hempty⟩
    · rw [hv, hnone]
    · exact hempty.shrinks.absent hnone

/-- A name beside the way to it, where nothing or a directory is, is cleared if the system takes it. -/
theorem clear_name (h : Volume.refusal? p name = none) (hr : w.volume.tree.Rooted) (hp : w.volume.Plain p)
    (hway : ∀ m ∈ Volume.stations w.volume.cwd p, ¬ d ++ [name] <+: m)
    (he : w.volume.tree.get? (d ++ [name]) = none ∨ w.volume.tree.get? (d ++ [name]) = some .dir) :
    ∃ w', (clear (p.join ⟨name⟩)).on w = (.ok (), w') ∧ w'.network = w.network ∧
      w.volume.Empties (d ++ [name]) w'.volume ∧ w'.volume.tree.get? (d ++ [name]) = none := by
  rcases he with he | he
  · have hlstat : w.volume.lstat (p.join ⟨name⟩) = .error .noEntry := by simp only [Volume.lstat_name hn hd, h, he]
    refine ⟨w, ?_, rfl, Volume.empties_absent hr he, he⟩
    rw [clear, on_bind, on_volume]
    simp only [hlstat]
    rfl
  · have hlstat : w.volume.lstat (p.join ⟨name⟩) = .ok .dir := by simp only [Volume.lstat_name hn hd, h, he]
    obtain ⟨v', hok, hempties, _, hnone⟩ := Volume.removeAll_name hn hp hd hway hlstat
    refine ⟨{ w.note (.removingContents (p.join ⟨name⟩)) with volume := v' }, ?_, rfl, hempties, hnone⟩
    rw [clear, on_bind, on_volume]
    simp only [hlstat]
    rw [on_bind, on_tell]
    simp only [on_attemptPartly, World.note, hok]
    rfl

end Child

/-! ## A directory that is there and empty -/

theorem renew_ok {p : Path} {w w' : World} (h : (renew p).on w = (.ok (), w')) :
    ∃ w₁, (clear p).on w = (.ok (), w₁) ∧ (ensure p).on w₁ = (.ok (), w') := by
  obtain ⟨_, w₁, hc, he⟩ := on_bind_ok h
  exact ⟨w₁, hc, he⟩

/-- A link is left as it is, and what it leads to as well. -/
theorem renew_link {p : Path} {w w₁ w' : World} (hr : w.volume.tree.Rooted) (hl : NamesLink w.volume p)
    (hc : (clear p).on w = (.ok (), w₁)) (he : (ensure p).on w₁ = (.ok (), w')) :
    w₁.volume = w.volume ∧ w'.volume = w.volume ∧ ∃ d, w.volume.LeadsTo p d := by
  obtain ⟨target, hl⟩ := hl
  obtain ⟨init, d, left, name, hs, hw, hlink⟩ := Volume.lstat_link hl
  have hv : w₁.volume = w.volume := by
    rcases clear_ok hc with ⟨hn, _⟩ | ⟨hd, _⟩ | ⟨_, _, _, hv⟩
    · rw [hl] at hn; cases hn
    · rw [hl] at hd; cases hd
    · exact hv
  have hstraight : w₁.volume.Straight p := by
    rw [hv]
    exact ⟨init, [.down name], (d, left), hs, hw, by simp⟩
  rcases ensure_ok (hv ▸ hr) hstraight he with ⟨hd, hw'⟩ | ⟨u, hu, hmk⟩
  · rw [hv] at hd
    exact ⟨hv, hw'.trans hv, hd⟩
  · -- where the link stands nothing can have been made
    obtain ⟨init', d', left', name', hs', hwalk, _, _, hnone, _, _⟩ := Volume.mkdir_ok hmk
    rw [hs] at hs'
    obtain ⟨rfl, hname⟩ := List.append_inj' hs' rfl
    obtain rfl := Volume.Step.down.inj (List.cons.inj hname).1
    rw [← hv] at hw hlink
    obtain ⟨rfl, rfl⟩ := Prod.mk.inj (Except.ok.inj ((hu.trail hw).symm.trans hwalk))
    rw [hu.grows.link hlink] at hnone
    cases hnone

/-- Any other path leads to a directory in which nothing is. -/
theorem renew_empty {p : Path} {w w₁ w' : World} (hr : w₁.volume.tree.Rooted) (hl : ¬ NamesLink w.volume p)
    (hs : w₁.volume.Straight p) (hc : (clear p).on w = (.ok (), w₁)) (he : (ensure p).on w₁ = (.ok (), w')) :
    ∃ d, w'.volume.LeadsTo p d ∧ ∀ l, isUnder d l = true → w'.volume.tree.get? l = none := by
  rcases ensure_ok hr hs he with ⟨⟨d, hd⟩, _⟩ | ⟨u, hu, hmk⟩
  · exact absurd hd (not_leadsTo_of_clear hl hc d)
  · obtain ⟨d, hd, _⟩ := Volume.mkdir_leadsTo hmk
    exact ⟨d, hd, fun l => Volume.mkdir_bare (hu.rooted hr) hmk hd⟩

/-- A directory beside the way to it that could not be renewed is as it was, and so is all else. -/
theorem renew_name_error {p : Path} {name : Bytes} {d : Loc} {w w' : World} {e : Failure} (hn : Path.IsName name)
    (hp : w.volume.Plain p) (hd : w.volume.LeadsTo p d) (hway : ∀ m ∈ Volume.stations w.volume.cwd p, ¬ d ++ [name] <+: m)
    (h : (renew (p.join ⟨name⟩)).on w = (.error e, w')) : w'.volume = w.volume := by
  rcases on_bind_error h with hc | ⟨_, w₁, hc, he⟩
  · rcases clear_error hc with hv | ⟨hl, hr⟩
    · exact hv
    · obtain ⟨v', hok, _⟩ := Volume.removeAll_name hn hp hd hway hl
      rw [hok] at hr
      exact absurd rfl hr
  · have unchanged (hv : w₁.volume = w.volume) : w'.volume = w.volume :=
      (ensure_name_error hn (hv ▸ hd) he).trans hv
    rcases clear_ok hc with ⟨_, hv⟩ | ⟨hl, hr⟩ | ⟨_, _, _, hv⟩
    · exact unchanged hv
    · -- what has been removed leaves room for the directory, so making it cannot fail
      exfalso
      obtain ⟨hcheck, hlen, _⟩ := Volume.lstat_name_dir hn hd hl
      obtain ⟨v', hok, _, hd', hnone⟩ := Volume.removeAll_name hn hp hd hway hl
      obtain ⟨-, rfl⟩ := Prod.mk.inj (hr.symm.trans hok)
      have := ensure_name_absent hn hd' hcheck hlen hnone
      rw [he] at this
      cases this
    · exact unchanged hv

end BuildHarvest.Directory
