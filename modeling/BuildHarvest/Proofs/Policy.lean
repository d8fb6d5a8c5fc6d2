/-
  BuildHarvest.Proofs.Policy — the two policies are one process, and one of them cuts it.

  A download works on a volume and a network (`Ground`). What has been told before does not
  matter to it: `Runs policy items g os g'` says that, whatever it was, the items have the
  outcomes `os` and lead from `g` to `g'`. `process` computes both, item by item.

  Proved (`policies_are_one_process`), with `os` the outcomes of a best-effort download:
  - Each outcome carries the name and the locator of its item, and every item has one.
  - At every point the outcomes so far, the volume and the network are those of the items so far.
  - A fail-fast download is the best-effort download of the items up to the first that failed:
    the same outcomes, the same volume, and the same requests.
-/

import BuildHarvest.Proofs.Download

namespace BuildHarvest

namespace Download

open BuildHarvest.Action
open Retrieval (retrieved)

/-- What a download works on: the files, and the servers with the requests that they had. -/
structure Ground where
  volume : Volume
  network : Network

def Ground.world (g : Ground) (told : List Notice) : World := ⟨g.volume, g.network, told⟩

def groundOf (w : World) : Ground := ⟨w.volume, w.network⟩

@[simp]
theorem groundOf_world (g : Ground) (told : List Notice) : groundOf (g.world told) = g := rfl

/-- The outcomes up to the first failure, which is one of them. -/
def untilFailure : List Outcome → List Outcome
  | [] => []
  | o :: os => if o.isSuccess then o :: untilFailure os else [o]

/-! ## One item -/

/-- An attempt does not depend on what has been told. -/
theorem tryItem_ground (agent : Option String) (item : Item) (file : Path) {w u : World} (h : groundOf w = groundOf u) :
    (tryItem agent item file w).1 = (tryItem agent item file u).1 ∧
      groundOf (tryItem agent item file w).2 = groundOf (tryItem agent item file u).2 := by
  obtain ⟨hv, hn⟩ := Ground.mk.inj h
  obtain ⟨hs, hv₁, hn₁⟩ := tryItem_eq agent item file w
  obtain ⟨hs', hv₁', hn₁'⟩ := tryItem_eq agent item file u
  rw [groundOf, groundOf, hs, hv₁, hn₁, hs', hv₁', hn₁', hv, hn]
  exact ⟨rfl, rfl⟩

section

variable (agent : Option String) (dir : Path) (policy : FailurePolicy)

/-- The outcome of an item, and the ground after it. -/
def step (item : Item) (g : Ground) : Outcome × Ground :=
  (⟨item.filename, item.url, (tryItem agent item (fileOf dir item) (g.world [])).1⟩,
    groundOf (tryItem agent item (fileOf dir item) (g.world [])).2)

/-- A step is a retrieval. -/
theorem step_eq (item : Item) (g : Ground) : step agent dir item g =
    (⟨item.filename, item.url, statusOf item.url (fileOf dir item) (retrieved agent item.url (fileOf dir item) g.volume g.network).1⟩,
      ⟨(retrieved agent item.url (fileOf dir item) g.volume g.network).2, (Transfer.request agent item.url g.network).2⟩) := by
  obtain ⟨hs, hv, hn⟩ := tryItem_eq agent item (fileOf dir item) (g.world [])
  rw [step, groundOf, hs, hv, hn]
  rfl

/-- The outcomes of a list of items, and the ground after them. -/
def process : List Item → Ground → List Outcome × Ground
  | [], g => ([], g)
  | item :: rest, g =>
    let now := step agent dir item g
    if !now.1.isSuccess ∧ policy = .failFast then ([now.1], now.2)
    else
      let more := process rest now.2
      (now.1 :: more.1, more.2)

theorem attempt_step (total index : Nat) (item : Item) (w : World) :
    (attempt agent dir total index item w).outcome = (step agent dir item (groundOf w)).1 ∧
      groundOf (attempt agent dir total index item w).after = (step agent dir item (groundOf w)).2 := by
  obtain ⟨hstatus, hground⟩ := tryItem_ground agent item (fileOf dir item)
    (w := w.note (.downloading item.filename item.url (fileOf dir item) (index + 1) total)) (u := (groundOf w).world []) rfl
  refine ⟨?_, hground⟩
  rw [step, ← hstatus]
  rfl

theorem attempts_process (total index : Nat) (items : List Item) (w : World) :
    (attemptsFrom agent dir policy total index items w).map Attempt.outcome = (process agent dir policy items (groundOf w)).1 ∧
      groundOf (ending w (attemptsFrom agent dir policy total index items w)) = (process agent dir policy items (groundOf w)).2 := by
  induction items generalizing index w with
  | nil => exact ⟨rfl, rfl⟩
  | cons item rest ih =>
    obtain ⟨houtcome, hground⟩ := attempt_step agent dir total index item w
    rw [attemptsFrom, process]
    simp only [← houtcome, ← hground]
    by_cases h : (!(attempt agent dir total index item w).outcome.isSuccess) = true ∧ policy = .failFast
    · have hlast : (attempt agent dir total index item w).IsLast policy := h
      rw [if_pos hlast, if_pos h]
      exact ⟨rfl, rfl⟩
    · have hlast : ¬ (attempt agent dir total index item w).IsLast policy := h
      rw [if_neg hlast, if_neg h]
      obtain ⟨hos, hend⟩ := ih (index + 1) (attempt agent dir total index item w).after
      exact ⟨by rw [List.map_cons, hos], hend⟩

/-- Whatever has been told before, the items have these outcomes, and lead from one ground to another. -/
def Runs (items : List Item) (g : Ground) (os : List Outcome) (g' : Ground) : Prop :=
  ∀ told, ∃ told', (all agent items dir policy).on (g.world told) = (.ok os, g'.world told')

theorem runs_process (items : List Item) (g : Ground) :
    Runs agent dir policy items g (process agent dir policy items g).1 (process agent dir policy items g).2 := by
  intro told
  obtain ⟨w', hall, hv, hn⟩ := all_on agent dir policy items (g.world told)
  obtain ⟨hos, hend⟩ := attempts_process agent dir policy items.length 0 items (g.world told)
  have hground : groundOf w' = (process agent dir policy items g).2 := by
    rw [groundOf, hv, hn]
    exact hend
  refine ⟨w'.notices, ?_⟩
  rw [hall, ← hground]
  exact congrArg (fun os => (Except.ok os, w')) hos

variable {agent dir policy}

theorem Runs.eq {items : List Item} {g g' : Ground} {os : List Outcome} (h : Runs agent dir policy items g os g') :
    process agent dir policy items g = (os, g') := by
  obtain ⟨told, h⟩ := h []
  obtain ⟨told', h'⟩ := runs_process agent dir policy items g []
  rw [h] at h'
  obtain ⟨hos, hw⟩ := Prod.mk.inj h'
  have hg := congrArg groundOf hw
  simp only [groundOf_world] at hg
  exact Prod.ext (Except.ok.inj hos).symm hg.symm

/-- What the downloads of a list gave and left. -/
theorem runs_of_all {items : List Item} {w w' : World} {os : List Outcome}
    (h : (all agent items dir policy).on w = (.ok os, w')) : Runs agent dir policy items (groundOf w) os (groundOf w') := by
  obtain ⟨told, hp⟩ := runs_process agent dir policy items (groundOf w) w.notices
  have hp : (all agent items dir policy).on w = _ := hp
  rw [h] at hp
  obtain ⟨hos, hw⟩ := Prod.mk.inj hp
  rw [hw, Except.ok.inj hos]
  exact runs_process agent dir policy items (groundOf w)

variable (agent dir policy)

/-! ## The process -/

theorem process_names (items : List Item) (g : Ground) :
    (process agent dir policy items g).1.map (fun o => (o.filename, o.url)) =
      (items.map fun i => (i.filename, i.url)).take (process agent dir policy items g).1.length := by
  induction items generalizing g with
  | nil => rfl
  | cons item rest ih =>
    rw [process]
    simp only
    split
    · rfl
    · simp only [List.map_cons, List.length_cons, List.take_succ_cons, ih]
      rfl

theorem length_process (items : List Item) (g : Ground) : (process agent dir .bestEffort items g).1.length = items.length := by
  induction items generalizing g with
  | nil => rfl
  | cons item rest ih => simp [process, ih]

theorem process_take (items : List Item) (g : Ground) (k : Nat) :
    (process agent dir .bestEffort items g).1.take k = (process agent dir .bestEffort (items.take k) g).1 := by
  induction items generalizing g k with
  | nil => simp [process]
  | cons item rest ih =>
    cases k with
    | zero => simp [process]
    | succ k => simp [process, ih]

theorem process_drop (items : List Item) (g : Ground) (k : Nat) :
    process agent dir .bestEffort (items.drop k) (process agent dir .bestEffort (items.take k) g).2 =
      ((process agent dir .bestEffort items g).1.drop k, (process agent dir .bestEffort items g).2) := by
  induction items generalizing g k with
  | nil => simp [process]
  | cons item rest ih =>
    cases k with
    | zero => simp [process]
    | succ k => simp [process, ih]

/-- Stopping at the first failure is the process on the items up to it. -/
theorem process_failFast (items : List Item) (g : Ground) :
    (process agent dir .failFast items g).1 = untilFailure (process agent dir .bestEffort items g).1 ∧
      process agent dir .failFast items g =
        process agent dir .bestEffort (items.take (process agent dir .failFast items g).1.length) g := by
  induction items generalizing g with
  | nil => exact ⟨rfl, rfl⟩
  | cons item rest ih =>
    obtain ⟨hos, hcut⟩ := ih (step agent dir item g).2
    by_cases h : (step agent dir item g).1.isSuccess = true
    · have hfast : process agent dir .failFast (item :: rest) g =
          ((step agent dir item g).1 :: (process agent dir .failFast rest (step agent dir item g).2).1,
            (process agent dir .failFast rest (step agent dir item g).2).2) := by
        simp [process, h]
      rw [hfast]
      refine ⟨by simp [process, untilFailure, h, hos], ?_⟩
      rw [List.length_cons, List.take_succ_cons]
      simp only [process, reduceCtorEq, and_false, if_false, ← hcut]
    · have hfast : process agent dir .failFast (item :: rest) g = ([(step agent dir item g).1], (step agent dir item g).2) := by
        simp [process, h]
      rw [hfast]
      refine ⟨by simp [process, untilFailure, h], ?_⟩
      simp [process]

end

/-! ## Up to the first failure -/

theorem untilFailure_of_success {os : List Outcome} (h : ∀ o ∈ os, o.isSuccess = true) : untilFailure os = os := by
  induction os with
  | nil => rfl
  | cons o os ih =>
    rw [untilFailure, if_pos (h o List.mem_cons_self), ih fun p hp => h p (List.mem_cons_of_mem _ hp)]

theorem success_of_dropLast (os : List Outcome) : ∀ o ∈ (untilFailure os).dropLast, o.isSuccess = true := by
  induction os with
  | nil => exact fun o ho => by cases ho
  | cons p os ih =>
    intro o ho
    rw [untilFailure] at ho
    by_cases h : p.isSuccess = true
    · rw [if_pos h] at ho
      cases hos : untilFailure os with
      | nil =>
        rw [hos] at ho
        cases ho
      | cons q qs =>
        rw [hos, List.dropLast_cons_cons] at ho
        rcases List.mem_cons.mp ho with rfl | ho
        · exact h
        · exact ih o (by rw [hos]; exact ho)
    · rw [if_neg h] at ho
      cases ho

/-- Two policies, one process. -/
theorem policies_are_one_process (agent : Option String) (dir : Path) (items : List Item) (g : Ground) :
    ∃ os g', Runs agent dir .bestEffort items g os g' ∧
      os.map (fun o => (o.filename, o.url)) = items.map (fun i => (i.filename, i.url)) ∧
      (∀ k, ∃ mid, Runs agent dir .bestEffort (items.take k) g (os.take k) mid ∧
        Runs agent dir .bestEffort (items.drop k) mid (os.drop k) g') ∧
      ∃ fs cut, Runs agent dir .failFast items g fs cut ∧ fs = untilFailure os ∧
        fs.map (fun o => (o.filename, o.url)) = (items.take fs.length).map (fun i => (i.filename, i.url)) ∧
        Runs agent dir .bestEffort (items.take fs.length) g fs cut ∧ (∀ o ∈ fs.dropLast, o.isSuccess = true) ∧
        ((∀ o ∈ os, o.isSuccess = true) → fs = os ∧ cut = g') := by
  obtain ⟨hos, hcut⟩ := process_failFast agent dir items g
  refine ⟨_, _, runs_process agent dir .bestEffort items g, ?_, fun k => ?_, _, _, runs_process agent dir .failFast items g, hos, ?_,
    ?_, ?_, fun hall => ?_⟩
  · have hlength : (items.map fun i => (i.filename, i.url)).length ≤ (process agent dir .bestEffort items g).1.length :=
      Nat.le_of_eq (by rw [List.length_map, length_process])
    rw [process_names, List.take_of_length_le hlength]
  · refine ⟨(process agent dir .bestEffort (items.take k) g).2, ?_, ?_⟩
    · rw [process_take]
      exact runs_process agent dir .bestEffort _ g
    · have hrest := runs_process agent dir .bestEffort (items.drop k) (process agent dir .bestEffort (items.take k) g).2
      rwa [process_drop] at hrest
  · rw [process_names, List.map_take]
  · have hprefix := runs_process agent dir .bestEffort (items.take (process agent dir .failFast items g).1.length) g
    rwa [← hcut] at hprefix
  · rw [hos]
    exact success_of_dropLast _
  · have hsame : (process agent dir .failFast items g).1 = (process agent dir .bestEffort items g).1 := by
      rw [hos, untilFailure_of_success hall]
    refine ⟨hsame, ?_⟩
    rw [hcut, hsame, length_process, List.take_length]

end Download

end BuildHarvest
