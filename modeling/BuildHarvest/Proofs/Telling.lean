/-
  BuildHarvest.Proofs.Telling — what the log tells of a run is what happened.

  `turn` gives the notices of an item's turn by its outcome, and `leftOut` the notice of a list that
  was left early; all other stages of a run give notices of other topics (`Tells`). The world that an
  item is attempted in is the one that the attempts before it end in, with the item announced
  (`TakesTurn`).

  Proved (`log_tells_what_happened`), whatever a run is for and whatever it meets:
  - That the run is completed is told exactly where it succeeds, once, and behind all else.
  - The downloads tell, for each outcome in its order, that its item is downloaded, and behind that
    the octets and the digest of the outcome or its reason; and at the end how many items were left
    out, where there are any. A run that does not get to its downloads tells nothing of them.
  - An item is announced before anything is asked for it, and how it ended is told behind all that.
-/

import BuildHarvest.Proofs.Requests

namespace BuildHarvest

/-! ## Notices by what is shown of them -/

namespace Notice

/-- What is shown of a notice: its level, its words and its fields. -/
def shown (n : Notice) : Level × String × List (String × Field) := (n.level, n.message, n.fields)

def Says (n : Notice) (level : Level) (message : String) : Prop := n.level = level ∧ n.message = message

/-- A notice of the downloads, by its topic. -/
def isOfDownloads (n : Notice) : Bool := n.topic == "artisync_lib::download::download"

/-- A notice that neither the downloads give nor the end of a run. -/
def IsAside (n : Notice) : Prop := n.isOfDownloads = false ∧ n ≠ .completed

theorem says_completed {n : Notice} : n.Says .info "Artifact sync completed successfully" ↔ n = .completed := by
  constructor
  · rintro ⟨hlevel, hmessage⟩
    cases n with
    | completed => rfl
    | fetchingFeed | readingBuild | foundBase | startingDownloads | downloading | reportWritten =>
      unfold message at hmessage
      have hchars := congrArg String.toList hmessage
      simp at hchars
    | _ => cases hlevel
  · rintro rfl
    exact ⟨rfl, rfl⟩

theorem says_stopping {n : Notice} {k : Nat} :
    n.Says .warn ("Stopping after first failure, " ++ toString k ++ " artifact(s) not attempted") ↔ n = .stopping k := by
  constructor
  · rintro ⟨hlevel, hmessage⟩
    cases n with
    | stopping skipped =>
      unfold message at hmessage
      have hdigits : Nat.toDigits 10 skipped = Nat.toDigits 10 k := by
        simpa [Nat.repr_eq_ofList_toDigits] using congrArg String.toList hmessage
      have hread := congrArg (Nat.ofDigitChars 10 · 0) hdigits
      simp only [Nat.ofDigitChars_ten_toDigits] at hread
      rw [hread]
    | emptyManifest | downloadFailed =>
      unfold message at hmessage
      have hchars := congrArg String.toList hmessage
      simp at hchars
    | _ => cases hlevel
  · rintro rfl
    exact ⟨rfl, rfl⟩

end Notice

/-! ## What an action tells -/

namespace Action

variable {ε φ α β : Type} {Q : Notice → Prop}

/-- All that an action tells is of a kind, whatever it gives, and it takes back nothing. -/
def Tells (Q : Notice → Prop) (a : Action ε α) : Prop :=
  ∀ w, ∃ told, (a.on w).2.notices = w.notices ++ told ∧ ∀ n ∈ told, Q n

theorem tells_of_silent {a : Action ε α} (h : ∀ w, (a.on w).2.notices = w.notices) : Tells Q a :=
  fun w => ⟨[], by rw [h w, List.append_nil], by simp⟩

theorem tells_pure (a : α) : Tells Q (pure a : Action ε α) := tells_of_silent fun _ => rfl

theorem tells_throw (e : ε) : Tells Q (throw e : Action ε α) := tells_of_silent fun _ => rfl

theorem tells_volume : Tells Q (volume : Action ε Volume) := tells_of_silent fun _ => rfl

theorem tells_orThrow (blame : φ → ε) (r : Except φ α) : Tells Q (orThrow blame r) :=
  tells_of_silent fun w => by rw [on_orThrow]

theorem tells_tell {n : Notice} (h : Q n) : Tells Q (tell n : Action ε Unit) :=
  fun _ => ⟨[n], rfl, by simpa using h⟩

theorem tells_bind {x : Action ε α} {f : α → Action ε β} (hx : Tells Q x) (hf : ∀ a, Tells Q (f a)) : Tells Q (x >>= f) := by
  intro w
  obtain ⟨told, htold, hkind⟩ := hx w
  rw [on_bind]
  rcases hr : x.on w with ⟨e | a, w₁⟩ <;> rw [hr] at htold
  · exact ⟨told, htold, hkind⟩
  · obtain ⟨more, hmore, hkind'⟩ := hf a w₁
    refine ⟨told ++ more, ?_, fun n hn => (List.mem_append.mp hn).elim (hkind n) (hkind' n)⟩
    rw [hmore, htold, List.append_assoc]

end Action

open BuildHarvest.Action

theorem Feed.tells_fetch {Q : Notice → Prop} (agent : Option String) (url : String) (file : Path) (hf : Q (.fetchingFeed url))
    (hs : ∀ n, Q (.storedFeed url file n)) : Tells Q (fetch agent url file) := by
  intro w
  rw [fetch_on]
  rcases Retrieval.retrieved agent url file w.volume w.network with ⟨m | octets, v⟩
  · exact ⟨[.fetchingFeed url], rfl, by simpa using hf⟩
  · refine ⟨[.fetchingFeed url, .storedFeed url file octets.length.toUInt64.toNat], ?_, ?_⟩
    · exact List.append_assoc _ _ _
    · simpa using ⟨hf, hs _⟩

namespace Directory

variable {Q : Notice → Prop}

theorem tells_make (h : ∀ p, Q (.creatingDirectory p)) (p : Path) : Tells Q (make p) := by
  intro w
  refine ⟨[.creatingDirectory p], ?_, by simpa using h p⟩
  rw [make_on]
  split
  · rfl
  · split <;> rfl

theorem tells_ensure (h : ∀ p, Q (.creatingDirectory p)) (p : Path) : Tells Q (ensure p) := by
  unfold ensure
  induction p.lineage with
  | nil => exact tells_pure ()
  | cons p above ih =>
    refine tells_bind tells_volume fun v => ?_
    split
    · exact tells_pure ()
    · exact tells_throw _
    · split
      · exact tells_bind ih fun _ => tells_make h p
      · exact tells_throw _

theorem tells_clear {p : Path} (hremoving : Q (.removingContents p)) (hleaving : Q (.leavingInPlace p)) : Tells Q (clear p) := by
  refine tells_bind tells_volume fun v => ?_
  split
  · exact tells_pure ()
  · exact tells_throw _
  · refine tells_bind (tells_tell hremoving) fun _ => tells_of_silent fun w => ?_
    rw [on_attemptPartly]
  · exact tells_tell hleaving

end Directory

/-! ## What the downloads tell -/

namespace Download

/-- How the end of an item is told. -/
def closing (o : Outcome) : Notice :=
  match o.status with
  | .downloaded bytes sha256 => .downloaded o.url bytes.toNat sha256
  | .failed reason => .downloadFailed reason

/-- What is told at the turn of an item at an index of `total`. -/
def turn (dir : Path) (total index : Nat) (o : Outcome) : List Notice :=
  [.downloading o.filename o.url (dir.join (.ofText o.filename)) (index + 1) total, closing o]

/-- What is told at the turns of the items from an index on. -/
def turns (dir : Path) (total index : Nat) (os : List Outcome) : List Notice :=
  (os.zipIdx index).flatMap fun (o, i) => turn dir total i o

/-- What is told of a list of `total` items, of which some have been attempted. -/
def leftOut (total attempted : Nat) : List Notice :=
  if attempted < total then [.stopping (total - attempted)] else []

theorem turns_cons (dir : Path) (total index : Nat) (o : Outcome) (os : List Outcome) :
    turns dir total index (o :: os) = turn dir total index o ++ turns dir total (index + 1) os := by
  rw [turns, List.zipIdx_cons, List.flatMap_cons]
  rfl

theorem of_mem_turns {n : Notice} {dir : Path} {total index : Nat} {os : List Outcome} (hn : n ∈ turns dir total index os) :
    n.isOfDownloads = true ∧ ∀ k, n ≠ .stopping k := by
  obtain ⟨⟨o, i⟩, _, hn⟩ := List.mem_flatMap.mp hn
  rcases List.mem_cons.mp hn with rfl | hn
  · exact ⟨rfl, nofun⟩
  · obtain rfl := List.mem_singleton.mp hn
    unfold closing
    split <;> exact ⟨rfl, nofun⟩

theorem mem_leftOut {n : Notice} {total attempted : Nat} :
    n ∈ leftOut total attempted ↔ ∃ k, n = .stopping k ∧ k + attempted = total ∧ 0 < k := by
  unfold leftOut
  split
  · rw [List.mem_singleton]
    constructor
    · rintro rfl
      exact ⟨_, rfl, by omega, by omega⟩
    · rintro ⟨k, rfl, hk, _⟩
      rw [show total - attempted = k by omega]
  · constructor
    · intro hn
      cases hn
    · rintro ⟨k, _, hk, _⟩
      omega

section

variable (agent : Option String) (dir : Path) (policy : FailurePolicy)

/-- An attempt tells how it ended, and nothing else. -/
theorem tryItem_told (item : Item) (file : Path) (w : World) : (tryItem agent item file w).2.notices =
    w.notices ++ [closing ⟨item.filename, item.url, (tryItem agent item file w).1⟩] := by
  rw [tryItem, one_on]
  rcases Retrieval.retrieved agent item.url file w.volume w.network with ⟨m | octets, v⟩ <;> rfl

theorem attempt_told (total index : Nat) (item : Item) (w : World) :
    (attempt agent dir total index item w).after.notices =
      w.notices ++ turn dir total index (attempt agent dir total index item w).outcome := by
  have htold := tryItem_told agent item (fileOf dir item)
    (w.note (.downloading item.filename item.url (fileOf dir item) (index + 1) total))
  rw [World.note, List.append_assoc] at htold
  exact htold

/-- A list of attempts tells the turn of each, and at its end how many items it leaves out. -/
theorem attemptFrom_told {total index : Nat} {items : List Item} (h : index + items.length = total) (w : World) {os : List Outcome}
    {w' : World} (hon : (attemptFrom agent dir policy total index items).on w = (.ok os, w')) :
    w'.notices = w.notices ++ (turns dir total index os ++ leftOut total (index + os.length)) := by
  induction items generalizing index w os w' with
  | nil =>
    obtain ⟨hos, rfl⟩ := Prod.mk.inj hon
    obtain rfl := Except.ok.inj hos
    have hall : ¬ index < total := by simpa using h.ge
    simp [turns, leftOut, hall]
  | cons item rest ih =>
    rw [attemptFrom_cons_on] at hon
    have hturn := attempt_told agent dir total index item w
    generalize attempt agent dir total index item w = a at hon hturn
    rw [List.length_cons] at h
    simp only at hon
    by_cases hl : a.IsLast policy
    -- The list is left here, so what is left out is all of its rest.
    · rw [if_pos hl] at hon
      obtain ⟨hos, rfl⟩ := Prod.mk.inj hon
      obtain rfl := Except.ok.inj hos
      have hrest : total - (index + 1) = rest.length := by omega
      rw [turns_cons, leftOut, List.length_singleton, hrest]
      by_cases hlen : 0 < rest.length
      · rw [if_pos hlen, if_pos (by omega), World.note, hturn]
        simp [turns]
      · rw [if_neg hlen, if_neg (by omega), hturn]
        simp [turns]
    · rw [if_neg hl] at hon
      obtain ⟨os', w₁, hon', hend⟩ := on_bind_ok hon
      obtain ⟨hos, rfl⟩ := Prod.mk.inj hend
      obtain rfl := Except.ok.inj hos
      rw [ih (by omega) a.after hon', hturn, turns_cons, List.length_cons,
        show index + 1 + os'.length = index + (os'.length + 1) by omega]
      simp only [List.append_assoc]

end

/-! ### The same as a reader sees it -/

/-- The lines of an item's turn. -/
def turnShown (dir : Path) (total index : Nat) (o : Outcome) : List (Level × String × List (String × Notice.Field)) :=
  [(.info, "Downloading " ++ o.filename ++ " (" ++ toString (index + 1) ++ "/" ++ toString total ++ ")",
      [("url", .text o.url), ("output", .text (dir.join (.ofText o.filename)).text)]),
    match o.status with
    | .downloaded bytes sha256 =>
      (.debug, "Downloaded", [("url", .text o.url), ("bytes", .number bytes.toNat), ("sha256", .text sha256)])
    | .failed reason => (.warn, "Download failed: " ++ reason, [])]

/-- The line of a list that was left early. -/
def leftOutShown (total attempted : Nat) : List (Level × String × List (String × Notice.Field)) :=
  if attempted < total then
    [(.warn, "Stopping after first failure, " ++ toString (total - attempted) ++ " artifact(s) not attempted", [])]
  else []

theorem shown_turn (dir : Path) (total index : Nat) (o : Outcome) :
    (turn dir total index o).map Notice.shown = turnShown dir total index o := by
  obtain ⟨filename, url, status⟩ := o
  cases status <;> rfl

theorem shown_story (dir : Path) (total : Nat) (os : List Outcome) :
    (turns dir total 0 os ++ leftOut total os.length).map Notice.shown =
      (os.zipIdx.flatMap fun (o, i) => turnShown dir total i o) ++ leftOutShown total os.length := by
  rw [List.map_append, turns, List.map_flatMap]
  simp only [shown_turn]
  unfold leftOut leftOutShown
  split <;> rfl

end Download

namespace Sync

open Download (Attempt)

/-! ## What a run tells -/

theorem tells_locate (config : Config) (layout : Layout) : Tells Notice.IsAside (locate config layout) := by
  have hfetch : Tells Notice.IsAside (Feed.fetch (some agent) config.feedUrl layout.statusFile) :=
    Feed.tells_fetch (some agent) config.feedUrl layout.statusFile ⟨rfl, nofun⟩ fun _ => ⟨rfl, nofun⟩
  have hbuild : Tells Notice.IsAside (Feed.buildAt layout.statusFile) := by
    refine tells_bind tells_volume fun v => ?_
    split
    · exact tells_throw _
    · exact tells_throw _
    · simp only
      split
      · exact tells_bind (tells_tell ⟨rfl, nofun⟩) fun _ => tells_orThrow _ _
      · exact tells_orThrow _ _
  exact tells_bind (Directory.tells_ensure (fun _ => ⟨rfl, nofun⟩) _) fun _ => tells_bind hfetch fun _ =>
    tells_bind (tells_tell ⟨rfl, nofun⟩) fun _ => tells_bind hbuild fun _ => tells_bind (tells_orThrow _ _) fun _ =>
      tells_bind (tells_tell ⟨rfl, nofun⟩) fun _ => tells_pure _

theorem tells_prepare (layout : Layout) : Tells Notice.IsAside (prepare layout) :=
  tells_bind (Directory.tells_ensure (fun _ => ⟨rfl, nofun⟩) _) fun _ =>
    tells_bind (Directory.tells_clear ⟨rfl, nofun⟩ ⟨rfl, nofun⟩) fun _ => Directory.tells_ensure (fun _ => ⟨rfl, nofun⟩) _

theorem tells_write (report : Report) (file : Path) : Tells Notice.IsAside (report.write file) := by
  refine tells_bind (tells_of_silent fun w => ?_) fun _ => tells_tell ⟨rfl, nofun⟩
  rw [on_attemptPartly]

/-- What the end of a run tells, by what the run gives. -/
def finale (r : Except Failure Report) : List Notice :=
  match r with
  | .ok _ => [.completed]
  | .error _ => []

theorem verdict_told (report : Report) (w : World) :
    ((verdict report).on w).2.notices = w.notices ++ finale ((verdict report).on w).1 := by
  rw [verdict, on_bind, on_orThrow]
  rcases Outcomes.result report.outcomes with e | os
  · exact (List.append_nil _).symm
  · rfl

theorem conclude_told (file? : Option Path) (report : Report) (w : World) : ∃ aside,
    ((conclude file? report).on w).2.notices = w.notices ++ aside ++ finale ((conclude file? report).on w).1 ∧
      ∀ n ∈ aside, n.IsAside := by
  cases file? with
  | none => exact ⟨[], by rw [List.append_nil]; exact verdict_told report w, by simp⟩
  | some file =>
    obtain ⟨aside, haside, hkind⟩ := tells_write report file w
    refine ⟨aside, ?_, hkind⟩
    show ((report.write file >>= fun _ => verdict report).on w).2.notices =
      w.notices ++ aside ++ finale ((report.write file >>= fun _ => verdict report).on w).1
    rw [on_bind]
    rcases hw : (report.write file).on w with ⟨e | _, w₁⟩ <;> rw [hw] at haside
    · rw [finale, List.append_nil]
      exact haside
    · simp only at haside ⊢
      rw [verdict_told, haside]

/-- What the downloads of a run tell. -/
def Stages.story (s : Stages) (params : Params) : List Notice :=
  Download.turns params.config.layout.libDir params.manifest.entries.length 0 s.outcomes ++
    Download.leftOut params.manifest.entries.length s.outcomes.length

theorem Stages.isOfDownloads_story (s : Stages) (params : Params) : ∀ n ∈ s.story params, n.isOfDownloads = true := by
  intro n hn
  rcases List.mem_append.mp hn with hn | hn
  · exact (Download.of_mem_turns hn).1
  · obtain ⟨k, rfl, _⟩ := Download.mem_leftOut.mp hn
    rfl

theorem length_ofManifest (base : ArtifactBase) (manifest : Manifest) :
    (Item.ofManifest base manifest).length = manifest.entries.length := List.length_map _

theorem Stages.Of.opened_told {s : Stages} {params : Params} {w : World} (h : s.Of params w) : ∃ aside,
    (s.opened params).notices = w.notices ++ aside ∧ ∀ n ∈ aside, n.IsAside := by
  obtain ⟨located, hlocated, hl⟩ := tells_locate params.config params.config.layout w
  obtain ⟨prepared, hprepared, hp⟩ := tells_prepare params.config.layout s.located
  rw [h.located] at hlocated
  rw [h.prepared] at hprepared
  refine ⟨located ++ prepared ++
    [.startingDownloads (Item.ofManifest s.base params.manifest).length params.config.layout.libDir], ?_, fun n hn => ?_⟩
  · rw [Stages.opened, World.note, hprepared, hlocated]
    simp only [List.append_assoc]
  · simp only [List.mem_append, List.mem_singleton] at hn
    rcases hn with (hn | hn) | rfl
    · exact hl n hn
    · exact hp n hn
    · exact ⟨rfl, fun h => by cases h⟩

theorem Stages.Of.fetched_told {s : Stages} {params : Params} {w : World} (h : s.Of params w) :
    s.fetched.notices = (s.opened params).notices ++ s.story params := by
  have hf := h.fetched
  rw [fetchAll, on_bind, on_tell] at hf
  have htold := Download.attemptFrom_told (some agent) params.config.layout.libDir params.config.failurePolicy
    (Nat.zero_add _) (s.opened params) hf
  rw [length_ofManifest, Nat.zero_add] at htold
  exact htold

/-- What a run has told, by the story of its downloads and by what it gives. -/
structure Relates (told story : List Notice) (r : Except Failure Report) : Prop where
  parts : ∃ before after, told = before ++ story ++ after ++ finale r ∧ ∀ n ∈ before ++ after, n.IsAside
  topic : ∀ n ∈ story, n.isOfDownloads = true

namespace Relates

variable {told story : List Notice} {r : Except Failure Report}

/-- The story is found again by its topic. -/
theorem filter_told (h : Relates told story r) : told.filter Notice.isOfDownloads = story := by
  obtain ⟨before, after, rfl, haside⟩ := h.parts
  have hfinale : (finale r).filter Notice.isOfDownloads = [] := by
    cases r <;> rfl
  have hside {n : Notice} (hn : n ∈ before ++ after) : ¬ n.isOfDownloads = true := by
    simp [(haside n hn).1]
  simp only [List.filter_append]
  rw [List.filter_eq_self.mpr h.topic, List.filter_eq_nil_iff.mpr fun n hn => hside (List.mem_append_left after hn),
    List.filter_eq_nil_iff.mpr fun n hn => hside (List.mem_append_right before hn), hfinale]
  simp only [List.nil_append, List.append_nil]

/-- That a run is completed is told at its end, or not at all. -/
theorem completed (h : Relates told story r) : ∃ rest, told = rest ++ finale r ∧ .completed ∉ rest := by
  obtain ⟨before, after, rfl, haside⟩ := h.parts
  refine ⟨_, rfl, fun hn => ?_⟩
  rcases List.mem_append.mp hn with hn | hn
  · rcases List.mem_append.mp hn with hn | hn
    · exact (haside _ (List.mem_append_left _ hn)).2 rfl
    · cases h.topic _ hn
  · exact (haside _ (List.mem_append_right _ hn)).2 rfl

theorem says_completed_iff (h : Relates told story r) :
    (∃ n ∈ told, n.Says .info "Artifact sync completed successfully") ↔ ∃ report, r = .ok report := by
  simp only [Notice.says_completed, exists_eq_right]
  obtain ⟨rest, rfl, hrest⟩ := h.completed
  cases r with
  | error e => simpa [finale] using hrest
  | ok report => simp [finale]

theorem says_completed_last (h : Relates told story r) (report : Report) (hr : r = .ok report) : ∃ before last,
    told = before ++ [last] ∧ last.Says .info "Artifact sync completed successfully" ∧
      ∀ n ∈ before, ¬ n.Says .info "Artifact sync completed successfully" := by
  obtain ⟨rest, rfl, hrest⟩ := h.completed
  subst hr
  refine ⟨rest, .completed, rfl, Notice.says_completed.mpr rfl, fun n hn hsays => hrest ?_⟩
  rwa [Notice.says_completed.mp hsays] at hn

theorem says_stopping_iff {total index : Nat} {dir : Path} {os : List Outcome}
    (h : Relates told (Download.turns dir total index os ++ Download.leftOut total os.length) r) (k : Nat) :
    (∃ n ∈ told, n.Says .warn ("Stopping after first failure, " ++ toString k ++ " artifact(s) not attempted")) ↔
      k + os.length = total ∧ 0 < k := by
  simp only [Notice.says_stopping, exists_eq_right]
  have hfilter : Notice.stopping k ∈ told ↔ .stopping k ∈ told.filter Notice.isOfDownloads := by
    rw [List.mem_filter, and_iff_left (show (Notice.stopping k).isOfDownloads = true from rfl)]
  have hturns : Notice.stopping k ∉ Download.turns dir total index os := fun hn => (Download.of_mem_turns hn).2 k rfl
  rw [hfilter, h.filter_told, List.mem_append, or_iff_right hturns, Download.mem_leftOut]
  simp only [Notice.stopping.injEq, exists_eq_left']

end Relates

/-- A run that goes through all its stages tells the story of its downloads. -/
theorem Stages.Of.run_relates {s : Stages} {params : Params} {w : World} (h : s.Of params w) : ∃ told,
    ((Sync.run params).on w).2.notices = w.notices ++ told ∧ Relates told (s.story params) ((Sync.run params).on w).1 := by
  obtain ⟨before, hbefore, hb⟩ := h.opened_told
  obtain ⟨after, hafter, ha⟩ := conclude_told params.report s.report s.fetched
  rw [h.run]
  refine ⟨_, ?_, ⟨before, after, rfl, fun n hn => (List.mem_append.mp hn).elim (hb n) (ha n)⟩, s.isOfDownloads_story params⟩
  rw [hafter, h.fetched_told, hbefore]
  simp only [List.append_assoc]

/-- Any other run fails, and has no story to tell. -/
theorem run_relates_early {params : Params} {w : World} (h : ¬ ∃ s : Stages, s.Of params w) : ∃ told e,
    ((run params).on w).2.notices = w.notices ++ told ∧ ((run params).on w).1 = .error e ∧ Relates told [] (.error e) := by
  have relates {aside : List Notice} {e : Failure} (haside : ∀ n ∈ aside, n.IsAside) : Relates aside [] (.error e) :=
    ⟨⟨aside, [], by simp [finale], by simpa using haside⟩, by simp⟩
  obtain ⟨located, hlocated, hl⟩ := tells_locate params.config params.config.layout w
  rcases run_cases (Prod.eta ((run params).on w)).symm with ⟨e, hr, hon⟩ | ⟨_, _, w₁, e, hr, hon, hon'⟩ | hs
  · rw [hon] at hlocated
    exact ⟨located, e, hlocated, hr, relates hl⟩
  · obtain ⟨prepared, hprepared, hp⟩ := tells_prepare params.config.layout w₁
    rw [hon] at hlocated
    rw [hon'] at hprepared
    refine ⟨located ++ prepared, e, ?_, hr, relates fun n hn => (List.mem_append.mp hn).elim (hl n) (hp n)⟩
    rw [hprepared, hlocated, List.append_assoc]
  · obtain ⟨s, hs, _⟩ := hs
    exact absurd ⟨s, hs⟩ h

/-- A run that gives a report went through all its stages, and its report is theirs. -/
theorem stages_of_report {params : Params} {w : World} {report : Report} (h : ((run params).on w).1 = .ok report) :
    ∃ s : Stages, s.Of params w ∧ s.report = report := by
  have hrun : (run params).on w = (.ok report, ((run params).on w).2) := Prod.ext h rfl
  obtain ⟨s, hs, hend⟩ := run_stages hrun trivial
  exact ⟨s, hs, ((conclude_frame hend).2 report rfl).1.symm⟩

/-- The attempt at a position takes its turn: it is on the entry there, and begins where those before it end, once its
item has been announced; what is asked is asked after that, and how it ended is told after that. -/
structure TakesTurn (s : Stages) (params : Params) (i : Nat) (a : Attempt) : Prop where
  entry : params.manifest.entries[i]? = some a.item.filename
  announced : a.before = (Download.ending (s.opened params) ((s.attempts params).take i)).note (.downloading a.item.filename
    a.item.url (params.config.layout.libDir.join (.ofText a.item.filename)) (i + 1) params.manifest.entries.length)
  attempted : (Download.attemptItem (some agent) a.item (params.config.layout.libDir.join (.ofText a.item.filename))).on a.before =
    (.ok a.status, a.after)
  asked : a.before.network.requests <+: a.after.network.requests
  ended : a.after.notices = a.before.notices ++ [Download.closing a.outcome]

theorem attempts_in_turn {s : Stages} {params : Params} (i : Nat) (a : Attempt) (h : (s.attempts params)[i]? = some a) :
    TakesTurn s params i a := by
  obtain ⟨hitem, hattempt⟩ := Download.attemptsFrom_getElem? _ _ _ h
  have ha : a = Download.attempt (some agent) params.config.layout.libDir (Item.ofManifest s.base params.manifest).length
    (0 + i) a.item (Download.ending (s.opened params) ((s.attempts params).take i)) := hattempt
  have hname : params.manifest.entries[i]? = some a.item.filename := by
    rw [Item.ofManifest, List.getElem?_map, Option.map_eq_some_iff] at hitem
    obtain ⟨name, hname, hof⟩ := hitem
    rw [← hof]
    exact hname
  rw [length_ofManifest, Nat.zero_add] at ha
  have hbefore := congrArg Attempt.before ha
  obtain ⟨_, hstatus, hafter, _⟩ := Download.attempt_spec _ _ _ (List.mem_of_getElem? h)
  refine ⟨hname, hbefore, ?_, ?_, ?_⟩
  · rw [Download.attemptItem_on, hstatus, hafter]
    rfl
  · rw [hafter, Download.tryItem_asked]
    exact Transfer.request_heard (some agent) a.item.url a.before.network
  · rw [hafter, Download.tryItem_told, Attempt.outcome, hstatus]

/-- The log of a run tells what happened. -/
theorem log_tells_what_happened (params : Params) (w : World) : ∃ told,
    ((run params).on w).2.notices = w.notices ++ told ∧
      ((∃ n ∈ told, n.Says .info "Artifact sync completed successfully") ↔ ∃ report, ((run params).on w).1 = .ok report) ∧
      (∀ report, ((run params).on w).1 = .ok report → ∃ before last, told = before ++ [last] ∧
        last.Says .info "Artifact sync completed successfully" ∧
        ∀ n ∈ before, ¬ n.Says .info "Artifact sync completed successfully") ∧
      (∀ report, ((run params).on w).1 = .ok report → ∃ s : Stages, s.Of params w ∧ s.report = report) ∧
      ((¬ ∃ s : Stages, s.Of params w) → told.filter Notice.isOfDownloads = []) ∧
      ∀ s : Stages, s.Of params w →
        (told.filter Notice.isOfDownloads).map Notice.shown =
          (s.outcomes.zipIdx.flatMap fun (o, i) =>
            Download.turnShown params.config.layout.libDir params.manifest.entries.length i o) ++
          Download.leftOutShown params.manifest.entries.length s.outcomes.length ∧
        (∀ k, (∃ n ∈ told, n.Says .warn ("Stopping after first failure, " ++ toString k ++ " artifact(s) not attempted")) ↔
          k + s.outcomes.length = params.manifest.entries.length ∧ 0 < k) ∧
        s.outcomes = (s.attempts params).map Attempt.outcome ∧
        ∀ i a, (s.attempts params)[i]? = some a → TakesTurn s params i a := by
  by_cases h : ∃ s : Stages, s.Of params w
  · obtain ⟨s, hs⟩ := h
    obtain ⟨told, htold, hrelates⟩ := hs.run_relates
    have hsame {s' : Stages} (hs' : s'.Of params w) : s' = s :=
      Option.some.inj ((stages?_eq_some.mpr hs').symm.trans (stages?_eq_some.mpr hs))
    refine ⟨told, htold, hrelates.says_completed_iff, hrelates.says_completed_last, fun _ => stages_of_report,
      fun hnone => absurd ⟨s, hs⟩ hnone, fun s' hs' => ?_⟩
    obtain rfl := hsame hs'
    refine ⟨?_, hrelates.says_stopping_iff, hs.attempts.1, attempts_in_turn⟩
    rw [hrelates.filter_told]
    exact Download.shown_story _ _ _
  · obtain ⟨told, e, htold, hr, hrelates⟩ := run_relates_early h
    rw [← hr] at hrelates
    exact ⟨told, htold, hrelates.says_completed_iff, hrelates.says_completed_last, fun _ => stages_of_report,
      fun _ => hrelates.filter_told, fun s hs => absurd ⟨s, hs⟩ h⟩

/-- A run for two libraries, of which the server has the second only. -/
def firstLost : Params := smallParams "w" "l" ⟨["b", "a"], by decide⟩

/-- A run that is left at its first failure tells of the failure and of what it leaves out, and not of its completion. -/
theorem a_run_left_early_says_so : ∃ (s : Stages) (told : List Notice), s.Of firstLost usedWorld ∧
    ((run firstLost).on usedWorld).2.notices = told ∧
    (told.filter Notice.isOfDownloads).map Notice.shown = [
      (.info, "Downloading b (1/2)", [("url", .text "http://[::]/b"), ("output", .text "w/l/b")]),
      (.warn, "Download failed: Failed to fetch http://[::]/b: HTTP status client error (404 Not Found) for url (http://[::]/b)", []),
      (.warn, "Stopping after first failure, 1 artifact(s) not attempted", [])] ∧
    ¬ ∃ n ∈ told, n.Says .info "Artifact sync completed successfully" := by
  obtain ⟨told, htold, hcompleted, _, _, _, hstages⟩ := log_tells_what_happened firstLost usedWorld
  have houtcomes : (stages? firstLost usedWorld).map (·.outcomes) = some [⟨"b", "http://[::]/b",
      .failed "Failed to fetch http://[::]/b: HTTP status client error (404 Not Found) for url (http://[::]/b)"⟩] := by decide +kernel
  have hfailed : ((run firstLost).on usedWorld).1.toOption = none := by decide +kernel
  obtain ⟨s, hs, hos⟩ := Option.map_eq_some_iff.mp houtcomes
  have hof := stages?_eq_some.mp hs
  obtain ⟨hshown, _⟩ := hstages s hof
  refine ⟨s, told, hof, htold, ?_, fun hsays => ?_⟩
  · rw [hshown, hos]
    decide +kernel
  · obtain ⟨report, hr⟩ := hcompleted.mp hsays
    rw [hr] at hfailed
    cases hfailed

end Sync

end BuildHarvest
