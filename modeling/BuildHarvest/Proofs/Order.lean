/-
  BuildHarvest.Proofs.Order — the order of the items of a download.

  An attempt reads the servers, which no request changes, and one place of the volume, its own
  file's (`tryItem_alike`). Of items with different names none writes where another reads, so each
  comes to what it would have come to alone (`fate`), wherever it stands in the list.

  Proved (`all_perm`), of a best-effort download of items with different names, in a directory
  without links: another order of the items gives the same outcome for each of them, and leaves
  the same at every place of the volume.
-/

import BuildHarvest.Proofs.Download
import Mathlib.Data.List.Nodup

namespace BuildHarvest.Download

open BuildHarvest.Action
open Retrieval (answer answer_same kept retrieved)
open BuildHarvest.Tree (isUnder)

variable {agent : Option String} {dir : Path} {items : List Item} {w : World} {d : Loc}

/-! ## An item by itself -/

/-- The outcome of an item that is attempted in a world. -/
def fate (agent : Option String) (dir : Path) (w : World) (item : Item) : Outcome :=
  ⟨item.filename, item.url, (tryItem agent item (fileOf dir item) w).1⟩

/-- An attempt comes to the same where the servers are the same, its file can be created alike and
there is as much room for it. -/
theorem tryItem_alike {item : Item} {file : Path} {u : World} (hnet : w.network.Same u.network)
    (hrooms : u.volume.tree.rooms = w.volume.tree.rooms)
    (hc : (u.volume.create file).map Prod.fst = (w.volume.create file).map Prod.fst) :
    (tryItem agent item file u).1 = (tryItem agent item file w).1 ∧
      deposit? agent item file u = deposit? agent item file w := by
  simp only [(tryItem_eq agent item file _).1, retrieved, deposit?, answer_same hnet]
  rcases answer agent item.url w.network with m | response
  · exact ⟨rfl, rfl⟩
  · simp only [kept, Tree.room?, hrooms]
    rcases hu : u.volume.create file with e | ⟨l, v⟩ <;> rcases hw : w.volume.create file with e' | ⟨l', v'⟩ <;>
      rw [hu, hw] at hc
    · rw [Except.error.inj hc]
      exact ⟨rfl, rfl⟩
    · cases hc
    · cases hc
    · obtain rfl : l = l' := Except.ok.inj hc
      exact ⟨rfl, rfl⟩

/-! ## An item among others -/

/-- A later world in which items still find what they would have found: the servers, and what is
where their files go. -/
structure StillFinds (d : Loc) (items : List Item) (w u : World) : Prop where
  servers : w.network.Same u.network
  volume : w.volume.Adds u.volume
  places : ∀ item ∈ items,
    u.volume.tree.get? (d ++ [Utf8.encode item.filename]) = w.volume.tree.get? (d ++ [Utf8.encode item.filename])

/-- The items behind one with a name of its own still find what they would have found. -/
theorem StillFinds.after_attempt (agent : Option String) {item : Item} {rest : List Item} {u : World}
    (h : StillFinds d (item :: rest) w u) (hname : Manifest.fault? item.filename = none) (hother : ∀ i ∈ rest, i.filename ≠ item.filename)
    (hd : w.volume.LeadsTo dir d) (hlink : ∀ target, w.volume.tree.get? (d ++ [Utf8.encode item.filename]) ≠ some (.link target))
    (total index : Nat) : StillFinds d rest w (attempt agent dir total index item u).after := by
  obtain ⟨hadds, hget⟩ := @attempt_get? agent dir total index item u d (h.volume.leadsTo hd) (Manifest.isName_of_sound hname)
    (by rw [h.places item List.mem_cons_self]; exact hlink)
  refine ⟨h.servers.trans (tryItem_network agent item (fileOf dir item) (attempt agent dir total index item u).before),
    h.volume.trans hadds, fun i hi => ?_⟩
  have hne : d ++ [Utf8.encode i.filename] ≠ d ++ [Utf8.encode item.filename] := fun he =>
    hother i hi (Utf8.encode_injective (by simpa using he))
  rw [hget, if_neg hne]
  exact h.places i (List.mem_cons_of_mem _ hi)

/-- What is put into the file of a name is what the item of that name puts there. -/
theorem lastDeposit?_eq_some_iff {as : List Attempt} (hitems : as.map (·.item) = items) (hnodup : (items.map (·.filename)).Nodup)
    (hall : ∀ a ∈ as, a.deposit? agent dir = deposit? agent a.item (fileOf dir a.item) w) {name contents : Bytes} :
    lastDeposit? agent dir as name = some contents ↔
      ∃ item ∈ items, Utf8.encode item.filename = name ∧ deposit? agent item (fileOf dir item) w = some contents := by
  subst hitems
  constructor
  · intro h
    obtain ⟨a, ha, hname, hdep⟩ := mem_of_lastDeposit? h
    exact ⟨a.item, List.mem_map_of_mem ha, hname, (hall a ha).symm.trans hdep⟩
  · rintro ⟨item, hi, hname, hdep⟩
    obtain ⟨a, ha, rfl⟩ := List.mem_map.mp hi
    refine lastDeposit?_eq (fun b hb hb' => ?_) ⟨a, ha, hname⟩
    have hsame : b.item = a.item :=
      List.inj_on_of_nodup_map hnodup (List.mem_map_of_mem hb) hi (Utf8.encode_injective (hb'.trans hname.symm))
    rw [hall b hb, hsame]
    exact hdep

section

variable (hnames : ∀ item ∈ items, Manifest.fault? item.filename = none) (hd : w.volume.LeadsTo dir d)
  (hlinks : ∀ l target, isUnder d l = true → w.volume.tree.get? l ≠ some (.link target))

include hnames hd hlinks

/-- An item that still finds what it would have found meets its fate. -/
theorem StillFinds.alike (agent : Option String) {u : World} (h : StillFinds d items w u) {item : Item} (hi : item ∈ items) :
    (tryItem agent item (fileOf dir item) u).1 = (tryItem agent item (fileOf dir item) w).1 ∧
      deposit? agent item (fileOf dir item) u = deposit? agent item (fileOf dir item) w :=
  tryItem_alike h.servers h.volume.rooms (Volume.create_name_alike (Manifest.isName_of_sound (hnames item hi)) hd (h.volume.leadsTo hd)
    (fun target => hlinks _ target (Tree.isUnder_child d _)) (h.places item hi))

/-- Items with different names are all attempted, and each meets its fate. -/
theorem attempts_fate (agent : Option String) (hnodup : (items.map (·.filename)).Nodup) (total index : Nat) {u : World}
    (h : StillFinds d items w u) :
    (attemptsFrom agent dir .bestEffort total index items u).map (·.item) = items ∧
      ∀ a ∈ attemptsFrom agent dir .bestEffort total index items u, a.outcome = fate agent dir w a.item ∧
        a.deposit? agent dir = deposit? agent a.item (fileOf dir a.item) w := by
  induction items generalizing index u with
  | nil => exact ⟨rfl, fun a ha => by cases ha⟩
  | cons item rest ih =>
    obtain ⟨hfresh, hrest⟩ := List.nodup_cons.mp hnodup
    have hother : ∀ i ∈ rest, i.filename ≠ item.filename := fun i hi he => hfresh (List.mem_map.mpr ⟨i, hi, he⟩)
    have hnext := h.after_attempt agent (hnames item List.mem_cons_self) hother hd
      (fun target => hlinks _ target (Tree.isUnder_child d _)) total index
    -- telling of the attempt changes nothing that it finds
    have hbefore : StillFinds d (item :: rest) w (attempt agent dir total index item u).before := ⟨h.servers, h.volume, h.places⟩
    obtain ⟨hstatus, hdeposit⟩ := hbefore.alike hnames hd hlinks agent List.mem_cons_self
    obtain ⟨hitems, hall⟩ := ih (fun i hi => hnames i (List.mem_cons_of_mem _ hi)) hrest (index + 1) hnext
    have hgoes : ¬ (attempt agent dir total index item u).IsLast .bestEffort := fun hl => by cases hl.2
    rw [attemptsFrom, if_neg hgoes, List.map_cons, hitems]
    refine ⟨rfl, fun a ha => ?_⟩
    rcases List.mem_cons.mp ha with rfl | ha
    · exact ⟨congrArg (Outcome.mk item.filename item.url) hstatus, hdeposit⟩
    · exact hall a ha

/-- A best-effort download of items with different names: their fates, and what each put into its file. -/
theorem all_fate (agent : Option String) (hnodup : (items.map (·.filename)).Nodup) :
    ∃ (w' : World) (last : Bytes → Option Bytes),
      (all agent items dir .bestEffort).on w = (.ok (items.map (fate agent dir w)), w') ∧ w'.volume.cwd = w.volume.cwd ∧
      (∀ name contents, last name = some contents ↔
        ∃ item ∈ items, Utf8.encode item.filename = name ∧ deposit? agent item (fileOf dir item) w = some contents) ∧
      (∀ name, w'.volume.tree.get? (d ++ [name]) = ((last name).map Entry.file).or (w.volume.tree.get? (d ++ [name]))) ∧
      ∀ l, (∀ name, l ≠ d ++ [name]) → w'.volume.tree.get? l = w.volume.tree.get? l := by
  obtain ⟨w', hall, hv, _⟩ := all_on agent dir .bestEffort items w
  obtain ⟨hitems, hfates⟩ := attempts_fate hnames hd hlinks agent hnodup items.length 0 ⟨.refl _, .refl _, fun _ _ => rfl⟩
  obtain ⟨hadds, hchild, hother⟩ := @attempts_get? agent dir .bestEffort items.length 0 items w d hd
    (fun item hi => Manifest.isName_of_sound (hnames item hi)) (fun item _ target => hlinks _ target (Tree.isUnder_child d _))
  simp only [← attempts.eq_1, ← hv] at hitems hfates hadds hchild hother
  have houtcomes : (attempts agent dir .bestEffort items w).map Attempt.outcome = items.map (fate agent dir w) := by
    have hmap := congrArg (List.map (fate agent dir w)) hitems
    rw [List.map_map] at hmap
    exact (List.map_congr_left fun a ha => (hfates a ha).1).trans hmap
  refine ⟨w', lastDeposit? agent dir (attempts agent dir .bestEffort items w), ?_, hadds.cwd, fun name contents => ?_,
    hchild, hother⟩
  · rw [hall, houtcomes]
  · exact lastDeposit?_eq_some_iff hitems hnodup fun a ha => (hfates a ha).2

end

/-- Under best effort the order of items with different names does not matter. -/
theorem all_perm (agent : Option String) {items' : List Item} (hperm : items.Perm items')
    (hnames : ∀ item ∈ items, Manifest.fault? item.filename = none) (hnodup : (items.map (·.filename)).Nodup) (hd : w.volume.LeadsTo dir d)
    (hlinks : ∀ l target, isUnder d l = true → w.volume.tree.get? l ≠ some (.link target)) :
    ∃ w₁ w₂, (all agent items dir .bestEffort).on w = (.ok (items.map (fate agent dir w)), w₁) ∧
      (all agent items' dir .bestEffort).on w = (.ok (items'.map (fate agent dir w)), w₂) ∧
      w₁.volume.cwd = w₂.volume.cwd ∧ ∀ l, w₁.volume.tree.get? l = w₂.volume.tree.get? l := by
  obtain ⟨w₁, last₁, hall₁, hcwd₁, hlast₁, hchild₁, hother₁⟩ := all_fate hnames hd hlinks agent hnodup
  obtain ⟨w₂, last₂, hall₂, hcwd₂, hlast₂, hchild₂, hother₂⟩ := all_fate
    (fun item hi => hnames item (hperm.mem_iff.mpr hi)) hd hlinks agent ((hperm.map _).nodup_iff.mp hnodup)
  refine ⟨w₁, w₂, hall₁, hall₂, hcwd₁.trans hcwd₂.symm, fun l => ?_⟩
  by_cases hname : ∃ name, l = d ++ [name]
  · obtain ⟨name, rfl⟩ := hname
    have hlast : last₁ name = last₂ name := Option.ext fun contents => by
      simp only [hlast₁, hlast₂, hperm.mem_iff]
    rw [hchild₁, hchild₂, hlast]
  · have hne : ∀ name, l ≠ d ++ [name] := fun name he => hname ⟨name, he⟩
    rw [hother₁ l hne, hother₂ l hne]

/-- A directory with a file, and a server that breaks off while it sends a new one and has one of two others. -/
def partialWorld : World where
  volume := ⟨⟨[([Utf8.encode "l"], .dir), ([Utf8.encode "l", Utf8.encode "a"], .file [1])], []⟩, []⟩
  network := ⟨true, [⟨"http://[::]/a", 200, List.replicate 20 65, none, some .truncate, []⟩,
    ⟨"http://[::]/b", 200, [66], none, none, []⟩], []⟩
  notices := []

def wanted : List Item := [⟨"a", "http://[::]/a"⟩, ⟨"b", "http://[::]/b"⟩, ⟨"c", "http://[::]/c"⟩]

/-- A body that is cut, a file that arrives and one that is refused, and the same from the end. -/
theorem all_perm_reversed : ∃ os w₁ w₂, (all none wanted (.ofText "l") .bestEffort).on partialWorld = (.ok os, w₁) ∧
    (all none wanted.reverse (.ofText "l") .bestEffort).on partialWorld = (.ok os.reverse, w₂) ∧
    os.map (·.isSuccess) = [false, true, false] ∧ (∀ l, w₁.volume.tree.get? l = w₂.volume.tree.get? l) ∧
    w₁.volume.tree.get? [Utf8.encode "l", Utf8.encode "a"] = some (.file []) := by
  have hd : partialWorld.volume.LeadsTo (.ofText "l") [Utf8.encode "l"] :=
    ⟨ok_of_toOption (by decide +kernel), by decide +kernel⟩
  have hfree : partialWorld.volume.tree.LinkFree := Tree.linkFree_of_entries (by decide +kernel)
  obtain ⟨w₁, w₂, hall₁, hall₂, _, hsame⟩ := all_perm none (List.reverse_perm wanted).symm (by decide) (by decide) hd
    (fun l target _ => hfree l target)
  have hleft : ((all none wanted (.ofText "l") .bestEffort).on partialWorld).2.volume.tree.get? [Utf8.encode "l", Utf8.encode "a"]
      = some (.file []) := by decide +kernel
  rw [hall₁] at hleft
  refine ⟨_, w₁, w₂, hall₁, ?_, by decide +kernel, hsame, hleft⟩
  rw [hall₂, List.map_reverse]

end BuildHarvest.Download
