/-
  BuildHarvest.Proofs.Soundness — what the outcomes of a download say about the files.

  A name may be attempted several times, from one locator or from several. Its file holds what the
  last attempt that got as far as writing put there (`attempts_get?`), so an attempt that succeeded
  is true of the file for as long as no other attempt on the name follows.

  Proved (`outcomes_sound`), of a directory without links and for both policies:
  - Where the last attempt on a name succeeded, its path leads to a file that holds the whole body
    of the response to that attempt's locator. The outcome gives its length and its digest.
  - Whatever lies under no attempted name is as it was.
-/

import BuildHarvest.Proofs.Download

namespace BuildHarvest.Download

open BuildHarvest.Action
open Retrieval (answer)
open BuildHarvest.Tree (isUnder)

variable {agent : Option String} {dir : Path} {items : List Item} {w : World} {d : Loc}

/-! ## The last attempt on a name -/

theorem lastDeposit?_eq_none {as : List Attempt} {name : Bytes} (h : ∀ a ∈ as, Utf8.encode a.item.filename ≠ name) :
    lastDeposit? agent dir as name = none := by
  cases hl : lastDeposit? agent dir as name with
  | none => rfl
  | some contents =>
    obtain ⟨a, ha, hn, _⟩ := mem_of_lastDeposit? hl
    exact absurd hn (h a ha)

/-- What an attempt put into its file stays there until the name is attempted again. -/
theorem lastDeposit?_behind {before after : List Attempt} {a : Attempt} {contents : Bytes}
    (hd : a.deposit? agent dir = some contents) (hlast : ∀ b ∈ after, b.item.filename ≠ a.item.filename) :
    lastDeposit? agent dir (before ++ a :: after) (Utf8.encode a.item.filename) = some contents := by
  induction before with
  | nil =>
    have hafter : lastDeposit? agent dir after (Utf8.encode a.item.filename) = none :=
      lastDeposit?_eq_none fun b hb he => hlast b hb (Utf8.encode_injective he)
    rw [List.nil_append, lastDeposit?, hafter, if_pos rfl, hd]
    rfl
  | cons b before ih =>
    rw [List.cons_append, lastDeposit?, ih]
    rfl

/-! ## What the outcomes say -/

theorem downloaded_of_isSuccess {o : Outcome} (h : o.isSuccess = true) : ∃ bytes digest, o.status = .downloaded bytes digest := by
  unfold Outcome.isSuccess at h
  split at h
  · rename_i bytes digest hs
    exact ⟨bytes, digest, hs⟩
  · cases h

/-- The attempt behind an outcome of a download, among the attempts before and after it. -/
theorem attempt_of_outcome {as : List Attempt} {before after : List Outcome} {o : Outcome}
    (h : as.map Attempt.outcome = before ++ o :: after) : ∃ earlier a later, as = earlier ++ a :: later ∧ a.outcome = o ∧
      later.map Attempt.outcome = after := by
  obtain ⟨earlier, rest, rfl, _, hrest⟩ := List.map_eq_append_iff.mp h
  obtain ⟨a, later, rfl, ho, hlater⟩ := List.map_eq_cons_iff.mp hrest
  exact ⟨earlier, a, later, rfl, ho, hlater⟩

/-- The file of an attempt that was written to is where its path leads, whatever has come to the volume since. -/
theorem resolve_of_deposit? {a : Attempt} {v : Volume} {contents now : Bytes} (hn : Path.IsName (Utf8.encode a.item.filename))
    (hdep : a.deposit? agent dir = some contents) (hd : v.LeadsTo dir d)
    (he : v.tree.get? (d ++ [Utf8.encode a.item.filename]) = some (.file now)) :
    v.resolve (fileOf dir a.item) = .ok (d ++ [Utf8.encode a.item.filename]) := by
  rw [Attempt.deposit?, Download.deposit?] at hdep
  split at hdep
  · cases hdep
  · split at hdep
    · cases hdep
    · rename_i hc
      exact Volume.resolve_name_file hn hd (Volume.refusal?_of_create hn hc) he

/-- The outcomes of a download are true of the files that it leaves. -/
theorem outcomes_sound (agent : Option String) (policy : FailurePolicy)
    (hnames : ∀ item ∈ items, Manifest.fault? item.filename = none) (hd : w.volume.LeadsTo dir d)
    (hlinks : ∀ l target, isUnder d l = true → w.volume.tree.get? l ≠ some (.link target)) :
    ∃ os w', (all agent items dir policy).on w = (.ok os, w') ∧
      (∀ before o after bytes digest, os = before ++ o :: after → o.status = .downloaded bytes digest →
        (∀ later ∈ after, later.filename ≠ o.filename) →
          ∃ response, answer agent o.url w.network = .ok response ∧ response.body.isWhole = true ∧
            w'.volume.resolve (dir.join (.ofText o.filename)) = .ok (d ++ [Utf8.encode o.filename]) ∧
            w'.volume.tree.get? (d ++ [Utf8.encode o.filename]) = some (.file response.body.octets) ∧
            bytes = response.body.octets.length.toUInt64 ∧ digest = Sha256.hex response.body.octets) ∧
      ∀ l, (∀ o ∈ os, l ≠ d ++ [Utf8.encode o.filename]) → w'.volume.tree.get? l = w.volume.tree.get? l := by
  have hn : ∀ item ∈ items, Path.IsName (Utf8.encode item.filename) := fun item hi => Manifest.isName_of_sound (hnames item hi)
  have hl : ∀ item ∈ items, ∀ target, w.volume.tree.get? (d ++ [Utf8.encode item.filename]) ≠ some (.link target) :=
    fun item _ target => hlinks _ target (Tree.isUnder_child d _)
  obtain ⟨w', hall, hv, _⟩ := all_on agent dir policy items w
  obtain ⟨hadds, hchild, hother⟩ := @attempts_get? agent dir policy items.length 0 items w d hd hn hl
  simp only [← attempts.eq_1, ← hv] at hadds hchild hother
  refine ⟨_, w', hall, fun before o after bytes digest hos hstatus hlast => ?_, fun l hfree => ?_⟩
  · obtain ⟨earlier, a, later, has, rfl, hafter⟩ := attempt_of_outcome hos
    obtain ⟨hitem, hst, _, hnet⟩ := attempt_spec agent dir policy (show a ∈ attempts agent dir policy items w by rw [has]; simp)
    obtain ⟨response, hanswer, hwhole, hdep, hbytes, hdigest⟩ := tryItem_downloaded (hst.symm.trans hstatus)
    have hlater : ∀ b ∈ later, b.item.filename ≠ a.item.filename := fun b hb =>
      hlast b.outcome (by rw [← hafter]; exact List.mem_map_of_mem hb)
    have hfile : w'.volume.tree.get? (d ++ [Utf8.encode a.item.filename]) = some (.file response.body.octets) := by
      rw [hchild, has, lastDeposit?_behind hdep hlater]
      rfl
    refine ⟨response, ?_, hwhole, ?_, hfile, hbytes, hdigest⟩
    · rw [← Retrieval.answer_same hnet]
      exact hanswer
    · exact resolve_of_deposit? (hn a.item hitem) hdep (hadds.leadsTo hd) hfile
  · by_cases hname : ∃ name, l = d ++ [name]
    · obtain ⟨name, rfl⟩ := hname
      have hnone : lastDeposit? agent dir (attempts agent dir policy items w) name = none :=
        lastDeposit?_eq_none fun a ha he => hfree a.outcome (List.mem_map_of_mem ha) (by rw [← he]; rfl)
      rw [hchild, hnone]
      rfl
    · exact hother l fun name he => hname ⟨name, he⟩

/-- A directory with a file, and a server that has two versions of it: the second is the shorter one. -/
def versionedWorld : World where
  volume := ⟨⟨[([Utf8.encode "l"], .dir), ([Utf8.encode "l", Utf8.encode "a"], .file [1, 2, 3, 4]),
    ([Utf8.encode "l", Utf8.encode "c"], .file [5])], []⟩, []⟩
  network := ⟨true, [⟨"http://[::]/1", 200, [65, 66, 67], none, none, [2]⟩, ⟨"http://[::]/2", 200, [68], none, none, []⟩], []⟩
  notices := []

/-- Both versions, and a file that the server does not have. -/
def versions : List Item := [⟨"a", "http://[::]/1"⟩, ⟨"b", "http://[::]/3"⟩, ⟨"a", "http://[::]/2"⟩]

/-- Of two downloads of a name, the outcome of the second is true of the file. -/
theorem outcomes_sound_twice : ∃ os w', (all none versions (.ofText "l") .bestEffort).on versionedWorld = (.ok os, w') ∧
    os.map (fun o => (o.filename, o.url, o.isSuccess)) =
      [("a", "http://[::]/1", true), ("b", "http://[::]/3", false), ("a", "http://[::]/2", true)] ∧
    w'.volume.tree.get? [Utf8.encode "l", Utf8.encode "a"] = some (.file [68]) ∧
    w'.volume.tree.get? [Utf8.encode "l", Utf8.encode "c"] = some (.file [5]) := by
  have hd : versionedWorld.volume.LeadsTo (.ofText "l") [Utf8.encode "l"] :=
    ⟨ok_of_toOption (by decide +kernel), by decide +kernel⟩
  have hfree : versionedWorld.volume.tree.LinkFree := Tree.linkFree_of_entries (by decide +kernel)
  have hbody : (answer none "http://[::]/2" versionedWorld.network).toOption.map (·.body.octets) = some [68] := by decide +kernel
  have hstatus : ((all none versions (.ofText "l") .bestEffort).on versionedWorld).1.toOption.map
      (·.map fun o => (o.filename, o.url, o.isSuccess)) =
        some [("a", "http://[::]/1", true), ("b", "http://[::]/3", false), ("a", "http://[::]/2", true)] := by decide +kernel
  obtain ⟨os, w', hall, hsound, hother⟩ := @outcomes_sound (.ofText "l") versions versionedWorld [Utf8.encode "l"] none .bestEffort
    (by decide) hd (fun l target _ => hfree l target)
  rw [hall] at hstatus
  have hos := Option.some.inj hstatus
  obtain ⟨o₁, rest, rfl, h₁, hrest⟩ := List.map_eq_cons_iff.mp hos
  obtain ⟨o₂, rest, rfl, h₂, hrest⟩ := List.map_eq_cons_iff.mp hrest
  obtain ⟨o₃, rest, rfl, h₃, hrest⟩ := List.map_eq_cons_iff.mp hrest
  obtain rfl := List.map_eq_nil_iff.mp hrest
  simp only [Prod.mk.injEq] at h₁ h₂ h₃
  refine ⟨_, w', hall, hos, ?_, ?_⟩
  · obtain ⟨bytes, digest, hst⟩ := downloaded_of_isSuccess h₃.2.2
    obtain ⟨response, hanswer, _, _, hfile, _, _⟩ := hsound [o₁, o₂] o₃ [] bytes digest rfl hst (by simp)
    rw [h₃.2.1] at hanswer
    rw [hanswer] at hbody
    rw [h₃.1] at hfile
    exact hfile.trans (congrArg (fun c => some (Entry.file c)) (Option.some.inj hbody))
  · have hname : ∀ o ∈ [o₁, o₂, o₃], [Utf8.encode "l", Utf8.encode "c"] ≠ [Utf8.encode "l"] ++ [Utf8.encode o.filename] := by
      simp only [List.forall_mem_cons, List.not_mem_nil, false_implies, implies_true, and_true, h₁.1, h₂.1, h₃.1]
      decide
    rw [hother _ hname]
    decide +kernel

end BuildHarvest.Download
