/-
  BuildHarvest.Proofs.TwoPaths — the feed and the artifacts are retrieved alike.

  Each of the two has a loop of its own over the pieces of a body, with its own words for what goes
  wrong, and one of them hashes what it stores. `Feed.store_on` and `Download.store_on` follow the
  two loops piece by piece: both end where the writer ends. From there on storing the feed
  (`Feed.fetch_on`) and fetching an artifact (`Download.one_on`) come to one retrieval.

  Proved (`paths_agree`): whatever the locator, the place and the servers, the status feed that is
  stored at a place succeeds where a download of one item to that place does, with as many octets.
  Where they fail, it is for the same mishap, which each names in its own words. What has been asked
  of the servers and what is left is the same.
-/

import BuildHarvest.Proofs.Policy
import BuildHarvest.Proofs.Snapshot

namespace BuildHarvest

namespace Download

open BuildHarvest.Action
open Retrieval (retrieved)

/-- A download of one item is its retrieval. -/
theorem all_single_on (agent : Option String) (dir : Path) (policy : FailurePolicy) (item : Item) (w : World) : ∃ w',
    (all agent [item] dir policy).on w = (.ok [⟨item.filename, item.url,
      statusOf item.url (fileOf dir item) (retrieved agent item.url (fileOf dir item) w.volume w.network).1⟩], w') ∧
    w'.volume = (retrieved agent item.url (fileOf dir item) w.volume w.network).2 ∧
    w'.network = (Transfer.request agent item.url w.network).2 := by
  obtain ⟨told, hall⟩ := runs_process agent dir policy [item] (groundOf w) w.notices
  have hone : process agent dir policy [item] (groundOf w) =
      ([(step agent dir item (groundOf w)).1], (step agent dir item (groundOf w)).2) := by
    simp only [process, ite_self]
  rw [hone, step_eq] at hall
  exact ⟨_, hall, rfl, rfl⟩

end Download

namespace Feed

open BuildHarvest.Action
open Download (fileOf reasonOf statusOf)
open Retrieval (Mishap retrieved)

/-- The feed and a single artifact with the same locator and the same place are retrieved alike. -/
theorem paths_agree (agent : Option String) (url : String) (dir : Path) (filename : String) (policy : FailurePolicy) (w : World) :
    ∃ fetched w₁ status w₂, (fetch agent url (dir.join (.ofText filename))).on w = (fetched, w₁) ∧
      (Download.all agent [⟨filename, url⟩] dir policy).on w = (.ok [⟨filename, url, status⟩], w₂) ∧
      ((∃ n, fetched = .ok n) ↔ ∃ bytes digest, status = .downloaded bytes digest) ∧
      (∀ n bytes digest, fetched = .ok n → status = .downloaded bytes digest → n = bytes.toNat) ∧
      w₁.network = w₂.network ∧ w₁.volume = w₂.volume ∧
      ∀ e, fetched = .error e → ∃ m : Mishap, e = failureOf url m ∧
        status = .failed (reasonOf url (dir.join (.ofText filename)) m) := by
  obtain ⟨w₂, hall, hvolume, hnetwork⟩ := Download.all_single_on agent dir policy ⟨filename, url⟩ w
  have hfetch := fetch_on agent url (dir.join (.ofText filename)) w
  simp only [fileOf] at hall hvolume hnetwork
  rcases hr : retrieved agent url (dir.join (.ofText filename)) w.volume w.network with ⟨m | octets, v⟩ <;>
    rw [hr] at hall hvolume hfetch
  · refine ⟨_, _, _, w₂, hfetch, hall, ?_, ?_, hnetwork.symm, hvolume.symm, ?_⟩
    · constructor
      · rintro ⟨_, h⟩
        cases h
      · rintro ⟨_, _, h⟩
        cases h
    · intro _ _ _ h
      cases h
    · intro e h
      exact ⟨m, (Except.error.inj h).symm, rfl⟩
  · refine ⟨_, _, _, w₂, hfetch, hall, ⟨fun _ => ⟨_, _, rfl⟩, fun _ => ⟨_, rfl⟩⟩, ?_, hnetwork.symm, hvolume.symm, ?_⟩
    · intro n bytes digest hn hs
      rw [← Except.ok.inj hn, ← (Status.downloaded.inj hs).1]
    · intro _ h
      cases h

/-- A file with room for two octets, and a server that sends three, the third by itself. -/
def crampedWorld : World where
  volume := ⟨⟨[([Utf8.encode "l"], .dir)], [([Utf8.encode "l", Utf8.encode "a"], 2)]⟩, []⟩
  network := ⟨true, [⟨"http://[::]/a", 200, [65, 66, 67], none, none, [2]⟩], []⟩
  notices := []

example : (fetch none "http://[::]/a" (.ofText "l/a")).failure? crampedWorld =
      some (.system "No space left on device (os error 28)") ∧
    ((Download.all none [⟨"a", "http://[::]/a"⟩] (.ofText "l") .failFast).done? crampedWorld).map Prod.fst =
      some [⟨"a", "http://[::]/a", .failed "Failed to flush l/a: No space left on device (os error 28)"⟩] := by decide +kernel

end Feed

end BuildHarvest
