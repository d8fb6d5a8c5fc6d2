/-
  BuildHarvest.Proofs.Snapshot — how the feed is stored.

  Proved (`fetch_on`): storing the feed is a retrieval. The loop over the pieces of its body does
  with one piece what a writer does with it (`store_chunk_on`), so it ends where the writer ends and
  leaves what that leaves, with the octets counted (`store_on`).
-/

import BuildHarvest.Feed.Snapshot
import BuildHarvest.Proofs.Retrieval

namespace BuildHarvest.Feed

open BuildHarvest.Action
open Retrieval (Mishap answer asked kept pour pour_place retrieved retrieved_ok stored)

/-- What a mishap on the way of the feed is called. -/
def failureOf (url : String) : Mishap → Failure
  | .request fault | .refusal fault | .body fault => unfetched url fault
  | .creation e | .write e | .flush e => refused e

/-- One piece: it is written and counted, and the rest follows; or the system refuses it. -/
theorem store_chunk_on (url : String) (octets : Bytes) (rest : Transfer.Body) {s : Sink} (hl : s.place ≠ []) (written : UInt64)
    (v : Volume) (contents : Bytes) (w : World) :
    (store url (.chunk octets rest) s written).on { w with volume := v.fill s.place contents } =
      match s.writeAll octets (v.tree.room? s.place) contents with
      | (.ok s', c) =>
        (store url rest s' (written + octets.length.toUInt64)).on { w with volume := v.fill s.place c }
      | (.error e, c) => (.error (refused e), { w with volume := v.fill s.place c }) := by
  rw [store, on_bind, on_attemptPartly]
  simp only [Volume.within_fill v hl]
  rcases s.writeAll octets (v.tree.room? s.place) contents with ⟨e | s', c⟩ <;> rfl

/-- The pieces of a body: they are poured into the file, and counted. -/
theorem store_on (url : String) (body : Transfer.Body) {s : Sink} (hl : s.place ≠ []) (written : UInt64) (v : Volume)
    {given contents : Bytes} (h : s.Stands (v.tree.room? s.place) given contents) (w : World) :
    (store url body s written).on { w with volume := v.fill s.place contents } =
      match pour (v.tree.room? s.place) body s contents with
      | (.ok s', c) => (.ok (s', written + body.octets.length.toUInt64), { w with volume := v.fill s.place c })
      | (.error m, c) => (.error (failureOf url m), { w with volume := v.fill s.place c }) := by
  induction body generalizing s written given contents with
  | done =>
    rw [store, pour, Transfer.Body.octets]
    simp
  | cut =>
    rw [store, pour]
    rfl
  | chunk octets rest ih =>
    rw [store_chunk_on url octets rest hl, pour]
    have hpiece := Sink.comes_writeAll h octets
    rcases hw : s.writeAll octets (v.tree.room? s.place) contents with ⟨e | s', c⟩ <;> rw [hw] at hpiece
    · rfl
    · cases hpiece with
      | taken hplace h' =>
        simp only
        rw [← hplace] at hl h' ⊢
        rw [ih hl _ h', Transfer.Body.octets, List.length_append]
        simp only [Nat.toUInt64_eq, UInt64.ofNat_add, UInt64.add_assoc]

theorem keep_on (url : String) (file : Path) (body : Transfer.Body) (w : World) : (keep url file body).on w =
    (((kept file body w.volume).1.mapError (failureOf url)).map fun _ => body.octets.length.toUInt64,
      { w with volume := (kept file body w.volume).2 }) := by
  rw [keep, on_bind, on_attempt, Sink.create_eq, kept]
  rcases hc : w.volume.create file with e | ⟨l, u⟩
  · rfl
  · obtain ⟨hl, hu, hroom⟩ := Volume.fill_created hc
    have hstore := store_on url body (s := ⟨l, [], none⟩) hl 0 u (Sink.stands_new _ l) w
    rw [hu, hroom, UInt64.zero_add] at hstore
    simp only [Except.map, stored]
    rw [on_bind, hstore]
    rcases hp : pour (w.volume.tree.room? l) body ⟨l, [], none⟩ [] with ⟨m | s, c⟩
    · rfl
    · obtain rfl : l = s.place := (pour_place (Sink.stands_new _ l) hp).symm
      simp only
      rw [on_bind, on_attemptPartly, Volume.within_fill u hl, hroom]
      rcases s.flush (w.volume.tree.room? s.place) c with ⟨_ | _, _⟩ <;> rfl

theorem fetch_on (agent : Option String) (url : String) (file : Path) (w : World) : (fetch agent url file).on w =
    match retrieved agent url file w.volume w.network with
    | (.error m, v) => (.error (failureOf url m), { asked agent url (w.note (.fetchingFeed url)) with volume := v })
    | (.ok octets, v) => (.ok octets.length.toUInt64.toNat,
        { asked agent url (w.note (.fetchingFeed url)) with volume := v }.note
          (.storedFeed url file octets.length.toUInt64.toNat)) := by
  rw [fetch, on_bind, on_tell]
  simp only
  rw [on_bind, on_exchange]
  simp only [retrieved, answer, World.note]
  rcases hr : (Transfer.request agent url w.network).1 with fault | response
  · rfl
  · simp only [Except.bind]
    rcases ha : response.accepted with fault | response
    · rfl
    · simp only [mapError_ok]
      rw [on_bind, keep_on]
      rcases kept file response.body w.volume with ⟨m | _, v⟩ <;> rfl

theorem fetch_network (agent : Option String) (url : String) (file : Path) (w : World) :
    ((fetch agent url file).on w).2.network = (Transfer.request agent url w.network).2 := by
  rw [fetch_on]
  rcases retrieved agent url file w.volume w.network with ⟨m | octets, v⟩ <;> rfl

theorem fetch_ok {agent : Option String} {url : String} {file : Path} {w w' : World} {n : Nat}
    (h : (fetch agent url file).on w = (.ok n, w')) : ∃ response l v, answer agent url w.network = .ok response ∧
      response.body.isWhole = true ∧ w.volume.create file = .ok (l, v) ∧ w'.volume = v.fill l response.body.octets := by
  rw [fetch_on] at h
  rcases hr : retrieved agent url file w.volume w.network with ⟨m | octets, v⟩ <;> rw [hr] at h
  · cases (Prod.mk.inj h).1
  · obtain ⟨response, l, v', ha, hw, hc, rfl, rfl⟩ := retrieved_ok hr
    obtain ⟨-, rfl⟩ := Prod.mk.inj h
    exact ⟨response, l, v', ha, hw, hc, rfl⟩

theorem keeps_fetch {P : World → Prop} (note : ∀ w n, P w → P (w.note n)) {agent : Option String} {url : String} {file : Path}
    (ask : ∀ w n, P w → w.network.Same n → P { w with network := n })
    (write : ∀ w l v contents, P w → w.volume.create file = .ok (l, v) → P { w with volume := v.fill l contents }) :
    Keeps P (fetch agent url file) := by
  intro w h
  have hkept := Retrieval.keeps_retrieved agent url ask write (note w (.fetchingFeed url) h)
  rw [fetch_on]
  rcases hr : retrieved agent url file w.volume w.network with ⟨m | octets, v⟩ <;>
    simp only [World.note, hr] at hkept
  · exact hkept
  · exact note _ _ hkept

end BuildHarvest.Feed
