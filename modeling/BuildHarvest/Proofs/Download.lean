/-
  BuildHarvest.Proofs.Download — the attempts that a download is made of.

  A download of a list is its attempts, one after the other (`all_on`), each with the worlds
  before and after it. An attempt is a retrieval (`tryItem_eq`): its loop over the pieces of a body
  does with one piece what a writer does with it (`store_chunk_on`), so it ends where the writer ends
  and leaves what that leaves, with the octets counted and hashed (`store_on`).

  Proved: `attempts_get?`: in a directory where no artifact's name is a link, a download changes
  exactly the files that an attempt has put there, and each holds what the last such attempt put.
-/

import BuildHarvest.Download
import BuildHarvest.Proofs.Digest
import BuildHarvest.Proofs.Names
import BuildHarvest.Proofs.Retrieval
import BuildHarvest.Proofs.Volume

namespace BuildHarvest.Download

open BuildHarvest.Action
open Retrieval (Mishap answer answer_error asked kept pour pour_place retrieved stored stored_cases)
open BuildHarvest.Tree (isUnder)

/-! ## One file -/

/-- What a mishap on the way of an item is called. -/
def reasonOf (url : String) (file : Path) : Mishap → String
  | .request fault => context ("Failed to request " ++ url) fault.account
  | .refusal fault => context ("Failed to fetch " ++ url) fault.account
  | .creation e => context ("Failed to create output file: " ++ file.text) e.reason
  | .write e => context ("Failed to write to " ++ file.text) e.reason
  | .body fault => context ("Failed to read from " ++ url) fault.account
  | .flush e => context ("Failed to flush " ++ file.text) e.reason

section Keep

variable (url : String) (file : Path)

/-- One piece: it is hashed, written and counted, and the rest follows; or the system refuses it. -/
theorem store_chunk_on (octets : Bytes) (rest : Transfer.Body) {s : Sink} (hl : s.place ≠ []) (hasher : Sha256.Hasher)
    (written : UInt64) (v : Volume) (contents : Bytes) (w : World) :
    (store url file (.chunk octets rest) s hasher written).on { w with volume := v.fill s.place contents } =
      match s.writeAll octets (v.tree.room? s.place) contents with
      | (.ok s', c) => (store url file rest s' (hasher.update octets) (written + octets.length.toUInt64)).on
          { w with volume := v.fill s.place c }
      | (.error e, c) => (.error (reasonOf url file (.write e)), { w with volume := v.fill s.place c }) := by
  rw [store, on_bind, on_attemptPartly]
  simp only [Volume.within_fill v hl]
  rcases s.writeAll octets (v.tree.room? s.place) contents with ⟨e | s', c⟩ <;> rfl

/-- The pieces of a body: they are poured into the file, and hashed and counted. -/
theorem store_on (body : Transfer.Body) {s : Sink} (hl : s.place ≠ []) {hasher : Sha256.Hasher} (written : UInt64) (v : Volume)
    {given contents : Bytes} (h : s.Stands (v.tree.room? s.place) given contents) (ht : hasher.Took given) (w : World) :
    ∃ hasher' : Sha256.Hasher, hasher'.Took (given ++ body.octets) ∧
      (store url file body s hasher written).on { w with volume := v.fill s.place contents } =
        match pour (v.tree.room? s.place) body s contents with
        | (.ok s', c) => (.ok (s', hasher', written + body.octets.length.toUInt64), { w with volume := v.fill s.place c })
        | (.error m, c) => (.error (reasonOf url file m), { w with volume := v.fill s.place c }) := by
  induction body generalizing s hasher written given contents with
  | done =>
    refine ⟨hasher, by rwa [Transfer.Body.octets, List.append_nil], ?_⟩
    rw [store, pour, Transfer.Body.octets]
    simp
  | cut =>
    refine ⟨hasher, by rwa [Transfer.Body.octets, List.append_nil], ?_⟩
    rw [store, pour]
    rfl
  | chunk octets rest ih =>
    rw [store_chunk_on url file octets rest hl, pour]
    have hpiece := Sink.comes_writeAll h octets
    rcases hw : s.writeAll octets (v.tree.room? s.place) contents with ⟨e | s', c⟩ <;> rw [hw] at hpiece
    · exact ⟨_, ht.update (octets ++ rest.octets), rfl⟩
    · cases hpiece with
      | taken hplace h' =>
        simp only
        rw [← hplace] at hl h' ⊢
        obtain ⟨hasher', ht', hstore⟩ := ih hl (written + octets.length.toUInt64) h' (ht.update octets)
        refine ⟨hasher', by rwa [Transfer.Body.octets, ← List.append_assoc], ?_⟩
        rw [hstore, Transfer.Body.octets, List.length_append]
        simp only [Nat.toUInt64_eq, UInt64.ofNat_add, UInt64.add_assoc]

theorem keep_on (body : Transfer.Body) (w : World) : (keep url file body).on w =
    (((kept file body w.volume).1.mapError (reasonOf url file)).map
        fun _ => (body.octets.length.toUInt64, Sha256.hex body.octets),
      { w with volume := (kept file body w.volume).2 }) := by
  rw [keep, on_bind, on_attempt, Sink.create_eq, kept]
  rcases hc : w.volume.create file with e | ⟨l, u⟩
  · rfl
  · obtain ⟨hl, hu, hroom⟩ := Volume.fill_created hc
    obtain ⟨hasher, ht, hstore⟩ := store_on url file body (s := ⟨l, [], none⟩) hl 0 u (Sink.stands_new _ l) Sha256.Hasher.took_new w
    have hdigest : Sha256.hexText hasher.finish = Sha256.hex body.octets := by rw [ht.finish_eq]; rfl
    rw [hu, hroom, UInt64.zero_add] at hstore
    simp only [Except.map, stored]
    rw [on_bind, hstore]
    rcases hp : pour (w.volume.tree.room? l) body ⟨l, [], none⟩ [] with ⟨m | s, c⟩
    · rfl
    · obtain rfl : l = s.place := (pour_place (Sink.stands_new _ l) hp).symm
      simp only
      rw [on_bind, on_attemptPartly, Volume.within_fill u hl, hroom, hdigest]
      rcases s.flush (w.volume.tree.room? s.place) c with ⟨_ | _, _⟩ <;> rfl

theorem one_on (agent : Option String) (w : World) : (one agent url file).on w =
    (((retrieved agent url file w.volume w.network).1.mapError (reasonOf url file)).map
        fun octets => (octets.length.toUInt64, Sha256.hex octets),
      { asked agent url w with volume := (retrieved agent url file w.volume w.network).2 }) := by
  rw [one, on_bind, on_exchange]
  simp only [retrieved, answer]
  rcases hr : (Transfer.request agent url w.network).1 with fault | response
  · rfl
  · simp only [mapError_ok]
    rw [on_bind, on_orThrow]
    rcases ha : response.accepted with fault | response
    · rfl
    · simp only [mapError_ok]
      rw [keep_on]
      rcases kept file response.body w.volume with ⟨m | _, v⟩ <;> rfl

theorem keeps_one {P : World → Prop} {agent : Option String} {url : String} {file : Path}
    (ask : ∀ w n, P w → w.network.Same n → P { w with network := n })
    (write : ∀ w l v contents, P w → w.volume.create file = .ok (l, v) → P { w with volume := v.fill l contents }) :
    Keeps P (one agent url file) := by
  intro w h
  rw [one_on]
  exact Retrieval.keeps_retrieved agent url ask write h

end Keep

/-! ## One attempt -/

/-- What an attempt comes to, and the world after it. -/
def tryItem (agent : Option String) (item : Item) (file : Path) (w : World) : Status × World :=
  match (one agent item.url file).on w with
  | (.ok (bytes, digest), w₁) => (.downloaded bytes digest, w₁.note (.downloaded item.url bytes.toNat digest))
  | (.error reason, w₁) => (.failed reason, w₁.note (.downloadFailed reason))

theorem attemptItem_on (agent : Option String) (item : Item) (file : Path) (w : World) :
    (attemptItem agent item file).on w = (.ok (tryItem agent item file w).1, (tryItem agent item file w).2) := by
  rw [attemptItem, on_bind, on_outcome, tryItem]
  rcases (one agent item.url file).on w with ⟨_ | ⟨_, _⟩, _⟩ <;> rfl

/-- What an item is said to have come to, by its retrieval. -/
def statusOf (url : String) (file : Path) : Except Mishap Bytes → Status
  | .ok octets => .downloaded octets.length.toUInt64 (Sha256.hex octets)
  | .error m => .failed (reasonOf url file m)

section One

variable (agent : Option String) (item : Item) (file : Path) (w : World)

/-- An attempt is a retrieval. -/
theorem tryItem_eq : (tryItem agent item file w).1 = statusOf item.url file (retrieved agent item.url file w.volume w.network).1 ∧
    (tryItem agent item file w).2.volume = (retrieved agent item.url file w.volume w.network).2 ∧
    (tryItem agent item file w).2.network = (Transfer.request agent item.url w.network).2 := by
  rw [tryItem, one_on]
  rcases retrieved agent item.url file w.volume w.network with ⟨m | octets, v⟩ <;> exact ⟨rfl, rfl, rfl⟩

theorem tryItem_asked : (tryItem agent item file w).2.network = (Transfer.request agent item.url w.network).2 :=
  (tryItem_eq agent item file w).2.2

theorem tryItem_network : w.network.Same (tryItem agent item file w).2.network := by
  rw [tryItem_asked]
  exact (Transfer.request_same (.refl _) agent item.url).2

/-- What an attempt puts into its file, if it gets as far as that. -/
def deposit? (agent : Option String) (item : Item) (file : Path) (w : World) : Option Bytes :=
  match answer agent item.url w.network with
  | .error _ => none
  | .ok response =>
    match w.volume.create file with
    | .error _ => none
    | .ok (l, _) => some (stored (w.volume.tree.room? l) l response.body).2

/-- An attempt ends before its file is touched, or puts there what the writer makes of an accepted body. -/
theorem tryItem_cases :
    (∃ m : Mishap, m.IsEarly ∧ deposit? agent item file w = none ∧ (tryItem agent item file w).1 = .failed (reasonOf item.url file m) ∧
      (tryItem agent item file w).2.volume = w.volume) ∨
    ∃ response l v, answer agent item.url w.network = .ok response ∧ w.volume.create file = .ok (l, v) ∧
      deposit? agent item file w = some (stored (w.volume.tree.room? l) l response.body).2 ∧
      (tryItem agent item file w).2.volume = v.fill l (stored (w.volume.tree.room? l) l response.body).2 ∧
      (tryItem agent item file w).1 =
        statusOf item.url file ((stored (w.volume.tree.room? l) l response.body).1.map fun _ => response.body.octets) := by
  obtain ⟨hs, hv, _⟩ := tryItem_eq agent item file w
  rw [hs, hv, retrieved, deposit?]
  rcases ha : answer agent item.url w.network with m | response
  · exact .inl ⟨m, answer_error ha, rfl, rfl, rfl⟩
  · simp only [kept]
    rcases w.volume.create file with e | ⟨l, v⟩
    · exact .inl ⟨.creation e, trivial, rfl, rfl, rfl⟩
    · exact .inr ⟨response, l, v, rfl, rfl, rfl, rfl, rfl⟩

variable {agent item file w}

/-- An attempt that succeeded has put a whole body into its file. -/
theorem tryItem_downloaded {bytes : UInt64} {digest : String} (h : (tryItem agent item file w).1 = .downloaded bytes digest) :
    ∃ response, answer agent item.url w.network = .ok response ∧ response.body.isWhole = true ∧
      deposit? agent item file w = some response.body.octets ∧ bytes = response.body.octets.length.toUInt64 ∧
      digest = Sha256.hex response.body.octets := by
  rcases tryItem_cases agent item file w with ⟨m, _, _, hs, _⟩ | ⟨response, l, v, ha, _, hd, _, hs⟩
  · rw [hs] at h
    cases h
  · have hstored := stored_cases (w.volume.tree.room? l) l response.body
    rw [hs] at h
    rcases hr : stored (w.volume.tree.room? l) l response.body with ⟨r, contents⟩
    rw [hr] at hstored hd h
    cases hstored with
    | whole hw _ =>
      obtain ⟨rfl, rfl⟩ := Status.downloaded.inj h
      exact ⟨response, ha, hw, hd, rfl, rfl⟩
    | cut => cases h
    | refused => cases h

end One

/-! ## All attempts -/

structure Attempt where
  item : Item
  before : World
  status : Status
  after : World

def Attempt.outcome (a : Attempt) : Outcome := ⟨a.item.filename, a.item.url, a.status⟩

/-- Where an item goes. -/
def fileOf (dir : Path) (item : Item) : Path := dir.join (.ofText item.filename)

section

variable (agent : Option String) (dir : Path) (policy : FailurePolicy)

/-- The attempt on the item at an index of `total`, once it has been announced. -/
def attempt (total index : Nat) (item : Item) (w : World) : Attempt :=
  let before := w.note (.downloading item.filename item.url (fileOf dir item) (index + 1) total)
  ⟨item, before, (tryItem agent item (fileOf dir item) before).1, (tryItem agent item (fileOf dir item) before).2⟩

/-- Nothing is attempted after this attempt. -/
def Attempt.IsLast (a : Attempt) : Prop := (!a.outcome.isSuccess) = true ∧ policy = .failFast

instance (a : Attempt) : Decidable (a.IsLast policy) := inferInstanceAs (Decidable (_ ∧ _))

/-- The attempts on the items from one of `total` on. -/
def attemptsFrom (total : Nat) : Nat → List Item → World → List Attempt
  | _, [], _ => []
  | index, item :: rest, w =>
    let a := attempt agent dir total index item w
    a :: if a.IsLast policy then [] else attemptsFrom total (index + 1) rest a.after

def attempts (items : List Item) (w : World) : List Attempt := attemptsFrom agent dir policy items.length 0 items w

/-- The world after some attempts that began in a world. -/
def ending (w : World) (as : List Attempt) : World := as.foldl (fun _ a => a.after) w

/-- A list of items by its first: where the attempt on it is the last one, the rest is left out. -/
theorem attemptFrom_cons_on (total index : Nat) (item : Item) (rest : List Item) (w : World) :
    (attemptFrom agent dir policy total index (item :: rest)).on w =
      let a := attempt agent dir total index item w
      if a.IsLast policy then (.ok [a.outcome], if 0 < rest.length then a.after.note (.stopping rest.length) else a.after)
      else (do
        let os ← attemptFrom agent dir policy total (index + 1) rest
        return a.outcome :: os : Action Failure (List Outcome)).on a.after := by
  rw [attemptFrom]
  simp only [on_bind, on_tell, attemptItem_on]
  show (if (attempt agent dir total index item w).IsLast policy then (do
      if 0 < rest.length then tell (.stopping rest.length)
      return [(attempt agent dir total index item w).outcome] : Action Failure (List Outcome))
    else do
      let os ← attemptFrom agent dir policy total (index + 1) rest
      return (attempt agent dir total index item w).outcome :: os).on (attempt agent dir total index item w).after = _
  generalize attempt agent dir total index item w = a
  by_cases h : a.IsLast policy
  · simp only [if_pos h]
    split <;> rfl
  · simp only [if_neg h, on_bind]

/-- A list of attempts gives their outcomes, and all that is told after the last of them is that
the list was left there. -/
theorem attemptFrom_on (total index : Nat) (items : List Item) (w : World) : ∃ w',
    (attemptFrom agent dir policy total index items).on w =
      (.ok ((attemptsFrom agent dir policy total index items w).map Attempt.outcome), w') ∧
    w'.volume = (ending w (attemptsFrom agent dir policy total index items w)).volume ∧
    w'.network = (ending w (attemptsFrom agent dir policy total index items w)).network := by
  induction items generalizing index w with
  | nil => exact ⟨w, rfl, rfl, rfl⟩
  | cons item rest ih =>
    rw [attemptFrom_cons_on, attemptsFrom]
    generalize attempt agent dir total index item w = a
    by_cases h : a.IsLast policy
    · simp only [if_pos h]
      split <;> exact ⟨_, rfl, rfl, rfl⟩
    · simp only [if_neg h]
      obtain ⟨w', hw', hv, hn⟩ := ih (index + 1) a.after
      refine ⟨w', ?_, hv, hn⟩
      rw [on_bind, hw']
      rfl

theorem all_on (items : List Item) (w : World) : ∃ w',
    (all agent items dir policy).on w = (.ok ((attempts agent dir policy items w).map Attempt.outcome), w') ∧
    w'.volume = (ending w (attempts agent dir policy items w)).volume ∧
    w'.network = (ending w (attempts agent dir policy items w)).network := attemptFrom_on agent dir policy _ 0 items w

theorem keeps_all {P : World → Prop} (note : ∀ w n, P w → P (w.note n)) {items : List Item}
    (ask : ∀ w n, P w → w.network.Same n → P { w with network := n })
    (write : ∀ item ∈ items, ∀ w l v contents, P w → w.volume.create (fileOf dir item) = .ok (l, v) →
      P { w with volume := v.fill l contents }) : Keeps P (all agent items dir policy) := by
  suffices h : ∀ (rest : List Item), (∀ item ∈ rest, item ∈ items) → ∀ index,
      Keeps P (attemptFrom agent dir policy items.length index rest) from h items (fun _ h => h) 0
  intro rest hrest
  induction rest with
  | nil => exact fun _ => keeps_pure _
  | cons item rest ih =>
    intro index
    have hitem : Keeps P (attemptItem agent item (fileOf dir item)) := by
      refine keeps_bind (keeps_outcome (keeps_one ask (write item (hrest item List.mem_cons_self)))) fun r => ?_
      cases r with
      | ok octets => exact keeps_bind (keeps_tell note _) fun _ => keeps_pure _
      | error m => exact keeps_bind (keeps_tell note _) fun _ => keeps_pure _
    have hrest' := ih (fun i hi => hrest i (List.mem_cons_of_mem _ hi)) (index + 1)
    refine keeps_bind (keeps_tell note _) fun _ => keeps_bind hitem fun status => ?_
    simp only
    split
    · split
      · exact keeps_bind (keeps_tell note _) fun _ => keeps_pure _
      · exact keeps_pure _
    · exact keeps_bind hrest' fun _ => keeps_pure _

/-! ## What the attempts were on -/

theorem attempt_spec {total index : Nat} {items : List Item} {w : World} {a : Attempt}
    (h : a ∈ attemptsFrom agent dir policy total index items w) : a.item ∈ items ∧
      a.status = (tryItem agent a.item (fileOf dir a.item) a.before).1 ∧
      a.after = (tryItem agent a.item (fileOf dir a.item) a.before).2 ∧ w.network.Same a.before.network := by
  induction items generalizing index w with
  | nil => cases h
  | cons item rest ih =>
    rw [attemptsFrom] at h
    rcases List.mem_cons.mp h with rfl | h
    · exact ⟨List.mem_cons_self, rfl, rfl, .refl _⟩
    · split at h
      · cases h
      · obtain ⟨hi, hs, ha, hn⟩ := ih h
        have hnet : w.network.Same (attempt agent dir total index item w).after.network :=
          tryItem_network agent item (fileOf dir item) (attempt agent dir total index item w).before
        exact ⟨List.mem_cons_of_mem _ hi, hs, ha, hnet.trans hn⟩

/-- The attempt at a position is on the item there, in the world that those before it end in. -/
theorem attemptsFrom_getElem? {total index : Nat} {items : List Item} {w : World} {i : Nat} {a : Attempt}
    (h : (attemptsFrom agent dir policy total index items w)[i]? = some a) : items[i]? = some a.item ∧
      a = attempt agent dir total (index + i) a.item
        (ending w ((attemptsFrom agent dir policy total index items w).take i)) := by
  induction items generalizing index w i with
  | nil => cases h
  | cons item rest ih =>
    rw [attemptsFrom] at h ⊢
    cases i with
    | zero =>
      obtain rfl := Option.some.inj h
      exact ⟨rfl, rfl⟩
    | succ i =>
      rw [List.getElem?_cons_succ] at h
      split at h
      · cases h
      · rename_i hl
        obtain ⟨hitem, ha⟩ := ih h
        simp only [if_neg hl]
        exact ⟨hitem, by rw [show index + (i + 1) = index + 1 + i by omega]; exact ha⟩

/-- Where all attempts succeeded, every item has been attempted. -/
theorem attempts_items {total index : Nat} {items : List Item} {w : World}
    (h : ∀ a ∈ attemptsFrom agent dir policy total index items w, a.outcome.isSuccess = true) :
    (attemptsFrom agent dir policy total index items w).map (·.item) = items := by
  induction items generalizing index w with
  | nil => rfl
  | cons item rest ih =>
    rw [attemptsFrom] at h ⊢
    have ha := h _ List.mem_cons_self
    have hl : ¬ (attempt agent dir total index item w).IsLast policy := fun hl => by
      have := hl.1
      rw [ha] at this
      cases this
    rw [if_neg hl] at h ⊢
    rw [List.map_cons, ih (fun a ha => h a (List.mem_cons_of_mem _ ha))]
    rfl

/-! ## What the attempts leave -/

def Attempt.deposit? (a : Attempt) : Option Bytes := Download.deposit? agent a.item (fileOf dir a.item) a.before

/-- What the last attempt that put something into the file of a name put there. -/
def lastDeposit? : List Attempt → Bytes → Option Bytes
  | [], _ => none
  | a :: as, name => (lastDeposit? as name).or (if Utf8.encode a.item.filename = name then a.deposit? agent dir else none)

variable {agent dir policy}

theorem mem_of_lastDeposit? {as : List Attempt} {name contents : Bytes} (h : lastDeposit? agent dir as name = some contents) :
    ∃ a ∈ as, Utf8.encode a.item.filename = name ∧ a.deposit? agent dir = some contents := by
  induction as with
  | nil => cases h
  | cons a as ih =>
    rw [lastDeposit?, Option.or_eq_some_iff] at h
    rcases h with h | ⟨_, h⟩
    · obtain ⟨b, hb, hn, hd⟩ := ih h
      exact ⟨b, List.mem_cons_of_mem _ hb, hn, hd⟩
    · split at h
      · rename_i hn
        exact ⟨a, List.mem_cons_self, hn, h⟩
      · cases h

theorem lastDeposit?_eq {as : List Attempt} {name contents : Bytes}
    (h : ∀ a ∈ as, Utf8.encode a.item.filename = name → a.deposit? agent dir = some contents)
    (hex : ∃ a ∈ as, Utf8.encode a.item.filename = name) : lastDeposit? agent dir as name = some contents := by
  induction as with
  | nil => obtain ⟨_, ha, _⟩ := hex; cases ha
  | cons a as ih =>
    have hlater := ih (fun b hb => h b (List.mem_cons_of_mem _ hb))
    rw [lastDeposit?]
    by_cases hex' : ∃ b ∈ as, Utf8.encode b.item.filename = name
    · rw [hlater hex']
      rfl
    · have hnone : lastDeposit? agent dir as name = none := by
        cases hl : lastDeposit? agent dir as name with
        | none => rfl
        | some c =>
          obtain ⟨b, hb, hn, _⟩ := mem_of_lastDeposit? hl
          exact absurd ⟨b, hb, hn⟩ hex'
      obtain ⟨b, hb, hn⟩ := hex
      rcases List.mem_cons.mp hb with rfl | hb
      · rw [hnone, if_pos hn, h _ List.mem_cons_self hn]
        rfl
      · exact absurd ⟨b, hb, hn⟩ hex'

/-- What one attempt leaves, in a directory where the attempted name is no link. -/
theorem attempt_get? (total index : Nat) {item : Item} {w : World} {d : Loc} (hd : w.volume.LeadsTo dir d)
    (hn : Path.IsName (Utf8.encode item.filename))
    (hl : ∀ target, w.volume.tree.get? (d ++ [Utf8.encode item.filename]) ≠ some (.link target)) :
    w.volume.Adds (attempt agent dir total index item w).after.volume ∧ ∀ l,
      (attempt agent dir total index item w).after.volume.tree.get? l =
        ((if l = d ++ [Utf8.encode item.filename] then (attempt agent dir total index item w).deposit? agent dir
          else none).map Entry.file).or (w.volume.tree.get? l) := by
  generalize ha : attempt agent dir total index item w = a
  have hitem : a.item = item := by rw [← ha]; rfl
  have hbefore : a.before.volume = w.volume := by rw [← ha]; rfl
  have hafter : a.after = (tryItem agent a.item (fileOf dir a.item) a.before).2 := by rw [← ha]; rfl
  rw [Attempt.deposit?, hafter]
  rcases tryItem_cases agent a.item (fileOf dir a.item) a.before with
    ⟨_, _, hnone, _, hv⟩ | ⟨response, l', v, _, hc, hsome, hv, _⟩
  · rw [hv, hnone, hbefore]
    exact ⟨.refl _, fun l => by simp⟩
  · rw [hitem, hbefore] at hc
    have hp := Volume.puts_of_create hc (stored (a.before.volume.tree.room? l') l' response.body).2
    obtain rfl := Volume.create_name hn hd hl hc
    rw [hv, hsome]
    refine ⟨hp.adds, fun l => ?_⟩
    rw [hp.get?]
    split <;> rfl

/-- The same by the entries of the directory and all other places. -/
theorem attempt_entries (total index : Nat) {item : Item} {w : World} {d : Loc} (hd : w.volume.LeadsTo dir d)
    (hn : Path.IsName (Utf8.encode item.filename))
    (hl : ∀ target, w.volume.tree.get? (d ++ [Utf8.encode item.filename]) ≠ some (.link target)) :
    w.volume.Adds (attempt agent dir total index item w).after.volume ∧
    (∀ name, (attempt agent dir total index item w).after.volume.tree.get? (d ++ [name]) =
      ((if Utf8.encode item.filename = name then (attempt agent dir total index item w).deposit? agent dir
        else none).map Entry.file).or (w.volume.tree.get? (d ++ [name]))) ∧
    ∀ l, (∀ name, l ≠ d ++ [name]) → (attempt agent dir total index item w).after.volume.tree.get? l = w.volume.tree.get? l := by
  obtain ⟨hadds, hget⟩ := attempt_get? total index hd hn hl
  refine ⟨hadds, fun name => ?_, fun l hne => ?_⟩
  · rw [hget]
    by_cases he : Utf8.encode item.filename = name
    · rw [if_pos he, he, if_pos rfl]
    · rw [if_neg he, if_neg (by simpa using Ne.symm he)]
  · rw [hget, if_neg (hne _)]
    rfl

/-- What a list of attempts leaves: in a directory where no attempted name is a link, each file
holds what was put there last, and nothing else has changed. -/
theorem attempts_get? (total index : Nat) {items : List Item} {w : World} {d : Loc} (hd : w.volume.LeadsTo dir d)
    (hn : ∀ item ∈ items, Path.IsName (Utf8.encode item.filename))
    (hl : ∀ item ∈ items, ∀ target, w.volume.tree.get? (d ++ [Utf8.encode item.filename]) ≠ some (.link target)) :
    w.volume.Adds (ending w (attemptsFrom agent dir policy total index items w)).volume ∧
      (∀ name, (ending w (attemptsFrom agent dir policy total index items w)).volume.tree.get? (d ++ [name]) =
        ((lastDeposit? agent dir (attemptsFrom agent dir policy total index items w) name).map Entry.file).or
          (w.volume.tree.get? (d ++ [name]))) ∧
      ∀ l, (∀ name, l ≠ d ++ [name]) →
        (ending w (attemptsFrom agent dir policy total index items w)).volume.tree.get? l = w.volume.tree.get? l := by
  induction items generalizing index w with
  | nil => exact ⟨.refl _, fun _ => rfl, fun _ _ => rfl⟩
  | cons item rest ih =>
    rw [attemptsFrom]
    obtain ⟨hadds, single⟩ := @attempt_entries agent dir total index item w d hd (hn item List.mem_cons_self)
      (hl item List.mem_cons_self)
    have hitem : (attempt agent dir total index item w).item = item := rfl
    generalize attempt agent dir total index item w = a at hadds single hitem ⊢
    subst hitem
    split
    · exact ⟨hadds, single⟩
    · have hl' : ∀ item ∈ rest, ∀ target, a.after.volume.tree.get? (d ++ [Utf8.encode item.filename]) ≠ some (.link target) := by
        intro item hi target
        rw [single.1]
        split
        · cases a.deposit? agent dir with
          | none => exact hl item (List.mem_cons_of_mem _ hi) target
          | some c => simp
        · exact hl item (List.mem_cons_of_mem _ hi) target
      obtain ⟨hadds', hname, hother⟩ := ih (index + 1) (hadds.leadsTo hd) (fun i hi => hn i (List.mem_cons_of_mem _ hi)) hl'
      refine ⟨hadds.trans hadds', fun name => ?_, fun l hne => (hother l hne).trans (single.2 l hne)⟩
      rw [show ending w (a :: attemptsFrom agent dir policy total (index + 1) rest a.after) =
        ending a.after (attemptsFrom agent dir policy total (index + 1) rest a.after) from rfl, hname, single.1, lastDeposit?]
      cases lastDeposit? agent dir (attemptsFrom agent dir policy total (index + 1) rest a.after) name <;> rfl

end

end BuildHarvest.Download
