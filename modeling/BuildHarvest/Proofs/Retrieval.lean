/-
  BuildHarvest.Proofs.Retrieval — what a server's answer puts into a file.

  Proved:
  - `request_same`: an answer depends on the link and on what the servers hold, not on what has
    been asked before, and asking changes neither.
  - `request_asks`: a request asks for its own locator and for those that it is redirected to,
    and for no others.
  - `poured_pour`, `stored_cases`: a body that is written to a file piece by piece is there as a
    whole, or it was cut and all but what waited in the writer's buffer is there, or the file is full.

  `retrieved` is what a retrieval comes to by its answer, by what the file's place allows and by the
  pieces of the body. That the feed and each artifact are retrieved like that is shown of the two
  loops, each in its place.
-/

import BuildHarvest.Proofs.Action
import BuildHarvest.Proofs.Sink
import BuildHarvest.Transfer

namespace BuildHarvest

/-! ## The same servers -/

/-- Two networks with the same link and the same resources, whatever has been asked. -/
def Network.Same (n n' : Network) : Prop := n'.isUp = n.isUp ∧ n'.resources = n.resources

theorem Network.Same.refl (n : Network) : n.Same n := ⟨rfl, rfl⟩

theorem Network.Same.trans {a b c : Network} (hab : a.Same b) (hbc : b.Same c) : a.Same c :=
  ⟨hbc.1.trans hab.1, hbc.2.trans hab.2⟩

namespace Transfer

theorem follow_down {n : Network} (h : n.isUp = false) (agent : Option String) (left : Nat) (url : Url) :
    follow agent left url n = (.error (.unreachable url), n) := by
  unfold follow
  simp only [h, Bool.not_false, if_true]

/-- One request over a link that is up, by the resource that is asked for. -/
theorem follow_up {n : Network} (h : n.isUp = true) {agent : Option String} {left : Nat} {url : Url} {r : Resource}
    (hr : n.resourceAt url.requestText = r) : follow agent left url n =
      if r.breakage = some .drop then (.error (.dropped url), n.hear ⟨url.requestText, agent⟩)
      else
        match next? url r with
        | none => (.ok ⟨url, r.status, bodyOf r⟩, n.hear ⟨url.requestText, agent⟩)
        | some next =>
          match left with
          | 0 => (.error (.tooManyRedirects next), n.hear ⟨url.requestText, agent⟩)
          | left + 1 =>
            if next.isHttp then follow agent left next (n.hear ⟨url.requestText, agent⟩)
            else (.error (.unsupported next), n.hear ⟨url.requestText, agent⟩) := by
  have hup : ¬ (!n.isUp) = true := by rw [h]; decide
  obtain rfl := hr
  rw [follow.eq_def]
  exact if_neg hup

theorem follow_same {n n' : Network} (h : n.Same n') (agent : Option String) (left : Nat) (url : Url) :
    (follow agent left url n').1 = (follow agent left url n).1 ∧ n.Same (follow agent left url n').2 := by
  induction left generalizing url n n' with
  | zero =>
    cases hup : n.isUp with
    | false =>
      rw [follow_down hup, follow_down (h.1.trans hup)]
      exact ⟨rfl, h⟩
    | true =>
      have hr : n'.resourceAt url.requestText = n.resourceAt url.requestText := by simp only [Network.resourceAt, h.2]
      rw [follow_up hup rfl, follow_up (h.1.trans hup) hr]
      generalize n.resourceAt url.requestText = r
      split
      · exact ⟨rfl, h⟩
      · cases next? url r <;> exact ⟨rfl, h⟩
  | succ left ih =>
    cases hup : n.isUp with
    | false =>
      rw [follow_down hup, follow_down (h.1.trans hup)]
      exact ⟨rfl, h⟩
    | true =>
      have hr : n'.resourceAt url.requestText = n.resourceAt url.requestText := by simp only [Network.resourceAt, h.2]
      rw [follow_up hup rfl, follow_up (h.1.trans hup) hr]
      generalize n.resourceAt url.requestText = r
      split
      · exact ⟨rfl, h⟩
      · cases next? url r with
        | none => exact ⟨rfl, h⟩
        | some next =>
          simp only
          split
          · have hheard : (n.hear ⟨url.requestText, agent⟩).Same (n'.hear ⟨url.requestText, agent⟩) := h
            exact ih hheard next
          · exact ⟨rfl, h⟩

theorem request_same {n n' : Network} (h : n.Same n') (agent : Option String) (text : String) :
    (request agent text n').1 = (request agent text n).1 ∧ n.Same (request agent text n').2 := by
  unfold request
  split
  · exact ⟨rfl, h⟩
  · exact follow_same h agent maxRedirects _

/-! ## What is asked of the servers -/

/-- A locator leads on to itself and, where what is found at it has moved, to where that leads on to. -/
inductive LeadsOn (n : Network) : Url → Url → Prop where
  | self (url : Url) : LeadsOn n url url
  | moved {url next last : Url} (hm : next? url (n.resourceAt url.requestText) = some next) (h : LeadsOn n next last) :
      LeadsOn n url last

/-- One network after another: some requests have come, each for a locator that a given one leads on to. -/
def Asks (n₀ : Network) (agent : Option String) (url : Url) (n n' : Network) : Prop :=
  ∃ asked, n' = { n with requests := n.requests ++ asked } ∧
    ∀ r ∈ asked, ∃ last, LeadsOn n₀ url last ∧ r = ⟨last.requestText, agent⟩

theorem Asks.nothing (n₀ : Network) (agent : Option String) (url : Url) (n : Network) : Asks n₀ agent url n n :=
  ⟨[], by simp, by simp⟩

theorem Asks.once (n₀ : Network) (agent : Option String) (url : Url) (n : Network) :
    Asks n₀ agent url n (n.hear ⟨url.requestText, agent⟩) :=
  ⟨[⟨url.requestText, agent⟩], rfl, fun _ hr => ⟨url, .self url, List.mem_singleton.mp hr⟩⟩

/-- A request that is sent on to where its resource has moved. -/
theorem Asks.moved {n₀ : Network} {agent : Option String} {url next : Url} {n n' : Network}
    (hm : next? url (n₀.resourceAt url.requestText) = some next)
    (h : Asks n₀ agent next (n.hear ⟨url.requestText, agent⟩) n') : Asks n₀ agent url n n' := by
  obtain ⟨asked, rfl, hasked⟩ := h
  refine ⟨⟨url.requestText, agent⟩ :: asked, by simp [Network.hear], fun r hr => ?_⟩
  rcases List.mem_cons.mp hr with rfl | hr
  · exact ⟨url, .self url, rfl⟩
  · obtain ⟨last, hlast, rfl⟩ := hasked r hr
    exact ⟨last, .moved hm hlast, rfl⟩

/-- A locator that is followed: no server is reached, one request ends it, or its resource has moved. -/
theorem follow_cases (agent : Option String) (left : Nat) (url : Url) (n : Network) :
    follow agent left url n = (.error (.unreachable url), n) ∨
      (∃ r, follow agent left url n = (r, n.hear ⟨url.requestText, agent⟩)) ∨
      ∃ k next, left = k + 1 ∧ next? url (n.resourceAt url.requestText) = some next ∧
        follow agent left url n = follow agent k next (n.hear ⟨url.requestText, agent⟩) := by
  cases hup : n.isUp with
  | false => exact .inl (follow_down hup agent left url)
  | true =>
    refine .inr ?_
    rw [follow_up hup rfl]
    split
    · exact .inl ⟨_, rfl⟩
    · cases hm : next? url (n.resourceAt url.requestText) with
      | none => exact .inl ⟨_, rfl⟩
      | some next =>
        cases left with
        | zero => exact .inl ⟨_, rfl⟩
        | succ left =>
          simp only
          by_cases hhttp : next.isHttp = true
          · rw [if_pos hhttp]
            exact .inr ⟨left, next, rfl, rfl, rfl⟩
          · rw [if_neg hhttp]
            exact .inl ⟨_, rfl⟩

/-- Following redirects asks for nothing but what the locator leads on to. -/
theorem follow_asks {n₀ n : Network} (h : n₀.Same n) (agent : Option String) (left : Nat) (url : Url) :
    Asks n₀ agent url n (follow agent left url n).2 := by
  induction left using Nat.strongRecOn generalizing url n with
  | ind left ih =>
    rcases follow_cases agent left url n with hf | ⟨r, hf⟩ | ⟨k, next, hk, hm, hf⟩
    · rw [hf]
      exact .nothing n₀ agent url n
    · rw [hf]
      exact .once n₀ agent url n
    · have hmoved : next? url (n₀.resourceAt url.requestText) = some next := by
        rw [← hm, Network.resourceAt, Network.resourceAt, h.2]
      have hheard : n₀.Same (n.hear ⟨url.requestText, agent⟩) := h
      rw [hf]
      exact .moved hmoved (ih k (by omega) hheard next)

/-- A request for a text's locator asks for nothing but what that leads on to. -/
theorem request_asks (agent : Option String) (text : String) (n : Network) :
    (request agent text n).2 = n ∨ ∃ url, target text = .ok url ∧ Asks n agent url n (request agent text n).2 := by
  unfold request
  cases target text with
  | error fault => exact .inl rfl
  | ok url => exact .inr ⟨url, rfl, follow_asks (.refl n) agent maxRedirects url⟩

end Transfer

namespace Retrieval

open BuildHarvest.Action
open Volume (fitting overflow? fitting_eq_self)
open Sink (bufferSize)

/-- Where a retrieval ended. -/
inductive Mishap where
  | request (fault : Transfer.Fault)
  | refusal (fault : Transfer.Fault)
  | creation (e : Errno)
  | write (e : Errno)
  | body (fault : Transfer.Fault)
  | flush (e : Errno)
  deriving DecidableEq, Repr

/-- The file has not been touched yet. -/
def Mishap.IsEarly : Mishap → Prop
  | .request _ | .refusal _ | .creation _ => True
  | .write _ | .body _ | .flush _ => False

/-! ## A body piece by piece -/

/-- A body written to a sink, up to its end or to the first mishap. -/
def pour (room : Option Nat) : Transfer.Body → Sink → Bytes → Except Mishap Sink × Bytes
  | .done, s, contents => (.ok s, contents)
  | .cut, _, contents => (.error (.body .cut), contents)
  | .chunk octets rest, s, contents =>
    match s.writeAll octets room contents with
    | (.ok s, contents) => pour room rest s contents
    | (.error e, contents) => (.error (.write e), contents)

/-- How a sink stands behind a body, or why it does not get there. -/
inductive Poured (room : Option Nat) (place : Loc) (given : Bytes) (body : Transfer.Body) :
    Except Mishap Sink × Bytes → Prop where
  | whole {s : Sink} {contents : Bytes} (hw : body.isWhole = true) (hplace : s.place = place)
      (h : s.Stands room (given ++ body.octets) contents) : Poured room place given body (.ok s, contents)
  | cut {s : Sink} {contents : Bytes} (hw : body.isWhole = false) (h : s.Stands room (given ++ body.octets) contents) :
      Poured room place given body (.error (.body .cut), contents)
  | refused {e : Errno} (h : overflow? room (given ++ body.octets) = some e) :
      Poured room place given body (.error (.write e), fitting room (given ++ body.octets))

/-- One piece in front of a body. -/
theorem Poured.chunk {room : Option Nat} {place : Loc} {given octets : Bytes} {rest : Transfer.Body} {r : Except Mishap Sink × Bytes}
    (h : Poured room place (given ++ octets) rest r) : Poured room place given (.chunk octets rest) r := by
  have hall : given ++ octets ++ rest.octets = given ++ (Transfer.Body.chunk octets rest).octets := List.append_assoc _ _ _
  cases h with
  | whole hw hplace h => exact .whole hw hplace (hall ▸ h)
  | cut hw h => exact .cut hw (hall ▸ h)
  | refused h =>
    rw [hall] at h ⊢
    exact .refused h

theorem poured_pour {room : Option Nat} {given contents : Bytes} {s : Sink} (h : s.Stands room given contents)
    (body : Transfer.Body) : Poured room s.place given body (pour room body s contents) := by
  induction body generalizing given contents s with
  | done => exact .whole rfl rfl (by rwa [Transfer.Body.octets, List.append_nil])
  | cut => exact .cut (s := s) rfl (by rwa [Transfer.Body.octets, List.append_nil])
  | chunk octets rest ih =>
    have hpiece := Sink.comes_writeAll h octets
    unfold pour
    rcases hw : s.writeAll octets room contents with ⟨e | s', c⟩ <;> rw [hw] at hpiece
    · cases hpiece.behind rest.octets with
      | refused hfull => exact .chunk (.refused hfull)
    · cases hpiece with
      | taken hplace h' =>
        rw [← hplace]
        exact .chunk (ih h')

theorem pour_place {room : Option Nat} {given contents c : Bytes} {s s' : Sink} (h : s.Stands room given contents)
    {body : Transfer.Body} (hp : pour room body s contents = (.ok s', c)) : s'.place = s.place := by
  have hpour := poured_pour h body
  rw [hp] at hpour
  cases hpour
  assumption

/-- A body written to a new file and flushed: what that comes to, and what the file holds then. -/
def stored (room : Option Nat) (l : Loc) (body : Transfer.Body) : Except Mishap Unit × Bytes :=
  match pour room body ⟨l, [], none⟩ [] with
  | (.ok s, contents) => ((s.flush room contents).1.mapError .flush, (s.flush room contents).2)
  | (.error m, contents) => (.error m, contents)

/-- What a file holds that a body was written to. A cut body is there but for what the writer still
held; a refused one as far as there was room. -/
inductive Stored (room : Option Nat) (body : Transfer.Body) : Except Mishap Unit × Bytes → Prop where
  | whole (hw : body.isWhole = true) (h : overflow? room body.octets = none) : Stored room body (.ok (), body.octets)
  | cut (hw : body.isWhole = false) {k : Nat} (hk : body.octets.length ≤ k + bufferSize) :
      Stored room body (.error (.body .cut), fitting room (body.octets.take k))
  | refused {m : Mishap} {e : Errno} (hm : m = .write e ∨ m = .flush e) (h : overflow? room body.octets = some e) :
      Stored room body (.error m, fitting room body.octets)

theorem stored_cases (room : Option Nat) (l : Loc) (body : Transfer.Body) : Stored room body (stored room l body) := by
  have hpour := poured_pour (Sink.stands_new room l) body
  unfold stored
  rcases hp : pour room body ⟨l, [], none⟩ [] with ⟨m | s, c⟩ <;> rw [hp] at hpour
  · cases hpour with
    | cut hw h =>
      obtain ⟨passed, hall, rfl, _, hheld⟩ := h
      rw [List.nil_append] at hall
      have hpassed : passed = body.octets.take passed.length := by rw [hall, List.take_left]
      have hk : body.octets.length ≤ passed.length + bufferSize := by
        rw [hall, List.length_append]
        omega
      simp only
      rw [hpassed]
      exact .cut hw hk
    | refused h => exact .refused (.inl rfl) h
  · cases hpour with
    | whole hw _ h =>
      simp only [Sink.flush_eq h, List.nil_append]
      cases hfull : overflow? room body.octets with
      | none =>
        simp only [fitting_eq_self hfull]
        exact .whole hw hfull
      | some e => exact .refused (.inr rfl) hfull

/-- How much a cut body leaves depends on the pieces that it came in. -/
example : (stored none [] (.arriving .cut [] (List.replicate 10000 65))).2.length = 10000 ∧
    (stored none [] (.arriving .cut [5000] (List.replicate 10000 65))).2.length = 5000 := by decide +kernel

/-! ## A retrieval by its answer -/

/-- The response that the servers finally give for a text's locator, if one is accepted. -/
def answer (agent : Option String) (url : String) (n : Network) : Except Mishap Transfer.Response :=
  match (Transfer.request agent url n).1 with
  | .error fault => .error (.request fault)
  | .ok response => response.accepted.mapError .refusal

theorem answer_error {agent : Option String} {url : String} {n : Network} {m : Mishap} (h : answer agent url n = .error m) :
    m.IsEarly := by
  unfold answer at h
  split at h
  · obtain rfl := Except.error.inj h
    trivial
  · rename_i response _
    rcases ha : response.accepted with fault | accepted <;> rw [ha] at h
    · obtain rfl := Except.error.inj h
      trivial
    · cases h

theorem answer_same {n n' : Network} (h : n.Same n') (agent : Option String) (url : String) :
    answer agent url n' = answer agent url n := by
  unfold answer
  rw [(Transfer.request_same h agent url).1]

/-- The world after a text's locator has been asked for. -/
def asked (agent : Option String) (url : String) (w : World) : World :=
  { w with network := (Transfer.request agent url w.network).2 }

/-- What a body comes to that is written to a file, and the volume that it leaves. -/
def kept (file : Path) (body : Transfer.Body) (v : Volume) : Except Mishap Unit × Volume :=
  match v.create file with
  | .error e => (.error (.creation e), v)
  | .ok (l, u) => ((stored (v.tree.room? l) l body).1, u.fill l (stored (v.tree.room? l) l body).2)

/-- The cases of that: no file is created, or it holds what the writer makes of the body. -/
inductive Kept (file : Path) (body : Transfer.Body) (v : Volume) : Except Mishap Unit × Volume → Prop where
  | uncreated {e : Errno} (h : v.create file = .error e) : Kept file body v (.error (.creation e), v)
  | filled {l : Loc} {u : Volume} {r : Except Mishap Unit} {contents : Bytes} (hc : v.create file = .ok (l, u))
      (h : Stored (v.tree.room? l) body (r, contents)) : Kept file body v (r, u.fill l contents)

theorem kept_cases (file : Path) (body : Transfer.Body) (v : Volume) : Kept file body v (kept file body v) := by
  unfold kept
  rcases hc : v.create file with e | ⟨l, u⟩
  · exact .uncreated hc
  · exact .filled hc (stored_cases (v.tree.room? l) l body)

/-- A body that is not kept was cut, or the system refused it. -/
theorem kept_error {file : Path} {body : Transfer.Body} {v u : Volume} {m : Mishap} (h : kept file body v = (.error m, u)) :
    m = .body .cut ∨ ∃ e, m = .creation e ∨ m = .write e ∨ m = .flush e := by
  have hkept := kept_cases file body v
  rw [h] at hkept
  cases hkept with
  | uncreated _ => exact .inr ⟨_, .inl rfl⟩
  | filled _ hstored =>
    cases hstored with
    | cut => exact .inl rfl
    | refused hm _ => exact .inr ⟨_, .inr hm⟩

/-- A body that is kept came whole, and is in its file. -/
theorem kept_ok {file : Path} {body : Transfer.Body} {v u : Volume} (h : kept file body v = (.ok (), u)) :
    body.isWhole = true ∧ ∃ l v', v.create file = .ok (l, v') ∧ u = v'.fill l body.octets := by
  have hkept := kept_cases file body v
  rw [h] at hkept
  cases hkept with
  | filled hc hstored =>
    cases hstored with
    | whole hw _ => exact ⟨hw, _, _, hc, rfl⟩

/-- What a retrieval into a file comes to, and the volume that it leaves. -/
def retrieved (agent : Option String) (url : String) (file : Path) (v : Volume) (n : Network) : Except Mishap Bytes × Volume :=
  match answer agent url n with
  | .error m => (.error m, v)
  | .ok response => ((kept file response.body v).1.map fun _ => response.body.octets, (kept file response.body v).2)

/-- A retrieval that succeeds has put a whole body into its file. -/
theorem retrieved_ok {agent : Option String} {url : String} {file : Path} {v u : Volume} {n : Network} {octets : Bytes}
    (h : retrieved agent url file v n = (.ok octets, u)) : ∃ response l v', answer agent url n = .ok response ∧
      response.body.isWhole = true ∧ v.create file = .ok (l, v') ∧ octets = response.body.octets ∧
      u = v'.fill l response.body.octets := by
  unfold retrieved at h
  rcases ha : answer agent url n with m | response <;> rw [ha] at h
  · cases (Prod.mk.inj h).1
  · rcases hk : kept file response.body v with ⟨_ | _, _⟩ <;> simp only [hk] at h <;> obtain ⟨hr, rfl⟩ := Prod.mk.inj h
    · cases hr
    · obtain ⟨hw, l, v', hc, hu⟩ := kept_ok hk
      exact ⟨response, l, v', rfl, hw, hc, (Except.ok.inj hr).symm, hu⟩

/-- A retrieval that fails for its request has had no response. -/
theorem request_error_of_retrieved {agent : Option String} {url : String} {file : Path} {v : Volume} {n : Network}
    {fault : Transfer.Fault} (h : (retrieved agent url file v n).1 = .error (.request fault)) :
    (Transfer.request agent url n).1 = .error fault := by
  unfold retrieved at h
  rcases ha : answer agent url n with m | response <;> rw [ha] at h
  · obtain rfl : m = .request fault := Except.error.inj h
    unfold answer at ha
    split at ha
    · rename_i fault' hr
      rw [hr, Mishap.request.inj (Except.error.inj ha)]
    · rename_i response _
      rcases hc : response.accepted with refused | accepted <;> rw [hc] at ha <;> cases ha
  · exfalso
    rcases hk : kept file response.body v with ⟨m | _, u⟩ <;> simp only [hk] at h
    · obtain rfl : m = .request fault := Except.error.inj h
      simpa using kept_error hk
    · cases h

/-- Without a target there is nothing to ask for. -/
theorem retrieved_of_target_error {url : String} {fault : Transfer.Fault} (h : Transfer.target url = .error fault)
    (agent : Option String) (file : Path) (v : Volume) (n : Network) :
    retrieved agent url file v n = (.error (.request fault), v) ∧ (Transfer.request agent url n).2 = n := by
  have hrequest : Transfer.request agent url n = (.error fault, n) := by rw [Transfer.request, h]
  rw [retrieved, answer, hrequest]
  exact ⟨rfl, rfl⟩

/-- A retrieval keeps what asking keeps and what a file does that is created and filled. -/
theorem keeps_retrieved {P : World → Prop} (agent : Option String) (url : String) {file : Path}
    (ask : ∀ w n, P w → w.network.Same n → P { w with network := n })
    (write : ∀ w l v contents, P w → w.volume.create file = .ok (l, v) → P { w with volume := v.fill l contents })
    {w : World} (h : P w) : P { asked agent url w with volume := (retrieved agent url file w.volume w.network).2 } := by
  have hn := (Transfer.request_same (.refl w.network) agent url).2
  unfold retrieved
  rcases answer agent url w.network with m | response
  · exact ask w _ h hn
  · simp only [kept]
    rcases hc : w.volume.create file with e | ⟨l, v⟩
    · exact ask w _ h hn
    · exact ask _ _ (write w l v _ h hc) hn

end Retrieval

end BuildHarvest
