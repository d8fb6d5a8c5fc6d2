/-
  BuildHarvest.Proofs.Requests — which accepted locators are asked for.

  A feed's locator is accepted if it is one, and so is an artifact base if it has a path. A request
  can be made only for a locator with the scheme `http` or `https`; any other is found out at the
  request, which for an artifact is after the library directory has been cleared
  (`an_accepted_scheme_is_never_asked_for`).

  Proved (`http_urls_are_requested`):
  - A run whose workspace can be made asks for its feed, over a link that is up, exactly if the
    feed's scheme is `http` or `https`. Otherwise it fails for the feed and has changed nothing
    since.
  - Every artifact that a run attempts is asked for exactly if the scheme of the base is one of
    these and the text of the base is read as a locator again (`IsRequestable`), and then no scheme
    is in its way but one that a server has redirected to. Otherwise each attempt fails, and has
    asked for nothing.

  A client reads the locator once more, by rules of its own, before it sends the request. That
  reading is left out: it may refuse some signs in a host (a brace, a quotation mark, a backtick)
  that a locator can have.
-/

import BuildHarvest.Proofs.EarlyFailure
import BuildHarvest.Proofs.Rereading

namespace BuildHarvest

open BuildHarvest.Action

namespace Transfer

/-! ## Requests that are sent -/

/-- A locator that is followed over a link that is up is asked for. -/
theorem follow_sends {n : Network} (hup : n.isUp = true) (agent : Option String) (left : Nat) (url : Url) :
    n.requests ++ [⟨url.requestText, agent⟩] <+: (follow agent left url n).2.requests := by
  fun_induction follow agent left url n with
  | case1 _ _ _ hdown => simp [hup] at hdown
  | case2 => exact List.prefix_refl _
  | case3 => exact List.prefix_refl _
  | case4 => exact List.prefix_refl _
  | case5 _ _ _ _ _ _ _ _ _ _ ih => exact (List.prefix_append _ _).trans (ih hup)
  | case6 => exact List.prefix_refl _

/-- No scheme is in the way of what is followed but one that a server has redirected to. -/
theorem follow_unsupported {n₀ n : Network} (hs : n₀.Same n) {agent : Option String} {left : Nat} {url last : Url}
    (h : (follow agent left url n).1 = .error (.unsupported last)) :
    last.isHttp = false ∧ ∃ moved, LeadsOn n₀ url moved ∧ next? moved (n₀.resourceAt moved.requestText) = some last := by
  have there {m : Network} (hm : n₀.Same m) (text : String) : m.resourceAt text = n₀.resourceAt text := by
    rw [Network.resourceAt, Network.resourceAt, hm.2]
  fun_induction follow agent left url n with
  | case1 => cases h
  | case2 => cases h
  | case3 => cases h
  | case4 => cases h
  | case5 url n _ heard r _ next hm _ _ ih =>
    obtain ⟨hlast, moved, hon, hmoved⟩ := ih hs h
    rw [show r = n₀.resourceAt url.requestText from there (show n₀.Same heard from hs) _] at hm
    exact ⟨hlast, moved, .moved hm hon, hmoved⟩
  | case6 url n _ heard r _ next hm _ hhttp =>
    rw [show r = n₀.resourceAt url.requestText from there (show n₀.Same heard from hs) _] at hm
    obtain rfl := Fault.unsupported.inj (Except.error.inj h)
    exact ⟨Bool.eq_false_iff.mpr hhttp, url, .self url, hm⟩

/-! ## What a text asks for -/

theorem withoutCredentials_scheme (u : Url) : (withoutCredentials u).scheme = u.scheme := by
  unfold withoutCredentials
  simp only
  split
  · rfl
  · split <;> rfl

/-- Credentials are no part of what is asked for. -/
theorem withoutCredentials_requestText (u : Url) : (withoutCredentials u).requestText = u.requestText := by
  unfold withoutCredentials
  simp only
  split
  · rfl
  · split <;> rfl

section

variable {s : String} {u : Url}

theorem target_of_http (h : Url.parse s = .ok u) (hhttp : u.isHttp = true) : target s = .ok (withoutCredentials u) := by
  have hhost : u.host.isNone = false := by
    obtain ⟨host, hshown⟩ := Url.shown_of_parse (special_of_http (by simpa [Url.isHttp] using hhttp)) h
    rw [hshown.there]
    rfl
  have hscheme : (withoutCredentials u).isHttp = true := by
    rw [Url.isHttp, withoutCredentials_scheme]
    exact hhttp
  simp only [target, h, hhost, hscheme, Bool.false_eq_true, if_false, if_true]

theorem target_of_other (h : Url.parse s = .ok u) (hhttp : u.isHttp = false) : ∃ v, target s = .error (.unsupported v) := by
  have hscheme : (withoutCredentials u).isHttp = false := by
    rw [Url.isHttp, withoutCredentials_scheme]
    exact hhttp
  simp only [target, h, hscheme, Bool.false_eq_true, if_false]
  split
  · exact ⟨_, rfl⟩
  · exact ⟨_, rfl⟩

theorem parse_of_target (h : target s = .ok u) : ∃ v, Url.parse s = .ok v ∧ v.isHttp = true := by
  cases hp : Url.parse s with
  | error fault =>
    simp only [target, hp] at h
    cases h
  | ok v =>
    refine ⟨v, rfl, ?_⟩
    by_contra hhttp
    obtain ⟨_, hother⟩ := target_of_other hp (Bool.eq_false_iff.mpr hhttp)
    rw [hother] at h
    cases h

end

/-- What has been asked stays asked. -/
theorem request_heard (agent : Option String) (text : String) (n : Network) :
    n.requests <+: (request agent text n).2.requests := by
  rcases request_asks agent text n with hn | ⟨_, _, asked, hn, _⟩
  · exact Eq.subst (motive := fun m => n.requests <+: m.requests) hn.symm (List.prefix_refl _)
  · rw [hn]
    exact List.prefix_append _ _

/-- A text with a target is asked for, over a link that is up. -/
theorem request_sends {text : String} {u : Url} (h : target text = .ok u) {n : Network} (hup : n.isUp = true)
    (agent : Option String) : n.requests ++ [⟨u.requestText, agent⟩] <+: (request agent text n).2.requests := by
  rw [request, h]
  exact follow_sends hup agent maxRedirects u

theorem request_unsupported {text : String} {u last : Url} (h : target text = .ok u) {n₀ n : Network} (hs : n₀.Same n)
    {agent : Option String} (hr : (request agent text n).1 = .error (.unsupported last)) :
    last.isHttp = false ∧ ∃ moved, LeadsOn n₀ u moved ∧ next? moved (n₀.resourceAt moved.requestText) = some last := by
  rw [request, h] at hr
  exact follow_unsupported hs hr

end Transfer

namespace Download

theorem attempt_heard (agent : Option String) (dir : Path) (total index : Nat) (item : Item) (w : World) :
    w.network.requests <+: (attempt agent dir total index item w).after.network.requests := by
  simp only [attempt, tryItem_asked]
  exact Transfer.request_heard agent item.url w.network

theorem attempts_heard (agent : Option String) (dir : Path) (policy : FailurePolicy) (total index : Nat) (items : List Item)
    (w : World) : w.network.requests <+: (ending w (attemptsFrom agent dir policy total index items w)).network.requests := by
  induction items generalizing index w with
  | nil => exact List.prefix_refl _
  | cons item rest ih =>
    have hfirst := attempt_heard agent dir total index item w
    rw [attemptsFrom]
    generalize attempt agent dir total index item w = a at hfirst ⊢
    simp only [ending, List.foldl_cons]
    split
    · exact hfirst
    · exact hfirst.trans (ih (index + 1) a.after)

end Download

/-! ## The artifacts of a base -/

namespace ArtifactBase

/-- A base whose artifacts can be asked for: it is one for requests, and its text is a locator again. (The
written form of an international label can be longer than what is read of one.) -/
structure IsRequestable (base : ArtifactBase) : Prop where
  http : base.url.isHttp = true
  again : ∃ u, Url.parse base.text = .ok u

/-- An artifact's locator has another path than its base, and differs in nothing else. -/
theorem child_route (base : ArtifactBase) (name : String) :
    ∃ ss, base.url.child name = { base.url with route := .segments ss } := by
  obtain ⟨ss, hss⟩ := base.exists_segments
  unfold Url.child
  rw [hss]
  exact ⟨_, rfl⟩

section

variable {build subpath : String} {base : ArtifactBase} (hb : ofBuild build subpath = .ok base)

include hb

/-- An artifact's text is read with the scheme of its base, if it is read. -/
theorem scheme_of_urlOf {name : String} {v : Url} (hv : Url.parse (base.urlOf name) = .ok v) : v.scheme = base.url.scheme := by
  have hscheme : Url.IsScheme base.url.scheme.toList := Url.isScheme_of_parse (parse_of_ofBuild hb)
  obtain ⟨ss, hchild⟩ := base.child_route name
  have hsame : (base.url.child name).scheme = base.url.scheme := by rw [hchild]
  rw [← hsame] at hscheme ⊢
  exact Url.scheme_of_reread hscheme hv

/-- The text of an artifact is a locator again where that of its base is. -/
theorem reads_again_iff (hhttp : base.url.isHttp = true) (name : String) :
    (∃ u, Url.parse (base.urlOf name) = .ok u) ↔ ∃ u, Url.parse base.text = .ok u := by
  have hparse := parse_of_ofBuild hb
  have hscheme := Url.isScheme_of_parse hparse
  have hk := special_of_http (by simpa [Url.isHttp] using hhttp)
  obtain ⟨host, hshown⟩ := Url.shown_of_parse hk hparse
  obtain ⟨ss, hss⟩ := base.exists_segments
  obtain ⟨ss', hchild⟩ := base.child_route name
  -- The path is no part of what is shown of an authority.
  have hentry : Url.Shown { base.url with route := .segments ss' } host :=
    ⟨hshown.username, hshown.password, hshown.there, hshown.shows, hshown.port⟩
  rw [urlOf, hchild, text, hentry.parse_text_iff hscheme hk rfl, hshown.parse_text_iff hscheme hk hss]

/-- The artifacts of a base can be asked for, or none of them can. -/
theorem target_urlOf_iff (name : String) : (∃ u, Transfer.target (base.urlOf name) = .ok u) ↔ base.IsRequestable := by
  constructor
  · rintro ⟨u, hu⟩
    obtain ⟨v, hv, hvhttp⟩ := Transfer.parse_of_target hu
    have hhttp : base.url.isHttp = true := by rwa [Url.isHttp, ← scheme_of_urlOf hb hv]
    exact ⟨hhttp, (reads_again_iff hb hhttp name).mp ⟨v, hv⟩⟩
  · rintro ⟨hhttp, hagain⟩
    obtain ⟨v, hv⟩ := (reads_again_iff hb hhttp name).mpr hagain
    have hvhttp : v.isHttp = true := by
      rw [Url.isHttp, scheme_of_urlOf hb hv]
      exact hhttp
    exact ⟨_, Transfer.target_of_http hv hvhttp⟩

end

end ArtifactBase

namespace Sync

open Retrieval (retrieved)

theorem fetchAll_heard (params : Params) (base : ArtifactBase) (w : World) :
    w.network.requests <+: ((fetchAll params base).on w).2.network.requests := by
  rw [fetchAll, on_bind, on_tell]
  obtain ⟨w', hall, _, hn⟩ := Download.all_on (some agent) params.config.layout.libDir params.config.failurePolicy
    (Item.ofManifest base params.manifest) (w.note (.startingDownloads (Item.ofManifest base params.manifest).length
      params.config.layout.libDir))
  simp only [hall, hn]
  exact Download.attempts_heard (some agent) params.config.layout.libDir params.config.failurePolicy _ 0
    (Item.ofManifest base params.manifest) (w.note _)

theorem conclude_network (file? : Option Path) (report : Report) (w : World) :
    ((conclude file? report).on w).2.network = w.network :=
  keeps_conclude (P := fun u => u.network = w.network) (fun _ _ h => h) (fun _ _ _ _ _ _ h _ => h) w rfl

/-- Once the workspace is there, the feed is asked for before all else. -/
theorem run_heard {params : Params} {w w₁ : World} (h : (Directory.ensure params.config.workspace).on w = (.ok (), w₁)) :
    (Transfer.request (some agent) params.config.feedUrl w.network).2.requests <+: ((run params).on w).2.network.requests := by
  have hlocate := locate_network_made h params.config.layout
  rcases hrun : (run params).on w with ⟨r, w'⟩
  rcases run_cases hrun with ⟨e, rfl, hl⟩ | ⟨build, base, w₂, e, rfl, hl, hp⟩ | ⟨s, hs, hc⟩
  · rw [hl] at hlocate
    exact hlocate ▸ List.prefix_refl _
  · have hprepare := prepare_network params.config.layout w₂
    rw [hl] at hlocate
    rw [hp] at hprepare
    have hnetwork : w'.network = (Transfer.request (some agent) params.config.feedUrl w.network).2 := hprepare.trans hlocate
    exact hnetwork ▸ List.prefix_refl _
  · have hprepare := prepare_network params.config.layout s.located
    have hfetch := fetchAll_heard params s.base s.renewed
    have hconclude := conclude_network params.report s.report s.fetched
    rw [hs.located] at hlocate
    rw [hs.prepared] at hprepare
    rw [hs.fetched] at hfetch
    rw [hc] at hconclude
    have hrenewed : s.renewed.network = (Transfer.request (some agent) params.config.feedUrl w.network).2 := hprepare.trans hlocate
    have hended : w'.network = s.fetched.network := hconclude
    rw [← hrenewed]
    show _ <+: w'.network.requests
    rw [hended]
    exact hfetch

/-- Where nothing can be asked for the feed, a run fails once its workspace is there. -/
theorem run_of_target_error {params : Params} {w w₁ : World} {fault : Transfer.Fault}
    (h : (Directory.ensure params.config.workspace).on w = (.ok (), w₁))
    (ht : Transfer.target params.config.feedUrl = .error fault) :
    ∃ w', (run params).on w = (.error (.statusFetch params.config.feedUrl fault.text), w') ∧
      w'.volume = w₁.volume ∧ w'.network = w.network := by
  have hensure := ensure_network params.config.workspace w
  rw [h] at hensure
  obtain ⟨hretrieved, hasked⟩ := Retrieval.retrieved_of_target_error ht (some agent) params.config.layout.statusFile
    w₁.volume w₁.network
  have hfetch := Feed.fetch_on (some agent) params.config.feedUrl params.config.layout.statusFile w₁
  rw [hretrieved] at hfetch
  have hrun : (run params).on w = (.error (.statusFetch params.config.feedUrl fault.text),
      Retrieval.asked (some agent) params.config.feedUrl (w₁.note (.fetchingFeed params.config.feedUrl))) := by
    rw [run, on_bind, locate, on_bind, h]
    simp only
    rw [on_bind, hfetch]
    rfl
  exact ⟨_, hrun, rfl, hasked.trans hensure⟩

/-- The feed of settings that are taken is a locator. -/
theorem feed_of_resolve {o : Options} {vars : Settings.Variables} {w w' : World} {params : Params}
    (h : (o.resolve vars).on w = (.ok params, w')) : ∃ u, Url.parse params.config.feedUrl = .ok u := by
  obtain ⟨config, w₁, _, h⟩ := on_bind_ok h
  obtain ⟨_, w₂, hcheck, h⟩ := on_bind_ok h
  obtain ⟨manifest, w₃, _, h⟩ := on_bind_ok h
  have hconfig : params.config = config := by
    split at h
    · obtain ⟨_, w₄, _, h⟩ := on_bind_ok h
      rw [← Except.ok.inj (Prod.mk.inj h).1]
    · rw [← Except.ok.inj (Prod.mk.inj h).1]
  rw [hconfig]
  cases hp : Url.parse config.feedUrl with
  | ok u => exact ⟨u, rfl⟩
  | error fault =>
    rw [on_orThrow, Options.checkFeed, hp] at hcheck
    cases (Prod.mk.inj hcheck).1

/-- The feed of taken settings is asked for, and the artifacts of a located base are, exactly if this is a
matter of `http` or `https`. What is not asked for fails: the feed before anything else is done, an artifact
after the library directory has been cleared. -/
theorem http_urls_are_requested (params : Params) (w : World) :
    (∀ (o : Options) (vars : Settings.Variables) (w₀ w₁ : World), (o.resolve vars).on w₀ = (.ok params, w₁) →
      ∃ u, Url.parse params.config.feedUrl = .ok u ∧
        ∀ w' : World, (Directory.ensure params.config.workspace).on w = (.ok (), w') →
          (u.isHttp = true → w.network.isUp = true →
            w.network.requests ++ [⟨u.requestText, some agent⟩] <+: ((run params).on w).2.network.requests) ∧
          (u.isHttp = false → ∃ (refused : Url) (w'' : World),
            (run params).on w = (.error (.statusFetch params.config.feedUrl (Transfer.Fault.unsupported refused).text), w'') ∧
              w''.volume = w'.volume ∧ w''.network = w.network)) ∧
    ∀ s : Stages, s.Of params w → ∀ a ∈ s.attempts params,
      ∃ r, retrieved (some agent) a.item.url (Download.fileOf params.config.layout.libDir a.item)
          a.before.volume a.before.network = (r, a.after.volume) ∧
        a.after.network = (Transfer.request (some agent) a.item.url a.before.network).2 ∧
        a.status = Download.statusOf a.item.url (Download.fileOf params.config.layout.libDir a.item) r ∧
        (s.base.IsRequestable → ∃ u, Transfer.target a.item.url = .ok u ∧
          (w.network.isUp = true →
            a.before.network.requests ++ [⟨u.requestText, some agent⟩] <+: a.after.network.requests) ∧
          ∀ last, r = .error (.request (.unsupported last)) → last.isHttp = false ∧ ∃ moved,
            Transfer.LeadsOn w.network u moved ∧
              Transfer.next? moved (w.network.resourceAt moved.requestText) = some last) ∧
        (¬ s.base.IsRequestable → ∃ fault, Transfer.target a.item.url = .error fault ∧ r = .error (.request fault) ∧
          a.after.volume = a.before.volume ∧ a.after.network = a.before.network) := by
  constructor
  · intro o vars w₀ w₁ hresolve
    obtain ⟨u, hu⟩ := feed_of_resolve hresolve
    refine ⟨u, hu, fun w' hensure => ⟨fun hhttp hup => ?_, fun hhttp => ?_⟩⟩
    · have hsent := Transfer.request_sends (Transfer.target_of_http hu hhttp) hup (some agent)
      rw [Transfer.withoutCredentials_requestText] at hsent
      exact hsent.trans (run_heard hensure)
    · obtain ⟨refused, htarget⟩ := Transfer.target_of_other hu hhttp
      exact ⟨refused, run_of_target_error hensure htarget⟩
  · intro s hs a ha
    obtain ⟨hitem, hstatus, hafter, hnetwork⟩ := Download.attempt_spec (some agent) params.config.layout.libDir
      params.config.failurePolicy ha
    have hsame : w.network.Same a.before.network := hs.network_renewed.trans hnetwork
    obtain ⟨name, _, hname⟩ := List.mem_map.mp hitem
    have htarget := ArtifactBase.target_urlOf_iff (locate_ok hs.located).1 name
    rw [show s.base.urlOf name = a.item.url by rw [← hname]] at htarget
    obtain ⟨htold, hvolume, hasked⟩ := Download.tryItem_eq (some agent) a.item
      (Download.fileOf params.config.layout.libDir a.item) a.before
    rw [← hafter] at hvolume hasked
    rw [← hstatus] at htold
    refine ⟨_, Prod.ext rfl hvolume.symm, hasked, htold, fun hbase => ?_, fun hbase => ?_⟩
    · obtain ⟨u, hu⟩ := htarget.mpr hbase
      refine ⟨u, hu, fun hup => ?_, fun last hlast => ?_⟩
      · rw [hasked]
        exact Transfer.request_sends hu (hsame.1.trans hup) (some agent)
      · exact Transfer.request_unsupported hu hsame (Retrieval.request_error_of_retrieved hlast)
    · cases htext : Transfer.target a.item.url with
      | ok u => exact absurd (htarget.mp ⟨u, htext⟩) hbase
      | error fault =>
        obtain ⟨hretrieved, hunasked⟩ := Retrieval.retrieved_of_target_error htext (some agent)
          (Download.fileOf params.config.layout.libDir a.item) a.before.volume a.before.network
        rw [hretrieved] at hvolume ⊢
        exact ⟨fault, rfl, rfl, hvolume, hasked.trans hunasked⟩

/-! ## Small runs of both kinds -/

/-- What stands on a command line that names a workspace, a feed and one library. -/
def plainOptions (feed : String) : Options :=
  { Options.empty with workspace := some "w", feedUrl := some feed, artifacts := ["a"] }

/-- The feed of taken settings and the library of a run are asked for. -/
theorem a_feed_and_a_library_are_asked_for :
    (∃ (params : Params) (w₁ w' : World) (u : Url),
      ((plainOptions "http://[::]/feed").resolve []).on usedWorld = (.ok params, w₁) ∧ Url.parse params.config.feedUrl = .ok u ∧ u.isHttp = true ∧
      (Directory.ensure params.config.workspace).on usedWorld = (.ok (), w') ∧ usedWorld.network.isUp = true ∧
      usedWorld.network.requests ++ [⟨u.requestText, some agent⟩] <+: ((run params).on usedWorld).2.network.requests) ∧
    ∃ (s : Stages) (a : Download.Attempt) (u : Url), s.Of oneLibrary usedWorld ∧ a ∈ s.attempts oneLibrary ∧
      s.base.IsRequestable ∧ Transfer.target a.item.url = .ok u ∧
      a.before.network.requests ++ [⟨u.requestText, some agent⟩] <+: a.after.network.requests := by
  constructor
  · have hread : (((plainOptions "http://[::]/feed").resolve []).on usedWorld).1.toOption.map (fun params =>
        (params.config.feedUrl, ((Directory.ensure params.config.workspace).on usedWorld).1.toOption)) =
          some ("http://[::]/feed", some ()) := by decide +kernel
    have hfeed : (Url.parse "http://[::]/feed").toOption.map Url.isHttp = some true := by decide +kernel
    obtain ⟨params, hparams, hpair⟩ := Option.map_eq_some_iff.mp hread
    obtain ⟨hurl, hensure⟩ := Prod.mk.inj hpair
    obtain ⟨u, hu, hsent⟩ := (http_urls_are_requested params usedWorld).1 _ _ _ _ (on_of_toOption hparams)
    have hhttp : u.isHttp = true := by
      rw [← hurl, hu] at hfeed
      exact Option.some.inj hfeed
    exact ⟨params, _, _, u, on_of_toOption hparams, hu, hhttp, on_of_toOption hensure, rfl,
      (hsent _ (on_of_toOption hensure)).1 hhttp rfl⟩
  · have hread : (stages? oneLibrary usedWorld).map (fun s =>
        (s.base.url.isHttp, (Url.parse s.base.text).toOption.isSome, (s.attempts oneLibrary).length)) =
          some (true, true, 1) := by decide +kernel
    obtain ⟨s, hs, htriple⟩ := Option.map_eq_some_iff.mp hread
    obtain ⟨hhttp, hpair⟩ := Prod.mk.inj htriple
    obtain ⟨hagain, hone⟩ := Prod.mk.inj hpair
    obtain ⟨v, hv⟩ := Option.isSome_iff_exists.mp hagain
    obtain ⟨a, ha⟩ := List.length_eq_one_iff.mp hone
    have hmem : a ∈ s.attempts oneLibrary := by
      rw [ha]
      exact List.mem_singleton_self a
    have hof := stages?_eq_some.mp hs
    obtain ⟨_, _, _, _, hasked, _⟩ := (http_urls_are_requested oneLibrary usedWorld).2 s hof a hmem
    have hbase : s.base.IsRequestable := ⟨hhttp, v, ok_of_toOption hv⟩
    obtain ⟨u, hu, hsent, _⟩ := hasked hbase
    exact ⟨s, a, u, hof, hmem, hbase, hu, hsent rfl⟩

/-- A server whose feed names a build that is published by another scheme. -/
def strangeWorld : World := { usedWorld with
  network := ⟨true, [⟨"http://[::]/feed", 200,
    Utf8.encode "<lastSuccessfulBuild><url>ftp://[::]</url></lastSuccessfulBuild>", none, none, []⟩], []⟩ }

/-- Settings with a feed of another scheme are taken, and the run asks for nothing. A build of another scheme is
located, and its library fails after the file of an earlier run has been removed; only the feed is asked for. -/
theorem an_accepted_scheme_is_never_asked_for :
    (∃ (params : Params) (w₁ w' : World) (u : Url),
      ((plainOptions "ftp://[::]/feed").resolve []).on usedWorld = (.ok params, w₁) ∧ Url.parse params.config.feedUrl = .ok u ∧ u.scheme = "ftp" ∧
      (Directory.ensure params.config.workspace).on usedWorld = (.ok (), w') ∧ usedWorld.network.isUp = true ∧
      ((run params).on usedWorld).2.network.requests = []) ∧
    ∃ s : Stages, s.Of oneLibrary strangeWorld ∧ s.base.url.scheme = "ftp" ∧
      strangeWorld.volume.tree.get? [Utf8.encode "w", Utf8.encode "l", Utf8.encode "old"] = some (.file [1]) ∧
      s.cleared.volume.tree.get? [Utf8.encode "w", Utf8.encode "l", Utf8.encode "old"] = none ∧
      s.outcomes = [⟨"a", "ftp://[::]/a",
        .failed "Failed to request ftp://[::]/a: builder error for url (ftp://[::]/a): URL scheme is not allowed"⟩] ∧
      s.fetched.network.requests = [⟨"http://[::]/feed", some agent⟩] := by
  constructor
  · have hread : (((plainOptions "ftp://[::]/feed").resolve []).on usedWorld).1.toOption.map (fun params =>
        (params.config.feedUrl, ((Directory.ensure params.config.workspace).on usedWorld).1.toOption,
          ((run params).on usedWorld).2.network.requests)) = some ("ftp://[::]/feed", some (), []) := by decide +kernel
    have hfeed : (Url.parse "ftp://[::]/feed").toOption.map (·.scheme) = some "ftp" := by decide +kernel
    obtain ⟨params, hparams, htriple⟩ := Option.map_eq_some_iff.mp hread
    obtain ⟨hurl, hpair⟩ := Prod.mk.inj htriple
    obtain ⟨hensure, hrequests⟩ := Prod.mk.inj hpair
    obtain ⟨u, hu, hscheme⟩ := Option.map_eq_some_iff.mp hfeed
    rw [← hurl] at hu
    exact ⟨params, _, _, u, on_of_toOption hparams, ok_of_toOption hu, hscheme, on_of_toOption hensure, rfl, hrequests⟩
  · have hread : (stages? oneLibrary strangeWorld).map (fun s => (s.base.url.scheme,
        s.cleared.volume.tree.get? [Utf8.encode "w", Utf8.encode "l", Utf8.encode "old"], s.outcomes,
        s.fetched.network.requests)) =
          some ("ftp", none, [⟨"a", "ftp://[::]/a",
            .failed "Failed to request ftp://[::]/a: builder error for url (ftp://[::]/a): URL scheme is not allowed"⟩],
            [⟨"http://[::]/feed", some agent⟩]) := by decide +kernel
    obtain ⟨s, hs, h⟩ := Option.map_eq_some_iff.mp hread
    obtain ⟨hscheme, h⟩ := Prod.mk.inj h
    obtain ⟨hold, h⟩ := Prod.mk.inj h
    obtain ⟨houtcomes, hrequests⟩ := Prod.mk.inj h
    exact ⟨s, stages?_eq_some.mp hs, hscheme, by decide +kernel, hold, houtcomes, hrequests⟩

end Sync

end BuildHarvest
