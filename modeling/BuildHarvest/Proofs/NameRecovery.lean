/-
  BuildHarvest.Proofs.NameRecovery — the name of an artifact is read back from its URL.

  A reader of a URL's text finds its last segment behind the last separator before a query or a
  fragment (`lastSegment`). In what is read nothing begins one of these before the end of the path
  (`taillessTo_parse`), and in an escaped text every `%` is an escape's (`isEscaped_escape`).

  Proved (`artifact_name_is_read_back`), of every base with the scheme `http` or `https`, and every
  name that a manifest takes and of which more is left than a dot segment:
  - The last segment in the text of the URL is the one that was put there. Without a separator or
    a sign of query or fragment, it reads back as what is left of the name.
  - So two such names have one URL exactly when the same is left of them.
-/

import BuildHarvest.Proofs.DirectoryUrl
import BuildHarvest.Proofs.Report

namespace BuildHarvest.Url

/-! ## Whole escapes -/

/-- Every `%` of a text begins an escape of two digits. -/
def IsEscaped (cs : List Char) : Prop :=
  ∀ before after, cs = before ++ '%' :: after → ∃ a b rest, after = a :: b :: rest ∧ (escaped? a b).isSome = true

theorem isEscaped_nil : IsEscaped [] := by
  intro before after h
  simp at h

theorem IsEscaped.append {cs ds : List Char} (hc : IsEscaped cs) (hd : IsEscaped ds) : IsEscaped (cs ++ ds) := by
  intro before after h
  rcases List.append_eq_append_iff.mp h with ⟨mid, rfl, hmid⟩ | ⟨mid, hmid, hrest⟩
  · exact hd mid after hmid
  · cases mid with
    | nil => exact hd [] after (by simpa using hrest.symm)
    | cons c mid =>
      obtain ⟨rfl, hafter⟩ := List.cons.inj hrest
      obtain ⟨a, b, rest, rfl, hdigits⟩ := hc before mid hmid
      exact ⟨a, b, rest ++ ds, hafter, hdigits⟩

theorem escapeDigit_ne {n : Nat} (h : n < 16) : escapeDigit n ≠ '%' := by
  have all : ∀ m : Fin 16, escapeDigit m.val ≠ '%' := by decide
  exact all ⟨n, h⟩

theorem isEscaped_escapeOctet (b : UInt8) : IsEscaped (escapeOctet b) := by
  have hb : b.toNat < 256 := b.toNat_lt
  intro before after h
  unfold escapeOctet at h
  match before with
  | [] =>
    obtain ⟨-, rfl⟩ := List.cons.inj h
    exact ⟨_, _, [], rfl, by rw [escaped?_escapeDigit]; rfl⟩
  | [_] => exact absurd (List.cons.inj (List.cons.inj h).2).1 (escapeDigit_ne (by omega))
  | [_, _] => exact absurd (List.cons.inj (List.cons.inj (List.cons.inj h).2).2).1 (escapeDigit_ne (by omega))
  | _ :: _ :: _ :: _ => simp at h

theorem isEscaped_flatMap {α : Type} {f : α → List Char} {xs : List α} (h : ∀ x ∈ xs, IsEscaped (f x)) :
    IsEscaped (xs.flatMap f) := by
  induction xs with
  | nil => exact isEscaped_nil
  | cons x xs ih =>
    rw [List.flatMap_cons]
    exact (h x List.mem_cons_self).append (ih fun y hy => h y (List.mem_cons_of_mem x hy))

/-- Where `%` itself is escaped, every `%` of an escaped text is an escape's. -/
theorem isEscaped_escape {set : EscapeSet} (hset : set '%' = true) (cs : List Char) : IsEscaped (escape set cs) := by
  refine isEscaped_flatMap fun c _ => ?_
  unfold escapeChar
  by_cases hc : set c = true
  · rw [if_pos hc]
    exact isEscaped_flatMap fun b _ => isEscaped_escapeOctet b
  · rw [if_neg hc]
    intro before after h
    cases before with
    | nil =>
      obtain ⟨rfl, -⟩ := List.cons.inj h
      exact absurd hset hc
    | cons d before => simp at h

/-! ## Texts in which no query or fragment begins -/

theorem tailless_nil : Tailless [] := by
  intro c hc
  cases hc

theorem tailless_escape {set : EscapeSet} (hquery : set '?' = true) (hfragment : set '#' = true) (cs : List Char) :
    Tailless (escape set cs) := by
  intro c hc
  refine Bool.eq_false_iff.mpr fun ht => ?_
  rcases tail_cases ht with rfl | rfl
  · exact not_mem_escape hquery (by decide) cs hc
  · exact not_mem_escape hfragment (by decide) cs hc

theorem mem_toDigits {base n : Nat} (h1 : 1 < base) {c : Char} (h : c ∈ Nat.toDigits base n) : ∃ m < base, c = m.digitChar := by
  induction n using Nat.strongRecOn with
  | ind n ih =>
    rw [Nat.toDigits_eq_if h1] at h
    split at h
    · rename_i hn
      exact ⟨n, hn, List.mem_singleton.mp h⟩
    · rcases List.mem_append.mp h with h | h
      · exact ih _ (Nat.div_lt_self (by omega) h1) h
      · exact ⟨n % base, Nat.mod_lt n (by omega), List.mem_singleton.mp h⟩

theorem mem_intercalate {sep : String} {ss : List String} {c : Char} (h : c ∈ (sep.intercalate ss).toList) :
    c ∈ sep.toList ∨ ∃ s ∈ ss, c ∈ s.toList := by
  induction ss with
  | nil => cases h
  | cons s ss ih =>
    cases ss with
    | nil =>
      rw [String.intercalate_singleton] at h
      exact .inr ⟨s, List.mem_cons_self, h⟩
    | cons next ss =>
      rw [String.intercalate_cons_cons, String.toList_append, String.toList_append, List.mem_append, List.mem_append] at h
      rcases h with (h | h) | h
      · exact .inr ⟨s, List.mem_cons_self, h⟩
      · exact .inl h
      · rcases ih h with h | ⟨t, ht, h⟩
        · exact .inl h
        · exact .inr ⟨t, List.mem_cons_of_mem _ ht, h⟩

theorem tailless_digitChar : ∀ m < 16, isTail (Nat.digitChar m) = false := by decide

theorem mem_toString {n : Nat} {c : Char} (h : c ∈ (toString n).toList) : ∃ m < 10, c = m.digitChar := by
  rw [show (toString n).toList = Nat.toDigits 10 n from String.toList_ofList] at h
  exact mem_toDigits (by decide) h

theorem tailless_toString (n : Nat) : Tailless (toString n).toList := fun c hc => by
  obtain ⟨m, hm, rfl⟩ := mem_toString hc
  exact tailless_digitChar m (by omega)

/-! ## Hosts and what stands around them -/

/-- What an address is written with. -/
theorem mem_ipv4_text {a : Ipv4} {c : Char} (h : c ∈ a.text.toList) : c = '.' ∨ ∃ m < 10, c = m.digitChar := by
  rcases mem_intercalate h with h | ⟨s, hs, h⟩
  · exact .inl (List.mem_singleton.mp h)
  · simp only [List.mem_cons, List.not_mem_nil, or_false] at hs
    rcases hs with rfl | rfl | rfl | rfl <;> exact .inr (mem_toString h)

theorem mem_ipv6_text {a : Ipv6} {c : Char} (h : c ∈ a.text.toList) : c = ':' ∨ ∃ m < 16, c = m.digitChar := by
  have shown {gs : List Nat} (h : c ∈ (":".intercalate (gs.map hexText)).toList) : c = ':' ∨ ∃ m < 16, c = m.digitChar := by
    rcases mem_intercalate h with h | ⟨s, hs, h⟩
    · exact .inl (List.mem_singleton.mp h)
    · obtain ⟨n, _, rfl⟩ := List.mem_map.mp hs
      rw [hexText, String.toList_ofList] at h
      exact .inr (mem_toDigits (by decide) h)
  unfold Ipv6.text at h
  simp only at h
  split at h
  · exact shown h
  · rw [String.toList_append, String.toList_append, List.mem_append, List.mem_append] at h
    rcases h with (h | h) | h
    · exact shown h
    · exact .inl (by simpa using h)
    · exact shown h

theorem tailless_ipv4 (a : Ipv4) : Tailless a.text.toList := fun c hc => by
  rcases mem_ipv4_text hc with rfl | ⟨m, hm, rfl⟩
  · rfl
  · exact tailless_digitChar m (by omega)

theorem tailless_ipv6 (a : Ipv6) : Tailless a.text.toList := fun c hc => by
  rcases mem_ipv6_text hc with rfl | ⟨m, hm, rfl⟩
  · rfl
  · exact tailless_digitChar m hm

theorem not_isForbidden_of_toAscii {cs name : List Char} (h : Idna.toAscii? cs = some name) : ∀ c ∈ name, Idna.isForbidden c = false := by
  obtain ⟨mapped, _, h⟩ := Option.bind_eq_some_iff.mp h
  obtain ⟨plain, _, h⟩ := Option.bind_eq_some_iff.mp h
  split at h
  · cases h
  · obtain ⟨out, _, h⟩ := Option.bind_eq_some_iff.mp h
    simp only at h
    split at h
    · cases h
    · rename_i hforbidden
      obtain rfl := Option.some.inj h
      exact fun c hc => Bool.eq_false_iff.mpr fun hf => hforbidden (List.any_eq_true.mpr ⟨c, hc, hf⟩)

theorem tailless_toAscii {cs name : List Char} (h : Idna.toAscii? cs = some name) : Tailless name := by
  intro c hc
  refine Bool.eq_false_iff.mpr fun ht => ?_
  have hno := not_isForbidden_of_toAscii h c hc
  rcases tail_cases ht with rfl | rfl <;> revert hno <;> decide

theorem tailless_bracketed {cs : List Char} {host : Host} (h : Host.bracketed cs = .ok host) : Tailless host.text.toList := by
  unfold Host.bracketed at h
  split at h
  · split at h
    · rename_i a _
      obtain rfl := Except.ok.inj h
      simp only [Host.text, String.toList_append, tailless_append]
      exact ⟨⟨by decide, tailless_ipv6 a⟩, by decide⟩
    · cases h
  · cases h

theorem tailless_ofDomain {cs : List Char} {host : Host} (h : Host.ofDomain cs = .ok host) : Tailless host.text.toList := by
  unfold Host.ofDomain at h
  split at h
  · exact tailless_bracketed h
  · split at h
    · cases h
    · cases h
    · rename_i name hname
      obtain ⟨read, _, hname⟩ := Option.bind_eq_some_iff.mp hname
      split at h
      · split at h
        · rename_i a _
          obtain rfl := Except.ok.inj h
          exact tailless_ipv4 a
        · cases h
      · obtain rfl := Except.ok.inj h
        rw [Host.text, String.toList_ofList]
        exact tailless_toAscii hname

theorem tailless_credentials (cs : List Char) :
    Tailless (credentials cs).1.toList ∧ ∀ p, (credentials cs).2 = some p → Tailless p.toList := by
  unfold credentials
  simp only
  constructor
  · rw [String.toList_ofList]
    exact tailless_escape (by decide) (by decide) _
  · intro p hp
    split at hp
    · cases hp
    · obtain rfl := Option.some.inj hp
      rw [String.toList_ofList]
      exact tailless_escape (by decide) (by decide) _

/-- What an authority of a special scheme shows begins no tail. -/
structure TaillessAuthority (a : Authority) : Prop where
  username : Tailless a.username.toList
  password : ∀ p, a.password = some p → Tailless p.toList
  host : ∀ host, a.host = some host → Tailless host.text.toList

theorem taillessAuthority {scheme : String} {cs extra : List Char} {followed : Bool} {a : Authority}
    (h : authorityOf scheme .special cs followed = .ok (a, extra)) : TaillessAuthority a := by
  unfold authorityOf at h
  rcases hinfo : (cutUserinfo cs).getD ([], cs) with ⟨info, place⟩
  rw [hinfo] at h
  obtain ⟨hname, hpass⟩ := tailless_credentials info
  dsimp only at h
  split at h
  · cases h
  · split at h
    · cases h
    · rw [if_pos (by rfl)] at h
      obtain ⟨host, hhost, h⟩ := bind_ok h
      split at h
      · cases h
      · obtain ⟨⟨port, rest⟩, _, h⟩ := bind_ok h
        obtain ⟨rfl, -⟩ := Prod.mk.inj (Except.ok.inj h)
        refine ⟨hname, hpass, fun host' he => ?_⟩
        obtain rfl := Option.some.inj he
        exact tailless_ofDomain hhost

/-! ## Paths -/

/-- In no segment of a path begins a query or a fragment. -/
def TaillessPath (ss : List String) : Prop := ∀ s ∈ ss, Tailless s.toList

theorem TaillessPath.concat {ss : List String} (h : TaillessPath ss) {s : String} (hs : Tailless s.toList) :
    TaillessPath (ss ++ [s]) := by
  intro t ht
  rcases List.mem_append.mp ht with ht | ht
  · exact h t ht
  · rw [List.mem_singleton.mp ht]
    exact hs

theorem TaillessPath.shorter {ss ss' : List String} (h : TaillessPath ss) (hp : ss' <+: ss) : TaillessPath ss' :=
  fun s hs => h s (hp.subset hs)

theorem TaillessPath.descend {ss : List String} (h : TaillessPath ss) {segment : List Char} (hs : Tailless segment) (isLast : Bool) :
    TaillessPath (descend ss segment isLast) := by
  have closed {ss : List String} (h : TaillessPath ss) : TaillessPath (ss ++ if isLast then [""] else []) := by
    cases isLast with
    | false => simpa using h
    | true => exact h.concat tailless_nil
  unfold Url.descend
  split
  · exact closed (h.shorter (prefix_climb ss))
  · split
    · exact closed h
    · exact h.concat (by rwa [String.toList_ofList])

theorem TaillessPath.descendAll {ss : List String} (h : TaillessPath ss) {segments : List (List Char)}
    (hs : ∀ segment ∈ segments, Tailless segment) : TaillessPath (descendAll ss segments) := by
  fun_induction Url.descendAll ss segments with
  | case1 ss => exact h
  | case2 ss segment => exact h.descend (hs segment List.mem_cons_self) true
  | case3 ss segment rest _ ih =>
    obtain ⟨hsegment, hrest⟩ := List.forall_mem_cons.mp hs
    exact ih (h.descend hsegment false) hrest

theorem taillessPath_authorityPath (cs : List Char) : TaillessPath (authorityPath .special cs) := by
  have read (cs : List Char) : TaillessPath (segmentsFrom .special [] cs) := by
    show TaillessPath (descendAll [] ((rawSegments .special cs).map (escape pathSet)))
    refine TaillessPath.descendAll (fun s hs => by cases hs) fun segment hsegment => ?_
    obtain ⟨raw, _, rfl⟩ := List.mem_map.mp hsegment
    exact tailless_escape (by decide) (by decide) raw
  unfold authorityPath
  split
  · intro s hs
    rw [List.mem_singleton.mp hs]
    exact tailless_nil
  · split
    · exact read _
    · exact read _

/-! ## The text of what is read -/

/-- Neither in front of the path nor in it begins a query or a fragment. -/
structure TaillessTo (u : Url) : Prop where
  front : Tailless u.front.toList
  path : ∀ ss, u.route = .segments ss → TaillessPath ss

theorem taillessTo_afterSlashes {scheme : String} {cs : List Char} {u : Url} (hs : Tailless scheme.toList)
    (h : afterSlashes scheme .special cs = .ok u) : TaillessTo u := by
  obtain ⟨⟨a, extra⟩, ha, h⟩ := bind_ok h
  obtain rfl := Except.ok.inj h
  obtain ⟨hname, hpass, hhost⟩ := taillessAuthority ha
  constructor
  · simp only [front, String.toList_append, tailless_append]
    refine ⟨⟨hs, by decide⟩, ?_⟩
    unfold authorityText userinfoText portText
    cases hh : a.host with
    | none => exact tailless_nil
    | some host =>
      simp only [Option.map_some, Option.getD_some, String.toList_append, tailless_append]
      refine ⟨⟨⟨by decide, ?_⟩, hhost host hh⟩, ?_⟩
      · cases hp : a.password with
        | none =>
          simp only
          split
          · exact tailless_nil
          · rw [String.toList_append, tailless_append]
            exact ⟨hname, by decide⟩
        | some p =>
          simp only [String.toList_append, tailless_append]
          exact ⟨⟨⟨hname, by decide⟩, hpass p hp⟩, by decide⟩
      · cases a.port with
        | none => exact tailless_nil
        | some port =>
          simp only [Option.map_some, Option.getD_some, String.toList_append, tailless_append]
          exact ⟨by decide, tailless_toString port⟩
  · intro ss hss
    obtain rfl := Route.segments.inj hss
    exact taillessPath_authorityPath _

theorem scheme_of_ofScheme {scheme : String} {cs : List Char} {u : Url} (h : ofScheme scheme cs = .ok u) :
    schemeKind u.scheme = schemeKind scheme := by
  unfold ofScheme at h
  split at h
  · rename_i hkind
    obtain ⟨host, rest, rfl⟩ := ofFile_eq_fileAt h
    exact hkind.symm
  · rw [scheme_of_afterSlashes h]
  · rw [scheme_of_ofOther h]

/-- What is read of a special scheme begins no tail before its query. -/
theorem taillessTo_parse {s : String} {u : Url} (hk : schemeKind u.scheme = .special) (h : parse s = .ok u) : TaillessTo u := by
  unfold parse at h
  split at h
  · rename_i scheme rest _
    have hkind := (scheme_of_ofScheme h).symm.trans hk
    have hname : Tailless scheme.toList := by
      unfold schemeKind at hkind
      split at hkind
      · cases hkind
      · split at hkind
        · rename_i hspecial
          simp only [List.contains_iff_mem, List.mem_cons, List.not_mem_nil, or_false] at hspecial
          rcases hspecial with rfl | rfl | rfl | rfl | rfl <;> decide
        · cases hkind
    unfold ofScheme at h
    rw [hkind] at h
    exact taillessTo_afterSlashes hname h
  · cases h

/-- The last segment of the path that a locator's text shows. -/
def lastSegment (text : String) : List Char := ((cut isTail text.toList).1.reverse.takeWhile (· ≠ '/')).reverse

theorem takeWhile_behind {p : Char → Bool} {cs ds : List Char} (hc : ∀ c ∈ cs, p c = true)
    (hd : ∀ d, ds.head? = some d → p d = false) : (cs ++ ds).takeWhile p = cs := by
  rw [List.takeWhile_append_of_pos hc]
  cases ds with
  | nil => rw [List.takeWhile_nil, List.append_nil]
  | cons d ds => rw [List.takeWhile_cons_of_neg (by simp [hd d rfl]), List.append_nil]

/-- A segment without separators and signs is found, whatever query and fragment stand behind it. -/
theorem lastSegment_eq {text : String} {before segment back : List Char} (htext : text.toList = before ++ '/' :: segment ++ back)
    (hbefore : Tailless before) (hsegment : Tailless segment) (hslash : '/' ∉ segment)
    (hback : ∀ c, back.head? = some c → isTail c = true) : lastSegment text = segment := by
  have hcut : (cut isTail text.toList).1 = before ++ '/' :: segment := by
    have hall : Tailless (before ++ '/' :: segment) := tailless_append.mpr ⟨hbefore, (tailless_cons rfl).mpr hsegment⟩
    rw [htext, cut]
    exact takeWhile_behind (fun c hc => by rw [hall c hc]; rfl) (fun c hc => by rw [hback c hc]; rfl)
  have hreverse : (before ++ '/' :: segment).reverse = segment.reverse ++ '/' :: before.reverse := by simp
  rw [lastSegment, hcut, hreverse, takeWhile_behind, List.reverse_reverse]
  · intro c hc
    have hne : c ≠ '/' := fun e => hslash (e ▸ List.mem_reverse.mp hc)
    simpa using hne
  · intro c hc
    simp at hc
    simp [← hc]

/-- A segment at the end of a path is found there. -/
theorem lastSegment_entry {u : Url} (hu : TaillessTo u) {init : List String} {segment : List Char}
    (hroute : u.route = .segments (init ++ [String.ofList segment])) (hslash : '/' ∉ segment) : lastSegment u.text = segment := by
  have hpath := hu.path _ hroute
  have hsegment : Tailless segment := by
    have := hpath (String.ofList segment) (by simp)
    rwa [String.toList_ofList] at this
  have hjoined : ∀ ss, TaillessPath ss → Tailless (segmentsText ss).toList := by
    intro ss hss
    induction ss with
    | nil => exact tailless_nil
    | cons s ss ih =>
      obtain ⟨hs, hss⟩ := List.forall_mem_cons.mp hss
      simp only [segmentsText, List.map_cons, String.join_cons, String.toList_append, tailless_append]
      exact ⟨⟨by decide, hs⟩, ih hss⟩
  have hinit := hjoined init (hpath.shorter (List.prefix_append _ _))
  obtain ⟨set, hset, hrouteText⟩ : ∃ set : String, Tailless set.toList ∧
      u.routeText = set ++ segmentsText init ++ ("/" ++ String.ofList segment) := by
    unfold routeText
    rw [hroute]
    simp only [segmentsText_append, ← String.append_assoc]
    split
    · exact ⟨"/.", by decide, rfl⟩
    · exact ⟨"", by decide, rfl⟩
  have htext : u.text.toList = (u.front.toList ++ (set.toList ++ (segmentsText init).toList)) ++ '/' :: segment ++
      u.back.toList := by
    rw [text_eq, hrouteText]
    simp [String.toList_append]
  have hfront : Tailless (u.front.toList ++ (set.toList ++ (segmentsText init).toList)) :=
    tailless_append.mpr ⟨hu.front, tailless_append.mpr ⟨hset, hinit⟩⟩
  exact lastSegment_eq htext hfront hsegment hslash fun c hc => ArtifactBase.isTail_of_head?_back hc

end BuildHarvest.Url

namespace BuildHarvest

open BuildHarvest.Url

/-! ## The URL of a name -/

theorem special_of_http {scheme : String} (h : scheme = "http" ∨ scheme = "https") : schemeKind scheme = .special := by
  rcases h with rfl | rfl <;> decide

section

variable {build subpath : String} {base : ArtifactBase} (hb : ArtifactBase.ofBuild build subpath = .ok base)

include hb

/-- The path of a name's URL: what the name has no part in, and the segment of what is left of the name. -/
theorem ArtifactBase.child_plain {ss : List String} (hss : base.url.route = .segments ss) {name : String}
    (hn : Manifest.fault? name = none) (hp : IsPlain (taken name)) : base.url.child name = { base.url with
      route := .segments (ground ss ++ [String.ofList (segmentOf (schemeKind base.url.scheme) name)]) } := by
  have hdots := (Manifest.of_sound hn).2.1
  have h1 : name ≠ "." := fun e => hdots (.inl (by rw [e]; rfl))
  have h2 : name ≠ ".." := fun e => hdots (.inr (by rw [e]; rfl))
  have hsettled := settled_parse (ArtifactBase.parse_of_ofBuild hb) hss
  unfold Url.child
  rw [hss]
  simp only [pushSegment_plain hsettled h1 h2 hp]

/-- The text of a name's URL ends its path with the segment of what is left of the name. -/
theorem ArtifactBase.lastSegment_urlOf (hk : schemeKind base.url.scheme = .special) {name : String}
    (hn : Manifest.fault? name = none) (hp : IsPlain (taken name)) :
    lastSegment (base.urlOf name) = segmentOf .special name := by
  obtain ⟨ss, hss⟩ := base.exists_segments
  have hbase := taillessTo_parse hk (ArtifactBase.parse_of_ofBuild hb)
  have hwhole := segmentOf_whole .special name
  have hchild := ArtifactBase.child_plain hb hss hn hp
  rw [hk] at hchild
  have hpath : TaillessPath (ground ss ++ [String.ofList (segmentOf .special name)]) := by
    refine ((hbase.path ss hss).shorter (prefix_ground ss)).concat ?_
    rw [String.toList_ofList]
    exact fun c hc => (hwhole c hc).2
  have hslash : '/' ∉ segmentOf .special name := by
    intro hmem
    have hno := (hwhole _ hmem).1
    revert hno
    decide
  have hentry : TaillessTo { base.url with route := .segments (ground ss ++ [String.ofList (segmentOf .special name)]) } :=
    ⟨hbase.front, fun ss' hss' => Route.segments.inj hss' ▸ hpath⟩
  rw [ArtifactBase.urlOf, hchild]
  exact lastSegment_entry hentry rfl hslash

end

/-- What is left of a name is read back from the last segment of its URL, so that names of which different
texts are left have different URLs. -/
theorem artifact_name_is_read_back {build subpath : String} {base : ArtifactBase}
    (hb : ArtifactBase.ofBuild build subpath = .ok base) (hs : base.url.scheme = "http" ∨ base.url.scheme = "https") {f : String}
    (hf : Manifest.fault? f = none) (hp : IsPlain (taken f)) :
    (∃ (u : Url) (init : List String) (segment : String), base.urlOf f = u.text ∧
      u = { base.url with route := .segments (init ++ [segment]) } ∧ lastSegment u.text = segment.toList ∧
      (∀ c ∈ segment.toList, c ≠ '/' ∧ c ≠ '?' ∧ c ≠ '#' ∧ c ≠ '\\') ∧ IsEscaped segment.toList ∧
      Utf8.decode? (unescape segment.toList) = some (String.ofList (taken f))) ∧
    ∀ g, Manifest.fault? g = none → IsPlain (taken g) → (base.urlOf f = base.urlOf g ↔ taken f = taken g) := by
  have hk := special_of_http hs
  obtain ⟨ss, hss⟩ := base.exists_segments
  have hlast {name : String} (hn : Manifest.fault? name = none) (hp : IsPlain (taken name)) :
      lastSegment (base.urlOf name) = segmentOf .special name := ArtifactBase.lastSegment_urlOf hb hk hn hp
  have hchild {name : String} (hn : Manifest.fault? name = none) (hp : IsPlain (taken name)) :=
    ArtifactBase.child_plain hb hss hn hp
  constructor
  · refine ⟨base.url.child f, ground ss, String.ofList (segmentOf .special f), rfl, by rw [hchild hf hp, hk], ?_, ?_, ?_, ?_⟩
    · rw [String.toList_ofList]
      exact hlast hf hp
    · rw [String.toList_ofList]
      intro c hc
      obtain ⟨hslash, htail⟩ := segmentOf_whole .special f c hc
      have hseparators : c ≠ '/' ∧ c ≠ '\\' := by simpa [isSlash, SchemeKind.isSpecial] using hslash
      have hsigns : c ≠ '?' ∧ c ≠ '#' := by simpa [isTail] using htail
      exact ⟨hseparators.1, hsigns.1, hsigns.2, hseparators.2⟩
    · rw [String.toList_ofList]
      exact isEscaped_escape (by decide) _
    · rw [String.toList_ofList, unescape_segmentOf, Utf8.decode?, Utf8.decodeChars?_encodeChars, Option.map_some]
  · intro g hg hpg
    constructor
    · intro h
      have hsegment : segmentOf .special f = segmentOf .special g := by rw [← hlast hf hp, ← hlast hg hpg, h]
      have hoctets := congrArg unescape hsegment
      rw [unescape_segmentOf, unescape_segmentOf] at hoctets
      exact Utf8.encodeChars_injective hoctets
    · intro h
      have hsegment : segmentOf (schemeKind base.url.scheme) f = segmentOf (schemeKind base.url.scheme) g := by
        unfold segmentOf
        rw [show f.toList.filter (!isDropped ·) = g.toList.filter (!isDropped ·) from h]
      rw [ArtifactBase.urlOf, ArtifactBase.urlOf, hchild hf hp, hchild hg hpg, hsegment]

/-- Two names with per cent signs that differ in their tabs have one URL, from which the signs are read back. -/
theorem a_name_with_tabs_is_read_back_without_them : ∃ base, ArtifactBase.ofBuild "http://[::]/job?q" "lib" = .ok base ∧
    Manifest.fault? "%2e\t%" = none ∧ Manifest.fault? "%2e%" = none ∧ base.urlOf "%2e\t%" = base.urlOf "%2e%" ∧
    Utf8.decode? (unescape (lastSegment (base.urlOf "%2e\t%"))) = some "%2e%" := by
  have hread : (ArtifactBase.ofBuild "http://[::]/job?q" "lib").toOption.map (fun base => base.url.scheme) = some "http" := by
    decide +kernel
  obtain ⟨base, hbase, hscheme⟩ := Option.map_eq_some_iff.mp hread
  have hf : Manifest.fault? "%2e\t%" = none := by decide
  have hg : Manifest.fault? "%2e%" = none := by decide
  obtain ⟨⟨u, init, segment, hu, _, hlast, _, _, hback⟩, hsame⟩ :=
    artifact_name_is_read_back (ok_of_toOption hbase) (.inl hscheme) hf ⟨by decide, by decide, by decide⟩
  refine ⟨base, ok_of_toOption hbase, hf, hg, (hsame _ hg ⟨by decide, by decide, by decide⟩).mpr (by decide), ?_⟩
  rw [hu, hlast, hback]
  decide

end BuildHarvest
