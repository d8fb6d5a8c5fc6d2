/-
  BuildHarvest.Proofs.DirectoryUrl — when the text of an artifact's URL is that of its base and the name.

  The text that a base is read from ends with a separator (`Shut`), but what the separator closes
  is the path only where nothing in the text begins a query or a fragment (`Tailless`).

  Proved (`artifact_text_follows_base`), of every base that a build gives:
  - It has no query and no fragment exactly when there is no `?` and no `#` in the build's URL and
    in the path below it. Then its path ends with a separator, unless it has none at all, which is
    so of `scheme://` alone.
  - The URL of an artifact with an ordinary name is the base's text and the name exactly when the
    base has no query, no fragment, a path, and not the path `//`.

  `a_query_takes_the_separator`: a base for which it is not.
-/

import BuildHarvest.Proofs.ArtifactUrl
import Mathlib.Data.List.TakeWhile

namespace BuildHarvest.Url

/-! ## Texts that a separator closes -/

/-- The last character of a text, where it has one, is a separator. -/
def Shut (cs : List Char) : Prop := ∀ c, cs.getLast? = some c → c = '/'

/-- Nothing in a text begins a query or a fragment. -/
def Tailless (cs : List Char) : Prop := ∀ c ∈ cs, isTail c = false

instance (cs : List Char) : Decidable (Tailless cs) := List.decidableBAll (fun c => isTail c = false) cs

theorem shut_concat (cs : List Char) : Shut (cs ++ ['/']) := by
  intro c hc
  simpa using hc.symm

theorem Shut.eq_nil_or {cs : List Char} (h : Shut cs) : cs = [] ∨ ∃ init, cs = init ++ ['/'] := by
  rcases List.eq_nil_or_concat cs with hnil | ⟨init, last, hlast⟩
  · exact .inl hnil
  · rw [List.concat_eq_append] at hlast
    have hc : last = '/' := h last (by simp [hlast])
    exact .inr ⟨init, by rw [hlast, hc]⟩

/-- What stands behind a part of such a text is one too. -/
theorem Shut.behind (before : List Char) {cs : List Char} (h : Shut (before ++ cs)) : Shut cs := by
  intro c hc
  apply h c
  rw [List.getLast?_append, hc, Option.some_or]

theorem Shut.append (before : List Char) {cs : List Char} (h : Shut cs) (hne : cs ≠ []) : Shut (before ++ cs) := by
  intro c hc
  rw [List.getLast?_append] at hc
  cases hlast : cs.getLast? with
  | none => exact absurd (List.getLast?_eq_none_iff.mp hlast) hne
  | some last =>
    rw [hlast, Option.some_or] at hc
    rw [← Option.some.inj hc]
    exact h last hlast

theorem tailless_append {cs ds : List Char} : Tailless (cs ++ ds) ↔ Tailless cs ∧ Tailless ds := List.forall_mem_append

theorem tailless_cons {c : Char} {cs : List Char} (h : isTail c = false) : Tailless (c :: cs) ↔ Tailless cs := by
  simp [Tailless, h]

theorem tail_cases {c : Char} (h : isTail c = true) : c = '?' ∨ c = '#' := by simpa [isTail] using h

/-- Texts with the same question marks and number signs. -/
theorem tailless_congr {cs ds : List Char} (h : ∀ c, isTail c = true → (c ∈ cs ↔ c ∈ ds)) : Tailless cs ↔ Tailless ds := by
  constructor
  · intro hcs c hc
    refine Bool.eq_false_iff.mpr fun ht => ?_
    rw [hcs c ((h c ht).mpr hc)] at ht
    cases ht
  · intro hds c hc
    refine Bool.eq_false_iff.mpr fun ht => ?_
    rw [hds c ((h c ht).mp hc)] at ht
    cases ht

/-! ## Cutting a text -/

theorem cut_append (p : Char → Bool) (cs : List Char) : (cut p cs).1 ++ (cut p cs).2 = cs :=
  List.takeWhile_append_dropWhile

theorem not_of_mem_cut {p : Char → Bool} {cs : List Char} {c : Char} (h : c ∈ (cut p cs).1) : p c = false := by
  have := List.mem_takeWhile_imp h
  simpa using this

theorem cut_behind_eq_nil {p : Char → Bool} {cs : List Char} : (cut p cs).2 = [] ↔ ∀ c ∈ cs, p c = false := by
  simp [cut, List.dropWhile_eq_nil_iff]

/-- Where a separator is among what is cut at, a text that ends with one has something behind the cut. -/
theorem cut_behind_ne_nil {p : Char → Bool} (hp : p '/' = true) {cs : List Char} (h : Shut cs) (hne : cs ≠ []) :
    (cut p cs).2 ≠ [] := by
  intro hnil
  obtain hnil' | ⟨init, rfl⟩ := h.eq_nil_or
  · exact hne hnil'
  · have := cut_behind_eq_nil.mp hnil '/' (by simp)
    rw [hp] at this
    cases this

/-- A part before the cut that begins no tail says nothing of the tails. -/
theorem tailless_cut_behind {p : Char → Bool} (hp : ∀ c, isTail c = true → p c = true) (cs : List Char) :
    Tailless (cut p cs).2 ↔ Tailless cs := by
  have hbefore : Tailless (cut p cs).1 := by
    intro c hc
    refine Bool.eq_false_iff.mpr fun ht => ?_
    have hno := not_of_mem_cut hc
    rw [hp c ht] at hno
    cases hno
  conv => rhs; rw [← cut_append p cs, tailless_append]
  exact ⟨fun h => ⟨hbefore, h⟩, fun h => h.2⟩

/-- A text has a query or a fragment where it has a character that begins one. -/
theorem tail_eq_none {kind : SchemeKind} {cs : List Char} :
    (tail kind (cut isTail cs).2).1 = none ∧ (tail kind (cut isTail cs).2).2 = none ↔ Tailless cs := by
  constructor
  · intro h
    apply cut_behind_eq_nil.mp
    cases hrest : (cut isTail cs).2 with
    | nil => rfl
    | cons c rest =>
      exfalso
      have hc : isTail c = true := by
        have hhead := List.head?_dropWhile_not (!isTail ·) cs
        rw [show cs.dropWhile (!isTail ·) = c :: rest from hrest] at hhead
        simpa using hhead
      rw [hrest] at h
      rcases tail_cases hc with rfl | rfl
      · simp [tail] at h
      · simp [tail] at h
  · intro h
    rw [cut_behind_eq_nil.mpr h]
    exact ⟨rfl, rfl⟩

theorem cut_before_of_tailless {cs : List Char} (h : Tailless cs) : (cut isTail cs).1 = cs := by
  have happend := cut_append isTail cs
  rwa [cut_behind_eq_nil.mpr h, List.append_nil] at happend

/-! ## Paths that a separator closes -/

theorem rawSegments_shut (kind : SchemeKind) {cs : List Char} (h : Shut cs) : ∃ init, rawSegments kind cs = init ++ [[]] := by
  rcases h.eq_nil_or with rfl | ⟨before, rfl⟩
  · exact ⟨[], rfl⟩
  · refine ⟨splitOn '/' (before.map fun c => if isSlash kind c then '/' else c), ?_⟩
    rw [rawSegments, List.map_append, List.map_singleton, ite_self, splitOn_append]
    rfl

theorem descendAll_concat_nil (start : List String) (segments : List (List Char)) :
    ∃ init, descendAll start (segments ++ [[]]) = init ++ [""] := by
  induction segments generalizing start with
  | nil => exact ⟨start, rfl⟩
  | cons segment segments ih =>
    obtain ⟨next, rest, hrest⟩ : ∃ next rest, segments ++ [[]] = next :: rest :=
      List.exists_cons_of_ne_nil (by simp)
    rw [List.cons_append, hrest, descendAll, ← hrest]
    · exact ih _
    · simp

theorem getLast?_settleFile (kind : SchemeKind) (init : List String) : (settleFile kind (init ++ [""])).getLast? = some "" := by
  cases kind with
  | file =>
    simp only [settleFile]
    split
    · rfl
    · rename_i rest hrest
      obtain ⟨dropped, hdropped⟩ := List.dropWhile_suffix (· == "") (l := init ++ [""])
      have hne : (init ++ [""]).dropWhile (· == "") ≠ [] := by
        intro hnil
        exact hrest hnil
      have hlast : (init ++ [""]).getLast? = some "" := by simp
      rw [← hdropped, List.getLast?_append] at hlast
      cases hend : ((init ++ [""]).dropWhile (· == "")).getLast? with
      | none => exact absurd (List.getLast?_eq_none_iff.mp hend) hne
      | some last => rwa [hend, Option.some_or] at hlast
  | special => simp [settleFile]
  | other => simp [settleFile]

theorem segmentsFrom_shut (kind : SchemeKind) (start : List String) {cs : List Char} (h : Shut cs) :
    (segmentsFrom kind start cs).getLast? = some "" := by
  obtain ⟨raw, hraw⟩ := rawSegments_shut kind h
  obtain ⟨init, hinit⟩ := descendAll_concat_nil start (raw.map (escape pathSet))
  rw [segmentsFrom, hraw, List.map_append, List.map_singleton, show escape pathSet [] = [] from rfl, hinit]
  exact getLast?_settleFile kind init

theorem authorityPath_shut (kind : SchemeKind) {cs : List Char} (h : Shut cs) (hne : kind = .other → cs ≠ []) :
    (authorityPath kind cs).getLast? = some "" := by
  cases cs with
  | nil =>
    cases kind with
    | other => exact absurd rfl (hne rfl)
    | file => rfl
    | special => rfl
  | cons c rest =>
    rw [authorityPath]
    split
    · exact segmentsFrom_shut kind [] (Shut.behind [c] h)
    · exact segmentsFrom_shut kind [] h

/-! ## What stands behind the slashes of an authority -/

theorem cutPort_subset (inside : Bool) (cs : List Char) : (cutPort inside cs).2 ⊆ cs := by
  fun_induction cutPort inside cs with
  | case1 => simp
  | case2 rest h p hcut ih =>
    rw [hcut] at ih
    exact List.subset_cons_of_subset _ ih
  | case3 => simp
  | case4 inside c rest hc h p hcut ih =>
    rw [hcut] at ih
    exact List.subset_cons_of_subset _ ih

theorem portOf_subset {scheme : String} {cs rest : List Char} {port : Option Nat} (h : portOf scheme cs = .ok (port, rest)) :
    rest ⊆ cs := by
  have hbehind : (cut (fun c => !c.isDigit) cs).2 ⊆ cs := (List.dropWhile_suffix _).subset
  unfold portOf at h
  dsimp only at h
  split at h
  · cases h
  · split at h
    · obtain ⟨-, rfl⟩ := Prod.mk.inj (Except.ok.inj h)
      simp
    · rename_i hrest
      obtain ⟨-, rfl⟩ := Prod.mk.inj (Except.ok.inj h)
      exact hbehind
    · cases h

theorem cutUserinfo_subset {cs info place : List Char} (h : (cutUserinfo cs).getD ([], cs) = (info, place)) : place ⊆ cs := by
  unfold cutUserinfo at h
  split at h
  · obtain ⟨-, rfl⟩ := Prod.mk.inj h
    intro c hc
    have hmem := (List.takeWhile_prefix _).subset (List.mem_reverse.mp hc)
    exact List.mem_reverse.mp hmem
  · obtain ⟨-, rfl⟩ := Prod.mk.inj h
    exact List.Subset.refl cs

/-- What an authority leaves was written in it. -/
theorem authorityOf_subset {scheme : String} {kind : SchemeKind} {cs extra : List Char} {followed : Bool} {a : Authority}
    (h : authorityOf scheme kind cs followed = .ok (a, extra)) : extra ⊆ cs := by
  unfold authorityOf at h
  rcases hinfo : (cutUserinfo cs).getD ([], cs) with ⟨info, place⟩
  rw [hinfo] at h
  dsimp only at h
  have hport {port : Option Nat} {rest : List Char} (hp : portOf scheme (cutPort false place).2.tail = .ok (port, rest)) : rest ⊆ cs :=
    List.Subset.trans (portOf_subset hp) (List.Subset.trans (List.tail_suffix _).subset
      (List.Subset.trans (cutPort_subset false place) (cutUserinfo_subset hinfo)))
  -- where it is not refused, the port is read last
  split at h
  · cases h
  · split at h
    · cases h
    · split at h
      all_goals
        obtain ⟨host, -, h⟩ := bind_ok h
        split at h
        · cases h
        · obtain ⟨⟨port, rest⟩, hp, h⟩ := bind_ok h
          obtain ⟨-, rfl⟩ := Prod.mk.inj (Except.ok.inj h)
          exact hport hp

/-! ## Queries and fragments that a separator closes -/

section

variable (set : EscapeSet) (hset : set '/' = false)

include hset

theorem shut_escape {cs : List Char} (h : Shut cs) : Shut (escape set cs) := by
  rcases h.eq_nil_or with rfl | ⟨init, rfl⟩
  · exact h
  · have hslash : escape set ['/'] = ['/'] := by simp [escape, escapeChar, hset]
    have happend : escape set (init ++ ['/']) = escape set init ++ escape set ['/'] := List.flatMap_append
    rw [happend, hslash]
    exact shut_concat _

/-- A sign and what stands behind it: where the whole ends with a separator, so does what it is written as. -/
theorem shut_signed {c : Char} {cs : List Char} (hc : c ≠ '/') (h : Shut (c :: cs)) (before : List Char) :
    Shut (before ++ c :: escape set cs) := by
  have hcs : Shut cs := Shut.behind [c] h
  have hne : cs ≠ [] := by
    rintro rfl
    exact hc (h c rfl)
  have hescape : escape set cs ≠ [] := fun hnil => hne (escape_eq_nil.mp hnil)
  rw [← List.singleton_append, ← List.append_assoc]
  exact (shut_escape set hset hcs).append _ hescape

end

/-- The text of a query and a fragment. -/
def tailText (parts : Option String × Option String) : String :=
  (parts.1.map ("?" ++ ·)).getD "" ++ (parts.2.map ("#" ++ ·)).getD ""

theorem shut_tail (kind : SchemeKind) {cs : List Char} (h : Shut cs) : Shut (tailText (tail kind cs)).toList := by
  have hquery : (if kind.isSpecial then specialQuerySet else querySet) '/' = false := by
    split <;> rfl
  unfold tail
  split
  · rename_i rest
    have hcut := cut_append (· == '#') rest
    cases hbehind : (cut (· == '#') rest).2 with
    | nil =>
      rw [hbehind, List.append_nil] at hcut
      have hsigned := shut_signed _ hquery (by decide) h []
      simpa [tailText, queryText, hbehind, hcut] using hsigned
    | cons c fragment =>
      have hc : c = '#' := by
        have hhead := List.head?_dropWhile_not (fun c => !(c == '#')) rest
        rw [show rest.dropWhile (fun c => !(c == '#')) = c :: fragment from hbehind] at hhead
        simpa using hhead
      subst hc
      rw [hbehind] at hcut
      have hshut : Shut ('#' :: fragment) := Shut.behind ('?' :: (cut (· == '#') rest).1) (by rw [List.cons_append, hcut]; exact h)
      have hsigned := shut_signed fragmentSet rfl (by decide) hshut
        ('?' :: escape (if kind.isSpecial then specialQuerySet else querySet) (cut (· == '#') rest).1)
      simpa [tailText, queryText, fragmentText, hbehind] using hsigned
  · rename_i rest
    have hsigned := shut_signed fragmentSet rfl (by decide) h []
    simpa [tailText, fragmentText] using hsigned
  · intro c hc
    cases hc

/-! ## What a reading says of a text that a separator closes -/

/-- What is read from a text: a tail where the text has one; else the path that the text closes,
unless the text was nothing but the slashes of an authority. A tail ends with the separator. -/
structure ReadsShut (cs : List Char) (u : Url) : Prop where
  tails : u.query = none ∧ u.fragment = none ↔ Tailless cs
  path : ∀ ss, u.route = .segments ss → Tailless cs → ss.getLast? = some "" ∨ ss = [] ∧ cs = ['/', '/']
  back : Shut u.back.toList

/-- A path, a query and a fragment, cut out of a text. -/
theorem readsShut_cut (ds : List Char) {kind : SchemeKind} {cs : List Char} {u : Url}
    (hroute : u.route = .segments (authorityPath kind (cut isTail ds).1))
    (htail : (u.query, u.fragment) = tail kind (cut isTail ds).2) (hsame : Tailless ds ↔ Tailless cs) (hshut : Shut ds)
    (hnil : kind = .other → ds = [] → cs = ['/', '/']) : ReadsShut cs u := by
  have hquery : u.query = (tail kind (cut isTail ds).2).1 := congrArg Prod.fst htail
  have hfragment : u.fragment = (tail kind (cut isTail ds).2).2 := congrArg Prod.snd htail
  refine ⟨?_, ?_, ?_⟩
  · rw [hquery, hfragment, tail_eq_none, hsame]
  · intro ss hss hcs
    rw [hroute, cut_before_of_tailless (hsame.mpr hcs)] at hss
    obtain rfl := Route.segments.inj hss
    by_cases hne : kind = .other → ds ≠ []
    · exact .inl (authorityPath_shut kind hshut hne)
    · obtain ⟨hkind, hds⟩ : kind = .other ∧ ds = [] := by simpa using hne
      subst hkind hds
      exact .inr ⟨rfl, hnil rfl rfl⟩
  · rw [← cut_append isTail ds] at hshut
    have hback : u.back = tailText (tail kind (cut isTail ds).2) := congrArg tailText htail
    rw [hback]
    exact shut_tail kind (Shut.behind _ hshut)

theorem isTail_of_isSlash {kind : SchemeKind} {c : Char} (h : isSlash kind c = true) : isTail c = false := by
  rcases (by simpa [isSlash] using h : c = '/' ∨ kind.isSpecial = true ∧ c = '\\') with rfl | ⟨-, rfl⟩ <;> rfl

theorem readsShut_afterSlashes {scheme : String} {kind : SchemeKind} {cs ds : List Char} {u : Url}
    (h : afterSlashes scheme kind ds = .ok u) (hsame : Tailless ds ↔ Tailless cs) (hshut : Shut ds)
    (hnil : kind = .other → ds = [] → cs = ['/', '/']) : ReadsShut cs u := by
  obtain ⟨⟨a, extra⟩, ha, h⟩ := bind_ok h
  obtain rfl := Except.ok.inj h
  have hcut := cut_append (fun c => isSlash kind c || isTail c) ds
  have hextra : Tailless extra := by
    intro c hc
    have hno := not_of_mem_cut (authorityOf_subset ha hc)
    exact (Bool.or_eq_false_iff.mp hno).2
  have hbehind : Tailless (cut (fun c => isSlash kind c || isTail c) ds).2 ↔ Tailless ds :=
    tailless_cut_behind (fun c hc => by rw [hc, Bool.or_true]) ds
  refine readsShut_cut (extra ++ (cut (fun c => isSlash kind c || isTail c) ds).2) rfl rfl ?_ ?_ ?_
  · rw [tailless_append, hbehind, hsame]
    exact and_iff_right hextra
  · by_cases hds : ds = []
    · subst hds
      have : extra = [] := List.eq_nil_of_subset_nil (authorityOf_subset ha)
      subst this
      exact hshut
    · rw [← hcut] at hshut
      exact (Shut.behind _ hshut).append extra (cut_behind_ne_nil (by simp [isSlash]) (hcut ▸ hshut) hds)
  · intro hkind hds
    apply hnil hkind
    by_contra hne
    exact cut_behind_ne_nil (by simp [isSlash]) hshut hne (List.append_eq_nil_iff.mp hds).2

theorem readsShut_ofFile {cs : List Char} {u : Url} (h : ofFile cs = .ok u) (hshut : Shut cs) : ReadsShut cs u := by
  have read (host : Host) {ds : List Char} (hsame : Tailless ds ↔ Tailless cs) (hds : Shut ds) : ReadsShut cs (fileAt host ds) :=
    readsShut_cut ds rfl rfl hsame hds (fun hkind => by cases hkind)
  unfold ofFile at h
  split at h
  · rename_i c d rest
    split at h
    · rename_i hslashes
      obtain ⟨hc, hd⟩ := Bool.and_eq_true_iff.mp hslashes
      have hrest : Tailless rest ↔ Tailless (c :: d :: rest) := by
        rw [tailless_cons (isTail_of_isSlash hc), tailless_cons (isTail_of_isSlash hd)]
      have hshut' : Shut rest := Shut.behind [c, d] hshut
      have hcut := cut_append (fun c => isSlash .file c || isTail c) rest
      have hbehind := tailless_cut_behind (p := fun c => isSlash .file c || isTail c) (fun c hc => by rw [hc, Bool.or_true]) rest
      have hend : Shut (cut (fun c => isSlash .file c || isTail c) rest).2 := by
        rw [← hcut] at hshut'
        exact Shut.behind _ hshut'
      obtain ⟨⟨host, ds⟩, hf, h⟩ := bind_ok h
      obtain rfl := Except.ok.inj h
      unfold fileHost at hf
      dsimp only at hf
      split at hf
      · obtain ⟨rfl, rfl⟩ := Prod.mk.inj (Except.ok.inj hf)
        refine read _ ((tailless_cons rfl).trans hrest) ?_
        rcases hshut'.eq_nil_or with rfl | ⟨init, rfl⟩
        · exact shut_concat []
        · exact shut_concat ('/' :: init)
      · split at hf
        · obtain ⟨rfl, rfl⟩ := Prod.mk.inj (Except.ok.inj hf)
          exact read _ (hbehind.trans hrest) hend
        · obtain ⟨name, -, hf⟩ := bind_ok hf
          split at hf
          all_goals
            obtain ⟨rfl, rfl⟩ := Prod.mk.inj (Except.ok.inj hf)
            exact read _ (hbehind.trans hrest) hend
    · obtain rfl := Except.ok.inj h
      exact read _ Iff.rfl hshut
  · obtain rfl := Except.ok.inj h
    exact read _ Iff.rfl hshut

theorem readsShut_ofOther {scheme : String} {cs : List Char} {u : Url} (h : ofOther scheme cs = .ok u) (hshut : Shut cs) :
    ReadsShut cs u := by
  unfold ofOther at h
  split at h
  · rename_i rest
    refine readsShut_afterSlashes h ?_ (Shut.behind ['/', '/'] hshut) (fun _ hnil => by rw [hnil])
    rw [tailless_cons rfl, tailless_cons rfl]
  · obtain rfl := Except.ok.inj h
    refine ⟨tail_eq_none, ?_, ?_⟩
    · intro ss hss hcs
      have hpath : cs.takeWhile (!isTail ·) = cs := cut_before_of_tailless hcs
      dsimp only at hss
      rw [hpath] at hss
      split at hss
      · rename_i rest
        obtain rfl := Route.segments.inj hss
        exact .inl (segmentsFrom_shut .other [] (Shut.behind ['/'] hshut))
      · cases hss
    · rw [← cut_append isTail cs] at hshut
      exact shut_tail .other (Shut.behind _ hshut)

theorem readsShut_ofScheme {scheme : String} {cs : List Char} {u : Url} (h : ofScheme scheme cs = .ok u) (hshut : Shut cs) :
    ReadsShut cs u := by
  have hdrop : (cs.takeWhile (isSlash .special)) ++ cs.dropWhile (isSlash .special) = cs := List.takeWhile_append_dropWhile
  unfold ofScheme at h
  split at h
  · exact readsShut_ofFile h hshut
  · refine readsShut_afterSlashes h ?_ ?_ (fun hkind => by cases hkind)
    · conv => rhs; rw [← hdrop, tailless_append]
      exact (and_iff_right fun c hc => isTail_of_isSlash (List.mem_takeWhile_imp hc)).symm
    · rw [← hdrop] at hshut
      exact Shut.behind _ hshut
  · exact readsShut_ofOther h hshut

/-! ## Whole texts -/

theorem mem_dropWhile_of_not {p : Char → Bool} {c : Char} (hp : p c = false) (cs : List Char) : c ∈ cs.dropWhile p ↔ c ∈ cs := by
  constructor
  · exact fun h => (List.dropWhile_suffix p).subset h
  · intro h
    rw [← List.takeWhile_append_dropWhile (p := p) (l := cs), List.mem_append] at h
    rcases h with h | h
    · have := List.mem_takeWhile_imp h
      rw [hp] at this
      cases this
    · exact h

/-- What a reading leaves out of a text begins no query and no fragment. -/
theorem tailless_trimmed (s : String) : Tailless (trimmed s) ↔ Tailless s.toList := by
  refine tailless_congr fun c hc => ?_
  have hkept : isOuter c = false ∧ isDropped c = false := by
    rcases tail_cases hc with rfl | rfl <;> decide
  simp only [trimmed, List.mem_filter, hkept.2, Bool.not_false, and_true, List.mem_reverse, mem_dropWhile_of_not hkept.1]

theorem shut_trimmed {s : String} {init : List Char} (h : s.toList = init ++ ['/']) : ∃ before, trimmed s = before ++ ['/'] := by
  have hfront : ∃ before, s.toList.dropWhile isOuter = before ++ ['/'] := by
    rw [h, List.dropWhile_append]
    split
    · exact ⟨[], rfl⟩
    · exact ⟨_, rfl⟩
  obtain ⟨before, hbefore⟩ := hfront
  refine ⟨before.filter (!isDropped ·), ?_⟩
  rw [trimmed, hbefore, List.reverse_append, List.reverse_singleton, List.singleton_append, List.dropWhile_cons_of_neg (by decide),
    List.reverse_cons, List.reverse_reverse, List.filter_append]
  rfl

theorem cutScheme_some {cs rest : List Char} {scheme : String} (h : cutScheme cs = some (scheme, rest)) :
    ∃ name, cs = name ++ ':' :: rest ∧ Tailless name := by
  unfold cutScheme at h
  split at h
  · rename_i c name rest' hcut
    split at h
    · rename_i hscheme
      obtain ⟨-, rfl⟩ := Prod.mk.inj (Option.some.inj h)
      obtain ⟨hc, hname⟩ := Bool.and_eq_true_iff.mp hscheme
      refine ⟨c :: name, ?_, ?_⟩
      · have happend := cut_append (· == ':') cs
        rw [hcut] at happend
        exact happend.symm
      · have schemeChar {d : Char} (hd : isSchemeChar d = true) : isTail d = false := by
          refine Bool.eq_false_iff.mpr fun ht => ?_
          rcases tail_cases ht with rfl | rfl <;> revert hd <;> decide
        intro d hd
        rcases List.mem_cons.mp hd with rfl | hd
        · exact schemeChar (by simp [isSchemeChar, hc])
        · exact schemeChar (List.all_eq_true.mp hname d hd)
    · cases h
  · cases h

/-- What stands behind the scheme of a text that ends with a separator is read to its end. -/
theorem readsShut_parse {s : String} {init : List Char} {u : Url} (hs : s.toList = init ++ ['/']) (h : parse s = .ok u) :
    ∃ name scheme rest, trimmed s = name ++ ':' :: rest ∧ Tailless name ∧ ofScheme scheme rest = .ok u ∧ ReadsShut rest u := by
  obtain ⟨before, hbefore⟩ := shut_trimmed hs
  unfold parse at h
  split at h
  · rename_i scheme rest hscheme
    obtain ⟨name, hname, htails⟩ := cutScheme_some hscheme
    have hshut : Shut rest := by
      apply Shut.behind (name ++ [':'])
      rw [List.append_assoc, List.singleton_append, ← hname, hbefore]
      exact shut_concat before
    exact ⟨name, scheme, rest, hname, htails, h, readsShut_ofScheme h hshut⟩
  · cases h

/-- What a reading makes of a text that ends with a separator. -/
theorem parse_shut {s : String} {init : List Char} {u : Url} (hs : s.toList = init ++ ['/']) (h : parse s = .ok u) :
    (u.query = none ∧ u.fragment = none ↔ Tailless s.toList) ∧
      ∀ ss, u.route = .segments ss → Tailless s.toList →
        ss.getLast? = some "" ∨ ss = [] ∧ ∃ scheme, trimmed s = scheme ++ [':', '/', '/'] := by
  obtain ⟨name, -, rest, hname, htails, -, hnone, hpath, -⟩ := readsShut_parse hs h
  have hrest : Tailless rest ↔ Tailless s.toList := by
    rw [← tailless_trimmed s, hname, tailless_append, tailless_cons rfl]
    exact (and_iff_right htails).symm
  refine ⟨hnone.trans hrest, fun ss hss hs => ?_⟩
  rcases hpath ss hss (hrest.mpr hs) with hlast | ⟨hnil, hslashes⟩
  · exact .inl hlast
  · exact .inr ⟨hnil, name, by rw [hname, hslashes]⟩

/-! ## Characters of ASCII -/

/-- What holds of all ASCII characters is tried on each. -/
theorem forall_ascii {P : Char → Prop} (h : ∀ n : Fin 128, P (Char.ofNat n.val)) {c : Char} (hc : c.toNat < 128) : P c := by
  have hchar := h ⟨c.toNat, hc⟩
  rwa [Char.ofNat_toNat] at hchar

theorem ascii_of_alphanumeric {c : Char} (h : isAlpha c = true ∨ c.isDigit = true) : c.toNat < 128 := by
  simp only [isAlpha, Char.isDigit, Bool.or_eq_true, Bool.and_eq_true, decide_eq_true_eq, Char.le_def,
    UInt32.le_iff_toNat_le] at h
  rcases h with (h | h) | h
  · exact Nat.lt_of_le_of_lt h.2 (by decide)
  · exact Nat.lt_of_le_of_lt h.2 (by decide)
  · exact Nat.lt_of_le_of_lt h.2 (by decide)

end BuildHarvest.Url

namespace BuildHarvest

open BuildHarvest.Url

namespace ArtifactBase

/-! ## The text that a base is read from -/

theorem closed_shut (cs : List Char) : ∃ init, closed cs = init ++ ['/'] := by
  unfold closed
  split
  · rename_i hlast
    exact List.getLast?_eq_some_iff.mp hlast
  · exact ⟨cs, rfl⟩

theorem tailless_closed (cs : List Char) : Tailless (closed cs) ↔ Tailless cs := by
  unfold closed
  split
  · exact Iff.rfl
  · rw [tailless_append]
    exact and_iff_left (by simp [Tailless, isTail])

theorem tailless_address (build subpath : String) :
    Tailless (address build subpath).toList ↔ Tailless build.toList ∧ Tailless subpath.toList := by
  have hsubpath : Tailless (subpath.toList.dropWhile (· == '/')) ↔ Tailless subpath.toList := by
    refine tailless_congr fun c hc => mem_dropWhile_of_not ?_ _
    rcases tail_cases hc with rfl | rfl <;> decide
  rw [address, String.toList_ofList, addressChars, tailless_closed, tailless_append, tailless_closed, hsubpath]

/-! ## Names that stand in a locator as they are -/

/-- A letter or digit of ASCII, or one of the marks `-`, `_` and `.`. -/
def isOrdinary (c : Char) : Bool := isAlpha c || c.isDigit || c == '-' || c == '_' || c == '.'

/-- A name of such characters that is no dot segment. -/
def IsOrdinary (name : String) : Prop := (∀ c ∈ name.toList, isOrdinary c = true) ∧ name ≠ "." ∧ name ≠ ".."

theorem ordinary_kept {c : Char} (h : isOrdinary c = true) :
    segmentSet c = false ∧ specialSegmentSet c = false ∧ isDropped c = false ∧ isTail c = false := by
  have hascii : c.toNat < 128 := by
    simp only [isOrdinary, Bool.or_eq_true, beq_iff_eq] at h
    rcases h with ((h | rfl) | rfl) | rfl
    · exact ascii_of_alphanumeric h
    all_goals decide
  revert h
  exact forall_ascii (P := fun c => isOrdinary c = true →
    segmentSet c = false ∧ specialSegmentSet c = false ∧ isDropped c = false ∧ isTail c = false) (by decide) hascii

theorem IsOrdinary.taken {name : String} (h : IsOrdinary name) : taken name = name.toList :=
  List.filter_eq_self.mpr fun c hc => by rw [(ordinary_kept (h.1 c hc)).2.2.1]; rfl

theorem IsOrdinary.segmentOf {name : String} (h : IsOrdinary name) (kind : SchemeKind) : segmentOf kind name = name.toList := by
  have hset : ∀ c ∈ name.toList, (if kind.isSpecial then specialSegmentSet else segmentSet) c = false := by
    intro c hc
    obtain ⟨hplain, hspecial, -⟩ := ordinary_kept (h.1 c hc)
    split
    · exact hspecial
    · exact hplain
  rw [Url.segmentOf, show name.toList.filter (!isDropped ·) = name.toList from h.taken]
  exact escape_eq_self hset

/-! ## The URL of an ordinary name -/

section

variable {base : ArtifactBase} {ss : List String} {name : String}

/-- The name is the last segment, whatever the base. -/
theorem urlOf_ordinary (hss : base.url.route = .segments ss) (hs : Settled (schemeKind base.url.scheme) ss) (hn : IsOrdinary name) :
    base.urlOf name = ({ base.url with route := .segments (ground ss ++ [name]) } : Url).text := by
  have hpush : pushSegment (schemeKind base.url.scheme) (withoutEmptyEnd ss) name = ground ss ++ [name] := by
    by_cases hempty : name = ""
    · subst hempty
      exact pushSegment_still hs hn.2.1 hn.2.2 (.inl rfl)
    · have hplain : IsPlain (taken name) := by
        rw [hn.taken]
        exact ⟨by simpa using hempty, fun h => hn.2.1 (String.toList_inj.mp h), fun h => hn.2.2 (String.toList_inj.mp h)⟩
      rw [pushSegment_plain hs hn.2.1 hn.2.2 hplain, hn.segmentOf, String.ofList_toList]
  rw [urlOf, child, hss]
  simp only [hpush]

/-- What stands behind a path begins with the sign of it. -/
theorem isTail_of_head?_back {u : Url} {c : Char} (h : u.back.toList.head? = some c) : isTail c = true := by
  unfold back at h
  cases hq : u.query with
  | some q =>
    rw [hq] at h
    simp at h
    rw [← h]
    rfl
  | none =>
    cases hf : u.fragment with
    | some f =>
      rw [hq, hf] at h
      simp at h
      rw [← h]
      rfl
    | none =>
      rw [hq, hf] at h
      cases h

theorem back_eq_empty {u : Url} : u.back = "" ↔ u.query = none ∧ u.fragment = none := by
  unfold back
  cases hq : u.query <;> cases hf : u.fragment <;> simp

/-- Of a path `//` the name takes the place of one segment, so that the URL is shorter than base and name. -/
theorem urlOf_ne_of_double (hss : base.url.route = .segments ["", ""]) (hs : Settled (schemeKind base.url.scheme) ["", ""])
    (hn : IsOrdinary name) : base.urlOf name ≠ base.text ++ name := by
  intro h
  rw [urlOf_ordinary hss hs hn, text_eq, ArtifactBase.text, text_eq base.url] at h
  have hground : ground ["", ""] = [] := rfl
  have hpath : ({ base.url with route := .segments (ground ["", ""] ++ [name]) } : Url).routeText = "/" ++ name := by
    simp [routeText, segmentsText, hground, String.join]
  have hbase : 2 ≤ base.url.routeText.length := by
    rw [routeText, hss]
    simp only [segmentsText, List.map_cons, List.map_nil, String.length_append]
    exact Nat.le_add_left _ _
  have hlength := congrArg String.length h
  rw [hpath] at hlength
  simp only [String.length_append] at hlength
  have hfront : ({ base.url with route := .segments (ground ["", ""] ++ [name]) } : Url).front = base.url.front := rfl
  have hback : ({ base.url with route := .segments (ground ["", ""] ++ [name]) } : Url).back = base.url.back := rfl
  have hslash : "/".length = 1 := rfl
  rw [hfront, hback, hslash] at hlength
  omega

/-- A name can stand behind a text only where nothing stands behind the text's path, and the path is closed. -/
theorem back_eq_nil_of_swap {closing name back : List Char} (hne : name ≠ []) (hname : ∀ c ∈ name, isTail c = false)
    (hback : ∀ c, back.head? = some c → isTail c = true) (h : closing ++ name ++ back = back ++ name) : closing = [] ∧ back = [] := by
  have hlength := congrArg List.length h
  simp only [List.length_append] at hlength
  have hclosing : closing = [] := List.length_eq_zero_iff.mp (by omega)
  subst hclosing
  refine ⟨rfl, ?_⟩
  cases back with
  | nil => rfl
  | cons c back =>
    exfalso
    obtain ⟨d, rest, rfl⟩ := List.exists_cons_of_ne_nil hne
    have hd : d = c := (List.cons.inj h).1
    have hplain := hname d List.mem_cons_self
    rw [hd, hback c rfl] at hplain
    cases hplain

theorem urlOf_eq_iff (hss : base.url.route = .segments ss) (hs : Settled (schemeKind base.url.scheme) ss) (hn : IsOrdinary name)
    (hne : name ≠ "") : base.urlOf name = base.text ++ name ↔ base.url.back = "" ∧ ss.getLast? = some "" ∧ ss ≠ ["", ""] := by
  by_cases hdouble : ss = ["", ""]
  · subst hdouble
    exact ⟨fun h => absurd h (urlOf_ne_of_double hss hs hn), fun h => absurd rfl h.2.2⟩
  · have hurl : base.urlOf name = base.url.front ++ (base.url.routeText ++ closing ss ++ name) ++ base.url.back := by
      rw [urlOf_ordinary hss hs hn, ground_eq_directory hdouble, text_eq, routeText_entry hss hne]
      rfl
    rw [hurl, ArtifactBase.text, text_eq]
    constructor
    · intro h
      have hswap : (closing ss).toList ++ name.toList ++ base.url.back.toList = base.url.back.toList ++ name.toList := by
        have hchars := congrArg String.toList h
        simpa only [String.toList_append, List.append_assoc, List.append_cancel_left_eq] using hchars
      obtain ⟨hclosing, hback⟩ := back_eq_nil_of_swap (by simpa using hne) (fun c hc => (ordinary_kept (hn.1 c hc)).2.2.2)
        (fun c hc => isTail_of_head?_back hc) hswap
      refine ⟨by simpa using hback, ?_, hdouble⟩
      unfold closing at hclosing
      split at hclosing
      · assumption
      · cases hclosing
    · rintro ⟨hback, hlast, -⟩
      rw [hback, closing, if_pos hlast]
      simp only [String.append_empty, String.append_assoc]

/-- A name that is empty stands behind such a text too: it is the directory itself. -/
theorem urlOf_empty (hss : base.url.route = .segments ss) (hs : Settled (schemeKind base.url.scheme) ss) (hlast : ss.getLast? = some "")
    (hdouble : ss ≠ ["", ""]) : base.urlOf "" = base.text ++ "" := by
  have hsame : directory ss ++ [""] = ss := by
    obtain ⟨init, rfl⟩ := List.getLast?_eq_some_iff.mp hlast
    rw [directory, if_pos hlast, List.dropLast_concat]
  rw [urlOf_ordinary hss hs ⟨by simp, by decide, by decide⟩, ground_eq_directory hdouble, hsame, String.append_empty, ArtifactBase.text]
  have hurl : ({ base.url with route := .segments ss } : Url) = base.url := by rw [← hss]
  rw [hurl]

end

end ArtifactBase

open ArtifactBase

/-- The text of an artifact's URL is that of its base and the name exactly where the base is a plain directory. -/
theorem artifact_text_follows_base {build subpath : String} {base : ArtifactBase} (hb : ArtifactBase.ofBuild build subpath = .ok base) :
    ∃ ss, base.url.route = .segments ss ∧
      (base.url.query = none ∧ base.url.fragment = none ↔ Tailless build.toList ∧ Tailless subpath.toList) ∧
      (base.url.query = none ∧ base.url.fragment = none → ss.getLast? = some "" ∨
        ss = [] ∧ ∃ scheme, trimmed (ArtifactBase.address build subpath) = scheme ++ [':', '/', '/']) ∧
      (base.url.query = none ∧ base.url.fragment = none ∧ ss.getLast? = some "" ∧ ss ≠ ["", ""] →
        ∀ name, IsOrdinary name → base.urlOf name = base.text ++ name) ∧
      ∀ name, IsOrdinary name → name ≠ "" → base.urlOf name = base.text ++ name →
        base.url.query = none ∧ base.url.fragment = none ∧ ss.getLast? = some "" ∧ ss ≠ ["", ""] := by
  have hparse := ArtifactBase.parse_of_ofBuild hb
  obtain ⟨ss, hss⟩ := base.exists_segments
  have hs := settled_parse hparse hss
  obtain ⟨init, hinit⟩ := closed_shut (closed build.toList ++ subpath.toList.dropWhile (· == '/'))
  have haddress : (address build subpath).toList = init ++ ['/'] := by rw [address, String.toList_ofList, addressChars, hinit]
  obtain ⟨hnone, hpath⟩ := parse_shut haddress hparse
  refine ⟨ss, hss, hnone.trans (tailless_address build subpath), ?_, ?_, ?_⟩
  · intro hplain
    exact hpath ss hss (hnone.mp hplain)
  · intro ⟨hquery, hfragment, hlast, hdouble⟩ name hn
    by_cases hempty : name = ""
    · subst hempty
      exact urlOf_empty hss hs hlast hdouble
    · exact (urlOf_eq_iff hss hs hn hempty).mpr ⟨back_eq_empty.mpr ⟨hquery, hfragment⟩, hlast, hdouble⟩
  · intro name hn hne h
    obtain ⟨hback, hlast, hdouble⟩ := (urlOf_eq_iff hss hs hn hne).mp h
    obtain ⟨hquery, hfragment⟩ := back_eq_empty.mp hback
    exact ⟨hquery, hfragment, hlast, hdouble⟩

/-- The library of a job lies in a plain directory, and an archive's name stands behind its text. -/
theorem an_archive_stands_behind_its_directory : ∃ base, ArtifactBase.ofBuild "http://[::]/job" "lib" = .ok base ∧
    IsOrdinary "a-1.jar" ∧ base.url.query = none ∧ base.url.fragment = none ∧ base.urlOf "a-1.jar" = base.text ++ "a-1.jar" := by
  have hread : (ArtifactBase.ofBuild "http://[::]/job" "lib").toOption.map (fun base => base.url.route) =
      some (.segments ["job", "lib", ""]) := by decide +kernel
  obtain ⟨base, hbase, hroute⟩ := Option.map_eq_some_iff.mp hread
  have hname : IsOrdinary "a-1.jar" := ⟨List.all_eq_true.mp (by decide), by decide, by decide⟩
  obtain ⟨ss, hss, htails, _, hfollows, _⟩ := artifact_text_follows_base (ok_of_toOption hbase)
  have hsegments : ss = ["job", "lib", ""] := Route.segments.inj (hss.symm.trans hroute)
  obtain ⟨hquery, hfragment⟩ := htails.mpr ⟨by decide, by decide⟩
  have hplain : ss.getLast? = some "" ∧ ss ≠ ["", ""] := by
    rw [hsegments]
    decide
  exact ⟨base, ok_of_toOption hbase, hname, hquery, hfragment, hfollows ⟨hquery, hfragment, hplain⟩ _ hname⟩

/-- A query in the build's URL takes the path below it and the separator, and the artifact's name stands in front of it. -/
theorem a_query_takes_the_separator : ∃ base, ArtifactBase.ofBuild "http://[::]/job?x" "lib" = .ok base ∧
    base.url.query = some "x/lib/" ∧ base.text = "http://[::]/job?x/lib/" ∧ base.urlOf "a" = "http://[::]/job/a?x/lib/" ∧
    base.urlOf "a" ≠ base.text ++ "a" := by
  have hread : (ArtifactBase.ofBuild "http://[::]/job?x" "lib").toOption.map (fun base => (base.url.query, base.text, base.urlOf "a")) =
      some (some "x/lib/", "http://[::]/job?x/lib/", "http://[::]/job/a?x/lib/") := by decide +kernel
  obtain ⟨base, hbase, htexts⟩ := Option.map_eq_some_iff.mp hread
  obtain ⟨hquery, htexts⟩ := Prod.mk.inj htexts
  obtain ⟨htext, hurl⟩ := Prod.mk.inj htexts
  refine ⟨base, ok_of_toOption hbase, hquery, htext, hurl, ?_⟩
  rw [htext, hurl]
  decide

end BuildHarvest
