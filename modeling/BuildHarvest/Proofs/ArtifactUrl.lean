/-
  BuildHarvest.Proofs.ArtifactUrl — where the URL of an artifact lies.

  A locator takes a name without its tabs and line ends (`taken`). What is left decides where the
  artifact's URL lies, though a manifest has judged the whole name.

  Proved (`artifact_lies_in_its_directory`), of every base that a build gives and every name that
  a manifest takes:
  - The URL differs from the base in its path alone.
  - The path is that of the base's directory and one segment behind it (`IsEntryOf`) exactly when
    what is left of the name is not empty and no `.` or `..`, and the base's path is not two empty
    segments. The segment then reads back as what is left of the name.
  - Else the path is the directory itself, or the one above it.

  `dots_around_a_tab_climb`: a manifest takes such a name. `an_empty_segment_is_climbed_over`: a
  base with such a path.
-/

import BuildHarvest.ArtifactBase
import BuildHarvest.Proofs.Percent
import BuildHarvest.Proofs.Volume

namespace BuildHarvest.Url

/-! ## Dot segments -/

theorem unescape_afterDot {cs rest : List Char} (h : afterDot cs = some rest) : unescape cs = Path.dot :: unescape rest := by
  unfold afterDot at h
  split at h
  · obtain rfl := Option.some.inj h
    rw [unescape_cons (by decide)]
    rfl
  · obtain rfl := Option.some.inj h
    rfl
  · obtain rfl := Option.some.inj h
    rfl
  · cases h

theorem unescape_of_isDot {cs : List Char} (h : isDot cs = true) : unescape cs = [Path.dot] := by
  rw [unescape_afterDot (eq_of_beq h)]
  rfl

theorem unescape_of_isDotDot {cs : List Char} (h : isDotDot cs = true) : unescape cs = [Path.dot, Path.dot] := by
  unfold isDotDot at h
  split at h
  · rename_i hdot
    rw [unescape_afterDot hdot, unescape_of_isDot h]
  · cases h

/-! ## The segment that a name becomes -/

/-- What a locator takes of a name. -/
def taken (name : String) : List Char := name.toList.filter (!isDropped ·)

/-- What is left of a name names a file of a directory. -/
def IsPlain (cs : List Char) : Prop := cs ≠ [] ∧ cs ≠ ['.'] ∧ cs ≠ ['.', '.']

/-- A segment that names one entry of a directory. -/
structure IsStep (kind : SchemeKind) (segment : String) : Prop where
  notEmpty : segment ≠ ""
  notDot : isDot segment.toList = false
  notDotDot : isDotDot segment.toList = false
  /-- Nothing in it ends it. -/
  whole : ∀ c ∈ segment.toList, isSlash kind c = false ∧ isTail c = false

theorem unescape_segmentOf (kind : SchemeKind) (name : String) :
    unescape (segmentOf kind name) = Utf8.encodeChars (taken name) := by
  unfold segmentOf
  cases kind.isSpecial <;> exact unescape_escape (by decide) _

theorem segmentOf_eq_nil {kind : SchemeKind} {name : String} : segmentOf kind name = [] ↔ taken name = [] := escape_eq_nil

theorem isDot_segmentOf {kind : SchemeKind} {name : String} : isDot (segmentOf kind name) = true ↔ taken name = ['.'] := by
  constructor
  · intro h
    have hread := unescape_segmentOf kind name
    rw [unescape_of_isDot h] at hread
    have hsame : Utf8.encodeChars ['.'] = Utf8.encodeChars (taken name) := hread
    exact (Utf8.encodeChars_injective hsame).symm
  · intro h
    unfold segmentOf
    rw [show name.toList.filter (!isDropped ·) = ['.'] from h]
    cases kind.isSpecial <;> decide

theorem isDotDot_segmentOf {kind : SchemeKind} {name : String} :
    isDotDot (segmentOf kind name) = true ↔ taken name = ['.', '.'] := by
  constructor
  · intro h
    have hread := unescape_segmentOf kind name
    rw [unescape_of_isDotDot h] at hread
    have hsame : Utf8.encodeChars ['.', '.'] = Utf8.encodeChars (taken name) := hread
    exact (Utf8.encodeChars_injective hsame).symm
  · intro h
    unfold segmentOf
    rw [show name.toList.filter (!isDropped ·) = ['.', '.'] from h]
    cases kind.isSpecial <;> decide

theorem segmentOf_whole (kind : SchemeKind) (name : String) :
    ∀ c ∈ segmentOf kind name, isSlash kind c = false ∧ isTail c = false := by
  intro c hc
  have absent {x : Char} (h : (if kind.isSpecial then specialSegmentSet else segmentSet) x = true)
      (hx : isEscapeSign x = false) : c ≠ x := by
    rintro rfl
    exact not_mem_escape h hx _ hc
  have hslash : c ≠ '/' := absent (by cases kind.isSpecial <;> decide) (by decide)
  have hquery : c ≠ '?' := absent (by cases kind.isSpecial <;> decide) (by decide)
  have hhash : c ≠ '#' := absent (by cases kind.isSpecial <;> decide) (by decide)
  have hback (hk : kind.isSpecial = true) : c ≠ '\\' := absent (by rw [hk]; decide) (by decide)
  constructor
  · cases hk : kind.isSpecial with
    | false => simp [isSlash, hk, hslash]
    | true => simp [isSlash, hk, hslash, hback hk]
  · simp [isTail, hquery, hhash]

theorem isStep_segmentOf {kind : SchemeKind} {name : String} (h : IsPlain (taken name)) :
    IsStep kind (String.ofList (segmentOf kind name)) := by
  obtain ⟨hne, hdot, hdots⟩ := h
  constructor
  · intro he
    have : segmentOf kind name = [] := by simpa using congrArg String.toList he
    exact hne (segmentOf_eq_nil.mp this)
  · rw [String.toList_ofList]
    exact Bool.eq_false_iff.mpr fun hd => hdot (isDot_segmentOf.mp hd)
  · rw [String.toList_ofList]
    exact Bool.eq_false_iff.mpr fun hd => hdots (isDotDot_segmentOf.mp hd)
  · rw [String.toList_ofList]
    exact segmentOf_whole kind name

/-! ## The path that a name is put behind -/

/-- The directory that a path names, whether or not it says so by an empty segment. -/
def directory (ss : List String) : List String := if ss.getLast? = some "" then ss.dropLast else ss

/-- Where a name goes. -/
def ground (ss : List String) : List String := pushBase (withoutEmptyEnd ss)

/-- A path is a directory's, and one entry's of it. -/
def IsEntryOf (kind : SchemeKind) (ss ss' : List String) : Prop :=
  ∃ segment, IsStep kind segment ∧ ss' = directory ss ++ [segment]

theorem ground_eq_directory {ss : List String} (h : ss ≠ ["", ""]) : ground ss = directory ss := by
  unfold ground directory withoutEmptyEnd
  rcases List.eq_nil_or_concat ss with rfl | ⟨init, last, rfl⟩
  · rfl
  · rw [List.concat_eq_append] at h ⊢
    simp only [List.getLast?_append, List.getLast?_singleton, Option.some_or, Option.some.injEq, List.dropLast_concat]
    by_cases hl : last = ""
    · subst hl
      cases init with
      | nil => rfl
      | cons x init =>
        have hone : x :: init ≠ [""] := by
          intro he
          rw [he] at h
          exact h rfl
        simp only [List.length_append, List.length_cons, List.length_nil, and_true, if_true]
        rw [if_pos (by omega), pushBase, if_neg hone]
    · have hone : init ++ [last] ≠ [""] := by
        intro he
        have hone : init ++ [last] = [] ++ [""] := he
        exact hl (List.cons.inj (List.append_inj' hone rfl).2).1
      rw [if_neg (fun hc => hl hc.2), if_neg hl, pushBase, if_neg hone]

/-- A path that is settled: a file's begins with no empty segment, but where that is the whole path. -/
def Settled (kind : SchemeKind) (ss : List String) : Prop := kind = .file → ss = [""] ∨ ss.head? ≠ some ""

theorem settled_settleFile (kind : SchemeKind) (ss : List String) : Settled kind (settleFile kind ss) := by
  rintro rfl
  unfold settleFile
  simp only
  split
  · exact .inl rfl
  · refine .inr fun hh => ?_
    have hfirst := List.head?_dropWhile_not (fun s : String => s == "") ss
    rw [hh] at hfirst
    simp at hfirst

/-- Behind a path that begins with no empty segment, a segment stays. -/
theorem settleFile_behind {kind : SchemeKind} {d : List String} (h : kind = .file → d.head? ≠ some "") (last : String) :
    settleFile kind (d ++ [last]) = d ++ [last] := by
  cases kind with
  | file =>
    cases d with
    | nil =>
      by_cases hl : last = ""
      · subst hl
        rfl
      · simp [settleFile, hl]
    | cons s d =>
      have hs : s ≠ "" := fun e => h rfl (by rw [e]; rfl)
      simp [settleFile, hs]
  | special => rfl
  | other => rfl

theorem prefix_withoutEmptyEnd (ss : List String) : withoutEmptyEnd ss <+: ss := by
  unfold withoutEmptyEnd
  split
  · exact List.dropLast_prefix ss
  · exact List.prefix_refl ss

theorem prefix_pushBase (ss : List String) : pushBase ss <+: ss := by
  unfold pushBase
  split
  · exact List.nil_prefix
  · exact List.prefix_refl ss

theorem prefix_ground (ss : List String) : ground ss <+: ss := (prefix_pushBase _).trans (prefix_withoutEmptyEnd ss)

theorem prefix_climb (ss : List String) : climb ss <+: ss := by
  unfold climb
  split
  · split
    · exact List.prefix_refl ss
    · exact List.dropLast_prefix ss
  · exact List.nil_prefix

theorem head?_ne_of_prefix {d ss : List String} (hp : d <+: ss) {s : String} (h : ss.head? ≠ some s) : d.head? ≠ some s := by
  obtain ⟨rest, rfl⟩ := hp
  cases d with
  | nil => simp
  | cons t d => exact h

/-- Where a name goes in a settled path, no empty segment stands in front. -/
theorem head?_ground {kind : SchemeKind} {ss : List String} (h : Settled kind ss) (hk : kind = .file) :
    (ground ss).head? ≠ some "" := by
  rcases h hk with rfl | hs
  · decide
  · exact head?_ne_of_prefix (prefix_ground ss) hs

/-! ## Behind a path -/

section

variable {kind : SchemeKind} {ss : List String} {name : String} (hs : Settled kind ss) (h1 : name ≠ ".") (h2 : name ≠ "..")

include hs h1 h2

/-- What is left of a name goes behind the path as one segment. -/
theorem pushSegment_plain (h : IsPlain (taken name)) :
    pushSegment kind (withoutEmptyEnd ss) name = ground ss ++ [String.ofList (segmentOf kind name)] := by
  have hdots : isDotDot (segmentOf kind name) = false := Bool.eq_false_iff.mpr fun hd => h.2.2 (isDotDot_segmentOf.mp hd)
  have hdot : isDot (segmentOf kind name) = false := Bool.eq_false_iff.mpr fun hd => h.2.1 (isDot_segmentOf.mp hd)
  rw [pushSegment, if_neg (by simp [h1, h2]), descend, hdots, hdot]
  exact settleFile_behind (head?_ground hs) _

/-- A name of which nothing or a `.` is left leads to the directory itself. -/
theorem pushSegment_still (h : taken name = [] ∨ taken name = ['.']) :
    pushSegment kind (withoutEmptyEnd ss) name = ground ss ++ [""] := by
  rw [pushSegment, if_neg (by simp [h1, h2])]
  rcases h with h | h
  · have hsegment : segmentOf kind name = [] := segmentOf_eq_nil.mpr h
    rw [hsegment]
    exact settleFile_behind (head?_ground hs) _
  · have hdot : isDot (segmentOf kind name) = true := isDot_segmentOf.mpr h
    have hdots : isDotDot (segmentOf kind name) = false := by
      refine Bool.eq_false_iff.mpr fun hd => ?_
      rw [isDotDot_segmentOf.mp hd] at h
      cases h
    rw [descend, hdots, hdot]
    exact settleFile_behind (head?_ground hs) _

/-- A name of which `..` is left leads to the directory above. -/
theorem pushSegment_climb (h : taken name = ['.', '.']) :
    pushSegment kind (withoutEmptyEnd ss) name = climb (ground ss) ++ [""] := by
  rw [pushSegment, if_neg (by simp [h1, h2]), descend, isDotDot_segmentOf.mpr h]
  exact settleFile_behind (fun hk => head?_ne_of_prefix (prefix_climb _) (head?_ground hs hk)) _

theorem isEntryOf_pushSegment :
    IsEntryOf kind ss (pushSegment kind (withoutEmptyEnd ss) name) ↔ IsPlain (taken name) ∧ ss ≠ ["", ""] := by
  constructor
  · rintro ⟨segment, hstep, heq⟩
    have ends {d : List String} (hd : pushSegment kind (withoutEmptyEnd ss) name = d ++ [""]) : False := by
      rw [hd] at heq
      exact hstep.notEmpty (List.cons.inj (List.append_inj' heq rfl).2).1.symm
    have hplain : IsPlain (taken name) :=
      ⟨fun h => ends (pushSegment_still hs h1 h2 (.inl h)), fun h => ends (pushSegment_still hs h1 h2 (.inr h)),
        fun h => ends (pushSegment_climb hs h1 h2 h)⟩
    refine ⟨hplain, ?_⟩
    rintro rfl
    rw [pushSegment_plain hs h1 h2 hplain] at heq
    cases (List.append_inj' heq rfl).1
  · rintro ⟨hplain, hne⟩
    refine ⟨_, isStep_segmentOf hplain, ?_⟩
    rw [pushSegment_plain hs h1 h2 hplain, ground_eq_directory hne]

end

/-! ## What is read is settled -/

theorem scheme_of_afterSlashes {scheme : String} {kind : SchemeKind} {cs : List Char} {u : Url}
    (h : afterSlashes scheme kind cs = .ok u) : u.scheme = scheme := by
  obtain ⟨⟨a, extra⟩, _, h⟩ := bind_ok h
  obtain rfl := Except.ok.inj h
  rfl

theorem scheme_of_ofOther {scheme : String} {cs : List Char} {u : Url} (h : ofOther scheme cs = .ok u) : u.scheme = scheme := by
  unfold ofOther at h
  split at h
  · exact scheme_of_afterSlashes h
  · obtain rfl := Except.ok.inj h
    rfl

theorem ofFile_eq_fileAt {cs : List Char} {u : Url} (h : ofFile cs = .ok u) : ∃ host rest, u = fileAt host rest := by
  unfold ofFile at h
  split at h
  · split at h
    · obtain ⟨⟨host, rest⟩, _, h⟩ := bind_ok h
      exact ⟨host, rest, (Except.ok.inj h).symm⟩
    · exact ⟨_, _, (Except.ok.inj h).symm⟩
  · exact ⟨_, _, (Except.ok.inj h).symm⟩

theorem settled_authorityPath (cs : List Char) : Settled .file (authorityPath .file cs) := by
  unfold authorityPath
  split
  · exact fun _ => .inl rfl
  · split <;> exact settled_settleFile .file _

theorem settled_ofScheme {scheme : String} {cs : List Char} {u : Url} {ss : List String} (h : ofScheme scheme cs = .ok u)
    (hss : u.route = .segments ss) : Settled (schemeKind u.scheme) ss := by
  unfold ofScheme at h
  split at h
  · obtain ⟨host, rest, rfl⟩ := ofFile_eq_fileAt h
    obtain rfl := Route.segments.inj hss
    exact settled_authorityPath _
  · rename_i hkind
    intro hk
    rw [scheme_of_afterSlashes h, hkind] at hk
    cases hk
  · rename_i hkind
    intro hk
    rw [scheme_of_ofOther h, hkind] at hk
    cases hk

theorem settled_parse {s : String} {u : Url} {ss : List String} (h : parse s = .ok u) (hss : u.route = .segments ss) :
    Settled (schemeKind u.scheme) ss := by
  unfold parse at h
  split at h
  · exact settled_ofScheme h hss
  · cases h

/-! ## The text of an entry -/

/-- The text of a locator as far as its path. -/
def front (u : Url) : String := u.scheme ++ ":" ++ u.authorityText

/-- The text behind its path. -/
def back (u : Url) : String := (u.query.map ("?" ++ ·)).getD "" ++ (u.fragment.map ("#" ++ ·)).getD ""

theorem text_eq (u : Url) : u.text = u.front ++ u.routeText ++ u.back := by
  simp only [text, front, back, String.append_assoc]

/-- What closes a path that does not end with a separator. -/
def closing (ss : List String) : String := if ss.getLast? = some "" then "" else "/"

theorem segmentsText_append (ss : List String) (s : String) : segmentsText (ss ++ [s]) = segmentsText ss ++ ("/" ++ s) := by
  simp [segmentsText, String.join_append]

theorem segmentsText_entry (ss : List String) (segment : String) :
    segmentsText (directory ss ++ [segment]) = segmentsText ss ++ closing ss ++ segment := by
  rw [segmentsText_append]
  unfold directory closing
  by_cases hl : ss.getLast? = some ""
  · rw [if_pos hl, if_pos hl]
    obtain ⟨init, rfl⟩ := List.getLast?_eq_some_iff.mp hl
    rw [List.dropLast_concat, segmentsText_append]
    simp only [String.append_assoc, String.append_empty]
  · rw [if_neg hl, if_neg hl, String.append_assoc]

/-- An entry is set off like its directory. -/
theorem setOff_entry (ss : List String) {segment : String} (h : segment ≠ "") :
    ((directory ss ++ [segment]).head? = some "" ∧ 1 < (directory ss ++ [segment]).length) ↔ (ss.head? = some "" ∧ 1 < ss.length) := by
  rcases List.eq_nil_or_concat ss with rfl | ⟨init, last, rfl⟩
  · simp [directory]
  · rw [List.concat_eq_append]
    simp only [directory, List.getLast?_append, List.getLast?_singleton, Option.some_or, Option.some.injEq, List.dropLast_concat]
    split
    · cases init <;> simp [h]
    · rename_i hl
      cases init <;> simp [hl]

theorem routeText_entry {u : Url} {ss : List String} (hu : u.route = .segments ss) {segment : String} (h : segment ≠ "") :
    ({ u with route := .segments (directory ss ++ [segment]) } : Url).routeText = u.routeText ++ closing ss ++ segment := by
  have hset := setOff_entry ss h
  unfold routeText
  rw [hu]
  simp only [segmentsText_entry, Bool.and_eq_true, beq_iff_eq, decide_eq_true_eq, and_assoc, hset, String.append_assoc]

end BuildHarvest.Url

namespace BuildHarvest

open BuildHarvest.Url

theorem ArtifactBase.parse_of_ofBuild {build subpath : String} {base : ArtifactBase}
    (h : ArtifactBase.ofBuild build subpath = .ok base) : Url.parse (ArtifactBase.address build subpath) = .ok base.url := by
  unfold ArtifactBase.ofBuild at h
  dsimp only at h
  split at h
  · cases h
  · rename_i url hp
    split at h
    · obtain rfl := Except.ok.inj h
      exact hp
    · cases h

theorem ArtifactBase.exists_segments (base : ArtifactBase) : ∃ ss, base.url.route = .segments ss := by
  have hrooted := base.rooted
  unfold Url.isBare at hrooted
  cases hr : base.url.route with
  | bare text =>
    rw [hr] at hrooted
    cases hrooted
  | segments ss => exact ⟨ss, rfl⟩

/-- The URL of an artifact lies in the directory of its base, or the name is one of those that do not. -/
theorem artifact_lies_in_its_directory {build subpath : String} {base : ArtifactBase}
    (hb : ArtifactBase.ofBuild build subpath = .ok base) {name : String} (hn : Manifest.fault? name = none) :
    ∃ (u : Url) (ss ss' : List String), base.urlOf name = u.text ∧ base.url.route = .segments ss ∧
      u = { base.url with route := .segments ss' } ∧
      (IsEntryOf (schemeKind u.scheme) ss ss' ↔ IsPlain (taken name) ∧ ss ≠ ["", ""]) ∧
      (IsPlain (taken name) → ∃ segment : String, ss' = ground ss ++ [segment] ∧
        unescape segment.toList = Utf8.encodeChars (taken name) ∧
        (ss ≠ ["", ""] → base.text = base.url.front ++ base.url.routeText ++ base.url.back ∧
          base.urlOf name = base.url.front ++ (base.url.routeText ++ closing ss ++ segment) ++ base.url.back)) ∧
      (taken name = [] ∨ taken name = ['.'] → ss' = ground ss ++ [""]) ∧
      (taken name = ['.', '.'] → ss' = climb (ground ss) ++ [""]) := by
  obtain ⟨h1, h2⟩ : name ≠ "." ∧ name ≠ ".." := by
    have hdots := (Manifest.of_sound hn).2.1
    exact ⟨fun e => hdots (.inl (by rw [e]; rfl)), fun e => hdots (.inr (by rw [e]; rfl))⟩
  obtain ⟨ss, hss⟩ := base.exists_segments
  have hsettled := settled_parse (ArtifactBase.parse_of_ofBuild hb) hss
  have hchild : base.url.child name =
      { base.url with route := .segments (pushSegment (schemeKind base.url.scheme) (withoutEmptyEnd ss) name) } := by
    unfold Url.child
    rw [hss]
  refine ⟨base.url.child name, ss, _, rfl, hss, hchild, ?_, fun hplain => ?_, fun h => pushSegment_still hsettled h1 h2 h,
    fun h => pushSegment_climb hsettled h1 h2 h⟩
  · rw [hchild]
    exact isEntryOf_pushSegment hsettled h1 h2
  · have hpath := pushSegment_plain hsettled h1 h2 hplain
    refine ⟨_, hpath, ?_, fun hne => ⟨text_eq base.url, ?_⟩⟩
    · rw [String.toList_ofList]
      exact unescape_segmentOf _ name
    · rw [ArtifactBase.urlOf, hchild, hpath, ground_eq_directory hne, text_eq, routeText_entry hss (isStep_segmentOf hplain).notEmpty]
      rfl

/-- A tab in a name is left out, and the URL is an entry of the base all the same. -/
theorem a_tab_is_left_out : ∃ base u ss ss', ArtifactBase.ofBuild "http://[::]/job" "lib" = .ok base ∧
    Manifest.fault? "a\tb" = none ∧ base.urlOf "a\tb" = u.text ∧ base.url.route = .segments ss ∧
    u = { base.url with route := .segments ss' } ∧ IsEntryOf (schemeKind u.scheme) ss ss' := by
  have hread : (ArtifactBase.ofBuild "http://[::]/job" "lib").toOption.map (fun base => base.url.route) =
      some (.segments ["job", "lib", ""]) := by decide +kernel
  obtain ⟨base, hbase, hroute⟩ := Option.map_eq_some_iff.mp hread
  have hname : Manifest.fault? "a\tb" = none := by decide
  obtain ⟨u, ss, ss', hu, hss, hsame, hentry, _⟩ := artifact_lies_in_its_directory (ok_of_toOption hbase) hname
  have hsegments : ss = ["job", "lib", ""] := Route.segments.inj (hss.symm.trans hroute)
  refine ⟨base, u, ss, ss', ok_of_toOption hbase, hname, hu, hss, hsame, hentry.mpr ⟨⟨by decide, by decide, by decide⟩, ?_⟩⟩
  rw [hsegments]
  decide

/-- A manifest takes two dots around a tab, and the URL is that of the directory above the base. -/
theorem dots_around_a_tab_climb : ∃ base, ArtifactBase.ofBuild "http://[::]/job" "lib" = .ok base ∧
    Manifest.fault? ".\t." = none ∧ base.text = "http://[::]/job/lib/" ∧ base.urlOf ".\t." = "http://[::]/job/" := by
  have hread : (ArtifactBase.ofBuild "http://[::]/job" "lib").toOption.map (fun base => (base.text, base.urlOf ".\t.")) =
      some ("http://[::]/job/lib/", "http://[::]/job/") := by decide +kernel
  obtain ⟨base, hbase, htexts⟩ := Option.map_eq_some_iff.mp hread
  obtain ⟨htext, hurl⟩ := Prod.mk.inj htexts
  exact ⟨base, ok_of_toOption hbase, by decide, htext, hurl⟩

/-- A path of two empty segments loses one of them. -/
theorem an_empty_segment_is_climbed_over : ∃ base, ArtifactBase.ofBuild "http://[::]//" "" = .ok base ∧
    Manifest.fault? "a" = none ∧ base.text = "http://[::]//" ∧ base.urlOf "a" = "http://[::]/a" := by
  have hread : (ArtifactBase.ofBuild "http://[::]//" "").toOption.map (fun base => (base.text, base.urlOf "a")) =
      some ("http://[::]//", "http://[::]/a") := by decide +kernel
  obtain ⟨base, hbase, htexts⟩ := Option.map_eq_some_iff.mp hread
  obtain ⟨htext, hurl⟩ := Prod.mk.inj htexts
  exact ⟨base, ok_of_toOption hbase, by decide, htext, hurl⟩

end BuildHarvest
