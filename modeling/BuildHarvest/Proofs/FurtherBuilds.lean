/-
  BuildHarvest.Proofs.FurtherBuilds — which further build elements a feed is said to have.

  The search counts a build element that it meets once it has its result. One that lies inside of
  the first build element, before the end of the `url` element in it, is met earlier and is not
  counted: it is `unseen`.

  Proved (`further_builds_told`), of a document without a fault, read as a forest:
  - The build elements behind the first one are those that are counted and those unseen.
  - Reading the feed tells how many are counted where there are any, and nothing else.
  - So it tells of all of them just where none is unseen: of two, one inside of the other, it tells
    nothing (`a_build_inside_of_the_first_is_unseen`).
-/

import BuildHarvest.Proofs.Feed

namespace BuildHarvest

namespace Markup

/-- How many elements of a name there are at any depth, without a namespace. -/
def Forest.count (f : Forest) (label : String) : Nat := f.elements.countP (·.isPlain label)

theorem Forest.count_element (name : Name) (attributes : List (Name × String)) (inside next : Forest) (label : String) :
    (Forest.element name attributes inside next).count label =
      (if (Element.mk name inside).isPlain label then 1 else 0) + inside.count label + next.count label := by
  simp only [count, elements, List.countP_cons, List.countP_append]
  omega

theorem Forest.elements_before_none {f : Forest} {label : String} (h : f.first? label = none) :
    ∀ e ∈ f.elements, (!e.isPlain label) = true := by
  intro e he
  have hnone := List.find?_eq_none.mp h e he
  simpa using hnone

theorem Forest.takeWhile_of_first? {f : Forest} {label : String} {e : Element} (h : f.first? label = some e) (more : List Element) :
    (f.elements ++ more).takeWhile (!·.isPlain label) = f.elements.takeWhile (!·.isPlain label) := by
  obtain ⟨he, before, behind, hsplit, hbefore⟩ := List.find?_eq_some_iff_append.mp h
  rw [hsplit, List.append_assoc, List.cons_append, List.takeWhile_append_of_pos hbefore, List.takeWhile_append_of_pos hbefore]
  simp only [List.takeWhile_cons, he, Bool.not_true, Bool.false_eq_true, if_false]

end Markup

namespace Feed

open Markup BuildHarvest.Action

/-! ## Build elements that the search does not count -/

/-- Of the build elements inside of one, those that open before the end of its first `url` element; all of
them, where it has none. -/
def unseenInside (inside : Forest) : Nat :=
  (inside.elements.takeWhile (!·.isPlain urlElement)).countP (·.isPlain buildElement) +
    match inside.first? urlElement with
    | none => 0
    | some url => url.inside.count buildElement

def unseen (f : Forest) : Nat :=
  match f.first? buildElement with
  | none => 0
  | some build => unseenInside build.inside

theorem not_build_of_url {e : Element} (h : e.isPlain urlElement = true) : e.isPlain buildElement = false := by
  obtain ⟨_, hurl⟩ := Element.isPlain_iff.mp h
  rw [Bool.eq_false_iff]
  intro hbuild
  have hsame := hurl.symm.trans (Element.isPlain_iff.mp hbuild).2
  exact absurd hsame (by decide)

section

variable {name : Name} {attributes : List (Name × String)} {inside next : Forest}

theorem unseenInside_url (h : (Element.mk name inside).isPlain urlElement = true) :
    unseenInside (.element name attributes inside next) = inside.count buildElement := by
  rw [unseenInside, Forest.first?_element, if_pos h, Forest.elements, List.takeWhile_cons, if_neg (by simp [h])]
  exact Nat.zero_add _

/-- An element that is no `url` element, by whether there is one inside of it. -/
theorem unseenInside_other (h : ¬ (Element.mk name inside).isPlain urlElement = true) :
    unseenInside (.element name attributes inside next) =
      (if (Element.mk name inside).isPlain buildElement then 1 else 0) +
        if (inside.first? urlElement).isSome then unseenInside inside else inside.count buildElement + unseenInside next := by
  rw [unseenInside, Forest.first?_element, if_neg h, Forest.elements, List.takeWhile_cons, if_pos (by simpa using h), List.countP_cons]
  cases hfirst : inside.first? urlElement with
  | some url =>
    rw [Forest.takeWhile_of_first? hfirst, Option.isSome_some, if_pos rfl, unseenInside, hfirst, Option.some_or]
    simp only
    omega
  | none =>
    rw [List.takeWhile_append_of_pos (Forest.elements_before_none hfirst), List.countP_append, Option.isSome_none,
      if_neg Bool.false_ne_true, unseenInside, Option.none_or, Forest.count]
    omega

end

/-! ## What the search has counted -/

namespace Search

@[simp]
theorem leave_extra (s : Search) : s.leave.extra = s.extra := by
  unfold leave
  split
  · rfl
  · split <;> rfl

theorem leaf_extra (s : Search) (node : Leaf) : (s.step node.event).extra = s.extra := by
  cases node with
  | text t =>
    show (s.hear t).extra = s.extra
    unfold hear
    split <;> rfl
  | _ => rfl

/-- Once it has its result, the search counts every build element. -/
theorem Over.enter_extra {r : Except Failure String} {s : Search} (h : Over r s) (name : Name) (inside : Forest) :
    (s.enter name).extra = s.extra + if (Element.mk name inside).isPlain buildElement then 1 else 0 := by
  have hover : ({ s with depth := s.depth + 1 } : Search).isOver = true := h.decided
  simp only [enter, hover, if_true]
  cases hspace : name.space with
  | some space => simp [Element.isPlain, hspace]
  | none =>
    by_cases hlabel : name.label = buildElement
    · simp [Element.isPlain, hspace, hlabel]
    · simp [Element.isPlain, hspace, hlabel]

theorem Over.after_extra {r : Except Failure String} {s : Search} (h : Over r s) (f : Forest) :
    (s.after f).extra = s.extra + f.count buildElement := by
  induction f generalizing s with
  | nil => rfl
  | leaf node next ih =>
    rw [after_leaf, ih (over_step h node.event), leaf_extra]
    rfl
  | element name attributes inside next ihInside ihNext =>
    have henter := over_step h (.opening name attributes)
    have hinside := over_leave (over_after henter inside)
    have hcounted := ihInside henter
    simp only [step] at hinside hcounted
    rw [after_element, ihNext hinside, leave_extra, hcounted, h.enter_extra name inside, Forest.count_element]
    omega

/-- Inside of the first build element, what is not counted is unseen. -/
theorem Inside.after_extra {b : Nat} {s : Search} (h : Inside b s) (f : Forest) :
    (s.after f).extra + unseenInside f = s.extra + f.count buildElement := by
  induction f generalizing s with
  | nil => rfl
  | leaf node next ih =>
    rw [after_leaf, h.leaf]
    exact ih h
  | element name attributes inside next ihInside ihNext =>
    rw [after_element, Forest.count_element]
    by_cases hn : (Element.mk name inside).isPlain urlElement = true
    · have hreading : Reading b (s.depth + 1) { s with depth := s.depth + 1, url := some (s.depth + 1) } :=
        ⟨h.build, rfl, Nat.lt_succ_of_le h.here, Nat.le_refl _, h.found, h.closed⟩
      rw [h.enter_url hn, (h.over_url inside).after_extra, leave_extra, hreading.after_eq, unseenInside_url hn, not_build_of_url hn]
      simp only [Bool.false_eq_true, if_false]
      omega
    · have hcounted := ihInside h.deeper
      have hspec := h.deeper.after_spec inside
      rw [h.enter_other hn, unseenInside_other hn]
      cases hfirst : inside.first? urlElement with
      | some url =>
        rw [hfirst] at hspec
        rw [(over_leave hspec).after_extra, leave_extra, Option.isSome_some, if_pos rfl]
        simp only at hcounted
        omega
      | none =>
        rw [hfirst] at hspec
        simp only at hspec
        have hnext := ihNext h
        rw [hspec, h.leave, Option.isSome_none, if_neg Bool.false_ne_true]
        omega

/-- Where no build element has been met, the first one, the unseen ones and the counted ones are all. -/
theorem Outside.after_extra {s : Search} (h : Outside s) (f : Forest) :
    (s.after f).extra + unseen f + (if (f.first? buildElement).isSome then 1 else 0) = s.extra + f.count buildElement := by
  induction f generalizing s with
  | nil => rfl
  | leaf node next ih =>
    rw [after_leaf, h.leaf]
    exact ih h
  | element name attributes inside next ihInside ihNext =>
    rw [after_element, unseen, Forest.first?_element, Forest.count_element]
    by_cases hn : (Element.mk name inside).isPlain buildElement = true
    · have hin : Inside (s.depth + 1) { s with depth := s.depth + 1, build := some (s.depth + 1) } :=
        ⟨rfl, h.url, Nat.le_refl _, h.pieces, h.found, h.closed⟩
      have hcounted := hin.after_extra inside
      rw [h.enter_build hn, (h.over_build inside).after_extra, leave_extra]
      simp only [hn, if_true, Option.isSome_some]
      simp only at hcounted
      omega
    · have hcounted := ihInside h.deeper
      have hspec := h.deeper.after_spec inside
      rw [h.enter_other hn, if_neg hn, if_neg hn]
      rw [unseen] at hcounted
      cases hfirst : inside.first? buildElement with
      | some build =>
        rw [hfirst] at hspec hcounted
        rw [(over_leave hspec).after_extra, leave_extra, Option.some_or]
        simp only [Option.isSome_some, if_true] at hcounted ⊢
        omega
      | none =>
        rw [hfirst] at hspec hcounted
        simp only at hspec
        have hnext := ihNext h
        rw [hspec] at hcounted
        rw [hspec, h.leave, Option.none_or]
        rw [unseen] at hnext
        simp only [Option.isSome_none, Bool.false_eq_true, if_false] at hcounted
        omega

end Search

/-- The build elements behind the first one are counted or unseen. -/
theorem search_extra (f : Forest) : (search f.events).extra + unseen f = f.count buildElement - 1 := by
  have hall := Search.Outside.after_extra (s := .start) ⟨rfl, rfl, rfl, rfl, rfl⟩ f
  have hstart : (search f.events).extra = (Search.start.after f).extra := rfl
  have hextra : Search.start.extra = 0 := rfl
  cases hfirst : f.first? buildElement with
  | some build =>
    rw [hfirst, Option.isSome_some, if_pos rfl] at hall
    omega
  | none =>
    have hspec := Search.Outside.after_spec (s := .start) ⟨rfl, rfl, rfl, rfl, rfl⟩ f
    have hunseen : unseen f = 0 := by rw [unseen, hfirst]
    rw [hfirst] at hspec hall
    simp only at hspec
    rw [hspec, Option.isSome_none, if_neg Bool.false_ne_true] at hall
    rw [hstart, hspec]
    omega

/-! ## What is told of them -/

/-- What tells that there are further build elements, if there are. -/
def furtherTold (count : Nat) : List Notice := if 0 < count then [.extraBuilds count] else []

theorem furtherTold_inj {m n : Nat} : furtherTold m = furtherTold n ↔ m = n := by
  refine ⟨fun h => ?_, fun h => h ▸ rfl⟩
  unfold furtherTold at h
  split at h <;> split at h
  · simpa using h
  · cases h
  · cases h
  · omega

theorem buildAt_notices {file : Path} {w : World} {octets : Bytes} (h : w.volume.readFile file = .ok octets) :
    ((buildAt file).on w).2.notices = w.notices ++ furtherTold (lastBuild file.text (read octets)).2 := by
  have hthrown (w : World) : ((orThrow id (lastBuild file.text (read octets)).1 : Action Failure String).on w).2 = w := by
    rw [on_orThrow]
  rw [buildAt, on_bind, on_volume, furtherTold]
  simp only [h]
  split
  · rw [on_bind, on_tell]
    exact congrArg World.notices (hthrown _)
  · rw [hthrown, List.append_nil]

/-- What a feed without a fault is said to have of further build elements, by its tree. -/
theorem further_builds_told {octets : Bytes} (h : (read octets).fault = none) :
    (∃ f : Forest, read octets = ⟨f.events, none⟩) ∧ ∀ f : Forest, read octets = ⟨f.events, none⟩ →
      (∀ document, (lastBuild document (read octets)).2 + unseen f = f.count buildElement - 1) ∧
      ∀ (file : Path) (w : World), w.volume.readFile file = .ok octets → ∃ told,
        ((buildAt file).on w).2.notices = w.notices ++ told ∧
        told = furtherTold (f.count buildElement - 1 - unseen f) ∧
        (told = furtherTold (f.count buildElement - 1) ↔ unseen f = 0) := by
  refine ⟨?_, fun f hread => ?_⟩
  · obtain ⟨f, hf⟩ := read_forest h
    refine ⟨f, ?_⟩
    rw [← hf, ← h]
  · have hcounted := search_extra f
    have hextra (document : String) : (lastBuild document (read octets)).2 = (search f.events).extra := by
      rw [hread, lastBuild_eq]
    refine ⟨fun document => by rw [hextra, hcounted], fun file w hfile => ?_⟩
    have htold := buildAt_notices hfile
    rw [hextra, show (search f.events).extra = f.count buildElement - 1 - unseen f by omega] at htold
    refine ⟨_, htold, rfl, furtherTold_inj.trans ?_⟩
    omega

/-- An element without a namespace and without attributes. -/
def bareElement (label : String) (inside next : Forest) : Forest := .element ⟨none, label⟩ [] inside next

/-- A feed whose further build elements stand behind the first `url` element: in the first build element, and
after its end. -/
def behindFeed : Forest :=
  let first := bareElement "url" (.leaf (.text "u") .nil) (bareElement "lastSuccessfulBuild" .nil .nil)
  bareElement "job" (bareElement "lastSuccessfulBuild" first (bareElement "lastSuccessfulBuild" .nil .nil)) .nil

def behindText : Bytes :=
  Utf8.encode ("<job><lastSuccessfulBuild><url>u</url><lastSuccessfulBuild/></lastSuccessfulBuild>" ++
    "<lastSuccessfulBuild/></job>")

/-- A world with a feed in its one file. -/
def feedWorld (octets : Bytes) : World := ⟨⟨⟨[([Utf8.encode "f"], .file octets)], []⟩, []⟩, ⟨true, [], []⟩, []⟩

/-- Both are told of. -/
theorem builds_behind_the_first_are_told : read behindText = ⟨behindFeed.events, none⟩ ∧
    ((buildAt (.ofText "f")).on (feedWorld behindText)).2.notices = [.extraBuilds 2] := by
  have hread : read behindText = ⟨behindFeed.events, none⟩ := by decide +kernel
  have hfile : ((feedWorld behindText).volume.readFile (.ofText "f")).toOption = some behindText := by decide +kernel
  have hcount : behindFeed.count buildElement = 3 ∧ unseen behindFeed = 0 := by decide +kernel
  have hfault : (read behindText).fault = none := by rw [hread]
  obtain ⟨_, hfeed⟩ := further_builds_told hfault
  obtain ⟨told, htold, _, hall⟩ := (hfeed behindFeed hread).2 (.ofText "f") (feedWorld behindText) (ok_of_toOption hfile)
  refine ⟨hread, ?_⟩
  rw [htold, hall.mpr hcount.2, hcount.1]
  rfl

/-- A feed with build elements in the first one, before its `url` element and inside of it. -/
def insideFeed : Forest :=
  let url := bareElement "url" (bareElement "lastSuccessfulBuild" .nil (.leaf (.text "u") .nil)) .nil
  bareElement "job" (bareElement "lastSuccessfulBuild" (bareElement "lastSuccessfulBuild" .nil url) .nil) .nil

def insideText : Bytes :=
  Utf8.encode ("<job><lastSuccessfulBuild><lastSuccessfulBuild/><url><lastSuccessfulBuild/>u</url>" ++
    "</lastSuccessfulBuild></job>")

/-- Three build elements, and nothing is told of the further two. -/
theorem a_build_inside_of_the_first_is_unseen : read insideText = ⟨insideFeed.events, none⟩ ∧
    insideFeed.count buildElement = 3 ∧ ((buildAt (.ofText "f")).on (feedWorld insideText)).1 = .ok "u" ∧
    ((buildAt (.ofText "f")).on (feedWorld insideText)).2.notices = [] := by
  have hresult : ((buildAt (.ofText "f")).on (feedWorld insideText)).1.toOption = some "u" := by decide +kernel
  exact ⟨by decide +kernel, by decide +kernel, ok_of_toOption hresult, by decide +kernel⟩

end Feed

end BuildHarvest
