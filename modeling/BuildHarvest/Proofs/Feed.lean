/-
  BuildHarvest.Proofs.Feed — the search in a feed's events finds what its tree says.

  `meaning` reads a feed as a tree: the first build element in the order of the document, the
  first `url` element inside it, and the texts that stand directly in that. The search goes
  through a forest in one of four states: before the build element (`Outside`), inside of it
  (`Inside`), inside of its `url` element (`Reading`), and decided (`Over`). What does not hold
  the next element leaves the search as it was.

  Proved (`lastBuild_meaning`):
  - The search in the events of a forest gives the meaning of the forest.
  - A fault anywhere in a document is a fault of the feed.
  - A document without a fault is a forest, so its feed has a meaning.
  - A feed in a file is read the same way, but that a fault names the file.
-/

import BuildHarvest.Feed.Snapshot
import BuildHarvest.Proofs.Action
import BuildHarvest.Proofs.Nesting
import BuildHarvest.Proofs.Volume

namespace BuildHarvest

namespace Markup

/-- An element of a name, without a namespace. -/
def Element.isPlain (label : String) (e : Element) : Bool := e.name.space.isNone && e.name.label == label

/-- The first element of a name at any depth, in the order of the document. -/
def Forest.first? (f : Forest) (label : String) : Option Element := f.elements.find? (·.isPlain label)

theorem Element.isPlain_iff {label : String} {e : Element} : e.isPlain label = true ↔ e.name.space = none ∧ e.name.label = label := by
  rw [isPlain, Bool.and_eq_true, Option.isNone_iff_eq_none, beq_iff_eq]

/-- An element's own name comes first, then what is inside of it, then what follows it. -/
theorem Forest.first?_element (name : Name) (attributes : List (Name × String)) (inside next : Forest) (label : String) :
    (Forest.element name attributes inside next).first? label =
      if (Element.mk name inside).isPlain label then some ⟨name, inside⟩ else (inside.first? label).or (next.first? label) := by
  unfold first?
  rw [elements, List.find?_cons, List.find?_append]
  cases (Element.mk name inside).isPlain label <;> rfl

end Markup

namespace Feed

open Markup BuildHarvest.Action

/-- The URL of the last successful build inside of a build element. -/
def meaningInside (inside : Forest) : Except Failure String :=
  match inside.first? urlElement with
  | none => .error (.missingNode (buildElement ++ "/" ++ urlElement))
  | some url => .ok (String.join url.inside.texts)

/-- The URL of the last successful build, as the tree of a feed says it. -/
def meaning (f : Forest) : Except Failure String :=
  match f.first? buildElement with
  | none => .error (.missingNode buildElement)
  | some build => meaningInside build.inside

namespace Search

/-- The search after a forest. -/
def after (s : Search) (f : Forest) : Search := f.events.foldl step s

@[simp]
theorem after_leaf (s : Search) (node : Leaf) (next : Forest) : s.after (.leaf node next) = (s.step node.event).after next := rfl

@[simp]
theorem after_element (s : Search) (name : Name) (attributes : List (Name × String)) (inside next : Forest) :
    s.after (.element name attributes inside next) = ((s.enter name).after inside).leave.after next := by
  simp [after, Forest.events, step]

/-- Leaving an element that the search did not stop at undoes entering it. -/
theorem leave_passed {s : Search} (hu : s.url ≠ some (s.depth + 1)) (hb : s.build ≠ some (s.depth + 1)) :
    ({ s with depth := s.depth + 1 } : Search).leave = s := by
  rw [leave, if_neg hu, if_neg hb]
  rfl

/-- Between tags, only texts directly in the `url` element are heard. -/
theorem step_leaf {s : Search} (hu : s.url ≠ some s.depth) (node : Leaf) : s.step node.event = s := by
  cases node with
  | text t => exact if_neg hu
  | _ => rfl

/-! ## Decided -/

/-- The search has its result. -/
structure Over (r : Except Failure String) (s : Search) : Prop where
  url : s.url = none
  decided : s.isOver = true
  result : s.result = r

theorem over_leave {r : Except Failure String} {s : Search} (h : Over r s) : Over r s.leave := by
  have hurl : s.url ≠ some s.depth := by
    rw [h.url]
    exact Option.some_ne_none _ |>.symm
  rw [leave, if_neg hurl]
  split
  · exact ⟨h.url, Bool.or_true _, h.result⟩
  · exact ⟨h.url, h.decided, h.result⟩

/-- Nothing changes a result any more. -/
theorem over_step {r : Except Failure String} {s : Search} (h : Over r s) (e : Event) : Over r (s.step e) := by
  obtain ⟨hurl, hdecided, hresult⟩ := h
  cases e with
  | opening name attributes =>
    have hdecided' : ({ s with depth := s.depth + 1 } : Search).isOver = true := hdecided
    simp only [step, enter, hdecided', if_true]
    split
    · exact ⟨hurl, hdecided, hresult⟩
    · split
      · exact ⟨hurl, hdecided, hresult⟩
      · exact ⟨hurl, hdecided, hresult⟩
  | closing name => exact over_leave ⟨hurl, hdecided, hresult⟩
  | text s =>
    simp only [step, hear, hurl]
    exact ⟨hurl, hdecided, hresult⟩
  | data s => exact ⟨hurl, hdecided, hresult⟩
  | comment s => exact ⟨hurl, hdecided, hresult⟩
  | instruction name s => exact ⟨hurl, hdecided, hresult⟩

theorem over_after {r : Except Failure String} {s : Search} (h : Over r s) (f : Forest) : Over r (s.after f) := by
  unfold after
  induction f.events generalizing s with
  | nil => exact h
  | cons e events ih => exact ih (over_step h e)

/-! ## Inside of the `url` element -/

/-- A `url` element at a depth is being read, inside of the build element at another. -/
structure Reading (b u : Nat) (s : Search) : Prop where
  build : s.build = some b
  url : s.url = some u
  inside : b < u
  here : u ≤ s.depth
  found : s.found = none
  closed : s.closed = false

theorem Reading.enter {b u : Nat} {s : Search} (h : Reading b u s) (name : Name) :
    s.enter name = { s with depth := s.depth + 1 } := by
  simp only [Search.enter, isOver, h.build, h.url, h.found, h.closed]
  split <;> rfl

theorem Reading.leave {b u : Nat} {s : Search} (h : Reading b u s) :
    ({ s with depth := s.depth + 1 } : Search).leave = s := by
  have hhere := h.here
  have hinside := h.inside
  refine leave_passed ?_ ?_
  · rw [h.url, ne_eq, Option.some.injEq]
    omega
  · rw [h.build, ne_eq, Option.some.injEq]
    omega

theorem Reading.deeper {b u : Nat} {s : Search} (h : Reading b u s) :
    Reading b u { s with depth := s.depth + 1 } :=
  ⟨h.build, h.url, h.inside, Nat.le_succ_of_le h.here, h.found, h.closed⟩

/-- Nothing is heard deeper than the `url` element. -/
theorem Reading.after_below {b u : Nat} {s : Search} (h : Reading b u s) (hdeep : u < s.depth) (f : Forest) :
    s.after f = s := by
  induction f generalizing s with
  | nil => rfl
  | leaf node next ih =>
    have hurl : s.url ≠ some s.depth := by
      rw [h.url, ne_eq, Option.some.injEq]
      omega
    rw [after_leaf, step_leaf hurl, ih h hdeep]
  | element name attributes inside next ihInside ihNext =>
    rw [after_element, h.enter, ihInside h.deeper (Nat.lt_succ_of_lt hdeep), h.leave, ihNext h hdeep]

/-- The texts directly in the `url` element are heard, and nothing else. -/
theorem Reading.after_eq {b : Nat} {s : Search} (h : Reading b s.depth s) (f : Forest) :
    s.after f = { s with pieces := f.texts.reverse ++ s.pieces } := by
  induction f generalizing s with
  | nil => rfl
  | leaf node next ih =>
    rw [after_leaf]
    cases node with
    | text t =>
      have hleaf : s.step (Leaf.text t).event = { s with pieces := t :: s.pieces } := if_pos h.url
      have hheard : Reading b s.depth { s with pieces := t :: s.pieces } := ⟨h.build, h.url, h.inside, h.here, h.found, h.closed⟩
      rw [hleaf, ih hheard, Forest.texts, List.reverse_cons, List.append_assoc]
      rfl
    | data t => exact ih h
    | comment t => exact ih h
    | instruction name t => exact ih h
  | element name attributes inside next _ ihNext =>
    rw [after_element, h.enter, h.deeper.after_below (Nat.lt_succ_self _), h.leave, ihNext h]
    rfl

/-! ## Inside of the build element -/

/-- The build element at a depth is open, and no `url` element has been met in it. -/
structure Inside (b : Nat) (s : Search) : Prop where
  build : s.build = some b
  url : s.url = none
  here : b ≤ s.depth
  pieces : s.pieces = []
  found : s.found = none
  closed : s.closed = false

theorem Inside.enter_url {b : Nat} {s : Search} (h : Inside b s) {name : Name} {inside : Forest}
    (hn : (Element.mk name inside).isPlain urlElement = true) :
    s.enter name = { s with depth := s.depth + 1, url := some (s.depth + 1) } := by
  obtain ⟨hspace, hlabel⟩ := Element.isPlain_iff.mp hn
  simp only at hspace hlabel
  simp [Search.enter, isOver, h.build, h.url, h.found, h.closed, hspace, hlabel]

theorem Inside.enter_other {b : Nat} {s : Search} (h : Inside b s) {name : Name} {inside : Forest}
    (hn : ¬ (Element.mk name inside).isPlain urlElement = true) : s.enter name = { s with depth := s.depth + 1 } := by
  rw [Element.isPlain_iff, not_and] at hn
  cases hspace : name.space with
  | some space => simp [Search.enter, hspace]
  | none => simp [Search.enter, isOver, h.build, h.url, h.found, h.closed, hspace, hn hspace]

theorem Inside.deeper {b : Nat} {s : Search} (h : Inside b s) : Inside b { s with depth := s.depth + 1 } :=
  ⟨h.build, h.url, Nat.le_succ_of_le h.here, h.pieces, h.found, h.closed⟩

theorem Inside.leave {b : Nat} {s : Search} (h : Inside b s) : ({ s with depth := s.depth + 1 } : Search).leave = s := by
  have hhere := h.here
  refine leave_passed ?_ ?_
  · rw [h.url]
    exact (Option.some_ne_none _).symm
  · rw [h.build, ne_eq, Option.some.injEq]
    omega

theorem Inside.leaf {b : Nat} {s : Search} (h : Inside b s) (node : Leaf) : s.step node.event = s := by
  refine step_leaf ?_ node
  rw [h.url]
  exact (Option.some_ne_none _).symm

/-- A `url` element decides the search. -/
theorem Inside.over_url {b : Nat} {s : Search} (h : Inside b s) (inside : Forest) :
    Over (.ok (String.join inside.texts))
      ((({ s with depth := s.depth + 1, url := some (s.depth + 1) } : Search).after inside).leave) := by
  have hreading : Reading b (s.depth + 1) { s with depth := s.depth + 1, url := some (s.depth + 1) } :=
    ⟨h.build, rfl, Nat.lt_succ_of_le h.here, Nat.le_refl _, h.found, h.closed⟩
  rw [hreading.after_eq, Search.leave, if_pos rfl]
  refine ⟨rfl, rfl, ?_⟩
  simp [result, h.pieces]

theorem Inside.after_spec {b : Nat} {s : Search} (h : Inside b s) (f : Forest) :
    match f.first? urlElement with
    | none => s.after f = s
    | some url => Over (.ok (String.join url.inside.texts)) (s.after f) := by
  induction f generalizing s with
  | nil => rfl
  | leaf node next ih =>
    rw [after_leaf, h.leaf]
    exact ih h
  | element name attributes inside next ihInside ihNext =>
    rw [after_element, Forest.first?_element]
    by_cases hn : (Element.mk name inside).isPlain urlElement = true
    · rw [if_pos hn, h.enter_url hn]
      exact over_after (h.over_url inside) next
    · have hinside := ihInside h.deeper
      rw [if_neg hn, h.enter_other hn]
      cases hfirst : inside.first? urlElement with
      | some url =>
        rw [hfirst] at hinside
        exact over_after (over_leave hinside) next
      | none =>
        rw [hfirst] at hinside
        simp only at hinside
        rw [hinside, h.leave, Option.none_or]
        exact ihNext h

/-! ## Before the build element -/

/-- No build element has been met. -/
structure Outside (s : Search) : Prop where
  build : s.build = none
  url : s.url = none
  pieces : s.pieces = []
  found : s.found = none
  closed : s.closed = false

theorem Outside.enter_build {s : Search} (h : Outside s) {name : Name} {inside : Forest}
    (hn : (Element.mk name inside).isPlain buildElement = true) :
    s.enter name = { s with depth := s.depth + 1, build := some (s.depth + 1) } := by
  obtain ⟨hspace, hlabel⟩ := Element.isPlain_iff.mp hn
  simp only at hspace hlabel
  simp [Search.enter, isOver, h.build, h.found, h.closed, hspace, hlabel]

theorem Outside.enter_other {s : Search} (h : Outside s) {name : Name} {inside : Forest}
    (hn : ¬ (Element.mk name inside).isPlain buildElement = true) : s.enter name = { s with depth := s.depth + 1 } := by
  rw [Element.isPlain_iff, not_and] at hn
  cases hspace : name.space with
  | some space => simp [Search.enter, hspace]
  | none => simp [Search.enter, isOver, h.build, h.found, h.closed, hspace, hn hspace]

theorem Outside.deeper {s : Search} (h : Outside s) : Outside { s with depth := s.depth + 1 } :=
  ⟨h.build, h.url, h.pieces, h.found, h.closed⟩

theorem Outside.leave {s : Search} (h : Outside s) : ({ s with depth := s.depth + 1 } : Search).leave = s := by
  refine leave_passed ?_ ?_
  · rw [h.url]
    exact (Option.some_ne_none _).symm
  · rw [h.build]
    exact (Option.some_ne_none _).symm

theorem Outside.leaf {s : Search} (h : Outside s) (node : Leaf) : s.step node.event = s := by
  refine step_leaf ?_ node
  rw [h.url]
  exact (Option.some_ne_none _).symm

/-- The build element decides the search. -/
theorem Outside.over_build {s : Search} (h : Outside s) (inside : Forest) :
    Over (meaningInside inside)
      ((({ s with depth := s.depth + 1, build := some (s.depth + 1) } : Search).after inside).leave) := by
  have hin : Inside (s.depth + 1) { s with depth := s.depth + 1, build := some (s.depth + 1) } :=
    ⟨rfl, h.url, Nat.le_refl _, h.pieces, h.found, h.closed⟩
  have hspec := hin.after_spec inside
  unfold meaningInside
  cases hfirst : inside.first? urlElement with
  | some url =>
    rw [hfirst] at hspec
    exact over_leave hspec
  | none =>
    rw [hfirst] at hspec
    simp only at hspec
    rw [hspec, Search.leave, if_neg, if_pos rfl]
    · refine ⟨h.url, Bool.or_true _, ?_⟩
      simp [result, h.found]
    · show s.url ≠ some (s.depth + 1)
      rw [h.url]
      exact (Option.some_ne_none _).symm

theorem Outside.after_spec {s : Search} (h : Outside s) (f : Forest) :
    match f.first? buildElement with
    | none => s.after f = s
    | some build => Over (meaningInside build.inside) (s.after f) := by
  induction f generalizing s with
  | nil => rfl
  | leaf node next ih =>
    rw [after_leaf, h.leaf]
    exact ih h
  | element name attributes inside next ihInside ihNext =>
    rw [after_element, Forest.first?_element]
    by_cases hn : (Element.mk name inside).isPlain buildElement = true
    · rw [if_pos hn, h.enter_build hn]
      exact over_after (h.over_build inside) next
    · have hinside := ihInside h.deeper
      rw [if_neg hn, h.enter_other hn]
      cases hfirst : inside.first? buildElement with
      | some build =>
        rw [hfirst] at hinside
        exact over_after (over_leave hinside) next
      | none =>
        rw [hfirst] at hinside
        simp only at hinside
        rw [hinside, h.leave, Option.none_or]
        exact ihNext h

end Search

/-! ## The whole feed -/

theorem search_meaning (f : Forest) : (search f.events).result = meaning f := by
  have hspec := Search.Outside.after_spec (s := .start) ⟨rfl, rfl, rfl, rfl, rfl⟩ f
  unfold meaning
  cases hfirst : f.first? buildElement with
  | some build =>
    rw [hfirst] at hspec
    exact hspec.result
  | none =>
    rw [hfirst] at hspec
    rw [show search f.events = .start from hspec]
    rfl

/-- A failure that names a document names another one instead. -/
def renamed (document : String) : Except Failure String → Except Failure String
  | .error (.statusMalformed _ reason) => .error (.statusMalformed document reason)
  | r => r

theorem lastBuild_renamed (document document' : String) (s : Stream) :
    (lastBuild document' s).1 = renamed document' (lastBuild document s).1 := by
  rw [lastBuild_eq, lastBuild_eq]
  cases s.fault with
  | some fault => rfl
  | none =>
    simp only [Search.result]
    split <;> rfl

theorem buildAt_result {file : Path} {w : World} {octets : Bytes} (h : w.volume.readFile file = .ok octets) :
    ((buildAt file).on w).1 = (lastBuild file.text (read octets)).1 := by
  have hthrown (w : World) : ((orThrow id (lastBuild file.text (read octets)).1 : Action Failure String).on w).1 =
      (lastBuild file.text (read octets)).1 := by
    rw [on_orThrow]
    cases (lastBuild file.text (read octets)).1 <;> rfl
  rw [buildAt, on_bind, on_volume]
  simp only [h]
  split
  · rw [on_bind, on_tell]
    exact hthrown _
  · exact hthrown w

/-- What a feed says, by its tree. -/
theorem lastBuild_meaning :
    (∀ (document : String) (f : Forest), (lastBuild document ⟨f.events, none⟩).1 = meaning f) ∧
    (∀ (document : String) (events : List Event) (fault : Fault),
      (lastBuild document ⟨events, some fault⟩).1 = .error (.statusMalformed document fault.reason)) ∧
    (∀ octets, (read octets).fault = none → ∃ f : Forest, (read octets).events = f.events) ∧
    (∀ (file : Path) (w : World) (octets : Bytes), w.volume.readFile file = .ok octets →
      ((buildAt file).on w).1 = renamed file.text (lastBuild anonymous (read octets)).1) := by
  refine ⟨fun document f => ?_, fun document events fault => ?_, fun octets h => read_forest h, fun file w octets h => ?_⟩
  · rw [lastBuild_eq]
    exact search_meaning f
  · rw [lastBuild_eq]
  · rw [buildAt_result h]
    exact lastBuild_renamed anonymous file.text _

/-- A build element below another element, with a `url` element that holds one more. -/
def nestedFeed : Forest :=
  let plain (label : String) (inside next : Forest) : Forest := .element ⟨none, label⟩ [] inside next
  let url := plain "url" (.leaf (.text " a") (plain "b" (.leaf (.text "z") .nil) (.leaf (.text "c") .nil))) .nil
  plain "job" (plain "url" .nil (plain "lastSuccessfulBuild" (plain "x" url .nil) .nil)) .nil

def nestedText : Bytes :=
  Utf8.encode "<job><url/><lastSuccessfulBuild><x><url> a<b>z</b>c</url></x></lastSuccessfulBuild></job>"

/-- A world whose one file holds that feed. -/
def storedWorld : World := ⟨⟨⟨[([Utf8.encode "f"], .file nestedText)], []⟩, []⟩, ⟨true, [], []⟩, []⟩

theorem a_stored_feed_is_read : read nestedText = ⟨nestedFeed.events, none⟩ ∧
    ((buildAt (.ofText "f")).on storedWorld).1 = .ok " ac" := by
  have hread : read nestedText = ⟨nestedFeed.events, none⟩ := by decide +kernel
  have hfile : (storedWorld.volume.readFile (.ofText "f")).toOption = some nestedText := by decide +kernel
  have hmeaning : (meaning nestedFeed).toOption = some " ac" := by decide +kernel
  obtain ⟨hforest, _, _, hstored⟩ := lastBuild_meaning
  refine ⟨hread, ?_⟩
  rw [hstored (.ofText "f") storedWorld nestedText (ok_of_toOption hfile), hread, hforest, ok_of_toOption hmeaning]
  rfl

end Feed

end BuildHarvest
