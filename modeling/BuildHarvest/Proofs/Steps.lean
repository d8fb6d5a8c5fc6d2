/-
  BuildHarvest.Proofs.Steps — the steps of joined paths and of the paths above a path.

  Proved:
  - `steps_join` / `origin_join`: what is joined to a path is taken behind the path's own steps.
  - `parent_cases`: a path is its parent, one step that is not `.`, and nothing but `.` around it;
    so the steps of every path above it open its own (`steps_of_mem_lineage`).
-/

import BuildHarvest.Proofs.Names
import BuildHarvest.Volume

namespace BuildHarvest

/-! ## Cutting at a separator -/

section Split

variable {α : Type} [DecidableEq α] (sep : α)

theorem splitOn_nil : splitOn sep [] = [[]] := rfl

theorem splitOn_cons_self (xs : List α) : splitOn sep (sep :: xs) = [] :: splitOn sep xs := by
  simp [splitOn]

theorem splitOn_cons_ne {x : α} (h : x ≠ sep) (xs : List α) :
    ∃ piece rest, splitOn sep xs = piece :: rest ∧ splitOn sep (x :: xs) = (x :: piece) :: rest := by
  obtain ⟨piece, rest, hp⟩ := List.exists_cons_of_ne_nil (splitOn_ne_nil sep xs)
  refine ⟨piece, rest, hp, ?_⟩
  simp only [splitOn, List.foldr_cons, if_neg h] at hp ⊢
  rw [hp]

theorem splitOn_append (xs ys : List α) : splitOn sep (xs ++ sep :: ys) = splitOn sep xs ++ splitOn sep ys := by
  induction xs with
  | nil => exact splitOn_cons_self sep ys
  | cons x xs ih =>
    by_cases h : x = sep
    · subst h
      rw [List.cons_append, splitOn_cons_self, splitOn_cons_self, ih, List.cons_append]
    · obtain ⟨p, r, h1, h2⟩ := splitOn_cons_ne sep h (xs ++ sep :: ys)
      obtain ⟨p', r', h1', h2'⟩ := splitOn_cons_ne sep h xs
      rw [ih, h1', List.cons_append, List.cons.injEq] at h1
      rw [List.cons_append, h2, h2', ← h1.1, ← h1.2, List.cons_append]

theorem splitOn_of_not_mem {xs : List α} (h : sep ∉ xs) : splitOn sep xs = [xs] := by
  induction xs with
  | nil => rfl
  | cons x xs ih =>
    obtain ⟨p, r, h1, h2⟩ := splitOn_cons_ne sep (x := x) (by rintro rfl; exact h List.mem_cons_self) xs
    rw [ih (fun hm => h (List.mem_cons_of_mem _ hm)), List.cons.injEq] at h1
    rw [h2, ← h1.1, ← h1.2]

theorem splitOn_joinWith {pieces : List (List α)} (hne : pieces ≠ []) (h : ∀ p ∈ pieces, sep ∉ p) :
    splitOn sep (joinWith sep pieces) = pieces := by
  induction pieces with
  | nil => exact absurd rfl hne
  | cons p rest ih =>
    have hp : splitOn sep p = [p] := splitOn_of_not_mem sep (h p List.mem_cons_self)
    cases rest with
    | nil => exact hp
    | cons q rest =>
      rw [joinWith, splitOn_append, hp, ih (by simp) (fun r hr => h r (List.mem_cons_of_mem _ hr))]
      · rfl
      · simp

theorem not_mem_of_mem_splitOn (xs : List α) : ∀ p ∈ splitOn sep xs, sep ∉ p := by
  induction xs with
  | nil => simp [splitOn_nil]
  | cons x xs ih =>
    by_cases h : x = sep
    · subst h
      rw [splitOn_cons_self]
      intro p hp
      rcases List.mem_cons.mp hp with rfl | hp
      · simp
      · exact ih p hp
    · obtain ⟨p, r, h1, h2⟩ := splitOn_cons_ne sep h xs
      rw [h2]
      rw [h1] at ih
      intro q hq
      rcases List.mem_cons.mp hq with rfl | hq
      · have := ih p List.mem_cons_self
        simp [Ne.symm h, this]
      · exact ih q (List.mem_cons_of_mem _ hq)

end Split

/-! ## Steps of a joined path -/

namespace Volume

open BuildHarvest.Path

theorem steps_empty : steps ⟨[]⟩ = [] := rfl

theorem octets_ne_nil {p : Path} {s : Step} (h : s ∈ steps p) : p.octets ≠ [] := by
  intro hempty
  rw [show p = ⟨[]⟩ from congrArg Path.mk hempty, steps_empty] at h
  cases h

theorem steps_append (a b : Bytes) : steps ⟨a ++ separator :: b⟩ = steps ⟨a⟩ ++ steps ⟨b⟩ := by
  simp only [steps, splitOn_append, List.filter_append, List.map_append]

theorem steps_trailing (a : Bytes) : steps ⟨a ++ [separator]⟩ = steps ⟨a⟩ := by
  rw [steps_append, steps_empty, List.append_nil]

theorem steps_leading (b : Bytes) : steps ⟨separator :: b⟩ = steps ⟨b⟩ := by
  have := steps_append [] b
  rwa [steps_empty, List.nil_append, List.nil_append] at this

theorem steps_name {n : Bytes} (h : IsName n) : steps ⟨n⟩ = [.down n] := by
  obtain ⟨hne, h1, h2, hs⟩ := h
  simp [steps, splitOn_of_not_mem _ hs, hne, Step.ofPart, h1, h2]

theorem steps_join (d p : Path) (h : p.isAbsolute = false) : steps (d.join p) = steps d ++ steps p := by
  obtain ⟨d⟩ := d
  obtain ⟨p⟩ := p
  simp only [join, h, Bool.false_eq_true, if_false]
  split
  · rename_i hd
    rcases List.eq_nil_or_concat d with rfl | ⟨init, last, rfl⟩
    · rfl
    · have hl : last = separator := by simpa [Path.isEmpty] using hd
      subst hl
      rw [List.concat_eq_append, steps_trailing, List.append_assoc, List.singleton_append, steps_append]
  · exact steps_append d p

theorem isAbsolute_join (d p : Path) (h : p.isAbsolute = false) : (d.join p).isAbsolute = d.isAbsolute := by
  obtain ⟨d⟩ := d
  cases d with
  | nil => rw [join, if_neg (by simp [h])]; exact h
  | cons b d => simp only [join, h, Bool.false_eq_true, if_false]; split <;> rfl

theorem origin_join (d p : Path) (l : Loc) (h : p.isAbsolute = false) : origin (d.join p) l = origin d l := by
  simp only [origin, isAbsolute_join d p h]

theorem origin_congr {p q : Path} (h : q.isAbsolute = p.isAbsolute) (l : Loc) : origin p l = origin q l := by
  simp only [origin, h]

theorem isAbsolute_name {n : Bytes} (h : IsName n) : Path.isAbsolute ⟨n⟩ = false := by
  cases n with
  | nil => rfl
  | cons b n =>
    have : b ≠ separator := by rintro rfl; exact h.2.2.2 List.mem_cons_self
    simpa [Path.isAbsolute] using this

theorem steps_join_name (d : Path) {n : Bytes} (h : IsName n) : steps (d.join ⟨n⟩) = steps d ++ [.down n] := by
  rw [steps_join _ _ (isAbsolute_name h), steps_name h]

/-! ## Steps of the paths above a path -/

/-- The steps that parts stand for. -/
def stepsOf (parts : List Bytes) : List Step := (parts.filter (· ≠ [])).map Step.ofPart

theorem stepsOf_append (a b : List Bytes) : stepsOf (a ++ b) = stepsOf a ++ stepsOf b := by
  simp only [stepsOf, List.filter_append, List.map_append]

/-- Steps that stay where they are. -/
def Still (ss : List Step) : Prop := ∀ s ∈ ss, s = .here

/-- The last step that does not stay, and what is before it and behind it. -/
theorem eq_of_append_still {a b s t : List Step} {x y : Step} (h : a ++ x :: s = b ++ y :: t) (hs : Still s) (ht : Still t)
    (hx : x ≠ .here) (hy : y ≠ .here) : a = b ∧ x = y ∧ s = t := by
  rcases List.append_eq_append_iff.mp h with ⟨c, hb, hrest⟩ | ⟨c, ha, hrest⟩
  · cases c with
    | nil =>
      obtain ⟨rfl, rfl⟩ := List.cons.inj hrest
      exact ⟨by rw [hb, List.append_nil], rfl, rfl⟩
    | cons z c =>
      obtain ⟨-, rfl⟩ := List.cons.inj hrest
      exact absurd (hs y (by simp)) hy
  · cases c with
    | nil =>
      obtain ⟨rfl, rfl⟩ := List.cons.inj hrest
      exact ⟨by rw [ha, List.append_nil], rfl, rfl⟩
    | cons z c =>
      obtain ⟨-, rfl⟩ := List.cons.inj hrest
      exact absurd (ht x (by simp)) hx

theorem still_stepsOf {parts : List Bytes} (h : ∀ part ∈ parts, isMute part = true) : Still (stepsOf parts) := by
  intro s hs
  obtain ⟨part, hp, rfl⟩ := List.mem_map.mp hs
  obtain ⟨hm, hne⟩ := List.mem_filter.mp hp
  have : part = [dot] := by simpa [isMute, of_decide_eq_true hne] using h part hm
  simp [this, Step.ofPart]

theorem ofPart_ne_here {part : Bytes} (h : isMute part = false) : Step.ofPart part ≠ .here := by
  have : part ≠ [dot] := by rintro rfl; simp [isMute] at h
  simp only [Step.ofPart, this, if_false]
  split <;> simp

/-- How a path opens: nothing, a root, or a `.` that stands alone. -/
def Opens (head : Bytes) (parts : List Bytes) : Prop :=
  (head = [] ∨ head = [separator] ∨ head = [dot] ∧ (parts = [] ∨ ∃ rest, parts = [] :: rest)) ∧
    ∀ part ∈ parts, separator ∉ part

theorem opens_opening (p : Path) : Opens p.opening.1 p.opening.2 := by
  obtain ⟨p⟩ := p
  have pieces := not_mem_of_mem_splitOn separator
  cases p with
  | nil => exact ⟨.inl rfl, by simp [opening]⟩
  | cons b rest =>
    simp only [opening]
    split
    · exact ⟨.inr (.inl rfl), pieces rest⟩
    · split
      · split
        · exact ⟨.inr (.inr ⟨rfl, .inl rfl⟩), by simp⟩
        · split
          · rename_i hc
            subst hc
            exact ⟨.inr (.inr ⟨rfl, .inr ⟨_, splitOn_cons_self separator _⟩⟩), pieces _⟩
          · exact ⟨.inl rfl, pieces _⟩
      · exact ⟨.inl rfl, pieces _⟩

theorem Opens.take {head : Bytes} {a b : List Bytes} (h : Opens head (a ++ b)) : Opens head a := by
  obtain ⟨hh, hp⟩ := h
  refine ⟨?_, fun part hm => hp part (List.mem_append_left _ hm)⟩
  rcases hh with hh | hh | ⟨hh, he⟩
  · exact .inl hh
  · exact .inr (.inl hh)
  · refine .inr (.inr ⟨hh, ?_⟩)
    cases a with
    | nil => exact .inl rfl
    | cons x a =>
      rcases he with he | ⟨rest, he⟩
      · cases he
      · rw [List.cons_append, List.cons.injEq] at he
        exact .inr ⟨a, by rw [he.1]⟩

theorem steps_joinWith {parts : List Bytes} (h : ∀ part ∈ parts, separator ∉ part) :
    steps ⟨joinWith separator parts⟩ = stepsOf parts := by
  by_cases hne : parts = []
  · subst hne; rfl
  · simp only [steps, splitOn_joinWith separator hne h, stepsOf]

theorem steps_opened {head : Bytes} {parts : List Bytes} (h : Opens head parts) :
    steps ⟨head ++ joinWith separator parts⟩ = (if head = [dot] then [.here] else []) ++ stepsOf parts := by
  obtain ⟨rfl | rfl | ⟨rfl, rfl | ⟨rest, rfl⟩⟩, hp⟩ := h
  · exact steps_joinWith hp
  · rw [List.singleton_append, steps_leading, steps_joinWith hp]
    rfl
  · rfl
  · cases rest with
    | nil => rfl
    | cons part rest =>
      rw [joinWith, List.nil_append, steps_append, steps_joinWith (fun r hr => hp r (List.mem_cons_of_mem _ hr))]
      · rfl
      · simp

theorem joinWith_append (sep : UInt8) (a b : List Bytes) : ∃ rest, joinWith sep (a ++ b) = joinWith sep a ++ rest := by
  induction a with
  | nil => exact ⟨_, rfl⟩
  | cons x a ih =>
    obtain ⟨rest, hr⟩ := ih
    cases a with
    | nil => cases b <;> simp [joinWith]
    | cons y a => exact ⟨rest, by simpa [joinWith] using hr⟩

theorem isAbsolute_append {a : Bytes} (h : a ≠ []) (b : Bytes) : Path.isAbsolute ⟨a ++ b⟩ = Path.isAbsolute ⟨a⟩ := by
  cases a with
  | nil => exact absurd rfl h
  | cons x a => rfl

theorem isMute_of_dropMuteEnd (parts : List Bytes) :
    ∃ muted, parts = dropMuteEnd parts ++ muted ∧ ∀ part ∈ muted, isMute part = true := by
  refine ⟨(parts.reverse.takeWhile isMute).reverse, ?_, fun part hp => ?_⟩
  · rw [dropMuteEnd, ← List.reverse_append, List.takeWhile_append_dropWhile, List.reverse_reverse]
  · have := List.all_takeWhile (l := parts.reverse) (p := isMute)
    exact List.all_eq_true.mp this part (List.mem_reverse.mp hp)

theorem not_isMute_of_dropMuteEnd {parts init : List Bytes} {last : Bytes} (h : dropMuteEnd parts = init ++ [last]) :
    isMute last = false := by
  have hr : parts.reverse.dropWhile isMute = last :: init.reverse := by
    have := congrArg List.reverse h
    simpa [dropMuteEnd] using this
  have := List.head?_dropWhile_not isMute parts.reverse
  rw [hr] at this
  simpa using this

/-- Parts up to the last that says something: nothing but `.` and empty parts, or what is above the
last one, that one, and such parts around it. -/
theorem parts_cases (parts : List Bytes) :
    (dropMuteEnd parts = [] ∧ ∀ part ∈ parts, isMute part = true) ∨
      ∃ mid last muted, dropMuteEnd parts ≠ [] ∧
        parts = dropMuteEnd (dropMuteEnd parts).dropLast ++ (mid ++ last :: muted) ∧ isMute last = false ∧
        (∀ part ∈ mid, isMute part = true) ∧ ∀ part ∈ muted, isMute part = true := by
  obtain ⟨muted, hmuted, hstill⟩ := isMute_of_dropMuteEnd parts
  by_cases hd : dropMuteEnd parts = []
  · rw [hd, List.nil_append] at hmuted
    exact .inl ⟨hd, hmuted ▸ hstill⟩
  · obtain ⟨mid, hmid, hmidstill⟩ := isMute_of_dropMuteEnd (dropMuteEnd parts).dropLast
    have hlast := (List.dropLast_concat_getLast hd).symm
    refine .inr ⟨mid, (dropMuteEnd parts).getLast hd, muted, hd, ?_, not_isMute_of_dropMuteEnd hlast, hmidstill, hstill⟩
    calc parts = dropMuteEnd parts ++ muted := hmuted
      _ = ((dropMuteEnd parts).dropLast ++ [(dropMuteEnd parts).getLast hd]) ++ muted := by rw [← hlast]
      _ = (dropMuteEnd (dropMuteEnd parts).dropLast ++ mid ++ [(dropMuteEnd parts).getLast hd]) ++ muted := by rw [← hmid]
      _ = _ := by simp only [List.append_assoc, List.singleton_append]

theorem stepsOf_cons {last : Bytes} (h : isMute last = false) (muted : List Bytes) :
    stepsOf (last :: muted) = Step.ofPart last :: stepsOf muted := by
  have hne : last ≠ [] := by rintro rfl; simp [isMute] at h
  simp [stepsOf, hne]

/-- A path by its opening: either it has no part that says anything, or it is what its parent
says, one step, and nothing but `.` around the step. -/
theorem parent_cases (p : Path) :
    ((∀ q, p.parent = some q → q = ⟨[]⟩) ∧ Still (steps p)) ∨
      ∃ q before s after, p.parent = some q ∧ steps p = steps q ++ before ++ s :: after ∧ s ≠ .here ∧
        Still before ∧ Still after ∧ (q ≠ ⟨[]⟩ → q.isAbsolute = p.isAbsolute) := by
  have hopen := opens_opening p
  have hsteps : steps p = (if p.opening.1 = [dot] then [.here] else []) ++ stepsOf p.opening.2 := by
    rw [← steps_opened hopen, ← octets_opening]
  have habs : p.isAbsolute = Path.isAbsolute ⟨p.opening.1 ++ joinWith separator p.opening.2⟩ := by rw [← octets_opening]
  rw [hsteps, habs]
  unfold parent
  generalize p.opening = o at hopen ⊢
  obtain ⟨head, parts⟩ := o
  simp only at hopen ⊢
  rcases parts_cases parts with ⟨hd, hmute⟩ | ⟨mid, last, muted, hd, hparts, hlast, hmid, hmuted⟩
  · refine .inl ⟨fun q h => ?_, fun s hs => ?_⟩
    · rw [hd] at h
      simp only at h
      split at h
      · exact (Option.some.inj h).symm
      · cases h
    · rcases List.mem_append.mp hs with hs | hs
      · split at hs
        · exact List.mem_singleton.mp hs
        · cases hs
      · exact still_stepsOf hmute s hs
  · obtain ⟨part, more, hsaid⟩ := List.exists_cons_of_ne_nil hd
    have hopen' : Opens head (dropMuteEnd (dropMuteEnd parts).dropLast) := by
      rw [hparts] at hopen
      exact hopen.take
    refine .inr ⟨⟨head ++ joinWith separator (dropMuteEnd (dropMuteEnd parts).dropLast)⟩, stepsOf mid, Step.ofPart last,
      stepsOf muted, by rw [hsaid], ?_, ofPart_ne_here hlast, still_stepsOf hmid, still_stepsOf hmuted, fun hq => ?_⟩
    · rw [steps_opened hopen', ← stepsOf_cons hlast, List.append_assoc, List.append_assoc, ← stepsOf_append, ← stepsOf_append,
        ← hparts]
    · obtain ⟨rest, hrest⟩ := joinWith_append separator (dropMuteEnd (dropMuteEnd parts).dropLast) (mid ++ last :: muted)
      rw [← hparts] at hrest
      rw [hrest, ← List.append_assoc, isAbsolute_append (fun e => hq (congrArg Path.mk e))]

/-- The text of a parent opens the path's. -/
theorem parent_opens {p q : Path} (h : p.parent = some q) : q.octets <+: p.octets := by
  rw [octets_opening p]
  unfold parent at h
  generalize p.opening = o at h ⊢
  obtain ⟨head, parts⟩ := o
  simp only at h ⊢
  rcases parts_cases parts with ⟨hd, _⟩ | ⟨mid, last, muted, hd, hparts, _, _, _⟩
  · rw [hd] at h
    simp only at h
    split at h
    · obtain rfl := Option.some.inj h
      exact List.nil_prefix
    · cases h
  · obtain ⟨part, more, hsaid⟩ := List.exists_cons_of_ne_nil hd
    obtain ⟨rest, hrest⟩ := joinWith_append separator (dropMuteEnd (dropMuteEnd parts).dropLast) (mid ++ last :: muted)
    rw [← hparts] at hrest
    rw [hsaid] at h hrest
    obtain rfl := Option.some.inj h
    exact ⟨rest, by rw [hrest, List.append_assoc]⟩

theorem lineage_of_parent {p q : Path} (h : p.parent = some q) (hne : q ≠ ⟨[]⟩) : p.lineage = p :: q.lineage := by
  rw [lineage_eq, h]
  simp only
  rw [if_neg]
  intro he
  exact hne (congrArg Path.mk (List.isEmpty_iff.mp he))

/-- What stands in a lineage is the path, or stands in its parent's. -/
theorem mem_lineage_cases {p q : Path} (h : q ∈ p.lineage) :
    q = p ∨ ∃ r, p.parent = some r ∧ r ≠ ⟨[]⟩ ∧ q ∈ r.lineage := by
  rw [lineage_eq] at h
  rcases List.mem_cons.mp h with rfl | h
  · exact .inl rfl
  · split at h
    · rename_i r hr
      split at h
      · cases h
      · rename_i hempty
        exact .inr ⟨r, hr, fun e => hempty (by rw [e]; rfl), h⟩
    · cases h

/-- What stands in a lineage opens the path. -/
theorem steps_of_mem_lineage {p q : Path} (h : q ∈ p.lineage) :
    (∃ after, steps p = steps q ++ after) ∧ q.isAbsolute = p.isAbsolute := by
  generalize hn : p.octets.length = n
  induction n using Nat.strongRecOn generalizing p with
  | ind n ih =>
    rcases mem_lineage_cases h with rfl | ⟨r, hr, hne, h⟩
    · exact ⟨⟨[], (List.append_nil _).symm⟩, rfl⟩
    · obtain ⟨⟨after, ha⟩, habs⟩ := ih _ (hn ▸ parent_shorter hne hr) h rfl
      rcases parent_cases p with ⟨hnone, _⟩ | ⟨r', before, s, rest, hr', hs, _, _, _, habs'⟩
      · exact absurd (hnone r hr) hne
      · obtain rfl := Option.some.inj (hr.symm.trans hr')
        refine ⟨⟨after ++ (before ++ s :: rest), ?_⟩, habs.trans (habs' hne)⟩
        rw [hs, ha]
        simp only [List.append_assoc]

/-- Something stands behind a path above the path. -/
theorem steps_behind {p q r : Path} (hr : p.parent = some r) (hne : r ≠ ⟨[]⟩) (h : q ∈ r.lineage) :
    ∃ s rest, steps p = steps q ++ s :: rest := by
  obtain ⟨⟨after, ha⟩, _⟩ := steps_of_mem_lineage h
  rcases parent_cases p with ⟨hnone, _⟩ | ⟨r', before, s, rest, hr', hs, _, _, _, _⟩
  · exact absurd (hnone r hr) hne
  · obtain rfl := Option.some.inj (hr.symm.trans hr')
    obtain ⟨x, xs, hx⟩ := List.exists_cons_of_ne_nil (show after ++ before ++ s :: rest ≠ [] by simp)
    refine ⟨x, xs, ?_⟩
    rw [← hx, hs, ha]
    simp only [List.append_assoc]

end Volume

end BuildHarvest
