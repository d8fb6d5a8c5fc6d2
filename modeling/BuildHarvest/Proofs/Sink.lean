/-
  BuildHarvest.Proofs.Sink — what a file holds that is written through a buffer.

  Of what a sink has been given, a beginning has been passed on and is in the file as far as there
  is room; the rest waits (`Stands`). Each operation keeps that or is refused for want of room, and
  then the file is full (`Comes`).

  Proved:
  - `comes_writeAll`: so it is for one piece, however long it is.
  - `flush_eq`: after a flush the file holds all that was given, as far as there is room for it.
-/

import BuildHarvest.Proofs.Volume
import BuildHarvest.Sink

namespace BuildHarvest

/-! ## Room -/

namespace Volume

variable {room : Option Nat} {as : Bytes} {e : Errno}

theorem overflow?_eq_some {octets : Bytes} :
    overflow? room octets = some e ↔ e = .noRoom ∧ ∃ n, room = some n ∧ n < octets.length := by
  cases room with
  | none => simp [overflow?]
  | some n =>
    simp only [overflow?, Option.ite_none_right_eq_some, Option.some.injEq, exists_eq_left']
    exact ⟨fun ⟨h, he⟩ => ⟨he.symm, h⟩, fun ⟨he, h⟩ => ⟨h, he.symm⟩⟩

theorem fitting_eq_self (h : overflow? room as = none) : fitting room as = as := by
  cases room with
  | none => rfl
  | some n =>
    simp only [overflow?, ite_eq_right_iff, reduceCtorEq, imp_false, Nat.not_lt] at h
    exact List.take_of_length_le h

@[simp]
theorem fitting_nil : fitting room [] = [] := by
  cases room with
  | none => rfl
  | some n => exact List.take_nil

/-- Behind a file that is full nothing more is stored. -/
theorem full_append (h : overflow? room as = some e) (bs : Bytes) :
    overflow? room (as ++ bs) = some e ∧ fitting room (as ++ bs) = fitting room as := by
  obtain ⟨rfl, n, rfl, hn⟩ := overflow?_eq_some.mp h
  refine ⟨overflow?_eq_some.mpr ⟨rfl, n, rfl, ?_⟩, List.take_append_of_le_length (Nat.le_of_lt hn)⟩
  rw [List.length_append]
  omega

theorem contentsAt_fill (v : Volume) {l : Loc} (hl : l ≠ []) (contents : Bytes) : (v.fill l contents).contentsAt l = contents := by
  rw [contentsAt, fill, Tree.get?_put _ _ _ hl, if_pos rfl]

theorem fill_fill (v : Volume) (l : Loc) (a b : Bytes) : (v.fill l a).fill l b = v.fill l b := by
  rw [fill, fill, fill, Tree.put_put]

/-- An operation on a file that has been filled leaves the volume with the file filled anew. -/
theorem within_fill {α : Type} (v : Volume) {l : Loc} (hl : l ≠ []) (contents : Bytes) (op : Option Nat → Bytes → α × Bytes) :
    (v.fill l contents).within l op =
      ((op (v.tree.room? l) contents).1, v.fill l (op (v.tree.room? l) contents).2) := by
  simp only [within, contentsAt_fill v hl, fill_fill]
  rfl

end Volume

/-- A file that has just been created is one that is filled with nothing. -/
theorem Volume.fill_created {v u : Volume} {p : Path} {l : Loc} (h : v.create p = .ok (l, u)) :
    l ≠ [] ∧ u.fill l [] = u ∧ u.tree.room? l = v.tree.room? l := by
  refine ⟨(puts_of_create h []).ne_nil, ?_, ?_⟩ <;> obtain ⟨_, _, rfl⟩ := create_ok h
  · exact fill_fill v l [] []
  · rfl

/-- A file that is written at once holds as much as there is room for. -/
theorem Volume.save_eq (v : Volume) (p : Path) (octets : Bytes) : v.save p octets =
    match v.create p with
    | .error e => (.error e, v)
    | .ok (l, u) => ((overflow? (v.tree.room? l) octets).elim (.ok ()) .error, u.fill l (fitting (v.tree.room? l) octets)) := by
  unfold save
  rcases hc : v.create p with e | ⟨l, u⟩
  · rfl
  · obtain ⟨hl, hu, hroom⟩ := fill_created hc
    have hwithin := within_fill u hl [] fun room contents =>
      ((append room contents octets).1.elim (Except.ok ()) Except.error, (append room contents octets).2)
    rwa [hu, hroom] at hwithin

theorem Volume.adds_save (v : Volume) (p : Path) (octets : Bytes) : v.Adds (v.save p octets).2 := by
  rw [save_eq]
  rcases hc : v.create p with e | ⟨l, u⟩
  · exact .refl v
  · exact (puts_of_create hc _).adds

namespace Sink

open Volume (fitting overflow? overflow?_eq_some fitting_eq_self full_append)

variable {room : Option Nat} {given contents octets : Bytes} {s s' : Sink} {place : Loc}

/-! ## Where a sink stands -/

/-- Of what was given, a beginning has been passed on and the rest waits; the file holds as much of
that beginning as there is room for, and what there was no room for is still to be told. -/
def Stands (room : Option Nat) (given : Bytes) (s : Sink) (contents : Bytes) : Prop :=
  ∃ passed, given = passed ++ s.held ∧ contents = fitting room passed ∧ s.refusal = overflow? room passed ∧
    s.held.length ≤ bufferSize

/-- What an operation comes to that is given octets: the sink stands with them, or the file is full. -/
inductive Comes (room : Option Nat) (place : Loc) (given : Bytes) : Except Errno Sink × Bytes → Prop where
  | taken {s : Sink} {contents : Bytes} (hplace : s.place = place) (h : Stands room given s contents) :
      Comes room place given (.ok s, contents)
  | refused {e : Errno} (h : overflow? room given = some e) : Comes room place given (.error e, fitting room given)

/-- A refusal stays one, whatever else is given. -/
theorem Comes.behind {e : Errno} (h : Comes room place given (.error e, contents)) (more : Bytes) :
    Comes room place (given ++ more) (.error e, contents) := by
  cases h with
  | refused hfull =>
    obtain ⟨hmore, hsame⟩ := full_append hfull more
    rw [← hsame]
    exact .refused hmore

theorem stands_new (room : Option Nat) (place : Loc) : Stands room [] ⟨place, [], none⟩ [] := by
  refine ⟨[], rfl, Volume.fitting_nil.symm, ?_, Nat.zero_le _⟩
  cases room <;> rfl

/-! ## Its operations -/

theorem create_eq (v : Volume) (p : Path) : create v p = (v.create p).map fun (l, u) => (⟨l, [], none⟩, u) := by
  unfold create
  cases v.create p <;> rfl

theorem pass_held {c : Bytes} (h : s.pass octets room contents = (.ok s', c)) : s'.held = s.held := by
  unfold pass at h
  split at h
  · cases (Prod.mk.inj h).1
  · obtain rfl := Except.ok.inj (Prod.mk.inj h).1
    rfl

/-- While nothing waits, what is passed on stands behind all that was given. -/
theorem comes_pass (h : Stands room given s contents) (hheld : s.held = []) (octets : Bytes) :
    Comes room s.place (given ++ octets) (s.pass octets room contents) := by
  obtain ⟨passed, hgiven, rfl, hrefusal, _⟩ := h
  rw [hheld, List.append_nil] at hgiven
  subst hgiven
  unfold pass
  rw [hrefusal]
  cases hfull : overflow? room given with
  | some e =>
    obtain ⟨hmore, hsame⟩ := full_append hfull octets
    simp only
    rw [← hsame]
    exact .refused hmore
  | none =>
    simp only [Volume.append, fitting_eq_self hfull]
    exact .taken rfl ⟨given ++ octets, by simp [hheld], rfl, rfl, by simp [hheld]⟩

theorem drain_held {c : Bytes} (h : s.drain room contents = (.ok s', c)) : s'.held = [] := by
  unfold drain at h
  split at h
  · rename_i hheld
    obtain rfl := Except.ok.inj (Prod.mk.inj h).1
    exact hheld
  · exact pass_held h

theorem comes_drain (h : Stands room given s contents) : Comes room s.place given (s.drain room contents) := by
  unfold drain
  split
  · exact .taken rfl h
  · obtain ⟨passed, rfl, hcontents, hrefusal, _⟩ := h
    have hempty : Stands room passed { s with held := [] } contents :=
      ⟨passed, (List.append_nil passed).symm, hcontents, hrefusal, Nat.zero_le _⟩
    exact comes_pass hempty rfl s.held

/-- Octets that fit behind what waits are kept; a buffer's length of them goes past an empty buffer. -/
theorem comes_take (h : Stands room given s contents) {octets : Bytes}
    (hroom : s.held.length + octets.length ≤ bufferSize ∨ s.held = []) : Comes room s.place (given ++ octets.take gulp)
      (if octets.length < bufferSize then (.ok { s with held := s.held ++ octets }, contents)
        else s.pass (octets.take gulp) room contents) := by
  by_cases hlen : octets.length < bufferSize
  · have hall : octets.take gulp = octets := List.take_of_length_le (by unfold gulp; unfold bufferSize at hlen; omega)
    rw [if_pos hlen, hall]
    obtain ⟨passed, rfl, hcontents, hrefusal, _⟩ := h
    refine .taken rfl ⟨passed, List.append_assoc _ _ _, hcontents, hrefusal, ?_⟩
    rw [List.length_append]
    rcases hroom with hroom | hheld
    · exact hroom
    · rw [hheld, List.length_nil]
      omega
  · rw [if_neg hlen]
    refine comes_pass h ?_ _
    rcases hroom with hroom | hheld
    · exact List.length_eq_zero_iff.mp (by omega)
    · exact hheld

/-- One write takes a gulp: what waits is passed on before it where it would not fit behind it. -/
theorem comes_write (h : Stands room given s contents) (octets : Bytes) :
    Comes room s.place (given ++ octets.take gulp) (s.write octets room contents) := by
  unfold write
  by_cases hover : bufferSize < s.held.length + octets.length
  · rw [if_pos hover]
    have hdrain := comes_drain h
    rcases hd : s.drain room contents with ⟨e | s', c⟩ <;> rw [hd] at hdrain
    · exact hdrain.behind (octets.take gulp)
    · cases hdrain with
      | taken hplace h' =>
        rw [← hplace]
        exact comes_take h' (.inr (drain_held hd))
  · rw [if_neg hover]
    exact comes_take h (.inl (Nat.not_lt.mp hover))

/-- A piece is written gulp by gulp, up to the first refusal. -/
theorem comes_writeAll (h : Stands room given s contents) (octets : Bytes) :
    Comes room s.place (given ++ octets) (s.writeAll octets room contents) := by
  generalize hn : octets.length = n
  induction n using Nat.strongRecOn generalizing given s contents octets with
  | ind n ih =>
    unfold writeAll
    by_cases hnil : octets = []
    · rw [if_pos hnil, hnil, List.append_nil]
      exact .taken rfl h
    · rw [if_neg hnil]
      have hshorter : (octets.drop gulp).length < n := by
        have := List.length_pos_iff.mpr hnil
        rw [List.length_drop, gulp]
        omega
      have hall : given ++ octets = given ++ octets.take gulp ++ octets.drop gulp := by
        rw [List.append_assoc, List.take_append_drop]
      have hwrite := comes_write h octets
      rcases hw : s.write octets room contents with ⟨e | s', c⟩ <;> rw [hw] at hwrite
      · rw [hall]
        exact hwrite.behind (octets.drop gulp)
      · cases hwrite with
        | taken hplace h' =>
          rw [hall, ← hplace]
          exact ih _ hshorter h' _ rfl

/-- After a flush all is in the file, as far as there is room. -/
theorem flush_eq (h : Stands room given s contents) :
    s.flush room contents = ((overflow? room given).elim (.ok ()) .error, fitting room given) := by
  have hdrain := comes_drain h
  unfold flush
  rcases hd : s.drain room contents with ⟨e | s', c⟩ <;> rw [hd] at hdrain
  · cases hdrain with
    | refused hfull => simp only [hfull, Option.elim]
  · cases hdrain with
    | taken _ h' =>
      obtain ⟨passed, hgiven, rfl, hrefusal, _⟩ := h'
      rw [drain_held hd, List.append_nil] at hgiven
      subst hgiven
      simp only [hrefusal]

end Sink

end BuildHarvest
