/-
  BuildHarvest.Proofs.Digest — a digest made piece by piece.

  Proved (`Hasher.Took.finish_eq`): whatever the pieces, a hasher that has taken them gives the digest of
  all their octets. What it has taken is whole blocks, which are mixed in, and a rest (`Took`).
-/

import BuildHarvest.Sha256

namespace BuildHarvest.Sha256

/-! ## Blocks -/

theorem blocks_append {m n : Nat} {as bs : Bytes} (h : as.length = 64 * m) :
    blocks (m + n) (as ++ bs) = blocks m as ++ blocks n bs := by
  induction m generalizing as with
  | zero =>
    obtain rfl := List.length_eq_zero_iff.mp h
    rw [Nat.zero_add]
    rfl
  | succ m ih =>
    have hlong : 64 ≤ as.length := by omega
    have hrest : (as.drop 64).length = 64 * m := by rw [List.length_drop]; omega
    rw [Nat.add_right_comm, blocks, blocks, List.take_append_of_le_length hlong, List.drop_append_of_le_length hlong,
      ih hrest, List.cons_append]

/-- Whole blocks mixed into a state, and what is left of the last one passed over. -/
def absorbAll (s : State) (bs : Bytes) : State := (blocks (bs.length / 64) bs).foldl absorb s

theorem digest_eq (bs : Bytes) : digest bs = (absorbAll initial (bs ++ padding bs.length)).octets := rfl

theorem absorbAll_append {as : Bytes} (h : 64 ∣ as.length) (s : State) (bs : Bytes) :
    absorbAll s (as ++ bs) = absorbAll (absorbAll s as) bs := by
  obtain ⟨m, hm⟩ := h
  have hcount : (as ++ bs).length / 64 = m + bs.length / 64 := by rw [List.length_append]; omega
  have hm' : as.length / 64 = m := by omega
  rw [absorbAll, hcount, blocks_append hm, List.foldl_append, absorbAll, absorbAll, hm']

/-! ## A hasher -/

namespace Hasher

/-- What a hasher has taken: the whole blocks of it are mixed in, and it holds the rest. -/
structure Took (given : Bytes) (h : Hasher) : Prop where
  split : ∃ whole, given = whole ++ h.rest ∧ 64 ∣ whole.length ∧ h.state = absorbAll initial whole
  size : h.size = given.length

theorem took_new : Took [] new := ⟨⟨[], rfl, ⟨0, rfl⟩, rfl⟩, rfl⟩

theorem Took.update {given : Bytes} {h : Hasher} (ht : Took given h) (piece : Bytes) :
    Took (given ++ piece) (h.update piece) := by
  obtain ⟨⟨whole, hgiven, hwhole, hstate⟩, hsize⟩ := ht
  refine ⟨?_, by simp only [Hasher.update, hsize, List.length_append]⟩
  -- the blocks that the piece completes
  generalize hbs : h.rest ++ piece = bs
  have hlen : (bs.take (64 * (bs.length / 64))).length = 64 * (bs.length / 64) := by rw [List.length_take]; omega
  refine ⟨whole ++ bs.take (64 * (bs.length / 64)), ?_, ?_, ?_⟩
  · rw [Hasher.update, hbs, List.append_assoc, List.take_append_drop, hgiven, List.append_assoc, hbs]
  · rw [List.length_append, hlen]
    exact Nat.dvd_add hwhole ⟨_, rfl⟩
  · have hblocks : blocks (bs.length / 64) bs = blocks (bs.length / 64) (bs.take (64 * (bs.length / 64))) := by
      have happ := @blocks_append (bs.length / 64) 0 (bs.take (64 * (bs.length / 64))) (bs.drop (64 * (bs.length / 64))) hlen
      rwa [List.take_append_drop, Nat.add_zero, blocks, List.append_nil] at happ
    have hcount : (bs.take (64 * (bs.length / 64))).length / 64 = bs.length / 64 := by rw [hlen]; omega
    rw [absorbAll_append hwhole, ← hstate, absorbAll, hcount, ← hblocks, Hasher.update, hbs]

theorem Took.finish_eq {given : Bytes} {h : Hasher} (ht : Took given h) : h.finish = digest given := by
  obtain ⟨⟨whole, rfl, hwhole, hstate⟩, hsize⟩ := ht
  rw [digest_eq, List.append_assoc, absorbAll_append hwhole, ← hstate, ← hsize, Hasher.finish, absorbAll]

end Hasher

end BuildHarvest.Sha256
