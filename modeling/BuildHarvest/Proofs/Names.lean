/-
  BuildHarvest.Proofs.Names — texts as octets, and names that are one step of a path.

  Proved:
  - `takeFrom_encodeChar`: the octets of a character are read back as that character, whatever
    stands behind them; so different texts have different octets (`encode_injective`).
  - `isName_of_sound`: an entry that a manifest takes is one step down from any directory.
-/

import BuildHarvest.Manifest

namespace BuildHarvest

/-! ## Octets tell texts apart -/

namespace Utf8

theorem toNat_toUInt8 {n : Nat} (h : n < 256) : n.toUInt8.toNat = n := by
  simp only [Nat.toUInt8_eq, UInt8.toNat_ofNat']
  omega

theorem takeFrom_lead {b : UInt8} {p : Phase} {rest : Bytes} (hb : ¬ b < 0x80) (hp : lead b = some p) :
    takeFrom .idle (b :: rest) = takeFrom p rest := by
  simp [takeFrom, Phase.feed, fresh, hb, hp]

theorem takeFrom_last {low high b : UInt8} {value : Nat} {rest : Bytes} (hl : low ≤ b) (hh : b ≤ high) :
    takeFrom (.within 0 low high value) (b :: rest)
      = some (Char.ofNat (value * 64 + (b.toNat - 0x80)), rest) := by
  simp [takeFrom, Phase.feed, hl, hh]

theorem takeFrom_more {more : Nat} {low high b : UInt8} {value : Nat} {rest : Bytes} (hl : low ≤ b) (hh : b ≤ high) :
    takeFrom (.within (more + 1) low high value) (b :: rest)
      = takeFrom (.within more 0x80 0xBF (value * 64 + (b.toNat - 0x80))) rest := by
  simp [takeFrom, Phase.feed, hl, hh]

/-- `lead` by the octet's number. -/
theorem lead_eq (b : UInt8) : lead b =
    if b.toNat < 0xC2 then none
    else if b.toNat < 0xE0 then some (.within 0 0x80 0xBF (b.toNat - 0xC0))
    else if b.toNat < 0xF0 then
      some (.within 1 (if b.toNat = 0xE0 then 0xA0 else 0x80) (if b.toNat = 0xED then 0x9F else 0xBF)
        (b.toNat - 0xE0))
    else if b.toNat < 0xF5 then
      some (.within 2 (if b.toNat = 0xF0 then 0x90 else 0x80) (if b.toNat = 0xF4 then 0x8F else 0xBF)
        (b.toNat - 0xF0))
    else none := by
  simp only [lead, UInt8.lt_iff_toNat_lt, ← UInt8.toNat_inj]
  rfl

/-- An octet that continues a character, and what it adds. -/
theorem continuation (k : Nat) : 0x80 ≤ (0x80 + k % 64).toUInt8 ∧ (0x80 + k % 64).toUInt8 ≤ 0xBF ∧
    (0x80 + k % 64).toUInt8.toNat - 0x80 = k % 64 := by
  rw [UInt8.le_iff_toNat_le, UInt8.le_iff_toNat_le, toNat_toUInt8 (by omega)]
  exact ⟨show 128 ≤ _ by omega, show _ ≤ 191 by omega, by omega⟩

/-! A character by the number of octets that it takes. -/

section Octets

variable {n : Nat} (rest : Bytes)

theorem takeFrom_one (h : n < 0x80) : takeFrom .idle (n.toUInt8 :: rest) = some (Char.ofNat n, rest) := by
  have hb := toNat_toUInt8 (n := n) (by omega)
  have hlow : n.toUInt8 < 0x80 := by rw [UInt8.lt_iff_toNat_lt, hb]; exact h
  simp [takeFrom, Phase.feed, fresh, hlow, hb]

theorem takeFrom_two (h : n < 0x800) (hl : 0x80 ≤ n) :
    takeFrom .idle ((0xC0 + n / 64).toUInt8 :: (0x80 + n % 64).toUInt8 :: rest) = some (Char.ofNat n, rest) := by
  obtain ⟨l0, h0, v0⟩ := continuation n
  have hb := toNat_toUInt8 (n := 0xC0 + n / 64) (by omega)
  have hlead : lead (0xC0 + n / 64).toUInt8 = some (.within 0 0x80 0xBF (n / 64)) := by
    rw [lead_eq, hb, if_neg (by omega), if_pos (by omega), Nat.add_sub_cancel_left]
  have hn : n / 64 * 64 + n % 64 = n := by omega
  rw [takeFrom_lead (by rw [UInt8.lt_iff_toNat_lt, hb]; show ¬ _ < 128; omega) hlead, takeFrom_last l0 h0, v0, hn]

theorem takeFrom_three (h : n < 0x10000) (hl : 0x800 ≤ n) (hs : ¬ (0xD800 ≤ n ∧ n < 0xE000)) :
    takeFrom .idle ((0xE0 + n / 4096).toUInt8 :: (0x80 + n / 64 % 64).toUInt8 :: (0x80 + n % 64).toUInt8 :: rest)
      = some (Char.ofNat n, rest) := by
  obtain ⟨l0, h0, v0⟩ := continuation n
  obtain ⟨_, _, v1⟩ := continuation (n / 64)
  have hb := toNat_toUInt8 (n := 0xE0 + n / 4096) (by omega)
  -- the second octet is bounded more tightly behind some leads
  have hlead : ∃ low high, lead (0xE0 + n / 4096).toUInt8 = some (.within 1 low high (n / 4096)) ∧
      low ≤ (0x80 + n / 64 % 64).toUInt8 ∧ (0x80 + n / 64 % 64).toUInt8 ≤ high := by
    rw [lead_eq, hb, if_neg (by omega), if_neg (by omega), if_pos (by omega), Nat.add_sub_cancel_left]
    refine ⟨_, _, rfl, ?_, ?_⟩ <;> rw [UInt8.le_iff_toNat_le, toNat_toUInt8 (by omega)] <;> split
    · show 160 ≤ _; omega
    · show 128 ≤ _; omega
    · show _ ≤ 159; omega
    · show _ ≤ 191; omega
  obtain ⟨low, high, hlead, hlow, hhigh⟩ := hlead
  have hn : (n / 4096 * 64 + n / 64 % 64) * 64 + n % 64 = n := by omega
  rw [takeFrom_lead (by rw [UInt8.lt_iff_toNat_lt, hb]; show ¬ _ < 128; omega) hlead, takeFrom_more hlow hhigh, v1,
    takeFrom_last l0 h0, v0, hn]

theorem takeFrom_four (h : n < 0x110000) (hl : 0x10000 ≤ n) :
    takeFrom .idle ((0xF0 + n / 262144).toUInt8 :: (0x80 + n / 4096 % 64).toUInt8 :: (0x80 + n / 64 % 64).toUInt8 ::
      (0x80 + n % 64).toUInt8 :: rest) = some (Char.ofNat n, rest) := by
  obtain ⟨l0, h0, v0⟩ := continuation n
  obtain ⟨l1, h1, v1⟩ := continuation (n / 64)
  obtain ⟨_, _, v2⟩ := continuation (n / 4096)
  have hb := toNat_toUInt8 (n := 0xF0 + n / 262144) (by omega)
  have hlead : ∃ low high, lead (0xF0 + n / 262144).toUInt8 = some (.within 2 low high (n / 262144)) ∧
      low ≤ (0x80 + n / 4096 % 64).toUInt8 ∧ (0x80 + n / 4096 % 64).toUInt8 ≤ high := by
    rw [lead_eq, hb, if_neg (by omega), if_neg (by omega), if_neg (by omega), if_pos (by omega),
      Nat.add_sub_cancel_left]
    refine ⟨_, _, rfl, ?_, ?_⟩ <;> rw [UInt8.le_iff_toNat_le, toNat_toUInt8 (by omega)] <;> split
    · show 144 ≤ _; omega
    · show 128 ≤ _; omega
    · show _ ≤ 143; omega
    · show _ ≤ 191; omega
  obtain ⟨low, high, hlead, hlow, hhigh⟩ := hlead
  have hn : ((n / 262144 * 64 + n / 4096 % 64) * 64 + n / 64 % 64) * 64 + n % 64 = n := by omega
  rw [takeFrom_lead (by rw [UInt8.lt_iff_toNat_lt, hb]; show ¬ _ < 128; omega) hlead, takeFrom_more hlow hhigh, v2,
    takeFrom_more l1 h1, v1, takeFrom_last l0 h0, v0, hn]

end Octets

theorem takeFrom_encodeChar (c : Char) (rest : Bytes) :
    takeFrom .idle (encodeChar c ++ rest) = some (c, rest) := by
  have hc : c.toNat.isValidChar := c.valid
  have hn : c.toNat < 0x110000 ∧ ¬ (0xD800 ≤ c.toNat ∧ c.toNat < 0xE000) := by
    rcases hc with h | ⟨h1, h2⟩ <;> omega
  have back : some (Char.ofNat c.toNat, rest) = some (c, rest) := by rw [Char.ofNat_toNat]
  rw [← back]
  unfold encodeChar
  by_cases one : c.toNat < 0x80
  · simp only [if_pos one]
    exact takeFrom_one rest one
  by_cases two : c.toNat < 0x800
  · simp only [if_neg one, if_pos two]
    exact takeFrom_two rest two (by omega)
  by_cases three : c.toNat < 0x10000
  · simp only [if_neg one, if_neg two, if_pos three]
    exact takeFrom_three rest three (by omega) hn.2
  · simp only [if_neg one, if_neg two, if_neg three]
    exact takeFrom_four rest hn.1 (by omega)

theorem takeFrom_encodeChars (c : Char) (cs : List Char) :
    takeFrom .idle (encodeChars (c :: cs)) = some (c, encodeChars cs) := takeFrom_encodeChar c _

theorem encodeChars_injective {cs ds : List Char} (h : encodeChars cs = encodeChars ds) : cs = ds := by
  induction cs generalizing ds with
  | nil =>
    cases ds with
    | nil => rfl
    | cons d ds =>
      have := takeFrom_encodeChars d ds
      rw [← h] at this
      cases this
  | cons c cs ih =>
    have hc := takeFrom_encodeChars c cs
    cases ds with
    | nil =>
      rw [h] at hc
      cases hc
    | cons d ds =>
      rw [h, takeFrom_encodeChars, Option.some.injEq, Prod.mk.injEq] at hc
      rw [hc.1, ih hc.2.symm]

theorem encode_injective {s t : String} (h : encode s = encode t) : s = t :=
  String.toList_inj.1 (encodeChars_injective h)

/-- A character beyond 127 has no octet below 128. -/
theorem encodeChar_high {c : Char} (h : 0x80 ≤ c.toNat) : ∀ b ∈ encodeChar c, 0x80 ≤ b.toNat := by
  have hc : c.toNat.isValidChar := c.valid
  have hn : c.toNat < 0x110000 := by rcases hc with h | ⟨h1, h2⟩ <;> omega
  have big (k : Nat) (hk : k < 256) (hl : 0x80 ≤ k) : 0x80 ≤ k.toUInt8.toNat := by rwa [toNat_toUInt8 hk]
  unfold encodeChar
  simp only [if_neg (Nat.not_lt.mpr h)]
  repeat' split
  all_goals simp only [List.forall_mem_cons, List.not_mem_nil, false_implies, implies_true, and_true]
  · exact ⟨big _ (by omega) (by omega), big _ (by omega) (by omega)⟩
  · exact ⟨big _ (by omega) (by omega), big _ (by omega) (by omega), big _ (by omega) (by omega)⟩
  · exact ⟨big _ (by omega) (by omega), big _ (by omega) (by omega), big _ (by omega) (by omega),
      big _ (by omega) (by omega)⟩

/-- An octet below 128 stands for the character of its number. -/
theorem ofNat_mem_of_mem_encode {s : String} {b : UInt8} (hb : b.toNat < 0x80) (h : b ∈ encode s) :
    Char.ofNat b.toNat ∈ s.toList := by
  obtain ⟨c, hc, hbc⟩ := List.mem_flatMap.mp h
  by_cases hl : c.toNat < 0x80
  · have : b = c.toNat.toUInt8 := by simpa [encodeChar, hl] using hbc
    rw [this, toNat_toUInt8 (by omega), Char.ofNat_toNat]
    exact hc
  · have := encodeChar_high (by omega) b hbc
    omega

end Utf8

/-! ## Names -/

namespace Path

/-- Octets that are one step down from a directory. -/
def IsName (n : Bytes) : Prop := n ≠ [] ∧ n ≠ [dot] ∧ n ≠ [dot, dot] ∧ separator ∉ n

instance (n : Bytes) : Decidable (IsName n) := inferInstanceAs (Decidable (_ ∧ _))

end Path

/-- What a text that names a file is not. -/
theorem Manifest.of_sound {e : String} (h : fault? e = none) :
    e.toList ≠ [] ∧ ¬ (e.toList = ['.'] ∨ e.toList = ['.', '.']) ∧ ¬ ('/' ∈ e.toList ∨ '\\' ∈ e.toList) := by
  unfold fault? at h
  by_cases hne : e.toList = []
  · rw [if_pos hne] at h; cases h
  by_cases hdots : e.toList = ['.'] ∨ e.toList = ['.', '.']
  · rw [if_neg hne, if_pos hdots] at h; cases h
  by_cases hsep : '/' ∈ e.toList ∨ '\\' ∈ e.toList
  · rw [if_neg hne, if_neg hdots, if_pos hsep] at h; cases h
  exact ⟨hne, hdots, hsep⟩

theorem Manifest.isName_of_sound {e : String} (h : fault? e = none) : Path.IsName (Utf8.encode e) := by
  obtain ⟨hne, hdots, hsep⟩ := Manifest.of_sound h
  have chars {cs : List Char} (he : Utf8.encode e = Utf8.encodeChars cs) : e.toList = cs :=
    Utf8.encodeChars_injective he
  refine ⟨fun he => hne (chars he), fun he => hdots (.inl (chars he)), fun he => hdots (.inr (chars he)), fun he => hsep (.inl ?_)⟩
  exact Utf8.ofNat_mem_of_mem_encode (by decide) he

end BuildHarvest
