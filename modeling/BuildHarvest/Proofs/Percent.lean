/-
  BuildHarvest.Proofs.Percent — escapes are read back.

  Proved:
  - `unescape_escape`: where `%` itself is escaped, the octets that an escaped text stands for are
    those of the text.
  - `not_mem_escape`: a character that is escaped stands nowhere in an escaped text, unless an
    escape is written with it.
-/

import BuildHarvest.Proofs.Names
import BuildHarvest.Url.Percent

namespace BuildHarvest.Url

/-! ## One octet -/

theorem hexDigit?_escapeDigit {n : Nat} (h : n < 16) : hexDigit? (escapeDigit n) = some n := by
  have all : ∀ m : Fin 16, hexDigit? (escapeDigit m.val) = some m.val := by decide
  exact all ⟨n, h⟩

theorem escaped?_escapeDigit (b : UInt8) :
    escaped? (escapeDigit (b.toNat / 16)) (escapeDigit (b.toNat % 16)) = some b := by
  have hb : b.toNat < 256 := b.toNat_lt
  have hvalue : b.toNat / 16 * 16 + b.toNat % 16 = b.toNat := by omega
  rw [escaped?, hexDigit?_escapeDigit (by omega), hexDigit?_escapeDigit (by omega)]
  simp only [hvalue, Nat.toUInt8_eq, UInt8.ofNat_toNat]

theorem unescape_escapeOctet (b : UInt8) (rest : List Char) : unescape (escapeOctet b ++ rest) = b :: unescape rest := by
  rw [escapeOctet, List.cons_append, List.cons_append, List.cons_append, List.nil_append, unescape]
  simp only [escaped?_escapeDigit]

theorem unescape_escapeOctets (bs : Bytes) (rest : List Char) :
    unescape (bs.flatMap escapeOctet ++ rest) = bs ++ unescape rest := by
  induction bs with
  | nil => rfl
  | cons b bs ih => rw [List.flatMap_cons, List.append_assoc, unescape_escapeOctet, ih, List.cons_append]

theorem unescape_cons {c : Char} (h : c ≠ '%') (rest : List Char) :
    unescape (c :: rest) = Utf8.encodeChar c ++ unescape rest := by
  rw [unescape]
  intro a b after hc
  exact absurd hc h

/-! ## Whole texts -/

section

variable {set : EscapeSet}

theorem unescape_escapeChar (hset : set '%' = true) (c : Char) (rest : List Char) :
    unescape (escapeChar set c ++ rest) = Utf8.encodeChar c ++ unescape rest := by
  unfold escapeChar
  by_cases hc : set c = true
  · rw [if_pos hc]
    exact unescape_escapeOctets _ _
  · rw [if_neg hc]
    refine unescape_cons ?_ rest
    rintro rfl
    exact hc hset

theorem unescape_escape (hset : set '%' = true) (cs : List Char) : unescape (escape set cs) = Utf8.encodeChars cs := by
  induction cs with
  | nil => rfl
  | cons c cs ih =>
    have happend : escape set (c :: cs) = escapeChar set c ++ escape set cs := List.flatMap_cons
    rw [happend, unescape_escapeChar hset, ih]
    rfl

theorem encodeChar_ne_nil (c : Char) : Utf8.encodeChar c ≠ [] := by
  intro h
  have := Utf8.takeFrom_encodeChar c []
  rw [h] at this
  cases this

theorem escape_eq_nil {cs : List Char} : escape set cs = [] ↔ cs = [] := by
  constructor
  · intro h
    cases cs with
    | nil => rfl
    | cons c cs =>
      exfalso
      have hc : escapeChar set c = [] := (List.append_eq_nil_iff.mp h).1
      unfold escapeChar at hc
      split at hc
      · obtain ⟨b, bs, hb⟩ := List.exists_cons_of_ne_nil (encodeChar_ne_nil c)
        rw [hb] at hc
        cases hc
      · cases hc
  · rintro rfl
    rfl

/-- A text of which nothing is escaped stays as it is. -/
theorem escape_eq_self {cs : List Char} (h : ∀ c ∈ cs, set c = false) : escape set cs = cs := by
  induction cs with
  | nil => rfl
  | cons c cs ih =>
    obtain ⟨hc, hcs⟩ := List.forall_mem_cons.mp h
    have happend : escape set (c :: cs) = escapeChar set c ++ escape set cs := List.flatMap_cons
    rw [happend, ih hcs, escapeChar, hc]
    rfl

/-- What escapes are written with. -/
def isEscapeSign (c : Char) : Bool := c == '%' || (List.range 16).any fun n => c == escapeDigit n

theorem isEscapeSign_of_mem {b : UInt8} {c : Char} (h : c ∈ escapeOctet b) : isEscapeSign c = true := by
  have digit {n : Nat} (hn : n < 16) : isEscapeSign (escapeDigit n) = true := by
    have : (List.range 16).any (fun m => escapeDigit n == escapeDigit m) = true :=
      List.any_eq_true.mpr ⟨n, List.mem_range.mpr hn, beq_self_eq_true _⟩
    rw [isEscapeSign, this, Bool.or_true]
  have hb : b.toNat < 256 := b.toNat_lt
  simp only [escapeOctet, List.mem_cons, List.not_mem_nil, or_false] at h
  rcases h with rfl | rfl | rfl
  · rfl
  · exact digit (by omega)
  · exact digit (by omega)

theorem not_mem_escape {c : Char} (hset : set c = true) (hsign : isEscapeSign c = false) (cs : List Char) :
    c ∉ escape set cs := by
  intro h
  obtain ⟨x, _, hx⟩ := List.mem_flatMap.mp h
  unfold escapeChar at hx
  split at hx
  · obtain ⟨b, _, hb⟩ := List.mem_flatMap.mp hx
    rw [isEscapeSign_of_mem hb] at hsign
    cases hsign
  · rename_i hno
    obtain rfl := List.mem_singleton.mp hx
    exact hno hset

end

end BuildHarvest.Url
