/-
  BuildHarvest.Url.Punycode — a host label of any characters in letters and digits.

  The plain characters come first; the others follow in order of size, each as the distance
  from the one before, in digits of base thirty-six whose thresholds adapt to the distances
  seen. Distances below 2^32 are read; a character past U+10FFFF or a surrogate is refused.
-/

import BuildHarvest.Word

namespace BuildHarvest.Url.Punycode

def digitChar (d : Nat) : Char :=
  if d < 26 then Char.ofNat (97 + d) else Char.ofNat (22 + d)

def digitValue? (c : Char) : Option Nat :=
  if 'a' ≤ c ∧ c ≤ 'z' then some (c.toNat - 97)
  else if 'A' ≤ c ∧ c ≤ 'Z' then some (c.toNat - 65)
  else if '0' ≤ c ∧ c ≤ '9' then some (c.toNat - 22)
  else none

/-- Below the threshold a digit ends its number. -/
def threshold (place bias : Nat) : Nat :=
  if place ≤ bias + 1 then 1 else if bias + 26 ≤ place then 26 else place - bias

theorem threshold_bounds (place bias : Nat) :
    1 ≤ threshold place bias ∧ threshold place bias ≤ 26 := by
  unfold threshold
  split
  · omega
  · split <;> omega

def settle (delta places : Nat) : Nat :=
  if h : 455 < delta then settle (delta / 35) (places + 36)
  else places + 36 * delta / (delta + 38)
  termination_by delta
  decreasing_by omega

/-- The bias after a distance, for `count` characters placed so far. -/
def adapt (delta count : Nat) (first : Bool) : Nat :=
  let delta := if first then delta / 700 else delta / 2
  settle (delta + delta / count) 0

/-! ## Writing -/

/-- The digits of a distance. -/
def digits (bias place q : Nat) : List Char :=
  let t := threshold place bias
  if h : q < t then [digitChar q]
  else digitChar (t + (q - t) % (36 - t)) :: digits bias (place + 36) ((q - t) / (36 - t))
  termination_by q
  decreasing_by
    have b := threshold_bounds place bias
    have h1 : (q - t) / (36 - t) ≤ q - t := Nat.div_le_self _ _
    show (q - t) / (36 - t) < q
    omega

/-- Progress of writing: the distance not yet written, the bias, how many characters are
placed, and what is written (pieces last first). -/
structure Writing where
  delta : Nat
  bias : Nat
  placed : Nat
  out : List (List Char)

/-- One character of the label while those of value `n` are placed. -/
def Writing.visit (basic n : Nat) (s : Writing) (c : Char) : Writing :=
  if c.toNat < n then { s with delta := s.delta + 1 }
  else if c.toNat = n then
    ⟨0, adapt s.delta (s.placed + 1) (s.placed == basic), s.placed + 1,
      digits s.bias 36 s.delta :: s.out⟩
  else s

/-- Places the characters of value `n`, the values below `seen` being done. -/
def Writing.level (label : List Char) (basic : Nat) (s : Writing × Nat) (n : Nat) :
    Writing × Nat :=
  let start := { s.1 with delta := s.1.delta + (n - s.2) * (s.1.placed + 1) }
  let done := label.foldl (Writing.visit basic n) start
  ({ done with delta := done.delta + 1 }, n + 1)

def encode (label : List Char) : List Char :=
  let plain := label.filter (·.toNat < 0x80)
  let values := ((label.filter (0x80 ≤ ·.toNat)).map (·.toNat)).eraseDups.mergeSort (· ≤ ·)
  let start : Writing := ⟨0, 72, plain.length, []⟩
  let done := (values.foldl (Writing.level label plain.length) (start, 0x80)).1
  plain ++ (if plain.isEmpty then [] else ['-']) ++ done.out.reverse.flatten

/-! ## Reading -/

/-- Progress of reading: the characters so far, the value and place last used, the bias, and
the number being read with its weight and digit place. -/
structure Reading where
  label : List Char
  value : Nat
  place : Nat
  bias : Nat
  index : Nat
  weight : Nat
  digit : Nat

def charOfValue? (n : Nat) : Option Char :=
  if h : n.isValidChar then some ⟨n.toUInt32, by
    have : n.toUInt32.toNat = n := by
      simp only [Nat.toUInt32_eq, UInt32.toNat_ofNat']
      rcases h with h | h <;> omega
    unfold UInt32.isValidChar
    rw [this]
    exact h⟩
  else none

/-- Between two characters no digit is open. -/
def Reading.isClosed (s : Reading) : Bool := s.digit == 36

def Reading.feed (s : Reading) (c : Char) : Option Reading :=
  (digitValue? c).bind fun d =>
    let index := s.index + d * s.weight
    let t := threshold s.digit s.bias
    if Word.values 32 ≤ index then none
    else if d < t then
      let count := s.label.length + 1
      let value := s.value + index / count
      let place := index % count
      (charOfValue? value).map fun ch =>
        ⟨s.label.take place ++ ch :: s.label.drop place, value, place + 1,
          adapt (index - s.place) count (s.place == 0), place + 1, 1, 36⟩
    else some { s with index := index, weight := s.weight * (36 - t), digit := s.digit + 36 }

/-- The label that `encode` writes so. -/
def decode? (cs : List Char) : Option (List Char) :=
  let tail := (cs.reverse.takeWhile (· ≠ '-')).reverse
  let head := cs.take (cs.length - tail.length - 1)
  let (plain, tail) := if head.isEmpty then ([], cs) else (head, tail)
  if plain.any (0x80 ≤ ·.toNat) then none
  else
    let start : Reading := ⟨plain, 0x80, 0, 72, 0, 1, 36⟩
    (tail.foldl (fun s c => s.bind (·.feed c)) (some start)).bind fun s =>
      if s.isClosed then some s.label else none

end BuildHarvest.Url.Punycode
