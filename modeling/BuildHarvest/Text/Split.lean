/-
  BuildHarvest.Text.Split — cutting a list at a separator, and hexadecimal digits.

  `splitOn` has one piece more than the list has separators, and `joinWith` puts it together
  again.
-/

namespace BuildHarvest

/-- The stretches between the occurrences of `sep`, empty ones included. -/
def splitOn {α : Type} [DecidableEq α] (sep : α) (xs : List α) : List (List α) :=
  xs.foldr (fun x pieces =>
    if x = sep then [] :: pieces
    else match pieces with
      | [] => [[x]]
      | piece :: rest => (x :: piece) :: rest) [[]]

def joinWith {α : Type} (sep : α) : List (List α) → List α
  | [] => []
  | [piece] => piece
  | piece :: rest => piece ++ sep :: joinWith sep rest

theorem splitOn_ne_nil {α : Type} [DecidableEq α] (sep : α) (xs : List α) :
    splitOn sep xs ≠ [] := by
  cases xs with
  | nil => simp [splitOn]
  | cons x xs =>
    simp only [splitOn, List.foldr_cons]
    split
    · simp
    · split <;> simp

theorem joinWith_splitOn {α : Type} [DecidableEq α] (sep : α) (xs : List α) :
    joinWith sep (splitOn sep xs) = xs := by
  induction xs with
  | nil => rfl
  | cons x xs ih =>
    have h := splitOn_ne_nil sep xs
    simp only [splitOn, List.foldr_cons] at *
    split
    · next e =>
      subst e
      cases hs : xs.foldr _ [[]] with
      | nil => exact absurd hs h
      | cons p ps => rw [hs] at ih; simp [joinWith, ih]
    · split
      · next hs => exact absurd hs h
      · next p ps hs =>
        rw [hs] at ih
        cases ps with
        | nil => simpa [joinWith] using ih
        | cons q qs => simp [joinWith] at ih ⊢; exact ih

/-- The value of a hexadecimal digit. -/
def hexDigit? (c : Char) : Option Nat :=
  if '0' ≤ c ∧ c ≤ '9' then some (c.toNat - 48)
  else if 'a' ≤ c ∧ c ≤ 'f' then some (c.toNat - 87)
  else if 'A' ≤ c ∧ c ≤ 'F' then some (c.toNat - 55)
  else none

def decimalDigit? (c : Char) : Option Nat :=
  if '0' ≤ c ∧ c ≤ '9' then some (c.toNat - 48) else none

/-- The number that digits write in a base, where all of them are digits. -/
def digitsValue? (base : Nat) (digit? : Char → Option Nat) (cs : List Char) : Option Nat :=
  cs.foldl (fun n c => n.bind fun n => (digit? c).map (n * base + ·)) (some 0)

def hexValue (cs : List Char) : Nat := (digitsValue? 16 hexDigit? cs).getD 0

/-- The digits of a number below sixteen, small letters. -/
def hexChar (n : Nat) : Char := if n < 10 then Char.ofNat (48 + n) else Char.ofNat (87 + n)

def hexText (n : Nat) : String := String.ofList (Nat.toDigits 16 n)

end BuildHarvest
