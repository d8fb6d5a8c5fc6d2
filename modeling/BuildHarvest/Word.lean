/-
  BuildHarvest.Word — whole numbers of a fixed number of bits.
-/

namespace BuildHarvest.Word

/-- How many numbers so many bits tell apart. -/
def values (bits : Nat) : Nat := Nat.pow 2 bits

/-- A number of sixty-four bits, one of which is the sign. -/
def signed? (negative : Bool) (n : Nat) : Option Int :=
  if negative then if n ≤ values 63 then some (-(n : Int)) else none
  else if n < values 63 then some n else none

/-- A number of sixty-four bits, all of them digits. -/
def unsigned? (n : Nat) : Option Int := if n < values 64 then some n else none

end BuildHarvest.Word
