/-
  BuildHarvest.Json.Basic — values of JSON texts, with the members of objects as written.

  Whole numbers of sixty-four bits, signed or not, are kept as they are; every other number is
  a floating-point one.
-/

namespace BuildHarvest.Json

inductive Value where
  | null
  | bool (b : Bool)
  | int (n : Int)
  | float (x : Float)
  | text (s : String)
  | list (items : List Value)
  | object (members : List (String × Value))

/-- Every value of a member's name, in order. -/
def valuesOf (members : List (String × Value)) (name : String) : List Value :=
  (members.filter (·.1 == name)).map (·.2)

/-- The value of a member that is there once. -/
def member? (members : List (String × Value)) (name : String) : Option Value :=
  match valuesOf members name with
  | [v] => some v
  | _ => none

def Value.text? : Value → Option String
  | text s => some s
  | _ => none

end BuildHarvest.Json
