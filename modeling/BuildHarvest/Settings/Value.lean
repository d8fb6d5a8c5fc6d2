/-
  BuildHarvest.Settings.Value — what a settings text holds, in whatever format it is written.
-/

import BuildHarvest.Decimal.Shortest

namespace BuildHarvest.Settings

inductive Scalar where
  | null
  | bool (b : Bool)
  | int (n : Int)
  | float (x : Float)
  | text (s : String)

inductive Value where
  | scalar (s : Scalar)
  | list (items : List Value)
  | table (entries : List (String × Value))

namespace Value

def null : Value := .scalar .null

def bool (b : Bool) : Value := .scalar (.bool b)

def int (n : Int) : Value := .scalar (.int n)

def float (x : Float) : Value := .scalar (.float x)

def text (s : String) : Value := .scalar (.text s)

end Value

/-- The text that a scalar amounts to, where it has a value at all. -/
def Scalar.text? : Scalar → Option String
  | .null => none
  | .bool b => some (if b then "true" else "false")
  | .int n => some (toString n)
  | .float x => some (Decimal.text x)
  | .text s => some s

end BuildHarvest.Settings
