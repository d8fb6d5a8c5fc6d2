/-
  BuildHarvest.Log.Line — how a notice is written on a line.
-/

import BuildHarvest.Log
import BuildHarvest.Text.Quoted
import BuildHarvest.Text.Terminal

namespace BuildHarvest.Notice

def Field.shown : Field → String
  | .number n => toString n
  | .text s => s
  | .quotation s => Quoted.text s

/-- The words, and each field with its name. -/
def words (n : Notice) : String :=
  n.fields.foldl (fun line (name, field) => line ++ " " ++ name ++ "=" ++ field.shown)
    (Terminal.tame n.message)

def line (n : Notice) : String := n.level.text ++ " " ++ n.topic ++ ": " ++ n.words

end BuildHarvest.Notice
