/-
  BuildHarvest.Manifest — the file names to fetch from a build, in order.

  An entry names one file of a directory: not empty, not `.` or `..`, and free of separators.
  Duplicates are kept and fetched again. `Manifest.ofEntries` refuses a list at its first bad
  entry.
-/

import BuildHarvest.Failure

namespace BuildHarvest

namespace Manifest

/-- Why a text names no file of a directory. -/
inductive EntryFault where
  | empty
  | directory
  | separator
  deriving DecidableEq, Repr

def EntryFault.reason : EntryFault → String
  | empty => "filename is empty"
  | directory => "filename refers to a directory"
  | separator => "filename must not contain path separators"

def fault? (entry : String) : Option EntryFault :=
  if entry.toList = [] then some .empty
  else if entry.toList = ['.'] ∨ entry.toList = ['.', '.'] then some .directory
  else if '/' ∈ entry.toList ∨ '\\' ∈ entry.toList then some .separator
  else none

end Manifest

structure Manifest where
  entries : List String
  sound : ∀ e ∈ entries, Manifest.fault? e = none

namespace Manifest

def firstFault? (entries : List String) : Option (String × EntryFault) :=
  entries.findSome? fun e => (fault? e).map (e, ·)

theorem sound_of_firstFault? {entries : List String} (h : firstFault? entries = none) :
    ∀ e ∈ entries, fault? e = none := by
  intro e he
  have := List.findSome?_eq_none_iff.1 h e he
  simpa using this

def ofEntries (entries : List String) : Except Failure Manifest :=
  match h : firstFault? entries with
  | some (e, fault) => .error (.invalidEntry e fault.reason)
  | none => .ok ⟨entries, sound_of_firstFault? h⟩

/-- The entries as they are visited. -/
def toList (m : Manifest) : List String := m.entries

def size (m : Manifest) : Nat := m.entries.length

def isEmpty (m : Manifest) : Bool := m.entries.isEmpty

end Manifest

end BuildHarvest
