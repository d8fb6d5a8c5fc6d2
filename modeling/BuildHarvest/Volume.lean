/-
  BuildHarvest.Volume — what a path reaches, and the system's operations on it.

  A path is taken step by step from the working directory, or from the root where it is
  absolute. Each step needs a directory; links are followed, at most forty on one path, and the
  last step's link only where the operation asks for it or a separator stands behind it. Every
  operation gives its result or the system's reason. The tree changes only where it succeeds, but
  for `save`, which may leave a part of what it was to write, and `removeAll`, which may leave an
  empty directory.

  There are files, links and directories, and nothing else: no owners and modes, so nothing is
  refused for want of a permission and no removal stops half-way; no second name for a file; no
  special files; no mounts. A file's place may limit what it can hold, each for itself: files do
  not compete for the room on a disk.
-/

import BuildHarvest.Tree

namespace BuildHarvest

/-- Why the system refuses an operation. -/
inductive Errno where
  | noEntry
  | occupied
  | notDirectory
  | isDirectory
  | invalid
  | busy
  | noRoom
  | nameTooLong
  | notEmpty
  | tooManyLinks
  /-- A path with an octet zero never reaches the system. -/
  | zeroOctet
  deriving DecidableEq, Repr

namespace Errno

def words : Errno → String × Nat
  | noEntry => ("No such file or directory", 2)
  | busy => ("Device or resource busy", 16)
  | occupied => ("File exists", 17)
  | notDirectory => ("Not a directory", 20)
  | isDirectory => ("Is a directory", 21)
  | invalid => ("Invalid argument", 22)
  | noRoom => ("No space left on device", 28)
  | nameTooLong => ("File name too long", 36)
  | notEmpty => ("Directory not empty", 39)
  | tooManyLinks => ("Too many levels of symbolic links", 40)
  | zeroOctet => ("file name contained an unexpected NUL byte", 0)

def reason (e : Errno) : String :=
  if e.words.2 = 0 then e.words.1 else e.words.1 ++ " (os error " ++ toString e.words.2 ++ ")"

end Errno

structure Volume where
  tree : Tree
  /-- The working directory. -/
  cwd : Loc
  deriving DecidableEq, Repr

namespace Volume

inductive Step where
  | here
  | up
  | down (name : Bytes)
  deriving DecidableEq, Repr

def Step.ofPart (part : Bytes) : Step :=
  if part = [Path.dot] then .here else if part = [Path.dot, Path.dot] then .up else .down part

/-- The steps of a path, and whether a separator stands behind the last. -/
def steps (p : Path) : List Step :=
  ((splitOn Path.separator p.octets).filter (· ≠ [])).map Step.ofPart

def endsOpen (p : Path) : Bool := p.octets.getLast? == some Path.separator

/-- All steps, a separator at the end being one that stays. -/
def allSteps (p : Path) : List Step := if endsOpen p then steps p ++ [.here] else steps p

def maxLinks : Nat := 40

def maxNameLength : Nat := 255

def maxPathLength : Nat := 4095

/-- Where a path begins: at the root, or in the directory that it is read in. -/
def origin (p : Path) (l : Loc) : Loc := if p.isAbsolute then [] else l

/-- A part of a walk: it ends at a location, or at a link with steps behind it. -/
inductive Leg where
  | arrival (l : Loc)
  | link (dir : Loc) (target : Path) (rest : List Step)
  deriving DecidableEq, Repr

/-- Takes steps from a location as far as the first link. -/
def leg (t : Tree) (l : Loc) : List Step → Except Errno Leg
  | [] => .ok (.arrival l)
  | s :: rest =>
    if t.get? l ≠ some .dir then .error .notDirectory
    else
      match s with
      | .here => leg t l rest
      | .up => leg t l.dropLast rest
      | .down name =>
        if maxNameLength < name.length then .error .nameTooLong
        else
          match t.get? (l ++ [name]) with
          | none => .error .noEntry
          | some (.link target) => .ok (.link l target rest)
          | some _ => leg t (l ++ [name]) rest

/-- Takes steps from a location, following links: where they lead, and how many links may still
be followed. -/
def walk (t : Tree) : Nat → Loc → List Step → Except Errno (Loc × Nat)
  | 0, l, ss => do
    match ← leg t l ss with
    | .arrival d => return (d, 0)
    | .link .. => .error .tooManyLinks
  | links + 1, l, ss => do
    match ← leg t l ss with
    | .arrival d => return (d, links + 1)
    | .link d target rest => walk t links (origin target d) (allSteps target ++ rest)

/-- Refuses paths that no operation takes. -/
def check (p : Path) : Except Errno Unit :=
  if p.octets.contains 0 then .error .zeroOctet
  else if p.octets = [] then .error .noEntry
  else if maxPathLength < p.octets.length then .error .nameTooLong
  else .ok ()

/-- The location that a path leads to, links followed. -/
def resolve (v : Volume) (p : Path) : Except Errno Loc := do
  check p
  let (l, _) ← walk v.tree maxLinks (origin p v.cwd) (allSteps p)
  return l

/-- What a path leads to. -/
def stat (v : Volume) (p : Path) : Except Errno Entry := do
  let l ← v.resolve p
  match v.tree.get? l with
  | some e => .ok e
  | none => .error .noEntry

def isDir (v : Volume) (p : Path) : Bool :=
  match v.stat p with
  | .ok .dir => true
  | _ => false

def isFile (v : Volume) (p : Path) : Bool :=
  match v.stat p with
  | .ok (.file _) => true
  | _ => false

/-- The last step of a path, the directory in which it is taken, and how many links may still be
followed. -/
structure Target where
  dir : Loc
  last : Option Step
  links : Nat
  deriving DecidableEq, Repr

/-- The directory in which the last of some steps is taken. -/
def targetFrom (t : Tree) (links : Nat) (l : Loc) (ss : List Step) : Except Errno Target := do
  match ss.getLast? with
  | none => return ⟨l, none, links⟩
  | some last =>
    let (d, left) ← walk t links l ss.dropLast
    if t.get? d ≠ some .dir then .error .notDirectory
    else
      match last with
      | .down name =>
        if maxNameLength < name.length then .error .nameTooLong else return ⟨d, last, left⟩
      | _ => return ⟨d, last, left⟩

def target (v : Volume) (p : Path) : Except Errno Target := do
  check p
  targetFrom v.tree maxLinks (origin p v.cwd) (steps p)

/-- The contents of a file. -/
def readFile (v : Volume) (p : Path) : Except Errno Bytes := do
  match ← v.stat p with
  | .file contents => return contents
  | _ => throw .isDirectory

/-- What a path names, a link at its end not followed. -/
def lstat (v : Volume) (p : Path) : Except Errno Entry := do
  if endsOpen p then v.stat p
  else
    let g ← v.target p
    match g.last with
    | some (.down name) =>
      match v.tree.get? (g.dir ++ [name]) with
      | some e => .ok e
      | none => .error .noEntry
    | _ => .ok .dir

/-- Makes a directory. -/
def mkdir (v : Volume) (p : Path) : Except Errno Volume := do
  let g ← v.target p
  match g.last with
  | some (.down name) =>
    if (v.tree.get? (g.dir ++ [name])).isSome then .error .occupied
    else .ok { v with tree := v.tree.put (g.dir ++ [name]) .dir }
  | _ => .error .occupied

/-- Makes a link. -/
def symlink (v : Volume) (p target : Path) : Except Errno Volume := do
  check target
  let g ← v.target p
  match g.last with
  | some (.down name) =>
    if (v.tree.get? (g.dir ++ [name])).isSome then .error .occupied
    else if endsOpen p then .error .noEntry
    else .ok { v with tree := v.tree.put (g.dir ++ [name]) (.link target) }
  | _ => .error .occupied

/-- Where a file is created or emptied: links at the end are followed, and may lead to nothing
yet. Each of them is one of `links`, so `rounds` beyond that number are never needed. -/
def creation (t : Tree) : (rounds links : Nat) → Loc → Path → Except Errno Loc
  | 0, _, _, _ => .error .tooManyLinks
  | rounds + 1, links, l, p => do
    let g ← targetFrom t links l (steps p)
    match g.last with
    | some (.down name) =>
      if endsOpen p then .error .isDirectory
      else
        match t.get? (g.dir ++ [name]) with
        | some (.link target) =>
          match g.links with
          | 0 => .error .tooManyLinks
          | left + 1 => creation t rounds left (origin target g.dir) target
        | some .dir => .error .isDirectory
        | _ => .ok (g.dir ++ [name])
    | _ => .error .isDirectory

/-- Creates a file or empties it, and says where it is. -/
def create (v : Volume) (p : Path) : Except Errno (Loc × Volume) := do
  check p
  let l ← creation v.tree (maxLinks + 1) maxLinks (origin p v.cwd) p
  return (l, { v with tree := v.tree.put l (.file []) })

/-- Puts octets into a file that has been created. -/
def fill (v : Volume) (l : Loc) (contents : Bytes) : Volume :=
  { v with tree := v.tree.put l (.file contents) }

/-- Writes a whole file that there is room for. -/
def writeFile (v : Volume) (p : Path) (contents : Bytes) : Except Errno Volume := do
  let (l, v) ← v.create p
  return v.fill l contents

/-- As many of some octets as there is room for. -/
def fitting (room : Option Nat) (octets : Bytes) : Bytes :=
  match room with
  | none => octets
  | some n => octets.take n

/-- Why some octets do not all fit, if they do not. -/
def overflow? (room : Option Nat) (octets : Bytes) : Option Errno :=
  match room with
  | none => none
  | some n => if n < octets.length then some .noRoom else none

/-- Puts octets behind what a file holds, as far as there is room. -/
def append (room : Option Nat) (contents octets : Bytes) : Option Errno × Bytes :=
  (overflow? room (contents ++ octets), fitting room (contents ++ octets))

/-- What the file at a location holds. -/
def contentsAt (v : Volume) (l : Loc) : Bytes :=
  match v.tree.get? l with
  | some (.file contents) => contents
  | _ => []

/-- Lets an operation act on what a file holds, by the room that there is for it. -/
def within {α : Type} (v : Volume) (l : Loc) (op : Option Nat → Bytes → α × Bytes) : α × Volume :=
  let (a, contents) := op (v.tree.room? l) (v.contentsAt l)
  (a, v.fill l contents)

/-- Creates a file, or empties it, and writes to it what there is room for. -/
def save (v : Volume) (p : Path) (octets : Bytes) : Except Errno Unit × Volume :=
  match v.create p with
  | .error e => (.error e, v)
  | .ok (l, v) =>
    v.within l fun room contents =>
      let (refusal, contents) := append room contents octets
      (refusal.elim (.ok ()) .error, contents)

/-- Removes a directory in which nothing is. -/
def rmdir (v : Volume) (p : Path) : Except Errno Volume := do
  let g ← v.target p
  match g.last with
  | none => .error .busy
  | some .here => .error .invalid
  | some .up => .error .notEmpty
  | some (.down name) =>
    match v.tree.get? (g.dir ++ [name]) with
    | none => .error .noEntry
    | some .dir =>
      if v.tree.isBare (g.dir ++ [name]) then
        .ok { v with tree := v.tree.remove (g.dir ++ [name]) }
      else .error .notEmpty
    | some _ => .error .notDirectory

/-- Removes what is in a directory, then the directory itself; that it has gone meanwhile is no
fault. The contents are gone even where the directory stays. -/
def removeAll (v : Volume) (p : Path) : Except Errno Unit × Volume :=
  match v.resolve p with
  | .error e => (.error e, v)
  | .ok l =>
    let v := { v with tree := v.tree.clear l }
    match v.rmdir p with
    | .ok v => (.ok (), v)
    | .error .noEntry => (.ok (), v)
    | .error e => (.error e, v)

end Volume

end BuildHarvest
