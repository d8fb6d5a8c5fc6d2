/-
  BuildHarvest.Text.Utf8 — octets and text.

  `encode` writes text as UTF-8. Reading is one pass of a small machine over the octets
  (`Phase.feed`): it emits a character for each well-formed sequence and a gap for each
  longest octet run that begins a sequence and breaks off. `decode?` refuses gaps;
  `lossy` shows each of them as U+FFFD.
-/

namespace BuildHarvest

/-- The contents of files, path names and responses. -/
abbrev Bytes := List UInt8

namespace Utf8

/-- The octets of one character: one to four, by its size. -/
def encodeChar (c : Char) : Bytes :=
  let n := c.toNat
  if n < 0x80 then [n.toUInt8]
  else if n < 0x800 then [(0xC0 + n / 64).toUInt8, (0x80 + n % 64).toUInt8]
  else if n < 0x10000 then
    [(0xE0 + n / 4096).toUInt8, (0x80 + n / 64 % 64).toUInt8, (0x80 + n % 64).toUInt8]
  else
    [(0xF0 + n / 262144).toUInt8, (0x80 + n / 4096 % 64).toUInt8,
      (0x80 + n / 64 % 64).toUInt8, (0x80 + n % 64).toUInt8]

def encodeChars (cs : List Char) : Bytes := cs.flatMap encodeChar

def encode (s : String) : Bytes := encodeChars s.toList

/-- Between characters, or inside one: the bounds of the next octet, how many follow it, and the
value read so far. -/
inductive Phase where
  | idle
  | within (more : Nat) (low high : UInt8) (value : Nat)
  deriving DecidableEq, Repr

/-- What a first octet opens; `none` for one that opens nothing. The bounds of the second
octet keep out overlong forms, surrogates and values above U+10FFFF. -/
def lead (b : UInt8) : Option Phase :=
  if b < 0xC2 then none
  else if b < 0xE0 then some (.within 0 0x80 0xBF (b.toNat - 0xC0))
  else if b < 0xF0 then
    some (.within 1 (if b = 0xE0 then 0xA0 else 0x80) (if b = 0xED then 0x9F else 0xBF)
      (b.toNat - 0xE0))
  else if b < 0xF5 then
    some (.within 2 (if b = 0xF0 then 0x90 else 0x80) (if b = 0xF4 then 0x8F else 0xBF)
      (b.toNat - 0xF0))
  else none

/-- An octet met between characters: what it emits and the phase it leads to. -/
def fresh (b : UInt8) : List (Option Char) × Phase :=
  if b < 0x80 then ([some (Char.ofNat b.toNat)], .idle)
  else
    match lead b with
    | some p => ([], p)
    | none => ([none], .idle)

/-- One octet. Where it does not continue the open sequence, that sequence is a gap and the
octet begins anew. -/
def Phase.feed : Phase → UInt8 → List (Option Char) × Phase
  | .idle, b => fresh b
  | .within more low high value, b =>
    if low ≤ b ∧ b ≤ high then
      let value := value * 64 + (b.toNat - 0x80)
      match more with
      | 0 => ([some (Char.ofNat value)], .idle)
      | more + 1 => ([], .within more 0x80 0xBF value)
    else
      let (out, next) := fresh b
      (none :: out, next)

/-- What is left open at the end is a gap too. -/
def Phase.close : Phase → List (Option Char)
  | .idle => []
  | .within .. => [none]

/-- The characters and gaps of an octet string, in order. -/
def pieces (bs : Bytes) : List (Option Char) :=
  let (out, last) := bs.foldl (fun (s : List (Option Char) × Phase) b =>
    let (new, next) := s.2.feed b
    (new.reverseAux s.1, next)) ([], .idle)
  out.reverseAux last.close

/-- The characters of well-formed octets, none for others. -/
def decodeChars? (bs : Bytes) : Option (List Char) :=
  (pieces bs).foldr (fun p r => p.bind fun c => r.map (c :: ·)) (some [])

def decode? (bs : Bytes) : Option String := (decodeChars? bs).map String.ofList

/-- The characters of any octets, with U+FFFD in place of each gap. -/
def lossyChars (bs : Bytes) : List Char := (pieces bs).map (·.getD '\uFFFD')

def lossy (bs : Bytes) : String := String.ofList (lossyChars bs)

/-- The first character, where the octets begin with one, and the octets behind it. -/
def takeFrom : Phase → Bytes → Option (Char × Bytes)
  | _, [] => none
  | p, b :: rest =>
    match p.feed b with
    | ([some c], .idle) => some (c, rest)
    | ([], next) => takeFrom next rest
    | _ => none

theorem takeFrom_shorter {p : Phase} {bs rest : Bytes} {c : Char}
    (h : takeFrom p bs = some (c, rest)) : rest.length < bs.length := by
  induction bs generalizing p with
  | nil => simp [takeFrom] at h
  | cons b bs ih =>
    simp only [takeFrom] at h
    split at h
    · simp only [Option.some.injEq, Prod.mk.injEq] at h
      simp [h.2]
    · have := ih h
      simp only [List.length_cons]
      omega
    · simp at h

end Utf8

end BuildHarvest
