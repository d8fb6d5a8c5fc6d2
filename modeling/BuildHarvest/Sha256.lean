/-
  BuildHarvest.Sha256 — the digest by which files are told apart.

  The octets are padded to whole blocks of sixty-four, and each block is mixed into eight words.
  `digest` is of octets that are all there, a `Hasher` takes them piece by piece.
-/

import BuildHarvest.Text.Split
import BuildHarvest.Text.Utf8
import BuildHarvest.Word

namespace BuildHarvest.Sha256

abbrev Word := UInt32

def rounds : List Word :=
  [0x428a2f98, 0x71374491, 0xb5c0fbcf, 0xe9b5dba5, 0x3956c25b, 0x59f111f1, 0x923f82a4, 0xab1c5ed5,
   0xd807aa98, 0x12835b01, 0x243185be, 0x550c7dc3, 0x72be5d74, 0x80deb1fe, 0x9bdc06a7, 0xc19bf174,
   0xe49b69c1, 0xefbe4786, 0x0fc19dc6, 0x240ca1cc, 0x2de92c6f, 0x4a7484aa, 0x5cb0a9dc, 0x76f988da,
   0x983e5152, 0xa831c66d, 0xb00327c8, 0xbf597fc7, 0xc6e00bf3, 0xd5a79147, 0x06ca6351, 0x14292967,
   0x27b70a85, 0x2e1b2138, 0x4d2c6dfc, 0x53380d13, 0x650a7354, 0x766a0abb, 0x81c2c92e, 0x92722c85,
   0xa2bfe8a1, 0xa81a664b, 0xc24b8b70, 0xc76c51a3, 0xd192e819, 0xd6990624, 0xf40e3585, 0x106aa070,
   0x19a4c116, 0x1e376c08, 0x2748774c, 0x34b0bcb5, 0x391c0cb3, 0x4ed8aa4a, 0x5b9cca4f, 0x682e6ff3,
   0x748f82ee, 0x78a5636f, 0x84c87814, 0x8cc70208, 0x90befffa, 0xa4506ceb, 0xbef9a3f7, 0xc67178f2]

structure State where
  a : Word
  b : Word
  c : Word
  d : Word
  e : Word
  f : Word
  g : Word
  h : Word
  deriving DecidableEq, Repr

def initial : State :=
  ⟨0x6a09e667, 0xbb67ae85, 0x3c6ef372, 0xa54ff53a, 0x510e527f, 0x9b05688c, 0x1f83d9ab, 0x5be0cd19⟩

def rotate (x : Word) (n : Word) : Word := (x >>> n) ||| (x <<< (32 - n))

/-- The words of a block, the latest first, extended by one. -/
def extend (ws : List Word) : List Word :=
  let w (n : Nat) : Word := ws.getD (n - 1) 0
  let s0 := rotate (w 15) 7 ^^^ rotate (w 15) 18 ^^^ (w 15 >>> 3)
  let s1 := rotate (w 2) 17 ^^^ rotate (w 2) 19 ^^^ (w 2 >>> 10)
  (w 16 + s0 + w 7 + s1) :: ws

def words : Bytes → List Word
  | a :: b :: c :: d :: rest =>
    ((a.toUInt32 <<< 24) ||| (b.toUInt32 <<< 16) ||| (c.toUInt32 <<< 8) ||| d.toUInt32) :: words rest
  | _ => []

def schedule (block : Bytes) : List Word := (Nat.repeat extend 48 (words block).reverse).reverse

def mix (s : State) (kw : Word × Word) : State :=
  let s1 := rotate s.e 6 ^^^ rotate s.e 11 ^^^ rotate s.e 25
  let choice := (s.e &&& s.f) ^^^ (~~~s.e &&& s.g)
  let t1 := s.h + s1 + choice + kw.1 + kw.2
  let s0 := rotate s.a 2 ^^^ rotate s.a 13 ^^^ rotate s.a 22
  let majority := (s.a &&& s.b) ^^^ (s.a &&& s.c) ^^^ (s.b &&& s.c)
  ⟨t1 + (s0 + majority), s.a, s.b, s.c, s.d + t1, s.e, s.f, s.g⟩

def State.add (s t : State) : State :=
  ⟨s.a + t.a, s.b + t.b, s.c + t.c, s.d + t.d, s.e + t.e, s.f + t.f, s.g + t.g, s.h + t.h⟩

def absorb (s : State) (block : Bytes) : State :=
  s.add ((rounds.zip (schedule block)).foldl mix s)

/-- A mark, zeros up to a whole number of blocks, and the length in bits of so many octets. -/
def padding (size : Nat) : Bytes :=
  let zeros := (119 - size % 64) % 64
  let bits := size * 8
  0x80 :: List.replicate zeros 0 ++
    (List.range 8).map fun i => (bits / Word.values (8 * (7 - i))).toUInt8

def padded (bs : Bytes) : Bytes := bs ++ padding bs.length

def blocks : Nat → Bytes → List Bytes
  | 0, _ => []
  | n + 1, bs => bs.take 64 :: blocks n (bs.drop 64)

def State.octets (s : State) : Bytes :=
  [s.a, s.b, s.c, s.d, s.e, s.f, s.g, s.h].flatMap fun (w : Word) =>
    [(w >>> 24).toUInt8, (w >>> 16).toUInt8, (w >>> 8).toUInt8, w.toUInt8]

def digest (bs : Bytes) : Bytes :=
  let p := padded bs
  ((blocks (p.length / 64) p).foldl absorb initial).octets

/-- Octets in hexadecimal, small letters. -/
def hexText (bs : Bytes) : String :=
  String.ofList (bs.flatMap fun b => [hexChar (b.toNat / 16), hexChar (b.toNat % 16)])

def hex (bs : Bytes) : String := hexText (digest bs)

/-! ## Piece by piece -/

/-- A digest in the making. -/
structure Hasher where
  state : State
  /-- Octets that fill no block yet. -/
  rest : Bytes
  /-- How many octets there have been. -/
  size : Nat
  deriving DecidableEq, Repr

namespace Hasher

def new : Hasher := ⟨initial, [], 0⟩

/-- Mixes the whole blocks in, and keeps what is left for the next piece. -/
def update (h : Hasher) (piece : Bytes) : Hasher :=
  let bs := h.rest ++ piece
  let count := bs.length / 64
  ⟨(blocks count bs).foldl absorb h.state, bs.drop (64 * count), h.size + piece.length⟩

def finish (h : Hasher) : Bytes :=
  let bs := h.rest ++ padding h.size
  ((blocks (bs.length / 64) bs).foldl absorb h.state).octets

end Hasher

end BuildHarvest.Sha256
