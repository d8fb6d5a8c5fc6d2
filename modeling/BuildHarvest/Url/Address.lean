/-
  BuildHarvest.Url.Address — numeric hosts.

  An IPv4 address is one to four numbers, decimal, octal or hexadecimal, the last of which
  fills the octets that are left. An IPv6 address is eight groups, of which one gap may stand
  for a run of zeros and the last two may be written as an IPv4 address. Both are written in
  one form only.
-/

import BuildHarvest.Text.Split
import BuildHarvest.Word

namespace BuildHarvest.Url

/-! ## IPv4 -/

structure Ipv4 where
  value : Nat
  deriving DecidableEq, Repr

namespace Ipv4

def octalDigit? (c : Char) : Option Nat :=
  if '0' ≤ c ∧ c ≤ '7' then some (c.toNat - 48) else none

/-- A number by its first characters: `0x` hexadecimal, `0` octal. What is no number at all is
none. -/
def number? (cs : List Char) : Option Nat :=
  match cs with
  | [] => none
  | ['0'] => some 0
  | '0' :: 'x' :: rest | '0' :: 'X' :: rest => digitsValue? 16 hexDigit? rest
  | '0' :: rest => digitsValue? 8 octalDigit? rest
  | _ => digitsValue? 10 decimalDigit? cs

/-- The parts between full stops, without one empty part at the end. -/
def parts (host : List Char) : List (List Char) :=
  let ps := splitOn '.' host
  if ps.length > 1 ∧ ps.getLast? = some [] then ps.dropLast else ps

/-- A host whose last part is a number must be an address. -/
def isNumeric (host : List Char) : Bool :=
  match (parts host).getLast? with
  | none | some [] => false
  | some last => last.all (fun c => (decimalDigit? c).isSome) || (number? last).isSome

def ofParts? (host : List Char) : Option Ipv4 :=
  let ps := parts host
  if 4 < ps.length then none
  else
    (ps.mapM number?).bind fun ns =>
      match ns.getLast? with
      | none => none
      | some last =>
        let heads := ns.dropLast
        if heads.any (255 < ·) ∨ Word.values (8 * (4 - heads.length)) ≤ last then none
        else some ⟨heads.foldr (fun n (r : Nat × Nat) => (r.1 + n * r.2, r.2 * 256))
          (last, Word.values (8 * (4 - heads.length))) |>.1⟩

def text (a : Ipv4) : String :=
  ".".intercalate
    [toString (a.value / 16777216 % 256), toString (a.value / 65536 % 256),
      toString (a.value / 256 % 256), toString (a.value % 256)]

end Ipv4

/-! ## IPv6 -/

structure Ipv6 where
  groups : List Nat
  deriving DecidableEq, Repr

namespace Ipv6

def group? (cs : List Char) : Option Nat :=
  if cs = [] ∨ 4 < cs.length then none else digitsValue? 16 hexDigit? cs

/-- An octet in decimal, without leading zeros. -/
def octet? (cs : List Char) : Option Nat :=
  match cs with
  | [] => none
  | '0' :: _ :: _ => none
  | _ => (digitsValue? 10 decimalDigit? cs).bind fun n => if n ≤ 255 then some n else none

/-- Two groups written as four octets. -/
def dotted? (cs : List Char) : Option (List Nat) :=
  match (splitOn '.' cs).mapM octet? with
  | some [a, b, c, d] => some [a * 256 + b, c * 256 + d]
  | _ => none

/-- The groups of a stretch without a gap; the last may be dotted where `atEnd`. -/
def stretch? (atEnd : Bool) (cs : List Char) : Option (List Nat) :=
  if cs = [] then some []
  else
    let ps := splitOn ':' cs
    match ps.getLast? with
    | some last =>
      if atEnd && last.contains '.' then
        (ps.dropLast.mapM group?).bind fun gs => (dotted? last).map (gs ++ ·)
      else ps.mapM group?
    | none => none

/-- What stands before and after the first `::`. -/
def cutGap : List Char → Option (List Char × List Char)
  | [] => none
  | ':' :: ':' :: rest => some ([], rest)
  | c :: rest => (cutGap rest).map fun p => (c :: p.1, p.2)

def ofText? (cs : List Char) : Option Ipv6 :=
  match cutGap cs with
  | none =>
    if cs = [] then none
    else (stretch? true cs).bind fun gs => if gs.length = 8 then some ⟨gs⟩ else none
  | some (before, after) =>
    (stretch? false before).bind fun a =>
      (stretch? true after).bind fun b =>
        if a.length + b.length ≤ 7 then
          some ⟨a ++ List.replicate (8 - a.length - b.length) 0 ++ b⟩
        else none

/-- Where the longest run of zeros begins, the first of several, and its length. -/
def longestZeros (groups : List Nat) : Nat × Nat :=
  (List.range groups.length).foldl (fun best i =>
    let n := ((groups.drop i).takeWhile (· == 0)).length
    if best.2 < n then (i, n) else best) (0, 0)

def text (a : Ipv6) : String :=
  let (start, count) := longestZeros a.groups
  let shown (gs : List Nat) := ":".intercalate (gs.map hexText)
  if count < 2 then shown a.groups
  else shown (a.groups.take start) ++ "::" ++ shown (a.groups.drop (start + count))

end Ipv6

end BuildHarvest.Url
