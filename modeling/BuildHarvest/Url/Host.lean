/-
  BuildHarvest.Url.Host — reading the host of a locator.

  In special schemes a host is an address or a domain name in its ASCII form; in others it is
  kept as it is written, with controls escaped.
-/

import BuildHarvest.Url.Basic
import BuildHarvest.Url.Idna

namespace BuildHarvest.Url.Host

/-- An address in brackets. -/
def bracketed (inner : List Char) : Except Fault Host :=
  match inner.getLast? with
  | some ']' =>
    match Ipv6.ofText? inner.dropLast with
    | some a => .ok (.ipv6 a)
    | none => .error .ipv6
  | _ => .error .ipv6

/-- A host of a special scheme, which is not empty. -/
def ofDomain (cs : List Char) : Except Fault Host :=
  match cs with
  | '[' :: inner => bracketed inner
  | _ =>
    match (Utf8.decodeChars? (unescape cs)).bind Idna.toAscii? with
    | none => .error .international
    | some [] => .error .emptyHost
    | some name =>
      if Ipv4.isNumeric name then
        match Ipv4.ofParts? name with
        | some a => .ok (.ipv4 a)
        | none => .error .ipv4
      else .ok (.domain (String.ofList name))

/-- Characters that no host has, whatever the scheme. -/
def isForbidden (c : Char) : Bool :=
  ['\x00', '\t', '\n', '\r', ' ', '#', '/', ':', '<', '>', '?', '@', '[', '\\', ']', '^', '|'].contains c

def ofVerbatim (cs : List Char) : Except Fault Host :=
  match cs with
  | '[' :: inner => bracketed inner
  | [] => .ok .empty
  | _ =>
    if cs.any isForbidden then .error .domainCharacter
    else .ok (.domain (String.ofList (escape controlSet cs)))

end BuildHarvest.Url.Host
