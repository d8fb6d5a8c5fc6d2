/-
  BuildHarvest.Url.Basic — resource locators and their one text.

  A locator is a scheme, an authority where it has one, a path, a query and a fragment, each
  already escaped. Most schemes' paths are segments; the rest of the others is bare text.
-/

import BuildHarvest.Url.Address
import BuildHarvest.Url.Percent

namespace BuildHarvest

namespace Url

inductive Host where
  /-- A name that is there but empty. -/
  | empty
  | domain (name : String)
  | ipv4 (address : Ipv4)
  | ipv6 (address : Ipv6)
  deriving DecidableEq, Repr

def Host.text : Host → String
  | empty => ""
  | domain name => name
  | ipv4 a => a.text
  | ipv6 a => "[" ++ a.text ++ "]"

/-- The part after the authority. -/
inductive Route where
  /-- Text that is no path: nothing can be put behind it. -/
  | bare (text : String)
  | segments (ss : List String)
  deriving DecidableEq, Repr

/-- Special schemes always have an authority and a path; `file` needs no host. -/
inductive SchemeKind where
  | file
  | special
  | other
  deriving DecidableEq, Repr

def SchemeKind.isSpecial : SchemeKind → Bool
  | other => false
  | _ => true

def schemeKind (scheme : String) : SchemeKind :=
  if scheme = "file" then .file
  else if ["http", "https", "ws", "wss", "ftp"].contains scheme then .special
  else .other

def defaultPort? (scheme : String) : Option Nat :=
  if scheme = "http" ∨ scheme = "ws" then some 80
  else if scheme = "https" ∨ scheme = "wss" then some 443
  else if scheme = "ftp" then some 21
  else none

/-- Why a text is no locator. -/
inductive Fault where
  | relative
  | emptyHost
  | port
  | ipv4
  | ipv6
  | domainCharacter
  | international
  deriving DecidableEq, Repr

def Fault.reason : Fault → String
  | relative => "relative URL without a base"
  | emptyHost => "empty host"
  | port => "invalid port number"
  | ipv4 => "invalid IPv4 address"
  | ipv6 => "invalid IPv6 address"
  | domainCharacter => "invalid domain character"
  | international => "invalid international domain name"

end Url

structure Url where
  scheme : String
  username : String
  password : Option String
  host : Option Url.Host
  port : Option Nat
  route : Url.Route
  query : Option String
  fragment : Option String
  deriving DecidableEq, Repr

namespace Url

def userinfoText (u : Url) : String :=
  match u.password with
  | some p => u.username ++ ":" ++ p ++ "@"
  | none => if u.username = "" then "" else u.username ++ "@"

def portText (u : Url) : String := (u.port.map fun p => ":" ++ toString p).getD ""

def segmentsText (ss : List String) : String := String.join (ss.map ("/" ++ ·))

/-- A path that would read as an authority is set off by a dot segment. -/
def routeText (u : Url) : String :=
  match u.route with
  | .bare text => text
  | .segments ss =>
    (if u.host.isNone && ss.head? == some "" && 1 < ss.length then "/." else "") ++
      segmentsText ss

def authorityText (u : Url) : String :=
  (u.host.map fun h => "//" ++ u.userinfoText ++ h.text ++ u.portText).getD ""

def text (u : Url) : String :=
  u.scheme ++ ":" ++ u.authorityText ++ u.routeText ++ (u.query.map ("?" ++ ·)).getD "" ++
    (u.fragment.map ("#" ++ ·)).getD ""

/-- The text of what is requested from a server: no credentials, no fragment. -/
def requestText (u : Url) : String :=
  { u with username := "", password := none, fragment := none }.text

/-- Nothing can be put behind bare text. -/
def isBare (u : Url) : Bool :=
  match u.route with
  | .bare _ => true
  | .segments _ => false

def isHttp (u : Url) : Bool := u.scheme = "http" || u.scheme = "https"

end Url

end BuildHarvest
