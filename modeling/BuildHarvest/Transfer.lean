/-
  BuildHarvest.Transfer — asking a server for a body.

  A request goes to the server without its URL's credentials and fragment, follows at most ten
  redirects, and ends in a response or in a fault. A response that says so by its status is a
  fault as well. A body arrives in pieces, and that it is cut short is found out only behind the
  last of them.

  Whatever is a locator of the right kind is sent: a client's own second reading of it, which is
  stricter about some signs in a host, is left out.
-/

import BuildHarvest.Network
import BuildHarvest.Url.Parse

namespace BuildHarvest.Transfer

inductive Fault where
  /-- The text is no locator. -/
  | malformed (fault : Url.Fault)
  /-- The locator is of a kind that no request can be made for. -/
  | unsupported (url : Url)
  | unreachable (url : Url)
  | dropped (url : Url)
  | tooManyRedirects (url : Url)
  | status (code : Nat) (url : Url)
  /-- The body ended early. -/
  | cut
  deriving DecidableEq, Repr

namespace Fault

def statusText (code : Nat) : String :=
  (if code < 500 then "HTTP status client error (" else "HTTP status server error (")
    ++ toString code ++ " " ++ statusWords code ++ ")"

/-- What happened, in short. -/
def text : Fault → String
  | malformed _ => "builder error"
  | unsupported url => "builder error for url (" ++ url.text ++ ")"
  | unreachable url | dropped url => "error sending request for url (" ++ url.text ++ ")"
  | tooManyRedirects url => "error following redirect for url (" ++ url.text ++ ")"
  | status code url => statusText code ++ " for url (" ++ url.text ++ ")"
  | cut => "error decoding response body"

/-- What it came from, nearest cause first. -/
def causes : Fault → List String
  | malformed fault => [fault.reason]
  | unsupported _ => ["URL scheme is not allowed"]
  | unreachable _ =>
    ["client error (Connect)", "tcp connect error", "Network is unreachable (os error 101)"]
  | dropped _ =>
    ["client error (SendRequest)", "connection closed before message completed"]
  | tooManyRedirects _ => ["too many redirects"]
  | status .. => []
  | cut =>
    ["error reading a body from connection", "end of file before message length reached"]

/-- The text and all its causes. -/
def account (f : Fault) : String := ": ".intercalate (f.text :: f.causes)

end Fault

/-- What arrives of a body, piece by piece, up to its end or to where the line breaks. -/
inductive Body where
  | done
  | cut
  | chunk (octets : Bytes) (rest : Body)
  deriving DecidableEq, Repr

namespace Body

def octets : Body → Bytes
  | done | cut => []
  | chunk octets rest => octets ++ rest.octets

def isWhole : Body → Bool
  | done => true
  | cut => false
  | chunk _ rest => rest.isWhole

/-- Octets in pieces of given lengths, what is left as one, and then the end. -/
def arriving (ending : Body) : List Nat → Bytes → Body
  | [], octets => if octets = [] then ending else .chunk octets ending
  | size :: sizes, octets => .chunk (octets.take size) (arriving ending sizes (octets.drop size))

end Body

structure Response where
  /-- The URL that was answered, redirects followed. -/
  url : Url
  status : Nat
  body : Body
  deriving DecidableEq, Repr

def maxRedirects : Nat := 10

/-- How much of a body's end a broken line keeps back. -/
def lostEnd : Nat := 10

/-- Statuses that come without a body. -/
def isBodiless (status : Nat) : Bool := status = 204 || status = 304

def bodyOf (r : Resource) : Body :=
  let sent := if isBodiless r.status then [] else r.body
  match r.breakage with
  | some .truncate =>
    .arriving (if sent.isEmpty then .done else .cut) r.pieces (sent.take (sent.length - lostEnd))
  | _ => .arriving .done r.pieces sent

def isRedirect (status : Nat) : Bool := [301, 302, 303, 307, 308].contains status

/-- Where a resource sends its asker. -/
def next? (url : Url) (r : Resource) : Option Url :=
  if isRedirect r.status then
    r.location.bind fun location => (Url.resolve url location).toOption
  else none

/-- Credentials leave the locator for the request's head. -/
def withoutCredentials (u : Url) : Url :=
  let decoded (s : String) := Utf8.decode? (Url.unescape s.toList)
  match decoded u.username with
  | none => u
  | some name =>
    if name ≠ "" ∨ (u.password.bind decoded).isSome then
      { u with username := "", password := none }
    else u

def follow (agent : Option String) (left : Nat) (url : Url) (n : Network) :
    Except Fault Response × Network :=
  if !n.isUp then (.error (.unreachable url), n)
  else
    let n := n.hear ⟨url.requestText, agent⟩
    let r := n.resourceAt url.requestText
    if r.breakage = some .drop then (.error (.dropped url), n)
    else
      match next? url r with
      | none => (.ok ⟨url, r.status, bodyOf r⟩, n)
      | some next =>
        match left with
        | 0 => (.error (.tooManyRedirects next), n)
        | left + 1 =>
          if next.isHttp then follow agent left next n else (.error (.unsupported next), n)

/-- The locator that a text asks for. -/
def target (text : String) : Except Fault Url :=
  match Url.parse text with
  | .error fault => .error (.malformed fault)
  | .ok url =>
    if url.host.isNone then .error (.unsupported url)
    else
      let url := withoutCredentials url
      if url.isHttp then .ok url else .error (.unsupported url)

/-- Any response to a request for a text's locator. -/
def request (agent : Option String) (text : String) (n : Network) :
    Except Fault Response × Network :=
  match target text with
  | .error fault => (.error fault, n)
  | .ok url => follow agent maxRedirects url n

/-- A response, where its status does not say that there is none. -/
def Response.accepted (r : Response) : Except Fault Response :=
  if 400 ≤ r.status ∧ r.status < 600 then .error (.status r.status r.url) else .ok r

end BuildHarvest.Transfer
