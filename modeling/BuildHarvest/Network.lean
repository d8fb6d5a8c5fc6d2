/-
  BuildHarvest.Network — the servers that answer requests.

  A network is a link that is up or down, the resources that its servers hold, and the
  requests that have reached them, oldest first. A URL without a resource is answered 404.
-/

import BuildHarvest.Text.Utf8

namespace BuildHarvest

/-- What goes wrong on the line after a server has been asked. -/
inductive Breakage where
  /-- No response comes. -/
  | drop
  /-- The body ends before its declared length. -/
  | truncate
  deriving DecidableEq, Repr

structure Resource where
  url : String
  status : Nat
  body : Bytes
  /-- Where the resource has moved. -/
  location : Option String
  breakage : Option Breakage
  /-- How long the pieces are in which the body arrives; what is left comes as one. -/
  pieces : List Nat := []
  deriving DecidableEq, Repr

structure Request where
  url : String
  agent : Option String
  deriving DecidableEq, Repr

structure Network where
  isUp : Bool
  resources : List Resource
  requests : List Request
  deriving DecidableEq, Repr

namespace Network

/-- The answer for a URL that no server knows. -/
def unknown (url : String) : Resource := ⟨url, 404, [], none, none, []⟩

def resourceAt (n : Network) (url : String) : Resource :=
  (n.resources.find? (·.url = url)).getD (unknown url)

/-- Adds a resource or replaces the one of its URL. -/
def serve (n : Network) (r : Resource) : Network :=
  { n with resources := r :: n.resources.filter (·.url ≠ r.url) }

def hear (n : Network) (r : Request) : Network := { n with requests := n.requests ++ [r] }

end Network

/-- The words that stand beside a status code. -/
def statusWords (code : Nat) : String :=
  match code with
  | 400 => "Bad Request"
  | 401 => "Unauthorized"
  | 402 => "Payment Required"
  | 403 => "Forbidden"
  | 404 => "Not Found"
  | 405 => "Method Not Allowed"
  | 406 => "Not Acceptable"
  | 407 => "Proxy Authentication Required"
  | 408 => "Request Timeout"
  | 409 => "Conflict"
  | 410 => "Gone"
  | 411 => "Length Required"
  | 412 => "Precondition Failed"
  | 413 => "Payload Too Large"
  | 414 => "URI Too Long"
  | 415 => "Unsupported Media Type"
  | 416 => "Range Not Satisfiable"
  | 417 => "Expectation Failed"
  | 418 => "I\x27m a teapot"
  | 421 => "Misdirected Request"
  | 422 => "Unprocessable Entity"
  | 423 => "Locked"
  | 424 => "Failed Dependency"
  | 425 => "Too Early"
  | 426 => "Upgrade Required"
  | 428 => "Precondition Required"
  | 429 => "Too Many Requests"
  | 431 => "Request Header Fields Too Large"
  | 451 => "Unavailable For Legal Reasons"
  | 500 => "Internal Server Error"
  | 501 => "Not Implemented"
  | 502 => "Bad Gateway"
  | 503 => "Service Unavailable"
  | 504 => "Gateway Timeout"
  | 505 => "HTTP Version Not Supported"
  | 506 => "Variant Also Negotiates"
  | 507 => "Insufficient Storage"
  | 508 => "Loop Detected"
  | 510 => "Not Extended"
  | 511 => "Network Authentication Required"
  | _ => ""

end BuildHarvest
