/-
  BuildHarvest.Report — what became of each file of a run.

  An outcome says that a file was fetched, how long it is and what its digest is, or why it was
  not. A report is written as JSON (`Report.render`) and read back (`Report.parse?`): members
  may come in any order and unknown ones are passed over, but the known ones are there once
  each and of their kind.
-/

import BuildHarvest.Failure
import BuildHarvest.Json.Printer
import BuildHarvest.Json.Reader

namespace BuildHarvest

inductive Status where
  | downloaded (bytes : UInt64) (sha256 : String)
  | failed (reason : String)
  deriving DecidableEq, Repr

structure Outcome where
  filename : String
  url : String
  status : Status
  deriving DecidableEq, Repr

structure Report where
  /-- The build's URL as the status feed gives it. -/
  buildUrl : String
  artifactBase : String
  outcomes : List Outcome
  deriving DecidableEq, Repr

namespace Outcome

def isSuccess (o : Outcome) : Bool :=
  match o.status with
  | .downloaded .. => true
  | .failed _ => false

def reason? (o : Outcome) : Option String :=
  match o.status with
  | .downloaded .. => none
  | .failed r => some r

end Outcome

/-! ## The verdict on a list of outcomes -/

namespace Outcomes

def failures (os : List Outcome) : List Outcome := os.filter (!·.isSuccess)

def isSuccess (os : List Outcome) : Bool := (failures os).isEmpty

/-- The failure that a list amounts to: how many failed, and the first of them. -/
def failure? (os : List Outcome) : Option Failure :=
  os.findSome? fun o =>
    o.reason?.map fun reason => .download (failures os).length o.filename o.url reason

def result (os : List Outcome) : Except Failure (List Outcome) :=
  match failure? os with
  | none => .ok os
  | some e => .error e

end Outcomes

namespace Report

def isSuccess (r : Report) : Bool := Outcomes.isSuccess r.outcomes

/-! ## Writing -/

def statusMembers : Status → List (String × List Char)
  | .downloaded bytes sha256 =>
    [("status", Json.quoted "downloaded"), ("bytes", Json.natText bytes.toNat),
      ("sha256", Json.quoted sha256)]
  | .failed reason => [("status", Json.quoted "failed"), ("reason", Json.quoted reason)]

def outcomeText (o : Outcome) : List Char :=
  Json.objectText 2
    ([("filename", Json.quoted o.filename), ("url", Json.quoted o.url)] ++ statusMembers o.status)

def renderChars (r : Report) : List Char :=
  Json.objectText 0
    [("build_url", Json.quoted r.buildUrl), ("artifact_base", Json.quoted r.artifactBase),
      ("outcomes", Json.listText 1 (r.outcomes.map outcomeText))]

def render (r : Report) : String := String.ofList r.renderChars

/-! ## Reading -/

abbrev Members := List (String × Json.Value)

def textMember? (ms : Members) (name : String) : Option String :=
  (Json.member? ms name).bind Json.Value.text?

def sizeMember? (ms : Members) (name : String) : Option UInt64 :=
  match Json.member? ms name with
  | some (.int n) => if 0 ≤ n then some (UInt64.ofNat n.toNat) else none
  | _ => none

/-- A status is named, or given by its number. -/
def status? (ms : Members) : Option Status :=
  let downloaded := (sizeMember? ms "bytes").bind fun n =>
    (textMember? ms "sha256").map (.downloaded n)
  let failed := (textMember? ms "reason").map .failed
  match Json.member? ms "status" with
  | some (.text s) => if s = "downloaded" then downloaded else if s = "failed" then failed else none
  | some (.int n) => if n = 0 then downloaded else if n = 1 then failed else none
  | _ => none

def outcome? : Json.Value → Option Outcome
  | .object ms =>
    (textMember? ms "filename").bind fun filename =>
      (textMember? ms "url").bind fun url => (status? ms).map (⟨filename, url, ·⟩)
  | _ => none

def ofValue? : Json.Value → Option Report
  | .object ms =>
    (textMember? ms "build_url").bind fun build =>
      (textMember? ms "artifact_base").bind fun base =>
        match Json.member? ms "outcomes" with
        | some (.list vs) => (vs.mapM outcome?).map (⟨build, base, ·⟩)
        | _ => none
  | _ => none

def parse? (octets : Bytes) : Option Report :=
  (Utf8.decodeChars? octets).bind fun cs => (Json.read? cs).bind ofValue?

end Report

end BuildHarvest
