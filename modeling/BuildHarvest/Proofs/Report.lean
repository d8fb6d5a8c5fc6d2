/-
  BuildHarvest.Proofs.Report — a report that is written is read back.

  Proved:
  - `decodeChars?_encodeChars`: the octets of a text are read back as that text.
  - `outcome?_value`, `ofValue?_value`: an outcome and a report are found in the values that
    they are written as.
  - `Report.parse?_encode`: the octets of a report are read back as that report.
-/

import BuildHarvest.Proofs.Json
import BuildHarvest.Proofs.Names
import BuildHarvest.Report

namespace BuildHarvest

/-- What reads the writing of each thing reads that of a list of them. -/
theorem mapM_map {α β : Type} (f : α → β) (read : β → Option α) {as : List α} (h : ∀ a ∈ as, read (f a) = some a) :
    (as.map f).mapM read = some as := by
  induction as with
  | nil => rfl
  | cons a as ih =>
    rw [List.map_cons, List.mapM_cons, h a List.mem_cons_self, ih fun b hb => h b (List.mem_cons_of_mem _ hb)]
    rfl

/-! ## The octets of a text -/

namespace Utf8

/-- What a phase emits from some octets, and what it leaves open at their end. -/
def piecesFrom : Phase → Bytes → List (Option Char)
  | p, [] => p.close
  | p, b :: bs => (p.feed b).1 ++ piecesFrom (p.feed b).2 bs

/-- What has been emitted, newest first, and the phase after one octet more. -/
def feedInto (s : List (Option Char) × Phase) (b : UInt8) : List (Option Char) × Phase :=
  ((s.2.feed b).1.reverseAux s.1, (s.2.feed b).2)

theorem foldl_feedInto (bs : Bytes) (s : List (Option Char) × Phase) :
    (bs.foldl feedInto s).1.reverseAux (bs.foldl feedInto s).2.close = s.1.reverse ++ piecesFrom s.2 bs := by
  induction bs generalizing s with
  | nil => rw [List.foldl_nil, List.reverseAux_eq, piecesFrom]
  | cons b bs ih =>
    rw [List.foldl_cons, ih, piecesFrom, feedInto]
    simp only
    rw [List.reverseAux_eq, List.reverse_append, List.reverse_reverse, List.append_assoc]

theorem pieces_eq (bs : Bytes) : pieces bs = piecesFrom .idle bs := foldl_feedInto bs ([], .idle)

theorem piecesFrom_takeFrom {p : Phase} {bs rest : Bytes} {c : Char} (h : takeFrom p bs = some (c, rest)) :
    piecesFrom p bs = some c :: piecesFrom .idle rest := by
  induction bs generalizing p with
  | nil => cases h
  | cons b bs ih =>
    rw [takeFrom] at h
    split at h
    · rename_i hf
      obtain ⟨rfl, rfl⟩ := Prod.mk.inj (Option.some.inj h)
      rw [piecesFrom, hf]
      rfl
    · rename_i hf
      rw [piecesFrom, hf]
      exact ih h
    · cases h

theorem pieces_encodeChars (cs : List Char) : pieces (encodeChars cs) = cs.map some := by
  rw [pieces_eq]
  induction cs with
  | nil => rfl
  | cons c cs ih => rw [piecesFrom_takeFrom (takeFrom_encodeChars c cs), ih, List.map_cons]

theorem decodeChars?_encodeChars (cs : List Char) : decodeChars? (encodeChars cs) = some cs := by
  rw [decodeChars?, pieces_encodeChars]
  induction cs with
  | nil => rfl
  | cons c cs ih => rw [List.map_cons, List.foldr_cons, ih]; rfl

end Utf8

/-! ## The values of a report -/

namespace Report

/-- The members of a status, each as it is written and as it is read. -/
def statusItems : Status → List (String × List Char × Json.Value)
  | .downloaded bytes sha256 =>
    [("status", Json.quoted "downloaded", .text "downloaded"), ("bytes", Json.natText bytes.toNat, .int bytes.toNat),
      ("sha256", Json.quoted sha256, .text sha256)]
  | .failed reason => [("status", Json.quoted "failed", .text "failed"), ("reason", Json.quoted reason, .text reason)]

def outcomeItems (o : Outcome) : List (String × List Char × Json.Value) :=
  [("filename", Json.quoted o.filename, .text o.filename), ("url", Json.quoted o.url, .text o.url)] ++ statusItems o.status

def outcomeValue (o : Outcome) : Json.Value := .object ((outcomeItems o).map fun x => (x.1, x.2.2))

def items (r : Report) : List (String × List Char × Json.Value) :=
  [("build_url", Json.quoted r.buildUrl, .text r.buildUrl),
    ("artifact_base", Json.quoted r.artifactBase, .text r.artifactBase),
    ("outcomes", Json.listText 1 (r.outcomes.map outcomeText), .list (r.outcomes.map outcomeValue))]

def value (r : Report) : Json.Value := .object (r.items.map fun x => (x.1, x.2.2))

theorem outcomeText_eq (o : Outcome) : outcomeText o = Json.objectText 2 ((outcomeItems o).map fun x => (x.1, x.2.1)) := by
  obtain ⟨filename, url, _ | _⟩ := o <;> rfl

/-! ### What is written reads as these values -/

theorem writes_outcomeText (depth : Nat) (o : Outcome) : Json.Writes (depth + 1) (outcomeText o) (outcomeValue o) := by
  rw [outcomeText_eq]
  refine Json.writes_objectText 2 fun x hx => ?_
  have hquoted (name s : String) : x = (name, Json.quoted s, .text s) → Json.Writes depth x.2.1 x.2.2 := by
    rintro rfl
    exact Json.writes_quoted depth s
  obtain ⟨filename, url, ⟨bytes, sha256⟩ | reason⟩ := o
  · simp only [outcomeItems, statusItems, List.cons_append, List.nil_append, List.mem_cons, List.not_mem_nil, or_false] at hx
    rcases hx with hx | hx | hx | rfl | hx
    · exact hquoted _ _ hx
    · exact hquoted _ _ hx
    · exact hquoted _ _ hx
    · exact Json.writes_natText depth (UInt64.toNat_lt bytes)
    · exact hquoted _ _ hx
  · simp only [outcomeItems, statusItems, List.cons_append, List.nil_append, List.mem_cons, List.not_mem_nil, or_false] at hx
    rcases hx with hx | hx | hx | hx <;> exact hquoted _ _ hx

theorem writes_renderChars (depth : Nat) (r : Report) : Json.Writes (depth + 3) r.renderChars r.value := by
  have houtcomes : ∀ x ∈ r.outcomes.map fun o => (outcomeText o, outcomeValue o), Json.Writes (depth + 1) x.1 x.2 := by
    intro x hx
    obtain ⟨o, -, rfl⟩ := List.mem_map.mp hx
    exact writes_outcomeText depth o
  have hitems : ∀ x ∈ r.items, Json.Writes (depth + 2) x.2.1 x.2.2 := by
    intro x hx
    simp only [items, List.mem_cons, List.not_mem_nil, or_false] at hx
    rcases hx with rfl | rfl | rfl
    · exact Json.writes_quoted _ _
    · exact Json.writes_quoted _ _
    · have hlist := Json.writes_listText 1 houtcomes
      simpa only [List.map_map, Function.comp_def] using hlist
  exact Json.writes_objectText 0 hitems

/-! ### These values read as the report -/

theorem outcome?_value (o : Outcome) : outcome? (outcomeValue o) = some o := by
  obtain ⟨filename, url, ⟨bytes, sha256⟩ | reason⟩ := o
  · simp [outcome?, outcomeValue, outcomeItems, statusItems, textMember?, Json.member?, Json.valuesOf, Json.Value.text?, status?,
      sizeMember?]
  · simp [outcome?, outcomeValue, outcomeItems, statusItems, textMember?, Json.member?, Json.valuesOf, Json.Value.text?, status?]

theorem mapM_outcome? (os : List Outcome) : (os.map outcomeValue).mapM outcome? = some os :=
  mapM_map outcomeValue outcome? fun o _ => outcome?_value o

theorem ofValue?_value (r : Report) : ofValue? r.value = some r := by
  have houtcomes := mapM_outcome? r.outcomes
  simp [ofValue?, value, items, textMember?, Json.member?, Json.valuesOf, Json.Value.text?, -List.mapM_map, houtcomes]

theorem parse?_encode (r : Report) : parse? (Utf8.encode r.render) = some r := by
  have hread : Json.read? r.renderChars = some r.value := (writes_renderChars 124 r).read?
  rw [parse?, Utf8.encode, render, String.toList_ofList, Utf8.decodeChars?_encodeChars, Option.bind_some, hread, Option.bind_some,
    ofValue?_value]

end Report

end BuildHarvest
