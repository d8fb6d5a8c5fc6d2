/-
  BuildHarvest.Proofs.Fields — the fields that are read from settings.

  Proved:
  - A setting is read as text where it is one, and as texts where it is a list of them
    (`readText_text`, `readTexts_texts`).
  - `configOf_eq`: where all names are known and all texts are there, only the policy can be refused.
  - `configOf_ok`: a plan holds what was read for each of its fields.
  - A plan has no name but the fields' (`field_of_configOf`), and it is refused for want of a workspace
    just where no text can be read for that (`configOf_noWorkspace`).
  - `configOf_congr`: settings that are read alike give the same plan, or the same refusal.
-/

import BuildHarvest.Proofs.Action
import BuildHarvest.Proofs.Volume
import BuildHarvest.Settings.Load

namespace BuildHarvest

theorem FailurePolicy.text_of_ofText? {s : String} {p : FailurePolicy} (h : FailurePolicy.ofText? s = some p) : p.text = s := by
  unfold FailurePolicy.ofText? at h
  split at h
  · obtain rfl := Option.some.inj h
    exact Eq.symm ‹_›
  · split at h
    · obtain rfl := Option.some.inj h
      exact Eq.symm ‹_›
    · cases h

theorem FailurePolicy.ofText?_text (p : FailurePolicy) : FailurePolicy.ofText? p.text = some p := by cases p <;> decide

namespace Settings

/-! ## Plain settings -/

/-- The text that a setting is. -/
def Setting.text? : Setting → Option String
  | .scalar _ (.text s) => some s
  | _ => none

/-- The texts that a list of settings is. -/
def Setting.texts? : Setting → Option (List String)
  | .list _ items => items.mapM Setting.text?
  | _ => none

theorem readText_text {s : Setting} {t : String} (h : s.text? = some t) (key : String) : readText key s = .ok t := by
  unfold Setting.text? at h
  split at h
  · obtain rfl := Option.some.inj h
    rfl
  · cases h

/-- The text that a setting amounts to, where it is a value by itself. -/
def Setting.asText? : Setting → Option String
  | .scalar _ v => v.text?
  | _ => none

theorem readText_eq_ok {key : String} {s : Setting} {t : String} : readText key s = .ok t ↔ s.asText? = some t := by
  cases s with
  | scalar o v =>
    simp only [readText, Setting.asText?]
    cases v.text? <;> simp
  | list => simp [readText, Setting.asText?]
  | table => simp [readText, Setting.asText?]

/-- A setting amounts to the same text, or none, whatever it is laid over. -/
theorem asText?_assign (s old : Setting) : (assign s old).asText? = s.asText? := by
  cases s with
  | scalar => rfl
  | list => rfl
  | table => cases old <;> rfl

def noSuchPolicy (name : String) : SettingsFault :=
  .refused ("enum FailurePolicy does not have variant constructor " ++ name ++ atKey "failure_policy")

theorem readPolicy_text {s : Setting} {t : String} (h : s.text? = some t) : readPolicy "failure_policy" s =
    match FailurePolicy.ofText? t with
    | some p => .ok p
    | none => .error (noSuchPolicy t) := by
  unfold Setting.text? at h
  split at h
  · obtain rfl := Option.some.inj h
    rfl
  · cases h

theorem mapM_readText (key : String) {items : List Setting} {ts : List String} (h : items.mapM Setting.text? = some ts) (n : Nat) :
    (items.zipIdx n).mapM (fun x => readText (key ++ "[" ++ toString x.2 ++ "]") x.1) = .ok ts := by
  induction items generalizing ts n with
  | nil =>
    obtain rfl := Option.some.inj h
    rfl
  | cons s items ih =>
    rw [List.mapM_cons] at h
    obtain ⟨t, ht, h⟩ := Option.bind_eq_some_iff.mp h
    obtain ⟨rest, hrest, h⟩ := Option.bind_eq_some_iff.mp h
    obtain rfl := Option.some.inj h
    rw [List.zipIdx_cons, List.mapM_cons, readText_text ht, ih hrest]
    rfl

theorem readTexts_texts {s : Setting} {ts : List String} (h : s.texts? = some ts) (key : String) : readTexts key s = .ok ts := by
  unfold Setting.texts? at h
  split at h
  · exact mapM_readText key h 0
  · cases h

/-! ## A whole plan -/

variable {es es' : Entries} {c : Config}

theorem field_of_bind {α : Type} {read : Setting → Option α} {name : String} {a : α} (h : (es.get? name).bind read = some a) :
    read (es.field name) = some a := by
  obtain ⟨s, hs, ha⟩ := Option.bind_eq_some_iff.mp h
  rw [Entries.field, hs]
  exact ha

/-- A name that is none of the fields'. -/
def unknown? (es : Entries) : Option (String × Setting) := es.find? fun e => !fieldNames.contains e.1

theorem configOf_eq {workspace feedUrl artifactSubpath statusFile workDir libDir : String} {manifest : List String}
    (hknown : unknown? es = none) (hworkspace : readText "workspace" (es.field "workspace") = .ok workspace)
    (hfeed : readText "feed_url" (es.field "feed_url") = .ok feedUrl)
    (hsubpath : readText "artifact_subpath" (es.field "artifact_subpath") = .ok artifactSubpath)
    (hmanifest : readTexts "manifest" (es.field "manifest") = .ok manifest)
    (hstatus : readText "status_file" (es.field "status_file") = .ok statusFile)
    (hwork : readText "work_dir" (es.field "work_dir") = .ok workDir)
    (hlib : readText "lib_dir" (es.field "lib_dir") = .ok libDir) :
    configOf es = match readPolicy "failure_policy" (es.field "failure_policy") with
      | .ok p => .ok ⟨.ofText workspace, feedUrl, artifactSubpath, manifest, statusFile, workDir, libDir, p⟩
      | .error e => .error (.settings e) := by
  unfold unknown? at hknown
  simp only [configOf, hasWorkspace, hworkspace, if_true, readConfig, hknown, hfeed, hsubpath, hmanifest, hstatus, hwork, hlib]
  cases readPolicy "failure_policy" (es.field "failure_policy") <;> rfl

/-- What was read for the fields of a plan. -/
structure Reads (es : Entries) (c : Config) : Prop where
  workspace : ∃ t, readText "workspace" (es.field "workspace") = .ok t ∧ c.workspace = .ofText t
  feedUrl : readText "feed_url" (es.field "feed_url") = .ok c.feedUrl
  artifactSubpath : readText "artifact_subpath" (es.field "artifact_subpath") = .ok c.artifactSubpath
  manifest : readTexts "manifest" (es.field "manifest") = .ok c.manifest

theorem configOf_ok (h : configOf es = .ok c) : Reads es c := by
  unfold configOf at h
  split at h
  · rcases hr : readConfig es with e | c'
    · rw [hr] at h
      cases h
    · rw [hr] at h
      obtain rfl := Except.ok.inj h
      unfold readConfig at hr
      split at hr
      · cases hr
      obtain ⟨workspace, hworkspace, hr⟩ := bind_ok hr
      obtain ⟨feedUrl, hfeed, hr⟩ := bind_ok hr
      obtain ⟨artifactSubpath, hsubpath, hr⟩ := bind_ok hr
      obtain ⟨manifest, hmanifest, hr⟩ := bind_ok hr
      obtain ⟨statusFile, -, hr⟩ := bind_ok hr
      obtain ⟨workDir, -, hr⟩ := bind_ok hr
      obtain ⟨libDir, -, hr⟩ := bind_ok hr
      obtain ⟨failurePolicy, -, hr⟩ := bind_ok hr
      obtain rfl := Except.ok.inj hr
      exact ⟨⟨workspace, hworkspace, rfl⟩, hfeed, hsubpath, hmanifest⟩
  · cases h

/-- A plan is read from fields alone. -/
theorem field_of_configOf (h : configOf es = .ok c) : ∀ e ∈ es, e.1 ∈ fieldNames := by
  unfold configOf at h
  split at h
  · rcases hr : readConfig es with e | c'
    · rw [hr] at h
      cases h
    · unfold readConfig at hr
      split at hr
      · cases hr
      · rename_i hknown
        intro e he
        have hnone : unknown? es = none := Option.eq_none_iff_forall_ne_some.mpr fun x hx => hknown x.1 x.2 hx
        simpa using List.find?_eq_none.mp hnone e he
  · cases h

theorem asText?_field (es : Entries) (name : String) : (es.field name).asText? = (es.get? name).bind Setting.asText? := by
  rw [Entries.field]
  cases es.get? name <;> rfl

theorem hasWorkspace_eq_false : hasWorkspace es = false ↔ (es.get? "workspace").bind Setting.asText? = none := by
  rw [← asText?_field, hasWorkspace]
  cases htext : (es.field "workspace").asText? with
  | none =>
    split
    · rename_i hread
      rw [readText_eq_ok.mp hread] at htext
      cases htext
    · exact ⟨fun _ => rfl, fun _ => rfl⟩
  | some t =>
    rw [readText_eq_ok.mpr htext]
    simp

/-- Settings are refused for want of a workspace just where no text can be read for it. -/
theorem configOf_noWorkspace : configOf es = .error noWorkspace ↔ (es.get? "workspace").bind Setting.asText? = none := by
  rw [← hasWorkspace_eq_false]
  cases hworkspace : hasWorkspace es with
  | false => simp [configOf, hworkspace]
  | true =>
    rw [configOf, hworkspace, if_pos rfl]
    cases readConfig es with
    | error e => exact iff_of_false (fun h => by cases h) (fun h => by cases h)
    | ok c => exact iff_of_false (fun h => by cases h) (fun h => by cases h)

theorem configOf_congr (hknown : unknown? es = unknown? es')
    (htext : ∀ name ∈ fieldNames, name ≠ "manifest" → readText name (es.field name) = readText name (es'.field name))
    (hmanifest : readTexts "manifest" (es.field "manifest") = readTexts "manifest" (es'.field "manifest"))
    (hpolicy : readPolicy "failure_policy" (es.field "failure_policy") = readPolicy "failure_policy" (es'.field "failure_policy")) :
    configOf es = configOf es' := by
  unfold unknown? at hknown
  simp only [configOf, hasWorkspace, readConfig, hknown, hmanifest, hpolicy, htext "workspace" (by decide) (by decide),
    htext "feed_url" (by decide) (by decide), htext "artifact_subpath" (by decide) (by decide),
    htext "status_file" (by decide) (by decide), htext "work_dir" (by decide) (by decide), htext "lib_dir" (by decide) (by decide)]
  rfl

/-! ## All together -/

open BuildHarvest.Action in
/-- The settings of a run are a plan read from its sources; only the name of a settings file is told. -/
theorem on_load (name? : Option String) (vars : Variables) (o : Overrides) (w : World) : (load name? vars o).on w =
    (match sourceEntries w.volume name? vars with
      | .ok sources => configOf (layered vars sources o)
      | .error e => .error (.settings e),
    match name? with
      | some name => w.note (.readingSettings name)
      | none => w) := by
  have hread (w : World) : (do
      let v ← volume
      let sources ← orThrow .settings (sourceEntries v name? vars)
      orThrow id (configOf (layered vars sources o)) : Action Failure Config).on w =
      (match sourceEntries w.volume name? vars with
        | .ok sources => configOf (layered vars sources o)
        | .error e => .error (.settings e), w) := by
    simp only [on_bind, on_volume, on_orThrow]
    rcases sourceEntries w.volume name? vars with e | sources
    · rfl
    · show ((configOf (layered vars sources o)).mapError id, w) = (configOf (layered vars sources o), w)
      cases configOf (layered vars sources o) <;> rfl
  cases name? with
  | none => exact hread w
  | some name => exact hread (w.note (.readingSettings name))

end Settings

end BuildHarvest
