/-
  BuildHarvest.Proofs.Verdict — the result of a run, its report and its outcomes say the same.

  Proved (`run_verdict`), of a run that got to its downloads:
  - Where a report is wanted and could be written, its file reads back as the build, the
    directory of the libraries and all the outcomes, also where some of them failed.
  - The run succeeds only where every outcome did, and then it gives that report.
  - Otherwise it fails for the first outcome that failed, and counts all that did: one of them
    where it stops at the first.
  - All ways to ask a list of outcomes whether it is a success agree (`verdicts_agree`).

  Of any report, whatever its texts and numbers: what is written of it reads back as that report
  (`written_report_is_read_back`).
-/

import BuildHarvest.Proofs.FailedDownloads
import BuildHarvest.Proofs.Policy
import BuildHarvest.Proofs.Report
import Mathlib.Tactic.TFAE

namespace BuildHarvest

/-! ## The verdict on a list of outcomes -/

namespace Outcome

theorem reason?_eq_none {o : Outcome} : o.reason? = none ↔ o.isSuccess = true := by
  unfold reason? isSuccess
  split <;> simp

theorem reason?_eq_some {o : Outcome} {reason : String} : o.reason? = some reason ↔ o.status = .failed reason := by
  unfold reason?
  split <;> rename_i hs <;> simp [hs]

end Outcome

namespace Outcomes

/-- A failure for the first outcome that failed, with the number of all that did. -/
def IsFirst (os : List Outcome) (e : Failure) : Prop :=
  ∃ before o after reason, os = before ++ o :: after ∧ (∀ b ∈ before, b.isSuccess = true) ∧ o.status = .failed reason ∧
    e = .download (os.countP (!·.isSuccess)) o.filename o.url reason

theorem length_failures (os : List Outcome) : (failures os).length = os.countP (!·.isSuccess) :=
  List.countP_eq_length_filter.symm

theorem failures_eq_nil {os : List Outcome} : failures os = [] ↔ ∀ o ∈ os, o.isSuccess = true := by
  rw [failures, List.filter_eq_nil_iff]
  simp

theorem failure?_eq_none {os : List Outcome} : failure? os = none ↔ ∀ o ∈ os, o.isSuccess = true := by
  rw [failure?, List.findSome?_eq_none_iff]
  simp only [Option.map_eq_none_iff, Outcome.reason?_eq_none]

theorem isFirst_of_failure? {os : List Outcome} {e : Failure} (h : failure? os = some e) : IsFirst os e := by
  obtain ⟨before, o, after, rfl, ho, hbefore⟩ := List.findSome?_eq_some_iff.mp h
  obtain ⟨reason, hreason, rfl⟩ := Option.map_eq_some_iff.mp ho
  refine ⟨before, o, after, reason, rfl, fun b hb => ?_, Outcome.reason?_eq_some.mp hreason, by rw [length_failures]⟩
  exact Outcome.reason?_eq_none.mp (Option.map_eq_none_iff.mp (hbefore b hb))

theorem result_eq_ok {os : List Outcome} : result os = .ok os ↔ failure? os = none := by
  unfold result
  split <;> rename_i h <;> simp [h]

theorem result_eq_error {os : List Outcome} {e : Failure} : result os = .error e ↔ failure? os = some e := by
  unfold result
  split <;> rename_i h <;> simp [h]

/-- Whether a list of outcomes is a success. -/
theorem verdicts_agree (os : List Outcome) : List.TFAE [∀ o ∈ os, o.isSuccess = true, isSuccess os = true, failures os = [],
    failure? os = none, result os = .ok os] := by
  tfae_have 1 ↔ 3 := failures_eq_nil.symm
  tfae_have 2 ↔ 3 := by rw [isSuccess, List.isEmpty_iff]
  tfae_have 4 ↔ 1 := failure?_eq_none
  tfae_have 5 ↔ 4 := result_eq_ok
  tfae_finish

/-- At most the last outcome failed. -/
theorem countP_le_one {os : List Outcome} (h : ∀ o ∈ os.dropLast, o.isSuccess = true) : os.countP (!·.isSuccess) ≤ 1 := by
  rcases List.eq_nil_or_concat os with rfl | ⟨init, last, rfl⟩
  · exact Nat.zero_le 1
  · rw [List.concat_eq_append, List.dropLast_concat] at h
    have hinit : init.countP (!·.isSuccess) = 0 := by
      rw [← length_failures, failures_eq_nil.mpr h]
      rfl
    rw [List.concat_eq_append, List.countP_append, hinit, Nat.zero_add]
    exact List.countP_le_length

end Outcomes

namespace Sync

open BuildHarvest.Action
open Download (groundOf Runs process)

/-- The run could not write the report that was wanted of it. -/
def Unwritten (r : Except Failure Report) : Prop := ∃ file reason, r = .error (.reportWrite file reason)

/-- A file holds a report, as text that is read back as it. -/
def HoldsReport (v : Volume) (file : Path) (report : Report) : Prop :=
  ∃ octets, v.readFile file = .ok octets ∧ Report.parse? octets = some report

/-! ## The end of a run -/

theorem verdict_result (report : Report) (w : World) : ((verdict report).on w).1 = match Outcomes.failure? report.outcomes with
    | none => .ok report
    | some e => .error e := by
  rw [verdict, on_bind, on_orThrow, Outcomes.result]
  cases Outcomes.failure? report.outcomes <;> rfl

/-- A report is written as it is, or that is what the run fails for. -/
theorem write_result {report : Report} {file : Path} {w w' : World} {r : Except Failure Unit}
    (h : (report.write file).on w = (r, w')) :
    (∃ reason, r = .error (.reportWrite file reason)) ∨ r = .ok () ∧ HoldsReport w'.volume file report := by
  rw [write_on, Volume.save_eq] at h
  rcases hc : w.volume.create file with e | ⟨l, v⟩ <;> simp only [hc] at h
  · obtain ⟨rfl, -⟩ := Prod.mk.inj h
    exact .inl ⟨_, rfl⟩
  · cases hfull : Volume.overflow? (w.volume.tree.room? l) (Utf8.encode report.render) with
    | some e =>
      rw [hfull] at h
      obtain ⟨rfl, -⟩ := Prod.mk.inj h
      exact .inl ⟨_, rfl⟩
    | none =>
      rw [hfull, Volume.fitting_eq_self hfull] at h
      obtain ⟨rfl, rfl⟩ := Prod.mk.inj h
      refine .inr ⟨rfl, Utf8.encode report.render, ?_, Report.parse?_encode report⟩
      exact Volume.readFile_of_resolve (Volume.resolve_create hc _) (Volume.puts_of_create hc _).self

/-- The text of a report is read back as that report, and so is the file that it has been written to. -/
theorem written_report_is_read_back (report : Report) : Report.parse? (Utf8.encode report.render) = some report ∧
    ∀ (file : Path) (w w' : World), (report.write file).on w = (.ok (), w') → HoldsReport w'.volume file report := by
  refine ⟨Report.parse?_encode report, fun file w w' h => ?_⟩
  rcases write_result h with ⟨reason, hr⟩ | ⟨-, hholds⟩
  · cases hr
  · exact hholds

/-- A report of a file that came and one that did not, with marks and characters that JSON escapes. -/
def mixedReport : Report where
  buildUrl := "http://[::]/\x22\\\x00\u00e9😀"
  artifactBase := ""
  outcomes := [⟨"a\x22,", "\\u0041", .downloaded 18446744073709551615 "downloaded"⟩, ⟨"status", "\x08\x0C\r\n\t", .failed "failed"⟩]

theorem a_mixed_report_is_read_back : ∃ w', (mixedReport.write (.ofText "r")).on ⟨⟨.empty, []⟩, ⟨false, [], []⟩, []⟩ = (.ok (), w') ∧
    HoldsReport w'.volume (.ofText "r") mixedReport := by
  have hwritten : ((mixedReport.write (.ofText "r")).done? ⟨⟨.empty, []⟩, ⟨false, [], []⟩, []⟩).isSome = true := by decide +kernel
  obtain ⟨⟨_, w'⟩, hdone⟩ := Option.isSome_iff_exists.mp hwritten
  have hon := done?_eq_some.mp hdone
  exact ⟨w', hon, (written_report_is_read_back mixedReport).2 _ _ _ hon⟩

/-- What a run comes to once its outcomes are there. -/
theorem conclude_result {file? : Option Path} {report : Report} {w w' : World} {r : Except Failure Report}
    (h : (conclude file? report).on w = (r, w')) :
    (∃ file reason, file? = some file ∧ r = .error (.reportWrite file reason)) ∨
      (∀ file, file? = some file → HoldsReport w'.volume file report) ∧
        r = match Outcomes.failure? report.outcomes with
          | none => .ok report
          | some e => .error e := by
  cases file? with
  | none =>
    have h : (verdict report).on w = (r, w') := h
    refine .inr ⟨fun _ hnone => (by cases hnone), ?_⟩
    rw [← verdict_result report w, h]
  | some file =>
    have h : (report.write file >>= fun _ => verdict report).on w = (r, w') := h
    rw [on_bind] at h
    rcases hw : (report.write file).on w with ⟨r₁, w₁⟩
    rw [hw] at h
    rcases write_result hw with ⟨reason, rfl⟩ | ⟨rfl, hholds⟩
    · obtain ⟨rfl, rfl⟩ := Prod.mk.inj h
      exact .inl ⟨file, reason, rfl, rfl⟩
    · refine .inr ⟨fun file' e => ?_, ?_⟩
      · obtain rfl := Option.some.inj e
        rw [HoldsReport, (verdict_on h).1]
        exact hholds
      · rw [← verdict_result report w₁]
        exact (congrArg Prod.fst h).symm

/-! ## The outcomes of a run -/

theorem Stages.Of.runs {s : Stages} {params : Params} {w : World} (h : s.Of params w) :
    Runs (some agent) params.config.layout.libDir params.config.failurePolicy (Item.ofManifest s.base params.manifest)
      (groundOf s.renewed) s.outcomes (groundOf s.fetched) := by
  have hf := h.fetched
  rw [fetchAll, on_bind, on_tell] at hf
  exact Download.runs_of_all (w := s.opened params) hf

/-- The outcomes are of the entries of the manifest, in their order, from the first on. -/
theorem Stages.Of.names {s : Stages} {params : Params} {w : World} (h : s.Of params w) :
    s.outcomes.map (·.filename) = params.manifest.entries.take s.outcomes.length := by
  have hnames := Download.process_names (some agent) params.config.layout.libDir params.config.failurePolicy
    (Item.ofManifest s.base params.manifest) (groundOf s.renewed)
  rw [h.runs.eq] at hnames
  have := congrArg (List.map Prod.fst) hnames
  simpa [Item.ofManifest, Manifest.toList, Function.comp_def, List.map_take] using this

theorem Stages.Of.countP_of_failFast {s : Stages} {params : Params} {w : World} (h : s.Of params w)
    (hp : params.config.failurePolicy = .failFast) : s.outcomes.countP (!·.isSuccess) ≤ 1 := by
  have hruns := h.runs
  rw [hp] at hruns
  have hcut := (Download.process_failFast (some agent) params.config.layout.libDir (Item.ofManifest s.base params.manifest)
    (groundOf s.renewed)).1
  rw [hruns.eq] at hcut
  refine Outcomes.countP_le_one ?_
  show ∀ o ∈ List.dropLast s.outcomes, _
  rw [show s.outcomes = _ from hcut]
  exact Download.success_of_dropLast _

/-- Result, report and outcomes of a run that got to its downloads. -/
theorem run_verdict {params : Params} {w w' : World} {r : Except Failure Report} {s : Stages} (hs : s.Of params w)
    (h : (run params).on w = (r, w')) :
    (∀ file reason, r = .error (.reportWrite file reason) → params.report = some file) ∧
    (¬ Unwritten r → ∀ file, params.report = some file → HoldsReport w'.volume file s.report) ∧
    (∀ report, r = .ok report → report = s.report ∧ ∀ o ∈ s.outcomes, o.isSuccess = true) ∧
    (¬ Unwritten r → (∀ o ∈ s.outcomes, o.isSuccess = true) → r = .ok s.report) ∧
    (¬ Unwritten r → (∃ o ∈ s.outcomes, o.isSuccess = false) → ∃ e, r = .error e ∧ Outcomes.IsFirst s.outcomes e) ∧
    (params.config.failurePolicy = .failFast → (∃ o ∈ s.outcomes, o.isSuccess = false) →
      s.outcomes.countP (!·.isSuccess) = 1) ∧
    s.outcomes.map (·.filename) = params.manifest.entries.take s.outcomes.length ∧
    List.TFAE [∀ o ∈ s.outcomes, o.isSuccess = true, Outcomes.isSuccess s.outcomes = true, Outcomes.failures s.outcomes = [],
      Outcomes.failure? s.outcomes = none, Outcomes.result s.outcomes = .ok s.outcomes, s.report.isSuccess = true] ∧
    (∀ e, Outcomes.failure? s.outcomes = some e ↔ Outcomes.result s.outcomes = .error e) := by
  rw [hs.run] at h
  have hend := conclude_result h
  have hwritten : ¬ Unwritten r → (∀ file, params.report = some file → HoldsReport w'.volume file s.report) ∧
      r = match Outcomes.failure? s.report.outcomes with
        | none => .ok s.report
        | some e => .error e := by
    intro hw
    rcases hend with ⟨file, reason, _, hr⟩ | hend
    · exact absurd ⟨file, reason, hr⟩ hw
    · exact hend
  have hfailed : (∃ o ∈ s.outcomes, o.isSuccess = false) → ∃ e, Outcomes.failure? s.outcomes = some e := by
    rintro ⟨o, ho, hf⟩
    refine Option.ne_none_iff_exists'.mp fun hnone => ?_
    rw [Outcomes.failure?_eq_none.mp hnone o ho] at hf
    cases hf
  refine ⟨?_, fun hw => (hwritten hw).1, (conclude_frame h).2, ?_, ?_, ?_, hs.names, ?_, fun _ => Outcomes.result_eq_error.symm⟩
  · intro file reason hr
    rcases hend with ⟨file', reason', hfile, hr'⟩ | ⟨_, hr'⟩
    · rw [hr] at hr'
      cases hr'
      exact hfile
    · rw [hr] at hr'
      split at hr'
      · cases hr'
      · rename_i e he
        obtain ⟨_, _, _, _, _, _, _, rfl⟩ := Outcomes.isFirst_of_failure? he
        cases hr'
  · intro hw hall
    have hnone : Outcomes.failure? s.report.outcomes = none := Outcomes.failure?_eq_none.mpr hall
    rw [(hwritten hw).2, hnone]
  · intro hw hsome
    obtain ⟨e, he⟩ := hfailed hsome
    have he' : Outcomes.failure? s.report.outcomes = some e := he
    exact ⟨e, by rw [(hwritten hw).2, he'], Outcomes.isFirst_of_failure? he⟩
  · intro hp hsome
    obtain ⟨o, ho, hf⟩ := hsome
    have hpos : 0 < s.outcomes.countP (!·.isSuccess) := List.countP_pos_iff.mpr ⟨o, ho, by rw [hf]; rfl⟩
    have := hs.countP_of_failFast hp
    omega
  · have hagree := Outcomes.verdicts_agree s.outcomes
    tfae_have 1 ↔ 2 := hagree.out 0 1
    tfae_have 1 ↔ 3 := hagree.out 0 2
    tfae_have 1 ↔ 4 := hagree.out 0 3
    tfae_have 1 ↔ 5 := hagree.out 0 4
    tfae_have 2 ↔ 6 := Iff.rfl
    tfae_finish

/-- A run for a library that its server has lost, with a report of it. -/
def lostLibrary : Params := { oneLibrary with report := some (.ofText "r") }

/-- A failed download is in the report, and is what the run fails for. -/
theorem a_lost_library_is_reported : ∃ s : Stages, s.Of lostLibrary lostWorld ∧
    HoldsReport ((run lostLibrary).on lostWorld).2.volume (.ofText "r") s.report ∧
    ∃ e, ((run lostLibrary).on lostWorld).1 = .error e ∧ Outcomes.IsFirst s.outcomes e := by
  obtain ⟨s, hs⟩ := Option.isSome_iff_exists.mp (show (stages? lostLibrary lostWorld).isSome = true by decide +kernel)
  have houtcomes : (stages? lostLibrary lostWorld).map (fun s => s.outcomes.map (·.isSuccess)) = some [false] := by decide +kernel
  have hfailure : (run lostLibrary).failure? lostWorld = some (.download 1 "a" "http://[::]/a"
      "Failed to fetch http://[::]/a: HTTP status client error (404 Not Found) for url (http://[::]/a)") := by decide +kernel
  have hof := stages?_eq_some.mp hs
  rw [hs, Option.map_some, Option.some.injEq] at houtcomes
  have hsome : ∃ o ∈ s.outcomes, o.isSuccess = false := List.mem_map.mp (houtcomes.symm ▸ List.mem_singleton_self false)
  obtain ⟨w', hrun⟩ := failure?_eq_some.mp hfailure
  have hw : ¬ Unwritten ((run lostLibrary).on lostWorld).1 := by
    rintro ⟨file, reason, he⟩
    rw [hrun] at he
    cases he
  rw [hrun] at hw ⊢
  obtain ⟨_, hreport, _, _, hfirst, _⟩ := run_verdict hof hrun
  exact ⟨s, hof, hreport hw (.ofText "r") rfl, hfirst hw hsome⟩

end Sync

end BuildHarvest
