/-
  BuildHarvest.Proofs.Separators — separators between and behind the parts of a base.

  The text that a base is read from has one separator between the build's URL and the path below it,
  and one at the end, however the two are written; so the base, or what is wrong with the text, is
  the same.

  Proved (`base_ignores_separators`), of every build's URL and every path below it:
  - A separator behind a URL that does not end with one changes nothing, and neither does any number
    of them before the path, or one behind a path that does not end with one.
  - The text of a base ends with a separator (`shut_text`): with that of the path, or where there is a
    query or a fragment with that of what stands last, or with the slashes of an empty authority.
-/

import BuildHarvest.Proofs.DirectoryUrl

namespace BuildHarvest

namespace Url

/-! ## The last character of a locator's text -/

/-- Where nothing is read but the slashes of an authority, they are the last of the text. -/
theorem shut_front {scheme : String} {u : Url} (h : ofScheme scheme ['/', '/'] = .ok u) (hroute : u.route = .segments []) :
    ∃ init, u.front.toList = init ++ ['/'] := by
  unfold ofScheme at h
  split at h
  · obtain rfl := Except.ok.inj (show Except.ok (fileAt .empty []) = .ok u from h)
    cases hroute
  · cases show Except.error Fault.emptyHost = Except.ok u from h
  · obtain rfl := Except.ok.inj
      (show Except.ok (⟨scheme, "", none, some .empty, none, .segments [], none, none⟩ : Url) = .ok u from h)
    refine ⟨(scheme ++ ":/").toList, ?_⟩
    simp [front, authorityText, userinfoText, Host.text, portText]

theorem routeText_nil {u : Url} (h : u.route = .segments []) : u.routeText = "" := by
  have hset : (u.host.isNone && ([] : List String).head? == some "" && 1 < ([] : List String).length) = false := by simp
  simp only [routeText, h, hset]
  rfl

/-- Segments the last of which is empty are closed. -/
theorem shut_segmentsText {ss : List String} (h : ss.getLast? = some "") : ∃ init, (segmentsText ss).toList = init ++ ['/'] := by
  obtain ⟨init, rfl⟩ := List.getLast?_eq_some_iff.mp h
  refine ⟨(segmentsText init).toList, ?_⟩
  rw [segmentsText_append, String.toList_append]
  rfl

/-- A text that ends with a separator and is read as a locator with a path has a text that ends with one. -/
theorem shut_text {s : String} {init : List Char} {u : Url} {ss : List String} (hs : s.toList = init ++ ['/'])
    (h : parse s = .ok u) (hss : u.route = .segments ss) : ∃ before, u.text.toList = before ++ ['/'] := by
  obtain ⟨-, scheme, rest, -, -, hread, hnone, hpath, hback⟩ := readsShut_parse hs h
  rcases hback.eq_nil_or with hempty | ⟨before, hbefore⟩
  · obtain ⟨hquery, hfragment⟩ := ArtifactBase.back_eq_empty.mp (String.toList_eq_nil_iff.mp hempty)
    have htail : Tailless rest := hnone.mp ⟨hquery, hfragment⟩
    rw [text_eq, String.toList_append, String.toList_append, hempty, List.append_nil]
    rcases hpath ss hss htail with hlast | ⟨rfl, rfl⟩
    · obtain ⟨path, hclosed⟩ := shut_segmentsText hlast
      rw [routeText, hss]
      simp only [String.toList_append, hclosed, ← List.append_assoc]
      exact ⟨_, rfl⟩
    · obtain ⟨before, hfront⟩ := shut_front hread hss
      refine ⟨before, ?_⟩
      rw [hfront, routeText_nil hss]
      exact List.append_nil _
  · refine ⟨u.front.toList ++ u.routeText.toList ++ before, ?_⟩
    rw [text_eq, String.toList_append, String.toList_append, hbefore, List.append_assoc, List.append_assoc, List.append_assoc]

end Url

namespace ArtifactBase

/-! ## The text that a base is read from -/

theorem closed_of_closed {cs : List Char} (h : cs.getLast? = some '/') : closed cs = cs := if_pos h

theorem closed_of_open {cs : List Char} (h : cs.getLast? ≠ some '/') : closed cs = cs ++ ['/'] := if_neg h

/-- A separator behind a text that has none at its end closes it as it would have been closed. -/
theorem closed_concat {cs : List Char} (h : cs.getLast? ≠ some '/') : closed (cs ++ ['/']) = closed cs := by
  rw [closed_of_open h, closed_of_closed List.getLast?_concat]

theorem shut_address (build subpath : String) : ∃ init, (address build subpath).toList = init ++ ['/'] := by
  rw [address, String.toList_ofList]
  exact closed_shut _

theorem addressChars_build {build : List Char} (h : build.getLast? ≠ some '/') (subpath : List Char) :
    addressChars (build ++ ['/']) subpath = addressChars build subpath := by
  rw [addressChars, addressChars, closed_concat h]

theorem addressChars_before (build subpath : List Char) (n : Nat) :
    addressChars build (List.replicate n '/' ++ subpath) = addressChars build subpath := by
  rw [addressChars, addressChars, List.dropWhile_append_of_pos fun c hc => beq_iff_eq.mpr (List.eq_of_mem_replicate hc)]

theorem addressChars_behind {subpath : List Char} (h : (subpath.dropWhile (· == '/')).getLast? ≠ some '/') (build : List Char) :
    addressChars build (subpath ++ ['/']) = addressChars build subpath := by
  rw [addressChars, addressChars, List.dropWhile_append]
  split
  · -- of slashes alone nothing is left, with one more or without
    rename_i hnothing
    rw [List.isEmpty_iff.mp hnothing]
    rfl
  · rename_i hsome
    obtain ⟨c, hlast⟩ := Option.isSome_iff_exists.mp
      (List.getLast?_isSome.mpr fun hnil => hsome (List.isEmpty_iff.mpr hnil))
    rw [← List.append_assoc]
    refine closed_concat ?_
    rwa [List.getLast?_append, hlast, Option.some_or, ← hlast]

/-- The base depends on its parts through the text that they make. -/
theorem ofBuild_congr {build build' subpath subpath' : String}
    (h : addressChars build.toList subpath.toList = addressChars build'.toList subpath'.toList) :
    ofBuild build subpath = ofBuild build' subpath' := by
  have haddress : address build subpath = address build' subpath' := congrArg String.ofList h
  unfold ofBuild
  rw [haddress]

/-- A base, or what is wrong with its text, is the same with a separator more between its parts or behind them,
and the text of a base ends with one. -/
theorem base_ignores_separators (build subpath : String) :
    (build.toList.getLast? ≠ some '/' → ofBuild (build ++ "/") subpath = ofBuild build subpath) ∧
    (∀ n, ofBuild build (String.ofList (List.replicate n '/') ++ subpath) = ofBuild build subpath) ∧
    ((subpath.toList.dropWhile (· == '/')).getLast? ≠ some '/' → ofBuild build (subpath ++ "/") = ofBuild build subpath) ∧
    ∀ base, ofBuild build subpath = .ok base → base.text.toList.getLast? = some '/' := by
  refine ⟨fun h => ofBuild_congr ?_, fun n => ofBuild_congr ?_, fun h => ofBuild_congr ?_, fun base hbase => ?_⟩
  · rw [String.toList_append]
    exact addressChars_build h _
  · rw [String.toList_append, String.toList_ofList]
    exact addressChars_before _ _ n
  · rw [String.toList_append]
    exact addressChars_behind h _
  · obtain ⟨init, haddress⟩ := shut_address build subpath
    obtain ⟨ss, hss⟩ := base.exists_segments
    obtain ⟨before, hbefore⟩ := Url.shut_text haddress (parse_of_ofBuild hbase) hss
    rw [text, hbefore]
    exact List.getLast?_concat

/-- The library of a job is one base however its parts are joined. -/
theorem a_library_is_one_base : ∃ base, ofBuild "http://[::]/job" "lib" = .ok base ∧
    ofBuild ("http://[::]/job" ++ "/") "lib" = .ok base ∧
    ofBuild "http://[::]/job" (String.ofList (List.replicate 2 '/') ++ "lib") = .ok base ∧
    ofBuild "http://[::]/job" ("lib" ++ "/") = .ok base ∧ base.text.toList.getLast? = some '/' := by
  have hread : (ofBuild "http://[::]/job" "lib").toOption.isSome = true := by decide +kernel
  obtain ⟨base, hsome⟩ := Option.isSome_iff_exists.mp hread
  have hbase := ok_of_toOption hsome
  obtain ⟨hbuild, hbefore, hbehind, hlast⟩ := base_ignores_separators "http://[::]/job" "lib"
  exact ⟨base, hbase, (hbuild (by decide)).trans hbase, (hbefore 2).trans hbase, (hbehind (by decide)).trans hbase,
    hlast base hbase⟩

end ArtifactBase

end BuildHarvest
