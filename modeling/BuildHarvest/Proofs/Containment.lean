/-
  BuildHarvest.Proofs.Containment — what a manifest takes is one name in a directory, and no more.

  A path is told by its components (`components_append`). Its parent is the path without the last of
  them (`components_parent`), and a name among them is one step down (`isName_of_mem_components`).

  Proved (`entries_stay_in_their_directory`), of every list of texts:
  - It is a manifest exactly when each text is free of backslashes and is, as a path, one name that
    is the whole text. The manifest is then the list as it was given; otherwise the first text that
    is no such name is refused.
  - Joined to a directory, an entry is the last component, and the directory is what is above it.
  - A download of the entries writes to such paths alone, and where no entry is a link it changes
    nothing on the volume but entries of the directory itself.
-/

import BuildHarvest.Proofs.Download

namespace BuildHarvest

namespace Path

/-! ## Components -/

/-- What parts say. -/
def said (parts : List Bytes) : List Component := (parts.filter (!isMute ·)).map Component.ofPart

/-- What the opening of a path says. -/
def first (head : Bytes) : List Component :=
  if head = [separator] then [.root] else if head = [dot] then [.here] else []

theorem components_eq (p : Path) : p.components = first p.opening.1 ++ said p.opening.2 := rfl

theorem said_append (a b : List Bytes) : said (a ++ b) = said a ++ said b := by
  rw [said, List.filter_append, List.map_append]
  rfl

theorem said_mute {parts : List Bytes} (h : ∀ part ∈ parts, isMute part = true) : said parts = [] := by
  rw [said, List.filter_eq_nil_iff.mpr]
  · rfl
  · intro part hp
    simp [h part hp]

theorem isMute_name {n : Bytes} (h : IsName n) : isMute n = false := by
  have hempty : n.isEmpty = false := List.isEmpty_eq_false_iff.mpr h.1
  rw [isMute, hempty, Bool.false_or]
  exact beq_eq_false_iff_ne.mpr h.2.1

theorem said_name {n : Bytes} (h : IsName n) : said [n] = [.name n] := by
  simp [said, isMute_name h, Component.ofPart, h.2.2.1]

/-- What stands behind a separator is said behind what stands before it. -/
theorem components_append {a : Bytes} (ha : a ≠ []) (b : Bytes) :
    components ⟨a ++ separator :: b⟩ = components ⟨a⟩ ++ said (splitOn separator b) := by
  obtain ⟨x, rest, rfl⟩ := List.exists_cons_of_ne_nil ha
  have hsplit (xs : Bytes) : said (splitOn separator (xs ++ separator :: b)) =
      said (splitOn separator xs) ++ said (splitOn separator b) := by
    rw [splitOn_append, said_append]
  have hcons (y : UInt8) (ys : Bytes) : said (splitOn separator (y :: (ys ++ separator :: b))) =
      said (splitOn separator (y :: ys)) ++ said (splitOn separator b) := hsplit (y :: ys)
  rw [components_eq, components_eq]
  by_cases hroot : x = separator
  · simp only [opening, List.cons_append, if_pos hroot, hsplit, List.append_assoc]
  · by_cases hdot : x = dot
    · cases rest with
      | nil =>
        simp only [opening, List.cons_append, List.nil_append, if_neg hroot, if_pos hdot, if_true, splitOn_cons_self]
        rfl
      | cons c rest =>
        by_cases hc : c = separator
        · simp only [opening, List.cons_append, if_neg hroot, if_pos hdot, if_pos hc, hcons, List.append_assoc]
        · have hpair : said (splitOn separator (x :: c :: (rest ++ separator :: b))) =
              said (splitOn separator (x :: c :: rest)) ++ said (splitOn separator b) := hcons x (c :: rest)
          simp only [opening, List.cons_append, if_neg hroot, if_pos hdot, if_neg hc, hpair, List.append_assoc]
    · simp only [opening, List.cons_append, if_neg hroot, if_neg hdot, hcons, List.append_assoc]

theorem components_root (b : Bytes) : components ⟨separator :: b⟩ = .root :: said (splitOn separator b) := rfl

theorem components_name {n : Bytes} (h : IsName n) : components ⟨n⟩ = [.name n] := by
  have hsplit : splitOn separator n = [n] := splitOn_of_not_mem separator h.2.2.2
  obtain ⟨x, rest, rfl⟩ := List.exists_cons_of_ne_nil h.1
  have hroot : x ≠ separator := by
    rintro rfl
    exact h.2.2.2 List.mem_cons_self
  rw [components_eq, ← said_name h, ← hsplit]
  by_cases hdot : x = dot
  · cases rest with
    | nil => exact absurd (by rw [hdot]) h.2.1
    | cons c rest =>
      have hc : c ≠ separator := by
        rintro rfl
        exact h.2.2.2 (by simp)
      simp only [opening, if_neg hroot, if_pos hdot, if_neg hc]
      rfl
  · simp only [opening, if_neg hroot, if_neg hdot]
    rfl

/-- A name among the components of a path is one step down from any directory. -/
theorem isName_of_mem_components {p : Path} {n : Bytes} (h : .name n ∈ p.components) : IsName n := by
  have hfirst : .name n ∉ first p.opening.1 := by
    unfold first
    repeat' split
    all_goals simp
  rw [components_eq] at h
  obtain ⟨part, hpart, hname⟩ := List.mem_map.mp ((List.mem_append.mp h).resolve_left hfirst)
  obtain ⟨hmem, hsays⟩ := List.mem_filter.mp hpart
  have hup : part ≠ [dot, dot] := by
    rintro rfl
    cases hname
  rw [Component.ofPart, if_neg hup] at hname
  obtain rfl := Component.name.inj hname
  refine ⟨?_, ?_, hup, (Volume.opens_opening p).2 part hmem⟩
  · rintro rfl
    cases hsays
  · rintro rfl
    revert hsays
    decide

theorem components_eq_name_iff {n : Bytes} : components ⟨n⟩ = [.name n] ↔ IsName n := by
  constructor
  · intro h
    apply isName_of_mem_components (p := ⟨n⟩)
    rw [h]
    exact List.mem_singleton_self _
  · exact components_name

/-! ## Parents -/

theorem components_head {head : Bytes} {parts : List Bytes} (h : Volume.Opens head parts) : components ⟨head⟩ = first head := by
  obtain ⟨rfl | rfl | ⟨rfl, -⟩, -⟩ := h
  · rfl
  · rfl
  · rfl

theorem said_around {last : Bytes} {mid muted : List Bytes} (hlast : isMute last = false)
    (hmid : ∀ part ∈ mid, isMute part = true) (hmuted : ∀ part ∈ muted, isMute part = true) :
    said (mid ++ last :: muted) = [Component.ofPart last] := by
  have hone : said [last] = [Component.ofPart last] := by
    rw [said, List.filter_cons_of_pos (by rw [hlast]; rfl)]
    rfl
  rw [← List.singleton_append, said_append, said_append, said_mute hmid, said_mute hmuted, hone]
  rfl

/-- A text of parts, cut behind some of them. -/
theorem joinWith_cut (sep : UInt8) {a b : List Bytes} (ha : a ≠ []) (hb : b ≠ []) :
    joinWith sep (a ++ b) = joinWith sep a ++ sep :: joinWith sep b := by
  induction a with
  | nil => exact absurd rfl ha
  | cons x a ih =>
    cases a with
    | nil =>
      obtain ⟨y, rest, rfl⟩ := List.exists_cons_of_ne_nil hb
      rfl
    | cons y a =>
      have hrest : joinWith sep (y :: (a ++ b)) = joinWith sep (y :: a) ++ sep :: joinWith sep b := ih (List.cons_ne_nil y a)
      show x ++ sep :: joinWith sep (y :: (a ++ b)) = (x ++ sep :: joinWith sep (y :: a)) ++ sep :: joinWith sep b
      rw [hrest, List.append_assoc, List.cons_append]

/-- A path cut behind some of its parts, the last of which is not empty. -/
theorem components_cut (p : Path) (kept more : List Bytes) (h : p.opening.2 = kept ++ more) (hmore : more ≠ [])
    (hend : ∀ init last, kept = init ++ [last] → last ≠ []) :
    p.components = components ⟨p.opening.1 ++ joinWith separator kept⟩ ++ said more := by
  have hopen := Volume.opens_opening p
  have hoctets := octets_opening p
  rw [h] at hopen hoctets
  rcases List.eq_nil_or_concat kept with rfl | ⟨init, last, hlast⟩
  · rw [components_eq, h, List.nil_append, joinWith, List.append_nil, components_head hopen]
  · rw [List.concat_eq_append] at hlast
    have hkept : kept ≠ [] := by simp [hlast]
    have hne : p.opening.1 ++ joinWith separator kept ≠ [] := by
      have hlength := joinWith_concat_length separator init (hend init last hlast)
      rw [← hlast] at hlength
      have hjoin : joinWith separator kept ≠ [] := List.ne_nil_of_length_pos (by omega)
      simp [hjoin]
    have hp : p = ⟨(p.opening.1 ++ joinWith separator kept) ++ separator :: joinWith separator more⟩ := by
      rw [List.append_assoc, ← joinWith_cut separator hkept hmore, ← hoctets]
    have hpieces : ∀ part ∈ more, separator ∉ part := fun part hpart => hopen.2 part (List.mem_append_right _ hpart)
    conv => lhs; rw [hp, components_append hne, splitOn_joinWith separator hmore hpieces]

/-- The parent of a path is the path without its last component. -/
theorem components_parent {p q : Path} (h : p.parent = some q) : ∃ c, p.components = q.components ++ [c] := by
  have hcut := components_cut p
  have hcomponents := components_eq p
  unfold parent at h
  generalize p.opening = o at h hcut hcomponents
  obtain ⟨head, parts⟩ := o
  simp only at h hcut hcomponents
  rcases Volume.parts_cases parts with ⟨hd, hmute⟩ | ⟨mid, last, muted, hd, hparts, hlast, hmid, hmuted⟩
  · rw [hd] at h
    simp only at h
    split at h
    · rename_i hdot
      obtain rfl := Option.some.inj h
      refine ⟨.here, ?_⟩
      rw [hcomponents, said_mute hmute, hdot]
      rfl
    · cases h
  · obtain ⟨part, more, hsaid⟩ := List.exists_cons_of_ne_nil hd
    rw [hsaid] at h hparts
    obtain rfl := Option.some.inj h
    refine ⟨Component.ofPart last, ?_⟩
    rw [hcut _ _ hparts (by simp) (fun init last hkept => dropMuteEnd_getLast hkept), said_around hlast hmid hmuted]

/-- Only what says nothing, and a root alone, have no parent. -/
theorem components_of_no_parent {p : Path} (h : p.parent = none) : p.components = [] ∨ p.components = [.root] := by
  have hcomponents := components_eq p
  unfold parent at h
  generalize p.opening = o at h hcomponents
  obtain ⟨head, parts⟩ := o
  simp only at h hcomponents
  rcases Volume.parts_cases parts with ⟨hd, hmute⟩ | ⟨mid, last, muted, hd, -⟩
  · rw [hd] at h
    simp only at h
    split at h
    · cases h
    · rename_i hdot
      rw [hcomponents, said_mute hmute, List.append_nil, first, if_neg hdot]
      split
      · exact .inr rfl
      · exact .inl rfl
  · obtain ⟨part, more, hsaid⟩ := List.exists_cons_of_ne_nil hd
    rw [hsaid] at h
    cases h

/-! ## A name in a directory -/

/-- A path that names an entry of a directory: its last component is the name, and above it is the
directory. Paths of the same components are the same. -/
structure IsEntryOf (p d : Path) (n : Bytes) : Prop where
  fileName : p.fileName = some n
  parent : ∃ q, p.parent = some q ∧ q.components = d.components

theorem isEntryOf_of_components {p d : Path} {n : Bytes} (h : p.components = d.components ++ [.name n]) : p.IsEntryOf d n where
  fileName := by rw [Path.fileName, h, List.getLast?_concat]
  parent := by
    cases hp : p.parent with
    | none =>
      exfalso
      rcases components_of_no_parent hp with hnone | hroot
      · simp [h] at hnone
      · have hlast := congrArg List.getLast? hroot
        rw [h, List.getLast?_concat] at hlast
        cases hlast
    | some q =>
      obtain ⟨c, hc⟩ := components_parent hp
      rw [h] at hc
      exact ⟨q, rfl, (List.append_inj_left' hc rfl).symm⟩

/-- A name joined to a directory stands behind the directory's own components. -/
theorem components_join_name (d : Path) {n : Bytes} (h : IsName n) : (d.join ⟨n⟩).components = d.components ++ [.name n] := by
  have hsplit : said (splitOn separator n) = [.name n] := by rw [splitOn_of_not_mem separator h.2.2.2, said_name h]
  obtain ⟨d⟩ := d
  simp only [join, Volume.isAbsolute_name h, Bool.false_eq_true, if_false]
  split
  · rename_i hend
    rcases List.eq_nil_or_concat d with rfl | ⟨init, last, rfl⟩
    · exact components_name h
    · -- one separator is there already: what is before it is the directory
      have hlast : last = separator := by simpa [Path.isEmpty] using hend
      subst hlast
      rw [List.concat_eq_append, List.append_assoc, List.singleton_append]
      by_cases hinit : init = []
      · subst hinit
        rw [List.nil_append, components_root, hsplit]
        rfl
      · rw [components_append hinit, components_append hinit, hsplit]
        show _ = components ⟨init⟩ ++ said [[]] ++ _
        rw [said_mute (by simp [isMute]), List.append_nil]
  · rename_i hend
    have hd : d ≠ [] := by
      rintro rfl
      exact hend rfl
    rw [components_append hd, hsplit]

end Path

/-! ## Entries -/

namespace Manifest

/-- A text that is free of backslashes and is, as a path, one name that is the whole text. -/
def IsSingle (e : String) : Prop := '\\' ∉ e.toList ∧ (Path.ofText e).components = [.name (Utf8.encode e)]

theorem fault?_eq_none_iff {e : String} : fault? e = none ↔ IsSingle e := by
  constructor
  · intro h
    obtain ⟨-, -, hsep⟩ := of_sound h
    exact ⟨fun hback => hsep (.inr hback), Path.components_name (isName_of_sound h)⟩
  · rintro ⟨hback, hname⟩
    obtain ⟨hne, hdot, hdots, hsep⟩ := Path.components_eq_name_iff.mp hname
    have chars (cs : List Char) (h : e.toList = cs) : Utf8.encode e = Utf8.encodeChars cs := congrArg Utf8.encodeChars h
    have hslash : '/' ∉ e.toList := fun hmem => hsep (List.mem_flatMap.mpr ⟨'/', hmem, List.mem_singleton_self _⟩)
    have hnodots : ¬ (e.toList = ['.'] ∨ e.toList = ['.', '.']) :=
      not_or.mpr ⟨fun h => hdot (chars _ h), fun h => hdots (chars _ h)⟩
    rw [fault?, if_neg (fun h => hne (chars [] h)), if_neg hnodots, if_neg (not_or.mpr ⟨hslash, hback⟩)]

theorem firstFault?_eq_none_iff {entries : List String} : firstFault? entries = none ↔ ∀ e ∈ entries, IsSingle e := by
  simp only [firstFault?, List.findSome?_eq_none_iff, Option.map_eq_none_iff, fault?_eq_none_iff]

/-- A list is refused for the first of its texts that is no single name. -/
theorem firstFault?_eq_some {entries : List String} {e : String} {fault : EntryFault} (h : firstFault? entries = some (e, fault)) :
    ∃ before after, entries = before ++ e :: after ∧ (∀ x ∈ before, IsSingle x) ∧ ¬ IsSingle e := by
  obtain ⟨before, x, after, hentries, hx, hbefore⟩ := List.findSome?_eq_some_iff.mp h
  obtain ⟨fault', hfault, hpair⟩ := Option.map_eq_some_iff.mp hx
  obtain ⟨rfl, rfl⟩ := Prod.mk.inj hpair
  refine ⟨before, after, hentries, fun y hy => ?_, fun hsingle => ?_⟩
  · exact fault?_eq_none_iff.mp (Option.map_eq_none_iff.mp (hbefore y hy))
  · rw [fault?_eq_none_iff.mpr hsingle] at hfault
    cases hfault

theorem ofEntries_ok_iff {entries : List String} {m : Manifest} :
    ofEntries entries = .ok m ↔ (∀ e ∈ entries, IsSingle e) ∧ m.entries = entries := by
  rw [← firstFault?_eq_none_iff]
  unfold ofEntries
  split
  · rename_i h
    rw [h]
    constructor
    · intro hok
      cases hok
    · rintro ⟨hnone, -⟩
      cases hnone
  · rename_i h
    constructor
    · intro hok
      obtain rfl := Except.ok.inj hok
      exact ⟨h, rfl⟩
    · rintro ⟨-, rfl⟩
      rfl

theorem ofEntries_error {entries : List String} {failure : Failure} (h : ofEntries entries = .error failure) :
    ∃ before e after reason, entries = before ++ e :: after ∧ (∀ x ∈ before, IsSingle x) ∧ ¬ IsSingle e ∧
      failure = .invalidEntry e reason := by
  unfold ofEntries at h
  split at h
  · rename_i e fault hfirst
    obtain ⟨before, after, hentries, hbefore, he⟩ := firstFault?_eq_some hfirst
    exact ⟨before, e, after, fault.reason, hentries, hbefore, he, (Except.error.inj h).symm⟩
  · cases h

theorem isEntryOf_join {e : String} (h : IsSingle e) (d : Path) : (d.join (.ofText e)).IsEntryOf d (Utf8.encode e) :=
  Path.isEntryOf_of_components (Path.components_join_name d (Path.components_eq_name_iff.mp h.2))

end Manifest

/-! ## Downloads of entries -/

namespace Download

variable {agent : Option String} {policy : FailurePolicy} {items : List Item} {dir : Path} {d : Loc} {w : World}

/-- A download changes nothing but files in its directory with the names of its items, where none of these is a link. -/
theorem all_inside (hd : w.volume.LeadsTo dir d) (hn : ∀ item ∈ items, Path.IsName (Utf8.encode item.filename))
    (hl : ∀ item ∈ items, ∀ target, w.volume.tree.get? (d ++ [Utf8.encode item.filename]) ≠ some (.link target)) {l : Loc}
    (hchanged : ((all agent items dir policy).on w).2.volume.tree.get? l ≠ w.volume.tree.get? l) :
    ∃ item ∈ items, l = d ++ [Utf8.encode item.filename] := by
  obtain ⟨w', hall, hvolume, -⟩ := all_on agent dir policy items w
  obtain ⟨-, hname, hother⟩ := @attempts_get? agent dir policy items.length 0 items w d hd hn hl
  rw [hall, hvolume] at hchanged
  by_cases hin : ∃ name, l = d ++ [name]
  · obtain ⟨name, rfl⟩ := hin
    cases hlast : lastDeposit? agent dir (attempts agent dir policy items w) name with
    | none =>
      refine absurd ?_ hchanged
      rw [attempts, hname, ← attempts, hlast]
      rfl
    | some contents =>
      obtain ⟨a, ha, rfl, -⟩ := mem_of_lastDeposit? hlast
      exact ⟨a.item, (attempt_spec agent dir policy ha).1, rfl⟩
  · exact absurd (hother l fun name he => hin ⟨name, he⟩) hchanged

end Download

/-! ## Manifests -/

/-- A manifest is a list of single names, and its entries stay in the directory that they are joined to. -/
theorem Manifest.entries_stay_in_their_directory (entries : List String) :
    ((∃ m, Manifest.ofEntries entries = .ok m) ↔ ∀ e ∈ entries, IsSingle e) ∧
    (∀ failure, Manifest.ofEntries entries = .error failure → ∃ before e after reason, entries = before ++ e :: after ∧
      (∀ x ∈ before, IsSingle x) ∧ ¬ IsSingle e ∧ failure = .invalidEntry e reason) ∧
    ∀ m, Manifest.ofEntries entries = .ok m →
      (m.entries = entries ∧ m.toList = entries ∧ m.size = entries.length ∧ m.isEmpty = entries.isEmpty) ∧
      (∀ e ∈ entries, ∀ d : Path, (d.join (.ofText e)).IsEntryOf d (Utf8.encode e)) ∧
      ∀ base dir, (∀ item ∈ Item.ofManifest base m, (Download.fileOf dir item).IsEntryOf dir (Utf8.encode item.filename)) ∧
        ∀ agent policy w d, w.volume.LeadsTo dir d →
          (∀ e ∈ entries, ∀ target, w.volume.tree.get? (d ++ [Utf8.encode e]) ≠ some (.link target)) →
          ∀ l, ((Download.all agent (Item.ofManifest base m) dir policy).on w).2.volume.tree.get? l ≠ w.volume.tree.get? l →
            ∃ e ∈ entries, l = d ++ [Utf8.encode e] := by
  refine ⟨?_, fun failure h => Manifest.ofEntries_error h, fun m hm => ?_⟩
  · constructor
    · rintro ⟨m, hm⟩
      exact (Manifest.ofEntries_ok_iff.mp hm).1
    · intro h
      exact ⟨⟨entries, fun e he => Manifest.fault?_eq_none_iff.mpr (h e he)⟩, Manifest.ofEntries_ok_iff.mpr ⟨h, rfl⟩⟩
  · obtain ⟨hsingle, rfl⟩ := Manifest.ofEntries_ok_iff.mp hm
    have hitem : ∀ base, ∀ item ∈ Item.ofManifest base m, item.filename ∈ m.entries := by
      intro base item hi
      obtain ⟨e, he, rfl⟩ := List.mem_map.mp hi
      exact he
    refine ⟨⟨rfl, rfl, rfl, rfl⟩, fun e he => Manifest.isEntryOf_join (hsingle e he), fun base dir => ⟨?_, ?_⟩⟩
    · exact fun item hi => Manifest.isEntryOf_join (hsingle _ (hitem base item hi)) dir
    · intro agent policy w d hd hl l hchanged
      obtain ⟨item, hi, rfl⟩ := Download.all_inside hd
        (fun item hi => Path.components_eq_name_iff.mp (hsingle _ (hitem base item hi)).2)
        (fun item hi => hl _ (hitem base item hi)) hchanged
      exact ⟨item.filename, hitem base item hi, rfl⟩

/-- A library directory, and a server that has a file whose name opens with two dots. -/
def dottedWorld : World where
  volume := ⟨⟨[([Utf8.encode "l"], .dir), ([Utf8.encode "old"], .file [1])], []⟩, []⟩
  network := ⟨true, [⟨"http://[::]/job/..a", 200, [66], none, none, []⟩], []⟩
  notices := []

/-- Two dots that open a name lead nowhere: the file is in its directory, and nothing beside it has changed. -/
theorem Manifest.two_dots_that_open_a_name_lead_nowhere : ∃ m base, Manifest.ofEntries ["..a", "b"] = .ok m ∧
    m.toList = ["..a", "b"] ∧ ((Path.ofText "l/").join (.ofText "..a")).IsEntryOf (.ofText "l/") (Utf8.encode "..a") ∧
    (∃ w', ((Download.all none (Item.ofManifest base m) (.ofText "l") .bestEffort).on dottedWorld).2 = w' ∧
      w'.volume.tree.get? [Utf8.encode "l", Utf8.encode "..a"] = some (.file [66]) ∧
      w'.volume.tree.get? [Utf8.encode "old"] = some (.file [1])) ∧
    ∃ reason, Manifest.ofEntries ["b", "../a", ""] = .error (.invalidEntry "../a" reason) := by
  obtain ⟨hok, -, hmanifest⟩ := Manifest.entries_stay_in_their_directory ["..a", "b"]
  have hsound : ∀ e ∈ ["..a", "b"], Manifest.fault? e = none := by decide
  obtain ⟨m, hm⟩ := hok.mpr fun e he => Manifest.fault?_eq_none_iff.mp (hsound e he)
  obtain ⟨⟨-, hlist, -⟩, hentry, hdownload⟩ := hmanifest m hm
  have hurls : (ArtifactBase.ofBuild "http://[::]/job" "").toOption.map (fun base => ["..a", "b"].map base.urlOf) =
      some ["http://[::]/job/..a", "http://[::]/job/b"] := by decide +kernel
  obtain ⟨base, -, hurls⟩ := Option.map_eq_some_iff.mp hurls
  have hitems : Item.ofManifest base m = [⟨"..a", "http://[::]/job/..a"⟩, ⟨"b", "http://[::]/job/b"⟩] := by
    obtain ⟨hfirst, hrest⟩ := List.cons.inj hurls
    rw [Item.ofManifest, hlist, List.map_cons, List.map_cons, hfirst, (List.cons.inj hrest).1]
    rfl
  have hd : dottedWorld.volume.LeadsTo (.ofText "l") [Utf8.encode "l"] := ⟨ok_of_toOption (by decide +kernel), by decide +kernel⟩
  have hfree : dottedWorld.volume.tree.LinkFree := Tree.linkFree_of_entries (by decide +kernel)
  refine ⟨m, base, hm, hlist, hentry "..a" (by decide) _, ⟨_, rfl, ?_, ?_⟩, _, rfl⟩
  · rw [hitems]
    decide +kernel
  · refine Classical.byContradiction fun hchanged => ?_
    obtain ⟨e, -, he⟩ := (hdownload base (.ofText "l")).2 none .bestEffort dottedWorld [Utf8.encode "l"] hd
      (fun e _ target => hfree _ target) [Utf8.encode "old"] hchanged
    exact absurd (congrArg List.length he) (by simp)

end BuildHarvest
