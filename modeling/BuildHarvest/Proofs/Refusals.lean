/-
  BuildHarvest.Proofs.Refusals — settings that are refused.

  A key, in the settings file or in a variable's name, leads into a field; one that is no path leads
  into the field of its own name. Laying sources over one another keeps every field that a key leads
  into and makes none up (`mem_names_merged`), whatever stands under the key.

  Proved:
  - A key that leads into no field of a plan is never passed over: with it, no plan is read. A refusal
    that calls a name unknown is of a name that a key leads into (`no_key_is_ignored`).
  - A workspace is called missing just where no source gives one, or where what the highest source
    gives is a list, a table or nothing (`missing_workspace_meaning`). So a list is called missing
    (`a_list_is_called_a_missing_workspace`), while a list for any other field is refused for its kind.
-/

import BuildHarvest.Proofs.Layers

namespace BuildHarvest.Settings

/-! ## Keys -/

/-- A key of the settings file, or of a variable. -/
inductive HasKey (v : Volume) (name? : Option String) (vars : Variables) : String → Prop
  | file {table : List (String × Value)} {key : String} {value : Value} :
      HoldsTable v name? table → (key, value) ∈ table → HasKey v name? vars key
  | environment {x : Bytes × Bytes} {key : String} : x ∈ vars → Environment.key? x.1 = some key → HasKey v name? vars key

/-- The settings file and the variables, which are laid over the file. -/
def merged (sources : List Entries) : Entries := sources.foldl (fun es source => source.over es) []

theorem layered_eq (vars : Variables) (sources : List Entries) (o : Overrides) :
    layered vars sources o = o.entries.over ((merged sources).over (defaults ++ workspaceDefault vars)) := rfl

theorem laid_merged (sources : List Entries) : Entries.Laid (merged sources) := Entries.laid_foldl sources Entries.laid_nil

section

variable {v : Volume} {name? : Option String} {vars : Variables} {sources : List Entries}

theorem fileEntries_ok {name : String} {entries : Entries} (h : fileEntries v name = .ok entries) :
    ∃ table origin, HoldsTable v (some name) table ∧ entries = entriesOf origin table [] := by
  unfold fileEntries at h
  obtain ⟨⟨file, format⟩, hlocate, h⟩ := bind_ok h
  dsimp only at h
  split at h
  · cases h
  · rename_i octets hoctets
    split at h
    · cases h
    · rename_i table htable
      obtain rfl := Except.ok.inj h
      exact ⟨table, .file (shownName v file), .read hlocate hoctets htable, rfl⟩

/-- Sources that are read are a table and the variables' values. -/
theorem merged_of_sourceEntries (h : sourceEntries v name? vars = .ok sources) : ∃ table values origin,
    HoldsTable v name? table ∧ Environment.read vars = .ok values ∧
      merged sources = Entries.over (entriesOf .environment values []) (Entries.over (entriesOf origin table []) []) := by
  unfold sourceEntries at h
  obtain ⟨file, hfile, h⟩ := bind_ok h
  obtain ⟨values, hvalues, h⟩ := bind_ok h
  obtain rfl := Except.ok.inj h
  cases name? with
  | none =>
    obtain rfl := Except.ok.inj hfile
    exact ⟨[], values, .environment, .absent, hvalues, rfl⟩
  | some name =>
    rw [Option.mapM_some] at hfile
    obtain ⟨entries, hentries, hfile⟩ := bind_ok hfile
    obtain rfl := Except.ok.inj hfile
    obtain ⟨table, origin, htable, rfl⟩ := fileEntries_ok hentries
    exact ⟨table, values, origin, htable, hvalues, rfl⟩

/-- The fields in the file and the variables are those that their keys lead into. -/
theorem mem_names_merged (h : sourceEntries v name? vars = .ok sources) {n : String} :
    n ∈ (merged sources).names ↔ ∃ key, HasKey v name? vars key ∧ rootOf key = n := by
  obtain ⟨table, values, origin, htable, hvalues, hmerged⟩ := merged_of_sourceEntries h
  have hsource (o : Origin) (xs : List (String × Value)) :
      (∃ e ∈ entriesOf o xs [], rootOf e.1 = n) ↔ ∃ key ∈ xs.map Prod.fst, rootOf key = n := by
    have hnames : ∀ key, key ∈ (entriesOf o xs []).names ↔ key ∈ xs.map Prod.fst := by
      intro key
      rw [mem_names_entriesOf, Entries.names_nil, or_iff_left List.not_mem_nil]
    simp only [← hnames, Entries.names, List.mem_map, exists_exists_and_eq_and]
  rw [hmerged, Entries.mem_names_over, Entries.mem_names_over, Entries.names_nil, or_iff_left List.not_mem_nil, hsource, hsource,
    read_keys hvalues]
  constructor
  · rintro (⟨key, hkey, hroot⟩ | ⟨key, hkey, hroot⟩)
    · obtain ⟨x, hx, hkey⟩ := List.mem_filterMap.mp hkey
      exact ⟨key, .environment hx hkey, hroot⟩
    · obtain ⟨e, he, rfl⟩ := List.mem_map.mp hkey
      exact ⟨e.1, .file htable he, hroot⟩
  · rintro ⟨key, hkey, hroot⟩
    cases hkey with
    | file htable' hmem =>
      rw [htable'.unique htable] at hmem
      exact .inr ⟨key, List.mem_map_of_mem hmem, hroot⟩
    | environment hx hkey => exact .inl ⟨key, List.mem_filterMap.mpr ⟨_, hx, hkey⟩, hroot⟩

end

/-! ## Names that are called unknown -/

section

variable {α β : Type}

/-- Nothing is refused for a name that is unknown. -/
def BlamesNoName (x : Except SettingsFault α) : Prop := ∀ n, x ≠ .error (unknownField n)

theorem blamesNoName_ok (a : α) : BlamesNoName (.ok a) := by
  intro n h
  cases h

theorem blamesNoName_bind {x : Except SettingsFault α} {f : α → Except SettingsFault β} (hx : BlamesNoName x)
    (hf : ∀ a, BlamesNoName (f a)) : BlamesNoName (x >>= f) := by
  intro n h
  cases x with
  | error e => exact hx n (congrArg _ (Except.error.inj h))
  | ok a => exact hf a n h

theorem blamesNoName_mapM {f : α → Except SettingsFault β} (hf : ∀ a, BlamesNoName (f a)) (xs : List α) : BlamesNoName (xs.mapM f) := by
  induction xs with
  | nil => exact blamesNoName_ok []
  | cons x xs ih =>
    rw [List.mapM_cons]
    exact blamesNoName_bind (hf x) fun _ => blamesNoName_bind ih fun _ => blamesNoName_ok _

theorem blamesNoName_readText (key : String) (s : Setting) : BlamesNoName (readText key s) := by
  intro n h
  unfold readText at h
  dsimp only at h
  split at h
  · split at h <;> cases h
  · cases h

theorem blamesNoName_readTexts (key : String) (s : Setting) : BlamesNoName (readTexts key s) := by
  unfold readTexts
  split
  · exact blamesNoName_mapM (fun _ => blamesNoName_readText _ _) _
  · intro n h
    cases h

theorem blamesNoName_readPolicy (key : String) (s : Setting) : BlamesNoName (readPolicy key s) := by
  intro n h
  unfold readPolicy at h
  dsimp only at h
  split at h
  · cases h
  · split at h <;> cases h

theorem unknownField_inj {m n : String} (h : unknownField m = unknownField n) : m = n := by
  have htext := congrArg String.toList (SettingsFault.message.inj h)
  simp only [String.toList_append, List.append_assoc] at htext
  exact String.toList_inj.mp (List.append_cancel_right (List.append_cancel_left htext))

/-- The two messages begin with different words. -/
theorem fault_ne_unknownField (key : String) (value : Bytes) (n : String) : Environment.fault key value ≠ unknownField n := by
  intro h
  have htext := congrArg String.toList (SettingsFault.message.inj h)
  simp [String.toList_append] at htext

theorem blamesNoName_read (vars : Variables) : BlamesNoName (Environment.read vars) := by
  induction vars with
  | nil => exact blamesNoName_ok []
  | cons x vars ih =>
    unfold Environment.read
    split
    · exact ih
    · split
      · exact fun n h => fault_ne_unknownField _ _ n (Except.error.inj h)
      · exact blamesNoName_bind ih fun _ => blamesNoName_ok _

theorem blamesNoName_fileEntries (v : Volume) (name : String) : BlamesNoName (fileEntries v name) := by
  unfold fileEntries
  refine blamesNoName_bind ?_ fun found => ?_
  · intro n h
    unfold locate at h
    dsimp only at h
    split at h
    · split at h <;> cases h
    · split at h <;> cases h
  · intro n h
    dsimp only at h
    split at h
    · cases h
    · split at h <;> cases h

theorem blamesNoName_sourceEntries (v : Volume) (name? : Option String) (vars : Variables) :
    BlamesNoName (sourceEntries v name? vars) := by
  unfold sourceEntries
  refine blamesNoName_bind ?_ fun _ => blamesNoName_bind (blamesNoName_read vars) fun _ => blamesNoName_ok _
  cases name? with
  | none => exact blamesNoName_ok none
  | some name =>
    rw [Option.mapM_some]
    exact blamesNoName_bind (blamesNoName_fileEntries v name) fun _ => blamesNoName_ok _

/-- A name that is called unknown is one, and stands among the settings. -/
theorem configOf_unknownField {es : Entries} {n : String} (h : configOf es = .error (.settings (unknownField n))) :
    n ∈ es.names ∧ n ∉ fieldNames := by
  unfold configOf at h
  split at h
  · cases hconfig : readConfig es with
    | ok c =>
      rw [hconfig] at h
      cases h
    | error e =>
      rw [hconfig] at h
      obtain rfl := Failure.settings.inj (Except.error.inj h)
      unfold readConfig at hconfig
      split at hconfig
      · rename_i name s hfind
        obtain rfl := unknownField_inj (Except.error.inj hconfig)
        exact ⟨List.mem_map_of_mem (List.mem_of_find?_eq_some hfind), by simpa using List.find?_some hfind⟩
      · exfalso
        refine blamesNoName_bind (blamesNoName_readText _ _) (fun _ => ?_) n hconfig
        refine blamesNoName_bind (blamesNoName_readText _ _) fun _ => ?_
        refine blamesNoName_bind (blamesNoName_readText _ _) fun _ => ?_
        refine blamesNoName_bind (blamesNoName_readTexts _ _) fun _ => ?_
        refine blamesNoName_bind (blamesNoName_readText _ _) fun _ => ?_
        refine blamesNoName_bind (blamesNoName_readText _ _) fun _ => ?_
        refine blamesNoName_bind (blamesNoName_readText _ _) fun _ => ?_
        exact blamesNoName_bind (blamesNoName_readPolicy _ _) fun _ => blamesNoName_ok _
  · cases h

end

/-! ## Keys that lead into no field -/

section

variable {name? : Option String} {vars : Variables} {sources : List Entries} {o : Overrides} {w : World}

/-- Among all settings, the names that are no field's are those that keys lead into: laying others over them or under
them takes none away, and brings fields alone. -/
theorem mem_names_layered {v : Volume} (h : sourceEntries v name? vars = .ok sources) {n : String} (hn : n ∉ fieldNames) :
    n ∈ (layered vars sources o).names ↔ ∃ key, HasKey v name? vars key ∧ rootOf key = n := by
  have habove : ¬ ∃ e ∈ o.entries, rootOf e.1 = n := by
    rintro ⟨e, he, hroot⟩
    have hfield := ((tidy_overrides o).takes e he).1
    rw [← hroot, rootOf_field hfield] at hn
    exact hn hfield
  have hbelow : n ∉ Entries.names (defaults ++ workspaceDefault vars) := by
    intro hmem
    obtain ⟨e, he, rfl⟩ := List.mem_map.mp hmem
    exact hn ((tidy_defaults vars).takes e he).1
  have hmerged : (∃ e ∈ merged sources, rootOf e.1 = n) ↔ n ∈ (merged sources).names := by
    have hroot (e : String × Setting) (he : e ∈ merged sources) : rootOf e.1 = e.1 :=
      (laid_merged sources).rooted e.1 (List.mem_map_of_mem he)
    constructor
    · rintro ⟨e, he, rfl⟩
      rw [hroot e he]
      exact List.mem_map_of_mem he
    · intro hmem
      obtain ⟨e, he, rfl⟩ := List.mem_map.mp hmem
      exact ⟨e, he, hroot e he⟩
  rw [layered_eq, Entries.mem_names_over, Entries.mem_names_over, or_iff_right habove, or_iff_left hbelow, hmerged,
    mem_names_merged h]

/-- No key is passed over, whatever stands under it and whatever the other sources say; and a name is called unknown
only where a key leads into it and there is no such field. -/
theorem no_key_is_ignored (name? : Option String) (vars : Variables) (o : Overrides) (w : World) :
    (∀ key, HasKey w.volume name? vars key → rootOf key ∉ fieldNames → ∃ e, ((load name? vars o).on w).1 = .error e) ∧
    ∀ n, ((load name? vars o).on w).1 = .error (.settings (unknownField n)) →
      n ∉ fieldNames ∧ ∃ key, HasKey w.volume name? vars key ∧ rootOf key = n := by
  rw [on_load]
  cases hsources : sourceEntries w.volume name? vars with
  | error e =>
    refine ⟨fun _ _ _ => ⟨.settings e, rfl⟩, fun n h => ?_⟩
    obtain rfl := Failure.settings.inj (Except.error.inj h)
    exact absurd hsources (blamesNoName_sourceEntries w.volume name? vars n)
  | ok sources =>
    constructor
    · intro key hkey hroot
      cases hconfig : configOf (layered vars sources o) with
      | error e => exact ⟨e, hconfig⟩
      | ok c =>
        have hmem : rootOf key ∈ (layered vars sources o).names := (mem_names_layered hsources hroot).mpr ⟨key, hkey, rfl⟩
        obtain ⟨e, he, hname⟩ := List.mem_map.mp hmem
        exact absurd (hname ▸ field_of_configOf hconfig e he) hroot
    · intro n h
      obtain ⟨hmem, hn⟩ := configOf_unknownField h
      exact ⟨hn, (mem_names_layered hsources hn).mp hmem⟩

/-- A job's variables, one of them for a field that there is not. -/
def retryingJob : Variables := [(Utf8.encode "WORKSPACE", Utf8.encode "w"), (Utf8.encode "ARTISYNC_RETRIES.MAX", [])]

theorem a_limit_of_retries_is_not_ignored : HasKey (Sync.smallWorld []).volume none retryingJob "retries.max" ∧
    rootOf "retries.max" = "retries" ∧ "retries" ∉ fieldNames ∧
    ((load none retryingJob ⟨none, none, none, none, none⟩).on (Sync.smallWorld [])).1 =
      .error (.settings (unknownField "retries")) ∧
    (∃ e, ((load none retryingJob ⟨none, none, none, none, none⟩).on (Sync.smallWorld [])).1 = .error e) ∧
    ∃ key, HasKey (Sync.smallWorld []).volume none retryingJob key ∧ rootOf key = "retries" := by
  have hkey : HasKey (Sync.smallWorld []).volume none retryingJob "retries.max" :=
    .environment (List.mem_cons_of_mem _ List.mem_cons_self) (by decide +kernel)
  have hroot : rootOf "retries.max" = "retries" := by decide +kernel
  have hfailure : (load none retryingJob ⟨none, none, none, none, none⟩).failure? (Sync.smallWorld []) =
      some (.settings (unknownField "retries")) := by decide +kernel
  obtain ⟨w', hon⟩ := Action.failure?_eq_some.mp hfailure
  have hload : ((load none retryingJob ⟨none, none, none, none, none⟩).on (Sync.smallWorld [])).1 =
      .error (.settings (unknownField "retries")) := by rw [hon]
  obtain ⟨herror, hcalled⟩ := no_key_is_ignored none retryingJob ⟨none, none, none, none, none⟩ (Sync.smallWorld [])
  obtain ⟨hn, hkeys⟩ := hcalled "retries" hload
  exact ⟨hkey, hroot, hn, hload, herror "retries.max" hkey (hroot ▸ hn), hkeys⟩

end

/-! ## A missing workspace -/

/-- What the highest source says of the workspace that says anything of it. -/
def givenWorkspace (vars : Variables) (sources : List Entries) (o : Overrides) : Option Setting :=
  (o.workspace.map fun p => .text p.text).or
    (((merged sources).get? "workspace").or ((textOf? vars workspaceVariable).map .text))

/-- No source says anything of the workspace. -/
structure NoneGiven (v : Volume) (name? : Option String) (vars : Variables) (o : Overrides) : Prop where
  above : o.workspace = none
  keys : ∀ key, HasKey v name? vars key → rootOf key ≠ "workspace"
  job : textOf? vars workspaceVariable = none

section

variable {name? : Option String} {vars : Variables} {sources : List Entries} {o : Overrides} {w : World}

theorem givenWorkspace_eq_none {v : Volume} (h : sourceEntries v name? vars = .ok sources) :
    givenWorkspace vars sources o = none ↔ NoneGiven v name? vars o := by
  have hkeys : (merged sources).get? "workspace" = none ↔ ∀ key, HasKey v name? vars key → rootOf key ≠ "workspace" := by
    rw [Entries.get?_eq_none, mem_names_merged h]
    exact ⟨fun h key hkey hroot => h ⟨key, hkey, hroot⟩, fun h ⟨key, hkey, hroot⟩ => h key hkey hroot⟩
  rw [givenWorkspace, Option.or_eq_none_iff, Option.or_eq_none_iff, Option.map_eq_none_iff, Option.map_eq_none_iff, hkeys]
  exact ⟨fun ⟨habove, hkeys, hjob⟩ => ⟨habove, hkeys, hjob⟩, fun ⟨habove, hkeys, hjob⟩ => ⟨habove, hkeys, hjob⟩⟩

/-- The workspace is read from what the highest source says of it. -/
theorem workspace_layered (vars : Variables) (sources : List Entries) (o : Overrides) :
    ((layered vars sources o).get? "workspace").bind Setting.asText? = (givenWorkspace vars sources o).bind Setting.asText? := by
  have hplain : Key.IsPlain "workspace" := plain_of_field _ (by decide)
  have habove : o.entries.get? "workspace" = o.workspace.map fun p => .text p.text := by
    simp [Overrides.entries, Entries.get?_append, Entries.get?_option]
  have hbelow : Entries.get? (defaults ++ workspaceDefault vars) "workspace" = (textOf? vars workspaceVariable).map .text := by
    simp [defaults, workspaceDefault, Entries.get?_option, Entries.get?_cons]
  have hlayered : (layered vars sources o).get? "workspace" = (o.workspace.map fun p => .text p.text).or
      ((((merged sources).get? "workspace").map fun s => assign s (((textOf? vars workspaceVariable).map .text).getD .nil)).or
        ((textOf? vars workspaceVariable).map .text)) := by
    rw [layered_eq, (tidy_overrides o).get?_over (by decide), (laid_merged sources).get?_over hplain, habove, hbelow]
  rw [hlayered, givenWorkspace]
  cases o.workspace with
  | some p => rfl
  | none =>
    cases (merged sources).get? "workspace" with
    | some s => exact asText?_assign s _
    | none => rfl

/-- Where the sources can be read, a workspace is called missing where none is given, or where a list, a table or nothing is.
A plan holds the text that is given. -/
theorem missing_workspace_meaning (h : sourceEntries w.volume name? vars = .ok sources) :
    (givenWorkspace vars sources o = none ↔ NoneGiven w.volume name? vars o) ∧
    (((load name? vars o).on w).1 = .error noWorkspace ↔
      NoneGiven w.volume name? vars o ∨ ∃ s ∈ givenWorkspace vars sources o, s.asText? = none) ∧
    ((((load name? vars o).on w).1 = .error noWorkspace ↔ NoneGiven w.volume name? vars o) ↔
      ∀ s ∈ givenWorkspace vars sources o, s.asText? ≠ none) ∧
    ∀ c, ((load name? vars o).on w).1 = .ok c →
      ∃ s ∈ givenWorkspace vars sources o, ∃ t ∈ s.asText?, c.workspace = .ofText t := by
  have hload : ((load name? vars o).on w).1 = configOf (layered vars sources o) := by rw [on_load, h]
  have hmissing : ((load name? vars o).on w).1 = .error noWorkspace ↔
      (givenWorkspace vars sources o).bind Setting.asText? = none := by
    rw [hload, configOf_noWorkspace, workspace_layered]
  have hnone := givenWorkspace_eq_none (o := o) h
  refine ⟨hnone, ?_, ?_, fun c hc => ?_⟩
  · rw [hmissing, ← hnone]
    cases givenWorkspace vars sources o with
    | none => simp
    | some s => simp
  · rw [hmissing, ← hnone]
    cases givenWorkspace vars sources o with
    | none => simp
    | some s => simp
  · rw [hload] at hc
    obtain ⟨t, ht, hworkspace⟩ := (configOf_ok hc).workspace
    rw [readText_eq_ok, asText?_field, workspace_layered] at ht
    obtain ⟨s, hs, hst⟩ := Option.bind_eq_some_iff.mp ht
    exact ⟨s, hs, t, hst, hworkspace⟩

/-- A job's own directory is not missing. -/
theorem the_directory_of_a_job_is_a_workspace :
    (∃ sources, sourceEntries (Sync.smallWorld []).volume none [(Utf8.encode "WORKSPACE", Utf8.encode "w")] = .ok sources) ∧
    ((load none [(Utf8.encode "WORKSPACE", Utf8.encode "w")] ⟨none, none, none, none, none⟩).on (Sync.smallWorld [])).1 ≠
      .error noWorkspace := by
  have hkey : Environment.key? (Utf8.encode "WORKSPACE") = none := by decide +kernel
  have hjob : textOf? [(Utf8.encode "WORKSPACE", Utf8.encode "w")] workspaceVariable = some "w" := by decide +kernel
  have hsources : sourceEntries (Sync.smallWorld []).volume none [(Utf8.encode "WORKSPACE", Utf8.encode "w")] = .ok [[]] := by
    simp only [sourceEntries, Environment.read, hkey]
    rfl
  have hgiven : givenWorkspace [(Utf8.encode "WORKSPACE", Utf8.encode "w")] [[]] ⟨none, none, none, none, none⟩ = some (.text "w") := by
    rw [givenWorkspace, hjob]
    rfl
  obtain ⟨hnone, hmissing, -⟩ := missing_workspace_meaning (o := ⟨none, none, none, none, none⟩) hsources
  refine ⟨⟨_, hsources⟩, fun hload => ?_⟩
  rcases hmissing.mp hload with hnothing | ⟨s, hs, htext⟩
  · rw [← hnone, hgiven] at hnothing
    cases hnothing
  · rw [hgiven] at hs
    obtain rfl := Option.some.inj hs
    cases htext

/-- A settings file that gives a list for the workspace. -/
def listedWorld : World := Sync.smallWorld [([Utf8.encode "s.toml"], .file (Utf8.encode "workspace = []"))]

theorem a_list_is_called_a_missing_workspace :
    (∃ sources, sourceEntries listedWorld.volume (some "s.toml") [] = .ok sources) ∧
    HasKey listedWorld.volume (some "s.toml") [] "workspace" ∧
    (load (some "s.toml") [] ⟨none, none, none, none, none⟩).failure? listedWorld = some noWorkspace := by
  have hlocate : (locate listedWorld.volume "s.toml").toOption = some (.ofText "/s.toml", .toml) := by decide +kernel
  have hread : (listedWorld.volume.readFile (.ofText "/s.toml")).toOption = some (Utf8.encode "workspace = []") := by
    decide +kernel
  have hkeys : (Format.toml.read? (charsOf (Utf8.encode "workspace = []"))).map (List.map Prod.fst) = some ["workspace"] := by
    decide +kernel
  obtain ⟨table, htable, hkeys⟩ := Option.map_eq_some_iff.mp hkeys
  have hfile : HoldsTable listedWorld.volume (some "s.toml") table := .read (ok_of_toOption hlocate) (ok_of_toOption hread) htable
  obtain ⟨sources, _, hsources, _⟩ := sourceEntries_ok hfile (show Environment.read [] = .ok [] from rfl)
  obtain ⟨e, he, hname⟩ := List.mem_map.mp (hkeys ▸ List.mem_cons_self : "workspace" ∈ table.map Prod.fst)
  refine ⟨⟨sources, hsources⟩, ?_, ?_⟩
  · rw [← hname]
    exact .file hfile he
  · decide +kernel

end

end BuildHarvest.Settings
