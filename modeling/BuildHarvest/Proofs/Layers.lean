/-
  BuildHarvest.Proofs.Layers — each field comes from the highest source that sets it.

  A `Layer` is what one source says of each field, read off the source itself: a settings file's
  table, the variables, what stands above. Layers lie on one another field by field (`Layer.onto`).

  Proved (`fields_from_highest_source`), where a file and the variables hold texts for the eight
  fields, and a list of texts for the manifest:
  - Where some source names a workspace, the settings are read, and each field is what the highest
    source says that says anything of it; a manifest comes from one source as a whole.
  - The one refusal is of a variable that holds no policy's name, unless something stands above it
    (`a_policy_of_no_name_is_refused`).
-/

import BuildHarvest.Proofs.Entries
import BuildHarvest.Proofs.Fields
import BuildHarvest.Proofs.Report
import BuildHarvest.Proofs.Sync

namespace BuildHarvest

theorem Path.text_ofText (s : String) : (Path.ofText s).text = s := by
  show Utf8.lossy (Utf8.encodeChars s.toList) = s
  rw [Utf8.lossy, Utf8.lossyChars, Utf8.pieces_encodeChars, List.map_map]
  show String.ofList (s.toList.map id) = s
  rw [List.map_id, String.ofList_toList]

namespace Settings

/-! ## Layers -/

/-- What a source says of each field; nothing of a field that it leaves alone. -/
structure Layer where
  workspace : Option Path
  feedUrl : Option String
  artifactSubpath : Option String
  manifest : Option (List String)
  statusFile : Option String
  workDir : Option String
  libDir : Option String
  failurePolicy : Option String
  deriving DecidableEq, Repr

namespace Layer

/-- The upper layer, and the lower where the upper says nothing. -/
def onto (upper lower : Layer) : Layer where
  workspace := upper.workspace.or lower.workspace
  feedUrl := upper.feedUrl.or lower.feedUrl
  artifactSubpath := upper.artifactSubpath.or lower.artifactSubpath
  manifest := upper.manifest.or lower.manifest
  statusFile := upper.statusFile.or lower.statusFile
  workDir := upper.workDir.or lower.workDir
  libDir := upper.libDir.or lower.libDir
  failurePolicy := upper.failurePolicy.or lower.failurePolicy

/-- A layer out of the texts that stand under the fields' names. -/
def ofTexts (text : String → Option String) (manifest : Option (List String)) : Layer where
  workspace := (text "workspace").map .ofText
  feedUrl := text "feed_url"
  artifactSubpath := text "artifact_subpath"
  manifest := manifest
  statusFile := text "status_file"
  workDir := text "work_dir"
  libDir := text "lib_dir"
  failurePolicy := text "failure_policy"

/-- A plan is what a layer says. -/
structure Gives (l : Layer) (c : Config) : Prop where
  workspace : l.workspace = some c.workspace
  feedUrl : l.feedUrl = some c.feedUrl
  artifactSubpath : l.artifactSubpath = some c.artifactSubpath
  manifest : l.manifest = some c.manifest
  statusFile : l.statusFile = some c.statusFile
  workDir : l.workDir = some c.workDir
  libDir : l.libDir = some c.libDir
  failurePolicy : l.failurePolicy = some c.failurePolicy.text

def defaults : Layer where
  workspace := none
  feedUrl := some "http://hudson-sca.us.oracle.com/view/JAX-WS/view/WLS/job/jaxws-ri-wls/api/xml"
  artifactSubpath := some "artifact/jaxws-ri/dist/jaxws-ri/lib/"
  manifest := some ["jsr181-api.jar", "common.sdo.jar"]
  statusFile := some "urlretrieve.xml"
  workDir := some "jaxwstop4"
  libDir := some "libDir"
  failurePolicy := some "fail_fast"

/-- The calling job's own directory. -/
def ofJob (vars : Variables) : Layer where
  workspace := (textOf? vars "WORKSPACE").map .ofText
  feedUrl := none
  artifactSubpath := none
  manifest := none
  statusFile := none
  workDir := none
  libDir := none
  failurePolicy := none

def ofOverrides (o : Overrides) : Layer where
  workspace := o.workspace
  feedUrl := o.feedUrl
  artifactSubpath := o.artifactSubpath
  manifest := o.manifest
  statusFile := none
  workDir := none
  libDir := none
  failurePolicy := o.failurePolicy.map FailurePolicy.text

end Layer

/-! ## Sources -/

/-- The text that a value is. -/
def Value.text? : Value → Option String
  | .scalar (.text s) => some s
  | _ => none

/-- The texts that a list is. -/
def Value.texts? : Value → Option (List String)
  | .list items => items.mapM Value.text?
  | _ => none

def Layer.ofTable (table : List (String × Value)) : Layer :=
  .ofTexts (fun name => (last? table name).bind Value.text?) ((last? table "manifest").bind Value.texts?)

/-- A field and a value of its kind. -/
def Fits (name : String) (v : Value) : Prop :=
  name ∈ fieldNames ∧
  if name = "manifest" then ∃ ss, v.texts? = some ss
  else if name = "failure_policy" then ∃ p : FailurePolicy, v.text? = some p.text
  else ∃ s, v.text? = some s

/-- The table in the settings file of a name; without a name there is none. -/
inductive HoldsTable (v : Volume) : Option String → List (String × Value) → Prop
  | absent : HoldsTable v none []
  | read {name : String} {file : Path} {format : Format} {octets : Bytes} {table : List (String × Value)} :
      locate v name = .ok (file, format) → v.readFile file = .ok octets → format.read? (charsOf octets) = some table →
      HoldsTable v (some name) table

/-- The texts between commas. -/
def piecesOf (s : String) : List String := (splitOn ',' s.toList).map String.ofList

/-- The settings that stand in variables. -/
def stated (vars : Variables) : List (String × String) :=
  vars.filterMap fun x => (Environment.key? x.1).bind fun key => (Utf8.decode? x.2).map (key, ·)

def Layer.ofVariables (vars : Variables) : Layer :=
  .ofTexts (last? (stated vars)) ((last? (stated vars) "manifest").map piecesOf)

/-- A name has one file, and the file one table. -/
theorem HoldsTable.unique {v : Volume} {name? : Option String} {table other : List (String × Value)}
    (h : HoldsTable v name? table) (h' : HoldsTable v name? other) : table = other := by
  cases h with
  | absent =>
    cases h'
    rfl
  | read hlocate hoctets htable =>
    cases h' with
    | read hlocate' hoctets' htable' =>
      obtain ⟨rfl, rfl⟩ := Prod.mk.inj (Except.ok.inj (hlocate.symm.trans hlocate'))
      obtain rfl := Except.ok.inj (hoctets.symm.trans hoctets')
      exact Option.some.inj (htable.symm.trans htable')

/-- Text that is neither a truth value nor a number. -/
def ReadsAsText (s : String) : Prop :=
  (Environment.bool? s).isNone ∧ (Decimal.int? s.toList).isNone ∧ (Decimal.float? s.toList).isNone

instance (s : String) : Decidable (ReadsAsText s) := inferInstanceAs (Decidable (_ ∧ _ ∧ _))

/-- The program's own variables are named for fields, and hold text. -/
def Wellnamed (vars : Variables) : Prop :=
  ∀ x ∈ vars, ∀ key ∈ Environment.key? x.1, key ∈ fieldNames ∧ ∃ s ∈ Utf8.decode? x.2, ReadsAsText s

instance (vars : Variables) : Decidable (Wellnamed vars) :=
  inferInstanceAs (Decidable (∀ x ∈ vars, ∀ key ∈ Environment.key? x.1,
    key ∈ fieldNames ∧ ∃ s ∈ Utf8.decode? x.2, ReadsAsText s))

/-- What all sources say, the higher over the lower. -/
def Layer.highest (o : Overrides) (vars : Variables) (table : List (String × Value)) : Layer :=
  (ofOverrides o).onto ((ofVariables vars).onto ((ofTable table).onto ((ofJob vars).onto defaults)))

/-! ## Settings as layers -/

/-- A setting of the kind that a field takes. -/
def Takes (name : String) (s : Setting) : Prop :=
  name ∈ fieldNames ∧ if name = "manifest" then ∃ ss, s.texts? = some ss else ∃ t, s.text? = some t

/-- Settings of fields alone, each once and of the field's kind. -/
structure Tidy (es : Entries) : Prop where
  once : es.names.Nodup
  takes : ∀ e ∈ es, Takes e.1 e.2

def Layer.ofEntries (es : Entries) : Layer :=
  .ofTexts (fun name => (es.get? name).bind Setting.text?) ((es.get? "manifest").bind Setting.texts?)

theorem plain_of_field : ∀ name ∈ fieldNames, Key.IsPlain name := by
  unfold Key.IsPlain
  decide

theorem rootOf_field {name : String} (hn : name ∈ fieldNames) : rootOf name = name := rootOf_plain (plain_of_field name hn)

theorem Takes.isWhole {name : String} {s : Setting} (h : Takes name s) : Entries.IsWhole s := by
  intro old
  cases s with
  | scalar => rfl
  | list => rfl
  | table =>
    exfalso
    obtain ⟨-, h⟩ := h
    split at h <;> obtain ⟨_, h⟩ := h <;> cases h

namespace Tidy

variable {source below : Entries} {name : String}

theorem takes_get? (h : Tidy source) {s : Setting} (hs : source.get? name = some s) : Takes name s := by
  obtain ⟨l₁, l₂, rfl, -⟩ := List.lookup_eq_some_iff.mp hs
  exact h.takes (name, s) (List.mem_append_right _ List.mem_cons_self)

theorem direct (h : Tidy source) (name : String) : Entries.Direct name source where
  once := h.once
  itself := fun e he hroot => by
    have htakes := h.takes e he
    rw [rootOf_field htakes.1] at hroot
    exact ⟨hroot, htakes.isWhole⟩

theorem get?_over (h : Tidy source) (hn : name ∈ fieldNames) :
    (source.over below).get? name = (source.get? name).or (below.get? name) :=
  Entries.get?_over (plain_of_field name hn) (h.direct name) below

theorem onto (h : Tidy source) (hb : Tidy below) : Tidy (source.over below) where
  once := Entries.nodup_over hb.once
  takes := by
    intro e he
    -- a name comes from above, as the root of one there, or from below
    have hn : e.1 ∈ fieldNames := by
      rcases Entries.mem_names_over.mp (List.mem_map_of_mem he) with ⟨e', hsource, hroot⟩ | hbelow
      · have hfield := (h.takes e' hsource).1
        rw [rootOf_field hfield] at hroot
        rw [← hroot]
        exact hfield
      · obtain ⟨e', hmem, hname⟩ := List.mem_map.mp hbelow
        rw [← hname]
        exact (hb.takes e' hmem).1
    have hget := Entries.get?_of_mem (Entries.nodup_over hb.once) (show (e.1, e.2) ∈ _ from he)
    rw [h.get?_over hn, Option.or_eq_some_iff] at hget
    rcases hget with hget | ⟨-, hget⟩
    · exact h.takes_get? hget
    · exact hb.takes_get? hget

/-- A field of a kind that a source sets hides what lies below. -/
theorem bind_over {α : Type} {read : Setting → Option α} (h : Tidy source) (hn : name ∈ fieldNames)
    (hread : ∀ s, Takes name s → ∃ a, read s = some a) (below : Entries) :
    ((source.over below).get? name).bind read = ((source.get? name).bind read).or ((below.get? name).bind read) := by
  rw [h.get?_over hn]
  cases hs : source.get? name with
  | none => rfl
  | some s =>
    obtain ⟨a, ha⟩ := hread s (h.takes_get? hs)
    rw [Option.some_or, Option.bind_some, ha, Option.some_or]

end Tidy

namespace Layer

theorem ofTexts_onto (upper lower : String → Option String) (m m' : Option (List String)) :
    (ofTexts upper m).onto (ofTexts lower m') = ofTexts (fun name => (upper name).or (lower name)) (m.or m') := by
  simp only [onto, ofTexts, Option.map_or]

theorem ofTexts_congr {text text' : String → Option String} {m m' : Option (List String)}
    (h : ∀ name ∈ fieldNames, name ≠ "manifest" → text name = text' name) (hm : m = m') :
    ofTexts text m = ofTexts text' m' := by
  simp only [ofTexts, hm, h "workspace" (by decide) (by decide), h "feed_url" (by decide) (by decide),
    h "artifact_subpath" (by decide) (by decide), h "status_file" (by decide) (by decide), h "work_dir" (by decide) (by decide),
    h "lib_dir" (by decide) (by decide), h "failure_policy" (by decide) (by decide)]

/-- Laying settings over others lays the layers they are over one another. -/
theorem ofEntries_over {source : Entries} (h : Tidy source) (below : Entries) :
    ofEntries (source.over below) = (ofEntries source).onto (ofEntries below) := by
  rw [ofEntries, ofEntries, ofEntries, ofTexts_onto]
  refine ofTexts_congr (fun name hn hm => h.bind_over hn (fun s hs => ?_) below) (h.bind_over (by decide) (fun s hs => ?_) below)
  · simpa only [if_neg hm] using hs.2
  · exact hs.2

end Layer

/-! ## Each source as a layer -/

section

variable {o : Origin}

theorem text?_ofValue (v : Value) : (Setting.ofValue o v).text? = v.text? := by
  cases v with
  | scalar s => cases s <;> rfl
  | list => rfl
  | table => rfl

theorem texts?_ofValue (v : Value) : (Setting.ofValue o v).texts? = v.texts? := by
  cases v with
  | scalar => rfl
  | table => rfl
  | list items =>
    show (listOf o items).mapM Setting.text? = items.mapM Value.text?
    induction items with
    | nil => rfl
    | cons v items ih => rw [listOf, List.mapM_cons, List.mapM_cons, text?_ofValue, ih]

theorem tidy_entriesOf {values : List (String × Value)} (h : ∀ x ∈ values, Takes x.1 (Setting.ofValue o x.2)) :
    Tidy (entriesOf o values []) where
  once := nodup_entriesOf List.nodup_nil
  takes := fun e he => by
    obtain ⟨v, hv, hs⟩ := exists_of_mem_entriesOf he
    rw [hs]
    exact h _ (mem_of_last? hv)

theorem Layer.ofEntries_entriesOf (values : List (String × Value)) : ofEntries (entriesOf o values []) = ofTable values := by
  have hget (name : String) : (entriesOf o values []).get? name = (last? values name).map (Setting.ofValue o) := by
    rw [get?_entriesOf]
    exact Option.or_none
  refine ofTexts_congr (fun name _ _ => ?_) ?_
  · rw [hget, Option.bind_map]
    exact congrArg _ (funext text?_ofValue)
  · rw [hget, Option.bind_map]
    exact congrArg _ (funext texts?_ofValue)

theorem Fits.takes {name : String} {v : Value} (h : Fits name v) : Takes name (Setting.ofValue o v) := by
  refine ⟨h.1, ?_⟩
  rw [text?_ofValue, texts?_ofValue]
  have hkind := h.2
  split at hkind
  · rwa [if_pos ‹_›]
  · rw [if_neg ‹_›]
    split at hkind
    · exact hkind.imp' FailurePolicy.text fun _ => id
    · exact hkind

end

/-! ## Variables -/

theorem valueOf_text {s : String} (h : ReadsAsText s) (key : String) : Environment.valueOf key s =
    if key = "manifest" then .list ((piecesOf s).map Value.text) else .text s := by
  obtain ⟨hbool, hint, hfloat⟩ := h
  rw [Environment.valueOf, Option.isNone_iff_eq_none.mp hbool, Option.isNone_iff_eq_none.mp hint,
    Option.isNone_iff_eq_none.mp hfloat, piecesOf, List.map_map]
  rfl

theorem texts?_texts (ss : List String) : (Value.list (ss.map Value.text)).texts? = some ss :=
  mapM_map Value.text Value.text? fun _ _ => rfl

/-- The keys that are read are those of the variables. -/
theorem read_keys {vars : Variables} {values : List (String × Value)} (h : Environment.read vars = .ok values) :
    values.map Prod.fst = vars.filterMap fun x => Environment.key? x.1 := by
  induction vars generalizing values with
  | nil =>
    obtain rfl := Except.ok.inj h
    rfl
  | cons x vars ih =>
    obtain ⟨name, value⟩ := x
    unfold Environment.read at h
    split at h
    · rename_i hkey
      rw [List.filterMap_cons_none (by exact hkey), ih h]
    · rename_i key hkey
      split at h
      · cases h
      · obtain ⟨rest, hrest, h⟩ := bind_ok h
        obtain rfl := Except.ok.inj h
        rw [List.filterMap_cons_some (by exact hkey), List.map_cons, ih hrest]

/-- The variables are read, each as what its text says. -/
theorem read_stated {vars : Variables} (h : Wellnamed vars) :
    Environment.read vars = .ok ((stated vars).map fun x => (x.1, Environment.valueOf x.1 x.2)) := by
  induction vars with
  | nil => rfl
  | cons x vars ih =>
    obtain ⟨name, value⟩ := x
    have hrest := ih fun x hx => h x (List.mem_cons_of_mem _ hx)
    unfold Environment.read
    cases hkey : Environment.key? name with
    | none => simp only [hrest, stated, List.filterMap_cons, hkey, Option.bind_none]
    | some key =>
      obtain ⟨-, s, hs, -⟩ := h (name, value) List.mem_cons_self key hkey
      have hdecode : Utf8.decode? value = some s := hs
      simp only [hrest, stated, List.filterMap_cons, hkey, hdecode, Option.bind_some, Option.map_some, List.map_cons]
      rfl

theorem stated_sound {vars : Variables} (h : Wellnamed vars) {x : String × String} (hx : x ∈ stated vars) :
    x.1 ∈ fieldNames ∧ ReadsAsText x.2 := by
  obtain ⟨var, hvar, hstated⟩ := List.mem_filterMap.mp hx
  obtain ⟨key, hkey, hstated⟩ := Option.bind_eq_some_iff.mp hstated
  obtain ⟨s, hs, rfl⟩ := Option.map_eq_some_iff.mp hstated
  obtain ⟨hfield, s', hs', htext⟩ := h var hvar key hkey
  obtain rfl := Option.some.inj (hs.symm.trans hs')
  exact ⟨hfield, htext⟩

theorem takes_variable {key s : String} (hkey : key ∈ fieldNames) (h : ReadsAsText s) :
    Takes key (Setting.ofValue .environment (Environment.valueOf key s)) := by
  refine ⟨hkey, ?_⟩
  rw [valueOf_text h, texts?_ofValue, text?_ofValue]
  split
  · exact ⟨_, texts?_texts _⟩
  · exact ⟨s, rfl⟩

theorem Layer.ofTable_variables {vars : Variables} (h : Wellnamed vars) :
    ofTable ((stated vars).map fun x => (x.1, Environment.valueOf x.1 x.2)) = ofVariables vars := by
  refine ofTexts_congr (fun name _ hm => ?_) ?_
  · rw [last?_map, Option.bind_map]
    cases hs : last? (stated vars) name with
    | none => rfl
    | some s =>
      show (Environment.valueOf name s).text? = some s
      rw [valueOf_text (stated_sound h (mem_of_last? hs)).2, if_neg hm]
      rfl
  · rw [last?_map, Option.bind_map]
    cases hs : last? (stated vars) "manifest" with
    | none => rfl
    | some s =>
      show (Environment.valueOf "manifest" s).texts? = some (piecesOf s)
      rw [valueOf_text (stated_sound h (mem_of_last? hs)).2, if_pos rfl, texts?_texts]

/-! ## What stands above and below -/

theorem texts?_textsOf (ss : List String) : (textsOf ss).texts? = some ss :=
  mapM_map Setting.text Setting.text? fun _ _ => rfl

@[simp]
theorem text?_text (t : String) : (Setting.text t).text? = some t := rfl

theorem takes_text (name : String) (hn : name ∈ fieldNames) (hm : name ≠ "manifest") (t : String) : Takes name (.text t) :=
  ⟨hn, by simp [hm]⟩

theorem takes_texts (ss : List String) : Takes "manifest" (textsOf ss) := ⟨by decide, ss, texts?_textsOf ss⟩

theorem tidy_overrides (o : Overrides) : Tidy o.entries where
  once := by
    have hsub : o.entries.names.Sublist
        (["workspace"] ++ ["feed_url"] ++ ["artifact_subpath"] ++ ["manifest"] ++ ["failure_policy"]) := by
      simp only [Entries.names, Overrides.entries, List.map_append]
      repeat' apply List.Sublist.append
      all_goals exact Entries.names_option _ _ _
    exact hsub.nodup (by decide)
  takes := by
    intro e he
    simp only [Overrides.entries, List.mem_append, Option.mem_toList, Option.map_eq_some_iff] at he
    rcases he with (((⟨p, -, rfl⟩ | ⟨s, -, rfl⟩) | ⟨s, -, rfl⟩) | ⟨ss, -, rfl⟩) | ⟨p, -, rfl⟩
    · exact takes_text "workspace" (by decide) (by decide) _
    · exact takes_text "feed_url" (by decide) (by decide) _
    · exact takes_text "artifact_subpath" (by decide) (by decide) _
    · exact takes_texts ss
    · exact takes_text "failure_policy" (by decide) (by decide) _

theorem Layer.ofEntries_overrides {o : Overrides} (h : ∀ p ∈ o.workspace, ∃ s, p = .ofText s) :
    ofEntries o.entries = ofOverrides o := by
  have hworkspace : (o.workspace.bind fun p => some (Path.ofText p.text)) = o.workspace := by
    cases hp : o.workspace with
    | none => rfl
    | some p =>
      obtain ⟨s, rfl⟩ := h p hp
      rw [Option.bind_some, Path.text_ofText]
  have hpolicy : (o.failurePolicy.bind fun p => some p.text) = o.failurePolicy.map FailurePolicy.text := by
    cases o.failurePolicy <;> rfl
  simp [ofEntries, ofTexts, ofOverrides, Overrides.entries, Entries.get?_append, Entries.get?_option, Option.bind_map,
    Function.comp_def, texts?_textsOf, hworkspace, hpolicy]

/-- What lies under every source: the built-in values, and the job's directory. -/
theorem tidy_defaults (vars : Variables) : Tidy (defaults ++ workspaceDefault vars) where
  once := by
    have hsub : (Entries.names (defaults ++ workspaceDefault vars)).Sublist (Entries.names defaults ++ ["workspace"]) := by
      rw [Entries.names, List.map_append]
      exact (List.Sublist.refl _).append (Entries.names_option _ _ _)
    exact hsub.nodup (by decide)
  takes := by
    intro e he
    rcases List.mem_append.mp he with he | he
    · simp only [defaults, List.mem_cons, List.not_mem_nil, or_false] at he
      rcases he with rfl | rfl | rfl | rfl | rfl | rfl | rfl
      · exact takes_text "feed_url" (by decide) (by decide) _
      · exact takes_text "artifact_subpath" (by decide) (by decide) _
      · exact takes_texts _
      · exact takes_text "status_file" (by decide) (by decide) _
      · exact takes_text "work_dir" (by decide) (by decide) _
      · exact takes_text "lib_dir" (by decide) (by decide) _
      · exact takes_text "failure_policy" (by decide) (by decide) _
    · simp only [workspaceDefault, Option.mem_toList, Option.map_eq_some_iff] at he
      obtain ⟨s, -, rfl⟩ := he
      exact takes_text "workspace" (by decide) (by decide) _

theorem Layer.ofEntries_defaults (vars : Variables) :
    ofEntries (Settings.defaults ++ workspaceDefault vars) = (ofJob vars).onto defaults := by
  simp [ofEntries, ofTexts, ofJob, onto, defaults, Settings.defaults, workspaceDefault, workspaceVariable, Entries.get?_option,
    Entries.get?_cons, texts?_textsOf, Option.bind_map, Function.comp_def, FailurePolicy.text]

/-! ## All sources together -/

theorem tidy_nil : Tidy [] where
  once := List.nodup_nil
  takes := fun _ he => nomatch he

namespace Layer

theorem onto_assoc (a b c : Layer) : (a.onto b).onto c = a.onto (b.onto c) := by simp only [onto, Option.or_assoc]

theorem onto_nothing (l : Layer) : l.onto (ofEntries []) = l := by
  simp [onto, ofEntries, ofTexts, Entries.get?]

/-- A layer that leaves no field open but perhaps the policy's name is a plan; a policy of no name is refused. -/
theorem plan {es : Entries} (h : Tidy es) (hworkspace : (ofEntries es).workspace ≠ none) (hfeed : (ofEntries es).feedUrl ≠ none)
    (hsubpath : (ofEntries es).artifactSubpath ≠ none) (hmanifest : (ofEntries es).manifest ≠ none)
    (hstatus : (ofEntries es).statusFile ≠ none) (hwork : (ofEntries es).workDir ≠ none) (hlib : (ofEntries es).libDir ≠ none)
    {policy : String} (hpolicy : (ofEntries es).failurePolicy = some policy) :
    match FailurePolicy.ofText? policy with
    | some _ => ∃ c, configOf es = .ok c ∧ (ofEntries es).Gives c
    | none => configOf es = .error (.settings (noSuchPolicy policy)) := by
  have hknown : unknown? es = none := by
    refine List.find?_eq_none.mpr fun e he => ?_
    simpa using (h.takes e he).1
  obtain ⟨workspace, hws⟩ : ∃ t, (es.get? "workspace").bind Setting.text? = some t := by
    refine Option.ne_none_iff_exists'.mp fun hnone => hworkspace ?_
    rw [ofEntries, ofTexts, hnone, Option.map_none]
  obtain ⟨feedUrl, hfeed⟩ := Option.ne_none_iff_exists'.mp hfeed
  obtain ⟨artifactSubpath, hsubpath⟩ := Option.ne_none_iff_exists'.mp hsubpath
  obtain ⟨manifest, hmanifest⟩ := Option.ne_none_iff_exists'.mp hmanifest
  obtain ⟨statusFile, hstatus⟩ := Option.ne_none_iff_exists'.mp hstatus
  obtain ⟨workDir, hwork⟩ := Option.ne_none_iff_exists'.mp hwork
  obtain ⟨libDir, hlib⟩ := Option.ne_none_iff_exists'.mp hlib
  have hconfig := configOf_eq hknown (readText_text (field_of_bind hws) _) (readText_text (field_of_bind hfeed) _)
    (readText_text (field_of_bind hsubpath) _) (readTexts_texts (field_of_bind hmanifest) _)
    (readText_text (field_of_bind hstatus) _) (readText_text (field_of_bind hwork) _) (readText_text (field_of_bind hlib) _)
  rw [readPolicy_text (field_of_bind hpolicy)] at hconfig
  cases hname : FailurePolicy.ofText? policy with
  | none =>
    rw [hname] at hconfig
    exact hconfig
  | some p =>
    rw [hname] at hconfig
    refine ⟨_, hconfig, ?_, hfeed, hsubpath, hmanifest, hstatus, hwork, hlib, ?_⟩
    · rw [ofEntries, ofTexts, hws]
      rfl
    · rw [hpolicy, FailurePolicy.text_of_ofText? hname]

end Layer

/-- The settings of a run, out of the table of its file and the values of its variables. -/
theorem sourceEntries_ok {v : Volume} {name? : Option String} {table values : List (String × Value)} {vars : Variables}
    (hfile : HoldsTable v name? table) (hread : Environment.read vars = .ok values) :
    ∃ sources origin, sourceEntries v name? vars = .ok sources ∧ ∀ o, layered vars sources o = o.entries.over
      (Entries.over (Entries.over (entriesOf .environment values []) (Entries.over (entriesOf origin table []) []))
        (defaults ++ workspaceDefault vars)) := by
  cases hfile with
  | absent =>
    refine ⟨[entriesOf .environment values []], .environment, ?_, fun o => rfl⟩
    simp only [sourceEntries, hread]
    rfl
  | @read name file format octets table hlocate hoctets htable =>
    refine ⟨[entriesOf (.file (shownName v file)) table [], entriesOf .environment values []],
      .file (shownName v file), ?_, fun o => rfl⟩
    have hentries : fileEntries v name = .ok (entriesOf (.file (shownName v file)) table []) := by
      simp only [fileEntries, hlocate, bind, Except.bind, hoctets, htable]
      rfl
    simp only [sourceEntries, Option.mapM_some, hentries, hread]
    rfl

/-! ## Each field from the highest source -/

variable {name? : Option String} {vars : Variables} {o : Overrides} {table : List (String × Value)} {w : World}

theorem load_layers (hfile : HoldsTable w.volume name? table) (htable : ∀ x ∈ table, Fits x.1 x.2) (hvars : Wellnamed vars)
    (ho : ∀ p ∈ o.workspace, ∃ s, p = .ofText s) :
    ∃ es, ((load name? vars o).on w).1 = configOf es ∧ Tidy es ∧ Layer.ofEntries es = Layer.highest o vars table := by
  obtain ⟨sources, origin, hsources, hlayered⟩ := sourceEntries_ok hfile (read_stated hvars)
  have hvariables : Tidy (entriesOf .environment ((stated vars).map fun x => (x.1, Environment.valueOf x.1 x.2)) []) := by
    apply tidy_entriesOf
    intro x hx
    obtain ⟨y, hy, rfl⟩ := List.mem_map.mp hx
    obtain ⟨hfield, htext⟩ := stated_sound hvars hy
    exact takes_variable hfield htext
  have htidy : Tidy (entriesOf origin table []) := tidy_entriesOf fun x hx => (htable x hx).takes
  -- the file is laid over nothing, and the variables over the file, before they meet the defaults
  have hfiled := htidy.onto tidy_nil
  have hmiddle := hvariables.onto hfiled
  refine ⟨_, ?_, (tidy_overrides o).onto (hmiddle.onto (tidy_defaults vars)), ?_⟩
  · rw [on_load, hsources, ← hlayered]
  · rw [Layer.ofEntries_over (tidy_overrides o), Layer.ofEntries_over hmiddle, Layer.ofEntries_over hvariables,
      Layer.ofEntries_over htidy, Layer.onto_nothing, Layer.ofEntries_overrides ho, Layer.ofEntries_entriesOf,
      Layer.ofEntries_entriesOf, Layer.ofTable_variables hvars, Layer.ofEntries_defaults, Layer.onto_assoc, Layer.highest]

theorem policy_of_table (htable : ∀ x ∈ table, Fits x.1 x.2) :
    ∀ s ∈ (Layer.ofTable table).failurePolicy, ∃ p : FailurePolicy, s = p.text := by
  intro s hs
  obtain ⟨v, hv, htext⟩ := Option.bind_eq_some_iff.mp hs
  obtain ⟨p, hp⟩ := (htable _ (mem_of_last? hv)).2
  exact ⟨p, Option.some.inj (htext.symm.trans hp)⟩

/-- Unless a variable decides, the policy is one. -/
theorem highest_policy (htable : ∀ x ∈ table, Fits x.1 x.2)
    (hvar : o.failurePolicy = none → ∀ s ∈ (Layer.ofVariables vars).failurePolicy, FailurePolicy.ofText? s ≠ none) :
    ∃ p : FailurePolicy, (Layer.highest o vars table).failurePolicy = some p.text := by
  show ∃ p : FailurePolicy, (o.failurePolicy.map FailurePolicy.text).or ((Layer.ofVariables vars).failurePolicy.or
    ((Layer.ofTable table).failurePolicy.or (some FailurePolicy.failFast.text))) = some p.text
  cases ho : o.failurePolicy with
  | some p => exact ⟨p, rfl⟩
  | none =>
    cases hv : (Layer.ofVariables vars).failurePolicy with
    | some s =>
      obtain ⟨p, hp⟩ := Option.ne_none_iff_exists'.mp (hvar ho s hv)
      exact ⟨p, by rw [FailurePolicy.text_of_ofText? hp, Option.map_none, Option.none_or, Option.some_or]⟩
    | none =>
      cases ht : (Layer.ofTable table).failurePolicy with
      | some s =>
        obtain ⟨p, rfl⟩ := policy_of_table htable s ht
        exact ⟨p, rfl⟩
      | none => exact ⟨.failFast, rfl⟩

/-- Each field is what the highest source says that says anything of it. A variable must name a
policy by its name, unless something stands above it. -/
theorem fields_from_highest_source (hfile : HoldsTable w.volume name? table) (htable : ∀ x ∈ table, Fits x.1 x.2)
    (hvars : Wellnamed vars) (ho : ∀ p ∈ o.workspace, ∃ s, p = .ofText s)
    (hworkspace : (Layer.highest o vars table).workspace ≠ none) :
    ((o.failurePolicy = none → ∀ s ∈ (Layer.ofVariables vars).failurePolicy, FailurePolicy.ofText? s ≠ none) →
      ∃ c, ((load name? vars o).on w).1 = .ok c ∧ (Layer.highest o vars table).Gives c) ∧
    (o.failurePolicy = none → ∀ s ∈ (Layer.ofVariables vars).failurePolicy, FailurePolicy.ofText? s = none →
      ((load name? vars o).on w).1 = .error (.settings (noSuchPolicy s))) := by
  obtain ⟨es, hload, htidy, hlayer⟩ := load_layers hfile htable hvars ho
  have hplan {policy : String} (hpolicy : (Layer.highest o vars table).failurePolicy = some policy) :
      match FailurePolicy.ofText? policy with
      | some _ => ∃ c, configOf es = .ok c ∧ (Layer.highest o vars table).Gives c
      | none => configOf es = .error (.settings (noSuchPolicy policy)) := by
    rw [← hlayer] at hworkspace hpolicy ⊢
    refine Layer.plan htidy hworkspace ?_ ?_ ?_ ?_ ?_ ?_ hpolicy
    all_goals simp [hlayer, Layer.highest, Layer.onto, Layer.defaults]
  constructor
  · intro hvar
    obtain ⟨p, hp⟩ := highest_policy htable hvar
    have hp' := hplan hp
    rw [FailurePolicy.ofText?_text] at hp'
    rw [hload]
    exact hp'
  · intro hover s hs hname
    have hp : (Layer.highest o vars table).failurePolicy = some s := by
      rw [Layer.highest, Layer.onto, Layer.ofOverrides, hover]
      show (Layer.ofVariables vars).failurePolicy.or _ = some s
      rw [Option.mem_def.mp hs, Option.some_or]
    have hp' := hplan hp
    rw [hname] at hp'
    rw [hload]
    exact hp'

/-- A settings file of two fields. -/
def filedWorld : World := Sync.smallWorld [([Utf8.encode "s.ini"], .file (Utf8.encode "lib_dir=libs\nwork_dir=low"))]

/-- A job's variables, one of them the program's own. -/
def jobVariables : Variables := [(Utf8.encode "WORKSPACE", Utf8.encode "w"), (Utf8.encode "ARTISYNC_WORK_DIR", Utf8.encode "high")]

theorem Value.eq_text {v : Value} {s : String} (h : v.text? = some s) : v = .text s := by
  unfold Value.text? at h
  split at h
  · obtain rfl := Option.some.inj h
    rfl
  · cases h

/-- A table of texts is known by them. -/
theorem table_of_texts {table : List (String × Value)} {texts : List (String × String)}
    (h : table.map (fun x => (x.1, x.2.text?)) = texts.map fun x => (x.1, some x.2)) :
    table = texts.map fun x => (x.1, .text x.2) := by
  induction texts generalizing table with
  | nil => exact List.map_eq_nil_iff.mp h
  | cons y texts ih =>
    obtain ⟨⟨name, v⟩, rest, rfl, hhead, hrest⟩ := List.map_eq_cons_iff.mp h
    obtain ⟨rfl, htext⟩ := Prod.mk.inj hhead
    rw [ih hrest, show v = .text y.2 from Value.eq_text htext]
    rfl

theorem filedWorld_table : HoldsTable filedWorld.volume (some "s.ini") [("lib_dir", .text "libs"), ("work_dir", .text "low")] := by
  have hlocate : (locate filedWorld.volume "s.ini").toOption = some (.ofText "/s.ini", .ini) := by decide +kernel
  have hread : (filedWorld.volume.readFile (.ofText "/s.ini")).toOption = some (Utf8.encode "lib_dir=libs\nwork_dir=low") := by
    decide +kernel
  have htexts : (Format.ini.read? (charsOf (Utf8.encode "lib_dir=libs\nwork_dir=low"))).map (List.map fun x => (x.1, x.2.text?)) =
      some ([("lib_dir", "libs"), ("work_dir", "low")].map fun x => (x.1, some x.2)) := by
    decide +kernel
  obtain ⟨table, htable, htexts⟩ := Option.map_eq_some_iff.mp htexts
  rw [table_of_texts htexts] at htable
  exact .read (ok_of_toOption hlocate) (ok_of_toOption hread) htable

theorem every_source_is_heard : ∃ c,
    ((load (some "s.ini") jobVariables ⟨none, none, none, some [], none⟩).on filedWorld).1 = .ok c ∧
    c.workspace = .ofText "w" ∧ c.manifest = [] ∧ c.workDir = "high" ∧ c.libDir = "libs" ∧ c.statusFile = "urlretrieve.xml" ∧
    c.failurePolicy = .failFast := by
  have hfits : ∀ x ∈ [("lib_dir", Value.text "libs"), ("work_dir", Value.text "low")], Fits x.1 x.2 := by
    simp [Fits, fieldNames, Value.text, Value.text?]
  obtain ⟨hplan, -⟩ := fields_from_highest_source filedWorld_table hfits
    (show Wellnamed jobVariables by decide +kernel) (fun _ hp => by cases hp)
    (show (Layer.highest ⟨none, none, none, some [], none⟩ jobVariables _).workspace ≠ none by decide +kernel)
  obtain ⟨c, hload, hgives⟩ := hplan (by decide +kernel)
  have hlayer : Layer.highest ⟨none, none, none, some [], none⟩ jobVariables
      [("lib_dir", .text "libs"), ("work_dir", .text "low")] = { Layer.defaults with
        workspace := some (.ofText "w"), manifest := some [], workDir := some "high", libDir := some "libs" } := by
    decide +kernel
  rw [hlayer] at hgives
  refine ⟨c, hload, ?_, ?_, ?_, ?_, ?_, ?_⟩
  · exact (Option.some.inj hgives.workspace).symm
  · exact (Option.some.inj hgives.manifest).symm
  · exact (Option.some.inj hgives.workDir).symm
  · exact (Option.some.inj hgives.libDir).symm
  · exact (Option.some.inj hgives.statusFile).symm
  · have hpolicy : FailurePolicy.failFast.text = c.failurePolicy.text := Option.some.inj hgives.failurePolicy
    cases hc : c.failurePolicy with
    | failFast => rfl
    | bestEffort =>
      rw [hc] at hpolicy
      exact absurd hpolicy (by decide)

/-- A job's variables, one of them for a policy that there is not. -/
def unknownPolicy : Variables := [(Utf8.encode "WORKSPACE", Utf8.encode "ws"),
  (Utf8.encode "ARTISYNC_FAILURE_POLICY", Utf8.encode "sometimes")]

theorem a_policy_of_no_name_is_refused : HoldsTable (Sync.smallWorld []).volume none [] ∧ Wellnamed unknownPolicy ∧
    (Layer.highest ⟨none, none, none, none, none⟩ unknownPolicy []).workspace = some (.ofText "ws") ∧
    (load none unknownPolicy ⟨none, none, none, none, none⟩).failure? (Sync.smallWorld []) =
      some (.settings (noSuchPolicy "sometimes")) := by
  refine ⟨.absent, ?_, ?_, ?_⟩
  · decide +kernel
  · decide +kernel
  · decide +kernel

end Settings

end BuildHarvest
