/-
  BuildHarvest.Proofs.Flags — a field's variable and its flag.

  Four fields can be set by a variable and by a flag. A variable's text is read as a truth value or
  a number where it is one, and a text field gets back what the value is shown as; a flag's text is
  taken as it is.

  Proved (`variable_means_flag`), whatever a settings file, the other variables and the other flags say:
  - A flag behind the other arguments sets its field and nothing else.
  - Where the text is shown again as it was, or for the manifest is no truth value and no number, the
    variable gives the same settings as the flag, or the same failure.
  - Where the flag gives settings, they hold its text, and the variable gives the same ones just
    then: `007` is no such text (`a_workspace_of_digits_loses_its_zeros`).
-/

import BuildHarvest.Proofs.Arguments
import BuildHarvest.Proofs.Layers

namespace BuildHarvest.Settings

/-! ## Fields that are set in two ways -/

inductive Shared where
  | workspace
  | feedUrl
  | artifactSubpath
  | manifest
  deriving DecidableEq, Repr

namespace Shared

def key : Shared → String
  | workspace => "workspace"
  | feedUrl => "feed_url"
  | artifactSubpath => "artifact_subpath"
  | manifest => "manifest"

/-- The field's variable. -/
def name : Shared → Bytes
  | workspace => Utf8.encode "ARTISYNC_WORKSPACE"
  | feedUrl => Utf8.encode "ARTISYNC_FEED_URL"
  | artifactSubpath => Utf8.encode "ARTISYNC_ARTIFACT_SUBPATH"
  | manifest => Utf8.encode "ARTISYNC_MANIFEST"

/-- The field's flag, up to its value. -/
def flag : Shared → Bytes
  | workspace => Utf8.encode "--workspace="
  | feedUrl => Utf8.encode "--feed-url="
  | artifactSubpath => Utf8.encode "--artifact-subpath="
  | manifest => Utf8.encode "-m="

/-- The options without the flag. -/
def Lacks (f : Shared) (o : Options) : Prop :=
  match f with
  | workspace => o.workspace = none
  | feedUrl => o.feedUrl = none
  | artifactSubpath => o.artifactSubpath = none
  | manifest => o.artifacts = []

/-- The options with the flag. -/
def give (f : Shared) (v : String) (o : Options) : Options :=
  match f with
  | workspace => { o with workspace := some v }
  | feedUrl => { o with feedUrl := some v }
  | artifactSubpath => { o with artifactSubpath := some v }
  | manifest => { o with artifacts := piecesOf v }

/-- Nothing stands above the other settings of the field. -/
def Unset (f : Shared) (o : Overrides) : Prop :=
  match f with
  | workspace => o.workspace = none
  | feedUrl => o.feedUrl = none
  | artifactSubpath => o.artifactSubpath = none
  | manifest => o.manifest = none

/-- A text stands above the other settings of the field. -/
def set (f : Shared) (v : String) (o : Overrides) : Overrides :=
  match f with
  | workspace => { o with workspace := some (.ofText v) }
  | feedUrl => { o with feedUrl := some v }
  | artifactSubpath => { o with artifactSubpath := some v }
  | manifest => { o with manifest := some (piecesOf v) }

/-- The field holds a text, or its pieces. -/
def Holds (f : Shared) (c : Config) (v : String) : Prop :=
  match f with
  | workspace => c.workspace = .ofText v
  | feedUrl => c.feedUrl = v
  | artifactSubpath => c.artifactSubpath = v
  | manifest => c.manifest = piecesOf v

end Shared

/-- What a variable's text is shown as again. -/
def shownAgain (v : String) : String :=
  match Environment.bool? v, Decimal.int? v.toList, Decimal.float? v.toList with
  | some b, _, _ => if b then "true" else "false"
  | none, some n, _ => toString n
  | none, none, some x => Decimal.text x
  | none, none, none => v

/-- The text reaches the field through its variable as it is. -/
def Shared.Taken (f : Shared) (v : String) : Prop :=
  if f = manifest then ReadsAsText v else shownAgain v = v

instance (f : Shared) (v : String) : Decidable (f.Taken v) := by
  unfold Shared.Taken
  infer_instance

theorem shownAgain_text {v : String} (h : ReadsAsText v) : shownAgain v = v := by
  obtain ⟨hbool, hint, hfloat⟩ := h
  rw [shownAgain, Option.isNone_iff_eq_none.mp hbool, Option.isNone_iff_eq_none.mp hint, Option.isNone_iff_eq_none.mp hfloat]

/-- Any other text is read as a scalar, whatever it is read for. -/
theorem valueOf_scalar {v : String} (h : ¬ ReadsAsText v) (key : String) :
    ∃ s : Scalar, Environment.valueOf key v = .scalar s ∧ s.text? = some (shownAgain v) := by
  unfold Environment.valueOf shownAgain
  cases hbool : Environment.bool? v with
  | some b => exact ⟨.bool b, rfl, rfl⟩
  | none =>
    cases hint : Decimal.int? v.toList with
    | some n => exact ⟨.int n, rfl, rfl⟩
    | none =>
      cases hfloat : Decimal.float? v.toList with
      | some x => exact ⟨.float x, rfl, rfl⟩
      | none =>
        exfalso
        apply h
        rw [ReadsAsText, hbool, hint, hfloat]
        exact ⟨rfl, rfl, rfl⟩

/-! ## The flag -/

namespace Shared

open CommandLine (dash equals parse filled)

variable {f : Shared} {v : String} {o : Options}

def slot : Shared → CommandLine.Slot
  | workspace => .workspace
  | feedUrl => .feedUrl
  | artifactSubpath => .artifactSubpath
  | manifest => .artifact

theorem filled_slot (ho : f.Lacks o) : filled o f.slot (Utf8.encode v) = .ok (f.give v o) := by
  cases f with
  | manifest =>
    have ho : o.artifacts = [] := ho
    simp only [slot, filled, CommandLine.more, CommandLine.mapM_readText_splitOn, ho]
    rfl
  | _ =>
    simp only [Lacks] at ho
    simp only [slot, filled, CommandLine.only, ho, CommandLine.readText_encode]
    rfl

theorem take_flag (g : CommandLine.Given) (hdivided : g.divided = false) :
    g.take (f.flag ++ Utf8.encode v) = g.giveSlot f.slot (some (Utf8.encode v)) := by
  by_cases hf : f = manifest
  · subst hf
    exact CommandLine.Given.take_letter (Utf8.encode v) hdivided
  · have hflag : f.flag = dash :: dash :: (Utf8.encode f.slot.long ++ [equals]) := by
      cases f with
      | manifest => exact absurd rfl hf
      | _ => decide
    rw [hflag, List.cons_append, List.cons_append, List.append_assoc, List.singleton_append]
    exact CommandLine.Given.take_long f.slot (Utf8.encode v) hdivided

theorem piecesOf_ne_nil (v : String) : piecesOf v ≠ [] := by
  simpa [piecesOf] using splitOn_ne_nil ',' v.toList

theorem overrides_give : (f.give v o).overrides = f.set v o.overrides := by
  cases f with
  | manifest =>
    simp only [give, Options.overrides, set, List.isEmpty_iff, piecesOf_ne_nil, if_false]
    rfl
  | _ => rfl

/-- A flag behind the other arguments sets its field. -/
theorem parse_flag {arguments : List Bytes} {level : Level} (hne : [dash, dash] ∉ arguments)
    (hparse : parse arguments = .ok ⟨o, level⟩) (ho : f.Lacks o) :
    parse (arguments ++ [f.flag ++ Utf8.encode v]) = .ok ⟨f.give v o, level⟩ :=
  CommandLine.Given.parse_concat hne hparse take_flag (filled_slot ho)

end Shared

/-! ## The variable -/

/-- None of some variables leads into a field. -/
def Silent (f : Shared) (vars : Variables) : Prop :=
  ∀ x ∈ vars, ∀ key ∈ Environment.key? x.1, rootOf key ≠ f.key

instance (f : Shared) (vars : Variables) : Decidable (Silent f vars) :=
  inferInstanceAs (Decidable (∀ x ∈ vars, ∀ key ∈ Environment.key? x.1, rootOf key ≠ f.key))

theorem read_append (vars more : Variables) : Environment.read (vars ++ more) =
    (do let x ← Environment.read vars; let y ← Environment.read more; return x ++ y) := by
  induction vars with
  | nil =>
    show Environment.read more = Environment.read more >>= fun y => .ok ([] ++ y)
    cases Environment.read more <;> rfl
  | cons x vars ih =>
    obtain ⟨name, value⟩ := x
    simp only [List.cons_append, Environment.read]
    cases Environment.key? name with
    | none => exact ih
    | some key =>
      cases Utf8.decode? value with
      | none => rfl
      | some s =>
        simp only [ih]
        cases Environment.read vars with
        | error e => rfl
        | ok x => cases Environment.read more <;> rfl

theorem read_silent {f : Shared} {vars : Variables} {values : List (String × Value)} (h : Silent f vars)
    (hread : Environment.read vars = .ok values) : ∀ e ∈ values, rootOf e.1 ≠ f.key := by
  intro e he
  have hkey : e.1 ∈ values.map Prod.fst := List.mem_map_of_mem he
  rw [read_keys hread] at hkey
  obtain ⟨x, hx, hkey⟩ := List.mem_filterMap.mp hkey
  exact h x hx e.1 hkey

theorem key?_name (f : Shared) : Environment.key? f.name = some f.key := by
  cases f <;> decide +kernel

theorem read_variable (f : Shared) (v : String) (more : Variables) : Environment.read ((f.name, Utf8.encode v) :: more) =
    (Environment.read more).map ((f.key, Environment.valueOf f.key v) :: ·) := by
  rw [Environment.read, key?_name, Utf8.decode?_encode]
  cases Environment.read more <;> rfl

/-- Both runs fail for another source, or read the same sources but for the variable. -/
theorem sourceEntries_cases {f : Shared} {before after : Variables} (h : Silent f (before ++ after)) (v : String)
    (volume : Volume) (name? : Option String) :
    (∃ e, sourceEntries volume name? (before ++ (f.name, Utf8.encode v) :: after) = .error e ∧
      sourceEntries volume name? (before ++ after) = .error e) ∨
    ∃ file xs ys, (∀ e ∈ xs ++ ys, rootOf e.1 ≠ f.key) ∧
      sourceEntries volume name? (before ++ (f.name, Utf8.encode v) :: after) =
        .ok (file ++ [entriesOf .environment (xs ++ (f.key, Environment.valueOf f.key v) :: ys) []]) ∧
      sourceEntries volume name? (before ++ after) = .ok (file ++ [entriesOf .environment (xs ++ ys) []]) := by
  simp only [sourceEntries, read_append, read_variable]
  cases name?.mapM (fileEntries volume) with
  | error e => exact .inl ⟨e, rfl, rfl⟩
  | ok file =>
    cases hx : Environment.read before with
    | error e => exact .inl ⟨e, rfl, rfl⟩
    | ok xs =>
      cases hy : Environment.read after with
      | error e => exact .inl ⟨e, rfl, rfl⟩
      | ok ys =>
        refine .inr ⟨file.toList, xs, ys, ?_, rfl, rfl⟩
        apply read_silent h
        rw [read_append, hx, hy]
        rfl

/-! ## What the two runs lay over one another -/

section

variable {f : Shared} {v : String} {o : Overrides} {xs ys : List (String × Value)}

theorem key_field (f : Shared) : f.key ∈ fieldNames := by cases f <;> decide

theorem rootOf_key (f : Shared) : rootOf f.key = f.key := rootOf_field (key_field f)

theorem isWhole_valueOf (key v : String) : Entries.IsWhole (Setting.ofValue .environment (Environment.valueOf key v)) := by
  intro old
  by_cases htext : ReadsAsText v
  · rw [valueOf_text htext]
    split <;> rfl
  · obtain ⟨s, hs, -⟩ := valueOf_scalar htext key
    rw [hs]
    rfl

theorem last?_middle {α : Type} {key : String} {xs ys : List (String × α)} (a : α) (h : ∀ e ∈ ys, e.1 ≠ key) :
    last? (xs ++ (key, a) :: ys) key = some a := by
  induction xs with
  | nil =>
    have hnone : last? ys key = none := by
      by_contra hsome
      obtain ⟨b, hb⟩ := Option.ne_none_iff_exists'.mp hsome
      exact h _ (mem_of_last? hb) rfl
    rw [List.nil_append, last?_cons, hnone, if_pos rfl]
    rfl
  | cons x xs ih =>
    obtain ⟨k, b⟩ := x
    rw [List.cons_append, last?_cons, ih, Option.some_or]

/-- The field in the environment that has the variable. -/
theorem get?_variable (h : ∀ e ∈ xs ++ ys, rootOf e.1 ≠ f.key) (a : Value) :
    (entriesOf .environment (xs ++ (f.key, a) :: ys) []).get? f.key = some (Setting.ofValue .environment a) := by
  have hys : ∀ e ∈ ys, e.1 ≠ f.key := by
    intro e he heq
    exact h e (List.mem_append_right xs he) (heq ▸ rootOf_key f)
  rw [get?_entriesOf, last?_middle a hys]
  rfl

theorem direct_variable (h : ∀ e ∈ xs ++ ys, rootOf e.1 ≠ f.key) :
    Entries.Direct f.key (entriesOf .environment (xs ++ (f.key, Environment.valueOf f.key v) :: ys) []) where
  once := nodup_entriesOf List.nodup_nil
  itself := by
    intro e he hroot
    obtain ⟨a, ha, hs⟩ := exists_of_mem_entriesOf he
    rcases List.mem_append.mp (mem_of_last? ha) with hmem | hmem
    · exact absurd hroot (h (e.1, a) (List.mem_append_left ys hmem))
    rcases List.mem_cons.mp hmem with heq | hmem
    · obtain ⟨hkey, rfl⟩ := Prod.mk.inj heq
      rw [hs]
      exact ⟨hkey, isWhole_valueOf f.key v⟩
    · exact absurd hroot (h (e.1, a) (List.mem_append_right xs hmem))

theorem without_variable (a : Value) : (entriesOf .environment (xs ++ (f.key, a) :: ys) []).without f.key =
    (entriesOf .environment (xs ++ ys) []).without f.key := by
  rw [without_entriesOf, without_entriesOf]
  simp [rootOf_key]

theorem without_set (f : Shared) (v : String) (o : Overrides) : (f.set v o).entries.without f.key = o.entries.without f.key := by
  cases f <;>
    simp (disch := decide) [Shared.set, Shared.key, Overrides.entries, Entries.without_append, Entries.without_option, rootOf_field]

theorem get?_unset (h : f.Unset o) : o.entries.get? f.key = none := by
  cases f <;> simpa [Shared.Unset, Shared.key, Overrides.entries, Entries.get?_append, Entries.get?_option] using h

/-- What stands above for the field. -/
def Shared.setting (f : Shared) (v : String) : Setting := if f = manifest then textsOf (piecesOf v) else .text v

theorem get?_set (f : Shared) (v : String) (o : Overrides) : (f.set v o).entries.get? f.key = some (f.setting v) := by
  cases f <;> simp [Shared.set, Shared.key, Shared.setting, Overrides.entries, Entries.get?_append, Entries.get?_option,
    Entries.get?_cons, Path.text_ofText]

theorem Tidy.laid {es : Entries} (h : Tidy es) : Entries.Laid es where
  once := h.once
  rooted := by
    intro name hn
    obtain ⟨e, he, rfl⟩ := List.mem_map.mp hn
    exact rootOf_field (h.takes e he).1

theorem textOf?_variable (f : Shared) (value : Bytes) (before after : Variables) (job : String) (hjob : Utf8.encode job ≠ f.name) :
    textOf? (before ++ (f.name, value) :: after) job = textOf? (before ++ after) job := by
  have hne : (Utf8.encode job == f.name) = false := beq_eq_false_iff_ne.mpr hjob
  rw [textOf?, textOf?, List.lookup_append, List.lookup_append, List.lookup_cons, hne]

theorem workspaceDefault_variable (f : Shared) (value : Bytes) (before after : Variables) :
    workspaceDefault (before ++ (f.name, value) :: after) = workspaceDefault (before ++ after) := by
  have hjob : Utf8.encode workspaceVariable ≠ f.name := by cases f <;> decide
  rw [workspaceDefault, workspaceDefault, textOf?_variable f value before after workspaceVariable hjob]

/-- Settings that agree but for a field, the first having it by its variable and the other by its
flag. -/
structure Pair (f : Shared) (v : String) (es es' : Entries) : Prop where
  laid : Entries.Laid es
  laid' : Entries.Laid es'
  without : es.without f.key = es'.without f.key
  byVariable : es.field f.key = Setting.ofValue .environment (Environment.valueOf f.key v)
  byFlag : es'.field f.key = f.setting v

theorem pair_layered {before after : Variables} {file : List Entries} (hunset : f.Unset o)
    (h : ∀ e ∈ xs ++ ys, rootOf e.1 ≠ f.key) :
    Pair f v
      (layered (before ++ (f.name, Utf8.encode v) :: after)
        (file ++ [entriesOf .environment (xs ++ (f.key, Environment.valueOf f.key v) :: ys) []]) o)
      (layered (before ++ after) (file ++ [entriesOf .environment (xs ++ ys) []]) (f.set v o)) := by
  have hplain := plain_of_field f.key (key_field f)
  have hwhole := isWhole_valueOf f.key v
  have hbase := (tidy_defaults (before ++ after)).laid
  have hlow := Entries.laid_foldl file Entries.laid_nil
  simp only [layered, List.foldl_append, List.foldl_cons, List.foldl_nil, workspaceDefault_variable]
  refine ⟨(hbase.onto _).onto _, (hbase.onto _).onto _, ?_, ?_, ?_⟩
  · simp only [Entries.without_over, without_set, without_variable]
  -- what lies below the environment may lead anywhere into the field: the variable hides it as a whole
  · obtain ⟨hmiddle, hdirect⟩ := Entries.direct_over hlow hplain (direct_variable h) (get?_variable h _) hwhole
    obtain ⟨hall, -⟩ := Entries.direct_over hbase hplain hdirect hmiddle hwhole
    rw [Entries.field, Entries.get?_over hplain ((tidy_overrides o).direct f.key), get?_unset hunset, Option.none_or, hall]
    rfl
  · rw [Entries.field, Entries.get?_over hplain ((tidy_overrides (f.set v o)).direct f.key), get?_set, Option.some_or]
    rfl

/-! ## What the two runs read -/

theorem readText_variable (hf : f ≠ .manifest) :
    readText f.key (Setting.ofValue .environment (Environment.valueOf f.key v)) = .ok (shownAgain v) := by
  by_cases htext : ReadsAsText v
  · have hkey : f.key ≠ "manifest" := by
      cases f with
      | manifest => exact absurd rfl hf
      | _ => decide
    rw [valueOf_text htext, if_neg hkey, shownAgain_text htext]
    rfl
  · obtain ⟨s, hs, hshown⟩ := valueOf_scalar htext f.key
    rw [hs]
    simp only [Setting.ofValue, readText, hshown]

theorem readText_setting (hf : f ≠ .manifest) (key : String) : readText key (f.setting v) = .ok v := by
  rw [Shared.setting, if_neg hf]
  rfl

theorem readTexts_setting (key : String) : readTexts key (Shared.manifest.setting v) = .ok (piecesOf v) :=
  readTexts_texts (texts?_textsOf (piecesOf v)) key

/-- The manifest is read from its variable just where its text is neither a truth value nor a number. -/
theorem readTexts_variable (v : String) (ts : List String) :
    readTexts "manifest" (Setting.ofValue .environment (Environment.valueOf "manifest" v)) = .ok ts ↔
      ReadsAsText v ∧ ts = piecesOf v := by
  by_cases htext : ReadsAsText v
  · have htexts := (texts?_ofValue (o := .environment) _).trans (texts?_texts (piecesOf v))
    rw [valueOf_text htext, if_pos rfl, readTexts_texts htexts]
    constructor
    · intro h
      exact ⟨htext, (Except.ok.inj h).symm⟩
    · rintro ⟨-, rfl⟩
      rfl
  · obtain ⟨s, hs, -⟩ := valueOf_scalar htext "manifest"
    rw [hs]
    constructor
    · intro h
      cases h
    · rintro ⟨h, -⟩
      exact absurd h htext

/-! ## Alike -/

variable {es es' : Entries}

theorem unknown?_without {name : String} (h : Entries.Laid es) (hn : name ∈ fieldNames) :
    unknown? (es.without name) = unknown? es := by
  have hknown : ∀ e ∈ es, rootOf e.1 = name → fieldNames.contains e.1 = true := by
    intro e he hroot
    rw [h.rooted e.1 (List.mem_map_of_mem he)] at hroot
    rw [hroot]
    exact List.contains_iff_mem.mpr hn
  -- the induction is on the names alone: no tail of the settings need be laid
  clear h
  induction es with
  | nil => rfl
  | cons e es ih =>
    obtain ⟨hhead, hrest⟩ := List.forall_mem_cons.mp hknown
    have ih := ih hrest
    rw [Entries.without_cons]
    unfold unknown? at ih ⊢
    by_cases hroot : rootOf e.1 = name
    · rw [if_pos hroot, ih, List.find?_cons_of_neg (by rw [hhead hroot]; decide)]
    · rw [if_neg hroot, List.find?_cons, List.find?_cons, ih]

theorem holds_of_readText {c : Config} (hf : f ≠ .manifest) (h : configOf es = .ok c)
    (hread : readText f.key (es.field f.key) = .ok v) : f.Holds c v := by
  have hreads := configOf_ok h
  cases f with
  | workspace =>
    obtain ⟨t, ht, hworkspace⟩ := hreads.workspace
    obtain rfl := Except.ok.inj (ht.symm.trans hread)
    exact hworkspace
  | feedUrl => exact Except.ok.inj (hreads.feedUrl.symm.trans hread)
  | artifactSubpath => exact Except.ok.inj (hreads.artifactSubpath.symm.trans hread)
  | manifest => exact absurd rfl hf

theorem Shared.Holds.inj {c : Config} {t : String} (hf : f ≠ .manifest) (h : f.Holds c v) (ht : f.Holds c t) : v = t := by
  cases f with
  | workspace => exact Utf8.encode_injective (Path.mk.inj (h.symm.trans ht))
  | feedUrl => exact h.symm.trans ht
  | artifactSubpath => exact h.symm.trans ht
  | manifest => exact absurd rfl hf

namespace Pair

theorem field_eq (h : Pair f v es es') {name : String} (hn : name ∈ fieldNames) (hne : name ≠ f.key) :
    es.field name = es'.field name := by
  have hroot : rootOf name ≠ f.key := by rwa [rootOf_field hn]
  rw [Entries.field, Entries.field, ← Entries.get?_without hroot es, h.without, Entries.get?_without hroot es']

/-- A field that is read alike makes the whole plan the same. -/
theorem configOf_eq (h : Pair f v es es')
    (htext : f ≠ .manifest → readText f.key (es.field f.key) = readText f.key (es'.field f.key))
    (htexts : f = .manifest → readTexts "manifest" (es.field "manifest") = readTexts "manifest" (es'.field "manifest")) :
    configOf es = configOf es' := by
  apply configOf_congr
  · rw [← unknown?_without h.laid (key_field f), h.without, unknown?_without h.laid' (key_field f)]
  · intro name hn hm
    by_cases hkey : name = f.key
    · subst hkey
      apply htext
      rintro rfl
      exact hm rfl
    · rw [h.field_eq hn hkey]
  · by_cases hf : f = .manifest
    · exact htexts hf
    · rw [h.field_eq (by decide)]
      cases f with
      | manifest => exact absurd rfl hf
      | _ => decide
  · rw [h.field_eq (by decide)]
    cases f <;> decide

theorem same (h : Pair f v es es') (htaken : f.Taken v) : configOf es = configOf es' := by
  apply h.configOf_eq
  · intro hf
    rw [Shared.Taken, if_neg hf] at htaken
    rw [h.byVariable, h.byFlag, readText_variable hf, readText_setting hf, htaken]
  · rintro rfl
    have hvariable : es.field "manifest" = _ := h.byVariable
    have hflag : es'.field "manifest" = _ := h.byFlag
    rw [hvariable, hflag, readTexts_setting]
    exact (readTexts_variable v _).mpr ⟨htaken, rfl⟩

variable {c : Config}

theorem holds (h : Pair f v es es') (hc : configOf es' = .ok c) : f.Holds c v := by
  by_cases hf : f = .manifest
  · subst hf
    have hread := (configOf_ok hc).manifest
    have hflag : es'.field "manifest" = _ := h.byFlag
    rw [hflag, readTexts_setting] at hread
    exact (Except.ok.inj hread).symm
  · refine holds_of_readText hf hc ?_
    rw [h.byFlag, readText_setting hf]

theorem taken (h : Pair f v es es') (hc : configOf es = .ok c) (hholds : f.Holds c v) : f.Taken v := by
  by_cases hf : f = .manifest
  · subst hf
    have hread := (configOf_ok hc).manifest
    have hvariable : es.field "manifest" = _ := h.byVariable
    rw [hvariable] at hread
    exact ((readTexts_variable v _).mp hread).1
  · rw [Shared.Taken, if_neg hf]
    refine Shared.Holds.inj hf (holds_of_readText hf hc ?_) hholds
    rw [h.byVariable, readText_variable hf]

end Pair

end

/-! ## A variable and a flag -/

open CommandLine (dash parse)

variable {f : Shared} {o : Overrides} {before after : Variables}

/-- Both runs fail for the same, or for what a pair of settings gives. -/
theorem on_load_pair (hunset : f.Unset o) (hsilent : Silent f (before ++ after)) (v : String) (name? : Option String) (w : World) :
    (∃ e, ((load name? (before ++ (f.name, Utf8.encode v) :: after) o).on w).1 = .error e ∧
      ((load name? (before ++ after) (f.set v o)).on w).1 = .error e) ∨
    ∃ es es', Pair f v es es' ∧ ((load name? (before ++ (f.name, Utf8.encode v) :: after) o).on w).1 = configOf es ∧
      ((load name? (before ++ after) (f.set v o)).on w).1 = configOf es' := by
  rw [on_load, on_load]
  rcases sourceEntries_cases hsilent v w.volume name? with ⟨e, hleft, hright⟩ | ⟨file, xs, ys, hother, hleft, hright⟩
  · rw [hleft, hright]
    exact .inl ⟨.settings e, rfl, rfl⟩
  · rw [hleft, hright]
    exact .inr ⟨_, _, pair_layered hunset hother, rfl, rfl⟩

/-- A variable gives what the field's flag gives, where its text is taken as it is. -/
theorem variable_means_flag (f : Shared) (v : String) (name? : Option String) (hunset : f.Unset o)
    (hsilent : Silent f (before ++ after)) :
    (∀ arguments options level, [dash, dash] ∉ arguments → parse arguments = .ok ⟨options, level⟩ → f.Lacks options →
      parse (arguments ++ [f.flag ++ Utf8.encode v]) = .ok ⟨f.give v options, level⟩ ∧
      (f.give v options).overrides = f.set v options.overrides) ∧
    (f.Taken v → ∀ w, (load name? (before ++ (f.name, Utf8.encode v) :: after) o).on w =
      (load name? (before ++ after) (f.set v o)).on w) ∧
    (∀ w c, ((load name? (before ++ after) (f.set v o)).on w).1 = .ok c → f.Holds c v ∧
      (((load name? (before ++ (f.name, Utf8.encode v) :: after) o).on w).1 = .ok c ↔ f.Taken v)) := by
  refine ⟨?_, ?_, ?_⟩
  · intro arguments options level hne hparse hlacks
    exact ⟨Shared.parse_flag hne hparse hlacks, Shared.overrides_give⟩
  · intro htaken w
    have htold : ((load name? (before ++ (f.name, Utf8.encode v) :: after) o).on w).2 =
        ((load name? (before ++ after) (f.set v o)).on w).2 := by
      rw [on_load, on_load]
    refine Prod.ext ?_ htold
    rcases on_load_pair hunset hsilent v name? w with ⟨e, hleft, hright⟩ | ⟨es, es', hpair, hleft, hright⟩
    · rw [hleft, hright]
    · rw [hleft, hright, hpair.same htaken]
  · intro w c hc
    rcases on_load_pair hunset hsilent v name? w with ⟨e, hleft, hright⟩ | ⟨es, es', hpair, hleft, hright⟩
    · rw [hright] at hc
      cases hc
    · rw [hright] at hc
      rw [hleft]
      have hholds := hpair.holds hc
      refine ⟨hholds, fun hvariable => hpair.taken hvariable hholds, fun htaken => ?_⟩
      rw [hpair.same htaken, hc]

/-- A job that names its own directory. -/
def inJob : Variables := [(Utf8.encode "WORKSPACE", Utf8.encode "job")]

def nothingSet : Overrides := ⟨none, none, none, none, none⟩

theorem a_workspace_is_named_either_way : ∃ c,
    parse [Utf8.encode "--best-effort", Utf8.encode "--workspace=" ++ Utf8.encode "w"] =
      .ok ⟨⟨none, some "w", none, none, [], true, none⟩, .info⟩ ∧
    ((load none (inJob ++ [(Utf8.encode "ARTISYNC_WORKSPACE", Utf8.encode "w")]) nothingSet).on (Sync.smallWorld [])).1 = .ok c ∧
    ((load none (inJob ++ []) { nothingSet with workspace := some (.ofText "w") }).on (Sync.smallWorld [])).1 = .ok c ∧
    c.workspace = .ofText "w" := by
  obtain ⟨hparse, -, hload⟩ := variable_means_flag .workspace "w" none (o := nothingSet) rfl
    (show Silent .workspace (inJob ++ []) by decide +kernel)
  have hflag : ((load none (inJob ++ []) { nothingSet with workspace := some (.ofText "w") }).on
      (Sync.smallWorld [])).1.toOption.isSome = true := by decide +kernel
  obtain ⟨c, hc⟩ := Option.isSome_iff_exists.mp hflag
  obtain ⟨hholds, hvariable⟩ := hload (Sync.smallWorld []) c (ok_of_toOption hc)
  have hbest : parse [Utf8.encode "--best-effort"] = .ok ⟨⟨none, none, none, none, [], true, none⟩, .info⟩ :=
    ok_of_toOption (by decide +kernel)
  refine ⟨c, ?_, hvariable.mpr (by decide +kernel), ok_of_toOption hc, hholds⟩
  exact (hparse [Utf8.encode "--best-effort"] _ _ (by decide) hbest rfl).1

theorem a_workspace_of_digits_loses_its_zeros :
    ((load none [(Shared.workspace.name, Utf8.encode "007")] nothingSet).on (Sync.smallWorld [])).1.toOption.map (·.workspace) =
      some (.ofText "7") ∧
    ((load none [] (Shared.workspace.set "007" nothingSet)).on (Sync.smallWorld [])).1.toOption.map (·.workspace) =
      some (.ofText "007") := by
  decide +kernel

end BuildHarvest.Settings
