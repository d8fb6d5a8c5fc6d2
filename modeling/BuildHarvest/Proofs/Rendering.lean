/-
  BuildHarvest.Proofs.Rendering — options written as arguments, in any order.

  `arguments` writes what is asked of a run: each text with its switch and an equals sign, the
  artifacts in groups with commas between them, a flag for best effort, and a `-v` for each step of
  verbosity. `Reads args g` says that what was given by some arguments is just what they write.

  Proved (`arguments_are_read_back`): in whatever order the arguments stand, where only the artifacts
  keep theirs, and however these are grouped, the options are read back, with the level of as many
  `-v` as there are. One argument more keeps `Reads` (`Reads.take`), and so do all of them.
-/

import BuildHarvest.Proofs.Arguments

namespace BuildHarvest

/-- The text that is given for a slot which holds one. -/
def Options.text? (o : Options) : CommandLine.Slot → Option String
  | .config => o.config
  | .workspace => o.workspace
  | .feedUrl => o.feedUrl
  | .artifactSubpath => o.artifactSubpath
  | .report => o.report
  | .artifact => none

/-- The options with a text for such a slot. -/
def Options.withText (o : Options) (slot : CommandLine.Slot) (value : String) : Options :=
  match slot with
  | .config => { o with config := some value }
  | .workspace => { o with workspace := some value }
  | .feedUrl => { o with feedUrl := some value }
  | .artifactSubpath => { o with artifactSubpath := some value }
  | .report => { o with report := some value }
  | .artifact => o

theorem Options.text?_withText (o : Options) {slot : CommandLine.Slot} (h : slot ≠ .artifact) (value : String)
    (s : CommandLine.Slot) : (o.withText slot value).text? s = if slot = s then some value else o.text? s := by
  cases slot with
  | artifact => exact absurd rfl h
  | _ => cases s <;> rfl

@[simp]
theorem Options.artifacts_withText (o : Options) (slot : CommandLine.Slot) (value : String) :
    (o.withText slot value).artifacts = o.artifacts := by
  cases slot <;> rfl

@[simp]
theorem Options.bestEffort_withText (o : Options) (slot : CommandLine.Slot) (value : String) :
    (o.withText slot value).bestEffort = o.bestEffort := by
  cases slot <;> rfl

theorem Options.ext_texts {o o' : Options} (htext : ∀ slot, o'.text? slot = o.text? slot) (hnames : o'.artifacts = o.artifacts)
    (hbest : o'.bestEffort = o.bestEffort) : o' = o := by
  have hconfig : o'.config = o.config := htext .config
  have hworkspace : o'.workspace = o.workspace := htext .workspace
  have hfeed : o'.feedUrl = o.feedUrl := htext .feedUrl
  have hsubpath : o'.artifactSubpath = o.artifactSubpath := htext .artifactSubpath
  have hreport : o'.report = o.report := htext .report
  obtain ⟨_, _, _, _, _, _, _⟩ := o
  obtain ⟨_, _, _, _, _, _, _⟩ := o'
  simp only at hconfig hworkspace hfeed hsubpath hreport hnames hbest
  rw [hconfig, hworkspace, hfeed, hsubpath, hreport, hnames, hbest]

namespace CommandLine

/-! ## Arguments as they are written -/

inductive Argument where
  /-- A text for a slot that holds one. -/
  | setting (slot : Slot) (h : slot ≠ .artifact) (value : String)
  /-- Some artifacts. -/
  | names (group : List String)
  | bestEffort
  | verbose
  deriving DecidableEq

namespace Argument

def text : Argument → String
  | setting slot _ value => "--" ++ slot.long ++ "=" ++ value
  | names group => "--artifact=" ++ ",".intercalate group
  | bestEffort => "--best-effort"
  | verbose => "-v"

def octets (a : Argument) : Bytes := Utf8.encode a.text

/-- What is written for a slot. -/
def value? (slot : Slot) : Argument → Option String
  | setting slot' _ value => if slot' = slot then some value else none
  | _ => none

def names? : Argument → Option (List String)
  | names group => some group
  | _ => none

end Argument

/-- Options as arguments, their artifacts in groups, with a verbosity. -/
def arguments (o : Options) (groups : List (List String)) (verbosity : Nat) : List Argument :=
  (o.config.map (.setting .config (by decide))).toList ++ (o.workspace.map (.setting .workspace (by decide))).toList ++
    (o.feedUrl.map (.setting .feedUrl (by decide))).toList ++
    (o.artifactSubpath.map (.setting .artifactSubpath (by decide))).toList ++
    (o.report.map (.setting .report (by decide))).toList ++ groups.map .names ++
    (if o.bestEffort then [.bestEffort] else []) ++ List.replicate verbosity .verbose

/-! ## One argument -/

theorem toList_intercalate_comma (group : List String) :
    (",".intercalate group).toList = joinWith ',' (group.map String.toList) := by
  induction group with
  | nil => rfl
  | cons name rest ih =>
    cases rest with
    | nil => simp [joinWith]
    | cons next rest =>
      rw [String.intercalate_cons_cons, String.toList_append, String.toList_append, ih, List.append_assoc]
      rfl

/-- Artifacts that stand in one value are read as they are. -/
theorem more_intercalate {group : List String} (hne : group ≠ []) (hcomma : ∀ name ∈ group, ',' ∉ name.toList)
    (held : List String) : more held (Utf8.encode (",".intercalate group)) = .ok (held ++ group) := by
  have hpieces : splitOn ',' (joinWith ',' (group.map String.toList)) = group.map String.toList := by
    refine splitOn_joinWith ',' (by simpa using hne) fun p hp => ?_
    obtain ⟨name, hname, rfl⟩ := List.mem_map.mp hp
    exact hcomma name hname
  have hback : (group.map String.toList).map String.ofList = group := by
    simp [Function.comp_def]
  rw [more, mapM_readText_splitOn, toList_intercalate_comma, hpieces, hback]
  rfl

/-- A slot that holds nothing yet is filled with a text. -/
theorem filled_text {o : Options} {slot : Slot} (hslot : slot ≠ .artifact) (ho : o.text? slot = none) (value : String) :
    filled o slot (Utf8.encode value) = .ok (o.withText slot value) := by
  have honly : only slot (o.text? slot) (Utf8.encode value) = .ok (some value) := by
    rw [ho, only, readText_encode]
    rfl
  cases slot with
  | artifact => exact absurd rfl hslot
  | _ =>
    simp only [Options.text?] at honly
    rw [filled, honly]
    rfl

theorem filled_names {o : Options} {group : List String} (hne : group ≠ []) (hcomma : ∀ name ∈ group, ',' ∉ name.toList) :
    filled o .artifact (Utf8.encode (",".intercalate group)) = .ok { o with artifacts := o.artifacts ++ group } := by
  rw [filled, more_intercalate hne hcomma]
  rfl

namespace Given

variable {g : Given}

theorem settle_settled (h : g.pending = none) : g.settle = .ok g := by
  rw [settle, h]

/-- A slot's switch with its value, where nothing is kept back. -/
theorem take_setting (hp : g.pending = none) (hd : g.divided = false) (slot : Slot) (value : String) :
    g.take (Utf8.encode ("--" ++ slot.long ++ "=" ++ value)) = g.fill slot (Utf8.encode value) := by
  have hoctets : Utf8.encode ("--" ++ slot.long ++ "=" ++ value) =
      dash :: dash :: (Utf8.encode slot.long ++ equals :: Utf8.encode value) := by
    simp only [Utf8.encode, String.toList_append, Utf8.encodeChars_append, List.append_assoc]
    rfl
  rw [hoctets, take_long slot _ hd, giveSlot_settled (settle_settled hp)]

theorem take_bestEffort (hp : g.pending = none) (hd : g.divided = false) : g.take (Utf8.encode "--best-effort") = g.raise .bestEffort := by
  have hname : equals ∉ Utf8.encode Flag.bestEffort.long := by decide
  have hshape : Shape.of (Utf8.encode "--best-effort") = .long (Utf8.encode Flag.bestEffort.long) none := by
    rw [← Shape.ofLong_bare hname]
    rfl
  have hswitch : Switch.ofLong? (Utf8.encode Flag.bestEffort.long) = some (.flag .bestEffort) := Switch.ofLong?_long (.flag .bestEffort)
  simp only [take, hd, Bool.false_eq_true, if_false, hshape, takeLong, hswitch, giveFlag, settle_settled hp]
  rfl

theorem take_verbose (hp : g.pending = none) (hd : g.divided = false) :
    g.take (Utf8.encode "-v") = .ok { g with verbosity := g.verbosity + 1 } := by
  have hshape : Shape.of (Utf8.encode "-v") = .short [0x76] := rfl
  have hfrom : Utf8.takeFrom .idle [0x76] = some ('v', []) := rfl
  have hswitch : Switch.ofShort? 'v' = some (.flag .verbose) := by decide
  have hraise : g.giveFlag .verbose = .ok { g with verbosity := g.verbosity + 1 } := by
    rw [giveFlag, settle_settled hp]
    rfl
  rw [take, if_neg (by simp [hd]), hshape]
  simp only
  rw [takeLetters, if_neg (List.cons_ne_nil _ _)]
  split
  · rename_i hnone
    cases hnone.symm.trans hfrom
  · rename_i c rest hsome
    obtain ⟨rfl, rfl⟩ := Prod.mk.inj (Option.some.inj (hsome.symm.trans hfrom))
    simp only [hswitch, hraise]
    show takeLetters _ [] = _
    rw [takeLetters, if_pos rfl]

end Given

/-! ## All arguments -/

/-- Arguments that can stand on one command line: nothing is said twice, and artifacts are read as written. -/
structure Sound (args : List Argument) : Prop where
  settings : ∀ slot, (args.filterMap (·.value? slot)).length ≤ 1
  bestEffort : args.count .bestEffort ≤ 1
  named : ∀ group ∈ args.filterMap (·.names?), group ≠ [] ∧ ∀ name ∈ group, ',' ∉ name.toList

theorem Sound.init {args more : List Argument} (h : Sound (args ++ more)) : Sound args where
  settings slot := by
    have := h.settings slot
    rw [List.filterMap_append, List.length_append] at this
    omega
  bestEffort := by
    have := h.bestEffort
    rw [List.count_append] at this
    omega
  named group hg := h.named group (by rw [List.filterMap_append]; exact List.mem_append_left _ hg)

/-- What has been given is what some arguments write. -/
structure Reads (args : List Argument) (g : Given) : Prop where
  settled : g.pending = none
  undivided : g.divided = false
  settings : ∀ slot, (g.options.text? slot).toList = args.filterMap (·.value? slot)
  artifacts : g.options.artifacts = (args.filterMap (·.names?)).flatten
  bestEffort : g.options.bestEffort.toNat = args.count .bestEffort
  verbosity : g.verbosity = args.count .verbose

/-- One argument more is read as what it writes. -/
theorem Reads.take {args : List Argument} {g : Given} (h : Reads args g) {a : Argument} (hs : Sound (args ++ [a])) :
    ∃ g', g.take a.octets = .ok g' ∧ Reads (args ++ [a]) g' := by
  cases a with
  | setting slot hslot value =>
    have hnone : g.options.text? slot = none := by
      have hlength := hs.settings slot
      rw [List.filterMap_append, ← h.settings slot] at hlength
      cases hheld : g.options.text? slot with
      | none => rfl
      | some held => simp [hheld, Argument.value?] at hlength
    refine ⟨{ g with options := g.options.withText slot value }, ?_, h.settled, h.undivided, fun s => ?_, ?_, ?_, ?_⟩
    · rw [Argument.octets, Argument.text, Given.take_setting h.settled h.undivided, Given.fill, filled_text hslot hnone]
      rfl
    · rw [Options.text?_withText _ hslot, List.filterMap_append, ← h.settings s]
      by_cases he : slot = s
      · subst he
        simp [Argument.value?, hnone]
      · simp [Argument.value?, he]
    · simp [h.artifacts, Argument.names?]
    · simp [h.bestEffort]
    · simp [h.verbosity]
  | names group =>
    obtain ⟨hne, hcomma⟩ := hs.named group (by simp [Argument.names?])
    refine ⟨{ g with options := { g.options with artifacts := g.options.artifacts ++ group } }, ?_, h.settled, h.undivided,
      fun s => ?_, ?_, ?_, ?_⟩
    · show g.take (Utf8.encode ("--" ++ Slot.artifact.long ++ "=" ++ ",".intercalate group)) = _
      rw [Given.take_setting h.settled h.undivided, Given.fill, filled_names hne hcomma]
      rfl
    · rw [List.filterMap_append, ← h.settings s]
      cases s <;> simp [Argument.value?, Options.text?]
    · simp [h.artifacts, Argument.names?]
    · simp [h.bestEffort]
    · simp [h.verbosity]
  | bestEffort =>
    have hfalse : g.options.bestEffort = false := by
      have hcount := hs.bestEffort
      rw [List.count_append, ← h.bestEffort] at hcount
      cases hheld : g.options.bestEffort with
      | false => rfl
      | true => simp [hheld] at hcount
    refine ⟨{ g with options := { g.options with bestEffort := true } }, ?_, h.settled, h.undivided, fun s => ?_, ?_, ?_, ?_⟩
    · rw [Argument.octets, Argument.text, Given.take_bestEffort h.settled h.undivided, Given.raise, hfalse]
      rfl
    · rw [List.filterMap_append, ← h.settings s]
      cases s <;> simp [Argument.value?, Options.text?]
    · simp [h.artifacts, Argument.names?]
    · simp [List.count_append, ← h.bestEffort, hfalse]
    · simp [h.verbosity]
  | verbose =>
    refine ⟨_, Given.take_verbose h.settled h.undivided, h.settled, h.undivided, fun s => ?_, ?_, ?_, ?_⟩
    · simp [h.settings s, Argument.value?]
    · simp [h.artifacts, Argument.names?]
    · simp [h.bestEffort]
    · simp [h.verbosity]

/-- All of some arguments more are. -/
theorem Reads.takeAll {args more : List Argument} {g : Given} (h : Reads args g) (hs : Sound (args ++ more)) :
    ∃ g', (more.map Argument.octets).foldlM Given.take g = .ok g' ∧ Reads (args ++ more) g' := by
  induction more generalizing args g with
  | nil => exact ⟨g, rfl, by rwa [List.append_nil]⟩
  | cons a more ih =>
    rw [List.append_cons] at hs ⊢
    obtain ⟨g₁, htake, hreads⟩ := h.take hs.init
    obtain ⟨g', hall, hreads'⟩ := ih hreads hs
    refine ⟨g', ?_, hreads'⟩
    rw [List.map_cons, List.foldlM_cons, htake]
    exact hall

/-! ## The options that are written -/

section

variable (o : Options) (groups : List (List String)) (verbosity : Nat)

theorem value?_setting (text? : Option String) {slot : Slot} (h : slot ≠ .artifact) (s : Slot) :
    (text?.map (Argument.setting slot h)).toList.filterMap (·.value? s) = if slot = s then text?.toList else [] := by
  cases text? with
  | none => simp
  | some value => by_cases he : slot = s <;> simp [Argument.value?, he]

theorem value?_arguments (slot : Slot) : (arguments o groups verbosity).filterMap (·.value? slot) = (o.text? slot).toList := by
  have hgroups : (groups.map Argument.names).filterMap (·.value? slot) = [] := by
    simp [List.filterMap_map, Argument.value?]
  have hbest : (if o.bestEffort then [Argument.bestEffort] else []).filterMap (·.value? slot) = [] := by
    cases o.bestEffort <;> rfl
  have hverbose : (List.replicate verbosity Argument.verbose).filterMap (·.value? slot) = [] := by
    simp [Argument.value?]
  simp only [arguments, List.filterMap_append, value?_setting, hgroups, hbest, hverbose]
  cases slot <;> simp [Options.text?]

theorem count_setting (text? : Option String) {slot : Slot} (h : slot ≠ .artifact) {a : Argument}
    (ha : a = .bestEffort ∨ a = .verbose) : (text?.map (Argument.setting slot h)).toList.count a = 0 := by
  rcases ha with rfl | rfl <;> cases text? <;> rfl

theorem count_bestEffort_arguments : (arguments o groups verbosity).count .bestEffort = o.bestEffort.toNat := by
  have hgroups : (groups.map Argument.names).count .bestEffort = 0 := by
    simp [List.count_eq_zero]
  have hbest : (if o.bestEffort then [Argument.bestEffort] else []).count .bestEffort = o.bestEffort.toNat := by
    cases o.bestEffort <;> rfl
  have hverbose : (List.replicate verbosity Argument.verbose).count .bestEffort = 0 := by
    simp [List.count_eq_zero]
  simp only [arguments, List.count_append, count_setting _ _ (.inl rfl), hgroups, hbest, hverbose, Nat.zero_add, Nat.add_zero]

theorem count_verbose_arguments : (arguments o groups verbosity).count .verbose = verbosity := by
  have hgroups : (groups.map Argument.names).count .verbose = 0 := by
    simp [List.count_eq_zero]
  have hbest : (if o.bestEffort then [Argument.bestEffort] else []).count .verbose = 0 := by
    cases o.bestEffort <;> rfl
  simp only [arguments, List.count_append, count_setting _ _ (.inr rfl), hgroups, hbest, List.count_replicate_self, Nat.zero_add]

end

section

variable {o : Options} {groups : List (List String)} {verbosity : Nat} {args : List Argument}

/-- An order of the arguments says as much for each slot. -/
theorem value?_of_perm (h : args.Perm (arguments o groups verbosity)) (slot : Slot) :
    args.filterMap (·.value? slot) = (o.text? slot).toList := by
  have hperm := h.filterMap (·.value? slot)
  rw [value?_arguments] at hperm
  cases htext : o.text? slot with
  | none =>
    rw [htext] at hperm
    exact List.perm_nil.mp hperm
  | some value =>
    rw [htext] at hperm
    exact List.perm_singleton.mp hperm

/-- Options that are written as arguments are read back, whatever the order. -/
theorem arguments_are_read_back (hgroups : groups.flatten = o.artifacts) (hne : ∀ group ∈ groups, group ≠ [])
    (hcomma : ∀ name ∈ o.artifacts, ',' ∉ name.toList) (hargs : args.Perm (arguments o groups verbosity))
    (horder : args.filterMap (·.names?) = groups) :
    parse (args.map Argument.octets) = .ok ⟨o, if verbosity = 0 then .info else if verbosity = 1 then .debug else .trace⟩ := by
  have hbest : args.count .bestEffort = o.bestEffort.toNat := by rw [hargs.count_eq, count_bestEffort_arguments]
  have hverbose : args.count .verbose = verbosity := by rw [hargs.count_eq, count_verbose_arguments]
  have hsound : Sound ([] ++ args) := by
    refine ⟨fun slot => ?_, ?_, fun group hg => ?_⟩
    · rw [List.nil_append, value?_of_perm hargs]
      cases o.text? slot <;> simp
    · rw [List.nil_append, hbest]
      cases o.bestEffort <;> decide
    · rw [List.nil_append, horder] at hg
      exact ⟨hne group hg, fun name hn => hcomma name (hgroups ▸ List.mem_flatten.mpr ⟨group, hg, hn⟩)⟩
  have hstart : Reads [] .start := ⟨rfl, rfl, fun slot => by cases slot <;> rfl, rfl, rfl, rfl⟩
  obtain ⟨g, hall, hreads⟩ := hstart.takeAll hsound
  rw [List.nil_append] at hreads
  have hoptions : g.options = o := by
    refine Options.ext_texts (fun slot => ?_) ?_ ?_
    · have hsame := (hreads.settings slot).trans (value?_of_perm hargs slot)
      simpa using congrArg List.head? hsame
    · rw [hreads.artifacts, horder, hgroups]
    · have hnat := hreads.bestEffort.trans hbest
      revert hnat
      cases g.options.bestEffort <;> cases o.bestEffort <;> simp
  rw [parse, hall]
  show (do let g ← g.settle; pure g.call) = _
  rw [Given.settle_settled hreads.settled]
  show Except.ok g.call = _
  rw [Given.call, hoptions, hreads.verbosity, hverbose]
  rcases verbosity with _ | _ | _
  · rfl
  · rfl
  · rfl

end

/-- Options whose texts look like switches. -/
def maskedOptions : Options := ⟨some "=-v,", some "--config=w", none, none, ["-m", "a=b", "--"], true, none⟩

/-- They stand in another order than they are written in, with all flags among them. -/
def shuffledArguments : List Argument :=
  [.verbose, .names ["-m"], .setting .workspace (by decide) "--config=w", .bestEffort, .verbose, .names ["a=b", "--"],
    .setting .config (by decide) "=-v,"]

theorem shuffled_arguments_are_read_back : shuffledArguments.Perm (arguments maskedOptions [["-m"], ["a=b", "--"]] 2) ∧
    parse (shuffledArguments.map Argument.octets) = .ok ⟨maskedOptions, .trace⟩ := by
  have hperm : shuffledArguments.Perm (arguments maskedOptions [["-m"], ["a=b", "--"]] 2) := by decide
  exact ⟨hperm, arguments_are_read_back (by decide) (by decide) (by decide) hperm (by decide)⟩

end CommandLine

end BuildHarvest
