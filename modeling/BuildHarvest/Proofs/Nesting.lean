/-
  BuildHarvest.Proofs.Nesting — a document that is read without a fault is a tree.

  `Machine.Nested`: the tags told so far nest, and what they leave open is what the machine holds
  as open. Every token keeps that (`sound_take`), and a document ends well only with nothing open.

  Proved: `read_forest`: where a document has no fault, its events are those of a forest.
-/

import BuildHarvest.Markup.Reader
import BuildHarvest.Proofs.Forest

namespace BuildHarvest.Markup

namespace Machine

/-- The tags told so far nest, with the elements open that the machine holds as open. -/
def Nested (m : Machine) : Prop := Open (m.unclosed.map (·.1)) m.told.reverse

/-- Whatever machine a step gives, it is nested. -/
def Sound (r : Result) : Prop := ∀ m text, r = .ok (m, text) → m.Nested

/-! ## Single steps -/

section

variable {m : Machine} (h : m.Nested)

theorem sound_error (f : Fault) : Sound (.error f) := fun _ _ e => by cases e

theorem sound_ite {p : Prop} [Decidable p] {r r' : Result} (hr : Sound r) (hr' : Sound r') : Sound (if p then r else r') := by
  split
  · exact hr
  · exact hr'

include h

theorem nested_leaf (node : Leaf) : Nested { m with told := node.event :: m.told } := by
  rw [Nested, List.reverse_cons]
  exact Open.leaf node h

theorem nested_tell (node : Leaf) : (m.tell node.event).Nested := nested_leaf h node

theorem nested_flush : m.flush.Nested := by
  unfold flush
  split
  · exact h
  · exact nested_leaf h (.text _)

theorem nested_meet (k : Met) : (m.meet k).Nested := by
  unfold meet
  split <;> exact h

theorem sound_on : Sound m.on := fun _ _ e => by
  obtain ⟨rfl, -⟩ := Prod.mk.inj (Except.ok.inj e)
  exact h

theorem sound_enter (p : Part) : Sound (m.enter p) := sound_on (m := { m with part := p }) h

theorem sound_expand (p : Part) (text : List Char) : Sound (.ok ({ m with part := p }, some text)) := fun _ _ e => by
  obtain ⟨rfl, -⟩ := Prod.mk.inj (Except.ok.inj e)
  exact h

theorem sound_takeChar (c : Char) : Sound (m.takeChar c) := by
  have hpush : (m.push [c]).Nested := h
  refine sound_ite (sound_on (nested_meet hpush .blank)) (sound_ite (sound_error _) ?_)
  exact sound_ite (sound_on hpush) (sound_error _)

theorem sound_takeContent (tok : Token) : Sound (m.takeContent tok) := by
  have htext (tok : Token) : Sound (m.takeText tok) := sound_ite (sound_on (m := m.push tok.text) h) (sound_error _)
  have hflush := nested_flush h
  cases tok with
  | char c => exact sound_takeChar h c
  | referenceStart => exact sound_ite (sound_enter h _) (sound_error _)
  | openTag => exact sound_enter (nested_meet hflush .element) _
  | closeTag => exact sound_ite (sound_enter hflush _) (sound_error _)
  | commentStart => exact sound_enter (nested_meet hflush .remark) _
  | doctypeStart => exact sound_ite (sound_enter (nested_meet hflush .doctype) _) (sound_error _)
  | instructionStart => exact sound_enter hflush _
  | dataStart => exact sound_ite (sound_enter hflush _) (sound_error _)
  | commentEnd => exact sound_error _
  | dataEnd => exact sound_error _
  | declarationStart => exact sound_error _
  | _ => exact htext _

/-! ### Elements -/

theorem sound_openElement (t : Tag) (isEmpty : Bool) : Sound (m.openElement t isEmpty) := by
  have hopen : Open (t.name :: m.unclosed.map (·.1)) (Event.opening t.name t.attributes.reverse :: m.told).reverse := by
    rw [List.reverse_cons]
    exact Open.opening _ _ h
  refine sound_ite (sound_error _) ?_
  cases isEmpty with
  | false => exact sound_on (m := { m.tell _ with unclosed := (t.name, t.spaces) :: m.unclosed }) hopen
  | true =>
    refine sound_on (m := (m.tell _).tell _) ?_
    show Open _ (Event.closing t.name :: _ :: m.told).reverse
    rw [List.reverse_cons]
    exact Open.closing _ hopen

theorem sound_closeElement (name : Name) : Sound (m.closeElement name) := by
  unfold closeElement
  split
  · rename_i top spaces rest hu
    split
    · rename_i he
      subst he
      refine sound_on ?_
      rw [Nested, hu] at h
      show Open _ (Event.closing top :: m.told).reverse
      rw [List.reverse_cons]
      exact Open.closing _ h
    · exact sound_error _
  · exact sound_error _

theorem sound_takeOpeningName (soFar : List Char) (tok : Token) : Sound (m.takeOpeningName soFar tok) := by
  unfold takeOpeningName
  cases Name.ofChars? soFar.reverse with
  | none =>
    cases tok with
    | char c => exact sound_ite (sound_enter h _) (sound_ite (sound_error _) (sound_error _))
    | _ => exact sound_error _
  | some name =>
    have named {r : Result} (hr : Sound r) : Sound (if isReserved name.space then .error .tag else r) :=
      sound_ite (sound_error _) hr
    cases tok with
    | tagEnd => exact named (sound_openElement h _ _)
    | emptyTagEnd => exact named (sound_openElement h _ _)
    | char c => exact sound_ite (sound_enter h _) (sound_ite (named (sound_enter h _)) (sound_error _))
    | _ => exact sound_error _

theorem sound_takeOpening (t : Tag) (tok : Token) : Sound (m.takeOpening t tok) := by
  refine sound_ite (sound_openElement h _ _) ?_
  cases t.feed m.edition m.entities tok with
  | error f => exact sound_error _
  | ok t => exact sound_enter h _

theorem sound_takeClosingName (soFar : List Char) (tok : Token) : Sound (m.takeClosingName soFar tok) := by
  unfold takeClosingName
  cases Name.ofChars? soFar.reverse with
  | none =>
    cases tok with
    | char c => exact sound_ite (sound_enter h _) (sound_ite (sound_error _) (sound_error _))
    | _ => exact sound_error _
  | some name =>
    cases tok with
    | tagEnd => exact sound_closeElement h name
    | char c => exact sound_ite (sound_enter h _) (sound_ite (sound_enter h _) (sound_error _))
    | _ => exact sound_error _

/-! ### Other parts -/

theorem sound_declare (cs : List Char) : Sound (m.declare cs) := by
  have hmeet := nested_meet h .declaration
  unfold declare
  refine sound_ite (sound_error _) ?_
  split
  · exact sound_error _
  · simp only
    split
    · exact sound_on (m := { m.meet .declaration with edition := _, part := .content }) hmeet
    · split
      · exact sound_on (m := { m.meet .declaration with edition := _, part := .content, encoding := _ }) hmeet
      · exact sound_error _

theorem sound_instruct (cs : List Char) : Sound (m.instruct cs) := by
  unfold instruct
  refine sound_ite (sound_error _) ?_
  split
  · exact sound_ite (sound_error _) (sound_on (nested_tell (nested_meet h .remark) (.instruction _ _)))
  · refine sound_ite (sound_error _) (sound_ite (sound_declare h _) (sound_ite (sound_error _) ?_))
    exact sound_ite (sound_on (nested_tell h (.instruction _ _))) (sound_error _)

theorem sound_takeUntil (stop tok : Token) (again : List Char → Part) (soFar : List Char) (node : Leaf) :
    Sound (m.takeUntil stop tok again soFar node.event) := by
  refine sound_ite (sound_on (nested_tell h node)) ?_
  split
  · exact sound_ite (sound_enter h _) (sound_error _)
  · exact sound_enter h _

theorem sound_takeReference (soFar : List Char) (tok : Token) : Sound (m.takeReference soFar tok) := by
  unfold takeReference
  cases tok with
  | char c => exact sound_ite (sound_enter h _) (sound_error _)
  | referenceEnd =>
    simp only
    cases referent? m.edition m.entities soFar.reverse with
    | none => exact sound_error _
    | some referent =>
      cases referent with
      | char c => exact sound_on (m := { m.push [c] with part := .content }) h
      | entity text => exact sound_expand h _ _
  | _ => exact sound_error _

theorem sound_takeDoctype (d : Doctype) (tok : Token) : Sound (m.takeDoctype d tok) := by
  unfold takeDoctype
  cases d.feed m.edition m.entities tok with
  | error f => exact sound_error _
  | ok p =>
    cases p with
    | on d es => exact sound_on (m := { m with part := .doctype d, entities := es }) h
    | expand text => exact sound_expand h _ _
    | done => exact sound_enter h _

/-- A token keeps the tags nested. -/
theorem sound_take (tok : Token) : Sound (m.take tok) := by
  unfold take
  split
  · exact sound_takeContent h tok
  · exact sound_takeOpeningName h _ tok
  · exact sound_takeOpening h _ tok
  · exact sound_takeClosingName h _ tok
  · exact sound_ite (sound_closeElement h _) (sound_ite (sound_on h) (sound_error _))
  · exact sound_takeUntil h _ tok _ _ (.comment _)
  · exact sound_takeUntil h _ tok _ _ (.data _)
  · exact sound_ite (sound_instruct h _) (sound_enter h _)
  · exact sound_takeReference h _ tok
  · exact sound_takeDoctype h _ tok

end

theorem sound_takeAll {m : Machine} (h : m.Nested) (toks : List Token) : Sound (m.takeAll toks) := by
  induction toks generalizing m with
  | nil => exact sound_on h
  | cons tok rest ih =>
    cases rest with
    | nil => exact sound_take h tok
    | cons tok' rest =>
      rw [takeAll]
      · cases ht : m.take tok with
        | error f => exact sound_error f
        | ok r => exact ih (sound_take h tok r.1 r.2 ht)
      · exact fun e => by cases e

/-! ## A whole document -/

theorem finish_nested {m : Machine} (h : m.Nested) (mode : Mode) (hf : (m.finish mode).fault = none) :
    Open [] (m.finish mode).events := by
  have hu : m.flush.unclosed = m.unclosed := by
    unfold flush
    split <;> rfl
  have hflush := nested_flush h
  unfold finish at hf ⊢
  simp only at hf ⊢
  split at hf
  · rename_i hc
    rw [Nested, hu, hc.2.2.1] at hflush
    exact hflush
  · cases hf

end Machine

open Machine

theorem takeOne_nested {m m' : Machine} (h : m.Nested) {mode mode' : Mode} {c : Char} {text : Option (List Char)}
    (ht : takeOne m mode c = .ok (m', text, mode')) : m'.Nested := by
  unfold takeOne at ht
  cases hm : mode.feed c with
  | error f =>
    rw [hm] at ht
    cases ht
  | ok r =>
    rw [hm] at ht
    cases ha : m.takeAll r.1 with
    | error f =>
      simp only [Except.bind, ha, Except.map] at ht
      cases ht
    | ok q =>
      simp only [Except.bind, ha, Except.map] at ht
      cases ht
      exact sound_takeAll h r.1 _ _ ha

/-- A reading that goes on does so with a nested machine, and one that stops has a fault. -/
def Continues {α : Type} (machine : α → Machine) : Except Stream α → Prop
  | .ok a => (machine a).Nested
  | .error s => s.fault ≠ none

theorem continues_stop {α : Type} {machine : α → Machine} (m : Machine) (f : Fault) :
    Continues machine (.error (m.stop f)) := Option.some_ne_none f

theorem readChars_nested {m : Machine} (h : m.Nested) (mode : Mode) (waiting : List Char) :
    Continues (·.1) (readChars m mode waiting) := by
  induction waiting generalizing m mode with
  | nil => exact h
  | cons c waiting ih =>
    rw [readChars]
    split
    · exact continues_stop _ _
    · rename_i ht
      exact ih (takeOne_nested h ht) _
    · rename_i ht
      exact takeOne_nested h ht

theorem readWaiting_nested (left : Nat) {m : Machine} (h : m.Nested) (mode : Mode) (waiting : List Char) :
    Continues (·.1) (readWaiting left m mode waiting) := by
  induction left using Nat.strongRecOn generalizing m mode waiting with
  | ind left ih =>
    have hchars := readChars_nested h mode waiting
    rw [readWaiting.eq_def]
    simp only
    rcases hr : readChars m mode waiting with s | ⟨m', mode', _ | ⟨text, waiting'⟩⟩
    · rw [hr] at hchars
      exact hchars
    · rw [hr] at hchars
      exact hchars
    · rw [hr] at hchars
      cases left with
      | zero => exact continues_stop _ _
      | succ left =>
        simp only
        split
        · exact continues_stop _ _
        · exact ih left (Nat.lt_succ_self left) hchars _ _

theorem readFrom_nested (rounds : Nat) {m : Machine} (h : m.Nested) {mode : Mode} {source : Bytes}
    (hf : (readFrom rounds m mode source).fault = none) : Open [] (readFrom rounds m mode source).events := by
  induction rounds generalizing m mode source with
  | zero =>
    cases source with
    | nil => exact finish_nested h mode hf
    | cons b source => cases hf
  | succ rounds ih =>
    cases source with
    | nil => exact finish_nested h mode hf
    | cons b source =>
      rw [readFrom.eq_def] at hf ⊢
      simp only at hf ⊢
      cases hn : m.encoding.next (b :: source) with
      | none =>
        rw [hn] at hf
        cases hf
      | some r =>
        simp only [hn] at hf ⊢
        cases ht : takeOne m mode r.1 with
        | error f =>
          simp only [ht] at hf
          cases hf
        | ok r₁ =>
          obtain ⟨m₁, text, mode₁⟩ := r₁
          simp only [ht] at hf ⊢
          have hwaiting := readWaiting_nested (maxExpansions - (if text.isSome then 1 else 0)) (takeOne_nested h ht) mode₁ (text.getD [])
          cases hw : readWaiting (maxExpansions - (if text.isSome then 1 else 0)) m₁ mode₁ (text.getD []) with
          | error s =>
            simp only [hw] at hf hwaiting
            exact absurd hf hwaiting
          | ok r₂ =>
            simp only [hw] at hf hwaiting ⊢
            exact ih hwaiting hf

/-- A document without a fault tells a forest. -/
theorem read_forest {octets : Bytes} (h : (read octets).fault = none) : ∃ f : Forest, (read octets).events = f.events := by
  have hstart (encoding : Encoding) : (Machine.start encoding).Nested := Open.nil
  obtain ⟨f, hf⟩ := exists_forest (readFrom_nested _ (hstart _) h)
  exact ⟨f, hf.symm⟩

end BuildHarvest.Markup
