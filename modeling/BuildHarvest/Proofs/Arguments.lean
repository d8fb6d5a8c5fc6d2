/-
  BuildHarvest.Proofs.Arguments — a switch with its value behind the other arguments.

  Proved:
  - Reading arguments ends at the divider alone: without one among them, what was given stays open
    (`foldlM_undivided`).
  - `parse_concat`: a slot with a value attached to it, behind arguments that are read, fills the
    slot in what they ask for, and changes nothing else.
  - `mapM_readText_splitOn`: the text that is cut at its commas is read as its pieces.
-/

import BuildHarvest.CommandLine.Reader
import BuildHarvest.Proofs.Report
import BuildHarvest.Proofs.Volume

namespace BuildHarvest

theorem Utf8.decode?_encode (s : String) : decode? (encode s) = some s := by
  rw [decode?, encode, decodeChars?_encodeChars, Option.map_some, String.ofList_toList]

/-! ## Text between commas -/

namespace Utf8

theorem encodeChars_append (cs ds : List Char) : encodeChars (cs ++ ds) = encodeChars cs ++ encodeChars ds :=
  List.flatMap_append

/-- A character of one octet stands between the pieces as that octet. -/
theorem encodeChars_joinWith {sep : Char} {b : UInt8} (hsep : encodeChar sep = [b]) (pieces : List (List Char)) :
    encodeChars (joinWith sep pieces) = joinWith b (pieces.map encodeChars) := by
  induction pieces with
  | nil => rfl
  | cons piece rest ih =>
    cases rest with
    | nil => rfl
    | cons next rest =>
      show encodeChars (piece ++ sep :: joinWith sep (next :: rest)) =
        encodeChars piece ++ b :: joinWith b ((next :: rest).map encodeChars)
      rw [encodeChars_append, ← ih]
      show encodeChars piece ++ (encodeChar sep ++ encodeChars (joinWith sep (next :: rest))) = _
      rw [hsep, List.singleton_append]

theorem splitOn_encode (s : String) : splitOn CommandLine.comma (encode s) = (splitOn ',' s.toList).map encodeChars := by
  have hsep : encodeChar ',' = [CommandLine.comma] := by decide
  have hpieces : (splitOn ',' s.toList).map encodeChars ≠ [] := by
    simpa using splitOn_ne_nil ',' s.toList
  have hfree : ∀ p ∈ (splitOn ',' s.toList).map encodeChars, CommandLine.comma ∉ p := by
    intro p hp hcomma
    obtain ⟨piece, hpiece, rfl⟩ := List.mem_map.mp hp
    apply not_mem_of_mem_splitOn ',' s.toList piece hpiece
    have hmem : CommandLine.comma ∈ encode (String.ofList piece) := by
      rw [encode, String.toList_ofList]
      exact hcomma
    have hchar := ofNat_mem_of_mem_encode (by decide) hmem
    rw [String.toList_ofList] at hchar
    exact hchar
  calc splitOn CommandLine.comma (encode s)
      = splitOn CommandLine.comma (encodeChars (joinWith ',' (splitOn ',' s.toList))) := by rw [joinWith_splitOn]; rfl
    _ = splitOn CommandLine.comma (joinWith CommandLine.comma ((splitOn ',' s.toList).map encodeChars)) := by
        rw [encodeChars_joinWith hsep]
    _ = (splitOn ',' s.toList).map encodeChars := splitOn_joinWith _ hpieces hfree

end Utf8

namespace CommandLine

theorem readText_encode (s : String) : readText (Utf8.encode s) = .ok s := by rw [readText, Utf8.decode?_encode]

theorem mapM_readText_splitOn (s : String) :
    (splitOn comma (Utf8.encode s)).mapM readText = .ok ((splitOn ',' s.toList).map String.ofList) := by
  rw [Utf8.splitOn_encode]
  induction splitOn ',' s.toList with
  | nil => rfl
  | cons cs pieces ih =>
    have hcs : readText (Utf8.encodeChars cs) = .ok (String.ofList cs) := by
      have := readText_encode (String.ofList cs)
      rwa [Utf8.encode, String.toList_ofList] at this
    rw [List.map_cons, List.mapM_cons, hcs, ih]
    rfl

/-! ## The divider -/

theorem eq_divider {argument : Bytes} (h : Shape.of argument = .divider) : argument = [dash, dash] := by
  unfold Shape.of at h
  split at h
  · cases h
  split at h
  · split at h
    · cases h
    split at h
    · split at h
      · subst_vars
        rfl
      · cases h
    · cases h
  · cases h

namespace Given

variable {g g' : Given}

theorem fill_rest {slot : Slot} {value : Bytes} (h : g.fill slot value = .ok g') :
    g'.divided = g.divided ∧ g'.pending = g.pending := by
  unfold fill at h
  cases ho : filled g.options slot value with
  | error e =>
    rw [ho] at h
    cases h
  | ok o =>
    rw [ho] at h
    obtain rfl := Except.ok.inj h
    exact ⟨rfl, rfl⟩

theorem settle_rest (h : g.settle = .ok g') : g'.divided = g.divided ∧ g'.pending = none := by
  unfold settle at h
  split at h
  · rename_i hp
    obtain rfl := Except.ok.inj h
    exact ⟨rfl, hp⟩
  · cases h
  · exact fill_rest h

theorem giveSlot_divided {slot : Slot} {value : Option Bytes} (h : g.giveSlot slot value = .ok g') : g'.divided = g.divided := by
  obtain ⟨g₁, hsettle, h⟩ := bind_ok h
  rw [← (settle_rest hsettle).1]
  cases value with
  | some value => exact (fill_rest h).1
  | none =>
    obtain rfl := Except.ok.inj h
    rfl

theorem raise_divided {flag : Flag} (h : g.raise flag = .ok g') : g'.divided = g.divided := by
  cases flag with
  | verbose =>
    obtain rfl := Except.ok.inj h
    rfl
  | bestEffort =>
    simp only [raise] at h
    split at h
    · cases h
    · obtain rfl := Except.ok.inj h
      rfl
  | help => cases h
  | version => cases h

theorem giveFlag_divided {flag : Flag} (h : g.giveFlag flag = .ok g') : g'.divided = g.divided := by
  obtain ⟨g₁, hsettle, h⟩ := bind_ok h
  rw [raise_divided h, (settle_rest hsettle).1]

theorem takeLetters_divided {letters : Bytes} (h : g.takeLetters letters = .ok g') : g'.divided = g.divided := by
  fun_induction takeLetters g letters with
  | case1 g =>
    obtain rfl := Except.ok.inj h
    rfl
  | case2 => cases h
  | case3 => cases h
  | case4 => exact giveSlot_divided h
  | case5 =>
    rename_i ih
    obtain ⟨g₁, hflag, h⟩ := bind_ok h
    rw [ih g₁ h, giveFlag_divided hflag]

theorem takeLong_divided {name : Bytes} {value : Option Bytes} (h : g.takeLong name value = .ok g') : g'.divided = g.divided := by
  unfold takeLong at h
  split at h
  · cases h
  · exact giveSlot_divided h
  · split at h
    · cases h
    · exact giveFlag_divided h

theorem take_divided {argument : Bytes} (hne : argument ≠ [dash, dash]) (h : g.take argument = .ok g') :
    g'.divided = g.divided := by
  unfold take at h
  split at h
  · cases h
  split at h
  · rename_i hshape
    exact absurd (eq_divider hshape) hne
  · exact takeLong_divided h
  · exact takeLetters_divided h
  · unfold takePlain at h
    split at h
    · obtain rfl := Except.ok.inj h
      rfl
    · cases h

theorem foldlM_divided {arguments : List Bytes} (hne : [dash, dash] ∉ arguments) (h : arguments.foldlM take g = .ok g') :
    g'.divided = g.divided := by
  induction arguments generalizing g with
  | nil =>
    obtain rfl := Except.ok.inj h
    rfl
  | cons argument arguments ih =>
    rw [List.foldlM_cons] at h
    obtain ⟨g₁, htake, h⟩ := bind_ok h
    obtain ⟨hfirst, hrest⟩ := List.ne_and_not_mem_of_not_mem_cons hne
    rw [ih hrest h, take_divided (Ne.symm hfirst) htake]

/-! ## A slot with its value -/

theorem giveSlot_settled {slot : Slot} {value : Bytes} (h : g.settle = .ok g') :
    g.giveSlot slot (some value) = g'.fill slot value := by
  rw [giveSlot, h]
  rfl

/-- The name of a slot and its value, an equals sign between them. -/
theorem take_long (slot : Slot) (value : Bytes) (hdivided : g.divided = false) :
    g.take (dash :: dash :: (Utf8.encode slot.long ++ equals :: value)) = g.giveSlot slot (some value) := by
  have hname : equals ∉ Utf8.encode slot.long := by cases slot <;> decide
  have hshape : Shape.of (dash :: dash :: (Utf8.encode slot.long ++ equals :: value)) =
      .long (Utf8.encode slot.long) (some value) := by
    rw [← Shape.ofLong_attached value hname]
    simp [Shape.of]
  have hswitch : Switch.ofLong? (Utf8.encode slot.long) = some (.slot slot) := Switch.ofLong?_long (.slot slot)
  simp only [take, hdivided, Bool.false_eq_true, if_false, hshape, takeLong, hswitch]

/-- The letter of the artifacts and their value, an equals sign between them. -/
theorem take_letter (value : Bytes) (hdivided : g.divided = false) :
    g.take (dash :: 0x6D :: equals :: value) = g.giveSlot .artifact (some value) := by
  have hshape : Shape.of (dash :: 0x6D :: equals :: value) = .short (0x6D :: equals :: value) := rfl
  have hfrom : Utf8.takeFrom .idle (0x6D :: equals :: value) = some ('m', equals :: value) := rfl
  have hswitch : Switch.ofShort? 'm' = some (.slot .artifact) := by decide
  simp only [take, hdivided, Bool.false_eq_true, if_false, hshape]
  rw [takeLetters, if_neg (List.cons_ne_nil _ _)]
  split
  · rename_i hnone
    cases hnone.symm.trans hfrom
  · rename_i c rest hsome
    obtain ⟨rfl, rfl⟩ := Prod.mk.inj (Option.some.inj (hsome.symm.trans hfrom))
    simp only [hswitch, attached, if_true]

theorem parse_concat {arguments : List Bytes} {o o' : Options} {level : Level} {argument value : Bytes} {slot : Slot}
    (hne : [dash, dash] ∉ arguments) (hparse : parse arguments = .ok ⟨o, level⟩)
    (htake : ∀ g : Given, g.divided = false → g.take argument = g.giveSlot slot (some value))
    (hfilled : filled o slot value = .ok o') : parse (arguments ++ [argument]) = .ok ⟨o', level⟩ := by
  obtain ⟨g, hg, hend⟩ := bind_ok hparse
  obtain ⟨g₁, hsettle, hcall⟩ := bind_ok hend
  obtain ⟨rfl, rfl⟩ := Call.mk.inj (Except.ok.inj hcall)
  have hopen : g.divided = false := foldlM_divided hne hg
  have hfill : g₁.fill slot value = .ok { g₁ with options := o' } := by
    rw [fill, hfilled]
    rfl
  have hnext : g.take argument = .ok { g₁ with options := o' } := by
    rw [htake g hopen, giveSlot_settled hsettle, hfill]
  have hdone : settle { g₁ with options := o' } = .ok { g₁ with options := o' } := by
    simp only [settle, (settle_rest hsettle).2]
  rw [parse, List.foldlM_append, hg]
  show (do let g ← [argument].foldlM take g; return (← g.settle).call) = _
  rw [List.foldlM_cons, hnext]
  show (do let g ← settle { g₁ with options := o' }; pure g.call) = _
  rw [hdone]
  rfl

end Given

end CommandLine

end BuildHarvest
