/-
  BuildHarvest.Proofs.Json — what the JSON printer writes, the JSON reader reads.

  `Writes depth cs v`: wherever a value of that depth may stand, behind blanks and before a comma
  or a line's end, `cs` is read as `v`. Proved of texts in quotes (`writes_quoted`), whole numbers
  of sixty-four bits (`writes_natText`), and lists and objects over several lines
  (`writes_listText`, `writes_objectText`).
-/

import BuildHarvest.Json.Printer
import BuildHarvest.Json.Reader

namespace BuildHarvest.Json

/-! ## Blanks -/

/-- Characters that say nothing between values. -/
def Blanks (cs : List Char) : Prop := ∀ c ∈ cs, isBlank c = true

theorem blanks_newline (depth : Nat) : Blanks (newline depth) := by
  intro c hc
  rcases List.mem_cons.mp hc with rfl | hc
  · rfl
  · rw [List.eq_of_mem_replicate hc]
    rfl

theorem skipBlanks_append {pre : List Char} (h : Blanks pre) (cs : List Char) : skipBlanks (pre ++ cs) = skipBlanks cs :=
  List.dropWhile_append_of_pos h

theorem skipBlanks_cons {c : Char} (h : isBlank c = false) (cs : List Char) : skipBlanks (c :: cs) = c :: cs := by
  rw [skipBlanks, List.dropWhile_cons_of_neg (by simp [h])]

theorem value_append {pre : List Char} (h : Blanks pre) (depth : Nat) (cs : List Char) :
    value depth (pre ++ cs) = value depth cs := by
  rw [value.eq_def, value.eq_def depth cs]
  simp only [skipBlanks_append h]

/-! ## Texts -/

theorem hexDigit?_hexChar : ∀ n < 16, hexDigit? (hexChar n) = some n := by decide

/-- A control character by its number. -/
theorem escapedUnit_control {c : Char} (h : c.toNat < 0x20) (rest : List Char) :
    escapedUnit ('0' :: '0' :: hexChar (c.toNat / 16) :: hexChar (c.toNat % 16) :: rest) = some (c, rest) := by
  have hhigh := hexDigit?_hexChar (c.toNat / 16) (by omega)
  have hlow := hexDigit?_hexChar (c.toNat % 16) (by omega)
  have hzero : hexDigit? '0' = some 0 := by decide
  have hvalue : digitsValue? 16 hexDigit? ['0', '0', hexChar (c.toNat / 16), hexChar (c.toNat % 16)] = some c.toNat := by
    simp only [digitsValue?, List.foldl_cons, List.foldl_nil, Option.bind_some, hzero, hhigh, hlow, Option.map_some,
      Option.some.injEq]
    omega
  simp only [escapedUnit, hexUnit, hvalue, Option.map_some, Option.bind_some]
  rw [if_pos (.inl (by omega)), Char.ofNat_toNat]

/-- Each character is read back from its escape. -/
theorem stringFrom_escapeChar (fuel : Nat) (soFar : List Char) (c : Char) (rest : List Char) :
    stringFrom (fuel + 1) soFar (escapeChar c ++ rest) = stringFrom fuel (c :: soFar) rest := by
  unfold escapeChar
  by_cases hmark : c = '\x22' ∨ c = '\\'
  · rw [if_pos hmark]
    rcases hmark with rfl | rfl <;> rfl
  rw [if_neg hmark]
  by_cases hcontrol : c.toNat < 0x20
  · rw [if_pos hcontrol]
    have hunit := escapedUnit_control hcontrol rest
    unfold controlEscape
    repeat' split
    all_goals first | (subst c; rfl) | skip
    simp only [List.cons_append, List.nil_append, stringFrom, hunit, Option.bind_some]
  · rw [if_neg hcontrol]
    rw [not_or] at hmark
    simp only [List.cons_append, List.nil_append]
    rw [stringFrom]
    · rw [if_neg hcontrol]
    · exact fun h => hmark.1 h
    · exact fun _ h _ => hmark.2 h
    · exact fun _ _ h _ => hmark.2 h

theorem stringFrom_escaped (s : List Char) {fuel : Nat} (h : s.length < fuel) (soFar rest : List Char) :
    stringFrom fuel soFar (s.flatMap escapeChar ++ '\x22' :: rest) = some (String.ofList (soFar.reverse ++ s), rest) := by
  induction s generalizing fuel soFar with
  | nil =>
    obtain ⟨fuel, rfl⟩ : ∃ k, fuel = k + 1 := ⟨fuel - 1, by simp at h; omega⟩
    simp [stringFrom]
  | cons c s ih =>
    obtain ⟨fuel, rfl⟩ : ∃ k, fuel = k + 1 := ⟨fuel - 1, by simp at h; omega⟩
    rw [List.flatMap_cons, List.append_assoc, stringFrom_escapeChar, ih (by simp at h; omega)]
    simp

theorem escapeChar_ne_nil (c : Char) : escapeChar c ≠ [] := by
  unfold escapeChar controlEscape
  repeat' split
  all_goals simp

theorem length_escaped (s : List Char) : s.length ≤ (s.flatMap escapeChar).length := by
  induction s with
  | nil => exact Nat.le_refl _
  | cons c s ih =>
    have := List.length_pos_iff.mpr (escapeChar_ne_nil c)
    rw [List.flatMap_cons, List.length_append, List.length_cons]
    omega

theorem string_escaped (s : String) (rest : List Char) :
    string (s.toList.flatMap escapeChar ++ '\x22' :: rest) = some (s, rest) := by
  have hlength := length_escaped s.toList
  rw [string, stringFrom_escaped]
  · simp
  · rw [List.length_append]
    omega

/-! ## Whole numbers -/

theorem decimalDigit?_digitChar : ∀ d < 10, decimalDigit? (Nat.digitChar d) = some d := by decide

theorem leadingDigits_append {n m : Nat} {xs : List Char} (h : leadingDigits n xs = (m, [])) (ys : List Char) :
    leadingDigits n (xs ++ ys) = leadingDigits m ys := by
  induction xs generalizing n with
  | nil =>
    obtain ⟨rfl, -⟩ := Prod.mk.inj h
    rfl
  | cons x xs ih =>
    simp only [leadingDigits] at h
    simp only [List.cons_append, leadingDigits]
    cases hd : decimalDigit? x with
    | none =>
      rw [hd] at h
      cases (Prod.mk.inj h).2
    | some d =>
      simp only [hd] at h ⊢
      split at h
      · cases (Prod.mk.inj h).2
      · rename_i hfits
        rw [if_neg hfits]
        exact ih h

theorem leadingDigits_natText {n : Nat} (h : n < Word.values 64) : leadingDigits 0 (natText n) = (n, []) := by
  have single (m d : Nat) (hd : d < 10) (hfits : m * 10 + d < Word.values 64) :
      leadingDigits m [Nat.digitChar d] = (m * 10 + d, []) := by
    simp only [leadingDigits, decimalDigit?_digitChar d hd, if_neg (Nat.not_le.mpr hfits)]
  unfold natText
  induction n using Nat.strongRecOn with
  | ind n ih =>
    rw [Nat.toDigits_eq_if (by omega)]
    split
    · rename_i hn
      have := single 0 n hn (by omega)
      rwa [Nat.zero_mul, Nat.zero_add] at this
    · have hn : n / 10 * 10 + n % 10 = n := by omega
      rw [leadingDigits_append (ih (n / 10) (by omega) (by omega)), single _ _ (by omega) (by omega), hn]

/-- Only zero begins with it. -/
theorem natText_head {n : Nat} (h : n ≠ 0) : (natText n).head? ≠ some '0' := by
  unfold natText
  induction n using Nat.strongRecOn with
  | ind n ih =>
    rw [Nat.toDigits_eq_if (by omega)]
    split
    · rw [List.head?_cons, ne_eq, Option.some.injEq, Nat.digitChar_eq_zero]
      exact h
    · rw [List.head?_append, Option.or_of_isSome (by simp [Nat.toDigits_ne_nil])]
      exact ih (n / 10) (by omega) (by omega)

/-- What may stand behind a value that is written here. -/
def Ends (rest : List Char) : Prop := ∀ c ∈ rest.head?, c = ',' ∨ c = '\n'

theorem ends_nil : Ends [] := fun _ h => by cases h

theorem ends_comma (cs : List Char) : Ends (',' :: cs) := fun _ h => .inl (Option.some.inj h).symm

theorem ends_newline (depth : Nat) (cs : List Char) : Ends (newline depth ++ cs) := fun _ h => .inr (Option.some.inj h).symm

theorem takeWhile_natText (n : Nat) {rest : List Char} (h : Ends rest) :
    (natText n ++ rest).takeWhile Char.isDigit = natText n := by
  have hdigits : ∀ c ∈ natText n, c.isDigit = true := fun c hc => Nat.isDigit_of_mem_toDigits (by omega) (by omega) hc
  rw [List.takeWhile_append_of_pos hdigits]
  cases rest with
  | nil => simp
  | cons c rest =>
    have hc : c.isDigit = false := by rcases h c rfl with rfl | rfl <;> rfl
    rw [List.takeWhile_cons_of_neg (by simp [hc]), List.append_nil]

theorem numeral_natText {n : Nat} (hn : n < Word.values 64) {rest : List Char} (h : Ends rest) :
    numeral false (natText n ++ rest) = some (⟨false, n, 0, true⟩, rest) := by
  have hrest : (natText n ++ rest).drop (natText n).length = rest := List.drop_left
  have hone : ∀ c cs, natText n ≠ '0' :: c :: cs := by
    intro c cs he
    by_cases h0 : n = 0
    · subst h0
      cases he
    · exact natText_head h0 (by rw [he]; rfl)
  simp only [numeral, takeWhile_natText n h, leadingDigits_natText hn, hrest]
  split
  · rename_i he
    exact absurd he Nat.toDigits_ne_nil
  · rename_i he
    exact absurd he (hone _ _)
  · split
    · rename_i cs
      rcases h '.' rfl with h | h <;> cases h
    · unfold exponentOpt
      split
      · rcases h 'e' rfl with h | h <;> cases h
      · rcases h 'E' rfl with h | h <;> cases h
      · rfl

/-! ## Values -/

/-- Wherever a value may stand, `cs` is read as `v`, and nothing else is. -/
structure Writes (depth : Nat) (cs : List Char) (v : Value) : Prop where
  opens : ∃ c rest, cs = c :: rest ∧ isBlank c = false ∧ c ≠ ']'
  reads : ∀ rest, Ends rest → value depth (cs ++ rest) = some (v, rest)

theorem Writes.behind {depth : Nat} {cs : List Char} {v : Value} (h : Writes depth cs v) {pre rest : List Char}
    (hpre : Blanks pre) (hrest : Ends rest) : value depth (pre ++ (cs ++ rest)) = some (v, rest) := by
  rw [value_append hpre, h.reads rest hrest]

theorem quoted_append (s : String) (rest : List Char) :
    quoted s ++ rest = '\x22' :: (s.toList.flatMap escapeChar ++ '\x22' :: rest) := by
  simp [quoted]

theorem writes_quoted (depth : Nat) (s : String) : Writes depth (quoted s) (.text s) where
  opens := ⟨'\x22', _, rfl, rfl, by decide⟩
  reads rest _ := by
    rw [quoted_append, value.eq_def]
    simp only [skipBlanks_cons (c := '\x22') rfl, string_escaped, Option.map_some]

theorem value_digit (depth : Nat) {c : Char} (h : c.isDigit = true) (cs : List Char) :
    value depth (c :: cs) = number false (c :: cs) := by
  have hblank : isBlank c = false := by
    cases hb : isBlank c with
    | false => rfl
    | true =>
      simp only [isBlank, Bool.or_eq_true, beq_iff_eq] at hb
      rcases hb with ((rfl | rfl) | rfl) | rfl <;> cases h
  rw [value.eq_def]
  simp only [skipBlanks_cons hblank]
  split <;> first | rfl | (rename_i he; obtain ⟨rfl, -⟩ := List.cons.inj he; cases h)

theorem writes_natText (depth : Nat) {n : Nat} (h : n < Word.values 64) : Writes depth (natText n) (.int n) := by
  obtain ⟨c, cs, hcs⟩ := List.exists_cons_of_ne_nil (Nat.toDigits_ne_nil (n := n) (b := 10))
  have hc : c.isDigit = true :=
    Nat.isDigit_of_mem_toDigits (b := 10) (n := n) (by omega) (by omega) (by rw [hcs]; exact List.mem_cons_self)
  refine ⟨⟨c, cs, hcs, ?_, ?_⟩, fun rest hrest => ?_⟩
  · cases hb : isBlank c with
    | false => rfl
    | true =>
      simp only [isBlank, Bool.or_eq_true, beq_iff_eq] at hb
      rcases hb with ((rfl | rfl) | rfl) | rfl <;> cases hc
  · rintro rfl
    cases hc
  · have hnumber : number false (natText n ++ rest) = some (.int n, rest) := by
      rw [number, numeral_natText h hrest]
      rfl
    rw [← hnumber]
    unfold natText
    rw [hcs]
    exact value_digit depth hc _

/-! ## Lists and objects over several lines -/

theorem lines_cons (k : Nat) (p : List Char) (ps : List (List Char)) (tail : List Char) :
    lines k (p :: ps) ++ tail =
      newline (k + 1) ++ (p ++ (ps.flatMap (fun p => ',' :: newline (k + 1) ++ p) ++ (newline k ++ tail))) := by
  simp only [lines, List.append_assoc]

theorem length_lines (k : Nat) (ps : List (List Char)) : ps.length ≤ (lines k ps).length := by
  cases ps with
  | nil => exact Nat.zero_le _
  | cons p ps =>
    have hmore : ps.length ≤ (ps.flatMap fun p => ',' :: newline (k + 1) ++ p).length := by
      induction ps with
      | nil => exact Nat.zero_le _
      | cons q ps ih =>
        simp only [List.flatMap_cons, List.length_append, List.length_cons]
        omega
    have hline : 0 < (newline (k + 1)).length := Nat.zero_lt_succ _
    rw [lines, List.length_append, List.length_append, List.length_append, List.length_cons]
    omega

/-- The parts of a list, up to the bracket that closes it. -/
theorem elements_lines {depth k : Nat} {first : List Char × Value} {rest : List (List Char × Value)}
    (hfirst : Writes depth first.1 first.2) (hrest : ∀ x ∈ rest, Writes depth x.1 x.2) {fuel : Nat}
    (hfuel : rest.length < fuel) {pre : List Char} (hpre : Blanks pre) (tail : List Char) :
    elements (value depth) fuel (pre ++ (first.1 ++ ((rest.map (·.1)).flatMap (fun p => ',' :: newline (k + 1) ++ p) ++
      (newline k ++ ']' :: tail)))) = some (first.2 :: rest.map (·.2), tail) := by
  induction rest generalizing first fuel pre with
  | nil =>
    obtain ⟨fuel, rfl⟩ : ∃ n, fuel = n + 1 := ⟨fuel - 1, by simp at hfuel; omega⟩
    simp only [List.map_nil, List.flatMap_nil, List.nil_append, elements, hfirst.behind hpre (ends_newline k _), Option.bind_some,
      skipBlanks_append (blanks_newline k), skipBlanks_cons (c := ']') rfl]
  | cons next rest ih =>
    obtain ⟨fuel, rfl⟩ : ∃ n, fuel = n + 1 := ⟨fuel - 1, by simp at hfuel; omega⟩
    have hfuel : rest.length < fuel := by
      rw [List.length_cons] at hfuel
      omega
    have htail := ih (hrest next List.mem_cons_self) (fun x hx => hrest x (List.mem_cons_of_mem _ hx)) hfuel
      (blanks_newline (k + 1))
    simp only [List.map_cons, List.flatMap_cons, List.cons_append, List.append_assoc] at htail ⊢
    simp only [elements, hfirst.behind hpre (ends_comma _), Option.bind_some, skipBlanks_cons (c := ',') rfl, htail, Option.map_some]

theorem writes_listText {depth : Nat} (k : Nat) {items : List (List Char × Value)} (h : ∀ x ∈ items, Writes depth x.1 x.2) :
    Writes (depth + 1) (listText k (items.map (·.1))) (.list (items.map (·.2))) where
  opens := ⟨'[', _, rfl, rfl, by decide⟩
  reads rest _ := by
    rw [listText, List.append_assoc, List.cons_append, value.eq_def]
    simp only [skipBlanks_cons (c := '[') rfl]
    cases items with
    | nil => simp only [List.map_nil, lines, List.nil_append, List.cons_append, skipBlanks_cons (c := ']') rfl]
    | cons first items =>
      have hfirst := h first List.mem_cons_self
      obtain ⟨c, cs, hcs, hblank, hne⟩ := hfirst.opens
      have hlength := length_lines k (first.1 :: items.map (·.1))
      have hfuel : items.length < (lines k (first.1 :: items.map (·.1)) ++ ']' :: rest).length := by
        simp only [List.length_append, List.length_cons, List.length_map] at hlength ⊢
        omega
      have hbody := elements_lines (k := k) hfirst (fun x hx => h x (List.mem_cons_of_mem _ hx)) hfuel (blanks_newline (k + 1)) rest
      rw [← lines_cons k first.1 (items.map (·.1))] at hbody
      have hopen : skipBlanks (lines k (first.1 :: items.map (·.1)) ++ ']' :: rest) =
          c :: (cs ++ ((items.map (·.1)).flatMap (fun p => ',' :: newline (k + 1) ++ p) ++ (newline k ++ ']' :: rest))) := by
        rw [lines_cons, skipBlanks_append (blanks_newline _), hcs, List.cons_append, skipBlanks_cons hblank]
      simp only [List.map_cons, List.cons_append, List.nil_append, hopen, hbody]
      split
      · rename_i he
        exact absurd (List.cons.inj he).1 hne
      · rfl

theorem memberText_append (name : String) (cs rest : List Char) :
    memberText name cs ++ rest = '\x22' :: (name.toList.flatMap escapeChar ++ '\x22' :: ':' :: ([' '] ++ (cs ++ rest))) := by
  simp [memberText, quoted]

/-- The members of an object, up to the brace that closes it. -/
theorem members_lines {depth k : Nat} {first : String × List Char × Value} {rest : List (String × List Char × Value)}
    (hfirst : Writes depth first.2.1 first.2.2) (hrest : ∀ x ∈ rest, Writes depth x.2.1 x.2.2) {fuel : Nat}
    (hfuel : rest.length < fuel) {pre : List Char} (hpre : Blanks pre) (tail : List Char) :
    members (value depth) fuel (pre ++ (memberText first.1 first.2.1 ++
      ((rest.map fun x => memberText x.1 x.2.1).flatMap (fun p => ',' :: newline (k + 1) ++ p) ++ (newline k ++ '\x7d' :: tail)))) =
      some ((first.1, first.2.2) :: rest.map fun x => (x.1, x.2.2), tail) := by
  have hgap : Blanks [' '] := fun c hc => by rw [List.mem_singleton.mp hc]; rfl
  induction rest generalizing first fuel pre with
  | nil =>
    obtain ⟨fuel, rfl⟩ : ∃ n, fuel = n + 1 := ⟨fuel - 1, by simp at hfuel; omega⟩
    simp only [List.map_nil, List.flatMap_nil, List.nil_append, members, skipBlanks_append hpre, memberText_append,
      skipBlanks_cons (c := '\x22') rfl, string_escaped, Option.bind_some, skipBlanks_cons (c := ':') rfl,
      hfirst.behind hgap (ends_newline k _), skipBlanks_append (blanks_newline k), skipBlanks_cons (c := '\x7d') rfl]
  | cons next rest ih =>
    obtain ⟨fuel, rfl⟩ : ∃ n, fuel = n + 1 := ⟨fuel - 1, by simp at hfuel; omega⟩
    have hfuel : rest.length < fuel := by
      rw [List.length_cons] at hfuel
      omega
    have htail := ih (hrest next List.mem_cons_self) (fun x hx => hrest x (List.mem_cons_of_mem _ hx)) hfuel
      (blanks_newline (k + 1))
    simp only [List.map_cons, List.flatMap_cons, List.cons_append, List.append_assoc] at htail ⊢
    rw [members, skipBlanks_append hpre, memberText_append]
    simp only [skipBlanks_cons (c := '\x22') rfl, string_escaped, Option.bind_some, skipBlanks_cons (c := ':') rfl,
      hfirst.behind hgap (ends_comma _), skipBlanks_cons (c := ',') rfl, htail, Option.map_some]

theorem writes_objectText {depth : Nat} (k : Nat) {items : List (String × List Char × Value)}
    (h : ∀ x ∈ items, Writes depth x.2.1 x.2.2) :
    Writes (depth + 1) (objectText k (items.map fun x => (x.1, x.2.1))) (.object (items.map fun x => (x.1, x.2.2))) where
  opens := ⟨'\x7b', _, rfl, rfl, by decide⟩
  reads rest _ := by
    rw [objectText, List.append_assoc, List.cons_append, value.eq_def, List.map_map]
    simp only [skipBlanks_cons (c := '\x7b') rfl]
    cases items with
    | nil => simp only [List.map_nil, lines, List.nil_append, List.cons_append, skipBlanks_cons (c := '\x7d') rfl]
    | cons first items =>
      have hlength := length_lines k (memberText first.1 first.2.1 :: items.map fun x => memberText x.1 x.2.1)
      have hfuel : items.length <
          (lines k (memberText first.1 first.2.1 :: items.map fun x => memberText x.1 x.2.1) ++ '\x7d' :: rest).length := by
        simp only [List.length_append, List.length_cons, List.length_map] at hlength ⊢
        omega
      have hbody := members_lines (k := k) (h first List.mem_cons_self) (fun x hx => h x (List.mem_cons_of_mem _ hx)) hfuel
        (blanks_newline (k + 1)) rest
      rw [← lines_cons k (memberText first.1 first.2.1)] at hbody
      simp only [List.map_cons, Function.comp_def, List.cons_append, List.nil_append, hbody, Option.map_some]
      rw [lines_cons, skipBlanks_append (blanks_newline _), memberText_append, skipBlanks_cons (by decide)]
      rfl

/-- A text that is nothing but a value. -/
theorem Writes.read? {cs : List Char} {v : Value} (h : Writes maxDepth cs v) : read? cs = some v := by
  have hvalue := h.reads [] ends_nil
  rw [List.append_nil] at hvalue
  rw [Json.read?, hvalue]
  rfl

end BuildHarvest.Json
