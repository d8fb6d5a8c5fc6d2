/-
  BuildHarvest.Proofs.Rereading — reading the text of a locator again.

  The artifacts' locators go to the network as texts, and there they are read once more. The scheme
  is always found again (`scheme_of_reread`). In front of the path of a special scheme stand a user,
  a password, a host and a port, in characters that neither end nor move any of the others
  (`isQuiet`), so each is found where it was put.

  Proved (`parse_text_iff`): the text of a locator of a special scheme is one again exactly when
  the text of its host is a host again, whatever path, query and fragment it has.
-/

import BuildHarvest.Proofs.NameRecovery

namespace BuildHarvest.Url

/-! ## What is trimmed -/

/-- What a reading keeps of a text behind characters that all stay. -/
def trimmedEnd (cs : List Char) : List Char := (cs.reverse.dropWhile isOuter).reverse.filter (!isDropped ·)

theorem isOuter_of_isDropped {c : Char} (h : isDropped c = true) : isOuter c = true := by
  simp only [isDropped, Bool.or_eq_true, beq_iff_eq] at h
  rcases h with (rfl | rfl) | rfl <;> rfl

/-- Nothing of a text is trimmed away. -/
def Solid (cs : List Char) : Prop := ∀ c ∈ cs, isOuter c = false

theorem Solid.dropWhile {cs : List Char} (h : Solid cs) : cs.dropWhile isOuter = cs := by
  cases cs with
  | nil => rfl
  | cons c cs => rw [List.dropWhile_cons_of_neg (by rw [h c List.mem_cons_self]; decide)]

theorem trimmedEnd_append {cs : List Char} (h : Solid cs) (ds : List Char) : trimmedEnd (cs ++ ds) = cs ++ trimmedEnd ds := by
  have hreverse : cs.reverse.dropWhile isOuter = cs.reverse := Solid.dropWhile fun c hc => h c (List.mem_reverse.mp hc)
  have hdrop : (ds.reverse ++ cs.reverse).dropWhile isOuter = ds.reverse.dropWhile isOuter ++ cs.reverse := by
    rw [List.dropWhile_append, hreverse]
    split
    · rename_i hnil
      rw [List.isEmpty_iff.mp hnil, List.nil_append]
    · rfl
  have hkept : cs.filter (!isDropped ·) = cs := List.filter_eq_self.mpr fun c hc => by
    cases hd : isDropped c with
    | false => rfl
    | true =>
      have := isOuter_of_isDropped hd
      rw [h c hc] at this
      cases this
  rw [trimmedEnd, List.reverse_append, hdrop, List.reverse_append, List.reverse_reverse, List.filter_append, hkept, trimmedEnd]

theorem trimmed_append {s : String} {cs ds : List Char} (hs : s.toList = cs ++ ds) (hne : cs ≠ []) (h : Solid cs) :
    trimmed s = cs ++ trimmedEnd ds := by
  obtain ⟨c, rest, rfl⟩ := List.exists_cons_of_ne_nil hne
  have hfront : s.toList.dropWhile isOuter = (c :: rest) ++ ds := by
    rw [hs, List.cons_append, List.dropWhile_cons_of_neg (by rw [h c List.mem_cons_self]; decide)]
  rw [← trimmedEnd_append h, ← hfront]
  rfl

/-- A text is cut where the first character of a kind stands. -/
theorem cut_behind {p : Char → Bool} {cs ds : List Char} (hc : ∀ c ∈ cs, p c = false) (hd : ∀ d, ds.head? = some d → p d = true) :
    cut p (cs ++ ds) = (cs, ds) := by
  have hbefore : (cs ++ ds).takeWhile (!p ·) = cs :=
    takeWhile_behind (fun c h => by rw [hc c h]; rfl) fun d h => by rw [hd d h]; rfl
  have happend : cs ++ (cs ++ ds).dropWhile (!p ·) = cs ++ ds := by
    conv => rhs; rw [← List.takeWhile_append_dropWhile (p := (!p ·)) (l := cs ++ ds), hbefore]
  rw [cut, hbefore, List.append_cancel_left happend]

/-! ## The scheme -/

/-- The name of a scheme as readings give it. -/
structure IsScheme (name : List Char) : Prop where
  head : ∃ c rest, name = c :: rest ∧ isAlpha c = true
  chars : ∀ c ∈ name, isSchemeChar c = true ∧ c.toLower = c

theorem schemeChar_small {c : Char} (h : isSchemeChar c = true) : isSchemeChar c.toLower = true ∧ c.toLower.toLower = c.toLower ∧
    (isAlpha c = true → isAlpha c.toLower = true) ∧ isOuter c = false ∧ c ≠ ':' := by
  have hascii : c.toNat < 128 := by
    simp only [isSchemeChar, Bool.or_eq_true, beq_iff_eq] at h
    rcases h with ((h | rfl) | rfl) | rfl
    · exact ascii_of_alphanumeric h
    all_goals decide
  revert h
  exact forall_ascii (P := fun c => isSchemeChar c = true → isSchemeChar c.toLower = true ∧ c.toLower.toLower = c.toLower ∧
    (isAlpha c = true → isAlpha c.toLower = true) ∧ isOuter c = false ∧ c ≠ ':') (by decide) hascii

theorem IsScheme.solid {name : List Char} (h : IsScheme name) : Solid name := fun c hc =>
  (schemeChar_small (h.chars c hc).1).2.2.2.1

theorem isScheme_of_cutScheme {cs rest : List Char} {scheme : String} (h : cutScheme cs = some (scheme, rest)) :
    IsScheme scheme.toList := by
  unfold cutScheme at h
  split at h
  · rename_i c name rest' hcut
    split at h
    · rename_i hscheme
      obtain ⟨rfl, -⟩ := Prod.mk.inj (Option.some.inj h)
      obtain ⟨hc, hname⟩ := Bool.and_eq_true_iff.mp hscheme
      have hall : ∀ d ∈ c :: name, isSchemeChar d = true := fun d hd => by
        rcases List.mem_cons.mp hd with rfl | hd
        · simp [isSchemeChar, hc]
        · exact List.all_eq_true.mp hname d hd
      rw [String.toList_ofList]
      refine ⟨⟨c.toLower, name.map Char.toLower, rfl, (schemeChar_small (hall c List.mem_cons_self)).2.2.1 hc⟩, fun d hd => ?_⟩
      obtain ⟨written, hwritten, rfl⟩ := List.mem_map.mp hd
      obtain ⟨hchar, hsmall, -⟩ := schemeChar_small (hall written hwritten)
      exact ⟨hchar, hsmall⟩
    · cases h
  · cases h

theorem cutScheme_of_isScheme {name : List Char} (h : IsScheme name) (rest : List Char) :
    cutScheme (name ++ ':' :: rest) = some (String.ofList name, rest) := by
  have hcut : cut (· == ':') (name ++ ':' :: rest) = (name, ':' :: rest) := by
    refine cut_behind (fun c hc => ?_) fun d hd => ?_
    · simpa using (schemeChar_small (h.chars c hc).1).2.2.2.2
    · rw [← Option.some.inj hd]
      rfl
  obtain ⟨c, tail, rfl, hc⟩ := h.head
  have hsmall : (c :: tail).map Char.toLower = c :: tail :=
    (List.map_congr_left fun d hd => (h.chars d hd).2).trans (List.map_id _)
  have htail : tail.all isSchemeChar = true := List.all_eq_true.mpr fun d hd => (h.chars d (List.mem_cons_of_mem _ hd)).1
  rw [cutScheme, hcut]
  simp only [hc, htail, Bool.and_self, if_true, hsmall]

theorem scheme_eq_of_ofScheme {scheme : String} {cs : List Char} {u : Url} (h : ofScheme scheme cs = .ok u) :
    u.scheme = scheme := by
  unfold ofScheme at h
  split at h
  · rename_i hkind
    obtain ⟨host, rest, rfl⟩ := ofFile_eq_fileAt h
    unfold schemeKind at hkind
    split at hkind
    · rename_i hfile
      exact hfile.symm
    · split at hkind <;> cases hkind
  · exact scheme_of_afterSlashes h
  · exact scheme_of_ofOther h

theorem isScheme_of_parse {s : String} {u : Url} (h : parse s = .ok u) : IsScheme u.scheme.toList := by
  unfold parse at h
  split at h
  · rename_i scheme rest hscheme
    rw [scheme_eq_of_ofScheme h]
    exact isScheme_of_cutScheme hscheme
  · cases h

/-- A locator's text is read by its scheme. -/
theorem parse_text {u : Url} (h : IsScheme u.scheme.toList) :
    parse u.text = ofScheme u.scheme (trimmedEnd (u.authorityText ++ u.routeText ++ u.back).toList) := by
  have htext : u.text.toList = (u.scheme.toList ++ [':']) ++ (u.authorityText ++ u.routeText ++ u.back).toList := by
    rw [text_eq, front]
    simp [String.toList_append]
  have hsolid : Solid (u.scheme.toList ++ [':']) := by
    intro c hc
    rcases List.mem_append.mp hc with hc | hc
    · exact h.solid c hc
    · rw [List.mem_singleton.mp hc]
      rfl
  rw [parse, trimmed_append htext (by simp) hsolid, List.append_assoc, List.singleton_append, cutScheme_of_isScheme h,
    String.ofList_toList]

theorem scheme_of_reread {u u' : Url} (h : IsScheme u.scheme.toList) (h' : parse u.text = .ok u') : u'.scheme = u.scheme := by
  rw [parse_text h] at h'
  exact scheme_eq_of_ofScheme h'

/-! ## Characters of an authority -/

/-- A character that is trimmed nowhere and ends no part of an authority. -/
def isQuiet (c : Char) : Bool :=
  !(isOuter c || isSlash .special c || isTail c || c == '@' || c == ':' || c == '[' || c == ']')

def Quiet (cs : List Char) : Prop := ∀ c ∈ cs, isQuiet c = true

/-- What a quiet character is not. -/
theorem quiet_iff {c : Char} : isQuiet c = true ↔ isOuter c = false ∧ isSlash .special c = false ∧ isTail c = false ∧ c ≠ '@' ∧
    c ≠ ':' ∧ c ≠ '[' ∧ c ≠ ']' := by
  simp only [isQuiet, Bool.not_eq_true', Bool.or_eq_false_iff, beq_eq_false_iff_ne, and_assoc]

/-- Escaping leaves no other character in a user's name, and no domain has one. -/
theorem not_quiet {c : Char} (h : isQuiet c = false) :
    userinfoSet c = true ∧ isEscapeSign c = false ∧ Idna.isForbidden c = true := by
  have hascii : c.toNat < 128 := by
    simp only [isQuiet, isOuter, isSlash, isTail, SchemeKind.isSpecial, Bool.not_eq_false', Bool.or_eq_true, decide_eq_true_eq,
      beq_iff_eq, Bool.true_and] at h
    rcases h with (((((h | rfl | rfl) | rfl | rfl) | rfl) | rfl) | rfl) | rfl
    · omega
    all_goals decide
  revert h
  exact forall_ascii (P := fun c => isQuiet c = false →
    userinfoSet c = true ∧ isEscapeSign c = false ∧ Idna.isForbidden c = true) (by decide) hascii

theorem quiet_escape (cs : List Char) : Quiet (escape userinfoSet cs) := by
  intro c hc
  by_contra hq
  obtain ⟨hset, hsign, -⟩ := not_quiet (Bool.eq_false_iff.mpr hq)
  exact not_mem_escape hset hsign cs hc

theorem quiet_toAscii {cs name : List Char} (h : Idna.toAscii? cs = some name) : Quiet name := by
  intro c hc
  by_contra hq
  have hforbidden := (not_quiet (Bool.eq_false_iff.mpr hq)).2.2
  rw [not_isForbidden_of_toAscii h c hc] at hforbidden
  cases hforbidden

theorem quiet_digitChar : ∀ m < 16, isQuiet (Nat.digitChar m) = true := by decide

/-! ## The text of a host -/

/-- What a host is written as: quiet characters, or some of them and colons in brackets. -/
def ShowsHost (cs : List Char) : Prop :=
  (cs ≠ [] ∧ Quiet cs) ∨ ∃ inner, cs = '[' :: inner ++ [']'] ∧ ∀ c ∈ inner, isQuiet c = true ∨ c = ':'

theorem ipv4_text_ne_nil (a : Ipv4) : a.text.toList ≠ [] := by
  simp [Ipv4.text, String.intercalate_cons_cons, String.toList_append]

theorem showsHost_ofDomain {cs : List Char} {host : Host} (h : Host.ofDomain cs = .ok host) :
    ShowsHost host.text.toList ∧ host ≠ .empty := by
  unfold Host.ofDomain at h
  split at h
  · unfold Host.bracketed at h
    split at h
    · split at h
      · rename_i a _
        obtain rfl := Except.ok.inj h
        refine ⟨.inr ⟨a.text.toList, by simp [Host.text, String.toList_append], fun c hc => ?_⟩, by simp⟩
        rcases mem_ipv6_text hc with rfl | ⟨m, hm, rfl⟩
        · exact .inr rfl
        · exact .inl (quiet_digitChar m hm)
      · cases h
    · cases h
  · split at h
    · cases h
    · cases h
    · rename_i name hne hname
      obtain ⟨read, _, hname⟩ := Option.bind_eq_some_iff.mp hname
      split at h
      · split at h
        · rename_i a _
          obtain rfl := Except.ok.inj h
          refine ⟨.inl ⟨ipv4_text_ne_nil a, fun c hc => ?_⟩, by simp⟩
          rcases mem_ipv4_text hc with rfl | ⟨m, hm, rfl⟩
          · rfl
          · exact quiet_digitChar m (by omega)
        · cases h
      · obtain rfl := Except.ok.inj h
        refine ⟨.inl ?_, by simp⟩
        rw [Host.text, String.toList_ofList]
        exact ⟨hne, quiet_toAscii hname⟩

theorem cutPort_quiet (inside : Bool) {cs : List Char} (h : ∀ c ∈ cs, isQuiet c = true ∨ inside = true ∧ c = ':')
    (rest : List Char) :
    cutPort inside (cs ++ rest) = (cs ++ (cutPort inside rest).1, (cutPort inside rest).2) := by
  induction cs with
  | nil => rfl
  | cons c cs ih =>
    obtain ⟨hc, hcs⟩ := List.forall_mem_cons.mp h
    rw [List.cons_append]
    rcases hc with hc | ⟨rfl, rfl⟩
    · obtain ⟨-, -, -, -, hcolon, hopen, hclose⟩ := quiet_iff.mp hc
      rw [cutPort.eq_3 _ _ _ hcolon]
      simp only [beq_eq_false_iff_ne.mpr hopen, beq_eq_false_iff_ne.mpr hclose, Bool.false_eq_true, if_false, ih hcs]
      rfl
    · rw [cutPort.eq_2]
      simp only [if_true, ih hcs]
      rfl

/-- A host is cut from the port behind it, if there is one. -/
theorem cutPort_host {host rest : List Char} (h : ShowsHost host) (hrest : ∀ c, rest.head? = some c → c = ':') :
    cutPort false (host ++ rest) = (host, rest) := by
  have hport : cutPort false rest = ([], rest) := by
    cases rest with
    | nil => rfl
    | cons c rest =>
      obtain rfl := hrest c rfl
      rw [cutPort.eq_2]
      rfl
  rcases h with ⟨_, hquiet⟩ | ⟨inner, rfl, hinner⟩
  · rw [cutPort_quiet false (fun c hc => .inl (hquiet c hc)), hport, List.append_nil]
  · have hclosed : cutPort true (']' :: rest) = ([']'], rest) := by
      rw [cutPort.eq_3 _ _ _ (by decide)]
      simp [hport]
    rw [List.append_assoc, List.cons_append, cutPort.eq_3 _ _ _ (by decide)]
    simp [cutPort_quiet true (fun c hc => (hinner c hc).imp id fun e => ⟨rfl, e⟩), hclosed]

/-- A character of an authority that is kept and ends nothing but one of its parts. -/
def IsInner (c : Char) : Prop := isOuter c = false ∧ isSlash .special c = false ∧ isTail c = false

instance (c : Char) : Decidable (IsInner c) := inferInstanceAs (Decidable (_ ∧ _))

theorem isInner_of_quiet {c : Char} (h : isQuiet c = true) : IsInner c :=
  ⟨(quiet_iff.mp h).1, (quiet_iff.mp h).2.1, (quiet_iff.mp h).2.2.1⟩

theorem ShowsHost.inner {cs : List Char} (h : ShowsHost cs) {c : Char} (hc : c ∈ cs) : IsInner c ∧ c ≠ '@' := by
  rcases h with ⟨_, hquiet⟩ | ⟨inner, rfl, hinner⟩
  · exact ⟨isInner_of_quiet (hquiet c hc), (quiet_iff.mp (hquiet c hc)).2.2.2.1⟩
  · rcases List.mem_append.mp hc with hc | hc
    · rcases List.mem_cons.mp hc with rfl | hc
      · decide
      · rcases hinner c hc with hq | rfl
        · exact ⟨isInner_of_quiet hq, (quiet_iff.mp hq).2.2.2.1⟩
        · decide
    · rw [List.mem_singleton.mp hc]
      decide

/-! ## User and port -/

theorem cutUserinfo_none {cs : List Char} (h : '@' ∉ cs) : cutUserinfo cs = none := by
  rw [cutUserinfo, if_neg (by simpa using h)]

/-- The user stands before the last `@`. -/
theorem cutUserinfo_some (info : List Char) {place : List Char} (h : '@' ∉ place) :
    cutUserinfo (info ++ '@' :: place) = some (info, place) := by
  have hreverse : (info ++ '@' :: place).reverse = place.reverse ++ '@' :: info.reverse := by simp
  have hafter : ((info ++ '@' :: place).reverse.takeWhile (· ≠ '@')).reverse = place := by
    rw [hreverse, takeWhile_behind, List.reverse_reverse]
    · intro c hc
      have hne : c ≠ '@' := fun e => h (e ▸ List.mem_reverse.mp hc)
      simpa using hne
    · intro c hc
      simp at hc
      simp [← hc]
  have hlength : (info ++ '@' :: place).length - place.length - 1 = info.length := by
    rw [List.length_append, List.length_cons]
    omega
  rw [cutUserinfo, if_pos (by simp)]
  simp only [hafter, hlength, List.take_left]

theorem digitsValue?_append {base : Nat} {digit? : Char → Option Nat} {cs : List Char} {n : Nat}
    (h : digitsValue? base digit? cs = some n) (c : Char) :
    digitsValue? base digit? (cs ++ [c]) = (digit? c).map (n * base + ·) := by
  rw [digitsValue?] at h
  rw [digitsValue?, List.foldl_append, h]
  rfl

/-- The digits of a number write it. -/
theorem digitsValue?_toDigits (n : Nat) : digitsValue? 10 decimalDigit? (Nat.toDigits 10 n) = some n := by
  induction n using Nat.strongRecOn with
  | ind n ih =>
    rw [Nat.toDigits_eq_if (by omega)]
    split
    · rename_i hn
      have hone := @digitsValue?_append 10 decimalDigit? [] 0 rfl (Nat.digitChar n)
      rw [Json.decimalDigit?_digitChar n hn] at hone
      simpa using hone
    · rw [digitsValue?_append (ih (n / 10) (by omega)), Json.decimalDigit?_digitChar (n % 10) (by omega), Option.map_some]
      congr 1
      omega

theorem portOf_toDigits (scheme : String) {p : Nat} (h : p ≤ 65535) :
    ∃ port, portOf scheme (Nat.toDigits 10 p) = .ok (port, []) := by
  have hcut : cut (fun c => !c.isDigit) (Nat.toDigits 10 p) = (Nat.toDigits 10 p, []) := by
    have := @cut_behind (fun c => !c.isDigit) (Nat.toDigits 10 p) []
      (fun c hc => by rw [Nat.isDigit_of_mem_toDigits (by omega) (by omega) hc]; rfl) (fun d hd => by cases hd)
    rwa [List.append_nil] at this
  rw [portOf, hcut]
  simp only [digitsValue?_toDigits, Option.getD_some, if_neg (Nat.not_lt.mpr h)]
  exact ⟨_, rfl⟩

theorem portOf_bound {scheme : String} {cs rest : List Char} {p : Nat} (h : portOf scheme cs = .ok (some p, rest)) :
    p ≤ 65535 := by
  unfold portOf at h
  dsimp only at h
  split at h
  · cases h
  · rename_i hvalue
    split at h
    · obtain ⟨hp, -⟩ := Prod.mk.inj (Except.ok.inj h)
      split at hp
      · cases hp
      · rw [← Option.some.inj hp]
        omega
    · obtain ⟨hp, -⟩ := Prod.mk.inj (Except.ok.inj h)
      split at hp
      · cases hp
      · rw [← Option.some.inj hp]
        omega
    · cases h

/-! ## The authority of a special scheme -/

/-- A locator with a host and what else a reading of a special scheme puts in front of a path. -/
structure Shown (u : Url) (host : Host) : Prop where
  username : Quiet u.username.toList
  password : ∀ p, u.password = some p → Quiet p.toList
  there : u.host = some host
  shows : ShowsHost host.text.toList
  port : ∀ p, u.port = some p → p ≤ 65535

theorem quiet_credentials (cs : List Char) :
    Quiet (credentials cs).1.toList ∧ ∀ p, (credentials cs).2 = some p → Quiet p.toList := by
  unfold credentials
  simp only
  constructor
  · rw [String.toList_ofList]
    exact quiet_escape _
  · intro p hp
    split at hp
    · cases hp
    · obtain rfl := Option.some.inj hp
      rw [String.toList_ofList]
      exact quiet_escape _

theorem authorityOf_special {scheme : String} {cs extra : List Char} {followed : Bool} {a : Authority}
    (h : authorityOf scheme .special cs followed = .ok (a, extra)) : Quiet a.username.toList ∧
      (∀ p, a.password = some p → Quiet p.toList) ∧ (∃ host, a.host = some host ∧ ShowsHost host.text.toList) ∧
      ∀ p, a.port = some p → p ≤ 65535 := by
  unfold authorityOf at h
  rcases hinfo : (cutUserinfo cs).getD ([], cs) with ⟨info, place⟩
  rw [hinfo] at h
  obtain ⟨hname, hpass⟩ := quiet_credentials info
  dsimp only at h
  split at h
  · cases h
  · split at h
    · cases h
    · rw [if_pos (by rfl)] at h
      obtain ⟨host, hhost, h⟩ := bind_ok h
      split at h
      · cases h
      · obtain ⟨⟨port, rest⟩, hport, h⟩ := bind_ok h
        obtain ⟨rfl, -⟩ := Prod.mk.inj (Except.ok.inj h)
        refine ⟨hname, hpass, ⟨host, rfl, (showsHost_ofDomain hhost).1⟩, fun p hp => ?_⟩
        have hp : port = some p := hp
        rw [hp] at hport
        exact portOf_bound hport

theorem shown_of_afterSlashes {scheme : String} {cs : List Char} {u : Url} (h : afterSlashes scheme .special cs = .ok u) :
    ∃ host, Shown u host := by
  obtain ⟨⟨a, extra⟩, ha, h⟩ := bind_ok h
  obtain rfl := Except.ok.inj h
  obtain ⟨hname, hpass, ⟨host, hhost, hshows⟩, hport⟩ := authorityOf_special ha
  exact ⟨host, hname, hpass, hhost, hshows, hport⟩

theorem shown_of_parse {s : String} {u : Url} (hk : schemeKind u.scheme = .special) (h : parse s = .ok u) :
    ∃ host, Shown u host := by
  unfold parse at h
  split at h
  · rename_i scheme rest _
    rw [scheme_eq_of_ofScheme h] at hk
    unfold ofScheme at h
    rw [hk] at h
    exact shown_of_afterSlashes h
  · cases h

namespace Shown

variable {u : Url} {host : Host} (h : Shown u host)

include h

/-- What is shown of a user: nothing, or a text before an `@`. -/
theorem userinfo_cases : u.userinfoText.toList = [] ∨
    ∃ info, u.userinfoText.toList = info ++ ['@'] ∧ ∀ c ∈ info, isQuiet c = true ∨ c = ':' := by
  unfold userinfoText
  cases hp : u.password with
  | some p =>
    refine .inr ⟨u.username.toList ++ ':' :: p.toList, by simp [String.toList_append], fun c hc => ?_⟩
    rcases List.mem_append.mp hc with hc | hc
    · exact .inl (h.username c hc)
    · rcases List.mem_cons.mp hc with rfl | hc
      · exact .inr rfl
      · exact .inl (h.password p hp c hc)
  | none =>
    simp only
    split
    · exact .inl rfl
    · exact .inr ⟨u.username.toList, by simp [String.toList_append], fun c hc => .inl (h.username c hc)⟩

theorem port_cases : u.portText.toList = [] ∨ ∃ p ≤ 65535, u.portText.toList = ':' :: Nat.toDigits 10 p := by
  unfold portText
  cases hp : u.port with
  | none => exact .inl rfl
  | some p =>
    refine .inr ⟨p, h.port p hp, ?_⟩
    have hdigits : (toString p).toList = Nat.toDigits 10 p := String.toList_ofList
    rw [Option.map_some, Option.getD_some, String.toList_append, hdigits]
    rfl

theorem port_inner {c : Char} (hc : c ∈ u.portText.toList) : IsInner c ∧ c ≠ '@' := by
  rcases h.port_cases with hnil | ⟨p, _, hp⟩
  · rw [hnil] at hc
    cases hc
  · rw [hp] at hc
    rcases List.mem_cons.mp hc with rfl | hc
    · decide
    · obtain ⟨m, hm, rfl⟩ := mem_toDigits (by decide) hc
      have hq := quiet_digitChar m (by omega)
      exact ⟨isInner_of_quiet hq, (quiet_iff.mp hq).2.2.2.1⟩

/-- Nothing in front of the path is trimmed or ends it. -/
theorem inner {c : Char} (hc : c ∈ u.userinfoText.toList ++ (host.text.toList ++ u.portText.toList)) : IsInner c := by
  rcases List.mem_append.mp hc with hc | hc
  · rcases h.userinfo_cases with hnil | ⟨info, hinfo, hchars⟩
    · rw [hnil] at hc
      cases hc
    · rw [hinfo] at hc
      rcases List.mem_append.mp hc with hc | hc
      · rcases hchars c hc with hq | rfl
        · exact isInner_of_quiet hq
        · decide
      · rw [List.mem_singleton.mp hc]
        decide
  · rcases List.mem_append.mp hc with hc | hc
    · exact (h.shows.inner hc).1
    · exact (h.port_inner hc).1

/-- The host and the port are found behind what is shown of the user. -/
theorem cutUserinfo_shown : ∃ info,
    (cutUserinfo (u.userinfoText.toList ++ (host.text.toList ++ u.portText.toList))).getD
      ([], u.userinfoText.toList ++ (host.text.toList ++ u.portText.toList)) = (info, host.text.toList ++ u.portText.toList) := by
  have hat : '@' ∉ host.text.toList ++ u.portText.toList := fun hmem => by
    rcases List.mem_append.mp hmem with hmem | hmem
    · exact (h.shows.inner hmem).2 rfl
    · exact (h.port_inner hmem).2 rfl
  rcases h.userinfo_cases with hnil | ⟨info, hinfo, -⟩
  · refine ⟨[], ?_⟩
    rw [hnil, List.nil_append, cutUserinfo_none hat]
    rfl
  · refine ⟨info, ?_⟩
    rw [hinfo, List.append_assoc, List.singleton_append, cutUserinfo_some info hat]
    rfl

theorem host_ne_nil : host.text.toList ≠ [] := by
  rcases h.shows with ⟨hne, -⟩ | ⟨inner, hinner, -⟩
  · exact hne
  · rw [hinner]
    simp

/-- An authority is read again if its host is. -/
theorem authorityOf_shown (scheme : String) (followed : Bool) : ∃ name pass port,
    authorityOf scheme .special (u.userinfoText.toList ++ (host.text.toList ++ u.portText.toList)) followed =
      (Host.ofDomain host.text.toList).map fun host' => (⟨name, pass, some host', port⟩, []) := by
  obtain ⟨info, hinfo⟩ := h.cutUserinfo_shown
  have hcolon : ∀ c, u.portText.toList.head? = some c → c = ':' := fun c hc => by
    rcases h.port_cases with hnil | ⟨p, _, hp⟩
    · rw [hnil] at hc
      cases hc
    · rw [hp] at hc
      exact (Option.some.inj hc).symm
  obtain ⟨port, hport⟩ : ∃ port, portOf scheme u.portText.toList.tail = .ok (port, []) := by
    rcases h.port_cases with hnil | ⟨p, hp, hdigits⟩
    · rw [hnil]
      exact ⟨none, by simp [portOf, cut, digitsValue?]⟩
    · rw [hdigits]
      exact portOf_toDigits scheme hp
  have hne : host.text.toList.isEmpty = false := by simpa using h.host_ne_nil
  have hplace : (host.text.toList ++ u.portText.toList).isEmpty = false := by simp [h.host_ne_nil]
  refine ⟨(credentials info).1, (credentials info).2, port, ?_⟩
  unfold authorityOf
  rw [hinfo]
  simp only [hplace, cutPort_host h.shows hcolon, hne, Bool.and_false, Bool.false_and, Bool.false_eq_true, if_false, if_true,
    SchemeKind.isSpecial]
  cases hh : Host.ofDomain host.text.toList with
  | error e => rfl
  | ok host' =>
    have hthere := (showsHost_ofDomain hh).2
    simp only [bind, Except.bind, hthere, false_and, if_false, hport]
    rfl

/-- What stands behind an authority does not matter to it. -/
theorem afterSlashes_iff (scheme : String) {rest : List Char}
    (hrest : ∀ c, rest.head? = some c → isSlash .special c = true ∨ isTail c = true) :
    (∃ v, afterSlashes scheme .special (u.userinfoText.toList ++ (host.text.toList ++ u.portText.toList) ++ rest) = .ok v) ↔
      ∃ host', Host.ofDomain host.text.toList = .ok host' := by
  have hcut : cut (fun c => isSlash .special c || isTail c)
      (u.userinfoText.toList ++ (host.text.toList ++ u.portText.toList) ++ rest) =
        (u.userinfoText.toList ++ (host.text.toList ++ u.portText.toList), rest) :=
    cut_behind (fun c hc => by rw [(h.inner hc).2.1, (h.inner hc).2.2]; rfl) fun c hc => by simpa using hrest c hc
  obtain ⟨name, pass, port, hauthority⟩ := h.authorityOf_shown scheme (!rest.isEmpty)
  unfold afterSlashes
  simp only [hcut, hauthority]
  cases Host.ofDomain host.text.toList with
  | error e =>
    constructor
    · rintro ⟨_, hv⟩
      cases hv
    · rintro ⟨_, hv⟩
      cases hv
  | ok host' => exact ⟨fun _ => ⟨host', rfl⟩, fun _ => ⟨_, rfl⟩⟩

/-- Behind the authority a path, a query or a fragment begins. -/
theorem head?_behind {ss : List String} (hss : u.route = .segments ss) {c : Char}
    (hc : (u.routeText ++ u.back).toList.head? = some c) : isSlash .special c = true ∨ isTail c = true := by
  have hroute : u.routeText = segmentsText ss := by
    unfold routeText
    rw [hss, h.there]
    simp
  rw [String.toList_append, hroute] at hc
  cases ss with
  | nil => exact .inr (ArtifactBase.isTail_of_head?_back hc)
  | cons s ss =>
    rw [segmentsText, List.map_cons, String.join_cons, String.toList_append, String.toList_append] at hc
    rw [← Option.some.inj hc]
    exact .inl rfl

/-- The text of a locator of a special scheme is one again if the text of its host is a host again. -/
theorem parse_text_iff (hscheme : IsScheme u.scheme.toList) (hk : schemeKind u.scheme = .special) {ss : List String}
    (hss : u.route = .segments ss) : (∃ v, parse u.text = .ok v) ↔ ∃ host', Host.ofDomain host.text.toList = .ok host' := by
  have hauthority : (u.authorityText ++ u.routeText ++ u.back).toList =
      ('/' :: '/' :: (u.userinfoText.toList ++ (host.text.toList ++ u.portText.toList))) ++ (u.routeText ++ u.back).toList := by
    rw [authorityText, h.there]
    simp [String.toList_append]
  have hsolid : Solid ('/' :: '/' :: (u.userinfoText.toList ++ (host.text.toList ++ u.portText.toList))) := by
    intro c hc
    rcases List.mem_cons.mp hc with rfl | hc
    · rfl
    · rcases List.mem_cons.mp hc with rfl | hc
      · rfl
      · exact (h.inner hc).1
  have hbehind : ∀ c, (trimmedEnd (u.routeText ++ u.back).toList).head? = some c →
      isSlash .special c = true ∨ isTail c = true := by
    cases hrest : (u.routeText ++ u.back).toList with
    | nil => exact fun c hc => by cases hc
    | cons d rest =>
      have hd := h.head?_behind hss (c := d) (by rw [hrest]; rfl)
      have hkept : isOuter d = false := by
        rcases hd with hd | hd
        · rcases (by simpa [isSlash, SchemeKind.isSpecial] using hd : d = '/' ∨ d = '\\') with rfl | rfl <;> rfl
        · rcases tail_cases hd with rfl | rfl <;> rfl
      have htrim := @trimmedEnd_append [d] (fun c hc => by rw [List.mem_singleton.mp hc]; exact hkept) rest
      rw [List.singleton_append] at htrim
      intro c hc
      rw [htrim] at hc
      rw [← Option.some.inj hc]
      exact hd
  have hslashes : ('/' :: '/' :: (u.userinfoText.toList ++ (host.text.toList ++ u.portText.toList)) ++
      trimmedEnd (u.routeText ++ u.back).toList).dropWhile (isSlash .special) =
        u.userinfoText.toList ++ (host.text.toList ++ u.portText.toList) ++ trimmedEnd (u.routeText ++ u.back).toList := by
    have hne : u.userinfoText.toList ++ (host.text.toList ++ u.portText.toList) ≠ [] := by simp [h.host_ne_nil]
    obtain ⟨c, cs, hcs⟩ := List.exists_cons_of_ne_nil hne
    have hc : isSlash .special c = false := (h.inner (by rw [hcs]; exact List.mem_cons_self)).2.1
    rw [hcs, List.cons_append, List.cons_append, List.cons_append, List.dropWhile_cons_of_pos (by rfl),
      List.dropWhile_cons_of_pos (by rfl), List.dropWhile_cons_of_neg (by rw [hc]; decide)]
  rw [parse_text hscheme, hauthority, trimmedEnd_append hsolid, ofScheme, hk]
  simp only [hslashes]
  exact h.afterSlashes_iff u.scheme hbehind

end Shown

end BuildHarvest.Url
