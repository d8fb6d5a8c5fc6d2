/-
  BuildHarvest.Proofs.Action — what an action gives and leaves, by its parts.

  `a.on w` is the result of `a` in a world and the world after it, one equation for each way to
  make an action. `Keeps P a`: whatever `a` gives, a property that held before it holds after it;
  a run keeps what each of its parts keeps. `FailsBy E a`: whatever failure `a` gives, it is one of
  a kind.
-/

import BuildHarvest.World

namespace BuildHarvest.Action

variable {ε φ α β : Type}

/-- The result of an action in a world, and the world after it. -/
def on (a : Action ε α) (w : World) : Except ε α × World := a.run w

/-! ## Equations -/

@[simp]
theorem on_pure (a : α) (w : World) : (pure a : Action ε α).on w = (.ok a, w) := rfl

@[simp]
theorem on_throw (e : ε) (w : World) : (throw e : Action ε α).on w = (.error e, w) := rfl

theorem on_bind (x : Action ε α) (f : α → Action ε β) (w : World) : (x >>= f).on w =
    match x.on w with
    | (.ok a, w₁) => (f a).on w₁
    | (.error e, w₁) => (.error e, w₁) := by
  unfold on ExceptT.run
  simp only [bind, ExceptT.bind, ExceptT.mk, StateT.bind, ExceptT.bindCont]
  rcases x w with ⟨_ | _, _⟩ <;> rfl

@[simp]
theorem on_tell (n : Notice) (w : World) : (tell n : Action ε Unit).on w = (.ok (), w.note n) := rfl

@[simp]
theorem on_volume (w : World) : (volume : Action ε Volume).on w = (.ok w.volume, w) := rfl

@[simp]
theorem on_modify (f : World → World) (w : World) : (modify f : Action ε Unit).on w = (.ok (), f w) := rfl

theorem mapError_ok (f : φ → ε) (a : α) : (Except.ok a : Except φ α).mapError f = .ok a := rfl

theorem on_attempt (blame : Errno → ε) (op : Volume → Except Errno (α × Volume)) (w : World) :
    (attempt blame op).on w =
      match op w.volume with
      | .ok (a, v) => (.ok a, { w with volume := v })
      | .error e => (.error (blame e), w) := by
  simp only [attempt, on_bind, on_volume]
  rcases op w.volume with _ | ⟨_, _⟩ <;> rfl

theorem on_attemptPartly (blame : Errno → ε) (op : Volume → Except Errno α × Volume) (w : World) :
    (attemptPartly blame op).on w = ((op w.volume).1.mapError blame, { w with volume := (op w.volume).2 }) := by
  simp only [attemptPartly, on_bind, on_volume]
  rcases op w.volume with ⟨_ | _, _⟩ <;> rfl

theorem on_exchange (blame : φ → ε) (op : Network → Except φ α × Network) (w : World) :
    (exchange blame op).on w = ((op w.network).1.mapError blame, { w with network := (op w.network).2 }) := by
  unfold exchange
  rw [on_bind]
  show (match op w.network with | (result, n) => _ : Action ε α).on w = _
  rcases op w.network with ⟨_ | _, _⟩ <;> rfl

theorem on_orThrow (blame : φ → ε) (r : Except φ α) (w : World) : (orThrow blame r).on w = (r.mapError blame, w) := by
  cases r <;> rfl

theorem on_outcome (a : Action φ α) (w : World) : (outcome a : Action ε (Except φ α)).on w = (.ok (a.on w).1, (a.on w).2) := rfl

/-- What an action gives and leaves, unless it fails. -/
def done? (a : Action ε α) (w : World) : Option (α × World) :=
  match a.on w with
  | (.ok x, w') => some (x, w')
  | (.error _, _) => none

theorem done?_eq_some {a : Action ε α} {w : World} {r : α × World} : a.done? w = some r ↔ a.on w = (.ok r.1, r.2) := by
  obtain ⟨x, w'⟩ := r
  unfold done?
  rcases a.on w with ⟨_ | _, _⟩ <;> simp

/-- What an action fails for. -/
def failure? (a : Action ε α) (w : World) : Option ε :=
  match (a.on w).1 with
  | .ok _ => none
  | .error e => some e

theorem failure?_eq_some {a : Action ε α} {w : World} {e : ε} : a.failure? w = some e ↔ ∃ w', a.on w = (.error e, w') := by
  unfold failure?
  rcases a.on w with ⟨_ | _, _⟩ <;> simp

/-! ## Parts of an action that was carried out -/

theorem on_bind_ok {x : Action ε α} {f : α → Action ε β} {w w' : World} {b : β} (h : (x >>= f).on w = (.ok b, w')) :
    ∃ a w₁, x.on w = (.ok a, w₁) ∧ (f a).on w₁ = (.ok b, w') := by
  rw [on_bind] at h
  rcases hx : x.on w with ⟨_ | a, w₁⟩ <;> rw [hx] at h
  · cases (Prod.mk.inj h).1
  · exact ⟨a, w₁, rfl, h⟩

theorem on_bind_error {x : Action ε α} {f : α → Action ε β} {w w' : World} {e : ε} (h : (x >>= f).on w = (.error e, w')) :
    x.on w = (.error e, w') ∨ ∃ a w₁, x.on w = (.ok a, w₁) ∧ (f a).on w₁ = (.error e, w') := by
  rw [on_bind] at h
  rcases hx : x.on w with ⟨e' | a, w₁⟩ <;> rw [hx] at h
  · obtain ⟨he, rfl⟩ := Prod.mk.inj h
    obtain rfl := Except.error.inj he
    exact .inl rfl
  · exact .inr ⟨a, w₁, rfl, h⟩

/-! ## What an action keeps -/

/-- A property of worlds that an action keeps, whatever it gives. -/
def Keeps (P : World → Prop) (a : Action ε α) : Prop := ∀ w, P w → P (a.on w).2

variable {P : World → Prop}

theorem keeps_pure (a : α) : Keeps P (pure a : Action ε α) := fun _ h => h

theorem keeps_throw (e : ε) : Keeps P (throw e : Action ε α) := fun _ h => h

theorem keeps_bind {x : Action ε α} {f : α → Action ε β} (hx : Keeps P x) (hf : ∀ a, Keeps P (f a)) : Keeps P (x >>= f) := by
  intro w h
  have h₁ := hx w h
  rw [on_bind]
  rcases hr : x.on w with ⟨_ | a, w₁⟩ <;> rw [hr] at h₁
  · exact h₁
  · exact hf a w₁ h₁

theorem keeps_tell (hn : ∀ w n, P w → P (w.note n)) (n : Notice) : Keeps P (tell n : Action ε Unit) := fun w h => hn w n h

theorem keeps_orThrow (blame : φ → ε) (r : Except φ α) : Keeps P (orThrow blame r) := by
  intro w h
  rw [on_orThrow]
  exact h

theorem keeps_outcome {a : Action φ α} (ha : Keeps P a) : Keeps P (outcome a : Action ε (Except φ α)) := ha

/-! ## How an action fails -/

/-- Whatever failure an action gives has a property. -/
def FailsBy (E : ε → Prop) (a : Action ε α) : Prop := ∀ w w' e, a.on w = (.error e, w') → E e

variable {E : ε → Prop}

theorem failsBy_pure (a : α) : FailsBy E (pure a : Action ε α) := fun _ _ _ h => by cases (Prod.mk.inj h).1

theorem failsBy_throw {e : ε} (h : E e) : FailsBy E (throw e : Action ε α) := by
  intro w w' e' he
  obtain rfl := Except.error.inj (Prod.mk.inj he).1
  exact h

theorem failsBy_bind {x : Action ε α} {f : α → Action ε β} (hx : FailsBy E x) (hf : ∀ a, FailsBy E (f a)) :
    FailsBy E (x >>= f) := by
  intro w w' e h
  rcases on_bind_error h with h | ⟨a, w₁, _, h⟩
  · exact hx w w' e h
  · exact hf a w₁ w' e h

theorem failsBy_orThrow {blame : φ → ε} {r : Except φ α} (h : ∀ f, r = .error f → E (blame f)) : FailsBy E (orThrow blame r) := by
  cases r with
  | error f => exact failsBy_throw (h f rfl)
  | ok a => exact failsBy_pure a

theorem failsBy_tell (n : Notice) : FailsBy E (tell n : Action ε Unit) := fun _ _ _ h => by cases (Prod.mk.inj h).1

theorem failsBy_volume : FailsBy E (volume : Action ε Volume) := fun _ _ _ h => by cases (Prod.mk.inj h).1

theorem failsBy_attemptPartly {blame : Errno → ε} (h : ∀ e, E (blame e)) (op : Volume → Except Errno α × Volume) :
    FailsBy E (attemptPartly blame op) := by
  intro w w' e he
  rw [on_attemptPartly] at he
  rcases hr : (op w.volume).1 with f | a
  · rw [hr] at he
    obtain rfl := Except.error.inj (Prod.mk.inj he).1
    exact h f
  · rw [hr] at he
    cases (Prod.mk.inj he).1

end BuildHarvest.Action
