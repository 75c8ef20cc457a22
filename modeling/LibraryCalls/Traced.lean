/-!
# Computations with a record

The outcome of a computation together with the steps taken on the way to it, in order.  A failure
keeps the steps taken before it, and nothing is done after it.

A failure can be handled, and then the computation goes on with what the handler does.  A handler
says for every failure whether it is for it; all others pass, with the steps taken before them.  So
a handled computation fails only where its handler says so, or fails itself.

The steps are data like the result, so that a theorem can speak of both: what was asked, in which
order, and what came of it.  Sequences are written with `do`, and the lemmas below take them apart
again without unfolding the monad: what a sequence leaves behind is given by what its first part has
come to.

The type of steps and the type of failures are parameters.  A run that talks to a host has requests
and events for its steps, one that talks to a web has other requests, and one that only reads a text
has none.

* `pure`, `bind`: steps are concatenated, and a failure ends the computation;
* `rescue`: a computation with a handler for some of its failures;
* `steps_bind_ok`, `steps_bind_error`, and likewise for outcomes: what a sequence does;
* `outcome_bind_eq_ok_iff`, `outcome_bind_eq_error_iff`: when a sequence succeeds, and when it
  fails;
* `rescue_of_handled`, `rescue_of_unhandled`: what a handler does; `unhandled_of_rescue`: the
  failures that pass.
-/

namespace LibraryCalls

/-- Steps of type `σ`, then a failure of type `ε` or a result. -/
structure Traced (σ ε α : Type) where
  steps : List σ
  outcome : Except ε α

namespace Traced

variable {σ ε ε' α β : Type}

def step (s : σ) : Traced σ ε Unit :=
  ⟨[s], .ok ()⟩

def fail (e : ε) : Traced σ ε α :=
  ⟨[], .error e⟩

def ofExcept (x : Except ε α) : Traced σ ε α :=
  ⟨[], x⟩

protected def pure (a : α) : Traced σ ε α :=
  ⟨[], .ok a⟩

/-- One computation after another, unless the first one fails. -/
protected def bind (x : Traced σ ε α) (f : α → Traced σ ε β) : Traced σ ε β :=
  match x.outcome with
  | .error e => ⟨x.steps, .error e⟩
  | .ok a => ⟨x.steps ++ (f a).steps, (f a).outcome⟩

instance : Monad (Traced σ ε) where
  pure := Traced.pure
  bind := Traced.bind

/-- The same computation with its failure seen as another kind of failure. -/
def mapError (f : ε → ε') (x : Traced σ ε α) : Traced σ ε' α :=
  ⟨x.steps, x.outcome.mapError f⟩

/-- A computation with a handler for its failures.  Those for which it has nothing to do pass. -/
def rescue (x : Traced σ ε α) (handle? : ε → Option (Traced σ ε α)) : Traced σ ε α :=
  match x.outcome with
  | .ok _ => x
  | .error e =>
    match handle? e with
    | none => x
    | some y => ⟨x.steps ++ y.steps, y.outcome⟩

@[simp] theorem steps_pure (a : α) : (pure a : Traced σ ε α).steps = [] := rfl

@[simp] theorem outcome_pure (a : α) : (pure a : Traced σ ε α).outcome = .ok a := rfl

theorem mapError_of_ok {x : Traced σ ε α} {a : α} (h : x.outcome = .ok a) (f : ε → ε') :
    x.mapError f = ⟨x.steps, .ok a⟩ := by
  rw [mapError, h]
  rfl

theorem mapError_of_error {x : Traced σ ε α} {e : ε} (h : x.outcome = .error e) (f : ε → ε') :
    x.mapError f = ⟨x.steps, .error (f e)⟩ := by
  rw [mapError, h]
  rfl

/-- A sequence in terms of its parts. -/
theorem bind_eq (x : Traced σ ε α) (f : α → Traced σ ε β) :
    x >>= f =
      match x.outcome with
      | .error e => ⟨x.steps, .error e⟩
      | .ok a => ⟨x.steps ++ (f a).steps, (f a).outcome⟩ := rfl

theorem steps_bind_ok {x : Traced σ ε α} {a : α} (h : x.outcome = .ok a)
    (f : α → Traced σ ε β) : (x >>= f).steps = x.steps ++ (f a).steps := by
  show (Traced.bind x f).steps = _
  simp [Traced.bind, h]

theorem outcome_bind_ok {x : Traced σ ε α} {a : α} (h : x.outcome = .ok a)
    (f : α → Traced σ ε β) : (x >>= f).outcome = (f a).outcome := by
  show (Traced.bind x f).outcome = _
  simp [Traced.bind, h]

theorem steps_bind_error {x : Traced σ ε α} {e : ε} (h : x.outcome = .error e)
    (f : α → Traced σ ε β) : (x >>= f).steps = x.steps := by
  show (Traced.bind x f).steps = _
  simp [Traced.bind, h]

theorem outcome_bind_error {x : Traced σ ε α} {e : ε} (h : x.outcome = .error e)
    (f : α → Traced σ ε β) : (x >>= f).outcome = .error e := by
  show (Traced.bind x f).outcome = _
  simp [Traced.bind, h]

theorem outcome_bind_eq_ok_iff {x : Traced σ ε α} {f : α → Traced σ ε β} {b : β} :
    (x >>= f).outcome = .ok b ↔ ∃ a, x.outcome = .ok a ∧ (f a).outcome = .ok b := by
  cases h : x.outcome with
  | error e => simp [outcome_bind_error h]
  | ok a => simp [outcome_bind_ok h]

/-- A sequence fails exactly when one of its parts does. -/
theorem outcome_bind_eq_error_iff {x : Traced σ ε α} {f : α → Traced σ ε β} {e : ε} :
    (x >>= f).outcome = .error e ↔
      x.outcome = .error e ∨ ∃ a, x.outcome = .ok a ∧ (f a).outcome = .error e := by
  cases h : x.outcome with
  | error e' => simp [outcome_bind_error h]
  | ok a => simp [outcome_bind_ok h]

/-- A sequence without a certain failure has it in neither of its parts. -/
theorem outcome_ne_error_of_bind {x : Traced σ ε α} {f : α → Traced σ ε β} {e : ε}
    (h : (x >>= f).outcome ≠ .error e) :
    x.outcome ≠ .error e ∧ ∀ a, x.outcome = .ok a → (f a).outcome ≠ .error e := by
  rw [ne_eq, outcome_bind_eq_error_iff, not_or] at h
  exact ⟨h.1, fun a ha hf => h.2 ⟨a, ha, hf⟩⟩

theorem pure_bind (a : α) (f : α → Traced σ ε β) : (pure a >>= f : Traced σ ε β) = f a := rfl

/-- What comes after a result matters only for the result that there is. -/
theorem bind_congr {x : Traced σ ε α} {f g : α → Traced σ ε β}
    (h : ∀ a, x.outcome = .ok a → f a = g a) : x >>= f = x >>= g := by
  rw [bind_eq, bind_eq]
  cases hx : x.outcome with
  | error e => rfl
  | ok a => simp only [h a hx]

/-! ### Handled failures -/

section

variable {x y : Traced σ ε α} {e : ε} {handle? : ε → Option (Traced σ ε α)}

theorem rescue_of_ok {a : α} (h : x.outcome = .ok a) : x.rescue handle? = x := by
  rw [rescue, h]

theorem rescue_of_handled (h : x.outcome = .error e) (hy : handle? e = some y) :
    x.rescue handle? = ⟨x.steps ++ y.steps, y.outcome⟩ := by
  simp only [rescue, h, hy]

theorem rescue_of_unhandled (h : ∀ e, x.outcome = .error e → handle? e = none) :
    x.rescue handle? = x := by
  cases hx : x.outcome with
  | ok a => exact rescue_of_ok hx
  | error e => simp only [rescue, hx, h e hx]

/-- **The failures that pass** are not handled, if no handler fails. -/
theorem unhandled_of_rescue (hfine : ∀ e y, handle? e = some y → ∃ a, y.outcome = .ok a)
    (h : (x.rescue handle?).outcome = .error e) : handle? e = none := by
  cases hx : x.outcome with
  | ok a =>
    rw [rescue_of_ok hx, hx] at h
    cases h
  | error e' =>
    cases hy : handle? e' with
    | none =>
      rw [rescue_of_unhandled fun e'' he'' => Except.error.inj (hx.symm.trans he'') ▸ hy, hx] at h
      exact Except.error.inj h ▸ hy
    | some y =>
      obtain ⟨a, ha⟩ := hfine e' y hy
      rw [rescue_of_handled hx hy, ha] at h
      cases h

end

end Traced

end LibraryCalls
