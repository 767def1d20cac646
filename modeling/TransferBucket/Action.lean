/-!
# Actions

A step that reads and changes a state and ends in a value or an error. The state is kept however
the step ends: what an action did before its error stays done.
-/

namespace TransferBucket

/-- A step over a state `σ` that ends in an error `ε` or a value `α`. -/
def Action (σ ε α : Type) : Type := σ → Except ε α × σ

namespace Action

variable {σ τ ε δ α β : Type}

/-- End in a value. -/
protected def pure (a : α) : Action σ ε α := fun s => (.ok a, s)

/-- Go on after a value; an error ends the whole. -/
protected def bind (x : Action σ ε α) (f : α → Action σ ε β) : Action σ ε β := fun s =>
  match x s with
  | (.ok a, t) => f a t
  | (.error e, t) => (.error e, t)

instance : Monad (Action σ ε) where
  pure := Action.pure
  bind := Action.bind

/-- End in an error. -/
def fail (e : ε) : Action σ ε α := fun s => (.error e, s)

/-- The state. -/
def get : Action σ ε σ := fun s => (.ok s, s)

/-- Something read off the state. -/
def read (f : σ → α) : Action σ ε α := fun s => (.ok (f s), s)

/-- Change the state. -/
def modify (f : σ → σ) : Action σ ε Unit := fun s => (.ok (), f s)

/-- Go on after either ending. -/
def resume (x : Action σ ε α) (f : Except ε α → Action σ δ β) : Action σ δ β := fun s =>
  match x s with
  | (r, t) => f r t

/-- Reword the error. -/
def mapError (f : ε → δ) (x : Action σ ε α) : Action σ δ α := fun s =>
  match x s with
  | (.ok a, t) => (.ok a, t)
  | (.error e, t) => (.error (f e), t)

/-- Do something else after an error. -/
def orElse (x : Action σ ε α) (f : ε → Action σ δ α) : Action σ δ α := fun s =>
  match x s with
  | (.ok a, t) => (.ok a, t)
  | (.error e, t) => f e t

/-- An outcome as an action that does nothing. -/
def ofExcept (r : Except ε α) : Action σ ε α := fun s => (r, s)

/-- An action on a part of a larger state. -/
def onPart (part : τ → σ) (put : τ → σ → τ) (x : Action σ ε α) : Action τ ε α := fun t =>
  match x (part t) with
  | (r, s) => (r, put t s)

/-! ## Endings -/

@[simp]
theorem pure_apply (a : α) (s : σ) : (pure a : Action σ ε α) s = (.ok a, s) := rfl

theorem bind_apply (x : Action σ ε α) (f : α → Action σ ε β) (s : σ) :
    (x >>= f) s = match x s with
      | (.ok a, t) => f a t
      | (.error e, t) => (.error e, t) := rfl

theorem bind_of_ok {x : Action σ ε α} {f : α → Action σ ε β} {s t : σ} {a : α}
    (h : x s = (.ok a, t)) : (x >>= f) s = f a t := by
  rw [bind_apply, h]

theorem bind_of_error {x : Action σ ε α} {f : α → Action σ ε β} {s t : σ} {e : ε}
    (h : x s = (.error e, t)) : (x >>= f) s = (.error e, t) := by
  rw [bind_apply, h]

@[simp]
theorem fail_apply (e : ε) (s : σ) : (fail e : Action σ ε α) s = (.error e, s) := rfl

@[simp]
theorem get_apply (s : σ) : (get : Action σ ε σ) s = (.ok s, s) := rfl

@[simp]
theorem read_apply (f : σ → α) (s : σ) : (read f : Action σ ε α) s = (.ok (f s), s) := rfl

@[simp]
theorem modify_apply (f : σ → σ) (s : σ) : (modify f : Action σ ε Unit) s = (.ok (), f s) := rfl

@[simp]
theorem ofExcept_apply (r : Except ε α) (s : σ) : (ofExcept r : Action σ ε α) s = (r, s) := rfl

theorem resume_apply (x : Action σ ε α) (f : Except ε α → Action σ δ β) (s : σ) :
    resume x f s = f (x s).1 (x s).2 := rfl

theorem mapError_apply (f : ε → δ) (x : Action σ ε α) (s : σ) :
    mapError f x s = ((x s).1.mapError f, (x s).2) := by
  simp only [mapError]
  split <;> rename_i h <;> rw [h] <;> rfl

theorem mapError_of_ok {f : ε → δ} {x : Action σ ε α} {s t : σ} {a : α}
    (h : x s = (.ok a, t)) : mapError f x s = (.ok a, t) := by
  rw [mapError_apply, h]
  rfl

theorem mapError_of_error {f : ε → δ} {x : Action σ ε α} {s t : σ} {e : ε}
    (h : x s = (.error e, t)) : mapError f x s = (.error (f e), t) := by
  rw [mapError_apply, h]
  rfl

/-- Rewording an error leaves every ending in a value as it is. -/
theorem mapError_eq_ok_iff {f : ε → δ} {x : Action σ ε α} {s t : σ} {a : α} :
    mapError f x s = (.ok a, t) ↔ x s = (.ok a, t) := by
  constructor
  · intro h
    rcases hx : x s with ⟨e | b, u⟩
    · rw [mapError_of_error hx] at h
      cases h
    · rw [mapError_of_ok hx] at h
      cases h
      rfl
  · exact mapError_of_ok

/-- A sequence ends in a value exactly when both its parts do. -/
theorem bind_eq_ok_iff {x : Action σ ε α} {f : α → Action σ ε β} {s u : σ} {b : β} :
    (x >>= f) s = (.ok b, u) ↔ ∃ a t, x s = (.ok a, t) ∧ f a t = (.ok b, u) := by
  rw [bind_apply]
  constructor
  · intro h
    split at h
    · rename_i a t hx
      exact ⟨a, t, hx, h⟩
    · simp at h
  · rintro ⟨a, t, hx, hf⟩
    rw [hx]
    exact hf

/-- Sequences may be grouped at will. -/
instance : LawfulMonad (Action σ ε) := by
  refine LawfulMonad.mk' _ (fun x => ?_) (fun _ _ => rfl) fun x f g => ?_
  · funext s
    change (match x s with | (.ok a, t) => _ | (.error e, t) => _) = _
    rcases x s with ⟨e | a, t⟩ <;> rfl
  · funext s
    simp only [bind_apply]
    rcases x s with ⟨e | a, t⟩ <;> rfl

end Action

end TransferBucket
