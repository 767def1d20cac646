import TransferBucket.Action

/-!
# Two runs at once

Two runs of steps are compared state by state. In related states two coupled steps end alike, and
lead to related states again; so whole programs are coupled when their steps are.

**Endings** (`EndAlike`). Both runs end in values that are related, or both in the same error.

**Coupled steps** (`Action.Coupled`). Sequences, handlers and rewordings of coupled steps are
coupled. Nothing here is about the program: what the states are, and what relates them, is said
where it is used.
-/

namespace TransferBucket

/-! ## Endings -/

/-- Two endings that are alike: related values, or the same error. -/
inductive EndAlike {ε α β : Type} (Q : α → β → Prop) : Except ε α → Except ε β → Prop
  | ok {a : α} {b : β} (h : Q a b) : EndAlike Q (.ok a) (.ok b)
  | error (e : ε) : EndAlike Q (.error e) (.error e)

namespace EndAlike

variable {ε δ α β : Type} {Q P : α → β → Prop}

theorem refl {Q : α → α → Prop} (h : ∀ a, Q a a) (r : Except ε α) : EndAlike Q r r := by
  rcases r with e | a
  · exact .error e
  · exact .ok (h a)

theorem of_eq {r r' : Except ε α} (h : r' = r) : EndAlike Eq r r' := h ▸ refl (fun _ => rfl) r

theorem eq {r r' : Except ε α} (h : EndAlike Eq r r') : r = r' := by
  cases h with
  | ok h => rw [h]
  | error e => rfl

theorem mono {r : Except ε α} {r' : Except ε β} (h : EndAlike Q r r') (hQ : ∀ a b, Q a b → P a b) :
    EndAlike P r r' := by
  cases h with
  | ok h => exact .ok (hQ _ _ h)
  | error e => exact .error e

theorem mapError {r : Except ε α} {r' : Except ε β} (h : EndAlike Q r r') (f : ε → δ) :
    EndAlike Q (r.mapError f) (r'.mapError f) := by
  cases h with
  | ok h => exact .ok h
  | error e => exact .error (f e)

end EndAlike

/-! ## Coupled steps -/

namespace Action

variable {σ τ ε δ α β γ κ : Type}

/-- In related states two steps end alike, and lead to related states. -/
def Coupled (R : σ → τ → Prop) (Q : α → β → Prop) (x : Action σ ε α) (y : Action τ ε β) : Prop :=
  ∀ s t, R s t → EndAlike Q (x s).1 (y t).1 ∧ R (x s).2 (y t).2

/-- In related states a step ends with the same, and leads to related states. -/
abbrev Steady (R : σ → σ → Prop) (x : Action σ ε α) : Prop := Coupled R Eq x x

namespace Coupled

variable {R : σ → τ → Prop} {Q : α → β → Prop} {P : γ → κ → Prop} {x : Action σ ε α}
  {y : Action τ ε β}

theorem pure {a : α} {b : β} (h : Q a b) :
    Coupled R Q (Pure.pure a : Action σ ε α) (Pure.pure b : Action τ ε β) :=
  fun _ _ hst => ⟨.ok h, hst⟩

theorem fail (e : ε) : Coupled R Q (Action.fail e : Action σ ε α) (Action.fail e) :=
  fun _ _ hst => ⟨.error e, hst⟩

theorem ofExcept {r : Except ε α} {r' : Except ε β} (h : EndAlike Q r r') :
    Coupled R Q (Action.ofExcept r) (Action.ofExcept r') := fun _ _ hst => ⟨h, hst⟩

theorem read {f : σ → α} {g : τ → β} (h : ∀ s t, R s t → Q (f s) (g t)) :
    Coupled R Q (Action.read f : Action σ ε α) (Action.read g) :=
  fun s t hst => ⟨.ok (h s t hst), hst⟩

theorem modify {f : σ → σ} {g : τ → τ} (h : ∀ s t, R s t → R (f s) (g t)) :
    Coupled R Eq (Action.modify f : Action σ ε Unit) (Action.modify g) :=
  fun s t hst => ⟨.ok rfl, h s t hst⟩

theorem bind {f : α → Action σ ε γ} {g : β → Action τ ε κ} (hx : Coupled R Q x y)
    (hf : ∀ a b, Q a b → Coupled R P (f a) (g b)) : Coupled R P (x >>= f) (y >>= g) := by
  intro s t hst
  obtain ⟨hend, hnext⟩ := hx s t hst
  rcases hxs : x s with ⟨r, u⟩
  rcases hyt : y t with ⟨r', v⟩
  rw [hxs, hyt] at hend hnext
  cases hend with
  | ok h =>
    rw [bind_of_ok hxs, bind_of_ok hyt]
    exact hf _ _ h u v hnext
  | error e =>
    rw [bind_of_error hxs, bind_of_error hyt]
    exact ⟨.error e, hnext⟩

theorem resume {f : Except ε α → Action σ δ γ} {g : Except ε β → Action τ δ κ}
    (hx : Coupled R Q x y) (hf : ∀ r r', EndAlike Q r r' → Coupled R P (f r) (g r')) :
    Coupled R P (Action.resume x f) (Action.resume y g) := by
  intro s t hst
  obtain ⟨hend, hnext⟩ := hx s t hst
  rw [resume_apply, resume_apply]
  exact hf _ _ hend _ _ hnext

theorem mono {Q' : α → β → Prop} (hx : Coupled R Q x y) (hQ : ∀ a b, Q a b → Q' a b) :
    Coupled R Q' x y := fun s t hst => ⟨(hx s t hst).1.mono hQ, (hx s t hst).2⟩

theorem mapError (hx : Coupled R Q x y) (f : ε → δ) :
    Coupled R Q (Action.mapError f x) (Action.mapError f y) := by
  intro s t hst
  obtain ⟨hend, hnext⟩ := hx s t hst
  rw [mapError_apply, mapError_apply]
  exact ⟨hend.mapError f, hnext⟩

end Coupled

namespace Steady

variable {R : σ → σ → Prop} {P : γ → κ → Prop} {x y : Action σ ε α}

theorem read {f : σ → α} (h : ∀ s t, R s t → f t = f s) :
    Steady R (Action.read f : Action σ ε α) := Coupled.read fun s t hst => (h s t hst).symm

theorem ofExcept (r : Except ε α) : Steady R (Action.ofExcept r) := Coupled.ofExcept (.of_eq rfl)

theorem bind {f : α → Action σ ε γ} {g : α → Action σ ε κ} (hx : Coupled R Eq x y)
    (hf : ∀ a, Coupled R P (f a) (g a)) : Coupled R P (x >>= f) (y >>= g) :=
  Coupled.bind hx fun a _ h => h ▸ hf a

theorem resume {f : Except ε α → Action σ δ γ} {g : Except ε α → Action σ δ κ}
    (hx : Coupled R Eq x y) (hf : ∀ r, Coupled R P (f r) (g r)) :
    Coupled R P (Action.resume x f) (Action.resume y g) :=
  Coupled.resume hx fun r _ h => h.eq ▸ hf r

end Steady

end Action

end TransferBucket
