/-!
# CallScribe.Proofs.Except

How computations end that may fail.

* `bind_eq_ok`: the steps of one that has succeeded.
* `ResultsAre`, `ErrorsAre`: what holds of every result, and of every error.
* `EndAlike`: two computations with related results, or with the same error.
-/

namespace CallScribe

variable {ε α β : Type}

theorem bind_eq_ok {x : Except ε α} {f : α → Except ε β} {b : β} (h : x >>= f = .ok b) :
    ∃ a, x = .ok a ∧ f a = .ok b := by
  cases x with
  | error e => cases h
  | ok a => exact ⟨a, rfl, h⟩

theorem eq_ok_of_toOption {x : Except ε α} {a : α} (h : x.toOption = some a) : x = .ok a := by
  cases x with
  | error e => cases h
  | ok a' =>
    cases h
    rfl

theorem exists_ok_of_isOk {x : Except ε α} (h : x.isOk = true) : ∃ a, x = .ok a := by
  cases x with
  | error e => cases h
  | ok a => exact ⟨a, rfl⟩

/-- All results have a property. -/
def ResultsAre (P : α → Prop) (x : Except ε α) : Prop := ∀ a, x = .ok a → P a

namespace ResultsAre

variable {P : β → Prop}

theorem error {e : ε} : ResultsAre P (.error e) := fun _ h => nomatch h

theorem ok {b : β} (h : P b) : ResultsAre P (.ok b : Except ε β) := by
  intro b' hb'
  cases hb'
  exact h

theorem bind {x : Except ε α} {f : α → Except ε β} (h : ∀ a, ResultsAre P (f a)) :
    ResultsAre P (x >>= f) := by
  intro b hb
  obtain ⟨a, -, ha⟩ := bind_eq_ok hb
  exact h a b ha

end ResultsAre

/-- All errors have a property. -/
def ErrorsAre {ε α : Type} (P : ε → Prop) (x : Except ε α) : Prop := ∀ e, x = .error e → P e

/-- Two computations that end in related results, or in the same error. -/
inductive EndAlike (R : α → β → Prop) : Except ε α → Except ε β → Prop
  | ok {a : α} {b : β} (h : R a b) : EndAlike R (.ok a) (.ok b)
  | error (e : ε) : EndAlike R (.error e) (.error e)

namespace EndAlike

variable {R : α → β → Prop} {x : Except ε α} {y : Except ε β}

theorem refl {R : α → α → Prop} (h : ∀ a, R a a) (x : Except ε α) : EndAlike R x x := by
  cases x with
  | error e => exact .error e
  | ok a => exact .ok (h a)

theorem bind {α' β' : Type} {S : α' → β' → Prop} {f : α → Except ε α'} {g : β → Except ε β'}
    (h : EndAlike R x y) (hfg : ∀ a b, R a b → EndAlike S (f a) (g b)) :
    EndAlike S (x >>= f) (y >>= g) := by
  cases h with
  | ok h => exact hfg _ _ h
  | error e => exact .error e

theorem bind_same {α' β' : Type} {S : α' → β' → Prop} {f : α → Except ε α'} {g : α → Except ε β'}
    (x : Except ε α) (hfg : ∀ a, EndAlike S (f a) (g a)) : EndAlike S (x >>= f) (x >>= g) :=
  (refl (R := Eq) (fun _ => rfl) x).bind fun a _ h => h ▸ hfg a

/-- What is the same for related results is the same for both, their errors included. -/
theorem map_eq {γ : Type} {f : α → γ} {g : β → γ} (h : EndAlike R x y)
    (hfg : ∀ a b, R a b → g b = f a) : y.map g = x.map f := by
  cases h with
  | ok h => rw [Except.map, Except.map, hfg _ _ h]
  | error e => rfl

end EndAlike
end CallScribe
