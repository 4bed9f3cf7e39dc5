/-!
# Outcomes of steps

A computation in steps succeeds when every step does; its success is read back step
by step. Where only success counts, and not the error, an outcome is an option, and so it is
where only the error counts: the first step that fails decides it. Two computations have
the same outcome when both fail for one reason or both succeed with related results.
-/

namespace RecordQuery

theorem bind_ok {x : Except ε α} {f : α → Except ε β} :
    x >>= f = .ok b ↔ ∃ a, x = .ok a ∧ f a = .ok b := by
  cases x <;> simp [bind, Except.bind]

theorem bind_error {x : Except ε α} {f : α → Except ε β} :
    x >>= f = .error e ↔ x = .error e ∨ ∃ a, x = .ok a ∧ f a = .error e := by
  cases x <;> simp [bind, Except.bind]

theorem pure_ok : (pure a : Except ε α) = .ok b ↔ a = b := by
  simp [pure, Except.pure]

@[simp] theorem toOption_ok (a : α) : (.ok a : Except ε α).toOption = some a := rfl

@[simp] theorem toOption_error (e : ε) : (.error e : Except ε α).toOption = none := rfl

theorem toOption_bind (x : Except ε α) (f : α → Except ε β) :
    (x >>= f).toOption = x.toOption.bind fun a => (f a).toOption := by
  cases x <;> rfl

theorem toOption_pure (a : α) : (pure a : Except ε α).toOption = some a := rfl

theorem toOption_eq_some {x : Except ε α} : x.toOption = some a ↔ x = .ok a := by
  cases x <;> simp

theorem toOption_eq_none {x : Except ε α} : x.toOption = none ↔ ∃ e, x = .error e := by
  cases x <;> simp

/-- The error of an outcome, if it is none of success. -/
def error? : Except ε α → Option ε
  | .ok _ => none
  | .error e => some e

@[simp] theorem error?_ok (a : α) : error? (.ok a : Except ε α) = none := rfl

@[simp] theorem error?_error (e : ε) : error? (.error e : Except ε α) = some e := rfl

theorem error?_eq_none {x : Except ε α} : error? x = none ↔ ∃ a, x = .ok a := by
  cases x <;> simp

theorem error?_eq_some {x : Except ε α} {e : ε} : error? x = some e ↔ x = .error e := by
  cases x <;> simp

/-- Where what fails next does not depend on the result, the first of two errors counts. -/
theorem error?_bind {x : Except ε α} {f : α → Except ε β} {y : Option ε}
    (h : ∀ a, error? (f a) = y) : error? (x >>= f) = (error? x).or y := by
  cases x with
  | error e => rfl
  | ok a => exact h a

/-- A step that cannot fail adds no error. -/
theorem error?_bind_sound {x : Except ε α} {f : α → Except ε β} (h : ∀ a, error? (f a) = none) :
    error? (x >>= f) = error? x := by
  rw [error?_bind h, Option.or_none]

/-- An item fails before the rest of its list. -/
theorem error?_cons (x : Except ε α) (xs : Except ε (List α)) :
    error? (do let a ← x; let as ← xs; return a :: as) = (error? x).or (error? xs) :=
  error?_bind fun _ => error?_bind_sound fun _ => rfl

/-- Both fail for one reason, or both succeed with related results. -/
inductive SameOutcome (related : α → β → Prop) : Except ε α → Except ε β → Prop
  | error (e : ε) : SameOutcome related (.error e) (.error e)
  | ok {a : α} {b : β} : related a b → SameOutcome related (.ok a) (.ok b)

namespace SameOutcome

theorem refl {related : α → α → Prop} (h : ∀ a, related a a) (x : Except ε α) :
    SameOutcome related x x := by
  cases x with
  | error e => exact .error e
  | ok a => exact .ok (h a)

theorem bind {related : α → β → Prop} {related' : γ → δ → Prop} {x : Except ε α}
    {y : Except ε β} {f : α → Except ε γ} {g : β → Except ε δ} (h : SameOutcome related x y)
    (hnext : ∀ a b, related a b → SameOutcome related' (f a) (g b)) :
    SameOutcome related' (x >>= f) (y >>= g) := by
  cases h with
  | error e => exact .error e
  | ok hab => exact hnext _ _ hab

end SameOutcome

end RecordQuery
