set_option autoImplicit false

/-!
# Computations that succeed

What is known of a computation that gives a result.  Its faults do not matter for this,
so everything comes down to the optional result.
-/

namespace PolledTerminal

variable {ε ε' α β : Type}

theorem toOption_eq_some {x : Except ε α} {a : α} : x.toOption = some a ↔ x = .ok a := by
  cases x with
  | error e => exact iff_of_false nofun nofun
  | ok b => rw [Except.toOption, Option.some.injEq, Except.ok.injEq]

theorem toOption_mapError (f : ε → ε') (x : Except ε α) :
    (x.mapError f).toOption = x.toOption := by
  cases x <;> rfl

theorem toOption_bind (x : Except ε α) (f : α → Except ε β) :
    (x >>= f).toOption = x.toOption.bind fun a => (f a).toOption := by
  cases x <;> rfl

/-- A fault that is told otherwise is still a fault. -/
theorem mapError_eq_ok {f : ε → ε'} {x : Except ε α} {a : α} :
    x.mapError f = .ok a ↔ x = .ok a := by
  rw [← toOption_eq_some, toOption_mapError, toOption_eq_some]

/-- Two steps both succeed. -/
theorem bind_eq_ok {x : Except ε α} {f : α → Except ε β} {y : β} :
    x >>= f = .ok y ↔ ∃ a, x = .ok a ∧ f a = .ok y := by
  rw [← toOption_eq_some, toOption_bind, Option.bind_eq_some_iff]
  simp only [toOption_eq_some]

end PolledTerminal
