import PolledTerminal.Firmware
set_option autoImplicit false

/-!
# Running actions

What an action makes of a state, for each way of putting actions together, and
the rule for properties that an action keeps however it ends.  Actions in turn go
on after a fault, each from what the one before has left.
-/

namespace PolledTerminal.Act

variable {σ τ α β : Type}

/-! ## Running -/

@[simp] theorem run_pure (x : α) (s : σ) : Act.run (pure x : Act σ α) s = some (.ok x, s) := rfl

@[simp] theorem run_get (s : σ) : Act.run (get : Act σ σ) s = some (.ok s, s) := rfl

@[simp] theorem run_throw (why : Fault) (s : σ) :
    Act.run (throw why : Act σ α) s = some (.error why, s) := rfl

@[simp] theorem run_ofStep (f : σ → Except Fault α × σ) (s : σ) :
    Act.run (ofStep f) s = some (f s) := rfl

/-- After a result the rest runs; a fault passes it over. -/
theorem run_bind (a : Act σ α) (f : α → Act σ β) (s : σ) :
    Act.run (a >>= f) s =
      match Act.run a s with
      | none => none
      | some (.ok x, s') => Act.run (f x) s'
      | some (.error why, s') => some (.error why, s') := by
  show (a s).bind _ = _
  unfold Act.run
  cases a s with
  | none => rfl
  | some r =>
      obtain ⟨answer, s'⟩ := r
      cases answer <;> rfl

theorem run_bind_of_ok {a : Act σ α} {f : α → Act σ β} {s s' : σ} {x : α}
    (h : Act.run a s = some (.ok x, s')) : Act.run (a >>= f) s = Act.run (f x) s' := by
  rw [run_bind, h]

theorem run_bind_of_error {a : Act σ α} {s s' : σ} {why : Fault}
    (h : Act.run a s = some (.error why, s')) (f : α → Act σ β) :
    Act.run (a >>= f) s = some (.error why, s') := by
  rw [run_bind, h]

/-- What follows depends on no more than the result and the state. -/
theorem run_bind_congr {a a' : Act σ α} {s s' : σ} (h : Act.run a s = Act.run a' s')
    (f : α → Act σ β) : Act.run (a >>= f) s = Act.run (a' >>= f) s' := by
  rw [run_bind, run_bind, h]

theorem run_within (part : τ → σ) (replace : τ → σ → τ) (a : Act σ α) (t : τ) :
    Act.run (a.within part replace) t =
      (Act.run a (part t)).map fun r => (r.1, replace t r.2) := by
  have hrun : Act.run (a.within part replace) t = a.within part replace t := rfl
  rw [hrun, within]
  cases Act.run a (part t) <;> rfl

/-! ## Properties that actions keep -/

/-- The action always ends, and the property survives it even when it fails. -/
def Keeps (P : σ → Prop) (a : Act σ α) : Prop :=
  ∀ s, P s → ∃ r s', Act.run a s = some (r, s') ∧ P s'

namespace Keeps

variable {P : σ → Prop}

theorem pure (x : α) : Keeps P (Pure.pure x : Act σ α) :=
  fun s h => ⟨.ok x, s, rfl, h⟩

theorem throw (why : Fault) : Keeps P (MonadExcept.throw why : Act σ α) :=
  fun s h => ⟨.error why, s, rfl, h⟩

theorem ofStep {f : σ → Except Fault α × σ} (h : ∀ s, P s → P (f s).2) : Keeps P (Act.ofStep f) :=
  fun s hs => ⟨(f s).1, (f s).2, rfl, h s hs⟩

theorem bind {a : Act σ α} {f : α → Act σ β} (ha : Keeps P a) (hf : ∀ x, Keeps P (f x)) :
    Keeps P (a >>= f) := by
  intro s hs
  obtain ⟨r, s', hrun, hs'⟩ := ha s hs
  cases r with
  | error why => exact ⟨.error why, s', by rw [run_bind, hrun], hs'⟩
  | ok x =>
      rw [run_bind_of_ok hrun]
      exact hf x s' hs'

/-- What comes after a look at the state has to keep the property from that state
only. -/
theorem get_bind {f : σ → Act σ β} (h : ∀ s, P s → ∃ r s', Act.run (f s) s = some (r, s') ∧ P s') :
    Keeps P (MonadState.get >>= f) := by
  intro s hs
  rw [run_bind_of_ok (run_get s)]
  exact h s hs

/-- An action on a part keeps what the part keeps, if the property is one of the
part. -/
theorem within {part : τ → σ} {replace : τ → σ → τ} {a : Act σ α} {Q : τ → Prop}
    (ha : Keeps P a) (hpart : ∀ t, Q t → P (part t))
    (hreplace : ∀ t s, Q t → P s → Q (replace t s)) : Keeps Q (a.within part replace) := by
  intro t ht
  obtain ⟨r, s', hrun, hs'⟩ := ha (part t) (hpart t ht)
  exact ⟨r, replace t s', by rw [run_within, hrun]; rfl, hreplace t s' ht hs'⟩

end Keeps

/-! ## Actions in turn -/

/-- Actions one after the other, also after one that failed, with what came of
each; `none` if one never ends. -/
def inTurn {ι : Type} (act : ι → Act σ α) : List ι → σ → Option (List (Except Fault α) × σ)
  | [], s => some ([], s)
  | i :: is, s =>
    match (act i).run s with
    | none => none
    | some (answer, s) => (inTurn act is s).map fun r => (answer :: r.1, r.2)

section InTurn

variable {ι : Type} {act : ι → Act σ α}

theorem inTurn_cons_of_run {i : ι} {s s' : σ} {answer : Except Fault α}
    (h : (act i).run s = some (answer, s')) (is : List ι) :
    inTurn act (i :: is) s = (inTurn act is s').map fun r => (answer :: r.1, r.2) := by
  rw [inTurn, h]

theorem inTurn_append {is js : List ι} {s s₁ s₂ : σ} {xs ys : List (Except Fault α)}
    (h : inTurn act is s = some (xs, s₁)) (h' : inTurn act js s₁ = some (ys, s₂)) :
    inTurn act (is ++ js) s = some (xs ++ ys, s₂) := by
  induction is generalizing s xs with
  | nil =>
      cases h
      exact h'
  | cons i is ih =>
      rcases hrun : (act i).run s with _ | ⟨answer, s'⟩
      · rw [inTurn, hrun] at h
        cases h
      · rw [inTurn_cons_of_run hrun] at h
        obtain ⟨⟨zs, s''⟩, hrest, heq⟩ := Option.map_eq_some_iff.mp h
        cases heq
        rw [List.cons_append, inTurn_cons_of_run hrun, ih hrest]
        rfl

/-- What each of the actions keeps, all of them in turn keep; and they all end. -/
theorem Keeps.inTurn {P : σ → Prop} {is : List ι} (h : ∀ i ∈ is, Keeps P (act i)) {s : σ}
    (hs : P s) : ∃ answers s', Act.inTurn act is s = some (answers, s') ∧ P s' := by
  induction is generalizing s with
  | nil => exact ⟨[], s, rfl, hs⟩
  | cons i is ih =>
      obtain ⟨answer, s₁, hrun, hs₁⟩ := h i List.mem_cons_self s hs
      obtain ⟨answers, s₂, hrest, hs₂⟩ := ih (fun j hj => h j (List.mem_cons_of_mem i hj)) hs₁
      refine ⟨answer :: answers, s₂, ?_, hs₂⟩
      rw [inTurn_cons_of_run hrun, hrest]
      rfl

end InTurn

end PolledTerminal.Act
