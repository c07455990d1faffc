import Mathlib.Tactic

/-!
# Outcomes of fallible computations

`Meets E P r`: the computation `r : Except ε α` returned a value with `P`, or raised an error with
`E`.  `Raises E r` is about the errors alone.  The rules follow the way a computation is built, so
that a proof about a chain of checks reads off the chain.
-/

namespace ExpraConnect.Lib

variable {ε α β : Type} {E : ε → Prop} {P : α → Prop} {Q : β → Prop}

/-- Returned with `P`, or raised with `E`.  Source: none: infrastructure.  Kind: D -/
def Meets (E : ε → Prop) (P : α → Prop) : Except ε α → Prop
  | .ok a => P a
  | .error e => E e

/-- Rule of a returned value.  Kind: L -/
@[simp] theorem meets_ok {a : α} : Meets E P (.ok a) ↔ P a := Iff.rfl

/-- Rule of `pure`.  Kind: L -/
@[simp] theorem meets_pure {a : α} : Meets E P (pure a) ↔ P a := Iff.rfl

/-- Rule of an error.  Kind: L -/
@[simp] theorem meets_error {e : ε} : Meets E P (.error e) ↔ E e := Iff.rfl

/-- Rule of `throw`.  Kind: L -/
@[simp] theorem meets_throw {e : ε} : Meets E P (throw e) ↔ E e := Iff.rfl

/-- The second computation starts from what the first one guarantees.  Kind: L -/
theorem Meets.bind {x : Except ε α} {f : α → Except ε β} (hx : Meets E P x)
    (hf : ∀ a, P a → Meets E Q (f a)) : Meets E Q (x >>= f) := by
  cases x with
  | ok a => exact hf a hx
  | error e => exact hx

/-- A computation that returns for certain.  Kind: L -/
theorem meets_bind_of_eq_ok {x : Except ε α} {f : α → Except ε β} {a : α} (hx : x = .ok a)
    (hf : Meets E Q (f a)) : Meets E Q (x >>= f) := by
  rw [hx]
  exact hf

/-- What a call that meets its specification returns.  Kind: L -/
theorem Meets.of_eq_ok {x : Except ε α} {a : α} (h : Meets E P x) (hx : x = .ok a) : P a := by
  rw [hx] at h
  exact h

/-- What a call that meets its specification raises.  Kind: L -/
theorem Meets.of_eq_error {x : Except ε α} {e : ε} (h : Meets E P x) (hx : x = .error e) :
    E e := by
  rw [hx] at h
  exact h

/-! ## The errors alone -/

/-- Whatever the computation raises satisfies `E`.  Source: none: infrastructure.  Kind: D -/
def Raises (E : ε → Prop) (x : Except ε α) : Prop := ∀ e, x = .error e → E e

/-- A returned value raises nothing.  Kind: L -/
@[simp] theorem raises_ok {a : α} : Raises E (.ok a : Except ε α) := by
  intro e he
  cases he

/-- `pure` raises nothing.  Kind: L -/
@[simp] theorem raises_pure {a : α} : Raises E (pure a : Except ε α) := raises_ok

/-- Rule of an error.  Kind: L -/
@[simp] theorem raises_error {e : ε} : Raises E (.error e : Except ε α) ↔ E e := by
  constructor
  · intro h
    exact h e rfl
  · intro he e' heq
    cases heq
    exact he

/-- Rule of `throw`.  Kind: L -/
@[simp] theorem raises_throw {e : ε} : Raises E (throw e : Except ε α) ↔ E e := raises_error

/-- A sequence raises what its parts raise, the second part where the first one returned.
Kind: L -/
theorem raises_bind_iff {x : Except ε α} {f : α → Except ε β} :
    Raises E (x >>= f) ↔ Raises E x ∧ ∀ a, x = .ok a → Raises E (f a) := by
  cases x with
  | ok a =>
      show Raises E (f a) ↔ _
      constructor
      · intro h
        refine ⟨raises_ok, fun b hb => ?_⟩
        cases hb
        exact h
      · intro h
        exact h.2 a rfl
  | error e =>
      show Raises E (.error e) ↔ _
      simp

end ExpraConnect.Lib
