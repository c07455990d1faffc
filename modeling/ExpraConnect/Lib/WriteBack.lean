import Mathlib.Data.List.Basic
import Mathlib.Tactic

/-!
# A copy that is written back

A state `σ` holds some data `ρ` twice: the data itself (`primary`, which may fail to be valid) and
a `copy`.  Operations of one kind work on the data and leave the copy alone; those of the other
kind (`back`) compute from the copy and write the result over the data.  Changes of the first kind
are lost whenever an operation of the second kind follows.

* `WriteBack.run`: operations one after the other, all successful;
* `WriteBack.single`: the same operations on one copy only;
* `Agrees`: whenever the copy is about to be written back, it is what it overwrites;
* `Settled`: whenever the copy is about to be written back, the data is what it was when the copy
  was last written back;
* `agrees_iff_settled`, `single_eq_run`: the two conditions are one, and under them nothing is
  lost.
-/

namespace ExpraConnect.Lib

/-- A system with a copy that is written back.  Source: none: infrastructure.  Kind: D -/
structure WriteBack (σ ρ ι : Type) where
  /-- The data. -/
  primary : σ → Option ρ
  /-- The copy. -/
  copy : σ → ρ
  /-- Set the copy. -/
  refresh : ρ → σ → σ
  /-- A successful operation. -/
  step : ι → σ → Option σ
  /-- Whether an operation writes the copy back. -/
  back : ι → Bool
  /-- What every copy satisfies. -/
  Good : ρ → Prop
  /-- Setting the copy to what it is changes nothing. -/
  refresh_copy : ∀ s, refresh (copy s) s = s
  /-- An operation on the data leaves the copy alone. -/
  copy_step : ∀ {i s s'}, back i = false → step i s = some s' → copy s' = copy s
  /-- An operation on the copy writes it back, or changes neither. -/
  step_back : ∀ {i s s'}, back i = true → Good (copy s) → step i s = some s' →
    Good (copy s') ∧
      (primary s' = some (copy s') ∨ (primary s' = primary s ∧ copy s' = copy s))

namespace WriteBack

variable {σ ρ ι : Type} (W : WriteBack σ ρ ι)

/-- Operations one after the other. -/
def run : List ι → σ → Option σ
  | [], s => some s
  | i :: is, s => (W.step i s).bind (run is)

/-- One operation on one copy: the data is what is written back. -/
def singleStep (i : ι) (s : σ) : Option σ :=
  if W.back i then (W.primary s).bind fun r => W.step i (W.refresh r s) else W.step i s

/-- The same operations on one copy. -/
def single : List ι → σ → Option σ
  | [], s => some s
  | i :: is, s => (W.singleStep i s).bind (single is)

/-- Whenever the copy is about to be written back, it is what it overwrites. -/
def Agrees : List ι → σ → Prop
  | [], _ => True
  | i :: is, s => (W.back i = true → W.primary s = some (W.copy s)) ∧
      ∀ s', W.step i s = some s' → Agrees is s'

/-- Whenever the copy is about to be written back, the data is `mark`: what it was at the start,
or when the copy was last written back. -/
def Settled : Option ρ → List ι → σ → Prop
  | _, [], _ => True
  | mark, i :: is, s => (W.back i = true → W.primary s = mark) ∧
      ∀ s', W.step i s = some s' →
        Settled (if W.back i then W.primary s' else mark) is s'

variable {W}

theorem run_cons {i : ι} {is : List ι} {s s'' : σ} :
    W.run (i :: is) s = some s'' ↔ ∃ s', W.step i s = some s' ∧ W.run is s' = some s'' := by
  simp [run, Option.bind_eq_some_iff]

/-- The two conditions are one: along a run, the copy stays the mark.  Kind: L -/
theorem agrees_iff_settled {is : List ι} {s s' : σ} (hgood : W.Good (W.copy s))
    (hrun : W.run is s = some s') :
    W.Agrees is s ↔ W.Settled (some (W.copy s)) is s := by
  induction is generalizing s with
  | nil => exact Iff.rfl
  | cons i is ih =>
      obtain ⟨t, ht, hrest⟩ := run_cons.mp hrun
      cases hb : W.back i with
      | false =>
          -- the copy, and with it the mark, stays
          have hc : W.copy t = W.copy s := W.copy_step hb ht
          have ih' := ih (s := t) (hc ▸ hgood) hrest
          rw [hc] at ih'
          simp [Agrees, Settled, hb, ht, ih']
      | true =>
          obtain ⟨hg, hback⟩ := W.step_back hb hgood ht
          have ih' := ih (s := t) hg hrest
          simp only [Agrees, Settled, hb, ht, Option.some.injEq, forall_eq', if_true,
            forall_const]
          refine and_congr_right fun hs => ?_
          have hmark : W.primary t = some (W.copy t) := by
            rcases hback with hp | ⟨hp, hc⟩
            · exact hp
            · rw [hp, hs, hc]
          rw [hmark]
          exact ih'

/-- While the copy is what it overwrites, one copy would have done.  Kind: L -/
theorem single_eq_run {is : List ι} {s s' : σ} (hrun : W.run is s = some s')
    (h : W.Agrees is s) : W.single is s = some s' := by
  induction is generalizing s with
  | nil => exact hrun
  | cons i is ih =>
      obtain ⟨t, ht, hrest⟩ := run_cons.mp hrun
      have hstep : W.singleStep i s = some t := by
        unfold singleStep
        split
        · rename_i hb
          rw [h.1 hb, Option.bind_some, W.refresh_copy, ht]
        · exact ht
      rw [single, hstep, Option.bind_some]
      exact ih hrest (h.2 t ht)

end WriteBack

end ExpraConnect.Lib
