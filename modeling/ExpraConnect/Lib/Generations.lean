import Mathlib.Tactic.Basic
import Mathlib.Order.Basic
import Mathlib.Data.Nat.Basic

/-!
# Generations

Keys that hold a generation, where a generation is issued once: what a key gave up is not issued
again, so a key that holds an old generation held it all along.

* `Generations`: the generations that are held, and the last one that was issued;
* `Generations.Moves`: a key keeps its generation, gives it up, or is issued a new one;
* `Generations.Moves.held_of_le`: an old generation that is held was held before.
-/

namespace ExpraConnect.Lib

/-- Which keys hold a generation. -/
structure Generations (κ : Type*) where
  /-- The last generation that was issued. -/
  issued : ℕ
  /-- The generation that a key holds. -/
  held : κ → Option ℕ

namespace Generations

variable {κ : Type*} {s t u : Generations κ} {k : κ} {g : ℕ}

/-- What is held has been issued, and to one key. -/
structure WellFormed (s : Generations κ) : Prop where
  le_issued : ∀ k g, s.held k = some g → g ≤ s.issued
  distinct : ∀ k k' g, s.held k = some g → s.held k' = some g → k = k'

/-- What is held afterwards was held before or is new, and what is new is held by one key. -/
structure Moves (s t : Generations κ) : Prop where
  issued_le : s.issued ≤ t.issued
  kept : ∀ k g, t.held k = some g → s.held k = some g ∨ s.issued < g ∧ g ≤ t.issued
  distinct : ∀ k k' g, s.issued < g → t.held k = some g → t.held k' = some g → k = k'

/-- Nothing was issued.  Kind: L -/
theorem Moves.of_kept (hissued : t.issued = s.issued) (hs : s.WellFormed)
    (hkept : ∀ k g, t.held k = some g → s.held k = some g) : s.Moves t where
  issued_le := hissued.ge
  kept := fun k g h => .inl (hkept k g h)
  distinct := by
    intro k k' g hlt hk _
    have hle : g ≤ s.issued := hs.le_issued k g (hkept k g hk)
    omega

theorem Moves.refl (hs : s.WellFormed) : s.Moves s := .of_kept rfl hs fun _ _ h => h

/-- A new generation, to one key.  Kind: L -/
theorem Moves.of_issued [DecidableEq κ] (hs : s.WellFormed) (key : κ)
    (hissued : t.issued = s.issued + 1)
    (hheld : ∀ k, t.held k = if key = k then some t.issued else s.held k) : s.Moves t where
  issued_le := by omega
  kept := by
    intro k g h
    rw [hheld k] at h
    split_ifs at h
    · cases h
      exact .inr ⟨by omega, le_rfl⟩
    · exact .inl h
  distinct := by
    intro k k' g hlt hk hk'
    rw [hheld k] at hk
    rw [hheld k'] at hk'
    split_ifs at hk with heq
    · split_ifs at hk' with heq'
      · exact heq.symm.trans heq'
      · have hle : g ≤ s.issued := hs.le_issued k' g hk'
        omega
    · have hle : g ≤ s.issued := hs.le_issued k g hk
      omega

/-- A move keeps the state well formed.  Kind: L -/
theorem Moves.wellFormed (h : s.Moves t) (hs : s.WellFormed) : t.WellFormed where
  le_issued := by
    intro k g hk
    rcases h.kept k g hk with hheld | ⟨-, hle⟩
    · exact (hs.le_issued k g hheld).trans h.issued_le
    · exact hle
  distinct := by
    intro k k' g hk hk'
    rcases h.kept k g hk with hheld | ⟨hlt, -⟩
    · rcases h.kept k' g hk' with hheld' | ⟨hlt, -⟩
      · exact hs.distinct k k' g hheld hheld'
      · exact h.distinct k k' g hlt hk hk'
    · exact h.distinct k k' g hlt hk hk'

/-- An old generation that is held was held before.  Kind: L -/
theorem Moves.held_of_le (h : s.Moves t) (hk : t.held k = some g) (hle : g ≤ s.issued) :
    s.held k = some g := by
  rcases h.kept k g hk with hheld | ⟨hlt, -⟩
  · exact hheld
  · omega

theorem Moves.trans (hst : s.Moves t) (htu : t.Moves u) (hs : s.WellFormed) : s.Moves u where
  issued_le := hst.issued_le.trans htu.issued_le
  kept := by
    intro k g hk
    rcases htu.kept k g hk with hheld | ⟨hlt, hle⟩
    · rcases hst.kept k g hheld with hfirst | ⟨hlt, hle⟩
      · exact .inl hfirst
      · exact .inr ⟨hlt, hle.trans htu.issued_le⟩
    · exact .inr ⟨hst.issued_le.trans_lt hlt, hle⟩
  distinct := by
    intro k k' g _ hk hk'
    have hu : u.WellFormed := htu.wellFormed (hst.wellFormed hs)
    exact hu.distinct k k' g hk hk'

end Generations

end ExpraConnect.Lib
