import Mathlib.Algebra.Order.Floor.Ring
import Mathlib.Algebra.Order.Floor.Semiring
import Mathlib.Data.Rat.Floor
import Mathlib.Order.Monotone.Basic
import Mathlib.Tactic

/-!
# Linear interpolation of a sequence

A sequence of values, read at a position between its indices.

* `interpolate`: the value at a position, on the line between the two neighbouring values;
* `interpolate_natCast`: at an index it is the value there;
* `interpolate_mono`: between the indices of a monotone sequence it is monotone, also across an
  index;
* `le_interpolate`, `interpolate_le`: it stays between the values around it.
-/

namespace ExpraConnect.Lib

variable {K : Type} [Field K] [LinearOrder K] [IsStrictOrderedRing K] [FloorRing K]

/-- The value at position `x` of the line through the values at the two indices around it. -/
def interpolate (v : ℕ → K) (x : K) : K :=
  v ⌊x⌋₊ + (v (⌊x⌋₊ + 1) - v ⌊x⌋₊) * (x - ⌊x⌋₊)

/-- At an index the interpolation is the sample.  Kind: L -/
@[simp] theorem interpolate_natCast (v : ℕ → K) (n : ℕ) : interpolate v (n : K) = v n := by
  simp [interpolate]

/-- Half way to the next index lies the mean of the two values.  Kind: L -/
theorem interpolate_natCast_add_half (v : ℕ → K) (n : ℕ) :
    interpolate v ((n : K) + 1 / 2) = (v n + v (n + 1)) / 2 := by
  have hfloor : ⌊(n : K) + 1 / 2⌋₊ = n := by
    rw [Nat.floor_eq_iff (by positivity)]
    constructor <;> norm_num
  unfold interpolate
  rw [hfloor]
  ring

section monotone

variable {v : ℕ → K} (hv : Monotone v) {x y : K}

include hv

/-- The value is at least that at the index before.  Kind: L -/
theorem floor_le_interpolate (hx : 0 ≤ x) : v ⌊x⌋₊ ≤ interpolate v x := by
  have hstep : 0 ≤ v (⌊x⌋₊ + 1) - v ⌊x⌋₊ := sub_nonneg.mpr (hv (Nat.le_succ _))
  have hoff : 0 ≤ x - ⌊x⌋₊ := sub_nonneg.mpr (Nat.floor_le hx)
  exact le_add_of_nonneg_right (mul_nonneg hstep hoff)

/-- The value is at most that at the index behind.  Kind: L -/
theorem interpolate_le_floor_succ (x : K) : interpolate v x ≤ v (⌊x⌋₊ + 1) := by
  have hstep : 0 ≤ v (⌊x⌋₊ + 1) - v ⌊x⌋₊ := sub_nonneg.mpr (hv (Nat.le_succ _))
  have hoff : x - ⌊x⌋₊ ≤ 1 := by
    have hlt := Nat.lt_floor_add_one x
    linarith
  calc interpolate v x ≤ v ⌊x⌋₊ + (v (⌊x⌋₊ + 1) - v ⌊x⌋₊) * 1 := by
        unfold interpolate
        gcongr
    _ = v (⌊x⌋₊ + 1) := by ring

/-- Interpolation is monotone: within a cell it follows a line that does not fall, and from one
cell to the next it passes the value at the index between them.  Kind: L -/
theorem interpolate_mono (hx : 0 ≤ x) (hxy : x ≤ y) : interpolate v x ≤ interpolate v y := by
  have hfloor : ⌊x⌋₊ ≤ ⌊y⌋₊ := Nat.floor_le_floor hxy
  rcases hfloor.eq_or_lt with hcell | hlater
  · have hstep : 0 ≤ v (⌊y⌋₊ + 1) - v ⌊y⌋₊ := sub_nonneg.mpr (hv (Nat.le_succ _))
    unfold interpolate
    rw [hcell]
    gcongr
  · calc interpolate v x ≤ v (⌊x⌋₊ + 1) := interpolate_le_floor_succ hv x
      _ ≤ v ⌊y⌋₊ := hv hlater
      _ ≤ interpolate v y := floor_le_interpolate hv (hx.trans hxy)

/-- The interpolation is not below the first sample.  Kind: L -/
theorem le_interpolate (hx : 0 ≤ x) : v 0 ≤ interpolate v x :=
  (hv (Nat.zero_le _)).trans (floor_le_interpolate hv hx)

/-- The interpolation is not above the sample at the bound.  Kind: L -/
theorem interpolate_le {n : ℕ} (hx : 0 ≤ x) (hn : x ≤ n) : interpolate v x ≤ v n := by
  have hmono := interpolate_mono hv hx hn
  rwa [interpolate_natCast] at hmono

end monotone

end ExpraConnect.Lib
