import Mathlib.Data.Nat.Basic
import Mathlib.Tactic.Ring

/-!
# Big-endian numbers

Numbers as bytes, the most significant byte first, and back.
-/

namespace ExpraConnect.Lib.BigEndian

/-- The last `width` bytes of a number. -/
def toBytes : ℕ → ℕ → List UInt8
  | 0, _ => []
  | width + 1, n => toBytes width (n / 256) ++ [UInt8.ofNat (n % 256)]

/-- The number that bytes stand for. -/
def ofBytes (bytes : List UInt8) : ℕ := bytes.foldl (fun n b => n * 256 + b.toNat) 0

/-- An integer is written in the given width.  Kind: L -/
@[simp] theorem length_toBytes (width n : ℕ) : (toBytes width n).length = width := by
  induction width generalizing n with
  | zero => rfl
  | succ width ih => rw [toBytes, List.length_append, ih, List.length_singleton]

/-- One more byte of lower weight.  Kind: L -/
theorem ofBytes_append_singleton (bytes : List UInt8) (b : UInt8) :
    ofBytes (bytes ++ [b]) = ofBytes bytes * 256 + b.toNat := by
  simp [ofBytes]

/-- An integer that fits its width reads back.  Kind: L -/
theorem ofBytes_toBytes {width n : ℕ} (h : n < 256 ^ width) : ofBytes (toBytes width n) = n := by
  induction width generalizing n with
  | zero =>
      have hzero : n = 0 := by simpa using h
      rw [hzero]
      rfl
  | succ width ih =>
      have hdiv : n / 256 < 256 ^ width := by
        rw [pow_succ] at h
        exact Nat.div_lt_of_lt_mul (by rwa [Nat.mul_comm])
      have hlow : (UInt8.ofNat (n % 256)).toNat = n % 256 := by
        rw [UInt8.toNat_ofNat']
        omega
      rw [toBytes, ofBytes_append_singleton, ih hdiv, hlow]
      omega

end ExpraConnect.Lib.BigEndian
