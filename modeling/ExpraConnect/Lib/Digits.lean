import Mathlib.Data.String.Basic

/-!
# Digits

Unicode has decimal digits, in runs of ten, and other digits, such as superscripts.

* `decimalValue?`, `isDigit`: the value of a decimal digit, and the digits of both sorts;
* `isDecimalText`, `isDigitText`: `text.isdecimal()` and `text.isdigit()`;
* `intOfDigits?`: `int(text)` of a text of digits, which is nothing if a digit is no decimal digit,
  or there are more digits than the limit that the interpreter has.
-/

namespace ExpraConnect.Lib.Digits

/-- The zeros of the runs of decimal digits. -/
def decimalZeros : List ℕ :=
  [0x30, 0x660, 0x6f0, 0x7c0, 0x966, 0x9e6, 0xa66, 0xae6, 0xb66, 0xbe6, 0xc66, 0xce6, 0xd66, 0xde6,
    0xe50, 0xed0, 0xf20, 0x1040, 0x1090, 0x17e0, 0x1810, 0x1946, 0x19d0, 0x1a80, 0x1a90, 0x1b50,
    0x1bb0, 0x1c40, 0x1c50, 0xa620, 0xa8d0, 0xa900, 0xa9d0, 0xa9f0, 0xaa50, 0xabf0, 0xff10, 0x104a0,
    0x10d30, 0x11066, 0x110f0, 0x11136, 0x111d0, 0x112f0, 0x11450, 0x114d0, 0x11650, 0x116c0,
    0x11730, 0x118e0, 0x11950, 0x11c50, 0x11d50, 0x11da0, 0x16a60, 0x16ac0, 0x16b50, 0x1d7ce,
    0x1d7d8, 0x1d7e2, 0x1d7ec, 0x1d7f6, 0x1e140, 0x1e2f0, 0x1e950, 0x1fbf0]

/-- The runs of digits that are not decimal: superscripts, subscripts, numbers in circles. -/
def otherDigits : List (ℕ × ℕ) :=
  [(0xb2, 0xb3), (0xb9, 0xb9), (0x1369, 0x1371), (0x19da, 0x19da), (0x2070, 0x2070),
    (0x2074, 0x2079), (0x2080, 0x2089), (0x2460, 0x2468), (0x2474, 0x247c), (0x2488, 0x2490),
    (0x24ea, 0x24ea), (0x24f5, 0x24fd), (0x24ff, 0x24ff), (0x2776, 0x277e), (0x2780, 0x2788),
    (0x278a, 0x2792), (0x10a40, 0x10a43), (0x10e60, 0x10e68), (0x11052, 0x1105a),
    (0x1f100, 0x1f10a)]

/-- The value of a decimal digit. -/
def decimalValue? (c : Char) : Option ℕ :=
  (decimalZeros.find? fun first => first ≤ c.toNat && c.toNat < first + 10).map fun first =>
    c.toNat - first

/-- `character.isdecimal()`. -/
def isDecimal (c : Char) : Bool := (decimalValue? c).isSome

/-- `character.isdigit()`. -/
def isDigit (c : Char) : Bool :=
  isDecimal c || otherDigits.any fun run => run.1 ≤ c.toNat && c.toNat ≤ run.2

/-- `text.isdecimal()`. -/
def isDecimalText (text : String) : Bool := !text.toList.isEmpty && text.toList.all isDecimal

/-- `text.isdigit()`. -/
def isDigitText (text : String) : Bool := !text.toList.isEmpty && text.toList.all isDigit

/-- There are more digits than the interpreter converts. -/
def Overlong (limit : Option ℕ) (text : String) : Prop := ∃ n ∈ limit, n < text.toList.length

instance (limit : Option ℕ) (text : String) : Decidable (Overlong limit text) :=
  match limit with
  | none => isFalse fun ⟨_, h, _⟩ => nomatch h
  | some n => decidable_of_iff (n < text.toList.length) (by simp [Overlong])

/-- `int(text)` of a text of digits; nothing is a `ValueError`. -/
def intOfDigits? (limit : Option ℕ) (text : String) : Option ℕ :=
  if isDecimalText text ∧ ¬Overlong limit text then
    some (text.toList.foldl (fun value c => 10 * value + (decimalValue? c).getD 0) 0)
  else none

/-- `int()` refuses what is no decimal text, and what is over the digit limit.  Kind: L -/
theorem intOfDigits?_eq_none_iff {limit : Option ℕ} {text : String} :
    intOfDigits? limit text = none ↔ ¬isDecimalText text ∨ Overlong limit text := by
  rw [intOfDigits?]
  split_ifs with h
  · exact iff_of_false nofun fun hor => hor.elim (fun hnot => hnot h.1) h.2
  · refine iff_of_true rfl ?_
    rw [Classical.not_and_iff_not_or_not, not_not] at h
    exact h

end ExpraConnect.Lib.Digits
