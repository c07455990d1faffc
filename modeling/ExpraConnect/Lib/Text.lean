import Mathlib.Data.List.DropRight
import Mathlib.Data.String.Basic

/-!
# Texts

* `isSpace`, `isBlank`, `strip`: white space; `isBlank` says that `text.strip()` is empty;
* `endsWith`, `sliceBefore`, `removeSuffix`: `text.endswith(suffix)`, `text[:-n]` and
  `text.removesuffix(suffix)`.
-/

namespace ExpraConnect.Lib.Text

/-- The white space that `str.strip` removes: the controls, blanks and separators of Unicode. -/
def isSpace (c : Char) : Bool :=
  let n := c.toNat
  (0x9 ≤ n && n ≤ 0xd) || (0x1c ≤ n && n ≤ 0x20) || n = 0x85 || n = 0xa0 || n = 0x1680 ||
    (0x2000 ≤ n && n ≤ 0x200a) || n = 0x2028 || n = 0x2029 || n = 0x202f || n = 0x205f || n = 0x3000

/-- `not text.strip()`. -/
def isBlank (text : String) : Bool := text.toList.all isSpace

/-- `text.strip()`. -/
def strip (text : String) : String :=
  String.ofList ((text.toList.dropWhile isSpace).rdropWhile isSpace)

/-- A text that is stripped to something is not blank afterwards.  Kind: L -/
theorem isBlank_strip {text : String} (h : strip text ≠ "") : isBlank (strip text) = false := by
  have hchars : (strip text).toList = (text.toList.dropWhile isSpace).rdropWhile isSpace :=
    String.toList_ofList
  rw [isBlank, hchars]
  set kept := (text.toList.dropWhile isSpace).rdropWhile isSpace with hkept
  have hne : kept ≠ [] := by
    rintro heq
    exact h (by rw [strip, ← hkept, heq])
  have hlast : ¬isSpace (kept.getLast hne) := List.rdropWhile_last_not isSpace _ hne
  rw [List.all_eq_false]
  exact ⟨kept.getLast hne, List.getLast_mem hne, hlast⟩

/-- `text.endswith(suffix)`. -/
def endsWith (text suffix : String) : Bool := suffix.toList.isSuffixOf text.toList

/-- `text[:-n]`, which is empty for `n = 0`. -/
def sliceBefore (text : String) (n : ℕ) : String :=
  if n = 0 then "" else String.ofList (text.toList.take (text.toList.length - n))

/-- `text.removesuffix(suffix)`. -/
def removeSuffix (text suffix : String) : String :=
  if suffix ≠ "" ∧ endsWith text suffix then sliceBefore text suffix.toList.length else text

end ExpraConnect.Lib.Text
