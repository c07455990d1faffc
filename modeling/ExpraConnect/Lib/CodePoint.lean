import Mathlib.Data.String.Basic
import Mathlib.Tactic

/-!
# Texts of code points

A text that is a list of code points may hold one half of a surrogate pair, which is no character.

* `CodePoint`, `points`: a code point, and those of a string;
* `joinHalves`, `SplitFree`: two halves next to each other as the character they stand for;
  `joinHalves_eq_self_iff`: nothing is joined exactly where no two halves meet;
* `decodeUtf8`, `decodeUtf8_points`: UTF-8 where a half may stand alone, which reads the bytes of
  every string.
-/

namespace ExpraConnect.Lib

/-- A character, or one half of a surrogate pair. -/
inductive CodePoint where
  | char (c : Char)
  | high (n : Fin 0x400)
  | low (n : Fin 0x400)
  deriving DecidableEq

/-- A text that need not be Unicode. -/
abbrev CodePoints := List CodePoint

namespace CodePoint

/-- The code point with a number. -/
def ofNat (n : ℕ) : CodePoint :=
  if h : 0xd800 ≤ n ∧ n < 0xdc00 then .high ⟨n - 0xd800, by omega⟩
  else if h : 0xdc00 ≤ n ∧ n < 0xe000 then .low ⟨n - 0xdc00, by omega⟩
  else .char (Char.ofNat n)

/-- Its number. -/
def toNat : CodePoint → ℕ
  | .char c => c.toNat
  | .high n => 0xd800 + n
  | .low n => 0xdc00 + n

/-- The character, if it is one. -/
def toChar? : CodePoint → Option Char
  | .char c => some c
  | _ => none

/-- The character that two halves stand for. -/
def pair (h l : Fin 0x400) : Char := Char.ofNat (0x10000 + h * 0x400 + l)

/-- A character has no number in the range of the halves.  Kind: L -/
theorem toNat_valid (c : Char) : c.toNat < 0xd800 ∨ 0xe000 ≤ c.toNat ∧ c.toNat < 0x110000 := by
  rcases c.valid with h | ⟨hlow, hhigh⟩
  · exact .inl h
  · exact .inr ⟨hlow, hhigh⟩

/-- A character from its number.  Kind: L -/
theorem ofNat_char (c : Char) : ofNat c.toNat = .char c := by
  have hvalid := toNat_valid c
  unfold ofNat
  rw [dif_neg (by omega), dif_neg (by omega), Char.ofNat_toNat]

/-- A high half is the code point of its number.  Kind: L -/
theorem ofNat_high (n : Fin 0x400) : ofNat (0xd800 + n) = .high n := by
  have hn := n.isLt
  unfold ofNat
  rw [dif_pos (by omega)]
  simp

/-- A low half is the code point of its number.  Kind: L -/
theorem ofNat_low (n : Fin 0x400) : ofNat (0xdc00 + n) = .low n := by
  have hn := n.isLt
  unfold ofNat
  rw [dif_neg (by omega), dif_pos (by omega)]
  simp

end CodePoint

/-- The text of characters. -/
def chars (text : List Char) : CodePoints := text.map .char

@[simp] theorem chars_nil : chars [] = [] := rfl

@[simp] theorem chars_cons (c : Char) (text : List Char) :
    chars (c :: text) = .char c :: chars text := rfl

@[simp] theorem chars_append (s t : List Char) : chars (s ++ t) = chars s ++ chars t :=
  List.map_append

/-- A text has one code point for each character.  Kind: L -/
@[simp] theorem length_chars (text : List Char) : (chars text).length = text.length :=
  List.length_map _

/-- A text of characters is determined by its code points.  Kind: L -/
theorem chars_injective : Function.Injective chars :=
  List.map_injective_iff.mpr fun _ _ h => CodePoint.char.inj h

/-- The code points of a string. -/
def points (s : String) : CodePoints := chars s.toList

/-- The code points of a text given by its characters.  Kind: L -/
theorem points_ofList (text : List Char) : points (String.ofList text) = chars text := by
  rw [points, String.toList_ofList]

/-- A string is determined by its code points.  Kind: L -/
theorem points_injective : Function.Injective points :=
  fun _ _ h => String.toList_injective (chars_injective h)

/-- The string of a text, if it has one. -/
def toString? (text : CodePoints) : Option String := (text.mapM CodePoint.toChar?).map String.ofList

/-- The code points of a string are a string.  Kind: L -/
theorem toString?_points (s : String) : toString? (points s) = some s := by
  have hmap : ∀ l : List Char, (chars l).mapM CodePoint.toChar? = some l := by
    intro l
    induction l with
    | nil => rfl
    | cons c l ih => simp [CodePoint.toChar?, ih]
  rw [toString?, points, hmap, Option.map_some, String.ofList_toList]

/-! ## Two halves next to each other -/

/-- Every high half in front of a low one, with that, as the character they stand for. -/
def joinHalves : CodePoints → CodePoints
  | .high h :: .low l :: rest => .char (CodePoint.pair h l) :: joinHalves rest
  | p :: rest => p :: joinHalves rest
  | [] => []

/-- No high half stands in front of a low one. -/
def splitFree : CodePoints → Bool
  | .high _ :: .low _ :: _ => false
  | _ :: rest => splitFree rest
  | [] => true

/-- Joining does not lengthen a text.  Kind: L -/
theorem length_joinHalves_le (text : CodePoints) : (joinHalves text).length ≤ text.length := by
  induction text using joinHalves.induct with
  | case1 h l rest ih =>
      simp only [joinHalves, List.length_cons]
      omega
  | case2 p rest hno ih =>
      rw [joinHalves]
      · simpa using ih
      · exact hno
  | case3 => exact le_rfl

/-- Nothing is joined exactly where no two halves meet.  Kind: L -/
theorem joinHalves_eq_self_iff (text : CodePoints) :
    joinHalves text = text ↔ splitFree text = true := by
  induction text using joinHalves.induct with
  | case1 h l rest ih =>
      have hle := length_joinHalves_le rest
      refine iff_of_false (fun heq => ?_) (by simp [splitFree])
      have hlen := congrArg List.length heq
      simp only [joinHalves, List.length_cons] at hlen
      omega
  | case2 p rest hno ih =>
      rw [joinHalves, splitFree, List.cons.injEq, ← ih]
      · simp
      · exact hno
      · exact hno
  | case3 => exact iff_of_true rfl rfl

/-- A text of characters has no halves.  Kind: L -/
theorem splitFree_chars (text : List Char) : splitFree (chars text) = true := by
  induction text with
  | nil => rfl
  | cons c text ih =>
      rw [chars_cons, splitFree]
      · exact ih
      · exact fun _ _ _ h => by cases h

/-- A string has no halves to be joined.  Kind: L -/
theorem splitFree_points (s : String) : splitFree (points s) = true := splitFree_chars _

/-- Joining leaves a string alone.  Kind: L -/
theorem joinHalves_points (s : String) : joinHalves (points s) = points s :=
  (joinHalves_eq_self_iff _).mpr (splitFree_points s)

/-! ## UTF-8 -/

/-- Read so many bytes that continue a code point. -/
def continuations : ℕ → ℕ → List UInt8 → Option (ℕ × List UInt8)
  | 0, n, rest => some (n, rest)
  | _ + 1, _, [] => none
  | more + 1, n, b :: rest =>
      if 0x80 ≤ b.toNat ∧ b.toNat < 0xc0 then continuations more (n * 0x40 + (b.toNat - 0x80)) rest
      else none

/-- Read a code point of at least `least`, and less than `bound`, whose first byte gave `n`. -/
def longPoint (more n least bound : ℕ) (rest : List UInt8) : Option (CodePoint × List UInt8) :=
  match continuations more n rest with
  | some (n, rest) => if least ≤ n ∧ n < bound then some (.ofNat n, rest) else none
  | none => none

/-- Read a code point. -/
def readPoint8 : List UInt8 → Option (CodePoint × List UInt8)
  | [] => none
  | a :: rest =>
      if a.toNat < 0x80 then some (.ofNat a.toNat, rest)
      else if a.toNat < 0xc0 then none
      else if a.toNat < 0xe0 then longPoint 1 (a.toNat - 0xc0) 0x80 0x800 rest
      else if a.toNat < 0xf0 then longPoint 2 (a.toNat - 0xe0) 0x800 0x10000 rest
      else if a.toNat < 0xf8 then longPoint 3 (a.toNat - 0xf0) 0x10000 0x110000 rest
      else none

/-- Read code points up to the end, of which there are no more than `fuel`. -/
def readPoints8 : ℕ → List UInt8 → Option CodePoints
  | _, [] => some []
  | 0, _ :: _ => none
  | fuel + 1, b :: rest =>
      match readPoint8 (b :: rest) with
      | some (p, rest) => (readPoints8 fuel rest).map fun text => p :: text
      | none => none

/-- The text of bytes, where a half may stand alone. -/
def decodeUtf8 (bytes : List UInt8) : Option CodePoints := readPoints8 bytes.length bytes

/-- One more byte that continues a code point.  Kind: L -/
theorem continuations_byte {m : ℕ} (hm : m < 0x40) (more n : ℕ) (rest : List UInt8) :
    continuations (more + 1) n (UInt8.ofNat (m + 0x80) :: rest) =
      continuations more (n * 0x40 + m) rest := by
  have hbyte : (UInt8.ofNat (m + 0x80)).toNat = m + 0x80 := UInt8.toNat_ofNat_of_lt' (by
    show m + 0x80 < 256
    omega)
  rw [continuations, hbyte, if_pos (by omega), Nat.add_sub_cancel]

/-- A character is read from its bytes.  Kind: L -/
theorem readPoint8_utf8EncodeChar (c : Char) (rest : List UInt8) :
    readPoint8 (String.utf8EncodeChar c ++ rest) = some (.char c, rest) := by
  have hvalid := CodePoint.toNat_valid c
  have hbyte : ∀ m < 256, (UInt8.ofNat m).toNat = m := fun m hm => UInt8.toNat_ofNat_of_lt' hm
  have hmod : ∀ m, m % 0x40 < 0x40 := fun m => Nat.mod_lt _ (by decide)
  rw [← CodePoint.ofNat_char]
  have hval : c.val.toNat = c.toNat := rfl
  unfold String.utf8EncodeChar
  rw [hval]
  generalize c.toNat = v at hvalid ⊢
  dsimp only
  split_ifs with h₁ h₂ h₃
  · rw [List.singleton_append, readPoint8, hbyte v (by omega), if_pos (by omega)]
  · have hv : (v / 64 % 0x20 + 0xc0 - 0xc0) * 0x40 + v % 0x40 = v := by omega
    rw [List.cons_append, List.singleton_append, readPoint8, hbyte _ (by omega), if_neg (by omega),
      if_neg (by omega), if_pos (by omega), longPoint, continuations_byte (hmod _), continuations,
      hv]
    dsimp only
    rw [if_pos (by omega)]
  · have hv : ((v / 4096 % 0x10 + 0xe0 - 0xe0) * 0x40 + v / 64 % 0x40) * 0x40 + v % 0x40 = v := by
      omega
    rw [List.cons_append, List.cons_append, List.singleton_append, readPoint8, hbyte _ (by omega),
      if_neg (by omega), if_neg (by omega), if_neg (by omega), if_pos (by omega), longPoint,
      continuations_byte (hmod _), continuations_byte (hmod _), continuations, hv]
    dsimp only
    rw [if_pos (by omega)]
  · have hv : (((v / 262144 % 0x08 + 0xf0 - 0xf0) * 0x40 + v / 4096 % 0x40) * 0x40 +
        v / 64 % 0x40) * 0x40 + v % 0x40 = v := by omega
    rw [List.cons_append, List.cons_append, List.cons_append, List.singleton_append, readPoint8,
      hbyte _ (by omega), if_neg (by omega), if_neg (by omega), if_neg (by omega),
      if_neg (by omega), if_pos (by omega), longPoint, continuations_byte (hmod _),
      continuations_byte (hmod _), continuations_byte (hmod _), continuations, hv]
    dsimp only
    rw [if_pos (by omega)]

/-- What is written for a list is not shorter, if something is written for each item.  Kind: L -/
theorem length_le_flatMap {α β : Type} {f : α → List β} (hf : ∀ a, f a ≠ []) (l : List α) :
    l.length ≤ (l.flatMap f).length := by
  induction l with
  | nil => exact le_rfl
  | cons a l ih =>
      have hpos := List.length_pos_iff.mpr (hf a)
      rw [List.flatMap_cons, List.length_append, List.length_cons]
      omega

/-- The characters are read from their bytes.  Kind: L -/
theorem readPoints8_utf8 (l : List Char) {fuel : ℕ} (h : l.length ≤ fuel) :
    readPoints8 fuel (l.flatMap String.utf8EncodeChar) = some (chars l) := by
  induction l generalizing fuel with
  | nil => cases fuel <;> rfl
  | cons c l ih =>
      obtain ⟨fuel, rfl⟩ := Nat.exists_eq_succ_of_ne_zero (Nat.ne_zero_of_lt h)
      have hread := readPoint8_utf8EncodeChar c (l.flatMap String.utf8EncodeChar)
      rw [List.flatMap_cons]
      cases hbytes : String.utf8EncodeChar c ++ l.flatMap String.utf8EncodeChar with
      | nil => exact absurd (List.append_eq_nil_iff.mp hbytes).1 String.utf8EncodeChar_ne_nil
      | cons b rest =>
          rw [hbytes] at hread
          rw [readPoints8, hread]
          dsimp only
          rw [ih (Nat.le_of_succ_le_succ h), Option.map_some, chars_cons]

/-- Every string is read from its bytes.  Kind: L -/
theorem decodeUtf8_points (s : String) :
    decodeUtf8 s.toByteArray.data.toList = some (points s) := by
  have hbytes : s.toByteArray.data.toList = s.toList.flatMap String.utf8EncodeChar := by
    rw [← String.utf8Encode_toList]
    simp [List.utf8Encode]
  have hlen := length_le_flatMap (fun c => String.utf8EncodeChar_ne_nil (c := c)) s.toList
  rw [decodeUtf8, hbytes, readPoints8_utf8 _ hlen, points]

end ExpraConnect.Lib
