import Mathlib.Tactic

/-!
# Base64

* `encode`: bytes in the alphabet that is safe in URLs, with padding;
* `decode`: the lenient reader, which takes both alphabets, passes over other characters and stops
  when a group of four is complete with its padding;
* `decode_encode`: bytes are read as they were written.
-/

namespace ExpraConnect.Lib.Base64

/-- The character of a value below 64. -/
def digit (v : ℕ) : Char :=
  if v < 26 then Char.ofNat (65 + v)
  else if v < 52 then Char.ofNat (71 + v)
  else if v < 62 then Char.ofNat (v - 4)
  else if v = 62 then '-'
  else '_'

/-- The value of a character of one of the two alphabets. -/
def value? (c : Char) : Option ℕ :=
  if 65 ≤ c.toNat ∧ c.toNat ≤ 90 then some (c.toNat - 65)
  else if 97 ≤ c.toNat ∧ c.toNat ≤ 122 then some (c.toNat - 71)
  else if 48 ≤ c.toNat ∧ c.toNat ≤ 57 then some (c.toNat + 4)
  else if c = '-' ∨ c = '+' then some 62
  else if c = '_' ∨ c = '/' then some 63
  else none

/-- Every digit stands for its value.  Kind: L -/
theorem value?_digit : ∀ v < 64, value? (digit v) = some v := by decide

/-- No digit is the padding.  Kind: L -/
theorem digit_ne_pad : ∀ v < 64, digit v ≠ '=' := by decide

/-- Every digit is ASCII.  Kind: L -/
theorem toNat_digit_lt : ∀ v < 64, (digit v).toNat < 128 := by decide

/-- The text of bytes. -/
def encode : List UInt8 → List Char
  | [] => []
  | [a] => [digit (a.toNat / 4), digit (a.toNat % 4 * 16), '=', '=']
  | [a, b] =>
      [digit (a.toNat / 4), digit (a.toNat % 4 * 16 + b.toNat / 16), digit (b.toNat % 16 * 4), '=']
  | a :: b :: c :: rest =>
      digit (a.toNat / 4) :: digit (a.toNat % 4 * 16 + b.toNat / 16) ::
        digit (b.toNat % 16 * 4 + c.toNat / 64) :: digit (c.toNat % 64) :: encode rest

/-- The bytes of a text, from a position in a group of four: the bits that are left from the
character before, and the number of padding characters since then. -/
def decodeFrom : ℕ → ℕ → ℕ → List Char → Option (List UInt8)
  | place, _, _, [] => if place = 0 then some [] else none
  | place, left, pads, c :: rest =>
      if c = '=' then
        if 2 ≤ place then
          if 4 ≤ place + (pads + 1) then some [] else decodeFrom place left (pads + 1) rest
        else decodeFrom place left pads rest
      else
        match value? c with
        | none => decodeFrom place left pads rest
        | some v =>
            match place with
            | 0 => decodeFrom 1 v 0 rest
            | 1 => (decodeFrom 2 (v % 16) 0 rest).map (UInt8.ofNat (left * 4 + v / 16) :: ·)
            | 2 => (decodeFrom 3 (v % 4) 0 rest).map (UInt8.ofNat (left * 16 + v / 4) :: ·)
            | _ => (decodeFrom 0 0 0 rest).map (UInt8.ofNat (left * 64 + v) :: ·)

/-- The bytes of a text. -/
def decode (text : List Char) : Option (List UInt8) := decodeFrom 0 0 0 text

section steps

variable {v left pads : ℕ} (rest : List Char)

/-- The first digit of a group is carried on.  Kind: L -/
theorem decodeFrom_first (h : v < 64) :
    decodeFrom 0 left pads (digit v :: rest) = decodeFrom 1 v 0 rest := by
  rw [decodeFrom, if_neg (digit_ne_pad v h), value?_digit v h]
  rfl

/-- The second digit completes the first byte.  Kind: L -/
theorem decodeFrom_second (h : v < 64) :
    decodeFrom 1 left pads (digit v :: rest) =
      (decodeFrom 2 (v % 16) 0 rest).map (UInt8.ofNat (left * 4 + v / 16) :: ·) := by
  rw [decodeFrom, if_neg (digit_ne_pad v h), value?_digit v h]
  rfl

/-- The third digit completes the second byte.  Kind: L -/
theorem decodeFrom_third (h : v < 64) :
    decodeFrom 2 left pads (digit v :: rest) =
      (decodeFrom 3 (v % 4) 0 rest).map (UInt8.ofNat (left * 16 + v / 4) :: ·) := by
  rw [decodeFrom, if_neg (digit_ne_pad v h), value?_digit v h]
  rfl

/-- The fourth digit completes the third byte.  Kind: L -/
theorem decodeFrom_fourth (h : v < 64) :
    decodeFrom 3 left pads (digit v :: rest) =
      (decodeFrom 0 0 0 rest).map (UInt8.ofNat (left * 64 + v) :: ·) := by
  rw [decodeFrom, if_neg (digit_ne_pad v h), value?_digit v h]
  rfl

end steps

/-- Two parts of a byte.  Kind: L -/
theorem ofNat_eq {n : ℕ} {a : UInt8} (h : n = a.toNat) : UInt8.ofNat n = a := by
  rw [h, UInt8.ofNat_toNat]

/-- Bytes are read as they were written.  Kind: L -/
theorem decode_encode (bytes : List UInt8) : decode (encode bytes) = some bytes := by
  induction bytes using encode.induct with
  | case1 => rfl
  | case2 a =>
      have ha := a.toNat_lt
      rw [encode, decode, decodeFrom_first _ (by omega), decodeFrom_second _ (by omega)]
      have hrest : decodeFrom 2 (a.toNat % 4 * 16 % 16) 0 ['=', '='] = some [] := rfl
      rw [hrest, Option.map_some, ofNat_eq (a := a) (by omega)]
  | case3 a b =>
      have ha := a.toNat_lt
      have hb := b.toNat_lt
      rw [encode, decode, decodeFrom_first _ (by omega), decodeFrom_second _ (by omega),
        decodeFrom_third _ (by omega)]
      have hrest : decodeFrom 3 (b.toNat % 16 * 4 % 4) 0 ['='] = some [] := rfl
      rw [hrest, Option.map_some, Option.map_some, ofNat_eq (a := a) (by omega),
        ofNat_eq (a := b) (by omega)]
  | case4 a b c rest ih =>
      have ha := a.toNat_lt
      have hb := b.toNat_lt
      have hc := c.toNat_lt
      rw [encode, decode, decodeFrom_first _ (by omega), decodeFrom_second _ (by omega),
        decodeFrom_third _ (by omega), decodeFrom_fourth _ (by omega)]
      rw [decode] at ih
      rw [ih, Option.map_some, Option.map_some, Option.map_some, ofNat_eq (a := a) (by omega),
        ofNat_eq (a := b) (by omega), ofNat_eq (a := c) (by omega)]

/-- The text is ASCII.  Kind: L -/
theorem toNat_lt_of_mem_encode {bytes : List UInt8} {ch : Char} (h : ch ∈ encode bytes) :
    ch.toNat < 128 := by
  induction bytes using encode.induct with
  | case1 => cases h
  | case2 a =>
      have ha := a.toNat_lt
      simp only [encode, List.mem_cons, List.not_mem_nil, or_false] at h
      rcases h with rfl | rfl | rfl | rfl
      · exact toNat_digit_lt _ (by omega)
      · exact toNat_digit_lt _ (by omega)
      · decide
      · decide
  | case3 a b =>
      have ha := a.toNat_lt
      have hb := b.toNat_lt
      simp only [encode, List.mem_cons, List.not_mem_nil, or_false] at h
      rcases h with rfl | rfl | rfl | rfl
      · exact toNat_digit_lt _ (by omega)
      · exact toNat_digit_lt _ (by omega)
      · exact toNat_digit_lt _ (by omega)
      · decide
  | case4 a b c rest ih =>
      have ha := a.toNat_lt
      have hb := b.toNat_lt
      have hc := c.toNat_lt
      simp only [encode, List.mem_cons] at h
      rcases h with rfl | rfl | rfl | rfl | h
      · exact toNat_digit_lt _ (by omega)
      · exact toNat_digit_lt _ (by omega)
      · exact toNat_digit_lt _ (by omega)
      · exact toNat_digit_lt _ (by omega)
      · exact ih h

end ExpraConnect.Lib.Base64
