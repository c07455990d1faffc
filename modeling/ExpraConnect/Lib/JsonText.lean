import ExpraConnect.Lib.CodePoint
import Mathlib.Data.Nat.Digits.Defs

/-!
# The tokens of JSON texts

Code points, strings and integers as they are written in JSON, in characters.

* `writePoint`: every code point outside of printable ASCII is escaped, a character beyond the basic
  plane as two halves, and a half that stands alone as itself;
* `writeString`, `readString_write`: what is read is what was written, but for halves that meet;
* `ascii_of_mem_writeString`: what is written is ASCII;
* `writeInt`, `readInt_writeInt`.
-/

namespace ExpraConnect.Lib

namespace Json

/-! ## Characters -/

/-- Four hexadecimal digits. -/
def hex4 (n : ℕ) : List Char :=
  [Nat.digitChar (n / 4096 % 16), Nat.digitChar (n / 256 % 16), Nat.digitChar (n / 16 % 16),
    Nat.digitChar (n % 16)]

/-- The letter that stands for a character behind a backslash. -/
def shortEscape (c : Char) : Option Char :=
  if c = '"' then some '"' else if c = '\\' then some '\\' else if c = '\n' then some 'n'
  else if c = '\r' then some 'r' else if c = '\t' then some 't' else if c = '\x08' then some 'b'
  else if c = '\x0c' then some 'f' else none

/-- The character that a letter stands for behind a backslash. -/
def shortUnescape (c : Char) : Option Char :=
  if c = '"' then some '"' else if c = '\\' then some '\\' else if c = '/' then some '/'
  else if c = 'n' then some '\n' else if c = 'r' then some '\r' else if c = 't' then some '\t'
  else if c = 'b' then some '\x08' else if c = 'f' then some '\x0c' else none

/-- A character of a string: itself if it is printable ASCII, else an escape, or two. -/
def writeChar (c : Char) : List Char :=
  match shortEscape c with
  | some e => ['\\', e]
  | none =>
      if ' ' ≤ c ∧ c ≤ '~' then [c]
      else if c.toNat < 0x10000 then '\\' :: 'u' :: hex4 c.toNat
      else '\\' :: 'u' :: (hex4 (0xd800 + (c.toNat - 0x10000) / 0x400) ++
        '\\' :: 'u' :: hex4 (0xdc00 + (c.toNat - 0x10000) % 0x400))

/-- The value of a hexadecimal digit. -/
def hexValue (c : Char) : Option ℕ :=
  if '0' ≤ c ∧ c ≤ '9' then some (c.toNat - 48)
  else if 'a' ≤ c ∧ c ≤ 'f' then some (c.toNat - 87)
  else if 'A' ≤ c ∧ c ≤ 'F' then some (c.toNat - 55)
  else none

/-- A code point of a string: itself if it is printable ASCII, else an escape, or two. -/
def writePoint : CodePoint → List Char
  | .char c => writeChar c
  | .high n => '\\' :: 'u' :: hex4 (0xd800 + n)
  | .low n => '\\' :: 'u' :: hex4 (0xdc00 + n)

/-- Read four hexadecimal digits. -/
def readHex4 : CodePoints → Option (ℕ × CodePoints)
  | .char a :: .char b :: .char c :: .char d :: rest =>
      match hexValue a, hexValue b, hexValue c, hexValue d with
      | some a, some b, some c, some d => some (a * 4096 + b * 256 + c * 16 + d, rest)
      | _, _, _, _ => none
  | _ => none

/-- Read the escape of a low half. -/
def readLow : CodePoints → Option (Fin 0x400 × CodePoints)
  | p :: q :: rest =>
      if p = .char '\\' ∧ q = .char 'u' then
        match readHex4 rest with
        | some (m, rest) =>
            match CodePoint.ofNat m with
            | .low l => some (l, rest)
            | _ => none
        | none => none
      else none
  | _ => none

/-- Read what follows the start of a numeric escape.  That of a low half behind that of a high one is
a part of the same character. -/
def readUnicode (text : CodePoints) : Option (CodePoint × CodePoints) :=
  match readHex4 text with
  | none => none
  | some (n, rest) =>
      match CodePoint.ofNat n with
      | .high h =>
          match readLow rest with
          | some (l, rest) => some (.char (CodePoint.pair h l), rest)
          | none => some (.high h, rest)
      | p => some (p, rest)

/-- Read one code point of a string. -/
def readPoint : CodePoints → Option (CodePoint × CodePoints)
  | [] => none
  | .char c :: rest =>
      if c = '\\' then
        match rest with
        | .char e :: rest =>
            if e = 'u' then readUnicode rest else (shortUnescape e).map fun c => (.char c, rest)
        | _ => none
      else if c = '"' ∨ c.toNat < 0x20 then none
      else some (.char c, rest)
  | half :: rest => some (half, rest)

/-- Every hexadecimal digit stands for its value.  Kind: L -/
theorem hexValue_digitChar : ∀ d < 16, hexValue (Nat.digitChar d) = some d := by decide

/-- Four hexadecimal digits read back.  Kind: L -/
theorem readHex4_hex4 {n : ℕ} (h : n < 0x10000) (rest : CodePoints) :
    readHex4 (chars (hex4 n) ++ rest) = some (n, rest) := by
  have hdigit : ∀ m : ℕ, hexValue (Nat.digitChar (m % 16)) = some (m % 16) :=
    fun m => hexValue_digitChar _ (Nat.mod_lt _ (by decide))
  unfold hex4 readHex4
  simp only [chars_cons, chars_nil, List.cons_append, List.nil_append, hdigit]
  congr 2
  omega

/-- A two-character escape reads back.  Kind: L -/
theorem shortUnescape_of_shortEscape {c e : Char} (h : shortEscape c = some e) :
    shortUnescape e = some c ∧ e ≠ 'u' := by
  unfold shortEscape at h
  split_ifs at h
  all_goals
    subst_vars
    cases h
    decide

/-- What `readPoint` does behind the start of a numeric escape.  Kind: L -/
theorem readPoint_escape (text : CodePoints) :
    readPoint (.char '\\' :: .char 'u' :: text) = readUnicode text := by
  unfold readPoint
  dsimp only
  rw [if_pos rfl, if_pos rfl]

/-- The second escape of a pair is taken if and only if it is a low half.  Kind: L -/
theorem readLow_hex4 {n : ℕ} (h : n < 0x10000) (rest : CodePoints) :
    readLow (.char '\\' :: .char 'u' :: (chars (hex4 n) ++ rest)) =
      match CodePoint.ofNat n with
      | .low l => some (l, rest)
      | _ => none := by
  unfold readLow
  dsimp only
  rw [if_pos ⟨rfl, rfl⟩, readHex4_hex4 h]

/-- No low half is read where no escape starts.  Kind: L -/
theorem readLow_of_ne {p : CodePoint} (hp : p ≠ .char '\\') (rest : CodePoints) :
    readLow (p :: rest) = none := by
  cases rest with
  | nil => rfl
  | cons q rest =>
      unfold readLow
      dsimp only
      rw [if_neg fun h => hp h.1]

/-- A character beyond the basic plane is its two halves.  Kind: L -/
theorem pair_halves {c : Char} (h : 0x10000 ≤ c.toNat) :
    ∃ high low : Fin 0x400, 0xd800 + high = 0xd800 + (c.toNat - 0x10000) / 0x400 ∧
      0xdc00 + low = 0xdc00 + (c.toNat - 0x10000) % 0x400 ∧ CodePoint.pair high low = c := by
  have hvalid := CodePoint.toNat_valid c
  refine ⟨⟨(c.toNat - 0x10000) / 0x400, by omega⟩, ⟨(c.toNat - 0x10000) % 0x400, by omega⟩, rfl,
    rfl, ?_⟩
  unfold CodePoint.pair
  dsimp only
  rw [show 0x10000 + (c.toNat - 0x10000) / 0x400 * 0x400 + (c.toNat - 0x10000) % 0x400 = c.toNat by
    omega, Char.ofNat_toNat]

/-- The escapes of two halves are read as one character.  Kind: L -/
theorem readPoint_pair (high low : Fin 0x400) (rest : CodePoints) :
    readPoint (chars (writePoint (.high high)) ++ (chars (writePoint (.low low)) ++ rest)) =
      some (.char (CodePoint.pair high low), rest) := by
  have hhigh := high.isLt
  have hlow := low.isLt
  simp only [writePoint, chars_cons, List.cons_append]
  rw [readPoint_escape]
  unfold readUnicode
  rw [readHex4_hex4 (by omega)]
  dsimp only
  rw [CodePoint.ofNat_high]
  dsimp only
  rw [readLow_hex4 (by omega), CodePoint.ofNat_low]

/-- A high half is read as it was written where no low one follows.  Kind: L -/
theorem readPoint_high (n : Fin 0x400) {rest : CodePoints} (hrest : readLow rest = none) :
    readPoint (chars (writePoint (.high n)) ++ rest) = some (.high n, rest) := by
  have hn := n.isLt
  simp only [writePoint, chars_cons, List.cons_append]
  rw [readPoint_escape]
  unfold readUnicode
  rw [readHex4_hex4 (by omega)]
  dsimp only
  rw [CodePoint.ofNat_high]
  dsimp only
  rw [hrest]

/-- A written low half reads back as itself.  Kind: L -/
theorem readPoint_low (n : Fin 0x400) (rest : CodePoints) :
    readPoint (chars (writePoint (.low n)) ++ rest) = some (.low n, rest) := by
  have hn := n.isLt
  simp only [writePoint, chars_cons, List.cons_append]
  rw [readPoint_escape]
  unfold readUnicode
  rw [readHex4_hex4 (by omega)]
  dsimp only
  rw [CodePoint.ofNat_low]

/-- A character is read as it was written.  Kind: L -/
theorem readPoint_writeChar (c : Char) (rest : CodePoints) :
    readPoint (chars (writeChar c) ++ rest) = some (.char c, rest) := by
  have hvalid := CodePoint.toNat_valid c
  unfold writeChar
  cases hshort : shortEscape c with
  | some e =>
      obtain ⟨hback, hne⟩ := shortUnescape_of_shortEscape hshort
      simp only [chars_cons, chars_nil, List.cons_append, List.nil_append]
      unfold readPoint
      dsimp only
      rw [if_pos rfl, if_neg hne, hback]
      rfl
  | none =>
      dsimp only
      split_ifs with hplain hsmall
      · have hquote : c ≠ '"' := by
          rintro rfl
          cases hshort
        have hslash : c ≠ '\\' := by
          rintro rfl
          cases hshort
        have hspace : ¬c.toNat < 0x20 := not_lt.mpr hplain.1
        simp only [chars_cons, chars_nil, List.cons_append, List.nil_append]
        unfold readPoint
        dsimp only
        rw [if_neg hslash, if_neg (not_or.mpr ⟨hquote, hspace⟩)]
      · simp only [chars_cons, List.cons_append]
        rw [readPoint_escape]
        unfold readUnicode
        rw [readHex4_hex4 hsmall]
        dsimp only
        rw [CodePoint.ofNat_char]
      · obtain ⟨high, low, hhigh, hlow, hpair⟩ := pair_halves (not_lt.mp hsmall)
        have hread := readPoint_pair high low rest
        rw [writePoint, writePoint, hhigh, hlow, hpair] at hread
        simpa using hread

/-- The escape that a code point starts with is that of no low half, unless it is one.  Kind: L -/
theorem readLow_writePoint {p : CodePoint} (hp : ∀ n, p ≠ .low n) (rest : CodePoints) :
    readLow (chars (writePoint p) ++ rest) = none := by
  cases p with
  | low n => exact absurd rfl (hp n)
  | high n =>
      have hn := n.isLt
      simp only [writePoint, chars_cons, List.cons_append]
      rw [readLow_hex4 (by omega), CodePoint.ofNat_high]
  | char c =>
      rw [writePoint]
      unfold writeChar
      cases hshort : shortEscape c with
      | some e =>
          obtain ⟨-, hne⟩ := shortUnescape_of_shortEscape hshort
          simp only [chars_cons, chars_nil, List.cons_append, List.nil_append]
          unfold readLow
          dsimp only
          rw [if_neg fun h => hne (CodePoint.char.inj h.2)]
      | none =>
          dsimp only
          split_ifs with hplain hsmall
          · refine readLow_of_ne ?_ rest
            rintro ⟨⟩
            cases hshort
          · simp only [chars_cons, List.cons_append]
            rw [readLow_hex4 hsmall, CodePoint.ofNat_char]
          · obtain ⟨high, low, hhigh, -, -⟩ := pair_halves (not_lt.mp hsmall)
            have hh := high.isLt
            simp only [chars_cons, chars_append, List.cons_append, List.append_assoc]
            rw [← hhigh, readLow_hex4 (by omega), CodePoint.ofNat_high]

/-! ## Strings -/

/-- A string between quotes. -/
def writeString (s : CodePoints) : List Char := '"' :: (s.flatMap writePoint ++ ['"'])

/-- Read a string up to the quote that ends it, of less than `fuel` code points. -/
def readString : ℕ → CodePoints → Option (CodePoints × CodePoints)
  | 0, _ => none
  | _ + 1, [] => none
  | fuel + 1, p :: rest =>
      if p = .char '"' then some ([], rest)
      else
        match readPoint (p :: rest) with
        | none => none
        | some (p, rest) => (readString fuel rest).map fun out => (p :: out.1, out.2)

/-- What is written for a code point does not start with a quote.  Kind: L -/
theorem writePoint_cons (p : CodePoint) : ∃ d text, writePoint p = d :: text ∧ d ≠ '"' := by
  cases p with
  | high n => exact ⟨'\\', _, rfl, by decide⟩
  | low n => exact ⟨'\\', _, rfl, by decide⟩
  | char c =>
      rw [writePoint]
      unfold writeChar
      cases hshort : shortEscape c with
      | some e => exact ⟨'\\', [e], rfl, by decide⟩
      | none =>
          dsimp only
          split_ifs
          · refine ⟨c, [], rfl, ?_⟩
            rintro rfl
            cases hshort
          · exact ⟨'\\', _, rfl, by decide⟩
          · exact ⟨'\\', _, rfl, by decide⟩

theorem writePoint_ne_nil (p : CodePoint) : writePoint p ≠ [] := by
  obtain ⟨d, text, hwrite, -⟩ := writePoint_cons p
  rw [hwrite]
  exact List.cons_ne_nil _ _

/-- No low half is read in front of a text that starts with none.  Kind: L -/
theorem readLow_flatMap {s : CodePoints} (hs : ∀ n rest, s ≠ .low n :: rest) (rest : CodePoints) :
    readLow (chars (s.flatMap writePoint) ++ .char '"' :: rest) = none := by
  cases s with
  | nil => exact readLow_of_ne (by decide) rest
  | cons p s =>
      rw [List.flatMap_cons, chars_append, List.append_assoc]
      refine readLow_writePoint ?_ _
      rintro n rfl
      exact hs n s rfl

/-- Where a code point is read, one more step of `readString` is made.  Kind: L -/
theorem readString_step {p q : CodePoint} {text rest : CodePoints} {fuel : ℕ}
    (h : readPoint (chars (writePoint p) ++ text) = some (q, rest)) :
    readString (fuel + 1) (chars (writePoint p) ++ text) =
      (readString fuel rest).map fun out => (q :: out.1, out.2) := by
  obtain ⟨d, written, hwrite, hquote⟩ := writePoint_cons p
  rw [hwrite, chars_cons, List.cons_append] at h ⊢
  rw [readString, if_neg fun heq => hquote (CodePoint.char.inj heq), h]

/-- A string is read as it was written, with the halves joined that meet.  Kind: L -/
theorem readString_write (s : CodePoints) {fuel : ℕ} (h : s.length < fuel) (rest : CodePoints) :
    readString fuel (chars (s.flatMap writePoint) ++ .char '"' :: rest) =
      some (joinHalves s, rest) := by
  induction s using joinHalves.induct generalizing fuel with
  | case1 high low s ih =>
      obtain ⟨fuel, rfl⟩ := Nat.exists_eq_succ_of_ne_zero (Nat.ne_zero_of_lt h)
      have hread := readPoint_pair high low (chars (s.flatMap writePoint) ++ .char '"' :: rest)
      simp only [List.flatMap_cons, chars_append, List.append_assoc]
      rw [readString_step hread, ih (by simp only [List.length_cons] at h; omega), joinHalves]
      rfl
  | case2 p s hno ih =>
      obtain ⟨fuel, rfl⟩ := Nat.exists_eq_succ_of_ne_zero (Nat.ne_zero_of_lt h)
      have hread : readPoint (chars (writePoint p) ++
          (chars (s.flatMap writePoint) ++ .char '"' :: rest)) =
            some (p, chars (s.flatMap writePoint) ++ .char '"' :: rest) := by
        cases p with
        | char c => exact readPoint_writeChar c _
        | low n => exact readPoint_low n _
        | high n =>
            refine readPoint_high n (readLow_flatMap ?_ rest)
            rintro l s' rfl
            exact hno n l s' rfl rfl
      simp only [List.flatMap_cons, chars_append, List.append_assoc]
      rw [readString_step hread, ih (Nat.lt_of_succ_lt_succ h), joinHalves]
      · rfl
      · exact hno
  | case3 =>
      obtain ⟨fuel, rfl⟩ := Nat.exists_eq_succ_of_ne_zero (Nat.ne_zero_of_lt h)
      rfl

/-- Different strings of characters are written differently.  Kind: L -/
theorem writeString_injective : Function.Injective fun s => writeString (points s) := by
  intro s t h
  have hread : ∀ (u : String) (fuel : ℕ), (points u).length < fuel →
      readString fuel (chars ((points u).flatMap writePoint ++ ['"'])) = some (points u, []) := by
    intro u fuel hu
    rw [chars_append]
    exact (readString_write (points u) hu []).trans (by rw [joinHalves_points])
  have hs := hread s ((points s).length + (points t).length + 1) (by omega)
  have ht := hread t ((points s).length + (points t).length + 1) (by omega)
  rw [(List.cons.inj h).2, ht] at hs
  exact (points_injective (Prod.ext_iff.mp (Option.some.inj hs)).1).symm

/-- Hexadecimal digits are ASCII.  Kind: L -/
theorem ascii_of_mem_hex4 {n : ℕ} {c : Char} (h : c ∈ hex4 n) : c.toNat < 128 := by
  have hdigit : ∀ d < 16, (Nat.digitChar d).toNat < 128 := by decide
  have hmod : ∀ m : ℕ, (Nat.digitChar (m % 16)).toNat < 128 :=
    fun m => hdigit _ (Nat.mod_lt _ (by decide))
  simp only [hex4, List.mem_cons, List.not_mem_nil, or_false] at h
  rcases h with rfl | rfl | rfl | rfl
  all_goals exact hmod _

/-- What is written for a character is ASCII.  Kind: L -/
theorem ascii_of_mem_writeChar {c d : Char} (h : d ∈ writeChar c) : d.toNat < 128 := by
  unfold writeChar at h
  cases hshort : shortEscape c with
  | some e =>
      have he : e.toNat < 128 := by
        unfold shortEscape at hshort
        split_ifs at hshort
        all_goals
          cases hshort
          decide
      rw [hshort] at h
      rcases List.mem_pair.mp h with rfl | rfl
      · decide
      · exact he
  | none =>
      rw [hshort] at h
      dsimp only at h
      split_ifs at h with hplain hsmall
      · rw [List.mem_singleton.mp h]
        exact Nat.lt_of_le_of_lt hplain.2 (by decide)
      · rcases List.mem_cons.mp h with rfl | h
        · decide
        · rcases List.mem_cons.mp h with rfl | h
          · decide
          · exact ascii_of_mem_hex4 h
      · simp only [List.mem_cons, List.mem_append] at h
        rcases h with rfl | rfl | h | rfl | rfl | h
        · decide
        · decide
        · exact ascii_of_mem_hex4 h
        · decide
        · decide
        · exact ascii_of_mem_hex4 h

/-- What is written for a code point is ASCII.  Kind: L -/
theorem ascii_of_mem_writePoint {p : CodePoint} {d : Char} (h : d ∈ writePoint p) :
    d.toNat < 128 := by
  have hescape : ∀ n, d ∈ '\\' :: 'u' :: hex4 n → d.toNat < 128 := by
    intro n hd
    rcases List.mem_cons.mp hd with rfl | hd
    · decide
    · rcases List.mem_cons.mp hd with rfl | hd
      · decide
      · exact ascii_of_mem_hex4 hd
  cases p with
  | char c => exact ascii_of_mem_writeChar h
  | high n => exact hescape _ h
  | low n => exact hescape _ h

/-- What is written for a string is ASCII.  Kind: L -/
theorem ascii_of_mem_writeString {s : CodePoints} {c : Char} (h : c ∈ writeString s) :
    c.toNat < 128 := by
  simp only [writeString, List.mem_cons, List.mem_append, List.mem_flatMap, List.not_mem_nil,
    or_false] at h
  rcases h with rfl | ⟨d, -, hd⟩ | rfl
  · decide
  · exact ascii_of_mem_writePoint hd
  · decide

/-! ## Numbers and other tokens -/

/-- White space between tokens. -/
def isSpace (c : Char) : Bool := c = ' ' || c = '\t' || c = '\n' || c = '\r'

/-- A character of a number or of a constant. -/
def isToken (c : Char) : Bool :=
  !(isSpace c || c = ',' || c = ':' || c = '[' || c = ']' || c = '{' || c = '}' || c = '"')

/-- `null` -/
def nullText : List Char := ['n', 'u', 'l', 'l']

/-- `true` -/
def trueText : List Char := ['t', 'r', 'u', 'e']

/-- `false` -/
def falseText : List Char := ['f', 'a', 'l', 's', 'e']

/-- An integer in decimal. -/
def writeInt (n : ℤ) : List Char :=
  if n < 0 then '-' :: Nat.toDigits 10 n.natAbs else Nat.toDigits 10 n.natAbs

/-- A natural number in decimal, without leading zeros. -/
def readNat (digits : List Char) : Option ℕ :=
  if digits ≠ [] ∧ digits.all Char.isDigit ∧ (digits = ['0'] ∨ digits.head? ≠ some '0') then
    some (Nat.ofDigitChars 10 digits 0)
  else none

/-- An integer in decimal. -/
def readInt : List Char → Option ℤ
  | [] => none
  | c :: digits =>
      if c = '-' then (readNat digits).map fun n : ℕ => -(n : ℤ)
      else (readNat (c :: digits)).map fun n : ℕ => (n : ℤ)

/-- No number but zero starts with a zero.  Kind: L -/
theorem head?_toDigits {n : ℕ} (h : 0 < n) : (Nat.toDigits 10 n).head? ≠ some '0' := by
  induction n using Nat.strong_induction_on with
  | _ n ih =>
      by_cases hsmall : n < 10
      · rw [Nat.toDigits_of_lt_base hsmall]
        have hdigit : ∀ d < 10, 0 < d → Nat.digitChar d ≠ '0' := by decide
        exact fun heq => hdigit n hsmall h (Option.some.inj heq)
      · have hsplit : Nat.toDigits 10 (n / 10) ++ Nat.toDigits 10 (n % 10) = Nat.toDigits 10 n := by
          rw [Nat.toDigits_append_toDigits (by decide) (by omega) (Nat.mod_lt _ (by decide)),
            Nat.div_add_mod]
        rw [← hsplit, List.head?_append_of_ne_nil _ Nat.toDigits_ne_nil]
        exact ih (n / 10) (by omega) (by omega)

/-- A natural number reads back.  Kind: L -/
theorem readNat_toDigits (n : ℕ) : readNat (Nat.toDigits 10 n) = some n := by
  have hdigits : (Nat.toDigits 10 n).all Char.isDigit = true :=
    List.all_eq_true.mpr fun c hc => Nat.isDigit_of_mem_toDigits (by decide) (by decide) hc
  have hzero : Nat.toDigits 10 n = ['0'] ∨ (Nat.toDigits 10 n).head? ≠ some '0' := by
    rcases Nat.eq_zero_or_pos n with rfl | hpos
    · exact .inl (Nat.toDigits_zero 10)
    · exact .inr (head?_toDigits hpos)
  unfold readNat
  rw [if_pos ⟨Nat.toDigits_ne_nil, hdigits, hzero⟩, Nat.ofDigitChars_ten_toDigits]

/-- An integer reads back.  Kind: L -/
theorem readInt_writeInt (n : ℤ) : readInt (writeInt n) = some n := by
  unfold writeInt
  split_ifs with hneg
  · unfold readInt
    dsimp only
    rw [if_pos rfl, readNat_toDigits]
    show some (-(n.natAbs : ℤ)) = some n
    congr 1
    omega
  · cases hdigits : Nat.toDigits 10 n.natAbs with
    | nil => exact absurd hdigits Nat.toDigits_ne_nil
    | cons c digits =>
        have hc : c.isDigit = true :=
          Nat.isDigit_of_mem_toDigits (by decide) (by decide) (hdigits ▸ List.mem_cons_self)
        have hminus : c ≠ '-' := by
          rintro rfl
          cases hc
        unfold readInt
        dsimp only
        rw [if_neg hminus, ← hdigits, readNat_toDigits]
        show some (n.natAbs : ℤ) = some n
        congr 1
        omega

/-- Digits belong to tokens.  Kind: L -/
theorem isToken_of_isDigit {c : Char} (h : c.isDigit = true) : isToken c = true := by
  by_contra hno
  unfold isToken isSpace at hno
  simp only [Bool.not_eq_true, Bool.not_eq_false', Bool.or_eq_true, decide_eq_true_eq] at hno
  rcases hno with (((((((((rfl | rfl) | rfl) | rfl) | rfl) | rfl) | rfl) | rfl) | rfl) | rfl) | rfl
  all_goals cases h

/-- An integer is written with digits and a sign.  Kind: L -/
theorem digit_of_mem_writeInt {n : ℤ} {c : Char} (h : c ∈ writeInt n) :
    c = '-' ∨ c.isDigit = true := by
  have hdigit : ∀ {m : ℕ}, c ∈ Nat.toDigits 10 m → c.isDigit = true := fun hm =>
    Nat.isDigit_of_mem_toDigits (by decide) (by decide) hm
  unfold writeInt at h
  split_ifs at h
  · exact (List.mem_cons.mp h).imp_right hdigit
  · exact .inr (hdigit h)

/-- What is written for an integer is a token.  Kind: L -/
theorem isToken_of_mem_writeInt {n : ℤ} {c : Char} (h : c ∈ writeInt n) : isToken c = true := by
  rcases digit_of_mem_writeInt h with rfl | hdigit
  · decide
  · exact isToken_of_isDigit hdigit

/-- So is every token that is read as one.  Kind: L -/
theorem digit_of_readInt {token : List Char} {n : ℤ} (h : readInt token = some n) :
    ∀ c ∈ token, c = '-' ∨ c.isDigit = true := by
  have hnat : ∀ {digits : List Char} {m : ℕ}, readNat digits = some m →
      ∀ c ∈ digits, c.isDigit = true := by
    intro digits m hread
    unfold readNat at hread
    split_ifs at hread with hdigits
    exact List.all_eq_true.mp hdigits.2.1
  cases token with
  | nil => exact nofun
  | cons d digits =>
      unfold readInt at h
      dsimp only at h
      intro c hc
      split_ifs at h with hminus
      · obtain ⟨m, hread, -⟩ := Option.map_eq_some_iff.mp h
        rcases List.mem_cons.mp hc with rfl | hmem
        · exact .inl hminus
        · exact .inr (hnat hread c hmem)
      · obtain ⟨m, hread, -⟩ := Option.map_eq_some_iff.mp h
        exact .inr (hnat hread c hc)

end Json

end ExpraConnect.Lib
