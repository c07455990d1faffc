import ExpraConnect.Lib.Dict
import ExpraConnect.Lib.JsonText
import Mathlib.Data.List.Sort
import Mathlib.Data.String.Basic

/-!
# JSON texts

Values, the texts they are written as, and a reader.

* `JsonString`: the strings of a value, of characters or of any code points;
* `Json.write`: the text of a value, the fields in their order;
* `Json.parse`: a reader of JSON texts, also with white space, and `parse_write`: what it reads of a
  written value is that value, with the halves of surrogate pairs joined that meet;
* `Json.loads`, `loads_write`: of several values for one key the last counts; an integer with more
  digits than a limit is refused;
* `Json.sorted`, `Json.canonical`, `canonical_injective`: the text with sorted keys determines the
  value up to the order of its keys.

How numbers that are no integers are written is a parameter (`FloatFormat`).
-/

namespace ExpraConnect.Lib

/-- What the strings of a value are. -/
class JsonString (S : Type) where
  /-- The code points of a string. -/
  points : S → CodePoints
  /-- The string of code points, if there is one. -/
  ofPoints : CodePoints → Option S
  /-- The string that is read where this one was written. -/
  joined : S → S
  /-- Its code points are those that are read. -/
  ofPoints_joinHalves : ∀ s, ofPoints (joinHalves (points s)) = some (joined s)

/-- Strings of characters. -/
instance : JsonString String where
  points := points
  ofPoints := toString?
  joined s := s
  ofPoints_joinHalves s := by rw [joinHalves_points, toString?_points]

/-- Strings of any code points. -/
instance : JsonString CodePoints where
  points text := text
  ofPoints text := some text
  joined := joinHalves
  ofPoints_joinHalves _ := rfl

/-- A JSON value, with strings of the type `S`, and numbers of the type `F` beside the integers. -/
inductive Json (S F : Type) where
  | null
  | bool (b : Bool)
  | int (n : ℤ)
  | float (x : F)
  | str (s : S)
  | list (items : List (Json S F))
  | dict (fields : List (S × Json S F))

/-- How the numbers that are no integers are written and read. -/
structure FloatFormat (F : Type) where
  /-- What a number is written as. -/
  text : F → List Char
  /-- The number that a token is, if it is one. -/
  read : List Char → Option F
  /-- A number is read as it was written. -/
  read_text : ∀ x, read (text x) = some x
  /-- It is written as one token. -/
  token : ∀ x, ∀ c ∈ text x, Json.isToken c = true
  /-- Nothing is no number. -/
  read_nil : read [] = none
  /-- It is not written as an integer. -/
  readInt_text : ∀ x, Json.readInt (text x) = none
  /-- It is not written as a constant. -/
  text_ne_constant : ∀ x, text x ∉ [Json.nullText, Json.trueText, Json.falseText]

theorem FloatFormat.text_ne_nil {F : Type} (N : FloatFormat F) (x : F) : N.text x ≠ [] := by
  intro hnil
  cases (N.read_text x).symm.trans (hnil ▸ N.read_nil)

namespace Json

variable {S F : Type} (N : FloatFormat F)

section write

variable [JsonString S]

/-! ## Values -/

/-- What separates two parts of a value: the sign, with a blank in the spaced form. -/
def separator (spaced : Bool) (c : Char) : List Char := c :: (if spaced then [' '] else [])

mutual

/-- A value as a text. -/
def write (spaced : Bool) : Json S F → List Char
  | .null => nullText
  | .bool b => if b then trueText else falseText
  | .int n => writeInt n
  | .float x => N.text x
  | .str s => writeString (JsonString.points s)
  | .list items => '[' :: writeList spaced items
  | .dict fields => '{' :: writeDict spaced fields

/-- What follows an opening bracket. -/
def writeList (spaced : Bool) : List (Json S F) → List Char
  | [] => [']']
  | v :: rest => write spaced v ++ writeItems spaced rest

/-- What follows an item. -/
def writeItems (spaced : Bool) : List (Json S F) → List Char
  | [] => [']']
  | v :: rest => separator spaced ',' ++ (write spaced v ++ writeItems spaced rest)

/-- What follows an opening brace. -/
def writeDict (spaced : Bool) : List (S × Json S F) → List Char
  | [] => ['}']
  | (k, v) :: rest =>
      writeString (JsonString.points k) ++
        (separator spaced ':' ++ (write spaced v ++ writeFields spaced rest))

/-- What follows a field. -/
def writeFields (spaced : Bool) : List (S × Json S F) → List Char
  | [] => ['}']
  | (k, v) :: rest =>
      separator spaced ',' ++ (writeString (JsonString.points k) ++
        (separator spaced ':' ++ (write spaced v ++ writeFields spaced rest)))

end

/-- A value that is one token. -/
def readScalar (token : List Char) : Option (Json S F) :=
  if token = nullText then some .null
  else if token = trueText then some (.bool true)
  else if token = falseText then some (.bool false)
  else
    match readInt token with
    | some n => some (.int n)
    | none => (N.read token).map .float

/-- What follows the white space. -/
def dropSpace : CodePoints → CodePoints
  | [] => []
  | p :: rest => if p.toChar?.any isSpace then dropSpace rest else p :: rest

/-- Read the characters of a token. -/
def readToken : CodePoints → List Char × CodePoints
  | .char c :: rest =>
      if isToken c then (c :: (readToken rest).1, (readToken rest).2) else ([], .char c :: rest)
  | text => ([], text)

/-- Read a string behind its quote. -/
def readQuoted (rest : CodePoints) : Option (S × CodePoints) :=
  match readString (rest.length + 1) rest with
  | some (text, rest) => (JsonString.ofPoints text).map fun s => (s, rest)
  | none => none

/-- Read a key and the colon behind it. -/
def readKey (text : CodePoints) : Option (S × CodePoints) :=
  match dropSpace text with
  | [] => none
  | p :: rest =>
      if p = .char '"' then
        match readQuoted rest with
        | none => none
        | some (k, rest) =>
            match dropSpace rest with
            | [] => none
            | p :: rest => if p = .char ':' then some (k, rest) else none
      else none

mutual

/-- Read a value; each level of nesting and each item takes one of the fuel. -/
def readValue : ℕ → CodePoints → Option (Json S F × CodePoints)
  | 0, _ => none
  | fuel + 1, text =>
      match dropSpace text with
      | [] => none
      | p :: rest =>
          if p = .char '"' then
            (readQuoted rest).map fun out => (.str out.1, out.2)
          else if p = .char '[' then
            (readList fuel rest).map fun out => (.list out.1, out.2)
          else if p = .char '{' then
            (readDict fuel rest).map fun out => (.dict out.1, out.2)
          else
            (readScalar N (readToken (p :: rest)).1).map fun v => (v, (readToken (p :: rest)).2)

/-- Read what follows an opening bracket. -/
def readList : ℕ → CodePoints → Option (List (Json S F) × CodePoints)
  | 0, _ => none
  | fuel + 1, text =>
      match dropSpace text with
      | [] => none
      | p :: rest =>
          if p = .char ']' then some ([], rest)
          else
            match readValue fuel (p :: rest) with
            | none => none
            | some (v, rest) => (readItems fuel rest).map fun out => (v :: out.1, out.2)

/-- Read what follows an item. -/
def readItems : ℕ → CodePoints → Option (List (Json S F) × CodePoints)
  | 0, _ => none
  | fuel + 1, text =>
      match dropSpace text with
      | [] => none
      | p :: rest =>
          if p = .char ']' then some ([], rest)
          else if p = .char ',' then
            match readValue fuel rest with
            | none => none
            | some (v, rest) => (readItems fuel rest).map fun out => (v :: out.1, out.2)
          else none

/-- Read what follows an opening brace. -/
def readDict : ℕ → CodePoints → Option (List (S × Json S F) × CodePoints)
  | 0, _ => none
  | fuel + 1, text =>
      match dropSpace text with
      | [] => none
      | p :: rest =>
          if p = .char '}' then some ([], rest)
          else
            match readKey (p :: rest) with
            | none => none
            | some (k, rest) =>
                match readValue fuel rest with
                | none => none
                | some (v, rest) => (readFields fuel rest).map fun out => ((k, v) :: out.1, out.2)

/-- Read what follows a field. -/
def readFields : ℕ → CodePoints → Option (List (S × Json S F) × CodePoints)
  | 0, _ => none
  | fuel + 1, text =>
      match dropSpace text with
      | [] => none
      | p :: rest =>
          if p = .char '}' then some ([], rest)
          else if p = .char ',' then
            match readKey rest with
            | none => none
            | some (k, rest) =>
                match readValue fuel rest with
                | none => none
                | some (v, rest) => (readFields fuel rest).map fun out => ((k, v) :: out.1, out.2)
          else none

end

/-- Read a whole text. -/
def parse (text : CodePoints) : Option (Json S F) :=
  match readValue N text.length text with
  | some (v, rest) => if dropSpace rest = [] then some v else none
  | none => none

/-! ## Reading what was written -/

mutual

/-- What is read where the value was written. -/
def joined : Json S F → Json S F
  | .str s => .str (JsonString.joined s)
  | .list items => .list (joinedItems items)
  | .dict fields => .dict (joinedFields fields)
  | v => v

/-- `joined` of every item. -/
def joinedItems : List (Json S F) → List (Json S F)
  | [] => []
  | v :: rest => v.joined :: joinedItems rest

/-- `joined` of every key and value. -/
def joinedFields : List (S × Json S F) → List (S × Json S F)
  | [] => []
  | (k, v) :: rest => (JsonString.joined k, v.joined) :: joinedFields rest

end

mutual

/-- A value is read as itself if its strings are.  Kind: L -/
theorem joined_eq (h : ∀ s : S, JsonString.joined s = s) : (v : Json S F) → v.joined = v
  | .null => by rw [joined] <;> exact nofun
  | .bool _ => by rw [joined] <;> exact nofun
  | .int _ => by rw [joined] <;> exact nofun
  | .float _ => by rw [joined] <;> exact nofun
  | .str s => by rw [joined, h]
  | .list items => by rw [joined, joinedItems_eq h items]
  | .dict fields => by rw [joined, joinedFields_eq h fields]

/-- Items whose strings have no halves to join stay as they are.  Kind: L -/
theorem joinedItems_eq (h : ∀ s : S, JsonString.joined s = s) :
    (items : List (Json S F)) → joinedItems items = items
  | [] => by rw [joinedItems]
  | v :: rest => by rw [joinedItems, joined_eq h v, joinedItems_eq h rest]

/-- Fields whose strings have no halves to join stay as they are.  Kind: L -/
theorem joinedFields_eq (h : ∀ s : S, JsonString.joined s = s) :
    (fields : List (S × Json S F)) → joinedFields fields = fields
  | [] => by rw [joinedFields]
  | (k, v) :: rest => by rw [joinedFields, h, joined_eq h v, joinedFields_eq h rest]

end

variable {N}

/-- A token ends here. -/
def Stops (text : CodePoints) : Prop := ∀ p ∈ text.head?, p.toChar?.any isToken = false

theorem stops_nil : Stops [] := fun _ h => by cases h

theorem stops_cons {c : Char} {text : CodePoints} (h : isToken c = false) :
    Stops (.char c :: text) := by
  rintro d ⟨⟩
  exact h

/-- A character of a token is no white space and no sign.  Kind: L -/
theorem ne_of_isToken {c : Char} (h : isToken c = true) :
    isSpace c = false ∧ c ≠ '"' ∧ c ≠ '[' ∧ c ≠ '{' ∧ c ≠ ']' ∧ c ≠ '}' := by
  have hsign : ∀ d, isToken d = false → c ≠ d := by
    rintro d hd rfl
    cases hd.symm.trans h
  refine ⟨?_, hsign _ rfl, hsign _ rfl, hsign _ rfl, hsign _ rfl, hsign _ rfl⟩
  unfold isToken at h
  rw [Bool.not_eq_true'] at h
  simp only [Bool.or_eq_false_iff] at h
  exact h.1.1.1.1.1.1.1

theorem dropSpace_cons {c : Char} (h : isSpace c = false) (text : CodePoints) :
    dropSpace (.char c :: text) = .char c :: text := by
  rw [dropSpace, CodePoint.toChar?, Option.any_some, h, if_neg Bool.false_ne_true]

/-- The blank of the spaced form is skipped.  Kind: L -/
theorem dropSpace_separator (spaced : Bool) (text : CodePoints) :
    dropSpace (chars (if spaced then [' '] else []) ++ text) = dropSpace text := by
  cases spaced <;> rfl

/-- Different characters are different code points.  Kind: L -/
theorem char_ne {c d : Char} (h : c ≠ d) : CodePoint.char c ≠ .char d :=
  fun heq => h (CodePoint.char.inj heq)

/-- A token is read up to its end.  Kind: L -/
theorem readToken_append {token : List Char} {rest : CodePoints}
    (htoken : ∀ c ∈ token, isToken c = true) (hrest : Stops rest) :
    readToken (chars token ++ rest) = (token, rest) := by
  induction token with
  | nil =>
      cases rest with
      | nil => rfl
      | cons p rest =>
          cases p with
          | char c =>
              have hc : isToken c = false := hrest _ rfl
              rw [chars_nil, List.nil_append, readToken, hc, if_neg Bool.false_ne_true]
          | high n => rfl
          | low n => rfl
  | cons c token ih =>
      rw [chars_cons, List.cons_append, readToken, if_pos (htoken c List.mem_cons_self),
        ih fun d hd => htoken d (List.mem_cons_of_mem _ hd)]

/-- A value that is one token is read from it.  Kind: L -/
theorem readValue_token {token : List Char} {rest : CodePoints} {v : Json S F} {fuel : ℕ}
    (htoken : ∀ c ∈ token, isToken c = true) (hne : token ≠ [])
    (hscalar : readScalar N token = some v) (hrest : Stops rest) :
    readValue N (fuel + 1) (chars token ++ rest) = some (v, rest) := by
  have hread := readToken_append htoken hrest
  cases token with
  | nil => exact absurd rfl hne
  | cons c token =>
      obtain ⟨hspace, hquote, hlist, hdict, -, -⟩ := ne_of_isToken (htoken c List.mem_cons_self)
      rw [chars_cons, List.cons_append] at hread ⊢
      unfold readValue
      rw [dropSpace_cons hspace]
      dsimp only
      rw [if_neg (char_ne hquote), if_neg (char_ne hlist), if_neg (char_ne hdict), hread, hscalar]
      rfl

omit [JsonString S] in

/-- The text of an integer reads as that integer.  Kind: L -/
theorem readScalar_writeInt (n : ℤ) :
    readScalar N (writeInt n) = some (.int n : Json S F) := by
  have hne : ∀ token, readInt token = none → writeInt n ≠ token := by
    rintro token hnone rfl
    cases hnone.symm.trans (readInt_writeInt n)
  unfold readScalar
  rw [if_neg (hne _ rfl), if_neg (hne _ rfl), if_neg (hne _ rfl), readInt_writeInt]

omit [JsonString S] in

/-- The text of a real number reads as that number.  Kind: L -/
theorem readScalar_text (x : F) : readScalar N (N.text x) = some (.float x : Json S F) := by
  have hne := N.text_ne_constant x
  simp only [List.mem_cons, List.not_mem_nil, or_false, not_or] at hne
  unfold readScalar
  rw [if_neg hne.1, if_neg hne.2.1, if_neg hne.2.2, N.readInt_text, N.read_text]
  rfl

theorem writeInt_ne_nil (n : ℤ) : writeInt n ≠ [] := by
  intro hnil
  cases (congrArg readInt hnil).symm.trans (readInt_writeInt n)

/-- A value starts with a character that is no white space and closes nothing.  Kind: L -/
theorem write_cons (spaced : Bool) (v : Json S F) :
    ∃ c text, write N spaced v = c :: text ∧ isSpace c = false ∧ c ≠ ']' ∧ c ≠ '}' := by
  have htoken : ∀ token : List Char, token ≠ [] → (∀ c ∈ token, isToken c = true) →
      ∃ c text, token = c :: text ∧ isSpace c = false ∧ c ≠ ']' ∧ c ≠ '}' := by
    intro token hne hall
    cases token with
    | nil => exact absurd rfl hne
    | cons c text =>
        obtain ⟨hspace, -, -, -, hlist, hdict⟩ := ne_of_isToken (hall c List.mem_cons_self)
        exact ⟨c, text, rfl, hspace, hlist, hdict⟩
  cases v with
  | null => exact ⟨'n', _, rfl, by decide⟩
  | bool b =>
      cases b
      · exact ⟨'f', _, rfl, by decide⟩
      · exact ⟨'t', _, rfl, by decide⟩
  | int n => exact htoken _ (writeInt_ne_nil n) fun c hc => isToken_of_mem_writeInt hc
  | float x => exact htoken _ (N.text_ne_nil x) (N.token x)
  | str s => exact ⟨'"', _, rfl, by decide⟩
  | list items => exact ⟨'[', _, rfl, by decide⟩
  | dict fields => exact ⟨'{', _, rfl, by decide⟩

/-- A string is read as it was written, with the halves joined that meet.  Kind: L -/
theorem readQuoted_write (s : S) (rest : CodePoints) :
    readQuoted (chars ((JsonString.points s).flatMap writePoint) ++ .char '"' :: rest) =
      some (JsonString.joined s, rest) := by
  have hlt : (JsonString.points s).length <
      (chars ((JsonString.points s).flatMap writePoint) ++ .char '"' :: rest).length + 1 := by
    have hle := length_le_flatMap writePoint_ne_nil (JsonString.points s)
    rw [List.length_append, length_chars]
    omega
  unfold readQuoted
  rw [readString_write _ hlt]
  dsimp only
  rw [JsonString.ofPoints_joinHalves, Option.map_some]

/-- A written key reads back, its halves joined.  Kind: L -/
theorem readKey_write (spaced : Bool) (k : S) (rest : CodePoints) :
    readKey (chars (writeString (JsonString.points k)) ++ (chars (separator spaced ':') ++ rest)) =
      some (JsonString.joined k, chars (if spaced then [' '] else []) ++ rest) := by
  unfold readKey writeString separator
  simp only [chars_cons, chars_append, chars_nil, List.cons_append, List.append_assoc,
    List.nil_append]
  rw [dropSpace_cons rfl]
  dsimp only
  rw [if_pos rfl, readQuoted_write]
  dsimp only
  rw [dropSpace_cons rfl]
  dsimp only
  rw [if_pos rfl]

/-- The blank of the spaced form in front of a value is skipped.  Kind: L -/
theorem readValue_separator (spaced : Bool) (fuel : ℕ) (text : CodePoints) :
    readValue N fuel (chars (if spaced then [' '] else []) ++ text) =
      (readValue N fuel text : Option (Json S F × CodePoints)) := by
  cases fuel with
  | zero => rw [readValue, readValue]
  | succ fuel => rw [readValue, readValue, dropSpace_separator]

/-- The blank of the spaced form in front of a key is skipped.  Kind: L -/
theorem readKey_separator (spaced : Bool) (text : CodePoints) :
    readKey (chars (if spaced then [' '] else []) ++ text) =
      (readKey text : Option (S × CodePoints)) := by
  unfold readKey
  rw [dropSpace_separator]

/-- A token stops before the rest of a list.  Kind: L -/
theorem stops_writeItems (spaced : Bool) (items : List (Json S F)) (rest : CodePoints) :
    Stops (chars (writeItems N spaced items) ++ rest) := by
  cases items
  · rw [writeItems]
    exact stops_cons rfl
  · rw [writeItems]
    exact stops_cons rfl

/-- A token stops before the rest of an object.  Kind: L -/
theorem stops_writeFields (spaced : Bool) (fields : List (S × Json S F)) (rest : CodePoints) :
    Stops (chars (writeFields N spaced fields) ++ rest) := by
  cases fields
  · rw [writeFields]
    exact stops_cons rfl
  · rw [writeFields]
    exact stops_cons rfl

/-- A value has a text.  Kind: L -/
theorem write_length_pos (spaced : Bool) (v : Json S F) : 0 < (write N spaced v).length := by
  obtain ⟨c, text, heq, -⟩ := write_cons (N := N) spaced v
  rw [heq]
  exact Nat.succ_pos _

/-- The rest of a list has a text.  Kind: L -/
theorem length_writeItems_pos (spaced : Bool) (items : List (Json S F)) :
    0 < (writeItems N spaced items).length := by
  cases items
  · rw [writeItems]
    exact Nat.succ_pos _
  · rw [writeItems]
    exact Nat.succ_pos _

/-- A string is read as a value.  Kind: L -/
theorem readValue_writeString (s : S) (fuel : ℕ) (rest : CodePoints) :
    readValue N (fuel + 1) (chars (writeString (JsonString.points s)) ++ rest) =
      some (.str (JsonString.joined s), rest) := by
  unfold readValue writeString
  simp only [chars_cons, chars_append, chars_nil, List.cons_append, List.append_assoc,
    List.nil_append]
  rw [dropSpace_cons rfl]
  dsimp only
  rw [if_pos rfl, readQuoted_write]
  rfl

mutual

/-- What is read of a written value, whatever follows it.  Kind: L -/
theorem readValue_write (spaced : Bool) : (v : Json S F) → ∀ (fuel : ℕ) (rest : CodePoints),
    (write N spaced v).length ≤ fuel → Stops rest →
      readValue N fuel (chars (write N spaced v) ++ rest) = some (v.joined, rest)
  | v, 0, rest, hfuel, hrest =>
      absurd hfuel (Nat.not_le_of_gt (write_length_pos spaced v))
  | .null, fuel + 1, rest, hfuel, hrest => by
      rw [write, joined.eq_4 _ (by exact nofun) (by exact nofun) (by exact nofun)]
      exact readValue_token (List.all_eq_true.mp rfl) (by decide) rfl hrest
  | .bool true, fuel + 1, rest, hfuel, hrest => by
      rw [write, joined.eq_4 _ (by exact nofun) (by exact nofun) (by exact nofun)]
      exact readValue_token (List.all_eq_true.mp rfl) (by decide) rfl hrest
  | .bool false, fuel + 1, rest, hfuel, hrest => by
      rw [write, joined.eq_4 _ (by exact nofun) (by exact nofun) (by exact nofun)]
      exact readValue_token (List.all_eq_true.mp rfl) (by decide) rfl hrest
  | .int n, fuel + 1, rest, hfuel, hrest => by
      rw [write, joined.eq_4 _ (by exact nofun) (by exact nofun) (by exact nofun)]
      exact readValue_token (fun c hc => isToken_of_mem_writeInt hc) (writeInt_ne_nil n)
        (readScalar_writeInt n) hrest
  | .float x, fuel + 1, rest, hfuel, hrest => by
      rw [write, joined.eq_4 _ (by exact nofun) (by exact nofun) (by exact nofun)]
      exact readValue_token (N.token x) (N.text_ne_nil x) (readScalar_text x) hrest
  | .str s, fuel + 1, rest, hfuel, hrest => by
      rw [write, joined]
      exact readValue_writeString s fuel rest
  | .list items, fuel + 1, rest, hfuel, hrest => by
      rw [write, List.length_cons] at hfuel
      rw [write, chars_cons, List.cons_append, readValue, dropSpace_cons rfl]
      dsimp only
      rw [if_neg (by decide), if_pos rfl,
        readList_write spaced items fuel rest (Nat.le_of_succ_le_succ hfuel), joined]
      rfl
  | .dict fields, fuel + 1, rest, hfuel, hrest => by
      rw [write, List.length_cons] at hfuel
      rw [write, chars_cons, List.cons_append, readValue, dropSpace_cons rfl]
      dsimp only
      rw [if_neg (by decide), if_neg (by decide), if_pos rfl,
        readDict_write spaced fields fuel rest (Nat.le_of_succ_le_succ hfuel), joined]
      rfl

/-- A written list reads back.  Kind: L -/
theorem readList_write (spaced : Bool) :
    (items : List (Json S F)) → ∀ (fuel : ℕ) (rest : CodePoints),
    (writeList N spaced items).length ≤ fuel →
      readList N fuel (chars (writeList N spaced items) ++ rest) = some (joinedItems items, rest)
  | [], 0, rest, hfuel => by
      rw [writeList] at hfuel
      exact absurd hfuel (by decide)
  | [], fuel + 1, rest, hfuel => by
      rw [writeList, chars_cons, chars_nil, List.singleton_append, readList, dropSpace_cons rfl]
      dsimp only
      rw [if_pos rfl, joinedItems]
  | v :: items, 0, rest, hfuel => by
      have hpos := write_length_pos (N := N) spaced v
      rw [writeList, List.length_append] at hfuel
      omega
  | v :: items, fuel + 1, rest, hfuel => by
      have hpos := write_length_pos (N := N) spaced v
      rw [writeList, List.length_append] at hfuel
      have hitems : (writeItems N spaced items).length ≤ fuel := by omega
      have hv : (write N spaced v).length ≤ fuel := by
        have := length_writeItems_pos (N := N) spaced items
        omega
      obtain ⟨c, text, heq, hspace, hlist, -⟩ := write_cons (N := N) spaced v
      have hread := readValue_write spaced v fuel (chars (writeItems N spaced items) ++ rest) hv
        (stops_writeItems spaced items rest)
      rw [writeList, chars_append, List.append_assoc]
      rw [heq, chars_cons, List.cons_append] at hread ⊢
      rw [readList, dropSpace_cons hspace]
      dsimp only
      rw [if_neg (char_ne hlist), hread]
      dsimp only
      rw [readItems_write spaced items fuel rest hitems, joinedItems]
      rfl

/-- The rest of a written list reads back.  Kind: L -/
theorem readItems_write (spaced : Bool) :
    (items : List (Json S F)) → ∀ (fuel : ℕ) (rest : CodePoints),
    (writeItems N spaced items).length ≤ fuel →
      readItems N fuel (chars (writeItems N spaced items) ++ rest) =
        some (joinedItems items, rest)
  | [], 0, rest, hfuel => by
      rw [writeItems] at hfuel
      exact absurd hfuel (by decide)
  | [], fuel + 1, rest, hfuel => by
      rw [writeItems, chars_cons, chars_nil, List.singleton_append, readItems, dropSpace_cons rfl]
      dsimp only
      rw [if_pos rfl, joinedItems]
  | v :: items, 0, rest, hfuel => by
      have hpos := write_length_pos (N := N) spaced v
      rw [writeItems, List.length_append, List.length_append] at hfuel
      omega
  | v :: items, fuel + 1, rest, hfuel => by
      have hsep : 0 < (separator spaced ',').length := Nat.succ_pos _
      have hpos := write_length_pos (N := N) spaced v
      rw [writeItems, List.length_append, List.length_append] at hfuel
      rw [writeItems, chars_append, chars_append, List.append_assoc, List.append_assoc, separator,
        chars_cons, List.cons_append, readItems, dropSpace_cons rfl]
      dsimp only
      rw [if_neg (by decide), if_pos rfl, readValue_separator,
        readValue_write spaced v fuel _ (by omega) (stops_writeItems spaced items rest)]
      dsimp only
      rw [readItems_write spaced items fuel rest (by omega), joinedItems]
      rfl

/-- A written object reads back.  Kind: L -/
theorem readDict_write (spaced : Bool) :
    (fields : List (S × Json S F)) → ∀ (fuel : ℕ) (rest : CodePoints),
    (writeDict N spaced fields).length ≤ fuel →
      readDict N fuel (chars (writeDict N spaced fields) ++ rest) =
        some (joinedFields fields, rest)
  | [], 0, rest, hfuel => by
      rw [writeDict] at hfuel
      exact absurd hfuel (by decide)
  | [], fuel + 1, rest, hfuel => by
      rw [writeDict, chars_cons, chars_nil, List.singleton_append, readDict, dropSpace_cons rfl]
      dsimp only
      rw [if_pos rfl, joinedFields]
  | (k, v) :: fields, 0, rest, hfuel => by
      have hpos := write_length_pos (N := N) spaced v
      rw [writeDict, List.length_append, List.length_append, List.length_append] at hfuel
      omega
  | (k, v) :: fields, fuel + 1, rest, hfuel => by
      have hkey : 0 < (writeString (JsonString.points k)).length := Nat.succ_pos _
      have hpos := write_length_pos (N := N) spaced v
      have hread := readKey_write spaced k
        (chars (write N spaced v) ++ (chars (writeFields N spaced fields) ++ rest))
      rw [writeDict, List.length_append, List.length_append, List.length_append] at hfuel
      rw [writeDict]
      simp only [chars_append, List.append_assoc]
      rw [writeString, chars_cons, List.cons_append] at hread ⊢
      rw [readDict, dropSpace_cons rfl]
      dsimp only
      rw [if_neg (by decide), hread]
      dsimp only
      rw [readValue_separator,
        readValue_write spaced v fuel _ (by omega) (stops_writeFields spaced fields rest)]
      dsimp only
      rw [readFields_write spaced fields fuel rest (by omega), joinedFields]
      rfl

/-- The rest of a written object reads back.  Kind: L -/
theorem readFields_write (spaced : Bool) :
    (fields : List (S × Json S F)) → ∀ (fuel : ℕ) (rest : CodePoints),
    (writeFields N spaced fields).length ≤ fuel →
      readFields N fuel (chars (writeFields N spaced fields) ++ rest) =
        some (joinedFields fields, rest)
  | [], 0, rest, hfuel => by
      rw [writeFields] at hfuel
      exact absurd hfuel (by decide)
  | [], fuel + 1, rest, hfuel => by
      rw [writeFields, chars_cons, chars_nil, List.singleton_append, readFields, dropSpace_cons rfl]
      dsimp only
      rw [if_pos rfl, joinedFields]
  | (k, v) :: fields, 0, rest, hfuel => by
      have hpos := write_length_pos (N := N) spaced v
      rw [writeFields, List.length_append, List.length_append, List.length_append,
        List.length_append] at hfuel
      omega
  | (k, v) :: fields, fuel + 1, rest, hfuel => by
      have hpos := write_length_pos (N := N) spaced v
      have hsep : 0 < (separator spaced ',').length := Nat.succ_pos _
      have hread := readKey_write spaced k
        (chars (write N spaced v) ++ (chars (writeFields N spaced fields) ++ rest))
      rw [writeFields, List.length_append, List.length_append, List.length_append,
        List.length_append] at hfuel
      rw [writeFields, separator.eq_1 spaced ',']
      simp only [chars_append, chars_cons, List.cons_append, List.append_assoc]
      rw [readFields, dropSpace_cons rfl]
      dsimp only
      rw [if_neg (by decide), if_pos rfl, readKey_separator, hread]
      dsimp only
      rw [readValue_separator,
        readValue_write spaced v fuel _ (by omega) (stops_writeFields spaced fields rest)]
      dsimp only
      rw [readFields_write spaced fields fuel rest (by omega), joinedFields]
      rfl

end

/-- What is read of a written value.  Kind: L -/
theorem parse_write (spaced : Bool) (v : Json S F) :
    parse N (chars (write N spaced v)) = some v.joined := by
  have hread := readValue_write (N := N) spaced v (chars (write N spaced v)).length []
    (length_chars _).ge stops_nil
  rw [List.append_nil] at hread
  unfold parse
  rw [hread]
  rfl

end write

variable {N}

/-! ## One value for each key -/

section keys

variable [DecidableEq S]

mutual

/-- Of several values for one key the last counts, at the place of the first. -/
def lastWins : Json S F → Json S F
  | .list items => .list (lastWinsItems items)
  | .dict fields => .dict (Dict.ofList (lastWinsFields fields)).entries
  | v => v

/-- `lastWins` in every item. -/
def lastWinsItems : List (Json S F) → List (Json S F)
  | [] => []
  | v :: rest => v.lastWins :: lastWinsItems rest

/-- `lastWins` in the value of every field. -/
def lastWinsFields : List (S × Json S F) → List (S × Json S F)
  | [] => []
  | (k, v) :: rest => (k, v.lastWins) :: lastWinsFields rest

end

mutual

/-- No object has two values for one key. -/
def Distinct : Json S F → Prop
  | .list items => DistinctItems items
  | .dict fields => (fields.map Prod.fst).Nodup ∧ DistinctFields fields
  | _ => True

/-- No object in an item has two values for one key. -/
def DistinctItems : List (Json S F) → Prop
  | [] => True
  | v :: rest => v.Distinct ∧ DistinctItems rest

/-- No object in a field has two values for one key. -/
def DistinctFields : List (S × Json S F) → Prop
  | [] => True
  | (_, v) :: rest => v.Distinct ∧ DistinctFields rest

end

mutual

/-- A value with distinct keys is what its reading keeps.  Kind: L -/
theorem lastWins_of_distinct : (v : Json S F) → v.Distinct → v.lastWins = v
  | .null, _ => by rw [lastWins]; all_goals exact nofun
  | .bool _, _ => by rw [lastWins]; all_goals exact nofun
  | .int _, _ => by rw [lastWins]; all_goals exact nofun
  | .float _, _ => by rw [lastWins]; all_goals exact nofun
  | .str _, _ => by rw [lastWins]; all_goals exact nofun
  | .list items, h => by
      rw [Distinct] at h
      rw [lastWins, lastWinsItems_of_distinct items h]
  | .dict fields, h => by
      rw [Distinct] at h
      rw [lastWins, lastWinsFields_of_distinct fields h.2, Dict.entries_ofList h.1]

/-- Items with distinct keys are what their reading keeps.  Kind: L -/
theorem lastWinsItems_of_distinct :
    (items : List (Json S F)) → DistinctItems items → lastWinsItems items = items
  | [], _ => by rw [lastWinsItems]
  | v :: rest, h => by
      rw [DistinctItems] at h
      rw [lastWinsItems, lastWins_of_distinct v h.1, lastWinsItems_of_distinct rest h.2]

/-- Fields with distinct keys are what their reading keeps.  Kind: L -/
theorem lastWinsFields_of_distinct :
    (fields : List (S × Json S F)) → DistinctFields fields → lastWinsFields fields = fields
  | [], _ => by rw [lastWinsFields]
  | (k, v) :: rest, h => by
      rw [DistinctFields] at h
      rw [lastWinsFields, lastWins_of_distinct v h.1, lastWinsFields_of_distinct rest h.2]

end

end keys

/-! ## Long integers -/

/-- The integer has no more digits than the limit, if there is one. -/
def withinDigits (limit : Option ℕ) (n : ℤ) : Bool := limit.all fun digits => n.natAbs < 10 ^ digits

mutual

/-- No integer has more digits than the limit. -/
def intsWithin (limit : Option ℕ) : Json S F → Bool
  | .int n => withinDigits limit n
  | .list items => intsWithinItems limit items
  | .dict fields => intsWithinFields limit fields
  | _ => true

/-- `intsWithin` of every item. -/
def intsWithinItems (limit : Option ℕ) : List (Json S F) → Bool
  | [] => true
  | v :: rest => v.intsWithin limit && intsWithinItems limit rest

/-- `intsWithin` of the value of every field. -/
def intsWithinFields (limit : Option ℕ) : List (S × Json S F) → Bool
  | [] => true
  | (_, v) :: rest => v.intsWithin limit && intsWithinFields limit rest

end

/-- An integer that `lastWins` leaves was there before.  Kind: L -/
theorem withinDigits_of_mem_lastWinsFields [DecidableEq S] {limit : Option ℕ}
    {fields : List (S × Json S F)} (h : intsWithinFields limit fields = true) {k : S} {n : ℤ}
    (hmem : (k, .int n) ∈ lastWinsFields fields) : withinDigits limit n = true := by
  induction fields with
  | nil =>
      rw [lastWinsFields] at hmem
      cases hmem
  | cons field rest ih =>
      obtain ⟨k', v⟩ := field
      rw [intsWithinFields, Bool.and_eq_true] at h
      rw [lastWinsFields, List.mem_cons] at hmem
      rcases hmem with heq | hmem
      · have hv : v = .int n := by
          have hwins : v.lastWins = .int n := (congrArg Prod.snd heq).symm
          rcases v with _ | b | m | x | s | items | fields <;> simp only [lastWins] at hwins <;>
            cases hwins
          rfl
        rw [hv, intsWithin] at h
        exact h.1
      · exact ih h.2 hmem

/-! ## Reading a text -/

section loads

variable [JsonString S] [DecidableEq S] {limit : Option ℕ}

variable (N limit) in
/-- The value of a text whose integers are within the limit. -/
def loads (text : CodePoints) : Option (Json S F) :=
  (parse N text).bind fun v => if v.intsWithin limit then some v.lastWins else none

/-- A value with distinct keys is its own text's value, if its strings are read as themselves and
its integers are within the limit.  Kind: L -/
theorem loads_write (spaced : Bool) {v : Json S F} (h : v.Distinct) (hjoined : v.joined = v)
    (hwithin : v.intsWithin limit = true) :
    loads N limit (chars (write N spaced v)) = some v := by
  unfold loads
  rw [parse_write, hjoined, Option.bind_some, if_pos hwithin, lastWins_of_distinct v h]

theorem loads_of_parse {text : CodePoints} {v : Json S F} (h : parse N text = some v)
    (hwithin : v.intsWithin limit = true) : loads N limit text = some v.lastWins := by
  unfold loads
  rw [h, Option.bind_some, if_pos hwithin]

/-- An integer in a field of what was read was short enough.  Kind: L -/
theorem withinDigits_of_loads {text : CodePoints} {fields : List (S × Json S F)} {k : S} {n : ℤ}
    (h : loads N limit text = some (.dict fields)) (hmem : (k, .int n) ∈ fields) :
    withinDigits limit n = true := by
  unfold loads at h
  rw [Option.bind_eq_some_iff] at h
  obtain ⟨v, -, h⟩ := h
  split at h
  · rename_i hwithin
    rw [Option.some.injEq] at h
    cases v with
    | dict entries =>
        rw [lastWins, dict.injEq] at h
        rw [intsWithin] at hwithin
        rw [← h] at hmem
        exact withinDigits_of_mem_lastWinsFields hwithin (Dict.mem_of_get?_ofList
          ((Dict.get?_eq_some_iff _).mpr hmem))
    | _ => rw [lastWins] at h <;> cases h
  · cases h

end loads

/-! ## The canonical text -/

section canonical

variable [JsonString S]

/-- The fields are in order: by the numbers of the code points of their keys. -/
def keyLE (p q : S × Json S F) : Prop :=
  (JsonString.points p.1).map CodePoint.toNat ≤ (JsonString.points q.1).map CodePoint.toNat

instance : DecidableRel (keyLE (S := S) (F := F)) := fun p q =>
  inferInstanceAs (Decidable ((JsonString.points p.1).map CodePoint.toNat ≤
    (JsonString.points q.1).map CodePoint.toNat))

/-- The value of a key: that of its first field. -/
def lookup [DecidableEq S] (key : S) : List (S × Json S F) → Option (Json S F)
  | [] => none
  | (k, v) :: rest => if k = key then some v else lookup key rest

/-- The fields in the order of their keys. -/
def sortKeys (fields : List (S × Json S F)) : List (S × Json S F) :=
  fields.insertionSort keyLE

mutual

/-- The value with the fields of every object in the order of their keys: what is left of it when
that order is forgotten. -/
def sorted : Json S F → Json S F
  | .list items => .list (sortedItems items)
  | .dict fields => .dict (sortKeys (sortedFields fields))
  | v => v

/-- Every item `sorted`. -/
def sortedItems : List (Json S F) → List (Json S F)
  | [] => []
  | v :: rest => v.sorted :: sortedItems rest

/-- The value of every field `sorted`. -/
def sortedFields : List (S × Json S F) → List (S × Json S F)
  | [] => []
  | (k, v) :: rest => (k, v.sorted) :: sortedFields rest

end

variable (N) in
/-- The text without blanks and with sorted keys. -/
def canonical (v : Json S F) : List Char := write N false v.sorted

/-- The canonical text determines the value up to the order of its keys, if its strings are read as
themselves.  Kind: L -/
theorem canonical_injective (hjoined : ∀ s : S, JsonString.joined s = s) {v w : Json S F}
    (h : canonical N v = canonical N w) : v.sorted = w.sorted := by
  have hread := congrArg (fun text => (parse N (chars text) : Option (Json S F))) h
  unfold canonical at hread
  rw [parse_write, parse_write, joined_eq hjoined, joined_eq hjoined] at hread
  exact Option.some.inj hread

section lookup

variable [DecidableEq S]

omit [JsonString S] in
/-- What is found is a field.  Kind: L -/
theorem mem_of_lookup {key : S} {v : Json S F} {fields : List (S × Json S F)}
    (h : lookup key fields = some v) : (key, v) ∈ fields := by
  induction fields with
  | nil => cases h
  | cons p rest ih =>
      rw [lookup] at h
      split_ifs at h with hkey
      · obtain rfl := Option.some.inj h
        exact hkey ▸ List.mem_cons_self
      · exact List.mem_cons_of_mem _ (ih h)

/-- A field keeps its value where another one is inserted in order.  Kind: L -/
theorem lookup_orderedInsert (key : S) (p : S × Json S F)
    (fields : List (S × Json S F)) :
    lookup key (fields.orderedInsert (keyLE) p) = lookup key (p :: fields) := by
  induction fields with
  | nil => rfl
  | cons q rest ih =>
      rw [List.orderedInsert_cons]
      split_ifs with hle
      · rfl
      · have hne : q.1 ≠ p.1 := fun heq => hle (by rw [keyLE, heq])
        rw [lookup, ih, lookup, lookup, lookup]
        split_ifs with hq hp
        · exact absurd (hq.trans hp.symm) hne
        · rfl
        · rfl
        · rfl

/-- Sorting does not change what a key stands for.  Kind: L -/
theorem lookup_sortKeys (key : S) (fields : List (S × Json S F)) :
    lookup key (sortKeys fields) = lookup key fields := by
  induction fields with
  | nil => rfl
  | cons p rest ih =>
      show lookup key ((sortKeys rest).orderedInsert (keyLE) p) = _
      rw [lookup_orderedInsert, lookup, lookup, ih]

/-- Sorting the values too, each key stands for its sorted value.  Kind: L -/
theorem lookup_sortedFields (key : S) (fields : List (S × Json S F)) :
    lookup key (sortedFields fields) = (lookup key fields).map sorted := by
  induction fields with
  | nil => rw [sortedFields]; rfl
  | cons p rest ih =>
      rw [sortedFields, lookup, lookup, ih]
      split_ifs <;> rfl

/-- Objects that are equal up to the order of their keys have equal fields, again up to order.
Kind: L -/
theorem lookup_of_sorted {fields fields' : List (S × Json S F)}
    (h : (Json.dict fields).sorted = (Json.dict fields').sorted) (key : S) :
    (lookup key fields).map sorted = (lookup key fields').map sorted := by
  rw [sorted, sorted, Json.dict.injEq] at h
  rw [← lookup_sortedFields, ← lookup_sortedFields, ← lookup_sortKeys, h, lookup_sortKeys]

end lookup

end canonical

/-! ## Other strings -/

section mapStrings

variable {T : Type} (f : S → T)

mutual

/-- The value with other strings. -/
def mapStrings : Json S F → Json T F
  | .null => .null
  | .bool b => .bool b
  | .int n => .int n
  | .float x => .float x
  | .str s => .str (f s)
  | .list items => .list (mapItems items)
  | .dict fields => .dict (mapFields fields)

/-- Every item with other strings. -/
def mapItems : List (Json S F) → List (Json T F)
  | [] => []
  | v :: rest => v.mapStrings :: mapItems rest

/-- Every field with other strings. -/
def mapFields : List (S × Json S F) → List (T × Json T F)
  | [] => []
  | (k, v) :: rest => (f k, v.mapStrings) :: mapFields rest

end

variable {f} [DecidableEq S] [DecidableEq T]

/-- Different keys stay different.  Kind: L -/
theorem lookup_mapFields (hf : Function.Injective f) (key : S) (fields : List (S × Json S F)) :
    lookup (f key) (mapFields f fields) = (lookup key fields).map (mapStrings f) := by
  induction fields with
  | nil => rw [mapFields]; rfl
  | cons p rest ih =>
      rw [mapFields, lookup, lookup, ih]
      by_cases hkey : p.1 = key
      · rw [if_pos hkey, if_pos (congrArg f hkey), Option.map_some]
      · rw [if_neg hkey, if_neg fun heq => hkey (hf heq)]

end mapStrings

end Json

end ExpraConnect.Lib
