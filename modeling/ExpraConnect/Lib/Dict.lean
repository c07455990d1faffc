import Mathlib.Data.List.Nodup
import Mathlib.Tactic

/-!
# Insertion-ordered dictionaries

`Dict κ ν` is a finite map that remembers the order in which its keys were first inserted:
writing to a key that is present keeps its place, writing to a new key appends, and deleting
closes the gap.  The key list is duplicate free by construction (`Dict.nodup`), so a dictionary
with two values under one key cannot be built and `values` lists every value once.

* `get?`, `insert`, `erase`, `filterEntries`, `ofList` and the equations between them;
* `size_insert`, `size_filterEntries_le`: how the number of entries moves;
* `insert_insert`, `insert_of_get?`, `erase_insert_of_fresh`: how a write is undone.
-/

set_option linter.unusedSectionVars false

namespace ExpraConnect.Lib

/-- An insertion-ordered dictionary.  Source: none: infrastructure.  Kind: D -/
structure Dict (κ ν : Type) where
  /-- The entries, oldest key first. -/
  entries : List (κ × ν)
  /-- No key occurs twice. -/
  nodup : (entries.map Prod.fst).Nodup
  deriving DecidableEq

namespace Dict

variable {κ ν : Type}

/-- Two dictionaries with the same entries are equal.  Kind: L -/
@[ext] theorem ext' {d e : Dict κ ν} (h : d.entries = e.entries) : d = e := by
  cases d; cases e; cases h; rfl

/-- The empty dictionary. -/
def empty : Dict κ ν := ⟨[], List.nodup_nil⟩

/-- The keys, oldest first. -/
def keys (d : Dict κ ν) : List κ := d.entries.map Prod.fst

/-- The values, in the order of their keys. -/
def values (d : Dict κ ν) : List ν := d.entries.map Prod.snd

/-- The number of entries. -/
def size (d : Dict κ ν) : ℕ := d.entries.length

variable [DecidableEq κ]

/-! ## Raw association lists -/

/-- The value stored under `k`. -/
def lookupRaw (k : κ) : List (κ × ν) → Option ν
  | [] => none
  | (k', v) :: l => if k' = k then some v else lookupRaw k l

/-- Write `v` under `k`, in place when `k` is present and at the end otherwise. -/
def insertRaw (k : κ) (v : ν) : List (κ × ν) → List (κ × ν)
  | [] => [(k, v)]
  | (k', v') :: l => if k' = k then (k, v) :: l else (k', v') :: insertRaw k v l

/-- Drop the entry of `k`. -/
def eraseRaw (k : κ) (l : List (κ × ν)) : List (κ × ν) := l.filter fun p => p.1 ≠ k

/-- The keys after a write: the written one and those before.  Kind: L -/
theorem mem_keys_insertRaw {k a : κ} {v : ν} {l : List (κ × ν)} :
    a ∈ (insertRaw k v l).map Prod.fst ↔ a = k ∨ a ∈ l.map Prod.fst := by
  induction l with
  | nil => simp [insertRaw]
  | cons p l ih =>
      obtain ⟨k', v'⟩ := p
      by_cases hk : k' = k
      · subst hk
        simp [insertRaw]
      · simp only [insertRaw, if_neg hk, List.map_cons, List.mem_cons, ih]
        tauto

/-- A write keeps the keys distinct.  Kind: L -/
theorem nodup_insertRaw {k : κ} {v : ν} {l : List (κ × ν)} (h : (l.map Prod.fst).Nodup) :
    ((insertRaw k v l).map Prod.fst).Nodup := by
  induction l with
  | nil => simp [insertRaw]
  | cons p l ih =>
      obtain ⟨k', v'⟩ := p
      simp only [List.map_cons, List.nodup_cons] at h
      by_cases hk : k' = k
      · subst hk
        simpa [insertRaw] using h
      · simp only [insertRaw, if_neg hk, List.map_cons, List.nodup_cons, mem_keys_insertRaw]
        exact ⟨fun hc => hc.elim hk h.1, ih h.2⟩

/-- What is read after a write.  Kind: L -/
theorem lookupRaw_insertRaw (k a : κ) (v : ν) (l : List (κ × ν)) :
    lookupRaw a (insertRaw k v l) = if k = a then some v else lookupRaw a l := by
  induction l with
  | nil => simp [insertRaw, lookupRaw]
  | cons p l ih =>
      obtain ⟨k', v'⟩ := p
      by_cases hk : k' = k
      · subst hk
        by_cases ha : k' = a <;> simp [insertRaw, lookupRaw, ha]
      · simp only [insertRaw, if_neg hk, lookupRaw, ih]
        by_cases ha : k' = a
        · subst ha
          simp [Ne.symm hk]
        · simp [ha]

/-- A key is missing if and only if no entry has it.  Kind: L -/
theorem lookupRaw_eq_none_iff {l : List (κ × ν)} {k : κ} :
    lookupRaw k l = none ↔ k ∉ l.map Prod.fst := by
  induction l with
  | nil => simp [lookupRaw]
  | cons p l ih =>
      obtain ⟨k', v'⟩ := p
      by_cases hk : k' = k
      · subst hk
        simp [lookupRaw]
      · simp only [lookupRaw, if_neg hk, ih, List.map_cons, List.mem_cons, not_or]
        exact ⟨fun hn => ⟨fun hc => hk hc.symm, hn⟩, fun hn => hn.2⟩

/-- A filter acts on what is read, where keys are distinct.  Kind: L -/
theorem lookupRaw_filter {q : κ × ν → Bool} {l : List (κ × ν)} (h : (l.map Prod.fst).Nodup)
    (a : κ) :
    lookupRaw a (l.filter q) = (lookupRaw a l).filter fun v => q (a, v) := by
  induction l with
  | nil => rfl
  | cons p l ih =>
      obtain ⟨k', v'⟩ := p
      simp only [List.map_cons, List.nodup_cons] at h
      by_cases ha : k' = a
      · subst ha
        cases hq : q (k', v') with
        | true => simp [hq, lookupRaw, Option.filter]
        | false =>
            -- a dropped entry must not be shadowing a later one with the same key
            have hsub : k' ∉ (l.filter q).map Prod.fst := by
              intro hc
              obtain ⟨r, hr, hr'⟩ := List.mem_map.mp hc
              exact h.1 (List.mem_map.mpr ⟨r, List.mem_of_mem_filter hr, hr'⟩)
            simp [hq, lookupRaw, lookupRaw_eq_none_iff.mpr hsub, Option.filter]
      · cases hq : q (k', v') <;> simp [hq, lookupRaw, ha, ih h.2]

/-- Where keys are distinct, what is read is what is listed.  Kind: L -/
theorem lookupRaw_eq_some_iff {l : List (κ × ν)} (h : (l.map Prod.fst).Nodup) {k : κ} {v : ν} :
    lookupRaw k l = some v ↔ (k, v) ∈ l := by
  induction l with
  | nil => simp [lookupRaw]
  | cons p l ih =>
      obtain ⟨k', v'⟩ := p
      simp only [List.map_cons, List.nodup_cons] at h
      by_cases hk : k' = k
      · subst hk
        have hno : (k', v) ∉ l := fun hc => h.1 (List.mem_map.mpr ⟨_, hc, rfl⟩)
        simp only [lookupRaw, if_true, Option.some.injEq, List.mem_cons, Prod.mk.injEq, true_and,
          hno, or_false]
        exact eq_comm
      · simp [lookupRaw, hk, ih h.2, Ne.symm hk]

/-- A write adds an entry exactly for a new key.  Kind: L -/
theorem length_insertRaw (k : κ) (v : ν) (l : List (κ × ν)) :
    (insertRaw k v l).length = if (lookupRaw k l).isSome then l.length else l.length + 1 := by
  induction l with
  | nil => simp [insertRaw, lookupRaw]
  | cons p l ih =>
      obtain ⟨k', v'⟩ := p
      by_cases hk : k' = k
      · subst hk
        simp [insertRaw, lookupRaw]
      · simp only [insertRaw, if_neg hk, lookupRaw, List.length_cons, ih]
        split <;> rfl

/-! ## The dictionary operations -/

/-- `d.get(k)`. -/
def get? (d : Dict κ ν) (k : κ) : Option ν := lookupRaw k d.entries

/-- `d[k] = v`. -/
def insert (d : Dict κ ν) (k : κ) (v : ν) : Dict κ ν :=
  ⟨insertRaw k v d.entries, nodup_insertRaw d.nodup⟩

/-- Keep the entries that satisfy `q`. -/
def filterEntries (d : Dict κ ν) (q : κ × ν → Bool) : Dict κ ν :=
  ⟨d.entries.filter q, (List.filter_sublist.map Prod.fst).nodup d.nodup⟩

/-- `d.pop(k, None)` or `del d[k]`. -/
def erase (d : Dict κ ν) (k : κ) : Dict κ ν := d.filterEntries fun p => p.1 ≠ k

/-- `k in d`. -/
def contains (d : Dict κ ν) (k : κ) : Bool := (d.get? k).isSome

/-- `{k: f(v) for k, v in d.items()}`. -/
def mapValues {μ : Type} (f : ν → μ) (d : Dict κ ν) : Dict κ μ :=
  ⟨d.entries.map fun p => (p.1, f p.2), by
    rw [List.map_map]
    exact d.nodup⟩

/-- `dict(pairs)`: later pairs overwrite earlier ones. -/
def ofList (l : List (κ × ν)) : Dict κ ν := l.foldl (fun d p => d.insert p.1 p.2) empty

/-- The empty dictionary has no key.  Kind: L -/
@[simp] theorem get?_empty (k : κ) : (empty : Dict κ ν).get? k = none := rfl

/-- The empty dictionary has no entry.  Kind: L -/
@[simp] theorem size_empty : (empty : Dict κ ν).size = 0 := rfl

/-- What is read after `d[k] = v`.  Kind: L -/
theorem get?_insert (d : Dict κ ν) (k a : κ) (v : ν) :
    (d.insert k v).get? a = if k = a then some v else d.get? a :=
  lookupRaw_insertRaw k a v d.entries

/-- A written key reads back.  Kind: L -/
@[simp] theorem get?_insert_self (d : Dict κ ν) (k : κ) (v : ν) :
    (d.insert k v).get? k = some v := by
  rw [get?_insert, if_pos rfl]

/-- A write leaves the other keys alone.  Kind: L -/
theorem get?_insert_of_ne (d : Dict κ ν) {k a : κ} (v : ν) (h : k ≠ a) :
    (d.insert k v).get? a = d.get? a := by
  rw [get?_insert, if_neg h]

/-- What a comprehension over the items keeps of a key.  Kind: L -/
theorem get?_filterEntries (d : Dict κ ν) (q : κ × ν → Bool) (a : κ) :
    (d.filterEntries q).get? a = (d.get? a).filter fun v => q (a, v) :=
  lookupRaw_filter d.nodup a

/-- A filter that looks at the key only.  Kind: L -/
theorem get?_filterKeys (d : Dict κ ν) (q : κ → Bool) (a : κ) :
    (d.filterEntries fun p => q p.1).get? a = if q a then d.get? a else none := by
  rw [get?_filterEntries]
  cases d.get? a with
  | none => simp
  | some v => simp [Option.filter]

/-- What is read after `d.pop(k, None)`.  Kind: L -/
theorem get?_erase (d : Dict κ ν) (k a : κ) :
    (d.erase k).get? a = if k = a then none else d.get? a := by
  rw [erase, get?_filterEntries]
  by_cases h : k = a
  · subst h
    cases d.get? k <;> simp
  · cases d.get? a <;> simp [h, Ne.symm h]

/-- A removed key is missing.  Kind: L -/
@[simp] theorem get?_erase_self (d : Dict κ ν) (k : κ) : (d.erase k).get? k = none := by
  rw [get?_erase, if_pos rfl]

/-- A removal leaves the other keys alone.  Kind: L -/
theorem get?_erase_of_ne (d : Dict κ ν) {k a : κ} (h : k ≠ a) :
    (d.erase k).get? a = d.get? a := by
  rw [get?_erase, if_neg h]

/-- The keys are those that can be read.  Kind: L -/
theorem mem_keys_iff (d : Dict κ ν) {k : κ} : k ∈ d.keys ↔ (d.get? k).isSome = true := by
  rw [← not_iff_not, Bool.not_eq_true, Option.isSome_eq_false_iff, Option.isNone_iff_eq_none]
  exact lookupRaw_eq_none_iff.symm

/-- The items are those that can be read.  Kind: L -/
theorem get?_eq_some_iff (d : Dict κ ν) {k : κ} {v : ν} :
    d.get? k = some v ↔ (k, v) ∈ d.entries :=
  lookupRaw_eq_some_iff d.nodup

/-- The values after a change of every value.  Kind: L -/
@[simp] theorem values_mapValues {μ : Type} (f : ν → μ) (d : Dict κ ν) :
    (d.mapValues f).values = d.values.map f := by
  simp [values, mapValues, Function.comp_def]

/-- What is read after writing a list was there before or is in the list.  Kind: L -/
theorem mem_of_get?_foldl_insert {l : List (κ × ν)} {d : Dict κ ν} {k : κ} {v : ν}
    (h : (l.foldl (fun d p => d.insert p.1 p.2) d).get? k = some v) :
    d.get? k = some v ∨ (k, v) ∈ l := by
  induction l generalizing d with
  | nil => exact .inl h
  | cons p l ih =>
      rcases ih h with hd | hl
      · rw [get?_insert] at hd
        split at hd
        · rename_i hk
          cases hd
          subst hk
          exact .inr List.mem_cons_self
        · exact .inl hd
      · exact .inr (List.mem_cons_of_mem _ hl)

/-- What `dict(pairs)` holds is one of the pairs.  Kind: L -/
theorem mem_of_get?_ofList {l : List (κ × ν)} {k : κ} {v : ν} (h : (ofList l).get? k = some v) :
    (k, v) ∈ l := by
  rcases mem_of_get?_foldl_insert h with h' | h'
  · simp at h'
  · exact h'

/-- Insertions drop no key.  Kind: L -/
theorem isSome_get?_foldl_insert {l : List (κ × ν)} {d : Dict κ ν} {k : κ}
    (h : (d.get? k).isSome = true ∨ k ∈ l.map Prod.fst) :
    ((l.foldl (fun d p => d.insert p.1 p.2) d).get? k).isSome = true := by
  induction l generalizing d with
  | nil => simpa using h
  | cons p l ih =>
      have hstep : ((d.insert p.1 p.2).get? k).isSome = true ∨ k ∈ l.map Prod.fst := by
        rw [List.map_cons, List.mem_cons] at h
        by_cases hk : p.1 = k
        · rw [hk, get?_insert_self]
          exact .inl rfl
        · rw [get?_insert_of_ne d p.2 hk]
          rcases h with hd | rfl | hl
          · exact .inl hd
          · exact absurd rfl hk
          · exact .inr hl
      exact ih hstep

/-- Every listed key is in the dictionary of the list.  Kind: L -/
theorem isSome_get?_ofList {l : List (κ × ν)} {p : κ × ν} (h : p ∈ l) :
    ((ofList l).get? p.1).isSome = true :=
  isSome_get?_foldl_insert (.inr (List.mem_map_of_mem h))

/-- A write adds an entry exactly for a new key.  Kind: L -/
theorem size_insert (d : Dict κ ν) (k : κ) (v : ν) :
    (d.insert k v).size = if (d.get? k).isSome then d.size else d.size + 1 :=
  length_insertRaw k v d.entries

/-- A comprehension does not grow.  Kind: L -/
theorem size_filterEntries_le (d : Dict κ ν) (q : κ × ν → Bool) :
    (d.filterEntries q).size ≤ d.size :=
  List.length_filter_le _ _

/-- A removal does not grow.  Kind: L -/
theorem size_erase_le (d : Dict κ ν) (k : κ) : (d.erase k).size ≤ d.size :=
  size_filterEntries_le d _

/-! ## Undoing a write -/

/-- The later of two writes to one key stands.  Kind: L -/
theorem insertRaw_insertRaw (k : κ) (v w : ν) (l : List (κ × ν)) :
    insertRaw k w (insertRaw k v l) = insertRaw k w l := by
  induction l with
  | nil => simp [insertRaw]
  | cons p l ih =>
      obtain ⟨k', v'⟩ := p
      by_cases hk : k' = k
      · subst hk
        simp [insertRaw]
      · simp [insertRaw, hk, ih]

/-- Writing what is there changes nothing.  Kind: L -/
theorem insertRaw_of_lookupRaw {k : κ} {v : ν} {l : List (κ × ν)} (h : lookupRaw k l = some v) :
    insertRaw k v l = l := by
  induction l with
  | nil => cases h
  | cons p l ih =>
      obtain ⟨k', v'⟩ := p
      by_cases hk : k' = k
      · subst hk
        simp only [lookupRaw, if_true, Option.some.injEq] at h
        simp [insertRaw, h]
      · simp only [lookupRaw, if_neg hk] at h
        simp [insertRaw, hk, ih h]

/-- A new key is written at the end.  Kind: L -/
theorem insertRaw_of_fresh {k : κ} {v : ν} {l : List (κ × ν)} (h : lookupRaw k l = none) :
    insertRaw k v l = l ++ [(k, v)] := by
  induction l with
  | nil => rfl
  | cons p l ih =>
      obtain ⟨k', v'⟩ := p
      by_cases hk : k' = k
      · subst hk
        simp [lookupRaw] at h
      · simp only [lookupRaw, if_neg hk] at h
        simp [insertRaw, hk, ih h]

/-- The last of two writes to one key counts.  Kind: L -/
@[simp] theorem insert_insert (d : Dict κ ν) (k : κ) (v w : ν) :
    (d.insert k v).insert k w = d.insert k w :=
  ext' (insertRaw_insertRaw k v w d.entries)

/-- Writing what is there.  Kind: L -/
theorem insert_of_get? {d : Dict κ ν} {k : κ} {v : ν} (h : d.get? k = some v) :
    d.insert k v = d :=
  ext' (insertRaw_of_lookupRaw h)

/-- A new key is appended.  Kind: L -/
theorem entries_insert_of_fresh {d : Dict κ ν} {k : κ} {v : ν} (h : d.get? k = none) :
    (d.insert k v).entries = d.entries ++ [(k, v)] :=
  insertRaw_of_fresh h

/-- Pairs with distinct, new keys are appended.  Kind: L -/
theorem entries_foldl_insert {l : List (κ × ν)} {d : Dict κ ν}
    (h : ((d.entries ++ l).map Prod.fst).Nodup) :
    (l.foldl (fun d p => d.insert p.1 p.2) d).entries = d.entries ++ l := by
  induction l generalizing d with
  | nil => rw [List.append_nil, List.foldl_nil]
  | cons p l ih =>
      have hfresh : d.get? p.1 = none := by
        rw [List.map_append, List.nodup_append] at h
        rw [get?, lookupRaw_eq_none_iff]
        intro hmem
        exact h.2.2 _ hmem _ (List.mem_cons_self) rfl
      have hentries : (d.insert p.1 p.2).entries = d.entries ++ [p] :=
        entries_insert_of_fresh hfresh
      rw [List.append_cons, ← hentries] at h ⊢
      exact ih h

/-- `dict(pairs)` of pairs with distinct keys.  Kind: L -/
theorem entries_ofList {l : List (κ × ν)} (h : (l.map Prod.fst).Nodup) : (ofList l).entries = l :=
  entries_foldl_insert (d := empty) h

/-- A comprehension keeps everything if and only if every item passes.  Kind: L -/
theorem filterEntries_eq_self_iff {d : Dict κ ν} {q : κ × ν → Bool} :
    d.filterEntries q = d ↔ ∀ p ∈ d.entries, q p := by
  rw [← List.filter_eq_self]
  exact ⟨fun h => congrArg entries h, fun h => ext' h⟩

/-- Removing a missing key changes nothing.  Kind: L -/
theorem erase_of_fresh {d : Dict κ ν} {k : κ} (h : d.get? k = none) : d.erase k = d := by
  refine filterEntries_eq_self_iff.mpr fun p hp => ?_
  have hne : p.1 ≠ k := by
    rintro rfl
    exact lookupRaw_eq_none_iff.mp h (List.mem_map_of_mem hp)
  simpa using hne

/-- Deleting what was added.  Kind: L -/
theorem erase_insert_of_fresh {d : Dict κ ν} {k : κ} {v : ν} (h : d.get? k = none) :
    (d.insert k v).erase k = d := by
  have herase : d.entries.filter (fun p => p.1 ≠ k) = d.entries :=
    congrArg entries (erase_of_fresh h)
  refine ext' ?_
  change ((d.insert k v).entries.filter fun p => p.1 ≠ k) = d.entries
  rw [entries_insert_of_fresh h, List.filter_append, herase]
  simp

/-- Removing twice is removing once.  Kind: L -/
@[simp] theorem erase_erase (d : Dict κ ν) (k : κ) : (d.erase k).erase k = d.erase k :=
  erase_of_fresh (get?_erase_self d k)

/-- An entry and the rest.  Kind: L -/
theorem perm_cons_erase {d : Dict κ ν} {k : κ} {v : ν} (h : d.get? k = some v) :
    d.entries.Perm ((k, v) :: (d.erase k).entries) := by
  have hmem : (k, v) ∈ d.entries := d.get?_eq_some_iff.mp h
  have herase : (d.erase k).entries = d.entries.filter fun p => p.1 ≠ k := rfl
  obtain ⟨front, back, hsplit⟩ := List.append_of_mem hmem
  have hnodup := d.nodup
  rw [hsplit] at hnodup herase ⊢
  -- the key occurs nowhere else
  have hother : ∀ p ∈ front ++ back, p.1 ≠ k := by
    intro p hp hk
    have hperm : ((front ++ (k, v) :: back).map Prod.fst).Perm
        (k :: (front ++ back).map Prod.fst) := List.perm_middle.map Prod.fst
    have hnot := (List.nodup_cons.mp (hperm.nodup_iff.mp hnodup)).1
    exact hnot (List.mem_map.mpr ⟨p, hp, hk⟩)
  have hrest : (front ++ (k, v) :: back).filter (fun p => p.1 ≠ k) = front ++ back := by
    rw [List.filter_append, List.filter_cons_of_neg (by simp), ← List.filter_append]
    exact List.filter_eq_self.mpr fun p hp => by simpa using hother p hp
  rw [herase, hrest]
  exact List.perm_middle

/-- The values are those that can be read.  Kind: L -/
theorem mem_values_iff {d : Dict κ ν} {v : ν} : v ∈ d.values ↔ ∃ k, d.get? k = some v := by
  constructor
  · intro h
    obtain ⟨⟨k, w⟩, hp, rfl⟩ := List.mem_map.mp h
    exact ⟨k, (get?_eq_some_iff d).mpr hp⟩
  · rintro ⟨k, h⟩
    exact List.mem_map.mpr ⟨(k, v), (get?_eq_some_iff d).mp h, rfl⟩

/-! ## One entry of a list -/

theorem lookupRaw_append_cons {k : κ} {v : ν} {l l' : List (κ × ν)} (h : k ∉ l.map Prod.fst) :
    lookupRaw k (l ++ (k, v) :: l') = some v := by
  induction l with
  | nil => rw [List.nil_append, lookupRaw, if_pos rfl]
  | cons p l ih =>
      obtain ⟨k', v'⟩ := p
      rw [List.map_cons, List.mem_cons, not_or] at h
      rw [List.cons_append, lookupRaw, if_neg (Ne.symm h.1), ih h.2]

theorem insertRaw_append_cons {k : κ} {v w : ν} {l l' : List (κ × ν)} (h : k ∉ l.map Prod.fst) :
    insertRaw k w (l ++ (k, v) :: l') = l ++ (k, w) :: l' := by
  induction l with
  | nil => rw [List.nil_append, insertRaw, if_pos rfl, List.nil_append]
  | cons p l ih =>
      obtain ⟨k', v'⟩ := p
      rw [List.map_cons, List.mem_cons, not_or] at h
      rw [List.cons_append, insertRaw, if_neg (Ne.symm h.1), ih h.2, List.cons_append]

/-- What is read after a removal.  Kind: L -/
theorem lookupRaw_eraseRaw (k a : κ) (l : List (κ × ν)) :
    lookupRaw a (eraseRaw k l) = if k = a then none else lookupRaw a l := by
  induction l with
  | nil => simp [eraseRaw, lookupRaw]
  | cons p l ih =>
      obtain ⟨k', v'⟩ := p
      by_cases hk : k' = k
      · have hdrop : eraseRaw k ((k', v') :: l) = eraseRaw k l := by simp [eraseRaw, hk]
        rw [hdrop, ih]
        by_cases ha : k = a
        · rw [if_pos ha, if_pos ha]
        · rw [if_neg ha, if_neg ha, lookupRaw, if_neg fun heq => ha (hk.symm.trans heq)]
      · have hkeep : eraseRaw k ((k', v') :: l) = (k', v') :: eraseRaw k l := by
          simp [eraseRaw, hk]
        rw [hkeep, lookupRaw, ih]
        by_cases ha : k' = a
        · rw [if_pos ha, if_neg fun heq => hk (ha.trans heq.symm), lookupRaw, if_pos ha]
        · rw [if_neg ha, lookupRaw, if_neg ha]

/-- An entry after a write is the written one or was there.  Kind: L -/
theorem mem_of_mem_insertRaw {k : κ} {v : ν} {l : List (κ × ν)} {p : κ × ν}
    (h : p ∈ insertRaw k v l) : p = (k, v) ∨ p ∈ l := by
  induction l with
  | nil => exact .inl (List.mem_singleton.mp h)
  | cons q l ih =>
      obtain ⟨k', v'⟩ := q
      by_cases hk : k' = k
      · rw [insertRaw, if_pos hk] at h
        exact (List.mem_cons.mp h).imp_right (List.mem_cons_of_mem _)
      · rw [insertRaw, if_neg hk] at h
        rcases List.mem_cons.mp h with rfl | h
        · exact .inr List.mem_cons_self
        · exact (ih h).imp_right (List.mem_cons_of_mem _)

/-! ## Values under keys of their own -/

/-- The keys of `dict(pairs)` are those of the pairs.  Kind: L -/
theorem mem_keys_ofList {l : List (κ × ν)} {k : κ} : k ∈ (ofList l).keys ↔ k ∈ l.map Prod.fst := by
  rw [mem_keys_iff]
  constructor
  · intro h
    obtain ⟨v, hv⟩ := Option.isSome_iff_exists.mp h
    exact List.mem_map_of_mem (mem_of_get?_ofList hv)
  · intro h
    obtain ⟨p, hp, rfl⟩ := List.mem_map.mp h
    exact isSome_get?_ofList hp

/-- The values of `{key(v): v for v in values}` have the keys of the dictionary.  Kind: L -/
theorem map_values_ofList (f : ν → κ) (values : List ν) :
    (ofList (values.map fun v => (f v, v))).values.map f =
      (ofList (values.map fun v => (f v, v))).keys := by
  rw [Dict.values, Dict.keys, List.map_map]
  refine List.map_congr_left fun p hp => ?_
  have hpair : p ∈ values.map fun v => (f v, v) :=
    mem_of_get?_ofList ((get?_eq_some_iff _).mpr hp)
  obtain ⟨v, -, rfl⟩ := List.mem_map.mp hpair
  rfl

/-! ## Counting values -/

/-- Deleting an entry takes its value out of a count.  Kind: L -/
theorem countP_values_erase {d : Dict κ ν} {k : κ} {v : ν} (h : d.get? k = some v)
    (p : ν → Bool) : d.values.countP p = (d.erase k).values.countP p + if p v then 1 else 0 := by
  show (d.entries.map Prod.snd).countP p = _
  rw [((perm_cons_erase h).map Prod.snd).countP_eq, List.map_cons, List.countP_cons]
  rfl

/-- A new entry adds its value to a count.  Kind: L -/
theorem countP_values_insert {d : Dict κ ν} {k : κ} (h : d.get? k = none) (v : ν)
    (p : ν → Bool) : (d.insert k v).values.countP p = d.values.countP p + if p v then 1 else 0 := by
  show ((d.insert k v).entries.map Prod.snd).countP p = _
  rw [entries_insert_of_fresh h, List.map_append, List.countP_append]
  simp [values]

end Dict

end ExpraConnect.Lib
