import ExpraConnect.Lib.Dict

/-!
# Tables with an index of times

A table whose entries die with time, and a heap of `(time, key)` from which the dead are popped
without a look at the rest of the table.  A heap is the list of its items, smallest first.

* `filter_of_sorted`: popping a sorted heap while its front is dead leaves the items that live;
* `Indexes`: the heap has one item for each entry; `popExact` deletes what it pops, and
  `popExact_eq`: it never misses a key, and it is a filter of the table;
* `Covers`: the heap has an item for each entry, and others; `popStale` deletes what it pops if the
  entry has that time, and `popStale_eq`: this is a filter of the table too.

What is dead at a time must be dead at every earlier one (`Antitone dead`).
-/

set_option linter.unusedSectionVars false

namespace ExpraConnect.Lib

variable {τ κ ν : Type} [LinearOrder τ] [LinearOrder κ]

namespace Dict

/-- Removing an entry that a filter drops does not change what it keeps.  Kind: L -/
theorem filterEntries_erase {d : Dict κ ν} {k : κ} {v : ν} {q : κ × ν → Bool}
    (h : d.get? k = some v) (hq : q (k, v) = false) :
    (d.erase k).filterEntries q = d.filterEntries q := by
  refine Dict.ext' ?_
  show (d.entries.filter fun p => p.1 ≠ k).filter q = d.entries.filter q
  rw [List.filter_filter]
  refine List.filter_congr fun p hp => ?_
  by_cases hk : p.1 = k
  · have hv : p = (k, v) := by
      obtain ⟨k', w⟩ := p
      subst hk
      exact congrArg _ (Option.some.inj (((d.get?_eq_some_iff).mpr hp).symm.trans h))
    rw [hv, hq]
    rfl
  · simp [hk]

end Dict

/-! ## Sorted heaps -/

section Sorted

variable {dead : τ → Prop} [DecidablePred dead] {heap : List (τ ×ₗ κ)} {item : τ ×ₗ κ}

/-- The items that live. -/
def living (dead : τ → Prop) [DecidablePred dead] (heap : List (τ ×ₗ κ)) : List (τ ×ₗ κ) :=
  heap.filter fun item => ¬dead (ofLex item).1

/-- Items are ordered by time first.  Kind: L -/
theorem time_le_of_le {a b : τ ×ₗ κ} (h : a ≤ b) : (ofLex a).1 ≤ (ofLex b).1 := by
  rcases Prod.Lex.le_iff.mp h with hlt | ⟨heq, -⟩
  · exact hlt.le
  · exact heq.le

/-- Behind an item that lives all items live.  Kind: L -/
theorem filter_of_sorted (hdead : Antitone dead) (hsorted : (item :: heap).Pairwise (· ≤ ·))
    (hitem : ¬dead (ofLex item).1) : living dead (item :: heap) = item :: heap := by
  refine List.filter_eq_self.mpr fun a ha => ?_
  have hle : (ofLex item).1 ≤ (ofLex a).1 := by
    rcases List.mem_cons.mp ha with rfl | hmem
    · exact le_rfl
    · exact time_le_of_le (List.rel_of_pairwise_cons hsorted hmem)
  exact decide_eq_true fun h => hitem (hdead hle h)

/-- A dead item at the front does not count.  Kind: L -/
theorem living_cons_of_dead (hitem : dead (ofLex item).1) :
    living dead (item :: heap) = living dead heap :=
  List.filter_cons_of_neg (by simpa using hitem)

end Sorted

/-! ## One item for each entry -/

/-- The heap is sorted, and has one item for each entry of the table, with its time. -/
structure Indexes (d : Dict κ τ) (heap : List (τ ×ₗ κ)) : Prop where
  /-- The smallest item is in front. -/
  sorted : heap.Pairwise (· ≤ ·)
  /-- The items are the entries. -/
  perm : heap.Perm (d.entries.map fun p => toLex (p.2, p.1))

/-- Pop the items that are dead and delete their keys; `none` if a key is missing. -/
def popExact (dead : τ → Prop) [DecidablePred dead] :
    List (τ ×ₗ κ) → Dict κ τ → Option (Dict κ τ × List (τ ×ₗ κ))
  | [], d => some (d, [])
  | item :: rest, d =>
      if dead (ofLex item).1 then
        if d.contains (ofLex item).2 then popExact dead rest (d.erase (ofLex item).2) else none
      else some (d, item :: rest)

section Exact

variable {dead : τ → Prop} [DecidablePred dead] {d : Dict κ τ} {heap : List (τ ×ₗ κ)}
  {item : τ ×ₗ κ}

/-- The empty heap indexes the empty dictionary.  Kind: L -/
theorem indexes_empty : Indexes (Dict.empty : Dict κ τ) [] :=
  ⟨List.Pairwise.nil, List.Perm.refl _⟩

/-- The items of an index are the entries.  Kind: L -/
theorem Indexes.mem_iff (h : Indexes d heap) {k : κ} {t : τ} :
    toLex (t, k) ∈ heap ↔ d.get? k = some t := by
  rw [h.perm.mem_iff, d.get?_eq_some_iff, List.mem_map]
  constructor
  · rintro ⟨⟨k', t'⟩, hp, heq⟩
    obtain ⟨rfl, rfl⟩ := Prod.mk.inj (toLex_inj.mp heq)
    exact hp
  · intro hp
    exact ⟨(k, t), hp, rfl⟩

/-- An item popped together with its entry.  Kind: L -/
theorem Indexes.tail (h : Indexes d (item :: heap)) : Indexes (d.erase (ofLex item).2) heap := by
  have hget : d.get? (ofLex item).2 = some (ofLex item).1 :=
    h.mem_iff.mp (List.mem_cons_self (a := item))
  refine ⟨h.sorted.of_cons, ?_⟩
  have hperm := h.perm.trans ((Dict.perm_cons_erase hget).map fun p => toLex (p.2, p.1))
  exact List.Perm.cons_inv hperm

/-- A new key with its item.  Kind: L -/
theorem Indexes.insert (h : Indexes d heap) {k : κ} (hk : d.get? k = none) (t : τ) :
    Indexes (d.insert k t) (heap.orderedInsert (· ≤ ·) (toLex (t, k))) := by
  refine ⟨h.sorted.orderedInsert _ _, ?_⟩
  rw [Dict.entries_insert_of_fresh hk, List.map_append]
  exact ((List.perm_orderedInsert _ _ _).trans (h.perm.cons _)).trans
    (List.perm_append_singleton _ _).symm

/-- How many items a key has.  Kind: L -/
theorem Indexes.countP (h : Indexes d heap) (k : κ) :
    heap.countP (fun item => (ofLex item).2 = k) = if d.contains k then 1 else 0 := by
  have hkeys : heap.countP (fun item => (ofLex item).2 = k) = d.keys.count k := by
    rw [h.perm.countP_eq, List.countP_map, List.count, Dict.keys, List.countP_map]
    rfl
  rw [hkeys]
  split_ifs with hk
  · exact List.count_eq_one_of_mem d.nodup ((d.mem_keys_iff).mpr hk)
  · exact List.count_eq_zero_of_not_mem fun hmem => hk ((d.mem_keys_iff).mp hmem)

/-- **Popping is filtering.**  No key is missing, the table keeps what lives, and the heap stays its
index.  Kind: L -/
theorem popExact_eq (hdead : Antitone dead) (h : Indexes d heap) :
    popExact dead heap d = some (d.filterEntries fun p => ¬dead p.2, living dead heap) ∧
      Indexes (d.filterEntries fun p => ¬dead p.2) (living dead heap) := by
  induction heap generalizing d with
  | nil =>
      have hnil : d.entries = [] := List.map_eq_nil_iff.mp h.perm.nil_eq.symm
      have hkeep : d.filterEntries (fun p => ¬dead p.2) = d :=
        Dict.filterEntries_eq_self_iff.mpr fun p hp => by simp [hnil] at hp
      rw [hkeep]
      exact ⟨rfl, h⟩
  | cons item rest ih =>
      have hget : d.get? (ofLex item).2 = some (ofLex item).1 :=
        h.mem_iff.mp (List.mem_cons_self (a := item))
      unfold popExact
      by_cases hitem : dead (ofLex item).1
      · have hcontains : d.contains (ofLex item).2 = true := by rw [Dict.contains, hget]; rfl
        rw [if_pos hitem, if_pos hcontains, living_cons_of_dead hitem,
          ← Dict.filterEntries_erase hget (by simpa using hitem)]
        exact ih h.tail
      · have hliving := filter_of_sorted hdead h.sorted hitem
        have hkeep : d.filterEntries (fun p => ¬dead p.2) = d := by
          refine Dict.filterEntries_eq_self_iff.mpr fun p hp => ?_
          have hmem : toLex (p.2, p.1) ∈ living dead (item :: rest) := by
            rw [hliving]
            exact h.mem_iff.mpr ((d.get?_eq_some_iff).mpr hp)
          exact (List.mem_filter.mp hmem).2
        rw [if_neg hitem, hliving, hkeep]
        exact ⟨rfl, h⟩

end Exact

/-! ## An item for each entry, and others -/

/-- Every entry of the table has an item with its own time. -/
def Covers (expiry : ν → τ) (d : Dict κ ν) (heap : List (τ ×ₗ κ)) : Prop :=
  ∀ k v, d.get? k = some v → toLex (expiry v, k) ∈ heap

/-- Pop the items that are dead, and delete the entries that have their times. -/
def popStale (expiry : ν → τ) (dead : τ → Prop) [DecidablePred dead] :
    List (τ ×ₗ κ) → Dict κ ν → List (τ ×ₗ κ) × Dict κ ν
  | [], d => ([], d)
  | item :: rest, d =>
      if dead (ofLex item).1 then
        popStale expiry dead rest
          (if (d.get? (ofLex item).2).any fun v => expiry v = (ofLex item).1
            then d.erase (ofLex item).2 else d)
      else (item :: rest, d)

section Stale

variable {expiry : ν → τ} {dead : τ → Prop} [DecidablePred dead] {d : Dict κ ν}
  {heap : List (τ ×ₗ κ)} {k : κ} {v : ν}

/-- Any heap covers the empty dictionary.  Kind: L -/
theorem covers_empty (heap : List (τ ×ₗ κ)) : Covers expiry (Dict.empty : Dict κ ν) heap :=
  fun _ _ h => by cases h

/-- Entries may go, and items may come.  Kind: L -/
theorem Covers.mono {d' : Dict κ ν} {heap' : List (τ ×ₗ κ)} (h : Covers expiry d heap)
    (hd : ∀ k v, d'.get? k = some v → d.get? k = some v) (hheap : heap ⊆ heap') :
    Covers expiry d' heap' :=
  fun k v hk => hheap (h k v (hd k v hk))

/-- A heap that covers a dictionary covers it without a key.  Kind: L -/
theorem Covers.erase (h : Covers expiry d heap) (k : κ) : Covers expiry (d.erase k) heap := by
  refine h.mono (fun a v ha => ?_) fun _ => id
  rw [Dict.get?_erase] at ha
  split_ifs at ha
  exact ha

/-- An entry may be written again with the time it has.  Kind: L -/
theorem Covers.insert_of_get? (h : Covers expiry d heap) (hk : d.get? k = some v) {w : ν}
    (hw : expiry w = expiry v) : Covers expiry (d.insert k w) heap := by
  intro a u ha
  rw [Dict.get?_insert] at ha
  split_ifs at ha with hka
  · subst hka
    cases ha
    rw [hw]
    exact h k v hk
  · exact h a u ha

/-- An entry with its item.  Kind: L -/
theorem Covers.insert (h : Covers expiry d heap) (k : κ) (v : ν) :
    Covers expiry (d.insert k v) (heap.orderedInsert (· ≤ ·) (toLex (expiry v, k))) := by
  intro a u ha
  rw [Dict.get?_insert] at ha
  rw [List.mem_orderedInsert]
  split_ifs at ha with hka
  · subst hka
    cases ha
    exact .inl rfl
  · exact .inr (h a u ha)

/-- The heap made from the table.  Kind: L -/
theorem covers_rebuilt (d : Dict κ ν) :
    Covers expiry d
      ((d.entries.map fun p => toLex (expiry p.2, p.1)).insertionSort (· ≤ ·)) := by
  intro k v hk
  rw [List.mem_insertionSort]
  exact List.mem_map.mpr ⟨(k, v), (d.get?_eq_some_iff).mp hk, rfl⟩

/-- **Popping is filtering**, also with items that belong to no entry.  Kind: L -/
theorem popStale_eq (hdead : Antitone dead) (hsorted : heap.Pairwise (· ≤ ·))
    (h : Covers expiry d heap) :
    popStale expiry dead heap d =
      (living dead heap, d.filterEntries fun p => ¬dead (expiry p.2)) := by
  induction heap generalizing d with
  | nil =>
      have hkeep : d.filterEntries (fun p => ¬dead (expiry p.2)) = d :=
        Dict.filterEntries_eq_self_iff.mpr fun p hp =>
          absurd (h p.1 p.2 ((d.get?_eq_some_iff).mpr hp)) List.not_mem_nil
      rw [hkeep]
      rfl
  | cons item rest ih =>
      unfold popStale
      by_cases hitem : dead (ofLex item).1
      · rw [if_pos hitem, living_cons_of_dead hitem]
        -- the popped item is that of an entry, which is deleted with it, or of none
        have hrest : ∀ {k : κ} {v : ν}, d.get? k = some v →
            (k = (ofLex item).2 → expiry v ≠ (ofLex item).1) → toLex (expiry v, k) ∈ rest := by
          intro k v hk hne
          rcases List.mem_cons.mp (h k v hk) with heq | hmem
          · rw [← heq] at hne
            exact absurd rfl (hne rfl)
          · exact hmem
        cases hget : d.get? (ofLex item).2 with
        | none =>
            rw [if_neg (by simp)]
            refine ih hsorted.of_cons fun k v hk => hrest hk fun hkey => ?_
            rw [hkey, hget] at hk
            cases hk
        | some v =>
            by_cases hmatch : expiry v = (ofLex item).1
            · rw [if_pos (by simpa using hmatch)]
              have hq : (decide ¬dead (expiry ((ofLex item).2, v).2)) = false := by
                simpa [hmatch] using hitem
              rw [← Dict.filterEntries_erase hget hq]
              refine ih hsorted.of_cons fun k w hk => ?_
              rw [Dict.get?_erase] at hk
              split_ifs at hk with hkey
              exact hrest hk fun heq => absurd heq.symm hkey
            · rw [if_neg (by simpa using hmatch)]
              refine ih hsorted.of_cons fun k w hk => hrest hk fun hkey => ?_
              rw [hkey, hget] at hk
              cases hk
              exact hmatch
      · have hliving := filter_of_sorted hdead hsorted hitem
        have hkeep : d.filterEntries (fun p => ¬dead (expiry p.2)) = d := by
          refine Dict.filterEntries_eq_self_iff.mpr fun p hp => ?_
          have hmem : toLex (expiry p.2, p.1) ∈ living dead (item :: rest) := by
            rw [hliving]
            exact h p.1 p.2 ((d.get?_eq_some_iff).mpr hp)
          exact (List.mem_filter.mp hmem).2
        rw [if_neg hitem, hliving, hkeep]

/-- What is left is covered by what is left.  Kind: L -/
theorem Covers.living (h : Covers expiry d heap) (dead : τ → Prop) [DecidablePred dead] :
    Covers expiry (d.filterEntries fun p => ¬dead (expiry p.2)) (living dead heap) := by
  intro k v hk
  rw [Dict.get?_filterEntries, Option.filter_eq_some_iff] at hk
  exact List.mem_filter.mpr ⟨h k v hk.1, hk.2⟩

end Stale

end ExpraConnect.Lib
