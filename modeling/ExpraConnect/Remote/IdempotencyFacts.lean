import ExpraConnect.Remote.WireProtocol

/-!
# What the idempotency cache remembers, and for how long

* `Tracks key id expiry`: the table refers to the entry object `id` under `key`, until `expiry`;
  every critical section whose clock reading is before `expiry` keeps that, and while it holds
  nobody becomes the owner of `key`.
* `Holds`: the object comes to hold a given result; only a critical section on that very object
  can spoil it, and a waiter gets the result.
* `Persists`: the stored document holds `key` for long enough; a save of a returned entry
  establishes it, and a cache that is loaded from such a document tracks the key.
-/

namespace ExpraConnect

open ExpraConnect.Lib

namespace IdempotencyCache

variable {c : IdempotencyCache} {key k : IdemKey} {id id' : ℕ} {expiry now ttl : ℚ}
  {maxEntries : ℕ} {fp : String}

/-! ## Entry objects -/

/-- A change of one entry object leaves the others alone.  Kind: L -/
theorem object_modifyObject (f : IdempotencyEntry → IdempotencyEntry) :
    (c.modifyObject id' f).object id = if id' = id then (c.object id).map f else c.object id := by
  simp only [object, modifyObject, List.getElem?_modify]
  cases c.objects[id]? <;> split <;> rfl

/-- `complete` writes the result into one entry object.  Kind: L -/
theorem object_complete {result : Fields} {fault : Option PyError} :
    (c.complete id' result now fault).object id = if id' = id then (c.object id).map fun o =>
      { o with result := some result, complete := true, signalled := true,
               error := fault <|> o.error } else c.object id := by
  unfold complete
  cases fault with
  | none =>
      simp only [object_modifyObject]
      split
      · rename_i hid
        cases ho : c.object id with
        | none =>
            have hnone : (c.modifyObject id' fun o =>
                { o with result := some result, complete := true }).object id = none := by
              rw [object_modifyObject, if_pos hid, ho]
              rfl
            simpa [object] using hnone
        | some o =>
            have hsome : (c.modifyObject id' fun o =>
                { o with result := some result, complete := true }).object id =
                  some { o with result := some result, complete := true } := by
              rw [object_modifyObject, if_pos hid, ho]
              rfl
            have hsome' := hsome
            simp only [object] at hsome' ⊢
            simp [hsome']
      · rename_i hid
        have heq : (c.modifyObject id' fun o =>
            { o with result := some result, complete := true }).object id = c.object id := by
          rw [object_modifyObject, if_neg hid]
        exact heq
  | some e =>
      simp only [object_modifyObject]
      split
      · cases c.object id <;> rfl
      · rfl

/-- `complete` leaves the table alone.  Kind: L -/
@[simp] theorem table_complete {result : Fields} {fault : Option PyError} :
    (c.complete id result now fault).table = c.table := by
  unfold IdempotencyCache.complete
  split <;> rfl

/-- `enter` does not write the document.  Kind: L -/
@[simp] theorem store_enter : (c.enter ttl maxEntries k fp now).2.store = c.store := by
  unfold enter
  dsimp only
  split
  · split <;> rfl
  · split <;> rfl

/-- `complete` makes no entry object.  Kind: L -/
@[simp] theorem length_objects_complete {result : Fields} {fault : Option PyError} :
    (c.complete id result now fault).objects.length = c.objects.length := by
  unfold IdempotencyCache.complete
  split <;> simp [modifyObject]

/-- Pruning leaves the entry objects alone.  Kind: L -/
@[simp] theorem object_prune : (c.prune now).object id = c.object id := rfl

/-- Entry objects are numbered upwards.  Kind: L -/
theorem lt_length_of_object {e : IdempotencyEntry} (h : c.object id = some e) :
    id < c.objects.length := (List.getElem?_eq_some_iff.mp h).1

/-! ## Entering -/

/-- What the first critical section of `run` does with the cache.  Kind: L -/
theorem enter_cases (c : IdempotencyCache) (ttl : ℚ) (maxEntries : ℕ) (k : IdemKey) (fp : String)
    (now : ℚ) :
    (∃ e, c.enter ttl maxEntries k fp now = (.refused e, c.prune now)) ∨
      (∃ i, (c.prune now).table.get? k = some i ∧
        c.enter ttl maxEntries k fp now = (.waiter i, c.prune now)) ∨
        ((c.prune now).table.get? k = none ∧ (c.prune now).table.size < maxEntries ∧
          c.enter ttl maxEntries k fp now = (.owner c.objects.length, { c.prune now with
            table := (c.prune now).table.insert k c.objects.length
            objects := c.objects ++ [.pending fp (now + ttl)] })) := by
  cases hget : (c.prune now).table.get? k with
  | none =>
      by_cases hfull : maxEntries ≤ (c.prune now).table.size
      · exact .inl ⟨⟨.remoteAuth, "idempotency cache is full"⟩, by simp [enter, hget, hfull]⟩
      · refine .inr (.inr ⟨rfl, not_le.mp hfull, ?_⟩)
        simp only [enter, hget, if_neg hfull]
        rfl
  | some i =>
      by_cases hfp : (((c.prune now).object i).any fun e => e.fingerprint ≠ fp) = true
      · exact .inl ⟨⟨.idempotencyCollision, "request ID was reused"⟩, by
          simp only [enter, hget, if_pos hfp]⟩
      · exact .inr (.inl ⟨i, rfl, by simp only [enter, hget, if_neg hfp]⟩)

/-- `enter` leaves the entry objects alone that exist.  Kind: L -/
theorem object_enter_of_lt (h : id < c.objects.length) :
    (c.enter ttl maxEntries k fp now).2.object id = c.object id := by
  rcases enter_cases c ttl maxEntries k fp now with ⟨e, heq⟩ | ⟨i, -, heq⟩ | ⟨-, -, heq⟩
  · rw [heq]
    rfl
  · rw [heq]
    rfl
  · rw [heq]
    simp [object, List.getElem?_append_left h]

/-- `enter` forgets no entry object.  Kind: L -/
theorem length_objects_le_enter :
    c.objects.length ≤ (c.enter ttl maxEntries k fp now).2.objects.length := by
  rcases enter_cases c ttl maxEntries k fp now with ⟨e, heq⟩ | ⟨i, -, heq⟩ | ⟨-, -, heq⟩
  · rw [heq]
    rfl
  · rw [heq]
    rfl
  · rw [heq]
    simp

/-! ## Tracking a key -/

/-- The table refers to the entry `id` under `key`, and `id` expires at `expiry`.
Source: `remote/wire_protocol.py`, `IdempotencyCache`.  Kind: D -/
structure Tracks (key : IdemKey) (id : ℕ) (expiry : ℚ) (c : IdempotencyCache) : Prop where
  /-- The table has it. -/
  listed : c.table.get? key = some id
  /-- When it expires. -/
  expires : (c.object id).map IdempotencyEntry.expiresAt = some expiry

/-- A tracked entry exists.  Kind: L -/
theorem Tracks.lt_length (h : Tracks key id expiry c) : id < c.objects.length := by
  obtain ⟨e, he, -⟩ := Option.map_eq_some_iff.mp h.expires
  exact lt_length_of_object he

/-- An entry is tracked through a pruning before its expiry.  Kind: L -/
theorem Tracks.prune (h : Tracks key id expiry c) (hnow : now < expiry) :
    Tracks key id expiry (c.prune now) := by
  refine ⟨?_, h.expires⟩
  obtain ⟨e, he, hexp⟩ := Option.map_eq_some_iff.mp h.expires
  simp only [IdempotencyCache.prune, Dict.get?_filterEntries, h.listed, he, Option.any_some,
    Option.filter_some, hexp]
  simp [not_le.mpr hnow]

/-- Before the expiry, entering keeps the key tracked.  Kind: L -/
theorem Tracks.enter (h : Tracks key id expiry c) (hnow : now < expiry) :
    Tracks key id expiry (c.enter ttl maxEntries k fp now).2 := by
  have hp := h.prune hnow
  refine ⟨?_, by rw [object_enter_of_lt h.lt_length]; exact h.expires⟩
  rcases enter_cases c ttl maxEntries k fp now with ⟨e, heq⟩ | ⟨i, -, heq⟩ | ⟨hnone, -, heq⟩
  · rw [heq]
    exact hp.listed
  · rw [heq]
    exact hp.listed
  · rw [heq]
    have hne : k ≠ key := by
      rintro rfl
      rw [hp.listed] at hnone
      cases hnone
    simpa [Dict.get?_insert_of_ne _ _ hne] using hp.listed

/-- Before the expiry, who enters with the key is not its owner.  Kind: L -/
theorem Tracks.not_owner (h : Tracks key id expiry c) (hnow : now < expiry) :
    (c.enter ttl maxEntries key fp now).1 ≠ .owner id' := by
  intro howner
  rcases enter_cases c ttl maxEntries key fp now with ⟨e, heq⟩ | ⟨i, -, heq⟩ | ⟨hnone, -, heq⟩
  · rw [heq] at howner
    cases howner
  · rw [heq] at howner
    cases howner
  · rw [(h.prune hnow).listed] at hnone
    cases hnone

/-- Who becomes the owner tracks its key.  Kind: L -/
theorem tracks_of_owner (h : (c.enter ttl maxEntries key fp now).1 = .owner id) :
    id = c.objects.length ∧ Tracks key id (now + ttl) (c.enter ttl maxEntries key fp now).2 := by
  rcases enter_cases c ttl maxEntries key fp now with ⟨e, heq⟩ | ⟨i, -, heq⟩ | ⟨-, -, heq⟩
  · rw [heq] at h
    cases h
  · rw [heq] at h
    cases h
  · rw [heq] at h ⊢
    cases h
    exact ⟨rfl, by simp, by simp [object, IdempotencyEntry.pending]⟩

/-- An entry is tracked through a change that keeps the expiry.  Kind: L -/
theorem Tracks.modifyObject {f : IdempotencyEntry → IdempotencyEntry}
    (h : Tracks key id expiry c) (hf : ∀ e, (f e).expiresAt = e.expiresAt) :
    Tracks key id expiry (c.modifyObject id' f) := by
  obtain ⟨o, ho, hexp⟩ := Option.map_eq_some_iff.mp h.expires
  refine ⟨h.listed, ?_⟩
  rw [object_modifyObject, ho]
  split
  · simpa [hf] using hexp
  · simpa using hexp

/-- An entry is tracked through a failure.  Kind: L -/
theorem Tracks.fail {e : PyError} (h : Tracks key id expiry c) :
    Tracks key id expiry (c.fail id' e) := h.modifyObject fun _ => rfl

/-- An entry is tracked through a completion.  Kind: L -/
theorem Tracks.complete {result : Fields} {fault : Option PyError} (h : Tracks key id expiry c) :
    Tracks key id expiry (c.complete id' result now fault) := by
  obtain ⟨o, ho, hexp⟩ := Option.map_eq_some_iff.mp h.expires
  refine ⟨by rw [table_complete]; exact h.listed, ?_⟩
  rw [object_complete, ho]
  split <;> simpa using hexp

/-! ## What an entry comes to hold -/

/-- The entry `id` stands for `fp`, has not failed, and holds `result` once its event is set.
Source: `remote/wire_protocol.py`, `IdempotencyCache.run`.  Kind: D -/
def Holds (id : ℕ) (fp : String) (result : Fields) (c : IdempotencyCache) : Prop :=
  ∃ entry, c.object id = some entry ∧ entry.fingerprint = fp ∧ entry.error = none ∧
    (entry.signalled = true → entry.result = some result)

variable {result : Fields}

/-- What an entry holds survives an entry of another call.  Kind: L -/
theorem Holds.enter (h : Holds id fp result c) {fp' : String} :
    Holds id fp result (c.enter ttl maxEntries k fp' now).2 := by
  obtain ⟨entry, hobject, hrest⟩ := h
  exact ⟨entry, by rw [object_enter_of_lt (lt_length_of_object hobject), hobject], hrest⟩

/-- What an entry holds survives the failure of another.  Kind: L -/
theorem Holds.fail (h : Holds id fp result c) (hne : id' ≠ id) (e : PyError) :
    Holds id fp result (c.fail id' e) := by
  obtain ⟨entry, hobject, hrest⟩ := h
  refine ⟨entry, ?_, hrest⟩
  rw [IdempotencyCache.fail, object_modifyObject, if_neg hne, hobject]

/-- What an entry holds survives the completion of another.  Kind: L -/
theorem Holds.complete_other (h : Holds id fp result c) (hne : id' ≠ id) {result' : Fields}
    {fault : Option PyError} : Holds id fp result (c.complete id' result' now fault) := by
  obtain ⟨entry, hobject, hrest⟩ := h
  exact ⟨entry, by rw [object_complete, if_neg hne, hobject], hrest⟩

/-- Recording the result, when it can be saved, makes the entry hold it.  Kind: L -/
theorem Holds.complete (h : Holds id fp result c) :
    Holds id fp result (c.complete id result now none) := by
  obtain ⟨entry, hobject, hfp, herror, -⟩ := h
  unfold Holds
  rw [object_complete, if_pos rfl, hobject, Option.map_some]
  exact ⟨_, rfl, hfp, by simpa using herror, fun _ => rfl⟩

/-- The entry of a new owner holds its fingerprint.  Kind: L -/
theorem holds_of_owner (h : (c.enter ttl maxEntries key fp now).1 = .owner id) :
    Holds id fp result (c.enter ttl maxEntries key fp now).2 := by
  rcases enter_cases c ttl maxEntries key fp now with ⟨e, heq⟩ | ⟨i, -, heq⟩ | ⟨-, -, heq⟩
  · rw [heq] at h
    cases h
  · rw [heq] at h
    cases h
  · rw [heq] at h ⊢
    cases h
    exact ⟨.pending fp (now + ttl), by simp [object], rfl, rfl, fun hbad => by cases hbad⟩

/-- Before its expiry, who enters with the key and the same operation waits for the entry.
Kind: L -/
theorem waiter_of_tracks (ht : Tracks key id expiry c) (hh : Holds id fp result c)
    (hnow : now < expiry) : (c.enter ttl maxEntries key fp now).1 = .waiter id := by
  obtain ⟨entry, hobject, hfp, -⟩ := hh
  simp only [enter, (ht.prune hnow).listed, object_prune, hobject, Option.any_some, hfp, ne_eq,
    not_true_eq_false, decide_false, Bool.false_eq_true, if_false]

/-- What a waiter gets from the entry once its event is set.  Kind: L -/
theorem outcome_of_holds (hh : Holds id fp result c)
    (hset : (c.object id).any IdempotencyEntry.signalled = true) :
    ∃ entry, c.object id = some entry ∧ outcome entry = .ok result := by
  obtain ⟨entry, hobject, -, herror, hresult⟩ := hh
  rw [hobject] at hset
  exact ⟨entry, hobject, by simp only [outcome, herror, hresult hset]⟩

/-! ## The stored document -/

/-- The operation of entry `id` has returned. -/
def Returned (id : ℕ) (c : IdempotencyCache) : Prop :=
  ∃ e result, c.object id = some e ∧ e.complete = true ∧ e.result = some result

/-- A returned result survives an entry.  Kind: L -/
theorem Returned.enter (h : Returned id c) :
    Returned id (c.enter ttl maxEntries k fp now).2 := by
  obtain ⟨e, result, he, hrest⟩ := h
  exact ⟨e, result, by rw [object_enter_of_lt (lt_length_of_object he), he], hrest⟩

/-- A returned result survives a change that keeps results.  Kind: L -/
theorem Returned.modifyObject {f : IdempotencyEntry → IdempotencyEntry} (h : Returned id c)
    (hf : ∀ e, e.complete = true → (f e).complete = true ∧
      (e.result.isSome = true → (f e).result.isSome = true)) :
    Returned id (c.modifyObject id' f) := by
  obtain ⟨e, result, he, hcomplete, hresult⟩ := h
  unfold Returned
  rw [object_modifyObject, he]
  split
  · obtain ⟨hc, hr⟩ := hf e hcomplete
    obtain ⟨result', hr'⟩ := Option.isSome_iff_exists.mp (hr (by simp [hresult]))
    exact ⟨f e, result', rfl, hc, hr'⟩
  · exact ⟨e, result, rfl, hcomplete, hresult⟩

/-- A returned result survives a failure.  Kind: L -/
theorem Returned.fail {e : PyError} (h : Returned id c) : Returned id (c.fail id' e) :=
  h.modifyObject fun _ _ => ⟨rfl, fun h => h⟩

/-- A returned result survives a completion.  Kind: L -/
theorem Returned.complete {result : Fields} {fault : Option PyError} (h : Returned id c) :
    Returned id (c.complete id' result now fault) := by
  obtain ⟨o, result', ho, hcomplete, hresult⟩ := h
  unfold Returned
  rw [object_complete, ho]
  split
  · exact ⟨_, result, rfl, rfl, rfl⟩
  · exact ⟨o, result', rfl, hcomplete, hresult⟩

/-- Recording the result of an entry makes it one that has returned.  Kind: L -/
theorem returned_complete {result : Fields} {fault : Option PyError} (h : id < c.objects.length) :
    Returned id (c.complete id result now fault) := by
  unfold Returned
  rw [object_complete, if_pos rfl, object, List.getElem?_eq_getElem h]
  exact ⟨_, result, rfl, rfl, rfl⟩

/-- The stored document `store` holds `key`, for at least until `expiry` when it is loaded at
`clock` or later, and is small enough to be loaded whole. -/
structure Persists (maxEntries : ℕ) (key : IdemKey) (expiry clock : ℚ)
    (store : List StoredEntry) : Prop where
  /-- No key occurs twice. -/
  nodup : (store.map StoredEntry.key).Nodup
  /-- The document fits into the cache. -/
  fits : store.length ≤ maxEntries
  /-- It holds the key. -/
  holds : ∃ item ∈ store, item.key = key ∧ 0 < item.remaining ∧ expiry ≤ clock + item.remaining

/-- What persists at one time persists later.  Kind: L -/
theorem Persists.mono {clock clock' : ℚ} {store : List StoredEntry}
    (h : Persists maxEntries key expiry clock store) (hle : clock ≤ clock') :
    Persists maxEntries key expiry clock' store := by
  obtain ⟨hnodup, hfits, item, hmem, hkey, hpos, hexp⟩ := h
  exact ⟨hnodup, hfits, item, hmem, hkey, hpos, by linarith⟩

/-- The document lists keys in the order of the table.  Kind: L -/
theorem savedState_keys_sublist (c : IdempotencyCache) (now : ℚ) :
    ((c.savedState now).map StoredEntry.key).Sublist c.table.keys := by
  unfold savedState Dict.keys
  induction c.table.entries with
  | nil => simp
  | cons p rest ih =>
      simp only [List.filterMap_cons, List.map_cons]
      split
      · exact ih.trans (List.sublist_cons_self _ _)
      · rename_i item hitem
        have hkey : item.key = p.1 := by
          split at hitem
          · cases hitem
          · split at hitem
            · cases hitem
            · split at hitem
              · cases hitem
                rfl
              · cases hitem
        rw [List.map_cons, hkey]
        exact ih.cons_cons _

/-- A save before the expiry of a tracked entry that has returned persists it.  Kind: L -/
theorem persists_savedState (ht : Tracks key id expiry c) (hr : Returned id c) (hnow : now < expiry)
    (hsize : c.table.size ≤ maxEntries) :
    Persists maxEntries key expiry now (c.savedState now) := by
  obtain ⟨e, result, he, hcomplete, hresult⟩ := hr
  have hexp : e.expiresAt = expiry := by simpa [he] using ht.expires
  refine ⟨(savedState_keys_sublist c now).nodup c.table.nodup, ?_,
    ⟨key, e.fingerprint, result, e.expiresAt - now⟩, ?_, rfl, by linarith, by linarith⟩
  · have hlen := (savedState_keys_sublist c now).length_le
    rw [List.length_map, Dict.keys, List.length_map] at hlen
    exact hlen.trans hsize
  · refine List.mem_filterMap.mpr ⟨(key, id), c.table.get?_eq_some_iff.mp ht.listed, ?_⟩
    have hlt : now < e.expiresAt := by rw [hexp]; exact hnow
    simp [he, hresult, hcomplete, hlt]

/-- Recording the result of a tracked entry and saving persists it.  Kind: L -/
theorem persists_complete {result : Fields} (ht : Tracks key id expiry c) (hnow : now < expiry)
    (hsize : c.table.size ≤ maxEntries) :
    Persists maxEntries key expiry now (c.complete id result now none).store := by
  refine persists_savedState (ht.modifyObject fun _ => rfl) ?_ hnow hsize
  unfold Returned
  rw [object_modifyObject, if_pos rfl, object, List.getElem?_eq_getElem ht.lt_length]
  exact ⟨_, result, rfl, rfl, rfl⟩

/-- A completion, with or without a fault of the store, persists what was persisted.  Kind: L -/
theorem Persists.complete {result : Fields} {fault : Option PyError}
    (h : Persists maxEntries key expiry now c.store) (ht : Tracks key id expiry c)
    (hr : Returned id c) (hnow : now < expiry) (hsize : c.table.size ≤ maxEntries) :
    Persists maxEntries key expiry now (c.complete id' result now fault).store := by
  cases fault with
  | none =>
      -- the document is made once the result is recorded, before the event is set
      exact persists_savedState (ht.modifyObject fun _ => rfl)
        (hr.modifyObject fun _ _ => ⟨rfl, fun _ => rfl⟩) hnow hsize
  | some e => exact h

/-! ## Loading -/

/-- Loading other keys keeps a tracked entry.  Kind: L -/
theorem Tracks.loadLoop {readings : ℕ → ℚ} {items : List StoredEntry}
    (h : Tracks key id expiry c) (hkey : ∀ item ∈ items, item.key ≠ key) :
    Tracks key id expiry (loadLoop maxEntries readings items c) := by
  induction items generalizing c with
  | nil => exact h
  | cons item rest ih =>
      have hrest : ∀ x ∈ rest, x.key ≠ key := fun x hx => hkey x (List.mem_cons_of_mem _ hx)
      unfold IdempotencyCache.loadLoop
      split
      · exact ih h hrest
      · split
        · exact h
        · refine ih ⟨?_, ?_⟩ hrest
          · rw [Dict.get?_insert_of_ne _ _ (hkey item List.mem_cons_self)]
            exact h.listed
          · simpa [object, List.getElem?_append_left h.lt_length] using h.expires

/-- A stored entry that has time left is tracked after the load.  Kind: L -/
theorem tracks_loadLoop {readings : ℕ → ℚ} {clock : ℚ} {items : List StoredEntry}
    (hnodup : (items.map StoredEntry.key).Nodup)
    (hfits : c.table.size + items.length ≤ maxEntries) {item : StoredEntry} (hitem : item ∈ items)
    (hkey : item.key = key) (hpos : 0 < item.remaining) (hexp : expiry ≤ clock + item.remaining)
    (hread : ∀ n, clock ≤ readings n) :
    ∃ id expiry', expiry ≤ expiry' ∧
      Tracks key id expiry' (loadLoop maxEntries readings items c) := by
  induction items generalizing c with
  | nil => cases hitem
  | cons first rest ih =>
      rw [List.map_cons, List.nodup_cons] at hnodup
      rw [List.length_cons] at hfits
      unfold loadLoop
      rcases List.mem_cons.mp hitem with rfl | hmem
      · -- the item itself: it is inserted, and no later item has its key
        have hother : ∀ x ∈ rest, x.key ≠ key := by
          intro x hx heq
          exact hnodup.1 (List.mem_map.mpr ⟨x, hx, heq.trans hkey.symm⟩)
        rw [if_neg (not_le.mpr hpos), if_neg (by omega)]
        refine ⟨c.objects.length, readings c.objects.length + item.remaining, ?_,
          Tracks.loadLoop ⟨?_, ?_⟩ hother⟩
        · linarith [hread c.objects.length]
        · simp [hkey]
        · simp [object]
      · split
        · exact ih hnodup.2 (by omega) hmem
        · rw [if_neg (by omega)]
          refine ih hnodup.2 ?_ hmem
          have hsize := Dict.size_insert c.table first.key c.objects.length
          split at hsize <;> simp only [hsize] <;> omega

/-- A cache loaded from a document that holds the key tracks it.  Kind: L -/
theorem tracks_load {readings : ℕ → ℚ} {clock : ℚ} {store : List StoredEntry}
    (h : Persists maxEntries key expiry clock store) (hread : ∀ n, clock ≤ readings n) :
    ∃ id expiry', expiry ≤ expiry' ∧ Tracks key id expiry' (load maxEntries readings store) := by
  obtain ⟨hnodup, hfits, item, hmem, hkey, hpos, hexp⟩ := h
  exact tracks_loadLoop hnodup (by simpa using hfits) hmem hkey hpos hexp hread

/-! ## The bound -/

/-- Pruning does not grow the table.  Kind: L -/
theorem size_prune_le : (c.prune now).table.size ≤ c.table.size := Dict.size_filterEntries_le _ _

/-- A write to a table with room keeps the bound.  Kind: L -/
theorem size_insert_le {i : ℕ} (h : c.table.size < maxEntries) :
    (c.table.insert k i).size ≤ maxEntries := by
  rw [Dict.size_insert]
  split <;> omega

/-- `enter` keeps the bound.  Kind: L -/
theorem size_enter_le (h : c.table.size ≤ maxEntries) :
    (c.enter ttl maxEntries k fp now).2.table.size ≤ maxEntries := by
  have hp : (c.prune now).table.size ≤ maxEntries := size_prune_le.trans h
  rcases enter_cases c ttl maxEntries k fp now with ⟨e, heq⟩ | ⟨i, -, heq⟩ | ⟨-, hlt, heq⟩
  · rw [heq]
    exact hp
  · rw [heq]
    exact hp
  · rw [heq]
    exact size_insert_le (c := c.prune now) hlt

/-- Loading keeps the bound.  Kind: L -/
theorem size_loadLoop_le {readings : ℕ → ℚ} {items : List StoredEntry}
    (h : c.table.size ≤ maxEntries) :
    (loadLoop maxEntries readings items c).table.size ≤ maxEntries := by
  induction items generalizing c with
  | nil => exact h
  | cons item rest ih =>
      unfold loadLoop
      split
      · exact ih h
      · split
        · exact h
        · rename_i hroom
          exact ih (size_insert_le (not_le.mp hroom))

/-- A loaded table is within the bound.  Kind: L -/
theorem size_load_le {readings : ℕ → ℚ} {store : List StoredEntry} :
    (load maxEntries readings store).table.size ≤ maxEntries :=
  size_loadLoop_le (by simp)

end IdempotencyCache

end ExpraConnect
