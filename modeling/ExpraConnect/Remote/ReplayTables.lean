import ExpraConnect.Lib.ExpiryHeap
import ExpraConnect.Remote.WireProtocol

/-!
# The replay cache with both of its tables

`ReplayCache` keeps a table and a heap of times for the deliveries, and another pair for the request
ids of destructive requests.  Each call prunes both.

* `ReplayTables`, `checkAndRecord`, `checkAndRecordRequestId`: the code, in which a missing key
  raises `KeyError`;
* `NaiveCache`: two plain lists, filtered on every call;
* `run_refines`: for every sequence of calls, at whatever times, no key is missing and the results
  and the contents are those of the lists;
* `checkAndRecord_seen`: without the request ids it is the `ReplayCache` of the service.
-/

namespace ExpraConnect

open ExpraConnect.Lib

/-! ## The code -/

/-- What identifies one request: `(node_id, request_id)`. -/
abbrev RequestKey := String ×ₗ String

/-- A dictionary of times and its heap of `(seen_at, key)`, smallest first. -/
structure ReplayTable (κ : Type) where
  /-- When each key was seen. -/
  seen : Dict κ ℚ
  /-- The heap of the seen keys by time. -/
  expirations : List (ℚ ×ₗ κ)

namespace ReplayTable

variable {κ : Type} [LinearOrder κ]

/-- One loop of `_prune`: `del` raises `KeyError` if the key is missing.
Source: `remote/wire_protocol.py`, `ReplayCache._prune`.  Kind: D -/
def pruneLoop (ttl now : ℚ) : List (ℚ ×ₗ κ) → Dict κ ℚ → Except PyError (ReplayTable κ)
  | [], seen => .ok ⟨seen, []⟩
  | item :: rest, seen =>
      if ttl < now - (ofLex item).1 then
        if seen.contains (ofLex item).2 then pruneLoop ttl now rest (seen.erase (ofLex item).2)
        else .error ⟨.key, "KeyError"⟩
      else .ok ⟨seen, item :: rest⟩

/-- The end of both calls: a key is recorded unless it is present or the table is full. -/
def record (maxEntries : ℕ) (key : κ) (seenAt : ℚ) (t : ReplayTable κ) : Bool × ReplayTable κ :=
  if t.seen.contains key then (false, t)
  else if maxEntries ≤ t.seen.size then (false, t)
  else (true, ⟨t.seen.insert key seenAt,
    t.expirations.orderedInsert (· ≤ ·) (toLex (seenAt, key))⟩)

end ReplayTable

/-- Source: `remote/wire_protocol.py`, `ReplayCache`.  Kind: D -/
structure ReplayTables where
  /-- `_seen` and `_seen_expirations` -/
  deliveries : ReplayTable ReplayKey
  /-- `_request_ids` and `_request_id_expirations` -/
  requestIds : ReplayTable RequestKey

namespace ReplayTables

/-- `ReplayCache()`. -/
def empty : ReplayTables := ⟨⟨Dict.empty, []⟩, ⟨Dict.empty, []⟩⟩

/-- Source: `remote/wire_protocol.py`, `ReplayCache._prune`.  Kind: D -/
def prune (ttl now : ℚ) (c : ReplayTables) : Except PyError ReplayTables := do
  let deliveries ← ReplayTable.pruneLoop ttl now c.deliveries.expirations c.deliveries.seen
  let requestIds ← ReplayTable.pruneLoop ttl now c.requestIds.expirations c.requestIds.seen
  return ⟨deliveries, requestIds⟩

/-- Source: `remote/wire_protocol.py`, `ReplayCache.check_and_record`.  Kind: D -/
def checkAndRecord (ttl : ℚ) (maxEntries : ℕ) (key : ReplayKey) (seenAt : ℚ) (c : ReplayTables) :
    Except PyError (Bool × ReplayTables) := do
  let c ← c.prune ttl seenAt
  let (result, deliveries) := c.deliveries.record maxEntries key seenAt
  return (result, { c with deliveries := deliveries })

/-- Source: `remote/wire_protocol.py`, `ReplayCache.check_and_record_request_id`.  Kind: D -/
def checkAndRecordRequestId (ttl : ℚ) (maxEntries : ℕ) (key : RequestKey) (seenAt : ℚ)
    (c : ReplayTables) : Except PyError (Bool × ReplayTables) := do
  let c ← c.prune ttl seenAt
  let (result, requestIds) := c.requestIds.record maxEntries key seenAt
  return (result, { c with requestIds := requestIds })

end ReplayTables

/-- One call of the cache, at the time `seenAt`. -/
inductive ReplayCall where
  /-- `check_and_record` -/
  | delivery (key : ReplayKey) (seenAt : ℚ)
  /-- `check_and_record_request_id` -/
  | requestId (key : RequestKey) (seenAt : ℚ)

namespace ReplayTables

variable (ttl : ℚ) (maxEntries : ℕ)

/-- One call. -/
def apply : ReplayCall → ReplayTables → Except PyError (Bool × ReplayTables)
  | .delivery key seenAt, c => c.checkAndRecord ttl maxEntries key seenAt
  | .requestId key seenAt, c => c.checkAndRecordRequestId ttl maxEntries key seenAt

/-- A run of calls with its results, which ends where a call raises. -/
def run : List ReplayCall → ReplayTables → Except PyError (List Bool × ReplayTables)
  | [], c => .ok ([], c)
  | call :: rest, c => do
      let (result, c) ← apply ttl maxEntries call c
      let (results, c) ← run rest c
      return (result :: results, c)

end ReplayTables

/-! ## Two plain lists -/

/-- The keys that are remembered, each with the time at which it was seen. -/
structure NaiveCache where
  /-- The deliveries. -/
  deliveries : List (ReplayKey × ℚ)
  /-- The request ids. -/
  requestIds : List (RequestKey × ℚ)

namespace NaiveCache

variable (ttl : ℚ) (maxEntries : ℕ)

/-- Drop what was seen more than `ttl` ago. -/
def kept {κ : Type} (now : ℚ) (l : List (κ × ℚ)) : List (κ × ℚ) :=
  l.filter fun p => ¬ttl < now - p.2

/-- Accept a key that is absent while there is room. -/
def accept {κ : Type} [DecidableEq κ] (key : κ) (seenAt : ℚ) (l : List (κ × ℚ)) :
    Bool × List (κ × ℚ) :=
  if key ∉ l.map Prod.fst ∧ l.length < maxEntries then (true, l ++ [(key, seenAt)]) else (false, l)

/-- One call: both lists are filtered, and the key is looked up in its own. -/
def apply : ReplayCall → NaiveCache → Bool × NaiveCache
  | .delivery key seenAt, n =>
      let accepted := accept maxEntries key seenAt (kept ttl seenAt n.deliveries)
      (accepted.1, ⟨accepted.2, kept ttl seenAt n.requestIds⟩)
  | .requestId key seenAt, n =>
      let accepted := accept maxEntries key seenAt (kept ttl seenAt n.requestIds)
      (accepted.1, ⟨kept ttl seenAt n.deliveries, accepted.2⟩)

/-- A run of calls with its results. -/
def run : List ReplayCall → NaiveCache → List Bool × NaiveCache
  | [], n => ([], n)
  | call :: rest, n =>
      let first := apply ttl maxEntries call n
      let others := run rest first.2
      (first.1 :: others.1, others.2)

end NaiveCache

/-! ## One table -/

namespace ReplayTable

variable {κ : Type} [LinearOrder κ] {ttl now : ℚ} {maxEntries : ℕ} {t : ReplayTable κ}

/-- Each key has one item in the heap, with its time, and there are not too many.  Kind: D -/
structure Sound (maxEntries : ℕ) (t : ReplayTable κ) : Prop where
  /-- The heap is the index of the dictionary. -/
  indexes : Indexes t.seen t.expirations
  /-- The dictionary is bounded. -/
  bounded : t.seen.size ≤ maxEntries

/-- What was seen too long ago was seen too long ago if it was seen earlier.  Kind: L -/
theorem antitone_expired (ttl now : ℚ) : Antitone fun t : ℚ => ttl < now - t := by
  intro t t' hle hlt
  show ttl < now - t
  have hlt' : ttl < now - t' := hlt
  linarith

/-- The loop of `_prune` is the general one that pops exact items.  Kind: L -/
theorem pruneLoop_eq (ttl now : ℚ) (heap : List (ℚ ×ₗ κ)) (d : Dict κ ℚ) :
    pruneLoop ttl now heap d =
      match popExact (fun t => ttl < now - t) heap d with
      | some (d', heap') => .ok ⟨d', heap'⟩
      | none => .error ⟨.key, "KeyError"⟩ := by
  induction heap generalizing d with
  | nil => rfl
  | cons item rest ih =>
      unfold pruneLoop popExact
      split_ifs
      · exact ih _
      · rfl
      · rfl

/-- Pruning a sound table raises nothing, and is the filter.
Source: `remote/wire_protocol.py`, `ReplayCache._prune`.  Kind: L -/
theorem pruneLoop_sound (h : t.Sound maxEntries) (ttl now : ℚ) :
    ∃ t' : ReplayTable κ, pruneLoop ttl now t.expirations t.seen = .ok t' ∧
      t'.Sound maxEntries ∧ t'.seen.entries = NaiveCache.kept ttl now t.seen.entries := by
  obtain ⟨hpop, hindexes⟩ := popExact_eq (antitone_expired ttl now) h.indexes
  refine ⟨_, by rw [pruneLoop_eq, hpop], ⟨hindexes, ?_⟩, rfl⟩
  exact (List.length_filter_le _ _).trans h.bounded

/-- Recording is accepting.
Source: `remote/wire_protocol.py`, `ReplayCache.check_and_record`.  Kind: L -/
theorem record_sound (h : t.Sound maxEntries) (key : κ) (seenAt : ℚ) :
    (t.record maxEntries key seenAt).2.Sound maxEntries ∧
      ((t.record maxEntries key seenAt).1, (t.record maxEntries key seenAt).2.seen.entries) =
        NaiveCache.accept maxEntries key seenAt t.seen.entries := by
  have hcontains : t.seen.contains key = true ↔ key ∈ t.seen.entries.map Prod.fst :=
    (t.seen.mem_keys_iff).symm
  unfold record NaiveCache.accept
  by_cases hkey : t.seen.contains key = true
  · rw [if_pos hkey, if_neg fun h' => h'.1 (hcontains.mp hkey)]
    exact ⟨h, rfl⟩
  rw [if_neg hkey]
  by_cases hfull : maxEntries ≤ t.seen.size
  · rw [if_pos hfull, if_neg fun h' => absurd h'.2 (not_lt.mpr hfull)]
    exact ⟨h, rfl⟩
  · have hfresh : t.seen.get? key = none := by simpa [Dict.contains] using hkey
    have hentries : (t.seen.insert key seenAt).entries = t.seen.entries ++ [(key, seenAt)] :=
      Dict.entries_insert_of_fresh hfresh
    rw [if_neg hfull, if_pos ⟨fun hmem => hkey (hcontains.mpr hmem), not_le.mp hfull⟩]
    refine ⟨⟨h.indexes.insert hfresh seenAt, ?_⟩, by rw [hentries]⟩
    show (t.seen.insert key seenAt).entries.length ≤ maxEntries
    rw [hentries, List.length_append, List.length_singleton]
    exact not_le.mp hfull

end ReplayTable

/-! ## Both tables -/

namespace ReplayTables

variable {ttl : ℚ} {maxEntries : ℕ} {c : ReplayTables} {n : NaiveCache}

/-- The tables are sound, and hold what the lists hold.  Kind: D -/
structure Refines (maxEntries : ℕ) (c : ReplayTables) (n : NaiveCache) : Prop where
  /-- The table of the deliveries. -/
  deliveries : c.deliveries.Sound maxEntries
  /-- The table of the request ids. -/
  requestIds : c.requestIds.Sound maxEntries
  /-- The contents, in the order of their insertion. -/
  contents : n = ⟨c.deliveries.seen.entries, c.requestIds.seen.entries⟩

/-- `check_and_record` is a pruning and a recording.  Kind: L -/
theorem checkAndRecord_eq {d : ReplayTable ReplayKey} {r : ReplayTable RequestKey}
    {key : ReplayKey} {seenAt : ℚ} (h : c.prune ttl seenAt = .ok ⟨d, r⟩) :
    c.checkAndRecord ttl maxEntries key seenAt =
      .ok ((d.record maxEntries key seenAt).1, ⟨(d.record maxEntries key seenAt).2, r⟩) := by
  unfold checkAndRecord
  rw [h]
  rfl

/-- `check_and_record_request_id` is a pruning and a recording.  Kind: L -/
theorem checkAndRecordRequestId_eq {d : ReplayTable ReplayKey} {r : ReplayTable RequestKey}
    {key : RequestKey} {seenAt : ℚ} (h : c.prune ttl seenAt = .ok ⟨d, r⟩) :
    c.checkAndRecordRequestId ttl maxEntries key seenAt =
      .ok ((r.record maxEntries key seenAt).1, ⟨d, (r.record maxEntries key seenAt).2⟩) := by
  unfold checkAndRecordRequestId
  rw [h]
  rfl

/-- One call.  Source: `remote/wire_protocol.py`, `ReplayCache`.  Kind: L -/
theorem apply_refines (h : Refines maxEntries c n) (call : ReplayCall) :
    ∃ result c', apply ttl maxEntries call c = .ok (result, c') ∧
      (NaiveCache.apply ttl maxEntries call n).1 = result ∧
      Refines maxEntries c' (NaiveCache.apply ttl maxEntries call n).2 := by
  obtain rfl := h.contents
  have hprune : ∀ now, ∃ d r, c.prune ttl now = .ok ⟨d, r⟩ ∧
      d.Sound maxEntries ∧ d.seen.entries = NaiveCache.kept ttl now c.deliveries.seen.entries ∧
      r.Sound maxEntries ∧ r.seen.entries = NaiveCache.kept ttl now c.requestIds.seen.entries := by
    intro now
    obtain ⟨d, hd, hsound, hentries⟩ := ReplayTable.pruneLoop_sound h.deliveries ttl now
    obtain ⟨r, hr, hsound', hentries'⟩ := ReplayTable.pruneLoop_sound h.requestIds ttl now
    refine ⟨d, r, ?_, hsound, hentries, hsound', hentries'⟩
    unfold prune
    rw [hd, hr]
    rfl
  cases call with
  | delivery key seenAt =>
      obtain ⟨d, r, hrun, hd, hd', hr, hr'⟩ := hprune seenAt
      obtain ⟨hsound, haccept⟩ := ReplayTable.record_sound hd key seenAt
      have hnaive : NaiveCache.apply ttl maxEntries (.delivery key seenAt)
          ⟨c.deliveries.seen.entries, c.requestIds.seen.entries⟩ =
          ((d.record maxEntries key seenAt).1,
            ⟨(d.record maxEntries key seenAt).2.seen.entries, r.seen.entries⟩) := by
        have hdef : NaiveCache.apply ttl maxEntries (.delivery key seenAt)
            ⟨c.deliveries.seen.entries, c.requestIds.seen.entries⟩ =
            ((NaiveCache.accept maxEntries key seenAt
                (NaiveCache.kept ttl seenAt c.deliveries.seen.entries)).1,
              ⟨(NaiveCache.accept maxEntries key seenAt
                (NaiveCache.kept ttl seenAt c.deliveries.seen.entries)).2,
                NaiveCache.kept ttl seenAt c.requestIds.seen.entries⟩) := rfl
        rw [hdef, ← hd', ← hr', ← haccept]
      exact ⟨_, _, checkAndRecord_eq hrun, by rw [hnaive], ⟨hsound, hr, by rw [hnaive]⟩⟩
  | requestId key seenAt =>
      obtain ⟨d, r, hrun, hd, hd', hr, hr'⟩ := hprune seenAt
      obtain ⟨hsound, haccept⟩ := ReplayTable.record_sound hr key seenAt
      have hnaive : NaiveCache.apply ttl maxEntries (.requestId key seenAt)
          ⟨c.deliveries.seen.entries, c.requestIds.seen.entries⟩ =
          ((r.record maxEntries key seenAt).1,
            ⟨d.seen.entries, (r.record maxEntries key seenAt).2.seen.entries⟩) := by
        have hdef : NaiveCache.apply ttl maxEntries (.requestId key seenAt)
            ⟨c.deliveries.seen.entries, c.requestIds.seen.entries⟩ =
            ((NaiveCache.accept maxEntries key seenAt
                (NaiveCache.kept ttl seenAt c.requestIds.seen.entries)).1,
              ⟨NaiveCache.kept ttl seenAt c.deliveries.seen.entries,
                (NaiveCache.accept maxEntries key seenAt
                  (NaiveCache.kept ttl seenAt c.requestIds.seen.entries)).2⟩) := rfl
        rw [hdef, ← hd', ← hr', ← haccept]
      exact ⟨_, _, checkAndRecordRequestId_eq hrun, by rw [hnaive], ⟨hd, hsound, by rw [hnaive]⟩⟩

/-- A run from tables that refine the lists.
Source: `remote/wire_protocol.py`, `ReplayCache`.  Kind: L -/
theorem run_refines (h : Refines maxEntries c n) (calls : List ReplayCall) :
    ∃ results c', run ttl maxEntries calls c = .ok (results, c') ∧
      (NaiveCache.run ttl maxEntries calls n).1 = results ∧
      Refines maxEntries c' (NaiveCache.run ttl maxEntries calls n).2 := by
  induction calls generalizing c n with
  | nil => exact ⟨[], c, rfl, rfl, h⟩
  | cons call rest ih =>
      obtain ⟨result, c₁, hcall, hresult, h₁⟩ := @apply_refines ttl maxEntries c n h call
      obtain ⟨results, c₂, hrest, hresults, h₂⟩ := ih h₁
      refine ⟨result :: results, c₂, ?_, ?_, h₂⟩
      · unfold run
        rw [hcall]
        show (do
          let (results, c) ← run ttl maxEntries rest c₁
          return (result :: results, c) : Except PyError _) = _
        rw [hrest]
        rfl
      · exact congrArg₂ List.cons hresult hresults

/-- Empty tables refine empty filters.  Kind: L -/
theorem refines_empty (maxEntries : ℕ) : Refines maxEntries empty ⟨[], []⟩ where
  deliveries := ⟨indexes_empty, Nat.zero_le _⟩
  requestIds := ⟨indexes_empty, Nat.zero_le _⟩
  contents := rfl

/-- **The lazy cache is the filter.**  For every sequence of calls, at whatever times, no call
raises `KeyError`, the results and the contents are those of the plain lists, each key has exactly
one item in its heap, with the time at which it was seen, and the tables keep to their bound.
Source: `remote/wire_protocol.py`, `ReplayCache`.  Kind: P -/
theorem replayCache_refines_filter (ttl : ℚ) (maxEntries : ℕ) (calls : List ReplayCall) :
    ∃ results c, run ttl maxEntries calls empty = .ok (results, c) ∧
      NaiveCache.run ttl maxEntries calls ⟨[], []⟩ =
        (results, ⟨c.deliveries.seen.entries, c.requestIds.seen.entries⟩) ∧
      (∀ key, c.deliveries.expirations.countP (fun item => (ofLex item).2 = key) =
        if c.deliveries.seen.contains key then 1 else 0) ∧
      (∀ key t, toLex (t, key) ∈ c.deliveries.expirations ↔ c.deliveries.seen.get? key = some t) ∧
      (∀ key, c.requestIds.expirations.countP (fun item => (ofLex item).2 = key) =
        if c.requestIds.seen.contains key then 1 else 0) ∧
      (∀ key t, toLex (t, key) ∈ c.requestIds.expirations ↔ c.requestIds.seen.get? key = some t) ∧
      c.deliveries.seen.size ≤ maxEntries ∧ c.requestIds.seen.size ≤ maxEntries := by
  obtain ⟨results, c, hrun, hresults, hrefines⟩ :=
    @run_refines ttl maxEntries _ _ (refines_empty maxEntries) calls
  refine ⟨results, c, hrun, Prod.ext hresults hrefines.contents, ?_, ?_, ?_, ?_, ?_, ?_⟩
  · exact hrefines.deliveries.indexes.countP
  · exact fun key t => hrefines.deliveries.indexes.mem_iff
  · exact hrefines.requestIds.indexes.countP
  · exact fun key t => hrefines.requestIds.indexes.mem_iff
  · exact hrefines.deliveries.bounded
  · exact hrefines.requestIds.bounded

/-! ## The cache of the service -/

/-- `ReplayCache` deletes without asking whether the key is there, which it always is.  Kind: L -/
theorem pruneLoop_seen {ttl now : ℚ} {heap : List (ℚ ×ₗ ReplayKey)} {d : Dict ReplayKey ℚ}
    {t : ReplayTable ReplayKey} (h : ReplayTable.pruneLoop ttl now heap d = .ok t) :
    ReplayCache.pruneLoop ttl now heap d = ⟨t.seen, t.expirations⟩ := by
  induction heap generalizing d with
  | nil =>
      cases h
      rfl
  | cons item rest ih =>
      unfold ReplayTable.pruneLoop at h
      unfold ReplayCache.pruneLoop
      split_ifs at h ⊢
      · exact ih h
      · cases h
        rfl

/-- Without the request ids a call is that of `ReplayCache`.
Source: `remote/wire_protocol.py`, `ReplayCache.check_and_record`.  Kind: L -/
theorem checkAndRecord_seen {key : ReplayKey} {seenAt : ℚ} {result : Bool} {c' : ReplayTables}
    (h : c.checkAndRecord ttl maxEntries key seenAt = .ok (result, c')) :
    ReplayCache.checkAndRecord ttl maxEntries key seenAt
        ⟨c.deliveries.seen, c.deliveries.expirations⟩ =
      (result, ⟨c'.deliveries.seen, c'.deliveries.expirations⟩) := by
  obtain ⟨⟨d, r⟩, hprune, -⟩ := Except.bind_eq_ok.mp h
  have hd : ReplayTable.pruneLoop ttl seenAt c.deliveries.expirations c.deliveries.seen =
      .ok d := by
    obtain ⟨d', hd', hrest⟩ := Except.bind_eq_ok.mp hprune
    obtain ⟨r', -, hend⟩ := Except.bind_eq_ok.mp hrest
    cases hend
    exact hd'
  obtain ⟨hresult, hc'⟩ :=
    Prod.mk.inj (Except.ok.inj ((checkAndRecord_eq hprune).symm.trans h))
  rw [← hresult, ← hc']
  unfold ReplayCache.checkAndRecord ReplayCache.prune ReplayTable.record
  rw [pruneLoop_seen hd]
  simp only
  split_ifs <;> rfl

end ReplayTables

end ExpraConnect
