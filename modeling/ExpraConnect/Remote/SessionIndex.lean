import ExpraConnect.Lib.ExpiryHeap
import ExpraConnect.Remote.SessionSafety

/-!
# The expiry index of the sessions

`_prune_locked` pops the sessions that are over from a heap of `(expires_at, session_id)`.  Sessions
also leave the registry by ways that do not touch the heap, which therefore keeps items of sessions
that are gone, under ids that may come back.

* `Indexed`: every session has its own item, and the heap is bounded;
* `prune_eq`: pruning is a scan of all sessions;
* `SessionTable`: a registry without an index, which scans;
* `apply_table`, `index_refines_scan`: for every sequence of calls at whatever readings of the clock
  and every id factory, the results and the sessions are those of the scanning registry.
-/

namespace ExpraConnect

open ExpraConnect.Lib

namespace LogicalSessionRegistry

variable {cfg : SessionConfig} {r : LogicalSessionRegistry} {now : ℚ}

/-! ## The index -/

/-- The heap is sorted and bounded, and has an item for each session.  Kind: D -/
structure Indexed (cfg : SessionConfig) (r : LogicalSessionRegistry) : Prop where
  /-- The smallest item is in front. -/
  sorted : r.expirations.Pairwise (· ≤ ·)
  /-- Every session has an item with its own time. -/
  covers : Covers LogicalSession.expiresAt r.sessions r.expirations
  /-- The heap is at most twice as large as the registry may be. -/
  bounded : r.expirations.length ≤ 2 * cfg.maxSessions

/-- The loop of `_prune` is the general one that pops stale items.  Kind: L -/
theorem pruneLoop_eq (now : ℚ) (heap : List (ℚ ×ₗ String)) (sessions : Dict String LogicalSession) :
    pruneLoop now heap sessions =
      popStale LogicalSession.expiresAt (fun t => t ≤ now) heap sessions := by
  induction heap generalizing sessions with
  | nil => rfl
  | cons item rest ih =>
      unfold pruneLoop popStale
      split_ifs
      · exact ih _
      · exact ih _
      · rfl

/-- **Pruning is a scan.**  It deletes the sessions that are over, and no other.
Source: `remote/session.py`, `_prune_locked`.  Kind: L -/
theorem prune_eq (h : r.Indexed cfg) (now : ℚ) :
    r.prune now =
      { r with
        sessions := r.sessions.filterEntries fun p => ¬p.2.expiresAt ≤ now
        expirations := living (fun t => t ≤ now) r.expirations } := by
  have hdead : Antitone fun t : ℚ => t ≤ now := fun t t' hle hle' => hle.trans hle'
  unfold prune
  rw [pruneLoop_eq, popStale_eq hdead h.sorted h.covers]

/-- Pruning keeps the heap an index.  Kind: L -/
theorem Indexed.prune (h : r.Indexed cfg) (now : ℚ) : (r.prune now).Indexed cfg := by
  rw [prune_eq h now]
  refine ⟨h.sorted.filter _, h.covers.living fun t => t ≤ now, ?_⟩
  exact (List.length_filter_le _ _).trans h.bounded

/-- The empty heap indexes the empty registry.  Kind: L -/
theorem indexed_empty (cfg : SessionConfig) : empty.Indexed cfg :=
  ⟨List.Pairwise.nil, covers_empty _, Nat.zero_le _⟩

/-- A session that is dropped leaves its item behind.  Kind: L -/
theorem Indexed.erase (h : r.Indexed cfg) (id : String) :
    Indexed cfg { r with sessions := r.sessions.erase id } :=
  ⟨h.sorted, h.covers.erase id, h.bounded⟩

/-- A session that moves to another connection keeps its time.  Kind: L -/
theorem Indexed.move (h : r.Indexed cfg) {id : String} {s : LogicalSession}
    (hs : r.sessions.get? id = some s) (generation : Generation) :
    Indexed cfg { r with sessions := r.sessions.insert id (s.moveTo generation) } :=
  ⟨h.sorted, h.covers.insert_of_get? hs rfl, h.bounded⟩

/-- A new session comes with its item, and a heap that grew too large is made anew.  Kind: L -/
theorem Indexed.create (h : r.Indexed cfg) (owner : String) (generation : Generation) (now : ℚ) :
    (LogicalSessionRegistry.create cfg owner generation now r).2.Indexed cfg := by
  have hpruned := h.prune now
  unfold LogicalSessionRegistry.create
  dsimp only
  split
  · exact hpruned
  · rename_i hroom
    split
    · exact ⟨hpruned.sorted, hpruned.covers, hpruned.bounded⟩
    · rename_i id drawn halloc
      obtain ⟨hnew, -⟩ := allocateId_eq_ok halloc
      split_ifs with hlarge
      · refine ⟨List.pairwise_insertionSort _ _, covers_rebuilt _, ?_⟩
        rw [List.length_insertionSort, List.length_map,
          Dict.entries_insert_of_fresh hnew, List.length_append, List.length_singleton]
        have hsize : (r.prune now).sessions.entries.length < cfg.maxSessions := not_le.mp hroom
        omega
      · exact ⟨hpruned.sorted.orderedInsert _ _, hpruned.covers.insert _ _, not_lt.mp hlarge⟩

/-- Continuing a session keeps the heap an index.  Kind: L -/
theorem Indexed.continueSession (h : r.Indexed cfg) (sessionId owner : String) (resume : Bool)
    (generation : Generation) (now : ℚ) :
    (LogicalSessionRegistry.continueSession cfg sessionId owner resume generation now r).2.Indexed
      cfg := by
  unfold LogicalSessionRegistry.continueSession
  split
  · exact h.erase sessionId
  · rename_i session hlive
    split_ifs
    · exact h
    · exact h
    · exact h
    · exact h
    · exact h.erase sessionId
    · exact h.move (live_eq_some_iff.mp hlive).1 generation

/-- No call loses the index.  Source: `remote/session.py`.  Kind: L -/
theorem Indexed.apply (h : r.Indexed cfg) (call : SessionCall) :
    (call.apply cfg r).Indexed cfg := by
  cases call with
  | authenticate request generation now =>
      unfold SessionCall.apply LogicalSessionRegistry.authenticate
      dsimp only
      split
      · exact h
      · split
        · exact h.create _ _ _
        · split
          · exact h
          · exact h.continueSession ..
  | assertCurrent sessionId generation now =>
      unfold SessionCall.apply LogicalSessionRegistry.assertCurrent
      dsimp only
      split
      · exact h
      · split
        · exact h
        · split
          · exact h.erase sessionId
          · split
            · exact h
            · exact h

/-- A run of calls keeps the heap an index.  Kind: L -/
theorem Indexed.runCalls (h : r.Indexed cfg) (calls : List SessionCall) :
    (LogicalSessionRegistry.runCalls cfg calls r).Indexed cfg := by
  induction calls generalizing r with
  | nil => exact h
  | cons call rest ih => exact ih (h.apply call)

/-- What a call answers: the id of a session, or nothing. -/
def SessionCall.answer (cfg : SessionConfig) : SessionCall → LogicalSessionRegistry →
    Except PyError (Option String)
  | .authenticate request generation now, r =>
      (LogicalSessionRegistry.authenticate cfg request generation now r).1.map some
  | .assertCurrent sessionId generation now, r =>
      (LogicalSessionRegistry.assertCurrent sessionId generation now r).1.map fun _ => none

/-- The answers of a run. -/
def answers (cfg : SessionConfig) :
    List SessionCall → LogicalSessionRegistry → List (Except PyError (Option String))
  | [], _ => []
  | call :: rest, r => call.answer cfg r :: answers cfg rest (call.apply cfg r)

end LogicalSessionRegistry

/-! ## A registry that scans -/

/-- The sessions, and how many ids the factory has returned. -/
structure SessionTable where
  /-- The sessions by id. -/
  sessions : Dict String LogicalSession
  /-- How many ids the factory has returned. -/
  drawn : ℕ

/-- The registry without its index. -/
def LogicalSessionRegistry.table (r : LogicalSessionRegistry) : SessionTable :=
  ⟨r.sessions, r.drawn⟩

namespace SessionTable

open LogicalSessionRegistry

variable (cfg : SessionConfig)

/-- The table as a registry whose index is empty, for the operations that do not use it. -/
def registry (t : SessionTable) : LogicalSessionRegistry := ⟨t.sessions, [], t.drawn⟩

/-- Drop every session that is over. -/
def scan (now : ℚ) (t : SessionTable) : SessionTable :=
  { t with sessions := t.sessions.filterEntries fun p => ¬p.2.expiresAt ≤ now }

/-- Create a session after a scan. -/
def create (owner : String) (generation : Generation) (now : ℚ) (t : SessionTable) :
    Except PyError String × SessionTable :=
  let t := t.scan now
  if cfg.maxSessions ≤ t.sessions.size then (.error (authError "logical session limit reached"), t)
  else
    match allocateId cfg.factory t.sessions 100 t.drawn with
    | (.error e, drawn) => (.error e, { t with drawn := drawn })
    | (.ok id, drawn) =>
        (.ok id, ⟨t.sessions.insert id ⟨owner, generation, now + cfg.ttl, ∅⟩, drawn⟩)

/-- `authenticate`, with a scan. -/
def authenticate (request : RemoteRequest) (connectionGeneration : Generation) (now : ℚ)
    (t : SessionTable) : Except PyError String × SessionTable :=
  match validateGeneration connectionGeneration, request.sessionId with
  | .ok generation, none => t.create cfg request.owner generation now
  | _, _ =>
      let out := LogicalSessionRegistry.authenticate cfg request connectionGeneration now t.registry
      (out.1, out.2.table)

/-- What a call does to the table. -/
def apply : SessionCall → SessionTable → SessionTable
  | .authenticate request generation now, t => (t.authenticate cfg request generation now).2
  | .assertCurrent sessionId generation now, t =>
      (LogicalSessionRegistry.assertCurrent sessionId generation now t.registry).2.table

/-- What a call answers. -/
def answer : SessionCall → SessionTable → Except PyError (Option String)
  | .authenticate request generation now, t =>
      (t.authenticate cfg request generation now).1.map some
  | .assertCurrent sessionId generation now, t =>
      (LogicalSessionRegistry.assertCurrent sessionId generation now t.registry).1.map fun _ => none

/-- A run of calls. -/
def runCalls (calls : List SessionCall) (t : SessionTable) : SessionTable :=
  calls.foldl (fun t call => apply cfg call t) t

/-- The answers of a run. -/
def answers : List SessionCall → SessionTable → List (Except PyError (Option String))
  | [], _ => []
  | call :: rest, t => answer cfg call t :: answers rest (apply cfg call t)

end SessionTable

/-! ## The index refines the scan -/

namespace LogicalSessionRegistry

variable {cfg : SessionConfig} {r : LogicalSessionRegistry}

/-- `create` on the heap refines `create` on the scan.  Kind: L -/
theorem create_table (h : r.Indexed cfg) (owner : String) (generation : Generation) (now : ℚ) :
    (create cfg owner generation now r).1 = (r.table.create cfg owner generation now).1 ∧
      (create cfg owner generation now r).2.table =
        (r.table.create cfg owner generation now).2 := by
  have hscan : (r.prune now).table = r.table.scan now := by
    rw [prune_eq h now]
    rfl
  have hsessions : (r.prune now).sessions = (r.table.scan now).sessions := by rw [← hscan]; rfl
  have hdrawn : (r.prune now).drawn = (r.table.scan now).drawn := by rw [← hscan]; rfl
  unfold create SessionTable.create
  dsimp only
  rw [hsessions, hdrawn]
  split_ifs
  · exact ⟨rfl, hscan⟩
  · rcases allocateId cfg.factory (r.table.scan now).sessions 100 (r.table.scan now).drawn with
      ⟨_ | id, drawn⟩
    · exact ⟨rfl, rfl⟩
    · exact ⟨rfl, rfl⟩

/-- `continueSession` on the heap refines `continueSession` on the scan.  Kind: L -/
theorem continueSession_table (sessionId owner : String) (resume : Bool) (generation : Generation)
    (now : ℚ) (r : LogicalSessionRegistry) :
    (continueSession cfg sessionId owner resume generation now r).1 =
        (continueSession cfg sessionId owner resume generation now r.table.registry).1 ∧
      (continueSession cfg sessionId owner resume generation now r).2.table =
        (continueSession cfg sessionId owner resume generation now r.table.registry).2.table := by
  have hlive : r.table.registry.live sessionId now = r.live sessionId now := rfl
  unfold continueSession
  rw [hlive]
  split
  · exact ⟨rfl, rfl⟩
  · split_ifs
    all_goals exact ⟨rfl, rfl⟩

/-- `authenticate` on the heap refines `authenticate` on the scan.  Kind: L -/
theorem authenticate_table (h : r.Indexed cfg) (request : RemoteRequest) (generation : Generation)
    (now : ℚ) :
    (authenticate cfg request generation now r).1 =
        (r.table.authenticate cfg request generation now).1 ∧
      (authenticate cfg request generation now r).2.table =
        (r.table.authenticate cfg request generation now).2 := by
  unfold authenticate SessionTable.authenticate
  cases hvalid : validateGeneration generation with
  | error e => exact ⟨by simp [authenticate, hvalid], by simp [authenticate, hvalid]; rfl⟩
  | ok token =>
      cases hsession : request.sessionId with
      | none => exact create_table h request.owner token now
      | some sessionId =>
          obtain ⟨hresult, htable⟩ := @continueSession_table cfg sessionId request.owner
            request.resume token now r
          simp only [authenticate, hvalid, hsession]
          split_ifs
          · exact ⟨rfl, rfl⟩
          · exact ⟨hresult, htable⟩

/-- `assertCurrent` on the heap refines `assertCurrent` on the scan.  Kind: L -/
theorem assertCurrent_table (sessionId : String) (generation : Generation) (now : ℚ)
    (r : LogicalSessionRegistry) :
    (assertCurrent sessionId generation now r).1 =
        (assertCurrent sessionId generation now r.table.registry).1 ∧
      (assertCurrent sessionId generation now r).2.table =
        (assertCurrent sessionId generation now r.table.registry).2.table := by
  have hlive : r.table.registry.live sessionId now = r.live sessionId now := rfl
  unfold assertCurrent
  rw [hlive]
  split
  · exact ⟨rfl, rfl⟩
  · split
    · exact ⟨rfl, rfl⟩
    · split
      · exact ⟨rfl, rfl⟩
      · split_ifs
        all_goals exact ⟨rfl, rfl⟩

/-- One call.  Source: `remote/session.py`, `authenticate` and `assert_current`.  Kind: L -/
theorem apply_table (h : r.Indexed cfg) (call : SessionCall) :
    call.answer cfg r = SessionTable.answer cfg call r.table ∧
      (call.apply cfg r).table = SessionTable.apply cfg call r.table := by
  cases call with
  | authenticate request generation now =>
      obtain ⟨hresult, htable⟩ := authenticate_table h request generation now
      exact ⟨congrArg (Except.map some) hresult, htable⟩
  | assertCurrent sessionId generation now =>
      obtain ⟨hresult, htable⟩ := @assertCurrent_table sessionId generation now r
      exact ⟨congrArg (Except.map fun _ => none) hresult, htable⟩

/-- `runCalls` on the heap refines `runCalls` on the scan.  Kind: L -/
theorem runCalls_table (h : r.Indexed cfg) (calls : List SessionCall) :
    answers cfg calls r = SessionTable.answers cfg calls r.table ∧
      (runCalls cfg calls r).table = SessionTable.runCalls cfg calls r.table := by
  induction calls generalizing r with
  | nil => exact ⟨rfl, rfl⟩
  | cons call rest ih =>
      obtain ⟨hanswer, htable⟩ := apply_table h call
      obtain ⟨hanswers, hrest⟩ := ih (h.apply call)
      refine ⟨?_, ?_⟩
      · show call.answer cfg r :: answers cfg rest (call.apply cfg r) = _
        rw [hanswer, hanswers, htable]
        rfl
      · show (runCalls cfg rest (call.apply cfg r)).table = _
        rw [hrest, htable]
        rfl

/-- The sessions that are not over. -/
def unexpired (r : LogicalSessionRegistry) (now : ℚ) : List LogicalSession :=
  r.sessions.values.filter fun s => now < s.expiresAt

/-- After a pruning the unexpired sessions are left.  Kind: L -/
theorem size_prune (h : r.Indexed cfg) (now : ℚ) :
    (r.prune now).sessions.size = (r.unexpired now).length := by
  rw [prune_eq h now]
  unfold unexpired Dict.values Dict.size Dict.filterEntries
  rw [List.filter_map, List.length_map]
  simp only [not_le]
  rfl

/-- What the allocation of an id raises is never the error of the capacity.  Kind: L -/
theorem allocateId_ne_limit (factory : ℕ → String) (sessions : Dict String LogicalSession)
    (tries drawn : ℕ) :
    (allocateId factory sessions tries drawn).1 ≠
      .error (authError "logical session limit reached") := by
  induction tries generalizing drawn with
  | zero => simp [allocateId, authError]
  | succ tries ih =>
      unfold allocateId
      split_ifs
      · simp [authError]
      · exact ih _
      · simp

/-- A creation fails for capacity if and only if there are enough sessions that are not over.
Source: `remote/session.py`, `_create`.  Kind: L -/
theorem create_limit_iff (h : r.Indexed cfg) (owner : String) (generation : Generation) (now : ℚ) :
    (create cfg owner generation now r).1 = .error (authError "logical session limit reached") ↔
      cfg.maxSessions ≤ (r.unexpired now).length := by
  have hno := allocateId_ne_limit cfg.factory (r.prune now).sessions 100 (r.prune now).drawn
  rw [← size_prune h now]
  unfold create
  dsimp only
  split_ifs with hfull
  · exact iff_of_true rfl hfull
  · refine iff_of_false ?_ hfull
    rcases halloc : allocateId cfg.factory (r.prune now).sessions 100 (r.prune now).drawn with
      ⟨e | id, drawn⟩
    · rw [halloc] at hno
      exact fun heq => hno (congrArg Except.error (Except.error.inj heq))
    · exact fun heq => by cases heq

/-- **The index refines the scan.**  After every sequence of calls, at whatever readings of the
clock and whatever ids the factory returns: the answers and the sessions are those of the registry
that scans; every session has an item with its own time; the pruning of a creation deletes the
sessions that are over, and no other; a creation fails for capacity if and only if `max_sessions`
sessions are not over; and the heap has at most `2 * max_sessions` items, also after a creation.
Source: `remote/session.py`, `authenticate`, `assert_current`, `_create` and `_prune_locked`.
Kind: P -/
theorem index_refines_scan (cfg : SessionConfig) (calls : List SessionCall) :
    answers cfg calls empty = SessionTable.answers cfg calls empty.table ∧
      (runCalls cfg calls empty).table = SessionTable.runCalls cfg calls empty.table ∧
      (∀ id s, (runCalls cfg calls empty).sessions.get? id = some s →
        toLex (s.expiresAt, id) ∈ (runCalls cfg calls empty).expirations) ∧
      (∀ now id s, ((runCalls cfg calls empty).prune now).sessions.get? id = some s ↔
        (runCalls cfg calls empty).sessions.get? id = some s ∧ now < s.expiresAt) ∧
      (∀ owner generation now,
        (create cfg owner generation now (runCalls cfg calls empty)).1 =
            .error (authError "logical session limit reached") ↔
          cfg.maxSessions ≤ ((runCalls cfg calls empty).unexpired now).length) ∧
      (runCalls cfg calls empty).expirations.length ≤ 2 * cfg.maxSessions ∧
      ∀ owner generation now,
        (create cfg owner generation now (runCalls cfg calls empty)).2.expirations.length ≤
          2 * cfg.maxSessions := by
  have h : (runCalls cfg calls empty).Indexed cfg := (indexed_empty cfg).runCalls calls
  obtain ⟨hanswers, htable⟩ := runCalls_table (indexed_empty cfg) calls
  refine ⟨hanswers, htable, h.covers, fun now id s => ?_, create_limit_iff h, h.bounded,
    fun owner generation now => (h.create owner generation now).bounded⟩
  rw [prune_eq h now, Dict.get?_filterEntries, Option.filter_eq_some_iff]
  simp

end LogicalSessionRegistry

end ExpraConnect
