import ExpraConnect.Remote.WireProtocol

/-!
# Logical sessions

`remote/session.py`.  `LogicalSessionRegistry.authenticate` and `assertCurrent` are the critical
sections of the two public calls, with the clock reading as an argument; the id factory is a
stream of ids, of which `drawn` have been used.
-/

namespace ExpraConnect

open ExpraConnect.Lib

/-- A connection generation; `none` for a caller without a socket. -/
abbrev Generation := Option String

/-- Source: `remote/session.py`, `_LogicalSession`.  Kind: D -/
structure LogicalSession where
  /-- Whose session it is. -/
  owner : String
  /-- The connection that may publish results. -/
  activeGeneration : Generation
  /-- When the session ends. -/
  expiresAt : ℚ
  /-- The connections that were superseded. -/
  retired : Finset Generation
  deriving DecidableEq

/-- The session continues on `generation`; the connection it was on is retired. -/
def LogicalSession.moveTo (s : LogicalSession) (generation : Generation) : LogicalSession :=
  { s with retired := insert s.activeGeneration s.retired, activeGeneration := generation }

/-- The bounds of a registry, and the ids its factory returns.
Source: `remote/session.py`, `LogicalSessionRegistry.__init__`.  Kind: D -/
structure SessionConfig where
  /-- The lifetime of a session. -/
  ttl : ℚ
  /-- How many sessions may exist. -/
  maxSessions : ℕ
  /-- How many generations a session may retire. -/
  maxGenerations : ℕ
  /-- The result of the `n`-th call of the id factory. -/
  factory : ℕ → String

/-- Source: `remote/session.py`, `LogicalSessionRegistry`.  Kind: D -/
structure LogicalSessionRegistry where
  /-- The sessions by id. -/
  sessions : Dict String LogicalSession
  /-- The heap of `(expires_at, session_id)`, smallest first. -/
  expirations : List (ℚ ×ₗ String)
  /-- How many ids the factory has returned. -/
  drawn : ℕ

/-- `_valid_token`. -/
def validToken (text : String) : Bool :=
  decide (1 ≤ text.length ∧ text.length ≤ maxIdentifierLength)

/-- A `RemoteAuthError`. -/
def authError (message : String) : PyError := ⟨.remoteAuth, message⟩

namespace LogicalSessionRegistry

/-- A registry without sessions. -/
def empty : LogicalSessionRegistry := ⟨Dict.empty, [], 0⟩

/-- Source: `remote/session.py`, `_validate_generation`.  Kind: D -/
def validateGeneration (generation : Generation) : Except PyError Generation :=
  match generation with
  | none => .ok none
  | some g =>
      if validToken g then .ok (some g) else .error (authError "connection generation is invalid")

/-- The validation returns its argument.  Kind: L -/
theorem validateGeneration_eq_ok {g g' : Generation} (h : validateGeneration g = .ok g') :
    g' = g := by
  unfold validateGeneration at h
  split at h
  · cases h
    rfl
  · split at h
    · cases h
      rfl
    · cases h

/-- The loop of `_prune_locked`: a popped item deletes its session unless the id was reused.
Source: `remote/session.py`, `_prune_locked`.  Kind: D -/
def pruneLoop (now : ℚ) :
    List (ℚ ×ₗ String) → Dict String LogicalSession →
      List (ℚ ×ₗ String) × Dict String LogicalSession
  | [], sessions => ([], sessions)
  | item :: rest, sessions =>
      if (ofLex item).1 ≤ now then
        pruneLoop now rest
          (if (sessions.get? (ofLex item).2).any fun s => s.expiresAt = (ofLex item).1
            then sessions.erase (ofLex item).2 else sessions)
      else (item :: rest, sessions)

/-- Source: `remote/session.py`, `_prune_locked`.  Kind: D -/
def prune (now : ℚ) (r : LogicalSessionRegistry) : LogicalSessionRegistry :=
  let pruned := pruneLoop now r.expirations r.sessions
  { r with expirations := pruned.1, sessions := pruned.2 }

/-- The loop of `_allocate_id_locked`, with the number of tries left; the second component is
how many ids have been drawn afterwards.
Source: `remote/session.py`, `_allocate_id_locked`.  Kind: D -/
def allocateId (factory : ℕ → String) (sessions : Dict String LogicalSession) :
    ℕ → ℕ → Except PyError String × ℕ
  | 0, drawn => (.error (authError "could not allocate a logical session"), drawn)
  | tries + 1, drawn =>
      if !validToken (factory drawn) then
        (.error (authError "logical session id is invalid"), drawn + 1)
      else if sessions.contains (factory drawn) then
        allocateId factory sessions tries (drawn + 1)
      else (.ok (factory drawn), drawn + 1)

/-- The session under an id, unless it is unknown or `now >= session.expires_at`. -/
def live (r : LogicalSessionRegistry) (id : String) (now : ℚ) : Option LogicalSession :=
  (r.sessions.get? id).filter fun s => now < s.expiresAt

/-- A live session is a stored one before its expiry.  Kind: L -/
theorem live_eq_some_iff {r : LogicalSessionRegistry} {id : String} {now : ℚ}
    {s : LogicalSession} :
    r.live id now = some s ↔ r.sessions.get? id = some s ∧ now < s.expiresAt := by
  simp [live, Option.filter_eq_some_iff]

variable (cfg : SessionConfig)

/-- Source: `remote/session.py`, `_create`.  Kind: D -/
def create (owner : String) (generation : Generation) (now : ℚ) (r : LogicalSessionRegistry) :
    Except PyError String × LogicalSessionRegistry :=
  let r := r.prune now
  if cfg.maxSessions ≤ r.sessions.size then (.error (authError "logical session limit reached"), r)
  else
    match allocateId cfg.factory r.sessions 100 r.drawn with
    | (.error e, drawn) => (.error e, { r with drawn := drawn })
    | (.ok id, drawn) =>
        let sessions := r.sessions.insert id ⟨owner, generation, now + cfg.ttl, ∅⟩
        let expirations := r.expirations.orderedInsert (· ≤ ·) (toLex (now + cfg.ttl, id))
        -- a heap twice as large as the table is rebuilt from the table
        let expirations := if 2 * cfg.maxSessions < expirations.length
          then (sessions.entries.map fun p => toLex (p.2.expiresAt, p.1)).insertionSort (· ≤ ·)
          else expirations
        (.ok id, ⟨sessions, expirations, drawn⟩)

/-- The part of `authenticate` that continues an existing session.
Source: `remote/session.py`, `authenticate`.  Kind: D -/
def continueSession (sessionId owner : String) (resume : Bool) (generation : Generation) (now : ℚ)
    (r : LogicalSessionRegistry) : Except PyError String × LogicalSessionRegistry :=
  match r.live sessionId now with
  | none =>
      (.error (authError "logical session is expired"),
        { r with sessions := r.sessions.erase sessionId })
  | some session =>
      if session.owner ≠ owner then
        (.error (authError "logical session belongs to another identity"), r)
      else if generation ∈ session.retired then
        (.error (authError "connection generation is retired"), r)
      else if generation = session.activeGeneration then (.ok sessionId, r)
      else if !resume then (.error (authError "connection generation is stale"), r)
      else if cfg.maxGenerations ≤ session.retired.card then
        -- fail closed: a session that cannot remember a retired generation is dropped
        (.error (authError "logical session retired-generation limit exceeded"),
          { r with sessions := r.sessions.erase sessionId })
      else
        (.ok sessionId,
          { r with sessions := r.sessions.insert sessionId (session.moveTo generation) })

/-- Source: `remote/session.py`, `authenticate`, at a finite clock reading.  Kind: D -/
def authenticate (request : RemoteRequest) (connectionGeneration : Generation) (now : ℚ)
    (r : LogicalSessionRegistry) : Except PyError String × LogicalSessionRegistry :=
  match validateGeneration connectionGeneration with
  | .error e => (.error e, r)
  | .ok generation =>
      match request.sessionId with
      | none => create cfg request.owner generation now r
      | some sessionId =>
          if !validToken sessionId then (.error (authError "logical session id is invalid"), r)
          else continueSession cfg sessionId request.owner request.resume generation now r

/-- Source: `remote/session.py`, `assert_current`, at a finite clock reading.  Kind: D -/
def assertCurrent (sessionId : String) (generation : Generation) (now : ℚ)
    (r : LogicalSessionRegistry) : Except PyError Unit × LogicalSessionRegistry :=
  match validateGeneration generation with
  | .error e => (.error e, r)
  | .ok token =>
      if !validToken sessionId then (.error (authError "logical session id is invalid"), r)
      else
        match r.live sessionId now with
        | none =>
            (.error (authError "logical session is expired"),
              { r with sessions := r.sessions.erase sessionId })
        | some session =>
            if session.activeGeneration ≠ token then
              (.error (authError "connection generation is stale"), r)
            else (.ok (), r)

end LogicalSessionRegistry

end ExpraConnect
