import ExpraConnect.Discovery.Models
import ExpraConnect.Pairing.Manager
import ExpraConnect.Runtime.State

/-!
# What a connection may write into a record of trust

`connections/manager.py`: a call of `connect` takes the candidate that discovery found for a trusted
peer, compares it with the stored record and with what the peer says in its `hello`, and records the
candidate's transport when it is a new one.

* `validateHelloGeneration`, `recordGeneration`, `connect`, `reconnect`;
* `Continues`: the root stays, and another transport comes with a larger generation and a proof;
* `Steady`: a candidate with another transport that passes the comparison names the stored root, and
  replaces a transport that was stored;
* `root_continuity`: in every run of such calls each record of trust continues; `root_disappears`:
  a candidate that leaves the root out takes it away.

What discovery found, what the routes answer and what the store does are the arguments of a call.
The states shown to observers, the numbering of the connections and the marks on the routes are left
out.
-/

namespace ExpraConnect

open ExpraConnect.Lib

/-! ## The checks -/

/-- `hello.get(field) == expected`, for a text. -/
def Value.isText (expected : String) : Option Value → Bool
  | some (.str s) => s = expected
  | _ => false

/-- `hello.get(field) == expected`, for an integer: `True` and `1.0` are equal to `1`. -/
def Value.isNumber (expected : ℤ) : Option Value → Bool
  | some (.int n) => n = expected
  | some (.bool b) => (if b then 1 else 0) = expected
  | some (.float (.finite q)) => q = expected
  | _ => false

/-- `hello.get(field) is None`. -/
def Value.isNone : Option Value → Bool
  | none | some .null => true
  | _ => false

/-- The candidate's fields that are present are what the peer says. -/
def helloMatches (candidate : DiscoveredNodeCandidate) (hello : Fields) : Bool :=
  candidate.transportFingerprint.all (fun e =>
    Value.isText e (getField "transport_fingerprint" hello)) &&
  candidate.rootPublicKey.all (fun e => Value.isText e (getField "root_public_key" hello)) &&
  candidate.transportGeneration.all (fun e =>
    Value.isNumber e (getField "transport_generation" hello)) &&
  candidate.transportProof.all (fun e => Value.isText e (getField "transport_proof" hello))

/-- The candidate has the transport of the record. -/
def SameTransport (trusted : TrustedPeer) (candidate : DiscoveredNodeCandidate) : Prop :=
  candidate.transportFingerprint.map Fingerprint.text = trusted.transportFingerprint

instance (trusted : TrustedPeer) (candidate : DiscoveredNodeCandidate) :
    Decidable (SameTransport trusted candidate) :=
  inferInstanceAs (Decidable (_ = _))

/-- `candidate_transport_generation_allowed` on the fields of a candidate. -/
def candidateAllowed (check : SignatureCheck) (trusted : TrustedPeer)
    (candidate : DiscoveredNodeCandidate) : Bool :=
  candidateTransportGenerationAllowed check trusted.peerId trusted.toMaterial
    candidate.transportFingerprint candidate.transportGeneration candidate.transportProof

/-- Source: `connections/manager.py`, `_validate_hello_generation`.  Kind: D -/
def validateHelloGeneration (check : SignatureCheck) (trusted : TrustedPeer)
    (candidate : DiscoveredNodeCandidate) (hello : Fields) : Except PyError Unit :=
  if ["transport_fingerprint", "root_public_key", "transport_generation",
      "transport_proof"].all fun field => Value.isNone (getField field hello) then
    if SameTransport trusted candidate then .ok ()
    else .error ⟨.remoteAuth, "replacement transport has no continuity proof"⟩
  else if !helloMatches candidate hello then
    .error ⟨.remoteAuth, "hello transport continuity does not match route"⟩
  else if SameTransport trusted candidate then .ok ()
  else if !candidateAllowed check trusted candidate then
    .error ⟨.remoteAuth, "transport continuity proof is invalid"⟩
  else .ok ()

/-- Source: `remote/wire_protocol.py`, `parse_hello_capabilities`.  Kind: D -/
def parseHelloCapabilities (hello : Fields) : Except PyError (Finset NodeCapability) :=
  match (getField "capabilities" hello).getD (.list []) with
  | .list items =>
      if items.all fun v => v.asStr?.isSome then
        .ok ((items.filterMap fun v => v.asStr?.bind fun s =>
          if s = "read_state" then some NodeCapability.readState
          else if s = "remote_management" then some .remoteManagement
          else none).toFinset)
      else .error ⟨.remoteProtocol, "hello capability must be a string"⟩
  | _ => .error ⟨.remoteProtocol, "hello capabilities must be a list"⟩

/-! ## Connecting -/

/-- Source: `connections/manager.py`, `ConnectionManager`.  Kind: D -/
structure ConnectionManager where
  /-- `_pairing` -/
  pairing : PairingManager
  /-- `_registry`, as the trust of its records. -/
  registry : Dict NodeId TrustState
  /-- The peers with a provider. -/
  providers : Finset NodeId

/-- What comes of one route. -/
inductive RouteOutcome where
  /-- `TLSRemoteTransport(...)` raises. -/
  | noTransport (e : PyError)
  /-- `provider.hello()`: the validated payload, or what it raises. -/
  | hello (result : Except PyError Fields)

/-- The surroundings of one call. -/
structure ConnectCall where
  /-- The peer. -/
  peerId : NodeId
  /-- `_candidates.get(peer_id.value)` -/
  candidate : Option DiscoveredNodeCandidate
  /-- What comes of the routes. -/
  route : EndpointCandidate → RouteOutcome
  /-- What `_persist()` does, if there is one. -/
  persist : Option (Except PyError Bool)
  /-- The call is `reconnect`. -/
  reconnects : Bool

/-- The call finds no store, or one that saves. -/
def ConnectCall.Persists (c : ConnectCall) : Prop :=
  ∀ result, c.persist = some result → result = .ok true

namespace ConnectionManager

/-- `self._registry.observe(peer_id, ...)`. -/
def observe (peer : NodeId) (s : ConnectionManager) : ConnectionManager :=
  if s.registry.contains peer then s
  else { s with registry := s.registry.insert peer .observed }

/-- `if p: self._registry.observe(peer_id, ...); ...; raise e`. -/
def refuseIf (p : Prop) [Decidable p] (peer : NodeId) (e : PyError) : PyM ConnectionManager Unit :=
  if p then do
    modify (observe peer)
    throw e
  else pure ()

/-- `self._pairing.trusted[peer_id] = trusted`. -/
def setTrusted (peer : NodeId) (trusted : TrustedPeer) (s : ConnectionManager) :
    ConnectionManager :=
  { s with pairing := { s.pairing with trusted := s.pairing.trusted.insert peer trusted } }

/-- The record with the candidate's transport. -/
def updated (trusted : TrustedPeer) (candidate : DiscoveredNodeCandidate) : TrustedPeer :=
  { trusted with
    transportFingerprint := candidate.transportFingerprint.map Fingerprint.text
    rootPublicKey := candidate.rootPublicKey
    transportGeneration := candidate.transportGeneration
    transportProof := candidate.transportProof }

/-- Source: `connections/manager.py`, `_record_generation`.  Kind: D -/
def recordGeneration (c : ConnectCall) (trusted : TrustedPeer)
    (candidate : DiscoveredNodeCandidate) : PyM ConnectionManager Unit :=
  if SameTransport trusted candidate then return
  else do
    modify (setTrusted c.peerId (updated trusted candidate))
    match c.persist with
    | none | some (.ok true) => return
    | some _ =>
        modify (setTrusted c.peerId trusted)
        throw ⟨.remoteAuth, "transport generation was not durably persisted"⟩

/-- The second `try` block of the loop.  Source: `connections/manager.py`, `connect`.  Kind: D -/
def greet (check : SignatureCheck) (c : ConnectCall) (trusted : TrustedPeer)
    (candidate : DiscoveredNodeCandidate) (result : Except PyError Fields) :
    PyM ConnectionManager Unit := do
  let hello ← PyM.ofExcept result
  PyM.ofExcept (validateHelloGeneration check trusted candidate hello)
  let _ ← PyM.ofExcept (parseHelloCapabilities hello)
  recordGeneration c trusted candidate
  modify fun s => { s with pairing := s.pairing.markAuthOk c.peerId }

/-- The end of an attempt that succeeded.  Source: `connections/manager.py`, `connect`; the registry
refuses to promote a revoked node.  Kind: D -/
def authorizePeer (peer : NodeId) : PyM ConnectionManager Unit := do
  let s := observe peer (← get)
  if s.registry.get? peer = some .revoked then
    set s
    throw ⟨.permission, "revoked node requires a fresh pairing"⟩
  set { s with
    registry := s.registry.insert peer .authorized
    providers := insert peer s.providers }

/-- `OSError`, `ConnectionError`, `RemoteExecutionError` and `RemoteTransportError`. -/
def routeFailed (e : PyError) : Bool :=
  match e.kind with
  | .os | .remoteExecution | .remoteUnavailable | .remoteTransport => true
  | _ => false

/-- The loop over the endpoints.  Source: `connections/manager.py`, `connect`.  Kind: D -/
def tryRoutes (check : SignatureCheck) (c : ConnectCall) (trusted : TrustedPeer)
    (candidate : DiscoveredNodeCandidate) :
    List EndpointCandidate → Option PyError → PyM ConnectionManager Unit
  | [], last => throw (last.getD ⟨.os, "all endpoint routes failed"⟩)
  | endpoint :: rest, _ => fun s =>
      match c.route endpoint with
      | .noTransport e =>
          if routeFailed e ∨ e.kind = .type ∨ e.kind.isValueError then
            tryRoutes check c trusted candidate rest (some e) s
          else .error e s
      | .hello result =>
          match greet check c trusted candidate result s with
          | .ok _ s => authorizePeer c.peerId s
          | .error e s =>
              if e.kind.isRemoteProtocol then
                .error e (if e.kind.isRemoteAuth then
                  { s with pairing := s.pairing.markAuthFailure c.peerId } else s)
              else if routeFailed e then tryRoutes check c trusted candidate rest (some e) s
              else .error e s

/-- Source: `connections/manager.py`, `connect`.  Kind: D -/
def connect (check : SignatureCheck) (c : ConnectCall) : PyM ConnectionManager Unit := do
  let s ← get
  if c.peerId ∈ s.providers then return
  match s.pairing.trusted.get? c.peerId, c.candidate with
  | some trusted, some candidate =>
      raiseIf (!candidate.compatible)
        ⟨.permission, "peer must be discovered and trusted first"⟩
      raiseIf (!candidate.connectable) ⟨.os, "peer is not connectable"⟩
      refuseIf (candidate.stableId ≠ c.peerId.value) c.peerId
        ⟨.remoteAuth, "discovered peer identity does not match route"⟩
      let endpoints := candidate.endpointCandidates.filter fun e => e.validation ≠ "invalid"
      raiseIf (endpoints = []) ⟨.os, "peer has no connectable endpoint"⟩
      refuseIf (!candidateAllowed check trusted candidate) c.peerId
        ⟨.remoteAuth, "peer transport fingerprint changed"⟩
      raiseIf (candidate.transportFingerprint.all (· = ""))
        ⟨.remoteAuth, "peer has no transport fingerprint"⟩
      modify (observe c.peerId)
      tryRoutes check c trusted candidate (byEndpointRank endpoints) none
  | _, _ => throw ⟨.permission, "peer must be discovered and trusted first"⟩

/-- One call of `connect` or `reconnect`.
Source: `connections/manager.py`, `connect` and `reconnect`.  Kind: D -/
def call (check : SignatureCheck) (c : ConnectCall) : PyM ConnectionManager Unit := do
  if c.reconnects then
    modify fun s => { s with providers := s.providers.erase c.peerId }
  connect check c

/-- What a call leaves behind, whether it returns or raises. -/
def after (check : SignatureCheck) (c : ConnectCall) (s : ConnectionManager) :
    ConnectionManager :=
  (call check c).after s

/-- A run of calls. -/
def run (check : SignatureCheck) (calls : List ConnectCall) (s : ConnectionManager) :
    ConnectionManager :=
  calls.foldl (fun s c => after check c s) s

/-- `get_trusted(peer_id)`. -/
def trusted? (s : ConnectionManager) (peer : NodeId) : Option TrustedPeer :=
  s.pairing.trusted.get? peer

end ConnectionManager

/-! ## What a call writes -/

/-- A route of the call answers with a `hello` that passes the comparison. -/
def ConnectCall.Passes (check : SignatureCheck) (c : ConnectCall) (trusted : TrustedPeer)
    (candidate : DiscoveredNodeCandidate) : Prop :=
  ∃ endpoint hello, c.route endpoint = .hello (.ok hello) ∧
    validateHelloGeneration check trusted candidate hello = .ok ()

namespace ConnectionManager

variable {check : SignatureCheck} {c : ConnectCall} {trusted : TrustedPeer}
  {candidate : DiscoveredNodeCandidate} {s s' : ConnectionManager}

/-- The records are those of `s`, except that the peer's may have the candidate's transport. -/
def Records (check : SignatureCheck) (c : ConnectCall) (trusted : TrustedPeer)
    (candidate : DiscoveredNodeCandidate) (s s' : ConnectionManager) : Prop :=
  s'.trusted? = s.trusted? ∨
    (¬SameTransport trusted candidate ∧ c.Persists ∧ c.Passes check trusted candidate ∧
      s'.trusted? = Function.update s.trusted? c.peerId (some (updated trusted candidate)))

/-- An observation leaves the trust alone.  Kind: L -/
@[simp] theorem trusted?_observe (peer : NodeId) : (s.observe peer).trusted? = s.trusted? := by
  unfold observe
  split <;> rfl

/-- What a refusal before a step leaves.  Kind: L -/
theorem after_refuseIf_bind_eq {p : Prop} [Decidable p] {peer : NodeId} {e : PyError}
    {f : Unit → PyM ConnectionManager Unit} :
    ((refuseIf p peer e : PyM ConnectionManager Unit) >>= f).after s =
      if p then s.observe peer else (f ()).after s := by
  split_ifs with hp
  · simp only [refuseIf, if_pos hp]
    rfl
  · simp only [refuseIf, if_neg hp]
    rfl

/-- What holds of the refusal and of the step holds after both.  Kind: L -/
theorem after_refuseIf_bind {p : Prop} [Decidable p] {peer : NodeId} {e : PyError}
    {f : Unit → PyM ConnectionManager Unit} {P : ConnectionManager → Prop}
    (hs : P (s.observe peer)) (hok : ¬p → P ((f ()).after s)) :
    P (((refuseIf p peer e : PyM ConnectionManager Unit) >>= f).after s) := by
  rw [after_refuseIf_bind_eq]
  split_ifs with hp
  · exact hs
  · exact hok hp

/-- Writing one peer's trust.  Kind: L -/
theorem trusted?_setTrusted (peer : NodeId) (t : TrustedPeer) :
    (s.setTrusted peer t).trusted? = Function.update s.trusted? peer (some t) := by
  funext k
  by_cases hk : peer = k
  · subst hk
    simp [trusted?, setTrusted]
  · rw [Function.update_of_ne (Ne.symm hk)]
    simp [trusted?, setTrusted, Dict.get?_insert_of_ne _ _ hk]

/-- Marking a failure leaves the trust alone.  Kind: L -/
theorem trusted?_markAuthFailure (s : ConnectionManager) (peer : NodeId) :
    trusted? { s with pairing := s.pairing.markAuthFailure peer } = s.trusted? := by
  unfold PairingManager.markAuthFailure
  split <;> rfl

/-- Authorizing a peer leaves the trust alone.  Kind: L -/
theorem trusted?_authorizePeer (peer : NodeId) :
    ((authorizePeer peer).after s).trusted? = s.trusted? := by
  unfold authorizePeer
  simp only [PyM.after_get_bind]
  split
  · exact trusted?_observe peer
  · exact trusted?_observe peer

/-- A record whose transport could not be saved is put back.  Kind: L -/
theorem recordGeneration_error {e : PyError} (hstored : s.trusted? c.peerId = some trusted)
    (h : recordGeneration c trusted candidate s = .error e s') :
    s'.trusted? = s.trusted? ∧ ¬c.Persists := by
  unfold recordGeneration at h
  split at h
  · simp at h
  · rw [PyM.modify_bind_eq_error] at h
    rcases hpersist : c.persist with _ | _ | _ | _
    all_goals simp only [hpersist, PyM.pure_eq_error, PyM.modify_bind_eq_error,
      PyM.throw_eq_error] at h
    all_goals
      obtain ⟨-, rfl⟩ := h
      refine ⟨?_, fun hp => by simpa using hp _ hpersist⟩
      rw [trusted?_setTrusted, trusted?_setTrusted, Function.update_idem, ← hstored,
        Function.update_eq_self]

/-- Recording a generation writes what has changed of the transport, and saves it.  Kind: L -/
theorem recordGeneration_ok (h : recordGeneration c trusted candidate s = .ok () s') :
    (SameTransport trusted candidate ∧ s' = s) ∨
      (¬SameTransport trusted candidate ∧ c.Persists ∧
        s'.trusted? = Function.update s.trusted? c.peerId (some (updated trusted candidate))) := by
  unfold recordGeneration at h
  split at h
  · rename_i hsame
    exact .inl ⟨hsame, ((PyM.pure_eq_ok.mp h).2).symm⟩
  · rename_i hnew
    refine .inr ⟨hnew, ?_⟩
    rw [PyM.modify_bind_eq_ok] at h
    rcases hpersist : c.persist with _ | _ | _ | _
    all_goals simp only [hpersist, PyM.pure_eq_ok, PyM.modify_bind_eq_ok,
      PyM.throw_eq_ok] at h
    all_goals
      obtain ⟨-, rfl⟩ := h
      exact ⟨fun result hr => by simp_all, trusted?_setTrusted _ _⟩

/-- A refused greeting leaves the trust alone.  Kind: L -/
theorem greet_error {result : Except PyError Fields} {e : PyError}
    (hstored : s.trusted? c.peerId = some trusted)
    (h : greet check c trusted candidate result s = .error e s') : s'.trusted? = s.trusted? := by
  unfold greet at h
  rw [PyM.ofExcept_bind_eq_error] at h
  rcases h with ⟨-, rfl⟩ | ⟨hello, -, h⟩
  · rfl
  rw [PyM.ofExcept_bind_eq_error] at h
  rcases h with ⟨-, rfl⟩ | ⟨_, -, h⟩
  · rfl
  rw [PyM.ofExcept_bind_eq_error] at h
  rcases h with ⟨-, rfl⟩ | ⟨_, -, h⟩
  · rfl
  rw [PyM.bind_eq_error] at h
  rcases h with h | ⟨_, s₁, -, h⟩
  · exact (recordGeneration_error hstored h).1
  · cases h

/-- An accepted greeting has validated the generation and recorded it.  Kind: L -/
theorem greet_ok {result : Except PyError Fields}
    (h : greet check c trusted candidate result s = .ok () s') :
    ∃ hello, result = .ok hello ∧ validateHelloGeneration check trusted candidate hello = .ok () ∧
      ∃ s₁, recordGeneration c trusted candidate s = .ok () s₁ ∧ s'.trusted? = s₁.trusted? := by
  unfold greet at h
  rw [PyM.ofExcept_bind_eq_ok] at h
  obtain ⟨hello, rfl, h⟩ := h
  rw [PyM.ofExcept_bind_eq_ok] at h
  obtain ⟨_, hvalid, h⟩ := h
  rw [PyM.ofExcept_bind_eq_ok] at h
  obtain ⟨_, -, h⟩ := h
  rw [PyM.bind_eq_ok] at h
  obtain ⟨_, s₁, hrecord, h⟩ := h
  rw [PyM.modify_eq_ok] at h
  subst h
  exact ⟨hello, rfl, hvalid, s₁, hrecord, rfl⟩

/-- The loop writes the record at the first route whose `hello` passes, or not at all.  Kind: L -/
theorem tryRoutes_records (endpoints : List EndpointCandidate) (last : Option PyError)
    (hstored : s.trusted? c.peerId = some trusted) :
    Records check c trusted candidate s
      ((tryRoutes check c trusted candidate endpoints last).after s) := by
  induction endpoints generalizing last s with
  | nil => exact .inl rfl
  | cons endpoint rest ih =>
      unfold PyM.after tryRoutes
      cases hroute : c.route endpoint with
      | noTransport e =>
          simp only
          split_ifs
          · exact ih (some e) hstored
          · exact .inl rfl
      | hello result =>
          simp only
          cases hgreet : greet check c trusted candidate result s with
          | ok u s₁ =>
              obtain ⟨hello, rfl, hvalid, s₂, hrecord, htrusted⟩ := greet_ok hgreet
              have hend : ((authorizePeer c.peerId).after s₁).trusted? = s₂.trusted? :=
                (trusted?_authorizePeer c.peerId).trans htrusted
              rcases recordGeneration_ok hrecord with ⟨-, rfl⟩ | ⟨hnew, hpersists, hupdate⟩
              · exact .inl hend
              · exact .inr ⟨hnew, hpersists, ⟨endpoint, hello, hroute, hvalid⟩, hend.trans hupdate⟩
          | error e s₁ =>
              have hsame : s₁.trusted? = s.trusted? := greet_error hstored hgreet
              have hstored' : s₁.trusted? c.peerId = some trusted := by rw [hsame, hstored]
              simp only
              split_ifs
              · exact .inl ((trusted?_markAuthFailure s₁ c.peerId).trans hsame)
              · exact .inl hsame
              · rcases ih (some e) hstored' with h | ⟨hnew, hpersists, hpasses, h⟩
                · exact .inl (h.trans hsame)
                · exact .inr ⟨hnew, hpersists, hpasses, by rw [← hsame]; exact h⟩
              · exact .inl hsame

/-- The records of `s'` are those of `s`, or the call found an allowed candidate for a trusted peer
and wrote its transport. -/
def Outcome (check : SignatureCheck) (c : ConnectCall) (s s' : ConnectionManager) : Prop :=
  s'.trusted? = s.trusted? ∨
    ∃ trusted candidate, s.trusted? c.peerId = some trusted ∧ c.candidate = some candidate ∧
      candidateAllowed check trusted candidate = true ∧
      Records check c trusted candidate s s'

/-- What a call of `connect` does.  Kind: L -/
theorem connect_outcome (check : SignatureCheck) (c : ConnectCall) (s : ConnectionManager) :
    Outcome check c s ((connect check c).after s) := by
  have hnothing : Outcome check c s s := .inl rfl
  have hobserved : (s.observe c.peerId).trusted? = s.trusted? := trusted?_observe c.peerId
  unfold connect
  rw [PyM.after_get_bind]
  split
  · exact hnothing
  split
  · rename_i trusted candidate hstored hcandidate
    refine PyM.after_raiseIf_bind hnothing fun _ => ?_
    refine PyM.after_raiseIf_bind hnothing fun _ => ?_
    refine after_refuseIf_bind (.inl hobserved) fun _ => ?_
    refine PyM.after_raiseIf_bind hnothing fun _ => ?_
    refine after_refuseIf_bind (.inl hobserved) fun hallowed => ?_
    refine PyM.after_raiseIf_bind hnothing fun _ => ?_
    rw [PyM.after_modify_bind]
    refine .inr ⟨trusted, candidate, hstored, hcandidate, by simpa using hallowed, ?_⟩
    have hstored' : (s.observe c.peerId).trusted? c.peerId = some trusted := by
      rw [hobserved]
      exact hstored
    have hrecords : Records check c trusted candidate (s.observe c.peerId) _ :=
      tryRoutes_records (byEndpointRank (candidate.endpointCandidates.filter fun e =>
        e.validation ≠ "invalid")) none hstored'
    unfold Records at hrecords ⊢
    rwa [hobserved] at hrecords
  · exact hnothing

/-- What a call of `connect` or `reconnect` may write.
Source: `connections/manager.py`, `connect` and `reconnect`.  Kind: L -/
theorem after_outcome (check : SignatureCheck) (c : ConnectCall) (s : ConnectionManager) :
    Outcome check c s (after check c s) := by
  unfold after call
  split
  · rw [PyM.after_modify_bind]
    exact connect_outcome check c _
  · exact connect_outcome check c s

end ConnectionManager

/-! ## Continuity -/

/-- The record names a root. -/
def TrustedPeer.Rooted (t : TrustedPeer) : Prop := ∃ root ≠ "", t.rootPublicKey = some root

/-- The transport of `new` has a larger generation than that of `old`, if this has one, and a proof
under the root of `old`.  Kind: D -/
def Proven (check : SignatureCheck) (old new : TrustedPeer) : Prop :=
  ∃ root generation fingerprint proof, old.rootPublicKey = some root ∧
    new.transportGeneration = some generation ∧
    (∀ g, old.transportGeneration = some g → g < generation) ∧
    new.transportFingerprint = some fingerprint ∧ new.transportProof = some proof ∧
    verifyTransportProof check old.peerId root generation fingerprint proof = true

/-- The root stays, and another transport is proven.  Kind: D -/
structure Continues (check : SignatureCheck) (old new : TrustedPeer) : Prop where
  /-- The root never changes or disappears. -/
  root : new.rootPublicKey = old.rootPublicKey
  /-- Another fingerprint comes with a larger generation and a proof. -/
  transport : new.transportFingerprint ≠ old.transportFingerprint → Proven check old new

theorem Continues.refl (check : SignatureCheck) (t : TrustedPeer) : Continues check t t :=
  ⟨rfl, fun h => absurd rfl h⟩

/-- The route gate proves a transport that replaces a stored one.  Kind: L -/
theorem proven_of_allowed {check : SignatureCheck} {trusted : TrustedPeer}
    {candidate : DiscoveredNodeCandidate} (hnew : ¬SameTransport trusted candidate)
    (hstored : trusted.transportFingerprint ≠ none)
    (hallowed : candidateAllowed check trusted candidate = true) :
    Proven check trusted (ConnectionManager.updated trusted candidate) := by
  unfold candidateAllowed candidateTransportGenerationAllowed at hallowed
  have hgate : ¬(trusted.toMaterial.transportFingerprint = none ∨
      candidate.transportFingerprint.map Fingerprint.text =
        trusted.toMaterial.transportFingerprint) := by
    rintro (h | h)
    · exact hstored h
    · exact hnew h
  rw [if_neg hgate] at hallowed
  split at hallowed
  · rename_i root generation proof hroot hgeneration hproof
    simp only [Bool.and_eq_true] at hallowed
    obtain ⟨⟨⟨-, hlarger⟩, -⟩, hverify⟩ := hallowed
    -- a proof is never of the empty fingerprint that stands for a missing one
    cases hfp : candidate.transportFingerprint with
    | none => simp [hfp, verifyTransportProof] at hverify
    | some fp =>
        refine ⟨root, generation, .text fp, proof, hroot, hgeneration, fun g hg => ?_, ?_,
          hproof, ?_⟩
        · have hlt := hlarger
          rw [hg] at hlt
          simpa using hlt
        · simp [ConnectionManager.updated, hfp]
        · simpa [hfp] using hverify
  · cases hallowed

/-- A candidate with another transport that passes the comparison names the stored root, and the
transport it replaces is a stored one, or it is proven anyway.  Kind: D -/
def ConnectCall.Steady (check : SignatureCheck) (c : ConnectCall) (s : ConnectionManager) : Prop :=
  ∀ trusted candidate, s.trusted? c.peerId = some trusted → trusted.Rooted →
    c.candidate = some candidate → ¬SameTransport trusted candidate →
    c.Passes check trusted candidate →
      candidate.rootPublicKey = trusted.rootPublicKey ∧
        (trusted.transportFingerprint = none →
          Proven check trusted (ConnectionManager.updated trusted candidate))

namespace ConnectionManager

variable (check : SignatureCheck)

/-- Every rooted record continues, and it stays as it is when the store fails.  Kind: D -/
def ContinuesStep (c : ConnectCall) (s s' : ConnectionManager) : Prop :=
  ∀ peer t, s.trusted? peer = some t → t.Rooted →
    ∃ t', s'.trusted? peer = some t' ∧ Continues check t t' ∧ (¬c.Persists → t' = t)

/-- Every call of the run is steady where it happens. -/
def SteadyRun : List ConnectCall → ConnectionManager → Prop
  | [], _ => True
  | c :: rest, s => c.Steady check s ∧ SteadyRun rest (after check c s)

/-- Every call of the run continues the records. -/
def ContinuesRun : List ConnectCall → ConnectionManager → Prop
  | [], _ => True
  | c :: rest, s =>
      ContinuesStep check c s (after check c s) ∧ ContinuesRun rest (after check c s)

variable {check} {c : ConnectCall} {s : ConnectionManager}

/-- A steady call continues the trust.  Kind: L -/
theorem continuesStep_of_steady (h : c.Steady check s) :
    ContinuesStep check c s (after check c s) := by
  intro peer t ht hrooted
  have hsame : (after check c s).trusted? = s.trusted? →
      ∃ t', (after check c s).trusted? peer = some t' ∧ Continues check t t' ∧
        (¬c.Persists → t' = t) := fun hs => ⟨t, hs ▸ ht, Continues.refl check t, fun _ => rfl⟩
  rcases after_outcome check c s with hs | ⟨trusted, candidate, htrusted, hcandidate, hallowed, hr⟩
  · exact hsame hs
  rcases hr with hs | ⟨hnew, hpersists, hpasses, hupdate⟩
  · exact hsame hs
  by_cases hpeer : peer = c.peerId
  · subst hpeer
    obtain rfl : trusted = t := Option.some.inj (htrusted.symm.trans ht)
    obtain ⟨hroot, hfresh⟩ := h trusted candidate htrusted hrooted hcandidate hnew hpasses
    refine ⟨updated trusted candidate, by rw [hupdate, Function.update_self], ⟨hroot, fun _ => ?_⟩,
      fun hno => absurd hpersists hno⟩
    by_cases hstored : trusted.transportFingerprint = none
    · exact hfresh hstored
    · exact proven_of_allowed hnew hstored hallowed
  · refine ⟨t, ?_, Continues.refl check t, fun _ => rfl⟩
    rw [hupdate, Function.update_of_ne hpeer, ht]

/-- **Root continuity.**  In every run whose calls are steady, whatever discovery finds and the
peers say, each call continues every rooted record, which keeps its root to the end.
Source: `connections/manager.py`, `connect` and `_record_generation`.  Kind: P -/
theorem root_continuity {calls : List ConnectCall} (h : SteadyRun check calls s) :
    ContinuesRun check calls s ∧
      ∀ peer t, s.trusted? peer = some t → t.Rooted →
        ∃ t', (run check calls s).trusted? peer = some t' ∧
          t'.rootPublicKey = t.rootPublicKey := by
  induction calls generalizing s with
  | nil => exact ⟨trivial, fun peer t ht _ => ⟨t, ht, rfl⟩⟩
  | cons c rest ih =>
      have hstep := continuesStep_of_steady h.1
      obtain ⟨hrest, hroots⟩ := ih h.2
      refine ⟨⟨hstep, hrest⟩, fun peer t ht hrooted => ?_⟩
      obtain ⟨t₁, ht₁, hcontinues, -⟩ := hstep peer t ht hrooted
      have hrooted₁ : t₁.Rooted := by
        obtain ⟨root, hne, hroot⟩ := hrooted
        exact ⟨root, hne, hcontinues.root.trans hroot⟩
      obtain ⟨t', ht', hroot'⟩ := hroots peer t₁ ht₁ hrooted₁
      exact ⟨t', ht', hroot'.trans hcontinues.root⟩

/-! ## A peer that renews its transport -/

/-- The peer. -/
def renewing : NodeId := .named "peer"

/-- It is trusted with its first transport. -/
def renewingPeer : TrustedPeer where
  peerId := renewing
  secret := "secret"
  permissions := {.text "read_state"}
  identityFingerprint := none
  transportFingerprint := some (.text "first")
  rootPublicKey := some "root"
  transportGeneration := some 1
  transportProof := some "proof 1"

/-- Where the peer is advertised. -/
def renewedEndpoints : List EndpointCandidate :=
  [⟨"10.0.0.1", 8443, .ipv4, "validated", 0, none, none⟩]

/-- The renewed peer of the sample has endpoints.  Kind: L -/
theorem renewedEndpoints_ne : renewedEndpoints ≠ [] := List.cons_ne_nil _ _

/-- Its second transport, advertised with or without the root. -/
def renewed (root : Option String) : DiscoveredNodeCandidate where
  stableId := "peer"
  hostname := "host"
  addresses := ["10.0.0.1"]
  port := some 8443
  serviceName := "peer.service"
  appVersion := "1"
  protocolVersion := "1"
  platform := none
  connectable := true
  compatible := true
  lastSeen := 10
  identityFingerprint := none
  transportFingerprint := some "second"
  endpointCandidates := renewedEndpoints
  rootPublicKey := root
  transportGeneration := some 2
  transportProof := some "proof 2"
  pairingPort := none
  derived := .inl renewedEndpoints_ne

/-- The peer answers with everything, and the store saves. -/
def renewal (root : Option String) : ConnectCall where
  peerId := renewing
  candidate := some (renewed root)
  route := fun _ => .hello (.ok [("transport_fingerprint", .str "second"),
    ("root_public_key", .str "root"), ("transport_generation", .int 2),
    ("transport_proof", .str "proof 2")])
  persist := some (.ok true)
  reconnects := false

/-- The peer is trusted and not connected. -/
def beforeRenewal : ConnectionManager where
  pairing := { PairingManager.new (.named "local node") with
    trusted := Dict.empty.insert renewing renewingPeer }
  registry := Dict.empty
  providers := ∅

/-- The signature the root made for the second transport. -/
def renewalCheck : SignatureCheck := fun root _ generation fingerprint proof =>
  root = "root" && generation = 2 && fingerprint = "second" && proof = "proof 2"

/-- The trust of the sample before the renewal.  Kind: L -/
theorem trusted?_beforeRenewal : beforeRenewal.trusted? renewing = some renewingPeer := by
  decide +kernel

/-- A renewal under the same root.  Kind: P -/
theorem root_continuity_renewal :
    (renewal (some "root")).Steady renewalCheck beforeRenewal ∧
      ContinuesRun renewalCheck [renewal (some "root")] beforeRenewal := by
  have hsteady : (renewal (some "root")).Steady renewalCheck beforeRenewal := by
    intro trusted candidate htrusted _ hcandidate _ _
    obtain rfl : renewingPeer = trusted :=
      Option.some.inj (trusted?_beforeRenewal.symm.trans htrusted)
    obtain rfl : renewed (some "root") = candidate := Option.some.inj hcandidate
    exact ⟨rfl, fun hnone => by cases hnone⟩
  have hrun : SteadyRun renewalCheck [renewal (some "root")] beforeRenewal := ⟨hsteady, trivial⟩
  exact ⟨hsteady, (root_continuity hrun).1⟩

/-- The candidate leaves the root out, which is then not compared with anything; what the peer says
of it does not enter the record. -/
theorem root_disappears :
    beforeRenewal.trusted? renewing = some renewingPeer ∧ renewingPeer.Rooted ∧
      ((run renewalCheck [renewal none] beforeRenewal).trusted? renewing).map
        (·.rootPublicKey) = some none ∧
      ¬ContinuesRun renewalCheck [renewal none] beforeRenewal := by
  have hafter : ((run renewalCheck [renewal none] beforeRenewal).trusted? renewing).map
      (·.rootPublicKey) = some none := by
    decide +kernel
  have hrooted : renewingPeer.Rooted := ⟨"root", by decide, rfl⟩
  refine ⟨trusted?_beforeRenewal, hrooted, hafter, fun hcontinues => ?_⟩
  obtain ⟨t, ht, hcontinues, -⟩ :=
    hcontinues.1 renewing renewingPeer trusted?_beforeRenewal hrooted
  have hroot : some t.rootPublicKey = some none := by
    rw [← hafter]
    change _ = ((after renewalCheck (renewal none) beforeRenewal).trusted? renewing).map _
    rw [ht]
    rfl
  rw [hcontinues.root] at hroot
  cases hroot

end ConnectionManager

end ExpraConnect
