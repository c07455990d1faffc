import ExpraConnect.Discovery.Models
import ExpraConnect.Pairing.Manager
import Mathlib.Data.Finset.Sort

/-!
# The initiator of a pairing

`pairing/flow.py`, and the static pairing methods of `remote/provider.py`.

* `FlowEnv`: what is outside the initiator, as functions on a state `σ` of its own: the cancel
  event, the clock, the transports and the store.  Every reading names the place it is made at
  (`Checkpoint`), so that an environment without state (`Script`) is as general as any;
* `requestPairing`, `pairingControl`: one exchange with the target;
* `tryRoutes`: the loop over the candidate's endpoints and its `except` clause;
* `NetworkPairing.opening`: everything before `begin`; `afterBegin`: everything after it;
  `establish`: the two with `begin` between them.

The reports of route attempts change nothing and swallow what their callback raises; they are left
out.  The signature over the own transport is deterministic and made once.
-/

namespace ExpraConnect

open ExpraConnect.Lib

/-! ## What is outside -/

/-- Where the flow looks at the cancel event. -/
inductive Checkpoint where
  /-- At the start of `_establish`. -/
  | start
  /-- At the start of `request_pairing` on the route of this number. -/
  | beforeRequest (route : ℕ)
  /-- After the answer on the route of this number. -/
  | afterRequest (route : ℕ)
  /-- After the rollback of a rejected request. -/
  | rejected
  /-- After `accept_grant`. -/
  | accepted
  /-- After the trust was persisted. -/
  | persisted
  /-- At the start of `pairing_control`. -/
  | confirming
  deriving DecidableEq

/-- Where the flow reads the clock. -/
inductive ClockRead where
  /-- For the classification. -/
  | classify
  /-- In `begin`. -/
  | begin
  /-- In `accept_grant`. -/
  | accept
  deriving DecidableEq

/-- Where the flow persists. -/
inductive PersistAt where
  /-- The accepted trust. -/
  | commit
  /-- What a rollback left. -/
  | rollback
  deriving DecidableEq

/-- The two pairing controls.
Source: `remote/provider.py`, `pairing_control`.  Kind: D -/
inductive ControlOp where
  | confirm | abort
  deriving DecidableEq

/-- `op`, as it is written. -/
def ControlOp.value : ControlOp → String
  | confirm => "pair_confirm"
  | abort => "pair_abort"

/-- What the flow calls.  An answer is what `json.loads` makes of the text, or `none` when the text
is not JSON. -/
structure FlowEnv (σ : Type) where
  /-- `cancel_event is not None and cancel_event.is_set()` -/
  cancelled : Checkpoint → σ → Bool × σ
  /-- The clock of the pairing manager. -/
  clock : ClockRead → σ → ℚ × σ
  /-- `TLSRemoteTransport(...)` for the route of this number. -/
  connect : ℕ → EndpointCandidate → String → σ → Except PyError Unit × σ
  /-- `transport.request` of a pairing request on the route of this number. -/
  request : ℕ → EndpointCandidate → Fields → σ → Except PyError (Option Value) × σ
  /-- `transport.request` of a pairing control. -/
  control : ControlOp → EndpointCandidate → Fields → σ → Except PyError (Option Value) × σ
  /-- `self._persist()` -/
  persist : PersistAt → PairingManager → σ → Bool × σ

/-- The initiator's pairing manager and what is outside. -/
structure FlowState (σ : Type) where
  /-- `self._pairing` -/
  pairing : PairingManager
  /-- What is outside. -/
  env : σ

variable {σ α : Type}

namespace FlowEnv

variable (E : FlowEnv σ)

/-- A call of what is outside. -/
def call (f : σ → α × σ) : PyM (FlowState σ) α := fun s =>
  .ok (f s.env).1 { s with env := (f s.env).2 }

/-- A call of what is outside that can raise. -/
def callRaising (f : σ → Except PyError α × σ) : PyM (FlowState σ) α := fun s =>
  match f s.env with
  | (.ok a, env) => .ok a { s with env := env }
  | (.error e, env) => .error e { s with env := env }

/-- `self._persist()` at this place. -/
def save (at_ : PersistAt) : PyM (FlowState σ) Bool := fun s =>
  .ok (E.persist at_ s.pairing s.env).1 { s with env := (E.persist at_ s.pairing s.env).2 }

end FlowEnv

/-! ## One exchange -/

/-- `sorted(texts)`. -/
def sortedTexts (texts : Finset String) : Value :=
  .list ((texts.sort (· ≤ ·)).map .str)

/-- `isinstance(response, dict) and response.get("approved") is True`. -/
def Value.approved : Value → Bool
  | .dict fields =>
      match getField "approved" fields with
      | some (.bool b) => b
      | _ => false
  | _ => false

/-- `json.loads(response_text)`. -/
def loaded (answer : Option Value) : Except PyError Value :=
  match answer with
  | some v => .ok v
  | none => .error ⟨.value, "response is not JSON"⟩

/-- The response of an approved request, `False` (`none`) of any other.
Source: `remote/provider.py`, `request_pairing`.  Kind: D -/
def pairingResponse? (response : Value) : Option Fields :=
  match response with
  | .dict fields =>
      if response.approved then
        match getField "transaction_id" fields with
        | some (.str s) => if s = "" then none else some fields
        | _ => none
      else none
  | _ => none

/-- Source: `remote/provider.py`, `request_pairing`.  Kind: D -/
def requestPairing (E : FlowEnv σ) (route : ℕ) (endpoint : EndpointCandidate) (message : Fields) :
    PyM (FlowState σ) (Option Fields) := do
  if ← FlowEnv.call (E.cancelled (.beforeRequest route)) then return none
  else
    let answer ← FlowEnv.callRaising (E.request route endpoint message)
    if ← FlowEnv.call (E.cancelled (.afterRequest route)) then return none
    else
      let response ← PyM.ofExcept (loaded answer)
      return pairingResponse? response

/-- Source: `pairing/models.py`, `PairingTransaction`.  Kind: D -/
structure PairingTransaction where
  /-- `transaction_id` -/
  transactionId : Value
  /-- `caller_node_id` -/
  callerNodeId : Value
  /-- `identity_fingerprint` -/
  identityFingerprint : Value
  /-- `transport_fingerprint` -/
  transportFingerprint : Value
  /-- `secret` -/
  secret : Value
  /-- `permissions` -/
  permissions : Finset NodePermission
  /-- `expires_at` -/
  expiresAt : Value
  /-- `transport`, as the endpoint it talks to. -/
  transport : EndpointCandidate

/-- `json.dumps({...})` of a control.
Source: `remote/provider.py`, `pairing_control`.  Kind: D -/
def PairingTransaction.message (t : PairingTransaction) (op : ControlOp) : Fields :=
  [("op", .str op.value), ("transaction_id", t.transactionId),
    ("caller_node_id", t.callerNodeId), ("identity_fingerprint", t.identityFingerprint),
    ("transport_fingerprint", t.transportFingerprint), ("secret", t.secret),
    ("permissions", sortedTexts (t.permissions.image NodePermission.value)),
    ("expires_at", t.expiresAt)]

/-- What both controls do with the answer.
Source: `remote/provider.py`, `pairing_control`.  Kind: D -/
def pairingControl (E : FlowEnv σ) (t : PairingTransaction) (op : ControlOp) :
    PyM (FlowState σ) Bool := do
  let answer ← FlowEnv.callRaising (E.control op t.transport (t.message op))
  let response ← PyM.ofExcept (loaded answer)
  return response.approved

/-- Source: `remote/provider.py`, `confirm_pairing`.  Kind: D -/
def confirmPairing (E : FlowEnv σ) (t : PairingTransaction) : PyM (FlowState σ) Bool := do
  if ← FlowEnv.call (E.cancelled .confirming) then return false
  else pairingControl E t .confirm

/-- It is never given the cancel event.
Source: `remote/provider.py`, `abort_pairing`.  Kind: D -/
def abortPairing (E : FlowEnv σ) (t : PairingTransaction) : PyM (FlowState σ) Bool :=
  pairingControl E t .abort

/-! ## The flow -/

/-- Source: `pairing/flow.py`, `NetworkPairing`, and `identity/__init__.py`, `NodeIdentity`.
Kind: D -/
structure NetworkPairing where
  /-- `_identity.node_id` -/
  nodeId : NodeId
  /-- `node_identity_fingerprint(_identity.node_id)` -/
  identityFingerprint : String
  /-- `_identity.root_public_key` -/
  identityRoot : String
  /-- `_identity.sign_transport_proof` -/
  sign : ℤ → String → Except PyError String
  /-- `_transport_fingerprint` -/
  transportFingerprint : String
  /-- `_root_public_key` -/
  rootPublicKey : Option String
  /-- `_transport_generation` -/
  transportGeneration : ℤ
  /-- `_transport_proof` -/
  transportProof : Option String
  /-- `_candidates` -/
  candidates : Dict String DiscoveredNodeCandidate

namespace NetworkPairing

/-- The material that `_establish` hands to `begin`, and again to `accept_grant`.
Source: `pairing/flow.py`, `_establish`.  Kind: D -/
def material (self : NetworkPairing) : Except PyError Material := do
  let proof ← match self.transportProof.filter (· ≠ "") with
    | some proof => .ok proof
    | none => self.sign self.transportGeneration self.transportFingerprint
  return {
    identityFingerprint := some (.text self.identityFingerprint)
    transportFingerprint := some (.text self.transportFingerprint)
    rootPublicKey := some ((self.rootPublicKey.filter (· ≠ "")).getD self.identityRoot)
    transportGeneration := some self.transportGeneration
    transportProof := some proof }

/-- `frozenset(NodePermission(permission) for permission in permissions)` of texts that name
permissions. -/
def nodePermissions (permissions : Finset String) : Finset NodePermission :=
  ({.readState, .remoteManagement, .processTermination, .processForceTermination, .cleanup} :
    Finset NodePermission).filter fun p => p.value ∈ permissions

/-- `json.dumps({...})` of a request.  `_establish` leaves the root, the generation and the proof
at their default.  Source: `remote/provider.py`, `request_pairing`.  Kind: D -/
def requestMessage (self : NetworkPairing) (secret : String) (permissions : Finset String)
    (intent : Intent) : Fields :=
  [("op", .str "pair_request"), ("pairing_mode", .str "transactional"),
    ("caller_node_id", .str self.nodeId.value),
    ("identity_fingerprint", .str self.identityFingerprint),
    ("transport_fingerprint", .str self.transportFingerprint), ("root_public_key", .null),
    ("transport_generation", .null), ("transport_proof", .null), ("secret", .str secret),
    ("permissions", sortedTexts ((nodePermissions permissions).image NodePermission.value)),
    ("intent", .str intent.value)]

/-- The candidate, if it can be paired with.
Source: `pairing/flow.py`, `_establish`.  Kind: D -/
def pairable (self : NetworkPairing) (peer : NodeId) (permissions : Finset String) :
    Except PyError (DiscoveredNodeCandidate × String) :=
  match (self.candidates.get? peer.value).filter fun c =>
      c.compatible ∧ c.port.isSome ∧ c.addresses ≠ [] with
  | none => .error ⟨.os, "peer must be discovered and connectable"⟩
  | some c =>
      match c.transportFingerprint.filter (· ≠ "") with
      | none => .error ⟨.value, "peer advertisement has no transport fingerprint"⟩
      | some fp =>
          if permissions ⊆ readPermissions.image NodePermission.value then .ok (c, fp)
          else .error ⟨.value, "pairing permissions must be read-only"⟩

/-- What the classification allows: to return the trust there is, or to go on.
Source: `pairing/flow.py`, `_establish`.  Kind: D -/
def classifiedTrust (intent : Intent) (previous : Option TrustedPeer) (state : RelationshipState) :
    Except PyError (Option TrustedPeer) :=
  match intent with
  | .pair =>
      match state with
      | .identityConflict => .error ⟨.value, "peer identity conflicts with stored trust"⟩
      | .outboundTrusted | .bidirectional =>
          match previous with
          | some t => .ok (some t)
          | none => .error ⟨.other, "assert previous is not None"⟩
      | .repairRequired => .error ⟨.value, "peer credentials require explicit repair"⟩
      | .pendingOutbound =>
          .error ⟨.value, "a pairing transaction is already active for this peer"⟩
      | _ => .ok none
  | .repair =>
      if previous = none then .error ⟨.value, "peer has no outbound relationship to repair"⟩
      else
        match state with
        | .identityConflict =>
            .error ⟨.value, "peer cannot prove continuity of the stored root"⟩
        | .outboundTrusted | .bidirectional =>
            .error ⟨.value, "peer relationship does not require repair"⟩
        | .repairRequired => .ok none
        | _ => .error ⟨.value, "peer relationship cannot be repaired"⟩

/-- One call of `pair` or `repair`, with the transaction id and the secret it will draw. -/
structure Attempt where
  /-- `peer_id` -/
  peer : NodeId
  /-- `permissions` -/
  permissions : Finset String
  /-- `intent` -/
  intent : Intent
  /-- The transaction id that `begin` draws. -/
  txid : String
  /-- `secrets.token_hex(32)` -/
  drawn : String

/-- What a call has found out when it begins its transaction. -/
structure Opening where
  /-- `candidate` -/
  candidate : DiscoveredNodeCandidate
  /-- `candidate.transport_fingerprint` -/
  expectedFingerprint : String
  /-- `previous` -/
  previous : Option TrustedPeer
  /-- `previous_broken` -/
  previousBroken : Bool
  /-- The own material. -/
  material : Material

variable (E : FlowEnv σ) (check : SignatureCheck) (self : NetworkPairing) (a : Attempt)

/-- Everything before `begin`: the trust that is returned as it is, or what the exchange starts
from.  Source: `pairing/flow.py`, `_establish`.  Kind: D -/
def opening : PyM (FlowState σ) (TrustedPeer ⊕ Opening) := do
  if ← FlowEnv.call (E.cancelled .start) then throw ⟨.runtime, "pairing cancelled"⟩
  else
    let (candidate, fp) ← PyM.ofExcept (self.pairable a.peer a.permissions)
    let m := (← get).pairing
    let previous := m.trusted.get? a.peer
    let now ← FlowEnv.call (E.clock .classify)
    let state := m.classifyTrustedCandidate check now a.peer candidate.rootPublicKey
      candidate.transportFingerprint candidate.transportGeneration candidate.transportProof
    match ← PyM.ofExcept (classifiedTrust a.intent previous state) with
    | some t => return .inl t
    | none =>
        let material ← PyM.ofExcept self.material
        return .inr ⟨candidate, fp, previous, decide (a.peer ∈ m.authBroken), material⟩

/-- Source: `pairing/flow.py`, `_rollback`.  Kind: D -/
def rollback (peer : NodeId) (previous : Option TrustedPeer) (previousBroken : Bool)
    (transactionId : String) : PyM (FlowState σ) Unit := do
  modify fun s => { s with
    pairing := (s.pairing.abort transactionId).restoreTrusted peer previous previousBroken }
  let _ ← E.save .rollback
  return

/-- The exceptions of a route that let the next one be tried. -/
def passesOn (e : PyError) : Bool := e.kind = .os || e.kind = .remoteTransport

/-- The loop over the routes: the first that raises nothing, with what it answered, or what the
routes raised.  Source: `pairing/flow.py`, `_establish`.  Kind: D -/
def tryRoutes (fp : String) (message : Fields) : ℕ → List EndpointCandidate → List PyError →
    PyM (FlowState σ) (Except (List PyError) (EndpointCandidate × Option Fields))
  | _, [], errors => return .error errors
  | i, endpoint :: rest, errors => do
      let outcome ← PyM.attempt do
        FlowEnv.callRaising (E.connect i endpoint fp)
        requestPairing E i endpoint message
      match outcome with
      | .ok response => return .ok (endpoint, response)
      | .error e =>
          if passesOn e then tryRoutes fp message (i + 1) rest (errors ++ [e])
          else throw e

/-- What iterating over a value yields. -/
def iterated : Value → Except PyError (List Value)
  | .list items => .ok items
  | .str s => .ok (s.toList.map fun c => .str (String.singleton c))
  | .dict fields => .ok (fields.map fun f => .str f.1)
  | _ => .error ⟨.type, "object is not iterable"⟩

/-- `NodePermission(item)`. -/
def permissionOf : Value → Except PyError NodePermission
  | .str s => NodePermission.new s
  | _ => .error ⟨.value, "not a valid NodePermission"⟩

/-- The accepted permissions of a response.
Source: `pairing/flow.py`, `_establish`.  Kind: D -/
def acceptedPermissions (permissions : Finset String) (response : Fields) :
    Except PyError (Finset NodePermission) :=
  match (getField "permissions" response).map fun v =>
      iterated v >>= fun items => items.mapM permissionOf with
  | some (.ok items) =>
      if items.toFinset ≠ ∅ ∧ items.toFinset ⊆ nodePermissions permissions then .ok items.toFinset
      else .error ⟨.permission, "peer returned permissions outside the request"⟩
  | _ => .error ⟨.value, "pairing response permissions are malformed"⟩

/-- `response[key]`. -/
def responseField (key : String) (response : Fields) : Except PyError Value :=
  match getField key response with
  | some v => .ok v
  | none => .error ⟨.key, key⟩

/-- `PairingTransaction(...)`.  Source: `pairing/flow.py`, `_establish`.  Kind: D -/
def transactionOf (response : Fields) (accepted : Finset NodePermission)
    (transport : EndpointCandidate) : Except PyError PairingTransaction := do
  return {
    transactionId := ← responseField "transaction_id" response
    callerNodeId := ← responseField "caller_node_id" response
    identityFingerprint := ← responseField "identity_fingerprint" response
    transportFingerprint := ← responseField "transport_fingerprint" response
    secret := ← responseField "secret" response
    permissions := accepted
    expiresAt := ← responseField "expires_at" response
    transport := transport }

/-- The grant that the initiator assumes the target to hold.
Source: `pairing/flow.py`, `_establish`.  Kind: D -/
def assumedGrant (o : Opening) (pending : PendingPairing) (accepted : Finset NodePermission) :
    PairingManager.PeerGrant :=
  { o.material with
    callerId := self.nodeId
    secret := pending.secret
    permissions := permissionMembers accepted }

/-- The material that the candidate announced.
Source: `pairing/flow.py`, `_establish`.  Kind: D -/
def announced (c : DiscoveredNodeCandidate) : Material where
  identityFingerprint := c.identityFingerprint.map .text
  transportFingerprint := c.transportFingerprint.map .text
  rootPublicKey := c.rootPublicKey
  transportGeneration := c.transportGeneration
  transportProof := c.transportProof

/-- `accept_grant` as the flow calls it.
Source: `pairing/flow.py`, `_establish`.  Kind: D -/
def accept (o : Opening) (pending : PendingPairing) (accepted : Finset NodePermission) :
    PyM (FlowState σ) TrustedPeer := do
  let now ← FlowEnv.call (E.clock .accept)
  let m := (← get).pairing
  let (trusted, m) ← PyM.ofExcept (m.acceptGrant now pending.transactionId a.peer
    (assumedGrant self o pending accepted) (announced o.candidate))
  modify fun s => { s with pairing := m }
  return trusted

/-- `try: abort_pairing(...) finally: self._rollback(...)`. -/
def abortThenRollback (o : Opening) (pending : PendingPairing) (t : PairingTransaction) :
    PyM (FlowState σ) Unit := do
  let outcome ← PyM.attempt (abortPairing E t)
  rollback E a.peer o.previous o.previousBroken pending.transactionId
  let _ ← PyM.ofExcept outcome
  return

/-- `self._rollback(...)`, then `abort_pairing(...)`, of a cancelled call. -/
def cancelAccepted (o : Opening) (pending : PendingPairing) (t : PairingTransaction) :
    PyM (FlowState σ) Unit := do
  rollback E a.peer o.previous o.previousBroken pending.transactionId
  let _ ← abortPairing E t
  return

/-- Everything after `accept_grant`.  Source: `pairing/flow.py`, `_establish`.  Kind: D -/
def settle (o : Opening) (pending : PendingPairing) (t : PairingTransaction)
    (trusted : TrustedPeer) : PyM (FlowState σ) TrustedPeer := do
  if ← FlowEnv.call (E.cancelled .accepted) then
    cancelAccepted E a o pending t
    throw ⟨.runtime, "pairing cancelled"⟩
  else if !(← E.save .commit) then
    abortThenRollback E a o pending t
    throw ⟨.runtime, "pairing was not durably persisted"⟩
  else if ← FlowEnv.call (E.cancelled .persisted) then
    cancelAccepted E a o pending t
    throw ⟨.runtime, "pairing cancelled"⟩
  else
    match ← PyM.attempt (confirmPairing E t) with
    | .ok true => return trusted
    | .ok false =>
        abortThenRollback E a o pending t
        throw ⟨.permission, "peer did not confirm pairing"⟩
    | .error e =>
        abortThenRollback E a o pending t
        throw e

/-- What is raised when no route got through. -/
def routesFailed (errors : List PyError) : PyError :=
  errors.getLastD ⟨.os, "pairing routes failed"⟩

/-- Everything after `begin`.  Source: `pairing/flow.py`, `_establish`.  Kind: D -/
def afterBegin (o : Opening) (pending : PendingPairing) : PyM (FlowState σ) TrustedPeer := do
  match ← tryRoutes E o.expectedFingerprint
      (self.requestMessage pending.secret a.permissions a.intent) 0
      (byEndpointRank o.candidate.pairingEndpointCandidates) [] with
  | .error errors =>
      rollback E a.peer o.previous o.previousBroken pending.transactionId
      throw (routesFailed errors)
  | .ok (_, none) =>
      rollback E a.peer o.previous o.previousBroken pending.transactionId
      if ← FlowEnv.call (E.cancelled .rejected) then throw ⟨.runtime, "pairing cancelled"⟩
      else throw ⟨.permission, "peer rejected pairing"⟩
  | .ok (endpoint, some response) =>
      match acceptedPermissions a.permissions response with
      | .error e =>
          rollback E a.peer o.previous o.previousBroken pending.transactionId
          throw e
      | .ok accepted =>
          let t ← PyM.ofExcept (transactionOf response accepted endpoint)
          let trusted ← accept E self a o pending accepted
          settle E a o pending t trusted

/-- `begin` as the flow calls it.  Source: `pairing/flow.py`, `_establish`.  Kind: D -/
def beginOutbound (o : Opening) : PyM (FlowState σ) PendingPairing := do
  let now ← FlowEnv.call (E.clock .begin)
  let m := (← get).pairing
  let (pending, m) ← PyM.ofExcept
    (m.begin now a.txid a.drawn a.peer (some a.drawn) o.material .outbound a.intent)
  modify fun s => { s with pairing := m }
  return pending

/-- Source: `pairing/flow.py`, `_establish`, which `pair` and `repair` call with their intent.
Kind: D -/
def establish : PyM (FlowState σ) TrustedPeer := do
  match ← opening E check self a with
  | .inl previous => return previous
  | .inr o =>
      let pending ← beginOutbound E a o
      afterBegin E self a o pending

end NetworkPairing

end ExpraConnect
