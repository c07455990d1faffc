import ExpraConnect.Pairing.Flow
import ExpraConnect.Remote.Service

/-!
# The target of a pairing

The pairing port: `pairing/target.py`, the handlers of `runtime/core.py`, and the requests they
take (`transport/server.py`, `remote/wire_protocol.py`).

* `PairingRequest`, `PairingControlRequest`, `CapabilityElevationRequest`: requests that passed
  their own checks, which are fields;
* `PairingPort`: what the handlers share, with the two files (`Disk`) that one save writes
  independently of each other;
* `approvePairing`, `handlePairingControl`, and the two halves of the handlers that ask an operator:
  up to the callback, and from its answer on.

A handler runs on the port and the live ACL of the service (`HostView`), at one reading of the
clock.  The runtime is started and its state was loaded.
-/

namespace ExpraConnect

open ExpraConnect.Lib

/-! ## Requests -/

/-- ASCII white space, which `bytes.fromhex` skips between two bytes. -/
def isBlank (c : Char) : Bool :=
  c = ' ' || c = '\t' || c = '\n' || c = '\r' || c = Char.ofNat 11 || c = Char.ofNat 12

/-- A hexadecimal digit. -/
def isHexDigit (c : Char) : Bool :=
  ('0' ≤ c && c ≤ '9') || ('a' ≤ c && c ≤ 'f') || ('A' ≤ c && c ≤ 'F')

/-- `bytes.fromhex` does not raise. -/
def fromHex : List Char → Bool
  | [] => true
  | c :: rest =>
      if isBlank c then fromHex rest
      else if isHexDigit c then
        match rest with
        | d :: rest => isHexDigit d && fromHex rest
        | [] => false
      else false

/-- Source: `remote/wire_protocol.py`, `_validate_secret`.  Kind: D -/
def validWireSecret (secret : String) : Bool :=
  decide (secret.length = 64) && fromHex secret.toList

/-- Source: `remote/wire_protocol.py`, `PairingRequest`.  Kind: D -/
structure PairingRequest where
  /-- `caller_node_id` -/
  callerNodeId : NodeId
  /-- `identity_fingerprint` -/
  identityFingerprint : Fingerprint
  /-- `transport_fingerprint` -/
  transportFingerprint : Fingerprint
  /-- `proposed_secret` -/
  proposedSecret : String
  /-- `permissions` -/
  permissions : Finset NodePermission
  /-- `root_public_key` -/
  rootPublicKey : Option String
  /-- `transport_generation` -/
  transportGeneration : Option ℤ
  /-- `transport_proof` -/
  transportProof : Option String
  /-- `intent` -/
  intent : Intent
  /-- The identity fingerprint is not empty. -/
  identityPresent : identityFingerprint ≠ .text ""
  /-- The transport fingerprint is not empty. -/
  transportPresent : transportFingerprint ≠ .text ""
  /-- The secret passed `_validate_secret`. -/
  secretValid : validWireSecret proposedSecret = true
  /-- Pairing is read-only. -/
  readOnly : permissions ⊆ readPermissions

/-- The material of a request. -/
def PairingRequest.material (r : PairingRequest) : Material where
  identityFingerprint := some r.identityFingerprint
  transportFingerprint := some r.transportFingerprint
  rootPublicKey := r.rootPublicKey
  transportGeneration := r.transportGeneration
  transportProof := r.transportProof

/-- Source: `remote/wire_protocol.py`, `PairingControlRequest`.  Kind: D -/
structure PairingControlRequest where
  /-- `operation` -/
  operation : ControlOp
  /-- `transaction_id` -/
  transactionId : String
  /-- `caller_node_id` -/
  callerNodeId : NodeId
  /-- `identity_fingerprint` -/
  identityFingerprint : String
  /-- `transport_fingerprint` -/
  transportFingerprint : String
  /-- `secret` -/
  secret : String
  /-- `permissions` -/
  permissions : Finset NodePermission
  /-- `expires_at` -/
  expiresAt : ℚ

/-- The control names the transaction in every field.
Source: `runtime/core.py`, `_handle_pairing_control_locked`.  Kind: D -/
def PairingControlRequest.Matches (r : PairingControlRequest) (pending : PendingPairing)
    (expected : Finset PermissionItem) : Prop :=
  PermissionItem.texts expected = r.permissions.image NodePermission.value ∧
    pending.peerId = r.callerNodeId ∧
    pending.identityFingerprint = some (.text r.identityFingerprint) ∧
    pending.transportFingerprint = some (.text r.transportFingerprint) ∧
    pending.secret = r.secret ∧ pending.expiresAt = r.expiresAt

instance (r : PairingControlRequest) (pending : PendingPairing)
    (expected : Finset PermissionItem) : Decidable (r.Matches pending expected) :=
  inferInstanceAs (Decidable (_ ∧ _ ∧ _ ∧ _ ∧ _ ∧ _))

/-- Source: `remote/wire_protocol.py`, `CapabilityElevationRequest`.  Kind: D -/
structure CapabilityElevationRequest where
  /-- `caller_node_id` -/
  callerNodeId : NodeId
  /-- `identity_fingerprint` -/
  identityFingerprint : Fingerprint
  /-- `transport_fingerprint` -/
  transportFingerprint : Fingerprint
  /-- `current_secret` -/
  currentSecret : String
  /-- `proposed_secret` -/
  proposedSecret : String
  /-- `permissions` -/
  permissions : Finset NodePermission
  /-- The identity fingerprint is not empty. -/
  identityPresent : identityFingerprint ≠ .text ""
  /-- The transport fingerprint is not empty. -/
  transportPresent : transportFingerprint ≠ .text ""
  /-- The current secret passed `_validate_secret`. -/
  currentValid : validWireSecret currentSecret = true
  /-- The proposed secret passed `_validate_secret`. -/
  proposedValid : validWireSecret proposedSecret = true
  /-- At least one permission is asked for. -/
  nonempty : permissions ≠ ∅

/-! ## The port -/

/-- What is written to `trust.yaml`, before it is encoded.
Source: `runtime/core.py`, `_save_persisted_state`.  Kind: D -/
structure TrustDocument where
  /-- `grants` -/
  grants : List PairingManager.PeerGrant
  /-- `trusted` -/
  trusted : List TrustedPeer
  /-- `pending`, each with its permissions. -/
  pending : List (PendingPairing × Finset PermissionItem)
  deriving DecidableEq

/-- The two files of a profile. -/
structure Disk where
  /-- `trust.yaml` -/
  trust : TrustDocument
  /-- `cluster.yaml`, as its text. -/
  cluster : String
  deriving DecidableEq

/-- Which of its files a save could write. -/
structure SaveOutcome where
  /-- `trust.yaml` was written. -/
  trust : Bool
  /-- `cluster.yaml` was written, or there is no cluster. -/
  cluster : Bool
  deriving DecidableEq

/-- Source: `runtime/core.py`, `ConnectRuntime`, as far as the pairing port uses it.  Kind: D -/
structure PairingPort where
  /-- `identity.node_id` -/
  nodeId : NodeId
  /-- `_pairing` -/
  pairing : PairingManager
  /-- `_pending_permissions` -/
  pendingPermissions : Dict String (Finset PermissionItem)
  /-- `_service is not None` -/
  service : Bool
  /-- `_cluster_capability_grants` -/
  clusterCapabilityGrants : List CapabilityGrant
  /-- What a save writes to `cluster.yaml`. -/
  clusterText : String
  /-- The files. -/
  disk : Disk
  /-- What becomes of the saves that are still to come. -/
  saves : ℕ → SaveOutcome

/-- A handler of the port. -/
abbrev PortM := PyM (HostView PairingPort)

namespace PairingPort

/-- The document of the current state.
Source: `runtime/core.py`, `_save_persisted_state`.  Kind: D -/
def document (p : PairingPort) : TrustDocument where
  grants := p.pairing.grants.values
  trusted := p.pairing.trusted.values
  pending := p.pairing.pending.values.map fun t =>
    (t, (p.pendingPermissions.get? t.transactionId).getD ∅)

/-- What a save leaves on the disk: each file that could be written holds the current state. -/
def diskAfter (p : PairingPort) (outcome : SaveOutcome) : Disk where
  trust := if outcome.trust then p.document else p.disk.trust
  cluster := if outcome.cluster then p.clusterText else p.disk.cluster

/-- The port after its next save. -/
def saved (p : PairingPort) : PairingPort :=
  { p with disk := p.diskAfter (p.saves 0), saves := fun n => p.saves (n + 1) }

/-- What the next save reports. -/
def saveReport (p : PairingPort) : Bool := (p.saves 0).trust && (p.saves 0).cluster

end PairingPort

namespace Port

/-- Source: `runtime/core.py`, `_save_persisted_state`.  Kind: D -/
def savePersistedState : PortM Bool := fun v =>
  .ok v.host.saveReport { v with host := v.host.saved }

/-- A step on the pairing manager. -/
def onPairing (f : PairingManager → PairingManager) : PortM Unit :=
  modify fun v => { v with host := { v.host with pairing := f v.host.pairing } }

/-- A step on the pending permissions. -/
def onPermissions (f : Dict String (Finset PermissionItem) → Dict String (Finset PermissionItem)) :
    PortM Unit :=
  modify fun v =>
    { v with host := { v.host with pendingPermissions := f v.host.pendingPermissions } }

end Port

/-- One entry of `_wire_grants`. -/
def PairingManager.PeerGrant.wire (g : PairingManager.PeerGrant) : ExpraConnect.PeerGrant where
  callerNodeId := g.callerId
  secret := g.secret
  permissions := NetworkPairing.nodePermissions (PermissionItem.texts g.permissions)
  expiresAt := none

/-- Source: `runtime/core.py`, `_wire_grants`: `NodePermission(item)` raises on an item that is no
permission.  Kind: D -/
def PairingPort.wireGrants (p : PairingPort) : Except PyError (Dict NodeId PeerGrant) :=
  if p.pairing.grants.values.all fun g =>
      decide (PermissionItem.texts g.permissions ⊆ knownPermissions) then
    .ok (p.pairing.grants.mapValues PairingManager.PeerGrant.wire)
  else .error ⟨.value, "not a valid NodePermission"⟩

namespace Port

/-- Source: `runtime/core.py`, `_refresh_live_grants`.  Kind: D -/
def refreshLiveGrants : PortM Unit := do
  let v ← get
  if v.host.service then
    let grants ← PyM.ofExcept v.host.wireGrants
    let auth ← PyM.ofExcept (v.auth.updateGrants grants)
    set { v with auth := auth.updateClusterCapabilityGrants v.host.clusterCapabilityGrants }
  else return

/-- Source: `runtime/core.py`, `approve_pairing`.  Kind: D -/
def approvePairing (transactionId : String) (permissions : Finset PermissionItem) :
    PortM PairingManager.PeerGrant := do
  raiseIf (¬PermissionItem.texts permissions ⊆ readPermissions.image NodePermission.value)
    ⟨.value, "pairing approval permissions must be read-only"⟩
  let v ← get
  let snap := v.host.pairing
  let (grant, m) ← PyM.ofExcept (snap.approve v.clock transactionId permissions)
  onPairing fun _ => m
  if !(← savePersistedState) then
    onPairing fun m => m.restoreSnapshot snap
    throw ⟨.runtime, "pairing approval was not durably persisted"⟩
  else
    refreshLiveGrants
    return grant

/-! ## Controls -/

/-- The exceptions of `approve_pairing` that a confirmation turns into a refusal. -/
def refusesApproval (e : PyError) : Bool := e.kind = .runtime || e.kind.isValueError

/-- A confirmation of a transaction that it matches.
Source: `runtime/core.py`, `_handle_pairing_control_locked`.  Kind: D -/
def confirmPending (transactionId : String) (expected : Finset PermissionItem) : PortM Bool := do
  let snap := (← get).host.pairing
  match ← PyM.attempt (approvePairing transactionId expected) with
  | .error e => if refusesApproval e then return false else throw e
  | .ok _ =>
      onPairing fun m => m.abort transactionId
      onPermissions fun d => d.erase transactionId
      if ← savePersistedState then return true
      else
        onPairing fun m => m.restoreSnapshot snap
        onPermissions fun d => d.insert transactionId expected
        let _ ← savePersistedState
        return false

/-- Source: `runtime/core.py`, `_handle_pairing_control_locked`.  Kind: D -/
def handlePairingControl (r : PairingControlRequest) : PortM Bool := do
  let v ← get
  match v.host.pairing.pending.get? r.transactionId,
      v.host.pendingPermissions.get? r.transactionId with
  | some pending, some expected =>
      if r.Matches pending expected then
        match r.operation with
        | .abort =>
            onPairing fun m => m.abort r.transactionId
            onPermissions fun d => d.erase r.transactionId
            savePersistedState
        | .confirm => confirmPending r.transactionId expected
      else return false
  | _, _ => return false

/-! ## Requests that ask an operator -/

/-- `{"approved": False, "outcome": outcome}`. -/
def refusal (outcome : String) : Fields :=
  [("approved", .bool false), ("outcome", .str outcome)]

/-- Source: `pairing/target.py`, `pairing_response`.  Kind: D -/
def pairingResponse (pending : PendingPairing) : PortM Fields := do
  match (← get).host.pendingPermissions.get? pending.transactionId with
  | none => throw ⟨.key, pending.transactionId⟩
  | some permissions =>
      return [("approved", .bool true), ("transaction_id", .str pending.transactionId),
        ("caller_node_id", .str pending.peerId.value),
        ("identity_fingerprint", optionalValue Fingerprint.toValue pending.identityFingerprint),
        ("transport_fingerprint", optionalValue Fingerprint.toValue pending.transportFingerprint),
        ("root_public_key", optionalValue .str pending.rootPublicKey),
        ("transport_generation", optionalValue .int pending.transportGeneration),
        ("transport_proof", optionalValue .str pending.transportProof),
        ("intent", .str pending.intent.value), ("secret", .str pending.secret),
        ("permissions", sortedTexts (PermissionItem.texts permissions)),
        ("expires_at", .float (.finite pending.expiresAt))]

/-- What a request meets before the operator is asked.
Source: `pairing/target.py`, `_handle_pairing_request_locked`.  Kind: D -/
inductive Admission where
  /-- It is answered with an outcome. -/
  | refused (outcome : String)
  /-- It repeats a transaction, whose response is sent again. -/
  | repeated (pending : PendingPairing)
  /-- The operator is asked. -/
  | asked

/-- The checks before the callback.
Source: `pairing/target.py`, `_handle_pairing_request_locked`.  Kind: D -/
def admission (check : SignatureCheck) (p : PairingPort) (now : ℚ) (r : PairingRequest) :
    Admission :=
  let pending :=
    match p.pairing.findPendingFor now r.callerNodeId (some .inbound) with
    | some duplicate =>
        if duplicate.secret = r.proposedSecret then Admission.repeated duplicate
        else .refused "already_pending"
    | none => .asked
  if r.callerNodeId = p.nodeId then .refused "denied"
  else
    match p.pairing.grants.get? r.callerNodeId with
    | some grant =>
        if !grantRootContinuous check grant r.rootPublicKey r.transportGeneration
            r.transportFingerprint r.transportProof then .refused "identity_conflict"
        else if r.intent ≠ .repair then .refused "already_paired"
        else pending
    | none => pending

/-- From the operator's answer on; `txid` is the transaction id that `begin` draws.
Source: `pairing/target.py`, `_handle_pairing_request_locked`.  Kind: D -/
def closeRequest (r : PairingRequest) (txid : String) (approved : Bool) : PortM Fields := do
  if !approved then return refusal "denied"
  else
    let v ← get
    match v.host.pairing.begin v.clock txid r.proposedSecret r.callerNodeId
        (some r.proposedSecret) r.material .inbound r.intent with
    | .error _ => return refusal "already_pending"
    | .ok (pending, m) =>
        onPairing fun _ => m
        onPermissions fun d => d.insert pending.transactionId (permissionValues r.permissions)
        if ← savePersistedState then pairingResponse pending
        else
          onPairing fun m => m.abort pending.transactionId
          onPermissions fun d => d.erase pending.transactionId
          return refusal "persistence_failed"

/-- Up to the callback: the grant that the operator decides about.
Source: `runtime/core.py`, `_handle_elevation_request`.  Kind: D -/
def openElevation (p : PairingPort) (r : CapabilityElevationRequest) :
    Except PyError (Option PairingManager.PeerGrant) :=
  match p.pairing.grants.get? r.callerNodeId with
  | none => .ok none
  | some grant => do
      let same ← compareDigest grant.secret r.currentSecret
      if same ∧ grant.identityFingerprint = some r.identityFingerprint ∧
          grant.transportFingerprint = some r.transportFingerprint then return some grant
      else return none

/-- The grant that an elevation writes: it keeps neither root nor generation nor proof.
Source: `runtime/core.py`, `_handle_elevation_request`.  Kind: D -/
def elevated (grant : PairingManager.PeerGrant) (permissions : Finset NodePermission) :
    PairingManager.PeerGrant where
  identityFingerprint := grant.identityFingerprint
  transportFingerprint := grant.transportFingerprint
  rootPublicKey := none
  transportGeneration := none
  transportProof := none
  callerId := grant.callerId
  secret := grant.secret
  permissions := permissionValues permissions

/-- From the operator's answer on; `grant` is what the handler read before it asked.
Source: `runtime/core.py`, `_handle_elevation_request`.  Kind: D -/
def closeElevation (r : CapabilityElevationRequest) (grant : PairingManager.PeerGrant)
    (approved : Bool) : PortM Bool := do
  if !approved then return false
  else
    onPairing fun m =>
      { m with grants := m.grants.insert r.callerNodeId (elevated grant r.permissions) }
    if ← savePersistedState then
      let v ← get
      if v.host.service then
        let grants ← PyM.ofExcept v.host.wireGrants
        let auth ← PyM.ofExcept (v.auth.updateGrants grants)
        set { v with auth := auth }
        return true
      else return true
    else
      onPairing fun m => { m with grants := m.grants.insert r.callerNodeId grant }
      return false

end Port

end ExpraConnect
