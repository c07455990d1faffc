import ExpraConnect.Remote.WireProtocol

/-!
# Pairing transactions and what comes of them

`pairing/manager.py`: the transactions of both directions, the records of trust they end in, and
the checks that tie a replacement transport to a trusted root.

* `Fingerprint`, `PermissionItem`: what the dynamically typed fields of the records can hold;
* `Material`: the identity and transport material every record carries;
* `PendingPairing`, `TrustedPeer`, `PairingManager.PeerGrant` and the manager's operations on them,
  each at one reading of the clock;
* `verifyTransportProof`, `grantRootContinuous`, `candidateTransportGenerationAllowed`: the proofs.

The Ed25519 check is a parameter (`SignatureCheck`); drawn transaction ids and secrets are
arguments.  Only `True` is ever stored in `_auth_broken`, which is therefore a set.
-/

namespace ExpraConnect

open ExpraConnect.Lib

/-! ## Fields -/

/-- What a fingerprint field holds: the declared text, or another JSON value (told apart by `tag`)
that the pairing port let through, since a `PairingRequest` only asks for a true value.
Source: `transport/server.py`, `_pair_request_response`.  Kind: D -/
inductive Fingerprint where
  | text (s : String)
  | other (tag : ℕ)
  deriving DecidableEq

/-- An element of a set of permissions: plain text, or a `NodePermission`, which is equal to its
text but is not printed as it.  Source: `data/permissions.py`, `NodePermission`.  Kind: D -/
inductive PermissionItem where
  | text (s : String)
  | member (p : NodePermission)
  deriving DecidableEq

/-- `permission.name`. -/
def NodePermission.name : NodePermission → String
  | readState => "READ_STATE"
  | remoteManagement => "REMOTE_MANAGEMENT"
  | processTermination => "PROCESS_TERMINATION"
  | processForceTermination => "PROCESS_FORCE_TERMINATION"
  | cleanup => "CLEANUP"

namespace PermissionItem

/-- The text the element is equal to. -/
def value : PermissionItem → String
  | text s => s
  | member p => p.value

/-- `str(permission)`: an enum member prints its class and name. -/
def str : PermissionItem → String
  | text s => s
  | member p => "NodePermission." ++ p.name

/-- The texts a set of permissions is equal to. -/
def texts (permissions : Finset PermissionItem) : Finset String := permissions.image value

end PermissionItem

/-- `frozenset(permission.value for permission in permissions)`. -/
def permissionValues (permissions : Finset NodePermission) : Finset PermissionItem :=
  permissions.image fun p => .text p.value

/-- `frozenset(NodePermission(item) for item in permissions)`, of items that are permissions. -/
def permissionMembers (permissions : Finset NodePermission) : Finset PermissionItem :=
  permissions.image .member

/-- The texts of permission values.  Kind: L -/
@[simp] theorem texts_permissionValues (permissions : Finset NodePermission) :
    PermissionItem.texts (permissionValues permissions) =
      permissions.image NodePermission.value := by
  simp [PermissionItem.texts, permissionValues, Finset.image_image, Function.comp_def,
    PermissionItem.value]

/-- The texts of permission members.  Kind: L -/
@[simp] theorem texts_permissionMembers (permissions : Finset NodePermission) :
    PermissionItem.texts (permissionMembers permissions) =
      permissions.image NodePermission.value := by
  simp [PermissionItem.texts, permissionMembers, Finset.image_image, Function.comp_def,
    PermissionItem.value]

/-- Source: `pairing/manager.py`, `_READ_ONLY_PERMISSIONS`.  Kind: D -/
def readOnlyPermissions : Finset String := {"ping", "read_state"}

/-- `{permission.value for permission in NodePermission}`. -/
def knownPermissions : Finset String :=
  {"read_state", "remote_management", "process_termination", "process_force_termination",
    "cleanup"}

/-- Source: `data/permissions.py`, `READ_PERMISSIONS`.  Kind: D -/
def readPermissions : Finset NodePermission := {.readState}

/-- The identity and transport material of a pairing record.
Source: `pairing/manager.py`, the optional fields of `PendingPairing`, `TrustedPeer` and
`PeerGrant`.  Kind: D -/
structure Material where
  /-- `identity_fingerprint` -/
  identityFingerprint : Option Fingerprint
  /-- `transport_fingerprint` -/
  transportFingerprint : Option Fingerprint
  /-- `root_public_key` -/
  rootPublicKey : Option String
  /-- `transport_generation` -/
  transportGeneration : Option ℤ
  /-- `transport_proof` -/
  transportProof : Option String
  deriving DecidableEq

/-- Source: `pairing/manager.py`, `DIRECTIONS`.  Kind: D -/
inductive Direction where
  | outbound | inbound
  deriving DecidableEq

/-- Source: `pairing/manager.py`, `INTENTS`.  Kind: D -/
inductive Intent where
  | pair | repair
  deriving DecidableEq

/-- `direction`, as it is written. -/
def Direction.value : Direction → String
  | .outbound => "outbound"
  | .inbound => "inbound"

/-- `intent`, as it is written. -/
def Intent.value : Intent → String
  | .pair => "pair"
  | .repair => "repair"

/-- The value of a fingerprint field. -/
def Fingerprint.toValue : Fingerprint → Value
  | .text s => .str s
  | .other tag => .foreign tag

/-- The value of an optional field: `None` is written as null. -/
def optionalValue {α : Type} (f : α → Value) : Option α → Value
  | none => .null
  | some a => f a

/-! ## Records -/

/-- Source: `pairing/manager.py`, `PendingPairing`.  Kind: D -/
structure PendingPairing extends Material where
  /-- `transaction_id` -/
  transactionId : String
  /-- `peer_id` -/
  peerId : NodeId
  /-- `secret` -/
  secret : String
  /-- `expires_at` -/
  expiresAt : ℚ
  /-- `direction` -/
  direction : Direction
  /-- `intent` -/
  intent : Intent
  deriving DecidableEq

/-- Source: `pairing/manager.py`, `TrustedPeer`.  Kind: D -/
structure TrustedPeer extends Material where
  /-- `peer_id` -/
  peerId : NodeId
  /-- `secret` -/
  secret : String
  /-- `permissions` -/
  permissions : Finset PermissionItem
  deriving DecidableEq

/-- Source: `pairing/manager.py`, `PeerGrant`.  Kind: D -/
structure PairingManager.PeerGrant extends Material where
  /-- `caller_id` -/
  callerId : NodeId
  /-- `secret` -/
  secret : String
  /-- `permissions` -/
  permissions : Finset PermissionItem
  deriving DecidableEq

/-! ## Proofs of continuity -/

/-- The Ed25519 part of `verify_transport_proof`: `check root node generation fingerprint proof`
decodes key and proof and verifies the signature. -/
abbrev SignatureCheck := String → NodeId → ℤ → String → String → Bool

/-- Source: `identity/__init__.py`, `verify_transport_proof`.  Kind: D -/
def verifyTransportProof (check : SignatureCheck) (node : NodeId) (root : String)
    (generation : ℤ) (fingerprint : Fingerprint) (proof : String) : Bool :=
  match fingerprint with
  | .text fp => 1 ≤ generation && fp ≠ "" && check root node generation fp proof
  | .other _ => false

/-- Source: `pairing/manager.py`, `grant_root_continuous`.  Kind: D -/
def grantRootContinuous (check : SignatureCheck) (grant : PairingManager.PeerGrant)
    (rootPublicKey : Option String) (transportGeneration : Option ℤ)
    (transportFingerprint : Fingerprint) (transportProof : Option String) : Bool :=
  match grant.rootPublicKey with
  | none => false
  | some root =>
      if root = "" then false
      else if rootPublicKey ≠ some root then false
      else
        match transportGeneration, transportProof with
        | some generation, some proof =>
            if proof = "" then false
            else
              verifyTransportProof check grant.callerId root generation transportFingerprint proof
        | _, _ => false

/-- The stored record is a `TrustedPeer` of `owner` or a `PeerGrant` to it.
Source: `pairing/manager.py`, `candidate_transport_generation_allowed`.  Kind: D -/
def candidateTransportGenerationAllowed (check : SignatureCheck) (owner : NodeId)
    (stored : Material) (transportFingerprint : Option String) (transportGeneration : Option ℤ)
    (transportProof : Option String) : Bool :=
  if stored.transportFingerprint = none ∨
      transportFingerprint.map Fingerprint.text = stored.transportFingerprint then true
  else
    match stored.rootPublicKey, transportGeneration, transportProof with
    | some root, some generation, some proof =>
        root ≠ "" && stored.transportGeneration.all (· < generation) && proof ≠ "" &&
          verifyTransportProof check owner root generation
            (.text (transportFingerprint.getD "")) proof
    | _, _, _ => false

/-! ## The manager -/

/-- Source: `pairing/manager.py`, `PairingManager`.  Kind: D -/
structure PairingManager where
  /-- `local_id` -/
  localId : NodeId
  /-- `_ttl` -/
  ttl : ℚ
  /-- `pending` -/
  pending : Dict String PendingPairing
  /-- `trusted` -/
  trusted : Dict NodeId TrustedPeer
  /-- `grants` -/
  grants : Dict NodeId PairingManager.PeerGrant
  /-- The keys of `_auth_broken`. -/
  authBroken : Finset NodeId
  deriving DecidableEq

/-- Source: `pairing/manager.py`, `RelationshipState`.  Kind: D -/
inductive RelationshipState where
  | unpaired | outboundTrusted | inboundGranted | bidirectional
  | pendingOutbound | pendingInbound | repairRequired | identityConflict
  deriving DecidableEq

namespace PairingManager

/-- `PairingManager(local_id)`. -/
def new (localId : NodeId) : PairingManager :=
  ⟨localId, 300, Dict.empty, Dict.empty, Dict.empty, ∅⟩

/-- An active exact transaction.  Source: `pairing/manager.py`, `find_pending`.  Kind: D -/
def findPending (m : PairingManager) (now : ℚ) (peer : NodeId) (secret : String) :
    Option PendingPairing :=
  m.pending.values.find? fun t => t.peerId = peer ∧ t.secret = secret ∧ now < t.expiresAt

/-- The active transaction of one direction, or of either.
Source: `pairing/manager.py`, `find_pending_for`.  Kind: D -/
def findPendingFor (m : PairingManager) (now : ℚ) (peer : NodeId) (direction : Option Direction) :
    Option PendingPairing :=
  m.pending.values.find? fun t =>
    t.peerId = peer ∧ now < t.expiresAt ∧ direction.all (t.direction = ·)

/-- Source: `pairing/manager.py`, `_active`.  Kind: D -/
def active (m : PairingManager) (now : ℚ) (transactionId : String) :
    Except PyError PendingPairing :=
  match (m.pending.get? transactionId).filter fun t => now < t.expiresAt with
  | some t => .ok t
  | none => .error ⟨.value, "pairing transaction is missing or expired"⟩

/-- The transaction that `begin` builds when none is replayed. -/
def newTransaction (m : PairingManager) (now : ℚ) (txid drawn : String) (peer : NodeId)
    (secret : Option String) (material : Material) (direction : Direction) (intent : Intent) :
    PendingPairing :=
  { material with
    transactionId := txid
    peerId := peer
    secret := (secret.filter (· ≠ "")).getD drawn
    expiresAt := now + m.ttl
    direction := direction
    intent := intent }

/-- `txid` and `drawn` are the transaction id and the secret that are drawn if needed; the only
exception is `PairingBusy`.  Source: `pairing/manager.py`, `begin`.  Kind: D -/
def begin (m : PairingManager) (now : ℚ) (txid drawn : String) (peer : NodeId)
    (secret : Option String) (material : Material) (direction : Direction) (intent : Intent) :
    Except PyError (PendingPairing × PairingManager) :=
  match (secret.bind fun s => m.findPending now peer s).filter fun t =>
      t.direction = direction ∧ t.intent = intent with
  | some replay => .ok (replay, m)
  | none =>
      if (m.findPendingFor now peer (some direction)).isSome then
        .error ⟨.value, "a pairing transaction is already active for this peer"⟩
      else
        let t := m.newTransaction now txid drawn peer secret material direction intent
        .ok (t, { m with pending := m.pending.insert txid t })

/-- The grant that `approve` makes of a transaction. -/
def grantOf (t : PendingPairing) (permissions : Finset PermissionItem) : PeerGrant :=
  { t.toMaterial with callerId := t.peerId, secret := t.secret, permissions := permissions }

/-- Source: `pairing/manager.py`, `approve`.  Kind: D -/
def approve (m : PairingManager) (now : ℚ) (transactionId : String)
    (permissions : Finset PermissionItem) : Except PyError (PeerGrant × PairingManager) := do
  let t ← m.active now transactionId
  raiseIf (¬PermissionItem.texts permissions ⊆ readOnlyPermissions)
    ⟨.value, "pairing permissions are read-only"⟩
  let grant := grantOf t permissions
  return (grant, { m with grants := m.grants.insert t.peerId grant })

/-- `transaction` is what the caller sent.
Source: `pairing/manager.py`, `receive_request`.  Kind: D -/
def receiveRequest (m : PairingManager) (now : ℚ) (caller : NodeId)
    (transaction : PendingPairing) : Except PyError (PendingPairing × PairingManager) := do
  raiseIf (transaction.expiresAt ≤ now) ⟨.value, "pairing transaction is expired"⟩
  let t := { transaction with peerId := caller, direction := .inbound }
  return (t, { m with pending := m.pending.insert t.transactionId t })

/-- The trust that `confirm` makes of a transaction and a grant. -/
def trustOf (t : PendingPairing) (grant : PeerGrant) : TrustedPeer :=
  { grant.toMaterial with
    peerId := t.peerId, secret := t.secret, permissions := grant.permissions }

/-- The grant is the one that the peer of the transaction holds.
Source: `pairing/manager.py`, `confirm`.  Kind: D -/
def confirm (m : PairingManager) (now : ℚ) (transactionId : String) :
    Except PyError (TrustedPeer × PairingManager) := do
  let t ← m.active now transactionId
  match m.grants.get? t.peerId with
  | none => throw ⟨.value, "pairing was not approved"⟩
  | some grant =>
      return (trustOf t grant, { m with
        trusted := m.trusted.insert t.peerId (trustOf t grant)
        authBroken := m.authBroken.erase t.peerId
        pending := m.pending.erase transactionId })

/-- `peer` is the material of the peer that the trust is about.
Source: `pairing/manager.py`, `accept_grant`.  Kind: D -/
def acceptGrant (m : PairingManager) (now : ℚ) (transactionId : String) (peerId : NodeId)
    (grant : PeerGrant) (peer : Material) : Except PyError (TrustedPeer × PairingManager) := do
  let t ← m.active now transactionId
  raiseIf (t.peerId ≠ peerId ∨ grant.callerId ≠ m.localId)
    ⟨.value, "pairing grant binding mismatch"⟩
  raiseIf (grant.toMaterial ≠ t.toMaterial)
    ⟨.value, "pairing fingerprint binding mismatch"⟩
  let trusted : TrustedPeer :=
    { peer with peerId := peerId, secret := t.secret, permissions := grant.permissions }
  return (trusted, { m with
    trusted := m.trusted.insert peerId trusted
    authBroken := m.authBroken.erase peerId
    pending := m.pending.erase transactionId })

/-- Source: `pairing/manager.py`, `abort`.  Kind: D -/
def abort (m : PairingManager) (transactionId : String) : PairingManager :=
  { m with pending := m.pending.erase transactionId }

/-- Source: `pairing/manager.py`, `prune_expired`.  Kind: D -/
def pruneExpired (m : PairingManager) (now : ℚ) : PairingManager :=
  { m with pending := m.pending.filterEntries fun p => now < p.2.expiresAt }

/-- Source: `pairing/manager.py`, `revoke`.  Kind: D -/
def revoke (m : PairingManager) (peer : NodeId) : PairingManager :=
  { m with
    trusted := m.trusted.erase peer
    grants := m.grants.erase peer
    authBroken := m.authBroken.erase peer
    pending := m.pending.filterEntries fun p => p.2.peerId ≠ peer }

/-- Source: `pairing/manager.py`, `revoke_trusted`.  Kind: D -/
def revokeTrusted (m : PairingManager) (peer : NodeId) : PairingManager :=
  { m with
    trusted := m.trusted.erase peer
    authBroken := m.authBroken.erase peer
    pending := m.pending.filterEntries fun p =>
      ¬(p.2.peerId = peer ∧ p.2.direction = .outbound) }

/-- Source: `pairing/manager.py`, `revoke_grant`.  Kind: D -/
def revokeGrant (m : PairingManager) (peer : NodeId) : PairingManager :=
  { m with
    grants := m.grants.erase peer
    pending := m.pending.filterEntries fun p =>
      ¬(p.2.peerId = peer ∧ p.2.direction = .inbound) }

/-- Source: `pairing/manager.py`, `restore_trusted`.  Kind: D -/
def restoreTrusted (m : PairingManager) (peer : NodeId) (trusted : Option TrustedPeer)
    (authBroken : Bool) : PairingManager :=
  match trusted with
  | none => m.revokeTrusted peer
  | some t =>
      { m with
        trusted := m.trusted.insert peer t
        authBroken := if authBroken then insert peer m.authBroken else m.authBroken.erase peer }

/-- Source: `pairing/manager.py`, `mark_auth_failure`.  Kind: D -/
def markAuthFailure (m : PairingManager) (peer : NodeId) : PairingManager :=
  if m.trusted.contains peer then { m with authBroken := insert peer m.authBroken } else m

/-- Source: `pairing/manager.py`, `mark_auth_ok`.  Kind: D -/
def markAuthOk (m : PairingManager) (peer : NodeId) : PairingManager :=
  { m with authBroken := m.authBroken.erase peer }

/-- `snap` is what `snapshot()` returned: a shallow copy of the four dictionaries.
Source: `pairing/manager.py`, `restore_snapshot`.  Kind: D -/
def restoreSnapshot (m snap : PairingManager) : PairingManager :=
  { m with
    trusted := snap.trusted
    grants := snap.grants
    pending := snap.pending
    authBroken := snap.authBroken }

/-- Source: `pairing/manager.py`, `relationship`.  Kind: D -/
def relationship (m : PairingManager) (now : ℚ) (peer : NodeId) : RelationshipState :=
  let outbound := m.trusted.contains peer
  let inbound := m.grants.contains peer
  if outbound ∧ peer ∈ m.authBroken then .repairRequired
  else if outbound ∧ inbound then .bidirectional
  else if outbound then .outboundTrusted
  else if inbound then .inboundGranted
  else
    match m.findPendingFor now peer none with
    | some t => if t.direction = .outbound then .pendingOutbound else .pendingInbound
    | none => .unpaired

/-- Source: `pairing/manager.py`, `classify_trusted_candidate`.  Kind: D -/
def classifyTrustedCandidate (check : SignatureCheck) (m : PairingManager) (now : ℚ)
    (peer : NodeId) (candidateRootPublicKey candidateTransportFingerprint : Option String)
    (candidateTransportGeneration : Option ℤ) (candidateTransportProof : Option String) :
    RelationshipState :=
  match m.trusted.get? peer with
  | none => m.relationship now peer
  | some trusted =>
      let settled :=
        if peer ∈ m.authBroken then RelationshipState.repairRequired else .outboundTrusted
      match trusted.rootPublicKey.filter (· ≠ "") with
      | none => .identityConflict
      | some root =>
          let proven : Bool :=
            match candidateTransportGeneration, candidateTransportProof.filter (· ≠ ""),
                candidateTransportFingerprint.filter (· ≠ "") with
            | some generation, some proof, some fp =>
                verifyTransportProof check peer root generation (.text fp) proof
            | _, _, _ => false
          if candidateRootPublicKey ≠ some root then .identityConflict
          else if candidateTransportFingerprint.map Fingerprint.text =
              trusted.transportFingerprint then settled
          else if proven ∧ trusted.transportGeneration.all fun g =>
              candidateTransportGeneration.any (g < ·) then settled
          else if proven then .repairRequired
          else .identityConflict

end PairingManager

end ExpraConnect
