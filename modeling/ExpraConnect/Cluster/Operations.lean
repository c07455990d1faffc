import ExpraConnect.Cluster.Roles
import ExpraConnect.Lib.Dict
import Mathlib.Data.String.Basic
import Mathlib.Data.Finset.Sort

/-!
# The mutable cluster facade and its persisted document

`cluster/operations.py`, `cluster/invites.py` and the codec of `cluster/state.py`.

* `Cluster` with `createInvite`, `assign`, `consumeInvite`, `revoke`, `authorize`, as stateful
  code (`PyM Cluster`): a raised exception keeps whatever was written before it.
* `ClusterDoc`, the persisted document, with `Cluster.toDict`, `ClusterState.fromDict` and
  `Cluster.fromState`; `Cluster.restart` is the three of them in a row.
* `InviteHash` stands for `hash_invite` (SHA-256 in hex).

Clock readings, random tokens and the cluster id of a fresh cluster are arguments.
-/

namespace ExpraConnect

open ExpraConnect.Lib

/-- `hash_invite`, as an injective function, and the test `from_dict` uses to tell a stored digest
from a legacy raw token (64 lower-case hex digits).
Source: `cluster/roles.py`, `hash_invite`; `cluster/operations.py`, `ClusterState.from_dict`.
Kind: D -/
structure InviteHash where
  /-- The digest of a token. -/
  hash : String → String
  /-- Whether a text has the form of a digest. -/
  isDigest : String → Bool
  /-- No two tokens have one digest. -/
  hash_injective : Function.Injective hash
  /-- Every digest has the form of a digest. -/
  isDigest_hash : ∀ token, isDigest (hash token) = true
  /-- The empty text does not. -/
  isDigest_empty : isDigest "" = false

/-- A digest is not empty.  Kind: L -/
theorem InviteHash.hash_ne (H : InviteHash) (token : String) : H.hash token ≠ "" := by
  intro h
  have hd := H.isDigest_hash token
  rw [h, H.isDigest_empty] at hd
  cases hd

/-! ## Assignments by node -/

/-- `cluster.assignments`: a dictionary whose keys are the node ids of its values.
Source: `cluster/operations.py`, `Cluster.assignments`.  Kind: D -/
structure Assignments where
  /-- The dictionary. -/
  dict : Dict NodeId RoleAssignment
  /-- Every assignment is filed under its own node. -/
  keyed : ∀ p ∈ dict.entries, p.2.nodeId = some p.1
  deriving DecidableEq

namespace Assignments

/-- The pairs of the comprehension `{a.node_id: a for a in l if a.node_id is not None}`. -/
def pairs (l : List RoleAssignment) : List (NodeId × RoleAssignment) :=
  l.filterMap fun a => a.nodeId.map fun n => (n, a)

/-- A write under the own node keeps the table keyed.  Kind: L -/
theorem keyed_insertRaw {l : List (NodeId × RoleAssignment)} {p : NodeId × RoleAssignment}
    (hl : ∀ q ∈ l, q.2.nodeId = some q.1) (hp : p.2.nodeId = some p.1) :
    ∀ q ∈ Dict.insertRaw p.1 p.2 l, q.2.nodeId = some q.1 := by
  induction l with
  | nil =>
      intro q hq
      simp only [Dict.insertRaw, List.mem_singleton] at hq
      subst hq
      exact hp
  | cons r l ih =>
      intro q hq
      simp only [Dict.insertRaw] at hq
      split at hq
      · rcases List.mem_cons.mp hq with rfl | hq'
        · exact hp
        · exact hl q (List.mem_cons_of_mem _ hq')
      · rcases List.mem_cons.mp hq with rfl | hq'
        · exact hl _ List.mem_cons_self
        · exact ih (fun q' h' => hl q' (List.mem_cons_of_mem _ h')) q hq'

/-- Such writes keep the table keyed.  Kind: L -/
theorem keyed_foldl (l : List (NodeId × RoleAssignment)) (hl : ∀ q ∈ l, q.2.nodeId = some q.1)
    (d : Dict NodeId RoleAssignment) (hd : ∀ q ∈ d.entries, q.2.nodeId = some q.1) :
    ∀ q ∈ (l.foldl (fun d p => d.insert p.1 p.2) d).entries, q.2.nodeId = some q.1 := by
  induction l generalizing d with
  | nil => exact hd
  | cons p l ih =>
      refine ih (fun q hq => hl q (List.mem_cons_of_mem _ hq)) (d.insert p.1 p.2) ?_
      exact keyed_insertRaw hd (hl p List.mem_cons_self)

/-- The pairs of a list of assignments are keyed.  Kind: L -/
theorem keyed_pairs (l : List RoleAssignment) : ∀ q ∈ pairs l, q.2.nodeId = some q.1 := by
  intro q hq
  simp only [pairs, List.mem_filterMap, Option.map_eq_some_iff] at hq
  obtain ⟨a, _, n, hn, rfl⟩ := hq
  exact hn

/-- `{a.node_id: a for a in l if a.node_id is not None}`.
Source: `cluster/operations.py`, `Cluster._apply_role_state`.  Kind: D -/
def ofList (l : List RoleAssignment) : Assignments where
  dict := Dict.ofList (pairs l)
  keyed := keyed_foldl (pairs l) (keyed_pairs l) Dict.empty (by simp [Dict.empty])

/-- `assignments.get(node)`. -/
def get? (m : Assignments) (node : NodeId) : Option RoleAssignment := m.dict.get? node

/-- `tuple(assignments.values())`. -/
def values (m : Assignments) : List RoleAssignment := m.dict.values

end Assignments

/-! ## The facade -/

/-- Source: `cluster/operations.py`, `Cluster`.  Kind: D -/
structure Cluster where
  /-- The local node. -/
  localId : NodeId
  /-- The cluster the node belongs to. -/
  clusterId : String
  /-- The coordinator term. -/
  epoch : CoordinatorEpoch
  /-- The members. -/
  assignments : Assignments
  /-- Which members are known to be online. -/
  online : Dict NodeId Bool
  /-- The active invites, keyed by raw token or, after a restart, by digest. -/
  invites : Dict String InviteRecord
  /-- The admissions that can be replayed, keyed by digest. -/
  joinAdmissions : Dict String InviteRecord
  /-- The digests of the consumed invites. -/
  usedInvites : Finset String
  /-- The terms that were promoted from. -/
  promotionEpochs : Finset ℕ
  /-- The capability grants. -/
  capabilityGrants : List CapabilityGrant
  deriving DecidableEq

namespace Cluster

/-- `Cluster(local_id, clock=...)`: a new one-node cluster led by the local node.
Source: `cluster/operations.py`, `Cluster.__init__` and `ClusterState.create_local`.  Kind: D -/
def create (localId : NodeId) (clusterId fencingToken : String) (now : ℚ) :
    Except PyError Cluster := do
  let epoch ← CoordinatorEpoch.new 1 localId fencingToken now (now + 120)
  return {
    localId := localId
    clusterId := clusterId
    epoch := epoch
    assignments := Assignments.ofList [RoleAssignment.coordinator localId]
    online := Dict.empty.insert localId true
    invites := Dict.empty
    joinAdmissions := Dict.empty
    usedInvites := ∅
    promotionEpochs := ∅
    capabilityGrants := [] }

/-- `coordinator_id`. -/
def coordinatorId (c : Cluster) : NodeId := c.epoch.coordinatorId

/-- Source: `cluster/operations.py`, `Cluster.is_active_coordinator`.  Kind: D -/
def isActiveCoordinator (c : Cluster) : Bool :=
  (c.assignments.get? c.localId).any (fun a =>
    !a.paused && !a.revoked && decide (.coordinator ∈ a.roles)) &&
  decide (c.epoch.coordinatorId = c.localId)

/-- Source: `cluster/operations.py`, `Cluster.local_assignment`.  Kind: D -/
def localAssignment (c : Cluster) : RoleAssignment :=
  (c.assignments.get? c.localId).getD (RoleAssignment.worker c.localId)

/-- Source: `cluster/operations.py`, `Cluster._role_state`.  Kind: D -/
def roleState (c : Cluster) : Except PyError RoleState :=
  RoleState.new c.assignments.values (some c.epoch) c.promotionEpochs c.capabilityGrants

/-- Source: `cluster/operations.py`, `Cluster._apply_role_state`.  Kind: D -/
def applyRoleState (c : Cluster) (s : RoleState) : Cluster :=
  { c with
    assignments := Assignments.ofList s.assignments
    capabilityGrants := s.capabilityGrants }

/-- Source: `cluster/operations.py`, `Cluster.is_member`.  Kind: D -/
def isMember (c : Cluster) (node : NodeId) : Bool :=
  (c.assignments.get? node).any fun a => !a.revoked

/-- Source: `cluster/operations.py`, `Cluster.authorize`.  Kind: D -/
def authorize (c : Cluster) (clusterId : String) (epoch : ℤ) (fencingToken : String) :
    Except PyError Unit := do
  raiseIf (clusterId ≠ c.clusterId ∨ epoch ≠ c.epoch.epoch)
    ⟨.permission, "stale coordinator authority"⟩
  raiseIf (!(← compareDigest fencingToken c.epoch.fencingToken))
    ⟨.permission, "stale coordinator authority"⟩

/-- The lifetime of an invite. -/
def inviteTtlSeconds : ℚ := 300

section invites

variable (H : InviteHash)

/-- `create_invite(target_id, now=now)`; `token` is `secrets.token_urlsafe(32)`.
Source: `cluster/operations.py`, `Cluster.create_invite`; `cluster/invites.py`, `create_invite`.
Kind: D -/
def createInvite (target : NodeId) (token : String) (now : ℚ) : PyM Cluster InviteRecord := do
  let c ← get
  raiseIf (!c.isActiveCoordinator)
    ⟨.permission, "only an active local Coordinator may create invites"⟩
  let invite ← PyM.ofExcept <| InviteRecord.new (H.hash token) target.value
    (now + inviteTtlSeconds) token c.clusterId c.epoch.coordinatorId.value c.epoch.epoch
    c.epoch.fencingToken
  set { c with invites := c.invites.insert invite.token invite }
  return invite

/-- Source: `cluster/operations.py`, `Cluster.assign`.  Kind: D -/
def assign (node : NodeId) (role : ClusterRole) (now : ℚ) : PyM Cluster Unit := do
  let c ← get
  raiseIf (!c.isActiveCoordinator)
    ⟨.permission, "only an active local Coordinator may assign roles"⟩
  let state ← PyM.ofExcept c.roleState
  let updated ← PyM.ofExcept (state.assign c.localAssignment node {role} now)
  let applied := c.applyRoleState updated.1
  set { applied with
    online := if applied.online.contains node then applied.online
      else applied.online.insert node true }

/-- `consume_invite(token, target_id, now=now, allow_retry=...)`.
Source: `cluster/operations.py`, `Cluster.consume_invite`.  Kind: D -/
def consumeInvite (token : String) (target : NodeId) (now : ℚ) (allowRetry : Bool) :
    PyM Cluster InviteRecord := do
  let c ← get
  raiseIf (!c.isActiveCoordinator)
    ⟨.permission, "only an active local Coordinator may consume invites"⟩
  let digest := H.hash token
  let invite := (c.invites.get? token).or (c.invites.get? digest)
  match c.joinAdmissions.get? digest with
  | some admission =>
      raiseIf (!allowRetry) ⟨.value, "invite is expired or already consumed"⟩
      let admitted ← PyM.ofExcept (NodeId.new admission.targetNodeId)
      raiseIf (admitted ≠ target) ⟨.value, "invite target mismatch"⟩
      return admission
  | none =>
      match invite with
      | none => throw ⟨.value, "invite is expired or already consumed"⟩
      | some invite =>
          raiseIf (digest ∈ c.usedInvites ∨ invite.expiresAt ≤ now)
            ⟨.value, "invite is expired or already consumed"⟩
          let invited ← PyM.ofExcept (NodeId.new invite.targetNodeId)
          raiseIf (invited ≠ target ∨ invite.clusterId ≠ c.clusterId ∨ invite.epoch ≠ c.epoch.epoch)
            ⟨.value, "invite target or cluster mismatch"⟩
          -- the invite is spent before the role change, which can still raise
          modify fun c => { c with
            invites := (c.invites.erase token).erase digest
            usedInvites := insert digest c.usedInvites }
          assign target .worker now
          modify fun c => { c with
            joinAdmissions := c.joinAdmissions.insert digest { invite with token := "" } }
          return invite

/-- Source: `cluster/operations.py`, `Cluster.revoke`.  Kind: D -/
def revoke (node : NodeId) : PyM Cluster Unit := do
  let c ← get
  raiseIf (!c.isActiveCoordinator)
    ⟨.permission, "only an active local Coordinator may revoke roles"⟩
  match c.assignments.get? node with
  | none => return
  | some current =>
      if current.revoked then return
      else
        let state ← PyM.ofExcept c.roleState
        let updated ← PyM.ofExcept (state.revoke c.localAssignment node)
        set (c.applyRoleState updated)

/-- `join(invite, coordinator, pairing=admission, now=now)`, on the joining cluster and the
coordinator's.  Source: `cluster/operations.py`, `Cluster.join`.  Kind: D -/
def join (admission : NodeId → Bool) (invite : InviteRecord) (now : ℚ) :
    PyM (Cluster × Cluster) Unit := do
  let (c, coordinator) ← get
  raiseIf (!admission coordinator.localId)
    ⟨.permission, "cluster Join requires an authenticated Pair"⟩
  raiseIf (c.localAssignment.revoked || c.localAssignment.paused)
    ⟨.permission, "paused or revoked local membership cannot join"⟩
  raiseIf (c.clusterId = coordinator.clusterId ∧ c.isMember c.localId = true)
    ⟨.value, "local node has already joined this cluster"⟩
  match consumeInvite H invite.token c.localId now true coordinator with
  | .error e coordinator =>
      set (c, coordinator)
      throw e
  | .ok _ coordinator =>
      -- the grants of the cluster that is left stay where they are
      set ({ c with
        clusterId := coordinator.clusterId
        epoch := coordinator.epoch
        assignments := Assignments.ofList
          [RoleAssignment.worker c.localId, RoleAssignment.coordinator coordinator.localId]
        online := c.online.insert coordinator.localId true }, coordinator)

end invites

end Cluster

/-! ## The persisted document -/

/-- Source: `cluster/state.py`, one item of `assignments`.  Kind: D -/
structure AssignmentDoc where
  /-- `node_id` -/
  nodeId : String
  /-- `roles` -/
  roles : List String
  /-- `paused` -/
  paused : Bool
  /-- `revoked` -/
  revoked : Bool
  /-- `has_active_job` -/
  hasActiveJob : Bool
  deriving DecidableEq

/-- Source: `cluster/state.py`, `epoch`.  Kind: D -/
structure EpochDoc where
  /-- `epoch` -/
  epoch : ℕ
  /-- `coordinator_id` -/
  coordinatorId : String
  /-- `fencing_token` -/
  fencingToken : String
  /-- `issued_at` -/
  issuedAt : ℚ
  /-- `lease_expires_at` -/
  leaseExpiresAt : ℚ
  deriving DecidableEq

/-- Source: `cluster/state.py`, one item of `capability_grants`.  Kind: D -/
structure GrantDoc where
  /-- `subject` -/
  subject : String
  /-- `target` -/
  target : String
  /-- `permissions` -/
  permissions : List String
  /-- `issued_at` -/
  issuedAt : ℚ
  /-- `expires_at` -/
  expiresAt : ℚ
  deriving DecidableEq

/-- The persisted form of an invite, without the one-time token.
Source: `cluster/invites.py`, `invite_to_dict`.  Kind: D -/
structure InviteDoc where
  /-- `token_hash` -/
  tokenHash : String
  /-- `target_node_id` -/
  targetNodeId : String
  /-- `expires_at` -/
  expiresAt : ℚ
  /-- `cluster_id` -/
  clusterId : String
  /-- `coordinator_id` -/
  coordinatorId : String
  /-- `epoch` -/
  epoch : ℕ
  /-- `fencing_token` -/
  fencingToken : String
  deriving DecidableEq

/-- Source: `cluster/operations.py`, `ClusterState.to_dict`.  Kind: D -/
structure ClusterDoc where
  /-- `assignments` -/
  assignments : List AssignmentDoc
  /-- `epoch` -/
  epoch : Option EpochDoc
  /-- `promotion_epochs` -/
  promotionEpochs : List ℕ
  /-- `capability_grants` -/
  capabilityGrants : List GrantDoc
  /-- `cluster_id` -/
  clusterId : String
  /-- `local_node_id` -/
  localNodeId : String
  /-- `active_invites` -/
  activeInvites : List InviteDoc
  /-- `join_admissions` -/
  joinAdmissions : List InviteDoc
  /-- `used_invites` -/
  usedInvites : List String
  deriving DecidableEq

/-- `sorted(role.value for role in roles)`. -/
def rolesToList (roles : Finset ClusterRole) : List String :=
  ([ClusterRole.coordinator, .subcoordinator, .worker].filter (· ∈ roles)).map ClusterRole.value

/-- `sorted(permission.value for permission in permissions)`. -/
def permissionsToList (permissions : Finset NodePermission) : List String :=
  ([NodePermission.cleanup, .processForceTermination, .processTermination, .readState,
    .remoteManagement].filter (· ∈ permissions)).map NodePermission.value

/-- Source: `cluster/invites.py`, `invite_to_dict`.  Kind: D -/
def inviteToDict (i : InviteRecord) : InviteDoc :=
  ⟨i.tokenHash, i.targetNodeId, i.expiresAt, i.clusterId, i.coordinatorId, i.epoch,
    i.fencingToken⟩

/-- Source: `cluster/state.py`, `role_state_to_dict`, the part of one assignment.  Kind: D -/
def assignmentToDict (a : RoleAssignment) : Option AssignmentDoc :=
  a.nodeId.map fun n => ⟨n.value, rolesToList a.roles, a.paused, a.revoked, a.hasActiveJob⟩

/-- Source: `cluster/state.py`, `role_state_to_dict`, the part of the epoch.  Kind: D -/
def epochToDict (e : CoordinatorEpoch) : EpochDoc :=
  ⟨e.epoch, e.coordinatorId.value, e.fencingToken, e.issuedAt, e.leaseExpiresAt⟩

/-- Source: `cluster/state.py`, `role_state_to_dict`, the part of one grant.  Kind: D -/
def grantToDict (g : CapabilityGrant) : GrantDoc :=
  ⟨g.subject.value, g.target.value, permissionsToList g.permissions, g.issuedAt, g.expiresAt⟩

/-- Source: `cluster/operations.py`, `Cluster.to_dict` and `ClusterState.to_dict`.  Kind: D -/
def Cluster.toDict (c : Cluster) : Except PyError ClusterDoc := do
  let state ← c.roleState
  return {
    assignments := state.assignments.filterMap assignmentToDict
    epoch := state.epoch.map epochToDict
    promotionEpochs := state.promotionEpochs.sort (· ≤ ·)
    capabilityGrants := state.capabilityGrants.map grantToDict
    clusterId := c.clusterId
    localNodeId := c.localId.value
    activeInvites := c.invites.values.map inviteToDict
    joinAdmissions := c.joinAdmissions.values.map inviteToDict
    usedInvites := c.usedInvites.sort (· ≤ ·) }

/-- The decoded aggregate.  Source: `cluster/operations.py`, `ClusterState`.  Kind: D -/
structure ClusterState where
  /-- `local_node_id` -/
  localNodeId : String
  /-- `cluster_id` -/
  clusterId : String
  /-- `role_assignments`, `coordinator_epoch`, `promotion_epochs`, `capability_grants` -/
  roles : RoleState
  /-- `active_invites` -/
  activeInvites : List InviteRecord
  /-- `join_admissions` -/
  joinAdmissions : List InviteRecord
  /-- `used_invites` -/
  usedInvites : Finset String

/-- Source: `cluster/state.py`, `role_state_from_dict`, the part of one assignment.  Kind: D -/
def assignmentFromDict (d : AssignmentDoc) : Except PyError RoleAssignment := do
  let roles ← d.roles.mapM ClusterRole.new
  let node ← NodeId.new d.nodeId
  RoleAssignment.new roles.toFinset (some node) d.paused d.revoked false

/-- Source: `cluster/state.py`, `role_state_from_dict`, the part of the epoch.  Kind: D -/
def epochFromDict (d : EpochDoc) : Except PyError CoordinatorEpoch := do
  let node ← NodeId.new d.coordinatorId
  CoordinatorEpoch.new d.epoch node d.fencingToken d.issuedAt d.leaseExpiresAt

/-- Source: `cluster/state.py`, `role_state_from_dict`, the part of one grant.  Kind: D -/
def grantFromDict (d : GrantDoc) : Except PyError CapabilityGrant := do
  let subject ← NodeId.new d.subject
  let target ← NodeId.new d.target
  let permissions ← d.permissions.mapM NodePermission.new
  CapabilityGrant.new subject target permissions.toFinset d.issuedAt d.expiresAt

/-- Source: `cluster/operations.py`, `parse_invites` of `ClusterState.from_dict`.  Kind: D -/
def inviteFromDict (d : InviteDoc) : Except PyError InviteRecord :=
  if d.tokenHash = "" then .error ⟨.clusterData, "invite is malformed"⟩
  else InviteRecord.new d.tokenHash d.targetNodeId d.expiresAt "" d.clusterId d.coordinatorId
    d.epoch d.fencingToken

section restart

variable (H : InviteHash)

/-- Source: `cluster/operations.py`, `ClusterState.from_dict`, on a document whose fields have
their types.  Kind: D -/
def ClusterState.fromDict (d : ClusterDoc) : Except PyError ClusterState := do
  let assignments ← d.assignments.mapM assignmentFromDict
  let epoch ← d.epoch.mapM epochFromDict
  let grants ← d.capabilityGrants.mapM grantFromDict
  let roles ← RoleState.new assignments epoch d.promotionEpochs.toFinset grants
  raiseIf (d.localNodeId = "" ∨ d.clusterId = "") ⟨.clusterData, "cluster identity is malformed"⟩
  let invites ← d.activeInvites.mapM inviteFromDict
  let admissions ← d.joinAdmissions.mapM inviteFromDict
  raiseIf (d.usedInvites.any (· = "")) ⟨.clusterData, "used invites are malformed"⟩
  -- a legacy entry is a raw token and is hashed on the way in
  let used := d.usedInvites.map fun item => if H.isDigest item then item else H.hash item
  return ⟨d.localNodeId, d.clusterId, roles, invites, admissions, used.toFinset⟩

/-- Source: `cluster/operations.py`, `Cluster.from_state`.  Kind: D -/
def Cluster.fromState (localId : NodeId) (state : ClusterState) : Except PyError Cluster := do
  raiseIf (state.localNodeId ≠ localId.value ∨
      !(state.roles.assignments.any fun a => a.nodeId = some localId))
    ⟨.value, "persisted cluster belongs to another local node"⟩
  match state.roles.epoch with
  | none => throw ⟨.value, "persisted cluster has no coordinator epoch"⟩
  | some epoch =>
      return {
        localId := localId
        clusterId := state.clusterId
        epoch := epoch
        assignments := Assignments.ofList state.roles.assignments
        online := Dict.empty.insert localId true
        invites := Dict.ofList (state.activeInvites.map fun i => (i.tokenHash, i))
        joinAdmissions := Dict.ofList (state.joinAdmissions.map fun i => (i.tokenHash, i))
        usedInvites := state.usedInvites
        promotionEpochs := state.roles.promotionEpochs
        capabilityGrants := state.roles.capabilityGrants }

/-- A restart: `Cluster.from_state(local, ClusterState.from_dict(cluster.to_dict()))`.
Source: `cluster/operations.py`, `Cluster.save` and `Cluster.load`.  Kind: D -/
def Cluster.restart (c : Cluster) : Except PyError Cluster := do
  let document ← c.toDict
  let state ← ClusterState.fromDict H document
  Cluster.fromState c.localId state

end restart

end ExpraConnect
