import ExpraConnect.Base

/-!
# Immutable values of the cluster state machine

`cluster/models.py`.  Every dataclass with a `__post_init__` check is a structure that carries
what the check establishes, so a value the constructor would reject cannot be built; `new` is the
constructor itself, with the exception it raises.  `dataclasses.replace` runs the same check and
is written as a call of `new`.
-/

namespace ExpraConnect

/-- Source: `cluster/models.py`, `ClusterRole`.  Kind: D -/
inductive ClusterRole where
  | worker | coordinator | subcoordinator
  deriving DecidableEq

/-- `role.value`. -/
def ClusterRole.value : ClusterRole → String
  | worker => "worker"
  | coordinator => "coordinator"
  | subcoordinator => "subcoordinator"

/-- `ClusterRole(text)`. -/
def ClusterRole.new (text : String) : Except PyError ClusterRole :=
  if text = "worker" then .ok .worker
  else if text = "coordinator" then .ok .coordinator
  else if text = "subcoordinator" then .ok .subcoordinator
  else .error ⟨.value, "not a valid ClusterRole"⟩

/-! ## Role assignments -/

/-- The role set `RoleAssignment.__post_init__` stores: a Coordinator is also a Worker, and an
empty set means Worker.  Source: `cluster/models.py`, `RoleAssignment.__post_init__`.  Kind: D -/
def normalizeRoles (roles : Finset ClusterRole) : Finset ClusterRole :=
  let roles := if .coordinator ∈ roles then insert .worker roles else roles
  if roles = ∅ then {.worker} else roles

/-- One node's place in the cluster.  Source: `cluster/models.py`, `RoleAssignment`.  Kind: D -/
structure RoleAssignment where
  /-- The normalised role set. -/
  roles : Finset ClusterRole
  /-- The node, or `None` for an unbound assignment. -/
  nodeId : Option NodeId
  /-- The node is paused. -/
  paused : Bool
  /-- The node's membership is revoked. -/
  revoked : Bool
  /-- The node runs a Worker job. -/
  hasActiveJob : Bool
  /-- The stored role set is normalised. -/
  normalized : normalizeRoles roles = roles
  /-- No node is both Coordinator and Subcoordinator. -/
  exclusive : ¬(.coordinator ∈ roles ∧ .subcoordinator ∈ roles)
  /-- A revoked node is not paused. -/
  not_revoked_paused : ¬(revoked = true ∧ paused = true)
  deriving DecidableEq

/-- Normalizing twice is normalizing once.  Kind: L -/
theorem normalizeRoles_idem (roles : Finset ClusterRole) :
    normalizeRoles (normalizeRoles roles) = normalizeRoles roles := by
  unfold normalizeRoles
  by_cases hc : ClusterRole.coordinator ∈ roles
  · simp [hc]
  · by_cases he : roles = ∅
    · simp [he]
    · simp [hc, he]

/-- `RoleAssignment(roles, node_id, paused=..., revoked=..., has_active_job=...)`.
Source: `cluster/models.py`, `RoleAssignment.__post_init__`.  Kind: D -/
def RoleAssignment.new (roles : Finset ClusterRole) (nodeId : Option NodeId)
    (paused revoked hasActiveJob : Bool) : Except PyError RoleAssignment :=
  if hx : .coordinator ∈ normalizeRoles roles ∧ .subcoordinator ∈ normalizeRoles roles then
    .error ⟨.value, "a node cannot be both Coordinator and Subcoordinator"⟩
  else if hr : revoked = true ∧ paused = true then
    .error ⟨.value, "a revoked node cannot also be paused"⟩
  else
    .ok ⟨normalizeRoles roles, nodeId, paused, revoked, hasActiveJob,
      normalizeRoles_idem roles, hx, hr⟩

/-- `RoleAssignment(frozenset({WORKER}), node_id)`: the one-role constructor calls never fail. -/
def RoleAssignment.worker (nodeId : NodeId) : RoleAssignment where
  roles := {.worker}
  nodeId := some nodeId
  paused := false
  revoked := false
  hasActiveJob := false
  normalized := by decide
  exclusive := by decide
  not_revoked_paused := by decide

/-- `RoleAssignment(frozenset({COORDINATOR, WORKER}), node_id)`. -/
def RoleAssignment.coordinator (nodeId : NodeId) : RoleAssignment where
  roles := {.coordinator, .worker}
  nodeId := some nodeId
  paused := false
  revoked := false
  hasActiveJob := false
  normalized := by decide
  exclusive := by decide
  not_revoked_paused := by decide

/-- The non-revoked holder of a role, as the constructor of `RoleState` counts them. -/
def RoleAssignment.active (role : ClusterRole) (a : RoleAssignment) : Bool :=
  a.nodeId.isSome && !a.revoked && decide (role ∈ a.roles)

/-- What a new assignment says.  Kind: L -/
theorem RoleAssignment.new_nodeId {roles : Finset ClusterRole} {nodeId : Option NodeId}
    {paused revoked job : Bool} {a : RoleAssignment}
    (h : RoleAssignment.new roles nodeId paused revoked job = .ok a) :
    a.nodeId = nodeId ∧ a.roles = normalizeRoles roles ∧ a.paused = paused ∧
      a.revoked = revoked ∧ a.hasActiveJob = job := by
  unfold RoleAssignment.new at h
  split at h
  · cases h
  · split at h
    · cases h
    · cases h
      exact ⟨rfl, rfl, rfl, rfl, rfl⟩

/-! ## Epochs, grants and invites -/

/-- A coordinator term with its fence and lease.
Source: `cluster/models.py`, `CoordinatorEpoch`.  Kind: D -/
structure CoordinatorEpoch where
  /-- The term number. -/
  epoch : ℕ
  /-- The coordinator of the term. -/
  coordinatorId : NodeId
  /-- The fencing token of the term. -/
  fencingToken : String
  /-- When the lease was last issued. -/
  issuedAt : ℚ
  /-- When the lease ends. -/
  leaseExpiresAt : ℚ
  /-- The fencing token is not empty. -/
  token_ne : fencingToken ≠ ""
  /-- A lease does not end before it is issued. -/
  issued_le : issuedAt ≤ leaseExpiresAt
  deriving DecidableEq

/-- `CoordinatorEpoch(...)`.  Source: `cluster/models.py`, `CoordinatorEpoch.__post_init__`.
Kind: D -/
def CoordinatorEpoch.new (epoch : ℕ) (coordinatorId : NodeId) (fencingToken : String)
    (issuedAt leaseExpiresAt : ℚ) : Except PyError CoordinatorEpoch :=
  if ht : fencingToken ≠ "" then
    if hl : issuedAt ≤ leaseExpiresAt then
      .ok ⟨epoch, coordinatorId, fencingToken, issuedAt, leaseExpiresAt, ht, hl⟩
    else .error ⟨.value, "invalid coordinator epoch"⟩
  else .error ⟨.value, "invalid coordinator epoch"⟩

/-- What a new epoch says.  Kind: L -/
theorem CoordinatorEpoch.new_eq_ok {n : ℕ} {c : NodeId} {t : String} {i l : ℚ}
    {e : CoordinatorEpoch} (h : CoordinatorEpoch.new n c t i l = .ok e) :
    e.epoch = n ∧ e.coordinatorId = c ∧ e.fencingToken = t ∧ e.issuedAt = i ∧
      e.leaseExpiresAt = l := by
  unfold CoordinatorEpoch.new at h
  split at h
  · split at h
    · cases h
      exact ⟨rfl, rfl, rfl, rfl, rfl⟩
    · cases h
  · cases h

/-- A coordinator's grant of permissions of `subject` over `target`.
Source: `cluster/models.py`, `CapabilityGrant`.  Kind: D -/
structure CapabilityGrant where
  /-- Who may act. -/
  subject : NodeId
  /-- On which node. -/
  target : NodeId
  /-- With which permissions. -/
  permissions : Finset NodePermission
  /-- Start of validity. -/
  issuedAt : ℚ
  /-- End of validity. -/
  expiresAt : ℚ
  /-- A grant grants something. -/
  permissions_ne : permissions ≠ ∅
  /-- A grant expires after it is issued. -/
  issued_lt : issuedAt < expiresAt
  deriving DecidableEq

/-- `CapabilityGrant(...)`.  Source: `cluster/models.py`, `CapabilityGrant.__post_init__`.
Kind: D -/
def CapabilityGrant.new (subject target : NodeId) (permissions : Finset NodePermission)
    (issuedAt expiresAt : ℚ) : Except PyError CapabilityGrant :=
  if hp : permissions ≠ ∅ then
    if he : issuedAt < expiresAt then
      .ok ⟨subject, target, permissions, issuedAt, expiresAt, hp, he⟩
    else .error ⟨.value, "capability grant must expire after issuance"⟩
  else .error ⟨.value, "invalid capability grant"⟩

/-- The pair a grant is filed under. -/
def CapabilityGrant.key (g : CapabilityGrant) : NodeId × NodeId := (g.subject, g.target)

/-- Source: `cluster/models.py`, `RoleChange`.  Kind: D -/
structure RoleChange where
  /-- The changed node. -/
  nodeId : NodeId
  /-- Its new assignment. -/
  assignment : RoleAssignment
  /-- When. -/
  changedAt : ℚ
  /-- By whom. -/
  actorId : NodeId

/-- Source: `cluster/models.py`, `PromotionDecision`.  Kind: D -/
structure PromotionDecision where
  /-- The new coordinator's assignment. -/
  roleAssignment : RoleAssignment
  /-- The new term. -/
  epoch : CoordinatorEpoch
  /-- Everyone's assignment in the new term. -/
  assignments : List RoleAssignment
  /-- The grants that survive. -/
  capabilityGrants : List CapabilityGrant

/-- A one-time invitation.  Source: `cluster/models.py`, `InviteRecord`.  Kind: D -/
structure InviteRecord where
  /-- `hash_invite(token)`. -/
  tokenHash : String
  /-- The node it invites. -/
  targetNodeId : String
  /-- When it ends. -/
  expiresAt : ℚ
  /-- The one-time token, empty once persisted. -/
  token : String
  /-- The cluster it invites into. -/
  clusterId : String
  /-- The coordinator that issued it. -/
  coordinatorId : String
  /-- The term it was issued in. -/
  epoch : ℕ
  /-- The fence of that term. -/
  fencingToken : String
  /-- The digest is not empty. -/
  hash_ne : tokenHash ≠ ""
  deriving DecidableEq

/-- `InviteRecord(...)`.  Source: `cluster/models.py`, `InviteRecord.__post_init__`.  Kind: D -/
def InviteRecord.new (tokenHash targetNodeId : String) (expiresAt : ℚ) (token clusterId : String)
    (coordinatorId : String) (epoch : ℕ) (fencingToken : String) : Except PyError InviteRecord :=
  if h : tokenHash ≠ "" then
    .ok ⟨tokenHash, targetNodeId, expiresAt, token, clusterId, coordinatorId, epoch,
      fencingToken, h⟩
  else .error ⟨.value, "invalid invite"⟩

end ExpraConnect
