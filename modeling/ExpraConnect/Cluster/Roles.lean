import ExpraConnect.Cluster.Models

/-!
# Pure role, capability, lease and promotion decisions

`cluster/roles.py`.  `RoleState` carries what its `__post_init__` establishes; every transition
ends in the constructor `RoleState.new`, as every `dataclasses.replace` of the source does.  The
random value of `new_fencing_token` is an argument of `promoteSubcoordinator`.
-/

namespace ExpraConnect

/-- `HEARTBEAT_TIMEOUT_SECONDS`. -/
def heartbeatTimeoutSeconds : ℚ := 120

/-! ## The validated state -/

/-- `RoleState.__post_init__`, over the addressed assignments and the grants.
Source: `cluster/roles.py`, `RoleState.__post_init__`.  Kind: D -/
structure RoleState.Valid (assignments : List RoleAssignment) (grants : List CapabilityGrant) :
    Prop where
  /-- Node ids are unique. -/
  ids : (assignments.filterMap RoleAssignment.nodeId).Nodup
  /-- At most one active Coordinator. -/
  coordinators : (assignments.filter (RoleAssignment.active .coordinator)).length ≤ 1
  /-- At most one active Subcoordinator. -/
  subcoordinators : (assignments.filter (RoleAssignment.active .subcoordinator)).length ≤ 1
  /-- At most one grant for each pair. -/
  grants : (grants.map CapabilityGrant.key).Nodup

/-- Roles, coordinator term, promotion markers and capability grants.
Source: `cluster/roles.py`, `RoleState`.  Kind: D -/
structure RoleState where
  /-- The assignments, in order. -/
  assignments : List RoleAssignment
  /-- The coordinator term. -/
  epoch : Option CoordinatorEpoch
  /-- The terms that were promoted from. -/
  promotionEpochs : Finset ℕ
  /-- The capability grants, in order. -/
  capabilityGrants : List CapabilityGrant
  /-- The constructor's checks hold. -/
  valid : RoleState.Valid assignments capabilityGrants
  deriving DecidableEq

namespace RoleState

/-- A role state is determined by its data.  Kind: L -/
theorem ext_data {s t : RoleState} (ha : s.assignments = t.assignments) (he : s.epoch = t.epoch)
    (hp : s.promotionEpochs = t.promotionEpochs) (hg : s.capabilityGrants = t.capabilityGrants) :
    s = t := by
  cases s; cases t; cases ha; cases he; cases hp; cases hg; rfl

/-- `RoleState(assignments, epoch, promotion_epochs, capability_grants)`.
Source: `cluster/roles.py`, `RoleState.__post_init__`.  Kind: D -/
def new (assignments : List RoleAssignment) (epoch : Option CoordinatorEpoch)
    (promotionEpochs : Finset ℕ) (grants : List CapabilityGrant) : Except PyError RoleState :=
  if hi : (assignments.filterMap RoleAssignment.nodeId).Nodup then
    if hc : (assignments.filter (RoleAssignment.active .coordinator)).length ≤ 1 then
      if hs : (assignments.filter (RoleAssignment.active .subcoordinator)).length ≤ 1 then
        if hg : (grants.map CapabilityGrant.key).Nodup then
          .ok ⟨assignments, epoch, promotionEpochs, grants, hi, hc, hs, hg⟩
        else .error ⟨.value, "duplicate capability grant"⟩
      else .error ⟨.value, "only one active Subcoordinator is allowed"⟩
    else .error ⟨.value, "only one active Coordinator is allowed"⟩
  else .error ⟨.value, "invalid or duplicate role assignment"⟩

/-- The constructor succeeds exactly on valid data and stores it.  Kind: L -/
theorem new_eq_ok_iff {as : List RoleAssignment} {ep : Option CoordinatorEpoch} {pe : Finset ℕ}
    {gs : List CapabilityGrant} {s : RoleState} :
    new as ep pe gs = .ok s ↔
      Valid as gs ∧ s.assignments = as ∧ s.epoch = ep ∧ s.promotionEpochs = pe ∧
        s.capabilityGrants = gs := by
  constructor
  · intro h
    unfold new at h
    split at h
    · split at h
      · split at h
        · split at h
          · cases h
            exact ⟨⟨‹_›, ‹_›, ‹_›, ‹_›⟩, rfl, rfl, rfl, rfl⟩
          · cases h
        · cases h
      · cases h
    · cases h
  · rintro ⟨⟨hi, hc, hs, hg⟩, ha, he, hp, hgr⟩
    unfold new
    rw [dif_pos hi, dif_pos hc, dif_pos hs, dif_pos hg]
    exact congrArg Except.ok (ext_data ha.symm he.symm hp.symm hgr.symm)

/-- Rebuilding a state from its own data gives it back.  Kind: L -/
@[simp] theorem new_self (s : RoleState) :
    new s.assignments s.epoch s.promotionEpochs s.capabilityGrants = .ok s :=
  new_eq_ok_iff.mpr ⟨s.valid, rfl, rfl, rfl, rfl⟩

/-! ## Queries -/

/-- `assignment_for(node_id)`.  Source: `cluster/roles.py`, `RoleState.assignment_for`.  Kind: D -/
def assignmentFor (s : RoleState) (node : NodeId) : Option RoleAssignment :=
  s.assignments.find? fun a => a.nodeId = some node

/-- `capability_grant(subject, target, now=now)`, with `now=None` for no expiry check.
Source: `cluster/roles.py`, `RoleState.capability_grant`.  Kind: D -/
def capabilityGrant (s : RoleState) (subject target : NodeId) (now : Option ℚ) :
    Option CapabilityGrant :=
  match s.capabilityGrants.find? fun g => g.key = (subject, target) with
  | none => none
  | some g =>
      match now with
      | none => some g
      | some t => if g.expiresAt ≤ t then none else some g

/-- `_control`: the acting node, if it is the active, unpaused Coordinator of the term.
Source: `cluster/roles.py`, `RoleState._control`.  Kind: D -/
def control (s : RoleState) (actor : RoleAssignment) : Except PyError NodeId :=
  match actor.nodeId with
  | none => .error ⟨.roleAuthorization, "only an active Coordinator may control peers"⟩
  | some actorId =>
      match s.assignmentFor actorId with
      | none => .error ⟨.roleAuthorization, "only an active Coordinator may control peers"⟩
      | some canonical =>
          if canonical.revoked || canonical.paused || decide (.coordinator ∉ canonical.roles) ||
              s.epoch.any (fun e => e.coordinatorId ≠ actorId) then
            .error ⟨.roleAuthorization, "only an active Coordinator may control peers"⟩
          else .ok actorId

/-! ## Transitions -/

/-- Put `assignment` in the place of its node's entry.
Source: `cluster/roles.py`, the comprehension of `RoleState._replace` and `assign`.  Kind: D -/
def substitute (assignment : RoleAssignment) (as : List RoleAssignment) : List RoleAssignment :=
  as.map fun a => if a.nodeId = assignment.nodeId then assignment else a

/-- Source: `cluster/roles.py`, `RoleState._replace`.  Kind: D -/
def replaceAssignment (s : RoleState) (assignment : RoleAssignment) : Except PyError RoleState :=
  new (substitute assignment s.assignments) s.epoch s.promotionEpochs s.capabilityGrants

/-- The entry a node id resolves to in a list of assignments (`by_id` of the pruning). -/
def lookupId (as : List RoleAssignment) (node : NodeId) : Option RoleAssignment :=
  as.find? fun a => a.nodeId = some node

/-- A grant still joins an active Subcoordinator to an active Worker. -/
def grantMatches (as : List RoleAssignment) (g : CapabilityGrant) : Bool :=
  match lookupId as g.subject, lookupId as g.target with
  | some subject, some target =>
      !subject.revoked && decide (.subcoordinator ∈ subject.roles) &&
        !target.revoked && decide (.worker ∈ target.roles)
  | _, _ => false

/-- Drop the grants that no longer match the role topology.
Source: `cluster/roles.py`, `_prune_capability_grants`.  Kind: D -/
def pruneCapabilityGrants (as : List RoleAssignment) (gs : List CapabilityGrant) :
    List CapabilityGrant :=
  gs.filter (grantMatches as)

/-- A node that is not a Worker holds no Worker job.
Source: `cluster/roles.py`, `RoleState.assign`, the `replace(..., has_active_job=False)`.
Kind: D -/
def dropJob (a : RoleAssignment) : Except PyError RoleAssignment :=
  if .worker ∉ a.roles then RoleAssignment.new a.roles a.nodeId a.paused a.revoked false else .ok a

/-- Source: `cluster/roles.py`, `RoleState.assign`.  Kind: D -/
def assign (s : RoleState) (actor : RoleAssignment) (target : NodeId)
    (roles : Finset ClusterRole) (now : ℚ) : Except PyError (RoleState × RoleChange) := do
  let actorId ← s.control actor
  raiseIf (target = actorId) ⟨.roleAuthorization, "the active Coordinator cannot target itself"⟩
  raiseIf (.coordinator ∈ roles) ⟨.roleAuthorization, "Coordinator ownership cannot be delegated"⟩
  let current := s.assignmentFor target
  raiseIf (current.any RoleAssignment.revoked)
    ⟨.roleAuthorization, "revoked node requires a new pairing invite"⟩
  raiseIf (.subcoordinator ∈ roles ∧ s.assignments.any (fun a => a.nodeId ≠ some target &&
      (!a.revoked && decide (.subcoordinator ∈ a.roles))))
    ⟨.roleAuthorization, "only one active Subcoordinator is allowed"⟩
  let assignment ← RoleAssignment.new roles (some target)
    (current.elim false RoleAssignment.paused) false
    (current.elim false RoleAssignment.hasActiveJob)
  let assignment ← dropJob assignment
  let assignments := substitute assignment s.assignments ++
    (if current.isNone then [assignment] else [])
  let updated ← new assignments s.epoch s.promotionEpochs
    (pruneCapabilityGrants assignments s.capabilityGrants)
  return (updated, ⟨target, assignment, now, actorId⟩)

/-- Source: `cluster/roles.py`, `RoleState.pause`.  Kind: D -/
def pause (s : RoleState) (actor : RoleAssignment) (target : NodeId) :
    Except PyError RoleState := do
  let actorId ← s.control actor
  raiseIf (target = actorId) ⟨.roleAuthorization, "the active Coordinator cannot target itself"⟩
  match s.assignmentFor target with
  | none => throw ⟨.roleAuthorization, "unknown or revoked node"⟩
  | some current =>
      raiseIf current.revoked ⟨.roleAuthorization, "unknown or revoked node"⟩
      s.replaceAssignment
        (← RoleAssignment.new current.roles current.nodeId true current.revoked
          current.hasActiveJob)

/-- Source: `cluster/roles.py`, `RoleState.resume`.  Kind: D -/
def resume (s : RoleState) (actor : RoleAssignment) (target : NodeId) :
    Except PyError RoleState := do
  let _ ← s.control actor
  match s.assignmentFor target with
  | none => throw ⟨.roleAuthorization, "unknown or revoked node"⟩
  | some current =>
      raiseIf current.revoked ⟨.roleAuthorization, "unknown or revoked node"⟩
      s.replaceAssignment
        (← RoleAssignment.new current.roles current.nodeId false current.revoked
          current.hasActiveJob)

/-- Source: `cluster/roles.py`, `RoleState.revoke`.  Kind: D -/
def revoke (s : RoleState) (actor : RoleAssignment) (target : NodeId) :
    Except PyError RoleState := do
  let actorId ← s.control actor
  raiseIf (target = actorId) ⟨.roleAuthorization, "the active Coordinator cannot target itself"⟩
  match s.assignmentFor target with
  | none => throw ⟨.roleAuthorization, "unknown or revoked node"⟩
  | some current =>
      raiseIf current.revoked ⟨.roleAuthorization, "unknown or revoked node"⟩
      let updated ← s.replaceAssignment
        (← RoleAssignment.new current.roles current.nodeId false true false)
      new updated.assignments updated.epoch updated.promotionEpochs
        (updated.capabilityGrants.filter fun g => target ≠ g.subject && target ≠ g.target)

/-- Source: `cluster/roles.py`, `RoleState.clear_revocation`.  Kind: D -/
def clearRevocation (s : RoleState) (target : NodeId) : Except PyError RoleState :=
  match s.assignmentFor target with
  | none => .ok s
  | some current =>
      if current.revoked then
        new (s.assignments.filter fun a => a.nodeId ≠ some target) s.epoch s.promotionEpochs
          s.capabilityGrants
      else .ok s

/-- Source: `cluster/roles.py`, `RoleState._job`.  Kind: D -/
def job (s : RoleState) (actor : RoleAssignment) (target : NodeId) (active : Bool) :
    Except PyError RoleState := do
  let _ ← s.control actor
  match s.assignmentFor target with
  | none => throw ⟨.roleAuthorization, "target has no active worker role"⟩
  | some current =>
      raiseIf (current.revoked || decide (.worker ∉ current.roles) || (active && current.paused))
        ⟨.roleAuthorization, "target has no active worker role"⟩
      s.replaceAssignment
        (← RoleAssignment.new current.roles current.nodeId current.paused current.revoked active)

/-- Source: `cluster/roles.py`, `RoleState.assign_job`.  Kind: D -/
def assignJob (s : RoleState) (actor : RoleAssignment) (target : NodeId) :
    Except PyError RoleState := s.job actor target true

/-- Source: `cluster/roles.py`, `RoleState.remove_job`.  Kind: D -/
def removeJob (s : RoleState) (actor : RoleAssignment) (target : NodeId) :
    Except PyError RoleState := s.job actor target false

/-- Source: `cluster/roles.py`, `RoleState.grant_capabilities`.  Kind: D -/
def grantCapabilities (s : RoleState) (actor : RoleAssignment) (subject target : NodeId)
    (permissions : Finset NodePermission) (now expiresAt : ℚ) : Except PyError RoleState := do
  let _ ← s.control actor
  raiseIf ((s.assignmentFor subject).all (fun sub => sub.revoked || sub.paused ||
      decide (.subcoordinator ∉ sub.roles)))
    ⟨.roleAuthorization, "capability subject is not an active Subcoordinator"⟩
  raiseIf ((s.assignmentFor target).all (fun worker => worker.revoked || worker.paused ||
      decide (.worker ∉ worker.roles)) ∨ subject = target)
    ⟨.roleAuthorization, "capability target is not an active Worker"⟩
  let grant ← CapabilityGrant.new subject target permissions now expiresAt
  new s.assignments s.epoch s.promotionEpochs
    ((s.capabilityGrants.filter fun g => g.key ≠ (subject, target)) ++ [grant])

/-- Source: `cluster/roles.py`, `RoleState.revoke_capabilities`.  Kind: D -/
def revokeCapabilities (s : RoleState) (actor : RoleAssignment) (subject target : NodeId) :
    Except PyError RoleState := do
  let _ ← s.control actor
  new s.assignments s.epoch s.promotionEpochs
    (s.capabilityGrants.filter fun g => g.key ≠ (subject, target))

end RoleState

/-! ## Leases and promotion -/

/-- Source: `cluster/roles.py`, `renew_lease`.  Kind: D -/
def renewLease (epoch : CoordinatorEpoch) (coordinatorId : NodeId) (fencingToken : String)
    (now : ℚ) (leaseSeconds : ℚ := heartbeatTimeoutSeconds) : Except PyError CoordinatorEpoch := do
  raiseIf (epoch.coordinatorId ≠ coordinatorId) ⟨.fencing, "heartbeat fencing token is stale"⟩
  raiseIf (!(← compareDigest epoch.fencingToken fencingToken))
    ⟨.fencing, "heartbeat fencing token is stale"⟩
  raiseIf (leaseSeconds ≤ 0) ⟨.fencing, "lease duration is invalid"⟩
  -- at or after expiry the old lease is dead: promotion owns the boundary
  raiseIf (epoch.leaseExpiresAt ≤ now) ⟨.fencing, "coordinator lease has expired"⟩
  CoordinatorEpoch.new epoch.epoch epoch.coordinatorId epoch.fencingToken
    (max epoch.issuedAt now) (max epoch.leaseExpiresAt (now + leaseSeconds))

/-- Source: `cluster/roles.py`, `can_promote` (for an authenticated caller).  Kind: D -/
def canPromote (state : RoleState) (subcoordinatorId : NodeId) (now : ℚ) : Bool :=
  match state.epoch, state.assignmentFor subcoordinatorId with
  | some epoch, some a =>
      decide (epoch.leaseExpiresAt ≤ now) && !a.revoked && !a.paused &&
        decide (.subcoordinator ∈ a.roles) && decide (epoch.epoch ∉ state.promotionEpochs)
  | _, _ => false

/-- The Subcoordinator `promote_subcoordinator` picks: the first active, unpaused one. -/
def promotionCandidate (state : RoleState) : Option RoleAssignment :=
  state.assignments.find? fun a => RoleAssignment.active .subcoordinator a && !a.paused

/-- Source: `cluster/roles.py`, `promote_subcoordinator`; `token` is `new_fencing_token()`.
Kind: D -/
def promoteSubcoordinator (state : RoleState) (now : ℚ) (token : String) :
    Except PyError PromotionDecision := do
  match state.epoch with
  | none => throw ⟨.fencing, "no coordinator epoch exists"⟩
  | some old =>
      match (promotionCandidate state).bind RoleAssignment.nodeId with
      | none => throw ⟨.fencing, "subcoordinator cannot promote"⟩
      | some subId =>
          raiseIf (!canPromote state subId now) ⟨.fencing, "subcoordinator cannot promote"⟩
          let epoch ← CoordinatorEpoch.new (old.epoch + 1) subId token now
            (now + heartbeatTimeoutSeconds)
          let promoted := RoleAssignment.coordinator subId
          let assignments ← state.assignments.mapM fun a =>
            if a.nodeId = some subId then pure promoted
            else RoleAssignment.new {.worker} a.nodeId a.paused a.revoked a.hasActiveJob
          return ⟨promoted, epoch, assignments,
            RoleState.pruneCapabilityGrants assignments state.capabilityGrants⟩

/-- Source: `cluster/roles.py`, `rejoin_as_worker`.  Kind: D -/
def rejoinAsWorker (state : RoleState) (nodeId : NodeId) (currentEpoch : ℤ) :
    Except PyError RoleState := do
  raiseIf (currentEpoch < 0) ⟨.fencing, "returning node presented an invalid epoch"⟩
  raiseIf (state.epoch.any fun e => (e.epoch : ℤ) ≠ currentEpoch)
    ⟨.fencing, "returning node presented a stale or unknown epoch"⟩
  match state.assignmentFor nodeId with
  | none => return state
  | some a =>
      if .coordinator ∈ a.roles then
        state.replaceAssignment (← RoleAssignment.new {.worker} a.nodeId false a.revoked false)
      else return state

end ExpraConnect
