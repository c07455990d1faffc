import ExpraConnect.Runtime.State

/-!
# Membership operations of a runtime

`remote/role_operations.py`: what an authenticated peer can ask for (`dispatch_role_request`) and
what the host application can (`RuntimeClusterOperations`).  The first family works on the cluster
facade, the second on the failover coordinator's copy of the role state, which it writes back.

The `now` of `heartbeat` and `promote_if_due` and the random fencing token of a promotion are
arguments.  The parameters of a request have passed `validate_operation_params`; a wrong type
raises here.
-/

namespace ExpraConnect

open ExpraConnect.Lib

/-! ## Parameters -/

/-- `params[key]`, as text. -/
def strParam (key : String) (params : Fields) : Except PyError String :=
  match getField key params with
  | some (.str s) => .ok s
  | some _ => .error ⟨.type, "parameter is not text"⟩
  | none => .error ⟨.key, key⟩

/-- `params[key]`, as an integer. -/
def intParam (key : String) (params : Fields) : Except PyError ℤ :=
  match getField key params with
  | some (.int n) => .ok n
  | some _ => .error ⟨.type, "parameter is not an integer"⟩
  | none => .error ⟨.key, key⟩

/-- `float(params[key])`. -/
def floatParam (key : String) (params : Fields) : Except PyError ℚ :=
  match getField key params with
  | some v => do
      match ← v.finite? with
      | some q => return q
      | none => throw ⟨.type, "parameter is not a number"⟩
  | none => .error ⟨.key, key⟩

/-- `NodeId(params[key])`. -/
def nodeParam (key : String) (params : Fields) : Except PyError NodeId := do
  NodeId.new (← strParam key params)

/-- `params[key]`, as a list of texts. -/
def strsParam (key : String) (params : Fields) : Except PyError (List String) :=
  match getField key params with
  | some (.list items) => items.mapM fun v =>
      match v with
      | .str s => .ok s
      | _ => .error ⟨.type, "parameter is not text"⟩
  | some _ => .error ⟨.type, "parameter is not a list"⟩
  | none => .error ⟨.key, key⟩

namespace Runtime

/-! ## Requests of peers -/

/-- What follows a change of the cluster. -/
inductive FollowUp where
  /-- Nothing. -/
  | none
  /-- `update_cluster_fence` -/
  | fence
  /-- `_refresh_live_grants` -/
  | grants
  /-- `_hydrate_registry_membership`, then `_refresh_live_grants` -/
  | membership
  deriving DecidableEq

/-- The checks in front of every operation.
Source: `remote/role_operations.py`, `dispatch_role_request`.  Kind: D -/
def authorizeRole (request : RemoteRequest) (rt : Runtime) : Except PyError NodeId := do
  match request.callerNodeId with
  | none => throw ⟨.permission, "cluster operation has no caller identity"⟩
  | some caller =>
      raiseIf (rt.pairing.any fun p =>
          decide (caller ≠ rt.identity.getD rt.cluster.localId) && !p.canJoinCluster caller)
        ⟨.permission, "cluster operation requires an authenticated Pair"⟩
      rt.cluster.authorize (← strParam "cluster_id" request.params)
        (← intParam "epoch" request.params) (← strParam "fencing_token" request.params)
      return caller

/-- Raise, putting back the runtime as it was before the change, when the change is not durably
persisted. -/
def saveOr (previous : Runtime) (message : String) : PyM Runtime Unit := do
  if ← savePersistedState then return
  else
    set previous
    throw ⟨.runtime, message⟩

/-- The reply of an admission.  Source: `remote/role_operations.py`, `dispatch_role_request`.
Kind: D -/
def admissionReply (invite : InviteRecord) (c : Cluster) : Fields :=
  [("target_node_id", .str invite.targetNodeId), ("expires_at", .float (.finite invite.expiresAt)),
    ("cluster_id", .str c.clusterId), ("coordinator_id", .str c.coordinatorId.value),
    ("epoch", .int c.epoch.epoch), ("fencing_token", .str c.epoch.fencingToken)]

/-- A computation on the cluster, inside the runtime. -/
def onCluster {α : Type} (m : PyM Cluster α) : PyM Runtime α := do
  let rt ← get
  match m rt.cluster with
  | .ok a cluster =>
      set { rt with cluster := cluster }
      return a
  | .error e cluster =>
      set { rt with cluster := cluster }
      throw e

/-- The `consume_invite` branch.  Source: `remote/role_operations.py`, `dispatch_role_request`.
Kind: D -/
def consumeInviteRequest (hash : InviteHash) (params : Fields) (caller : NodeId) (now : ℚ) :
    PyM Runtime Fields := do
  let previous ← get
  let token ← PyM.ofExcept (strParam "token" params)
  let invite ← onCluster (Cluster.consumeInvite hash token caller now true)
  let rt ← get
  -- the grants that the admission pruned are not put back
  saveOr { rt with cluster := { rt.cluster with
      assignments := previous.cluster.assignments
      online := previous.cluster.online
      invites := previous.cluster.invites
      joinAdmissions := previous.cluster.joinAdmissions
      usedInvites := previous.cluster.usedInvites } } "cluster invite was not durably persisted"
  return admissionReply invite rt.cluster

/-- The `renew_coordinator_lease` branch.
Source: `remote/role_operations.py`, `dispatch_role_request`.  Kind: D -/
def renewLeaseRequest (params : Fields) (caller : NodeId) (now : ℚ) : PyM Runtime Fields := do
  let rt ← get
  raiseIf (caller ≠ rt.cluster.coordinatorId)
    ⟨.permission, "only the Coordinator may perform this operation"⟩
  let token ← PyM.ofExcept (strParam "fencing_token" params)
  let epoch ← PyM.ofExcept (renewLease rt.cluster.epoch caller token now)
  set { rt with cluster := { rt.cluster with epoch := epoch } }
  if rt.clusterStore then saveOr rt "coordinator lease was not durably persisted"
  return [("ok", .bool true), ("cluster_id", .str rt.cluster.clusterId),
    ("epoch", .int epoch.epoch), ("coordinator_id", .str epoch.coordinatorId.value)]

/-- The role state of the requests: the cluster's members and term with the runtime's grants.
Source: `remote/role_operations.py`, `dispatch_role_request`.  Kind: D -/
def requestState (rt : Runtime) : Except PyError RoleState :=
  RoleState.new rt.cluster.assignments.values (some rt.cluster.epoch) ∅ rt.clusterCapabilityGrants

/-- Write members and grants of an updated role state into the cluster. -/
def applyMembers (updated : RoleState) (rt : Runtime) : Runtime :=
  { rt with
    cluster := rt.cluster.applyRoleState updated
    clusterCapabilityGrants := updated.capabilityGrants }

/-- The `assign_role` branch.  Source: `remote/role_operations.py`, `dispatch_role_request`.
Kind: D -/
def assignRoleRequest (params : Fields) (caller : NodeId) (actor : RoleAssignment)
    (state : RoleState) (now : ℚ) : PyM Runtime Fields := do
  let rt ← get
  let target ← PyM.ofExcept (nodeParam "target_node_id" params)
  let roles ← PyM.ofExcept (strsParam "roles" params)
  match roles with
  | [text] =>
      raiseIf (caller ≠ rt.cluster.coordinatorId)
        ⟨.permission, "only the Coordinator may perform this operation"⟩
      let role ← PyM.ofExcept (ClusterRole.new text)
      let updated ← PyM.ofExcept (state.assign actor target {role} now)
      set (rt.applyMembers updated.1)
      saveOr rt "cluster role was not durably persisted"
      return [("ok", .bool true), ("node_id", .str target.value), ("role", .str text)]
  | _ => throw ⟨.permission, "only the Coordinator may perform this operation"⟩

/-- The transition of `revoke_member`, `revoke_worker`, `pause_worker`, `resume_worker` and
`remove_job`.  Source: `remote/role_operations.py`, `dispatch_role_request`.  Kind: D -/
def transition (op : Op) (state : RoleState) (actor : RoleAssignment) (target : NodeId) :
    Except PyError RoleState :=
  match op with
  | .pauseWorker => state.pause actor target
  | .resumeWorker => state.resume actor target
  | .removeJob => state.removeJob actor target
  | _ => state.revoke actor target

/-- `request.op in {"revoke_member", "revoke_worker"}`. -/
def revokes (op : Op) : Bool := decide (op = .revokeMember ∨ op = .revokeWorker)

/-- The branch of the role transitions.
Source: `remote/role_operations.py`, `dispatch_role_request`.  Kind: D -/
def transitionRequest (op : Op) (params : Fields) (actor : RoleAssignment) (state : RoleState) :
    PyM Runtime Fields := do
  let rt ← get
  let target ← PyM.ofExcept (nodeParam "target_node_id" params)
  let updated ← PyM.ofExcept (transition op state actor target)
  set (rt.applyMembers updated)
  saveOr rt "cluster role mutation was not durably persisted"
  return [("ok", .bool true), ("node_id", .str target.value), ("revoked", .bool (revokes op))]

/-- The `remove_connection` branch.  Source: `remote/role_operations.py`, `dispatch_role_request`.
Kind: D -/
def removeConnectionRequest (params : Fields) (caller : NodeId) : PyM Runtime Fields := do
  let rt ← get
  let target ← PyM.ofExcept (nodeParam "target_node_id" params)
  raiseIf (caller ≠ rt.cluster.coordinatorId ∧ caller ≠ target)
    ⟨.permission, "only the Coordinator or target Worker may remove a connection"⟩
  set { rt with connections := rt.connections.map (Finset.erase · target) }
  return [("ok", .bool true), ("node_id", .str target.value), ("connected", .bool false)]

/-- The grants branch.  Source: `remote/role_operations.py`, `dispatch_role_request`.  Kind: D -/
def capabilitiesRequest (op : Op) (params : Fields) (caller : NodeId) (actor : RoleAssignment)
    (state : RoleState) (now : ℚ) : PyM Runtime Fields := do
  let rt ← get
  raiseIf (caller ≠ rt.cluster.coordinatorId)
    ⟨.permission, "only the Coordinator may perform this operation"⟩
  let subject ← PyM.ofExcept (nodeParam "subject_node_id" params)
  let target ← PyM.ofExcept (nodeParam "target_node_id" params)
  let updated ← PyM.ofExcept <|
    if op = .revokeCapabilities then state.revokeCapabilities actor subject target
    else do
      let permissions ← (← strsParam "permissions" params).mapM NodePermission.new
      state.grantCapabilities actor subject target permissions.toFinset now
        (← floatParam "expires_at" params)
  set { rt with
    clusterCapabilityGrants := updated.capabilityGrants
    cluster := { rt.cluster with capabilityGrants := updated.capabilityGrants } }
  saveOr rt "capability mutation was not durably persisted"
  return [("ok", .bool true), ("subject_node_id", .str subject.value),
    ("target_node_id", .str target.value)]

/-- The branches for members.  Source: `remote/role_operations.py`, `dispatch_role_request`.
Kind: D -/
def memberRequest (opText : String) (params : Fields) (caller : NodeId) (now : ℚ) :
    PyM Runtime Fields := do
  let rt ← get
  match rt.cluster.assignments.get? caller with
  | none => throw ⟨.permission, "caller is not a cluster member"⟩
  | some actor =>
      let state ← PyM.ofExcept rt.requestState
      match Op.ofString? opText with
      | some .renewCoordinatorLease => renewLeaseRequest params caller now
      | some .assignRole => assignRoleRequest params caller actor state now
      | some .revokeMember => transitionRequest .revokeMember params actor state
      | some .revokeWorker => transitionRequest .revokeWorker params actor state
      | some .pauseWorker => transitionRequest .pauseWorker params actor state
      | some .resumeWorker => transitionRequest .resumeWorker params actor state
      | some .removeJob => transitionRequest .removeJob params actor state
      | some .removeConnection => removeConnectionRequest params caller
      | some .grantCapabilities =>
          capabilitiesRequest .grantCapabilities params caller actor state now
      | some .revokeCapabilities =>
          capabilitiesRequest .revokeCapabilities params caller actor state now
      | some .syncCapabilityGrant =>
          capabilitiesRequest .syncCapabilityGrant params caller actor state now
      | some .workerSnapshot | some .standbyBatch =>
          return [("ok", .bool false), ("supported", .bool false),
            ("reason", .str "host_supplied")]
      | _ => throw ⟨.value, "unsupported cluster operation: " ++ opText⟩

/-- The change an operation makes to the runtime, with its reply.
Source: `remote/role_operations.py`, `dispatch_role_request`.  Kind: D -/
def roleRequest (hash : InviteHash) (opText : String) (params : Fields) (caller : NodeId)
    (now : ℚ) : PyM Runtime Fields :=
  match Op.ofString? opText with
  | some .consumeInvite => consumeInviteRequest hash params caller now
  | _ => memberRequest opText params caller now

/-- What follows the change of an operation.
Source: `remote/role_operations.py`, `dispatch_role_request`.  Kind: D -/
def followUp (opText : String) : FollowUp :=
  match Op.ofString? opText with
  | some .renewCoordinatorLease => .fence
  | some .assignRole => .membership
  | some .revokeMember | some .revokeWorker => .grants
  | some .grantCapabilities | some .revokeCapabilities | some .syncCapabilityGrant => .grants
  | _ => .none

/-- Carry out what follows a change. -/
def FollowUp.perform : FollowUp → Handler Runtime Unit
  | .none => return
  | .fence => updateFence
  | .grants => refreshLiveGrants
  | .membership => do
      Handler.ofPyM hydrateRegistryMembership
      refreshLiveGrants

/-- `authorizeRole` as a step. -/
def authorizeStep (request : RemoteRequest) : PyM Runtime NodeId := do
  PyM.ofExcept (authorizeRole request (← get))

/-- Source: `remote/role_operations.py`, `dispatch_role_request`.  Kind: D -/
def dispatchRoleRequest (hash : InviteHash) (request : RemoteRequest) : Handler Runtime Fields := do
  let caller ← Handler.ofPyM (authorizeStep request)
  let now ← Handler.clock
  let reply ← Handler.ofPyM (roleRequest hash request.op request.params caller now)
  (followUp request.op).perform
  return reply

/-! ## Operations of the host application -/

/-- `create_invite(target)`; `token` is `secrets.token_urlsafe(32)`.
Source: `remote/role_operations.py`, `RuntimeClusterOperations.create_invite`.  Kind: D -/
def createInvite (hash : InviteHash) (target : NodeId) (token : String) (now : ℚ) :
    PyM Runtime InviteRecord := do
  let invite ← onCluster (Cluster.createInvite hash target token now)
  let rt ← get
  saveOr { rt with cluster := { rt.cluster with
      invites := rt.cluster.invites.erase invite.token } }
    "cluster invite was not durably persisted"
  return invite

/-- The cluster with the members, term and grants of `state`.  `state.epoch` is never `None`: the
coordinator starts from the cluster's own epoch (`RoleState.Complete`).
Source: `remote/role_operations.py`, `_persist_failover_state`.  Kind: D -/
def overwrite (c : Cluster) (state : RoleState) : Cluster :=
  { c with
    assignments := Assignments.ofList state.assignments
    epoch := state.epoch.getD c.epoch
    promotionEpochs := state.promotionEpochs
    capabilityGrants := state.capabilityGrants }

/-- The part of `_persist_failover_state` that writes the cluster.
Source: `remote/role_operations.py`, `_persist_failover_state`.  Kind: D -/
def writeFailoverState (state : RoleState) : PyM Runtime Unit := do
  let rt ← get
  set { rt with
    cluster := overwrite rt.cluster state
    clusterCapabilityGrants := state.capabilityGrants }
  saveOr rt "failover state was not durably persisted"

/-- Source: `remote/role_operations.py`, `_persist_failover_state`.  Kind: D -/
def persistFailoverState (state : RoleState) : Handler Runtime Unit := do
  Handler.ofPyM (writeFailoverState state)
  updateFence
  Handler.ofPyM hydrateRegistryMembership
  refreshLiveGrants

/-- Source: `cluster/failover.py`, `FailoverCoordinator._commit`.  Kind: D -/
def commit (candidate : RoleState) : Handler Runtime Unit := do
  persistFailoverState candidate
  Handler.ofPyM (modify fun rt => { rt with failover := candidate })

/-- Let the failover coordinator decide on a candidate and an answer, and commit the candidate, if
there is one. -/
def commitFrom {α : Type} (f : Runtime → Except PyError (Option RoleState × α)) :
    Handler Runtime α := do
  let rt ← Handler.ofPyM get
  let (candidate, answer) ← Prog.ofExcept (f rt)
  match candidate with
  | none => return answer
  | some candidate =>
      commit candidate
      return answer

/-- Source: `remote/role_operations.py`, `promote_if_due`.  Kind: D -/
def promoteIfDue (now : ℚ) (token : String) : Handler Runtime Bool :=
  commitFrom fun rt => do
    let candidate ← FailoverCoordinator.promoteIfDue rt.failover now token
    return (candidate, candidate.isSome)

/-- Source: `remote/role_operations.py`, `heartbeat`.  Kind: D -/
def heartbeat (coordinatorId : NodeId) (fencingToken : String) (now : ℚ) : Handler Runtime Bool :=
  commitFrom fun rt => do
    let candidate ← FailoverCoordinator.heartbeat rt.failover coordinatorId fencingToken now
    return (candidate, candidate.isSome)

/-- Source: `remote/role_operations.py`, `rejoin_as_worker`.  Kind: D -/
def rejoinAsWorker (nodeId : NodeId) (currentEpoch : ℤ) : Handler Runtime Unit :=
  commitFrom fun rt => do
    let candidate ← ExpraConnect.rejoinAsWorker rt.failover nodeId currentEpoch
    return (some candidate, ())

/-- Source: `remote/role_operations.py`, `RuntimeClusterOperations.assign_role`.  Kind: D -/
def assignRole (target : NodeId) (role : ClusterRole) : Handler Runtime RoleAssignment := do
  let now ← Handler.clock
  commitFrom fun rt => do
    let (candidate, change) ← rt.failover.assign rt.cluster.localAssignment target {role} now
    return (some candidate, change.assignment)

/-- Source: `remote/role_operations.py`, `RuntimeClusterOperations.revoke_member`.  Kind: D -/
def revokeMember (target : NodeId) : Handler Runtime Unit :=
  commitFrom fun rt => do
    let candidate ← rt.failover.revoke rt.cluster.localAssignment target
    return (some candidate, ())

/-- The checks of `join_cluster` on the coordinator's response.
Source: `remote/role_operations.py`, `join_cluster`.  Kind: D -/
def checkJoinResponse (identity : NodeId) (invite : InviteRecord) (response : Value) :
    Except PyError Fields := do
  match response with
  | .dict fields =>
      raiseIf (!hasExactly ["target_node_id", "expires_at", "cluster_id", "coordinator_id", "epoch",
          "fencing_token"] fields ∨
        (getField "target_node_id" fields).bind Value.asStr? ≠ some identity.value ∨
        (getField "cluster_id" fields).bind Value.asStr? ≠ some invite.clusterId ∨
        (getField "coordinator_id" fields).bind Value.asStr? ≠ some invite.coordinatorId ∨
        (getField "epoch" fields).bind Value.asInt? ≠ some (invite.epoch : ℤ) ∨
        (getField "fencing_token" fields).bind Value.asStr? ≠ some invite.fencingToken ∨
        invite.fencingToken = "")
        ⟨.value, "cluster Join response is malformed"⟩
      match ← ((getField "expires_at" fields).getD .null).finite? with
      | some expiry =>
          raiseIf (expiry ≠ invite.expiresAt) ⟨.value, "cluster Join response is malformed"⟩
          return fields
      | none => throw ⟨.value, "cluster Join response is malformed"⟩
  | _ => throw ⟨.type, "cluster Join response is malformed"⟩

/-- The part of `join_cluster` after the coordinator answered; `peer` is the provider's peer.
Source: `remote/role_operations.py`, `join_cluster`.  Kind: D -/
def joinStep (peer : Option NodeId) (invite : InviteRecord) (response : Value) :
    PyM Runtime Fields := do
  let rt ← get
  match rt.pairing with
  | none => throw ⟨.runtime, "runtime has not started"⟩
  | some pairing =>
      raiseIf (!peer.any pairing.canJoinCluster)
        ⟨.permission, "cluster Join requires an authenticated Pair"⟩
      match rt.identity with
      | none => throw ⟨.runtime, "identity is unavailable"⟩
      | some identity =>
          let fields ← PyM.ofExcept (checkJoinResponse identity invite response)
          let coordinator ← PyM.ofExcept (NodeId.new invite.coordinatorId)
          let epoch ← PyM.ofExcept (CoordinatorEpoch.new invite.epoch coordinator
            invite.fencingToken rt.cluster.epoch.issuedAt rt.cluster.epoch.leaseExpiresAt)
          set { rt with cluster := { rt.cluster with
            clusterId := invite.clusterId
            epoch := epoch
            assignments := Assignments.ofList [RoleAssignment.worker identity]
            online := Dict.empty.insert identity true
            promotionEpochs := ∅
            capabilityGrants := [] } }
          saveOr rt "cluster join was not durably persisted"
          return fields

/-- Source: `remote/role_operations.py`, `join_cluster`.  Kind: D -/
def joinCluster (peer : Option NodeId) (invite : InviteRecord) (response : Value) :
    Handler Runtime Fields := do
  let fields ← Handler.ofPyM (joinStep peer invite response)
  Handler.ofPyM hydrateRegistryMembership
  return fields

end Runtime

end ExpraConnect
