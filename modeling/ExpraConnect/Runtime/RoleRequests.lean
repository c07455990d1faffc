import ExpraConnect.Remote.RoleRequestFacts
import ExpraConnect.Runtime.Replicas

/-!
# What a role request that returned implies

A peer's request is answered by `dispatch_role_request`.

* `RuntimeEvent.apply`, `Runtime.Reachable`: the life of a coordinator's runtime, through operations
  that return and operations that raise;
* `authorised_iff_controlled`: which operations return only for a caller with an active role: those
  whose branch goes through `RoleState._control`;
* `joined_iff`: when the answer to `consume_invite` means that the caller is a member.
-/

namespace ExpraConnect

open ExpraConnect.Lib

/-! ## The life of a runtime -/

/-- What happens to a runtime.
Source: `remote/role_operations.py`; `runtime/core.py`, `_load_persisted_state`.  Kind: D -/
inductive RuntimeEvent where
  /-- An operation at a reading of the cluster's clock, whatever comes of it. -/
  | op (clock : ℚ) (op : MembershipOp)
  /-- `create_invite(target)`, with the token that is drawn. -/
  | createInvite (clock : ℚ) (target : NodeId) (token : String)
  /-- A change around the runtime. -/
  | surroundings (e : Surroundings)
  /-- A restart from the saved document. -/
  | restart

/-- The runtime that is loaded from the document it saved, which has the runtime's own grants.
Source: `runtime/core.py`, `_save_persisted_state` and `_load_persisted_state`.  Kind: D -/
def Runtime.reload (hash : InviteHash) (rt : Runtime) : Except PyError Runtime := do
  let document ← { rt.cluster with capabilityGrants := rt.clusterCapabilityGrants }.toDict
  let state ← ClusterState.fromDict hash document
  Runtime.load rt.cluster.localId (some state) (.error ⟨.runtime, "no document"⟩)
    (rt.pairing.getD ⟨Dict.empty, ∅⟩) (rt.connections.getD ∅)

/-- The runtime after an event.  Kind: D -/
def RuntimeEvent.apply (hash : InviteHash) : RuntimeEvent → HostView Runtime → HostView Runtime
  | op clock o, v => (Handler.run (o.call hash) { v with clock := clock }).2
  | createInvite clock target token, v =>
      { v with host := (Runtime.createInvite hash target token clock).after v.host }
  | surroundings e, v => e.around v
  | restart, v =>
      match v.host.reload hash with
      | .ok rt => { v with host := rt }
      | .error _ => v

/-- A runtime that has just created its own cluster. -/
def Runtime.Fresh (rt : Runtime) : Prop :=
  ∃ identity clusterId token now pairing connections,
    Runtime.load identity none (Cluster.create identity clusterId token now) pairing connections =
      .ok rt

/-- The runtimes that events lead to from a new cluster.  Kind: D -/
def Runtime.Reachable (hash : InviteHash) (v : HostView Runtime) : Prop :=
  ∃ (v₀ : HostView Runtime) (events : List RuntimeEvent), v₀.host.Fresh ∧
    v = events.foldl (fun v e => e.apply hash v) v₀

/-! ## Who may ask -/

/-- The operations of a role request that are the Coordinator's.
Source: `remote/role_operations.py`, `dispatch_role_request`.  Kind: D -/
def reservedOps : List Op :=
  [.renewCoordinatorLease, .assignRole, .revokeMember, .revokeWorker, .pauseWorker, .resumeWorker,
    .removeJob, .grantCapabilities, .revokeCapabilities, .syncCapabilityGrant]

/-- The branches of `dispatch_role_request` for members that do not ask `RoleState._control`.
Source: `remote/role_operations.py`, `dispatch_role_request`.  Kind: D -/
def uncontrolledOps : List Op :=
  [.renewCoordinatorLease, .removeConnection, .workerSnapshot, .standbyBatch]

/-- The caller has an active role and, where the operation is the Coordinator's, it is that of the
coordinator of the term.  Kind: D -/
def Runtime.Authorised (op : Op) (rt : Runtime) (caller : NodeId) : Prop :=
  ∃ a, rt.cluster.assignments.get? caller = some a ∧ a.revoked = false ∧ a.paused = false ∧
    (op ∈ reservedOps → .coordinator ∈ a.roles ∧ caller = rt.cluster.coordinatorId)

/-- The caller's own assignment is active and, where the request renews the lease, the
Coordinator's.  Kind: D -/
def Runtime.HoldsRole (op : Op) (rt : Runtime) (caller : NodeId) : Prop :=
  ∃ a, rt.cluster.assignments.get? caller = some a ∧ a.revoked = false ∧ a.paused = false ∧
    (op = .renewCoordinatorLease → .coordinator ∈ a.roles)

namespace Runtime

section branches

variable {params : Fields} {caller : NodeId} {actor : RoleAssignment} {state : RoleState} {now : ℚ}
  {rt rt' : Runtime} {op : Op}

/-- A transition that returns is controlled by its actor.  Kind: L -/
theorem control_of_transition {t : RoleState} {target : NodeId}
    (h : transition op state actor target = .ok t) : ∃ n, state.control actor = .ok n := by
  unfold transition at h
  split at h
  · obtain ⟨n, hctl, _⟩ := Except.bind_eq_ok.mp h
    exact ⟨n, hctl⟩
  · obtain ⟨n, hctl, _⟩ := Except.bind_eq_ok.mp h
    exact ⟨n, hctl⟩
  · obtain ⟨n, hctl, _⟩ := Except.bind_eq_ok.mp h
    exact ⟨n, hctl⟩
  · obtain ⟨n, hctl, _⟩ := Except.bind_eq_ok.mp h
    exact ⟨n, hctl⟩

/-- A capability update that returns is controlled by its actor.  Kind: L -/
theorem control_of_capabilityUpdate {t : RoleState} {subject target : NodeId}
    (h : capabilityUpdate op params state actor subject target now = .ok t) :
    ∃ n, state.control actor = .ok n := by
  unfold capabilityUpdate at h
  split at h
  · obtain ⟨n, hctl, _⟩ := Except.bind_eq_ok.mp h
    exact ⟨n, hctl⟩
  · obtain ⟨_, _, h⟩ := Except.bind_eq_ok.mp h
    obtain ⟨_, _, h⟩ := Except.bind_eq_ok.mp h
    obtain ⟨_, _, h⟩ := Except.bind_eq_ok.mp h
    obtain ⟨n, hctl, _⟩ := Except.bind_eq_ok.mp h
    exact ⟨n, hctl⟩

/-- A change that is not one of the uncontrolled operations went through `_control`.  Kind: L -/
theorem control_of_changeBy (hctl : op ∉ uncontrolledOps)
    (h : ChangeBy op params caller now actor state rt rt') : ∃ n, state.control actor = .ok n := by
  cases op
  case renewCoordinatorLease | removeConnection | workerSnapshot | standbyBatch =>
    exact absurd (by decide) hctl
  case assignRole =>
    obtain ⟨_, _, target, text, role, updated, _, _, _, hassign, _⟩ := h
    obtain ⟨n, hn, _⟩ := RoleState.assign_eq_ok hassign
    exact ⟨n, hn⟩
  case revokeMember | revokeWorker | pauseWorker | resumeWorker | removeJob =>
    obtain ⟨_, target, updated, _, htrans, _⟩ := h
    exact control_of_transition htrans
  case grantCapabilities | revokeCapabilities | syncCapabilityGrant =>
    obtain ⟨_, _, subject, target, updated, _, _, hup, _⟩ := h
    exact control_of_capabilityUpdate hup
  all_goals exact h.elim

end branches

/-- The node `_control` accepts in the state of a request is the coordinator of the term, with an
active role of its own.  Kind: L -/
theorem authorised_of_control {op : Op} {rt : Runtime} {caller n : NodeId} {actor : RoleAssignment}
    {state : RoleState} (hactor : rt.cluster.assignments.get? caller = some actor)
    (hstate : rt.requestState = .ok state) (h : state.control actor = .ok n) :
    rt.Authorised op caller := by
  obtain ⟨_, has, hep, _, _⟩ := RoleState.new_eq_ok_iff.mp hstate
  obtain ⟨hid, a, ha, hrev, hpaused, hrole, hterm⟩ := RoleState.control_eq_ok_iff.mp h
  have hkey : actor.nodeId = some caller :=
    rt.cluster.assignments.keyed _ ((Dict.get?_eq_some_iff _).mp hactor)
  cases hkey.symm.trans hid
  have hfor : rt.cluster.assignments.get? caller = some a := by
    rw [← Assignments.find?_values, ← has]
    exact ha
  exact ⟨a, hfor, hrev, hpaused, fun _ => ⟨hrole, (hterm _ hep).symm⟩⟩

/-- A request of a member that goes through `_control` returns only for an authorised caller.
Kind: L -/
theorem authorised_of_memberRequest {opText : String} {op : Op} {params : Fields} {caller : NodeId}
    {now : ℚ} {rt rt' : Runtime} {reply : Fields} (hop : Op.ofString? opText = some op)
    (hctl : op ∉ uncontrolledOps) (h : memberRequest opText params caller now rt = .ok reply rt') :
    rt.Authorised op caller := by
  obtain ⟨actor, state, hactor, hstate, hchange⟩ := (memberRequest_eq_ok_iff hop).mp ⟨reply, h⟩
  obtain ⟨n, hn⟩ := control_of_changeBy hctl hchange
  exact authorised_of_control hactor hstate hn

/-- Among the uncontrolled operations only the renewal is the Coordinator's.  Kind: L -/
theorem eq_renewal_of_uncontrolled {op : Op} (hmem : op ∈ uncontrolledOps)
    (hop : op ∈ reservedOps) :
    op = .renewCoordinatorLease := by
  revert hop
  rw [uncontrolledOps, List.mem_cons] at hmem
  rcases hmem with rfl | hmem
  · exact fun _ => rfl
  · revert op
    decide

/-- A request of a member that returns is an authorised caller's exactly if its branch goes through
`_control` or the caller's own assignment gives it the role.  Kind: L -/
theorem authorised_memberRequest_iff {opText : String} {op : Op} {params : Fields}
    {caller : NodeId} {now : ℚ} {rt rt' : Runtime} {reply : Fields}
    (hop : Op.ofString? opText = some op)
    (h : memberRequest opText params caller now rt = .ok reply rt') :
    rt.Authorised op caller ↔ op ∉ uncontrolledOps ∨ rt.HoldsRole op caller := by
  constructor
  · rintro ⟨a, ha, hrev, hpaused, hreserved⟩
    refine .inr ⟨a, ha, hrev, hpaused, ?_⟩
    rintro rfl
    exact (hreserved (by decide)).1
  · intro hcases
    by_cases hctl : op ∈ uncontrolledOps
    · obtain ⟨a, ha, hrev, hpaused, hrole⟩ := hcases.resolve_left (not_not.mpr hctl)
      refine ⟨a, ha, hrev, hpaused, fun hreserved => ?_⟩
      obtain rfl := eq_renewal_of_uncontrolled hctl hreserved
      -- the branch of the renewal compares the ids itself
      obtain ⟨_, _, _, _, hcaller, _⟩ := (memberRequest_eq_ok_iff hop).mp ⟨reply, h⟩
      exact ⟨hrole rfl, hcaller⟩
    · exact authorised_of_memberRequest hop hctl h

/-- The requests for `op` that return come from authorised callers.  Kind: D -/
def OnlyAuthorised (op : Op) : Prop :=
  ∀ (hash : InviteHash) (v v' : HostView Runtime) (request : RemoteRequest) (reply : Fields),
    Reachable hash v → request.op = op.value →
      Handler.run (dispatchRoleRequest hash request) v = (.ok reply, v') →
        ∃ caller, request.callerNodeId = some caller ∧ v.host.Authorised op caller

end Runtime

/-! ### Two sample runs -/

namespace RoleRequests

/-- The coordinator of the samples. -/
def coordinator : NodeId := .named "coord"

/-- A paired node. -/
def worker : NodeId := .named "worker"

/-- The coordinator's runtime, just started, paired with the worker. -/
def fresh : Except PyError Runtime :=
  Runtime.load coordinator none (Cluster.create coordinator "cluster" "fence" 0)
    ⟨Dict.empty, {worker}⟩ ∅

/-- The runtime as it is called. -/
def start (rt : Runtime) : HostView Runtime :=
  ⟨⟨true, Dict.empty, [], 0, ⟨none, none, none⟩⟩, 0, rt⟩

/-- A request at the fence of the new cluster. -/
def request (caller : NodeId) (op : Op) (params : Fields) : RemoteRequest where
  nodeId := coordinator
  callerNodeId := some caller
  op := op.value
  params := params ++ [("cluster_id", .str "cluster"), ("epoch", .int 1),
    ("fencing_token", .str "fence")]
  requestId := "r"
  nonce := "n"
  timestamp := 0
  sessionId := none
  resume := false
  connectionGeneration := none

/-- The runtime after events from the start. -/
def after (events : List RuntimeEvent) (rt : Runtime) : HostView Runtime :=
  events.foldl (fun v e => e.apply Cluster.markHash v) (start rt)

/-- What is decided on the sample runtime holds of a reachable one.  Kind: L -/
theorem exists_reachable (events : List RuntimeEvent) {p : HostView Runtime → Bool}
    (h : fresh.toOption.any (fun rt => p (after events rt)) = true) :
    ∃ v, Runtime.Reachable Cluster.markHash v ∧ p v = true := by
  obtain ⟨rt, hl, hp⟩ := Except.exists_of_any h
  exact ⟨after events rt, ⟨start rt, events, ⟨_, _, _, _, _, _, hl⟩, rfl⟩, hp⟩

/-- The worker is assigned its role and revoked again. -/
def assignAndRevoke : List RuntimeEvent :=
  [.op 10 (.request (request coordinator .assignRole
      [("target_node_id", .str "worker"), ("roles", .list [.str "worker"])])),
    .op 20 (.request (request coordinator .revokeMember [("target_node_id", .str "worker")]))]

/-- The coordinator gives up its role and keeps its term. -/
def rejoin : List RuntimeEvent := [.op 10 (.rejoinAsWorker coordinator 1)]

/-- Whether the request returns although the caller's assignment does not pass `allowed`. -/
def slipsThrough (r : RemoteRequest) (caller : NodeId) (allowed : RoleAssignment → Bool)
    (v : HostView Runtime) : Bool :=
  (Handler.run (Runtime.dispatchRoleRequest Cluster.markHash r) v).1.toOption.isSome &&
    !(v.host.cluster.assignments.get? caller).any allowed

/-- An operation whose check accepts a caller beyond the authorised ones is not reserved.
Kind: L -/
theorem not_onlyAuthorised {op : Op} (caller : NodeId) (params : Fields)
    (allowed : RoleAssignment → Bool) (events : List RuntimeEvent)
    (hallowed : ∀ a : RoleAssignment, a.revoked = false →
      (op ∈ reservedOps → .coordinator ∈ a.roles) → allowed a = true)
    (h : fresh.toOption.any
      (fun rt => slipsThrough (request caller op params) caller allowed (after events rt)) = true) :
    ¬Runtime.OnlyAuthorised op := by
  intro honly
  obtain ⟨v, hv, hslips⟩ := exists_reachable events h
  simp only [slipsThrough, Bool.and_eq_true, Bool.not_eq_true', Option.any_eq_false] at hslips
  obtain ⟨hruns, hnot⟩ := hslips
  rcases hrun : Handler.run (Runtime.dispatchRoleRequest Cluster.markHash
    (request caller op params)) v with ⟨e | reply, v'⟩
  · simp [hrun, Except.toOption] at hruns
  · obtain ⟨c, hc, a, ha, hrev, _, hreserved⟩ := honly _ _ _ _ _ hv rfl hrun
    cases hc
    have hallow := hallowed a hrev fun hop => (hreserved hop).1
    rw [hnot a ha] at hallow
    cases hallow

end RoleRequests

/-- **Which operations ask for an active role.**  A request for an operation returns only for a
caller with an active role, and for the Coordinator's operations only for the coordinator of the
term, exactly when its branch goes through `RoleState._control`.  A single request that returned
came from such a caller exactly when its branch does, or the caller's own assignment was active and,
for a renewal of the lease, the Coordinator's.
Source: `remote/role_operations.py`, `dispatch_role_request`.  Kind: P -/
theorem authorised_iff_controlled {op : Op} (hop : op ≠ .consumeInvite) :
    (Runtime.OnlyAuthorised op ↔ op ∉ uncontrolledOps) ∧
      ∀ (hash : InviteHash) (v v' : HostView Runtime) (request : RemoteRequest) (reply : Fields)
        (caller : NodeId), request.op = op.value → request.callerNodeId = some caller →
          Handler.run (Runtime.dispatchRoleRequest hash request) v = (.ok reply, v') →
            (v.host.Authorised op caller ↔
              op ∉ uncontrolledOps ∨ v.host.HoldsRole op caller) := by
  have hrequest : ∀ (hash : InviteHash) (v v' : HostView Runtime) (request : RemoteRequest)
      (reply : Fields), request.op = op.value →
        Handler.run (Runtime.dispatchRoleRequest hash request) v = (.ok reply, v') →
          ∃ caller, request.callerNodeId = some caller ∧ (v.host.Authorised op caller ↔
            op ∉ uncontrolledOps ∨ v.host.HoldsRole op caller) := by
    intro hash v v' request reply hreq hrun
    obtain ⟨caller, rt, hauth, hrole, _⟩ := Runtime.run_dispatchRoleRequest_of_ok hrun
    have hof : Op.ofString? request.op = some op := by
      rw [hreq]
      exact Op.ofString?_value op
    refine ⟨caller, Runtime.callerNodeId_of_authorizeRole hauth, ?_⟩
    have hne : Op.ofString? request.op ≠ some .consumeInvite := by
      rw [hof]
      exact fun heq => hop (Option.some.inj heq)
    rw [Runtime.roleRequest_eq_memberRequest hne] at hrole
    exact Runtime.authorised_memberRequest_iff hof hrole
  refine ⟨⟨fun honly hmem => ?_, fun hctl hash v v' request reply _ hreq hrun => ?_⟩,
    fun hash v v' request reply caller hreq hcaller hrun => ?_⟩
  · have hrevoked : ∀ a : RoleAssignment, a.revoked = false →
        (op ∈ reservedOps → .coordinator ∈ a.roles) → (!a.revoked) = true :=
      fun a ha _ => by simp [ha]
    have hcases : op = .renewCoordinatorLease ∨ op = .removeConnection ∨ op = .workerSnapshot ∨
        op = .standbyBatch := by simpa [uncontrolledOps] using hmem
    rcases hcases with rfl | rfl | rfl | rfl
    · exact RoleRequests.not_onlyAuthorised RoleRequests.coordinator []
        (fun a => decide (.coordinator ∈ a.roles)) RoleRequests.rejoin
        (fun a _ hrole => decide_eq_true (hrole (by decide))) (by decide +kernel) honly
    · exact RoleRequests.not_onlyAuthorised RoleRequests.worker [("target_node_id", .str "worker")]
        _ RoleRequests.assignAndRevoke hrevoked (by decide +kernel) honly
    · exact RoleRequests.not_onlyAuthorised RoleRequests.worker [] _ RoleRequests.assignAndRevoke
        hrevoked (by decide +kernel) honly
    · exact RoleRequests.not_onlyAuthorised RoleRequests.worker [] _ RoleRequests.assignAndRevoke
        hrevoked (by decide +kernel) honly
  · obtain ⟨caller, hcaller, hiff⟩ := hrequest hash v v' request reply hreq hrun
    exact ⟨caller, hcaller, hiff.mpr (.inl hctl)⟩
  · obtain ⟨caller', hcaller', hiff⟩ := hrequest hash v v' request reply hreq hrun
    cases hcaller.symm.trans hcaller'
    exact hiff

namespace RoleRequests

/-- Assigning a role asks for it; a revoked member that removes a connection is not authorised, and
its assignment is not active. -/
theorem authorised_iff_controlled_assignRole :
    (Runtime.OnlyAuthorised .assignRole ↔ .assignRole ∉ uncontrolledOps) ∧
      ∃ v v' reply, Runtime.Reachable Cluster.markHash v ∧
        Handler.run (Runtime.dispatchRoleRequest Cluster.markHash
          (request worker .removeConnection [("target_node_id", .str "worker")])) v =
            (.ok reply, v') ∧
        (v.host.Authorised .removeConnection worker ↔
          .removeConnection ∉ uncontrolledOps ∨ v.host.HoldsRole .removeConnection worker) := by
  refine ⟨(authorised_iff_controlled (by decide)).1, ?_⟩
  obtain ⟨v, hv, hok⟩ := exists_reachable assignAndRevoke (p := fun v =>
    (Handler.run (Runtime.dispatchRoleRequest Cluster.markHash
      (request worker .removeConnection [("target_node_id", .str "worker")])) v).1.toOption.isSome)
    (by decide +kernel)
  rcases hrun : Handler.run (Runtime.dispatchRoleRequest Cluster.markHash
    (request worker .removeConnection [("target_node_id", .str "worker")])) v with ⟨e | reply, v'⟩
  · simp [hrun, Except.toOption] at hok
  · exact ⟨v, v', reply, hv, hrun,
      (authorised_iff_controlled (by decide)).2 _ _ _ _ _ _ rfl rfl hrun⟩

/-- A revoked member removes a connection. -/
theorem revoked_member_removes_connection : ¬Runtime.OnlyAuthorised .removeConnection :=
  not_onlyAuthorised worker [("target_node_id", .str "worker")] (fun a => !a.revoked)
    assignAndRevoke (fun a ha _ => by simp [ha]) (by decide +kernel)

end RoleRequests

/-! ## What the answer to a join means -/

namespace Runtime

/-- The caller is a member of the cluster, at the term that the reply names.  Kind: D -/
def Joined (reply : Fields) (rt : Runtime) (caller : NodeId) : Prop :=
  rt.cluster.isMember caller = true ∧
    getField "cluster_id" reply = some (.str rt.cluster.clusterId) ∧
      getField "epoch" reply = some (.int rt.cluster.epoch.epoch)

end Runtime

/-- An admission makes its target a member.  Kind: L -/
theorem Cluster.isMember_of_assign {c c' : Cluster} {node : NodeId} {role : ClusterRole} {now : ℚ}
    {u : Unit} (h : Cluster.assign node role now c = .ok u c') : c'.isMember node = true := by
  obtain ⟨s, t, change, _, hassign, rfl⟩ := Cluster.assign_eq_ok h
  obtain ⟨hget, hrev, _⟩ := Cluster.get?_withMember (c := c) hassign
  unfold Cluster.isMember
  rw [hget]
  simp [hrev]

/-- **A join's answer and membership.**  When `consume_invite` is answered, the caller is a member
at the term of the answer exactly when the answer was not a stored admission, or the caller was a
member before.
Source: `remote/role_operations.py`, `dispatch_role_request`; `cluster/operations.py`,
`Cluster.consume_invite`.  Kind: P -/
theorem joined_iff {hash : InviteHash} {v v' : HostView Runtime} {request : RemoteRequest}
    {reply : Fields} {caller : NodeId} {token : String}
    (hop : request.op = Op.consumeInvite.value) (hcaller : request.callerNodeId = some caller)
    (htoken : getField "token" request.params = some (.str token))
    (h : Handler.run (Runtime.dispatchRoleRequest hash request) v = (.ok reply, v')) :
    v'.host.Joined reply caller ↔
      v.host.cluster.joinAdmissions.get? (hash.hash token) = none ∨
        v.host.cluster.isMember caller = true := by
  obtain ⟨caller', rt, hauth, hrole, hkeep⟩ := Runtime.run_dispatchRoleRequest_of_ok h
  cases hcaller.symm.trans (Runtime.callerNodeId_of_authorizeRole hauth)
  have hof : Op.ofString? request.op = some .consumeInvite := by
    rw [hop]
    exact Op.ofString?_value _
  rw [Runtime.roleRequest_eq_consumeInviteRequest hof] at hrole
  obtain ⟨token', invite, c', htok, hconsume, rfl, rfl⟩ :=
    Runtime.consumeInviteRequest_eq_ok hrole
  have htoken' : token' = token := by
    simp only [strParam, htoken, Except.ok.injEq] at htok
    exact htok.symm
  subst htoken'
  have hcluster : v'.host.cluster = c' := hkeep _ Runtime.cluster fun _ _ => rfl
  have hreply : getField "cluster_id" (Runtime.admissionReply invite c') =
        some (.str v'.host.cluster.clusterId) ∧
      getField "epoch" (Runtime.admissionReply invite c') =
        some (.int v'.host.cluster.epoch.epoch) := by
    rw [hcluster]
    exact ⟨rfl, rfl⟩
  have hiff : v'.host.Joined (Runtime.admissionReply invite c') caller ↔
      c'.isMember caller = true := by
    unfold Runtime.Joined
    rw [hcluster] at hreply ⊢
    exact and_iff_left hreply
  rw [hiff]
  rcases Cluster.consumeInvite_eq_ok hconsume with
    ⟨hadm, _, _, rfl⟩ | ⟨hspends, u, c₁, hassign, rfl⟩
  · -- a retry: nothing changed
    simp [hadm]
  · have hmember : c₁.isMember caller = true := Cluster.isMember_of_assign hassign
    exact ⟨fun _ => .inl hspends.noAdmission, fun _ => hmember⟩

namespace RoleRequests

/-- The worker redeems its invite. -/
def redeem : RemoteRequest := request worker .consumeInvite [("token", .str "token")]

/-- The coordinator invites the worker. -/
def invited : List RuntimeEvent := [.createInvite 5 worker "token"]

/-- The worker is invited, joins and is revoked. -/
def invitedAndRevoked : List RuntimeEvent :=
  invited ++ [.op 10 (.request redeem),
    .op 20 (.request (request coordinator .revokeMember [("target_node_id", .str "worker")]))]

/-- The first answer is an admission. -/
theorem joined_iff_redeem :
    ∃ v v' reply, Runtime.Reachable Cluster.markHash v ∧
      Handler.run (Runtime.dispatchRoleRequest Cluster.markHash redeem) v = (.ok reply, v') ∧
        (v'.host.Joined reply worker ↔
          v.host.cluster.joinAdmissions.get? (Cluster.markHash.hash "token") = none ∨
            v.host.cluster.isMember worker = true) := by
  obtain ⟨v, hv, hok⟩ := exists_reachable invited (p := fun v =>
    (Handler.run (Runtime.dispatchRoleRequest Cluster.markHash redeem) v).1.toOption.isSome)
    (by decide +kernel)
  rcases hrun : Handler.run (Runtime.dispatchRoleRequest Cluster.markHash redeem) v with
    ⟨e | reply, v'⟩
  · simp [hrun, Except.toOption] at hok
  · exact ⟨v, v', reply, hv, hrun, joined_iff rfl rfl rfl hrun⟩

/-- The retry of a revoked member is answered like its join. -/
theorem revoked_member_is_answered :
    ∃ v v' reply, Runtime.Reachable Cluster.markHash v ∧
      Handler.run (Runtime.dispatchRoleRequest Cluster.markHash redeem) v = (.ok reply, v') ∧
        ¬v'.host.Joined reply worker := by
  obtain ⟨v, hv, hok⟩ := exists_reachable invitedAndRevoked (p := fun v =>
    let outcome := Handler.run (Runtime.dispatchRoleRequest Cluster.markHash redeem) v
    outcome.1.toOption.isSome && !outcome.2.host.cluster.isMember worker) (by decide +kernel)
  rcases hrun : Handler.run (Runtime.dispatchRoleRequest Cluster.markHash redeem) v with
    ⟨e | reply, v'⟩
  · simp [hrun, Except.toOption] at hok
  · simp only [hrun, Bool.and_eq_true, Bool.not_eq_true'] at hok
    refine ⟨v, v', reply, hv, hrun, fun hjoined => ?_⟩
    have hmember := hjoined.1
    rw [hok.2] at hmember
    cases hmember

end RoleRequests

end ExpraConnect
