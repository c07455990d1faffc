import ExpraConnect.Cluster.InvitePreimage
import ExpraConnect.Lib.WriteBack
import ExpraConnect.Remote.RoleOperationFacts

/-!
# Two copies of one role state

Requests of peers and a join work on the cluster facade; the operations of the host application
work on `FailoverCoordinator.state` and write it over the cluster.  Nothing carries a change of the
facade over to the coordinator, so the next operation of the host application undoes it.

* `MembershipOp.perform`: one successful operation, at a reading of the cluster's clock;
* `membership`: the runtime as a system with a copy that is written back (`WriteBack`);
* `nothing_lost_iff_settled`: a run loses nothing exactly when, at every operation of the failover
  coordinator, the cluster's role state is what it was at the load or at the coordinator's last
  operation, i.e. when no request or join changed it in between;
* `Replicas.admission_is_overwritten`: a worker that joined is gone after the next heartbeat.
-/

namespace ExpraConnect

open ExpraConnect.Lib

/-! ## Operations -/

/-- What surrounds the two role states of a runtime and others may change: pairing, registry,
stores, connections and the service's access control.  Source: none: infrastructure.  Kind: D -/
structure Surroundings where
  /-- `_identity.node_id` -/
  identity : Option NodeId
  /-- `_pairing` -/
  pairing : Option Pairing
  /-- `_registry` -/
  registry : Option NodeRegistry
  /-- `_cluster_store is not None` -/
  clusterStore : Bool
  /-- What `_save_persisted_state()` answers. -/
  persists : Bool
  /-- `_service is not None` -/
  service : Bool
  /-- The peers `_connection_manager` is connected to. -/
  connections : Option (Finset NodeId)
  /-- Grants and fence of the service. -/
  auth : Auth

/-- The runtime in other surroundings. -/
def Surroundings.around (e : Surroundings) (v : HostView Runtime) : HostView Runtime :=
  { v with
    auth := e.auth
    host := { v.host with
      identity := e.identity
      pairing := e.pairing
      registry := e.registry
      clusterStore := e.clusterStore
      persists := e.persists
      service := e.service
      connections := e.connections } }

/-- One operation on the membership of a runtime.
Source: `remote/role_operations.py`, `dispatch_role_request` and `RuntimeClusterOperations`.
Kind: D -/
inductive MembershipOp where
  /-- `dispatch_role_request(runtime, request)` -/
  | request (request : RemoteRequest)
  /-- `join_cluster(provider, invite)`, with the provider's peer and the coordinator's response. -/
  | join (peer : Option NodeId) (invite : InviteRecord) (response : Value)
  /-- `assign_role(target, role)` -/
  | assignRole (target : NodeId) (role : ClusterRole)
  /-- `revoke_member(target)` -/
  | revokeMember (target : NodeId)
  /-- `heartbeat(coordinator_id=..., fencing_token=..., now=...)` -/
  | heartbeat (coordinatorId : NodeId) (fencingToken : String) (now : ℚ)
  /-- `promote_if_due(now=...)`, with the fencing token a promotion draws. -/
  | promoteIfDue (now : ℚ) (token : String)
  /-- `rejoin_as_worker(node_id=..., current_epoch=...)` -/
  | rejoinAsWorker (nodeId : NodeId) (currentEpoch : ℤ)

namespace MembershipOp

/-- The call of an operation, with the answer of those that answer `True` or `False`. -/
def call (hash : InviteHash) : MembershipOp → Handler Runtime Bool
  | request r => do
      let _ ← Runtime.dispatchRoleRequest hash r
      return true
  | join peer invite response => do
      let _ ← Runtime.joinCluster peer invite response
      return true
  | assignRole target role => do
      let _ ← Runtime.assignRole target role
      return true
  | revokeMember target => do
      Runtime.revokeMember target
      return true
  | heartbeat coordinatorId fencingToken now => Runtime.heartbeat coordinatorId fencingToken now
  | promoteIfDue now token => Runtime.promoteIfDue now token
  | rejoinAsWorker nodeId currentEpoch => do
      Runtime.rejoinAsWorker nodeId currentEpoch
      return true

/-- Whether the operation is the failover coordinator's. -/
def ofCoordinator : MembershipOp → Bool
  | request _ | join _ _ _ => false
  | _ => true

end MembershipOp

/-- What happens to a runtime: an operation at a reading of the cluster's clock, or a change around
it. -/
inductive MembershipEvent where
  /-- An operation. -/
  | op (clock : ℚ) (op : MembershipOp)
  /-- A change around the runtime. -/
  | surroundings (e : Surroundings)

namespace MembershipEvent

/-- The runtime after an event; an operation has to return. -/
def perform (hash : InviteHash) : MembershipEvent → HostView Runtime → Option (HostView Runtime)
  | op clock o, v =>
      match Handler.run (o.call hash) { v with clock := clock } with
      | (.ok _, v') => some v'
      | (.error _, _) => none
  | surroundings e, v => some (e.around v)

/-- Whether the event is an operation of the failover coordinator. -/
def ofCoordinator : MembershipEvent → Bool
  | op _ o => o.ofCoordinator
  | surroundings _ => false

end MembershipEvent

namespace MembershipOp

variable {hash : InviteHash} {o : MembershipOp} {v v' : HostView Runtime}

/-- Requests and joins leave the coordinator's state alone.  Kind: L -/
theorem failover_of_not_ofCoordinator (hash : InviteHash) (ho : o.ofCoordinator = false) :
    Handler.Keeps Runtime.failover (o.call hash) := by
  cases o with
  | request r =>
      exact (Runtime.keeps_failover_dispatchRoleRequest hash r).bind fun _ => Handler.keeps_pure _
  | join peer invite response =>
      exact (Runtime.keeps_failover_joinCluster peer invite response).bind fun _ =>
        Handler.keeps_pure _
  | _ => cases ho

/-- What a coordinator's operation that returned did: nothing, answering `False`, or it wrote a
complete candidate to both role states.  Kind: L -/
theorem replicas_of_ofCoordinator {b : Bool} (ho : o.ofCoordinator = true)
    (hs : v.host.failover.Complete) (h : Handler.run (o.call hash) v = (.ok b, v')) :
    (b = false ∧ v' = v) ∨
      (b = true ∧ ∃ c : RoleState, c.Complete ∧
        Runtime.replicas v'.host = (Runtime.overwrite v.host.cluster c, c)) := by
  cases o with
  | request r => cases ho
  | join peer invite response => cases ho
  | assignRole target role =>
      obtain ⟨a, w, hrun, h⟩ := Handler.run_bind_eq_ok.mp h
      cases h
      unfold Runtime.assignRole at hrun
      rw [Handler.run_clock_bind] at hrun
      rcases Runtime.run_commitFrom_of_ok hrun with ⟨hf, _⟩ | ⟨c, hf, hc⟩
      · obtain ⟨_, _, hf⟩ := Except.bind_eq_ok.mp hf
        simp at hf
      · obtain ⟨⟨c', ch⟩, hassign, hf⟩ := Except.bind_eq_ok.mp hf
        simp only [Except.pure_eq_ok, Prod.mk.injEq, Option.some.injEq] at hf
        obtain ⟨rfl, _⟩ := hf
        exact .inr ⟨rfl, c', hs.assign hassign, hc⟩
  | revokeMember target =>
      obtain ⟨a, w, hrun, h⟩ := Handler.run_bind_eq_ok.mp h
      cases h
      rcases Runtime.run_commitFrom_of_ok hrun with ⟨hf, _⟩ | ⟨c, hf, hc⟩
      · obtain ⟨_, _, hf⟩ := Except.bind_eq_ok.mp hf
        simp at hf
      · obtain ⟨c', hrevoke, hf⟩ := Except.bind_eq_ok.mp hf
        simp only [Except.pure_eq_ok, Prod.mk.injEq, Option.some.injEq] at hf
        obtain ⟨rfl, _⟩ := hf
        exact .inr ⟨rfl, c', hs.revoke hrevoke, hc⟩
  | heartbeat node token now =>
      rcases Runtime.run_commitFrom_of_ok h with ⟨hf, hv⟩ | ⟨c, hf, hc⟩
      · obtain ⟨r, _, hf⟩ := Except.bind_eq_ok.mp hf
        simp only [Except.pure_eq_ok, Prod.mk.injEq] at hf
        obtain ⟨rfl, rfl⟩ := hf
        exact .inl ⟨rfl, hv⟩
      · obtain ⟨r, hbeat, hf⟩ := Except.bind_eq_ok.mp hf
        simp only [Except.pure_eq_ok, Prod.mk.injEq] at hf
        obtain ⟨rfl, rfl⟩ := hf
        exact .inr ⟨rfl, c, FailoverCoordinator.complete_of_heartbeat hs hbeat, hc⟩
  | promoteIfDue now token =>
      rcases Runtime.run_commitFrom_of_ok h with ⟨hf, hv⟩ | ⟨c, hf, hc⟩
      · obtain ⟨r, _, hf⟩ := Except.bind_eq_ok.mp hf
        simp only [Except.pure_eq_ok, Prod.mk.injEq] at hf
        obtain ⟨rfl, rfl⟩ := hf
        exact .inl ⟨rfl, hv⟩
      · obtain ⟨r, hpromote, hf⟩ := Except.bind_eq_ok.mp hf
        simp only [Except.pure_eq_ok, Prod.mk.injEq] at hf
        obtain ⟨rfl, rfl⟩ := hf
        exact .inr ⟨rfl, c, FailoverCoordinator.complete_of_promoteIfDue hs hpromote, hc⟩
  | rejoinAsWorker node epoch =>
      obtain ⟨a, w, hrun, h⟩ := Handler.run_bind_eq_ok.mp h
      cases h
      rcases Runtime.run_commitFrom_of_ok hrun with ⟨hf, _⟩ | ⟨c, hf, hc⟩
      · obtain ⟨_, _, hf⟩ := Except.bind_eq_ok.mp hf
        simp at hf
      · obtain ⟨c', hrejoin, hf⟩ := Except.bind_eq_ok.mp hf
        simp only [Except.pure_eq_ok, Prod.mk.injEq, Option.some.injEq] at hf
        obtain ⟨rfl, _⟩ := hf
        exact .inr ⟨rfl, c', hs.rejoinAsWorker hrejoin, hc⟩

end MembershipOp

/-! ## The copy that is written back -/

section membership

variable (hash : InviteHash)

/-- A membership event that is performed is a call that returns.  Kind: L -/
theorem MembershipEvent.perform_op {clock : ℚ} {o : MembershipOp} {v v' : HostView Runtime}
    (h : (op clock o).perform hash v = some v') :
    ∃ b, Handler.run (o.call hash) { v with clock := clock } = (.ok b, v') := by
  unfold perform at h
  rcases hrun : Handler.run (o.call hash) { v with clock := clock } with ⟨e | b, w⟩
  · simp [hrun] at h
  · simp only [hrun, Option.some.injEq] at h
    exact ⟨b, by rw [h]⟩

/-- The runtime as a system with a copy that is written back: the data is the cluster's role state,
the copy is `FailoverCoordinator.state`.  Kind: D -/
def membership : WriteBack (HostView Runtime) RoleState MembershipEvent where
  primary v := v.host.cluster.roleState.toOption
  copy v := v.host.failover
  refresh state v := { v with host := { v.host with failover := state } }
  step := MembershipEvent.perform hash
  back := MembershipEvent.ofCoordinator
  Good := RoleState.Complete
  refresh_copy _ := rfl
  copy_step := by
    intro e v v' hb h
    cases e with
    | surroundings e =>
        cases h
        rfl
    | op clock o =>
        obtain ⟨b, hrun⟩ := MembershipEvent.perform_op hash h
        have hkeep := MembershipOp.failover_of_not_ofCoordinator hash hb
          { v with clock := clock }
        rw [hrun] at hkeep
        exact hkeep
  step_back := by
    intro e v v' hb hs h
    cases e with
    | surroundings e => cases hb
    | op clock o =>
        obtain ⟨b, hrun⟩ := MembershipEvent.perform_op hash h
        have hs' : ({ v with clock := clock } : HostView Runtime).host.failover.Complete := hs
        rcases MembershipOp.replicas_of_ofCoordinator hb hs' hrun with ⟨_, rfl⟩ | ⟨_, c, hc, hrep⟩
        · exact ⟨hs, .inr ⟨rfl, rfl⟩⟩
        · have hcluster : v'.host.cluster = Runtime.overwrite v.host.cluster c :=
            congrArg Prod.fst hrep
          have hcopy : v'.host.failover = c := congrArg Prod.snd hrep
          refine ⟨hcopy ▸ hc, .inl ?_⟩
          rw [hcluster, hcopy, Runtime.roleState_overwrite hc]
          rfl

end membership

/-! ## Nothing is lost -/

/-- The two role states of a runtime are as `_load_persisted_state` left them.
Source: `runtime/core.py`, `_load_persisted_state`.  Kind: D -/
def Runtime.Loaded (rt : Runtime) : Prop :=
  ∃ identity persisted fresh pairing connections, ∃ rt₀ : Runtime,
    Runtime.load identity persisted fresh pairing connections = .ok rt₀ ∧
      Runtime.replicas rt = Runtime.replicas rt₀

/-- The facade of a loaded runtime gives the coordinator's state.  Kind: L -/
theorem Runtime.Loaded.roleState {rt : Runtime} (h : rt.Loaded) :
    rt.cluster.roleState = .ok rt.failover := by
  obtain ⟨identity, persisted, fresh, pairing, connections, rt₀, hload, hrep⟩ := h
  have hcluster : rt.cluster = rt₀.cluster := congrArg Prod.fst hrep
  have hcopy : rt.failover = rt₀.failover := congrArg Prod.snd hrep
  rw [hcluster, hcopy]
  unfold Runtime.load at hload
  cases persisted with
  | some state =>
      simp only [Except.bind_eq_ok, Except.pure_eq_ok] at hload
      obtain ⟨cluster, _, failover, hnew, rfl⟩ := hload
      exact hnew
  | none =>
      simp only [Except.bind_eq_ok, Except.pure_eq_ok] at hload
      obtain ⟨cluster, _, failover, hnew, rfl⟩ := hload
      exact hnew

/-- The coordinator's state of a loaded runtime is complete.  Kind: L -/
theorem Runtime.Loaded.complete {rt : Runtime} (h : rt.Loaded) : rt.failover.Complete := by
  obtain ⟨_, has, hep, _, _⟩ := RoleState.new_eq_ok_iff.mp h.roleState
  refine ⟨?_, ?_⟩
  · rw [has]
    exact rt.cluster.assignments.isSome_of_mem_values
  · rw [hep]
    rfl

/-- A run keeps every membership change: at each operation of the failover coordinator its state is
the role state of the cluster it is about to overwrite, and the members, term and cluster id at the
end are those of the same operations on one role state.  Kind: D -/
def NothingLost (hash : InviteHash) (events : List MembershipEvent) (v v' : HostView Runtime) :
    Prop :=
  (membership hash).Agrees events v ∧
    ∃ w, (membership hash).single events v = some w ∧
      v'.host.cluster.assignments = w.host.cluster.assignments ∧
      v'.host.cluster.epoch = w.host.cluster.epoch ∧
      v'.host.cluster.clusterId = w.host.cluster.clusterId

/-- Every run of successful operations from a loaded runtime keeps every membership change exactly
when, at each operation of the failover coordinator, the cluster's role state is what it was at the
load or at the coordinator's operation before.
Source: `remote/role_operations.py`, `dispatch_role_request` and `_persist_failover_state`;
`cluster/failover.py`, `FailoverCoordinator`.  Kind: P -/
theorem nothing_lost_iff_settled (hash : InviteHash) (events : List MembershipEvent)
    {v v' : HostView Runtime} (hload : v.host.Loaded)
    (hrun : (membership hash).run events v = some v') :
    NothingLost hash events v v' ↔
      (membership hash).Settled v.host.cluster.roleState.toOption events v := by
  have hsync : v.host.cluster.roleState.toOption = some v.host.failover := by
    rw [hload.roleState]
    rfl
  have hiff := WriteBack.agrees_iff_settled (W := membership hash) hload.complete hrun
  rw [hsync]
  constructor
  · exact fun h => hiff.mp h.1
  · intro h
    have hagrees := hiff.mpr h
    exact ⟨hagrees, v', WriteBack.single_eq_run hrun hagrees, rfl, rfl, rfl⟩

/-! ## A worker that joined is gone after a heartbeat -/

namespace Replicas

/-- The coordinator of the sample cluster. -/
def coordinator : NodeId := .named "coord"

/-- Its Subcoordinator. -/
def standby : NodeId := ⟨"standby", by decide⟩

/-- The assignments of the sample are not both revoked and paused.  Kind: L -/
theorem not_revoked_paused : ¬(false = true ∧ false = true) := by decide

/-- The fencing token of the sample is not empty.  Kind: L -/
theorem fence_ne : "fence" ≠ "" := by decide

/-- The lease of the sample is not negative.  Kind: L -/
theorem lease_nonneg : (0 : ℚ) ≤ 120 := by decide

/-- The roles of the sample cluster; the lease ends at 120. -/
def roles : RoleState where
  assignments := [RoleAssignment.coordinator coordinator,
    ⟨{.subcoordinator}, some standby, false, false, false, by decide, by decide,
      not_revoked_paused⟩]
  epoch := some ⟨1, coordinator, "fence", 0, 120, fence_ne, lease_nonneg⟩
  promotionEpochs := ∅
  capabilityGrants := []
  valid := ⟨by decide, by decide, by decide, by decide⟩

/-- The sample cluster as it is stored, with an invite that was not used yet. -/
def stored : ClusterState where
  localNodeId := "coord"
  clusterId := "cluster"
  roles := roles
  activeInvites := [⟨"#token", "worker", 300, "", "cluster", "coord", 1, "fence", by decide⟩]
  joinAdmissions := []
  usedInvites := ∅

/-- The coordinator's runtime, paired with the invited worker. -/
def loaded : Except PyError Runtime :=
  Runtime.load coordinator (some stored) (.error ⟨.runtime, "unused"⟩)
    ⟨Dict.empty, {Cluster.invitedWorker}⟩ ∅

/-- The runtime as it is called. -/
def start (rt : Runtime) : HostView Runtime :=
  ⟨⟨true, Dict.empty, [], 0, ⟨none, none, none⟩⟩, 0, rt⟩

/-- A request of a peer at the current fence. -/
def roleRequest (caller : NodeId) (op : String) (params : Fields) : RemoteRequest where
  nodeId := coordinator
  callerNodeId := some caller
  op := op
  params := params ++ [("cluster_id", .str "cluster"), ("epoch", .int 1),
    ("fencing_token", .str "fence")]
  requestId := "r"
  nonce := "n"
  timestamp := 0
  sessionId := none
  resume := false
  connectionGeneration := none

/-- The worker redeems its invite. -/
def admission : MembershipEvent :=
  .op 10 (.request (roleRequest Cluster.invitedWorker "consume_invite" [("token", .str "token")]))

/-- The coordinator's own heartbeat. -/
def beat : MembershipEvent := .op 20 (.heartbeat coordinator "fence" 20)

/-- A loaded runtime that passes an executable check exists.  Kind: L -/
theorem exists_loaded {p : Runtime → Bool} (h : loaded.toOption.any p = true) :
    ∃ rt, rt.Loaded ∧ p rt = true := by
  obtain ⟨rt, hl, hp⟩ := Except.exists_of_any h
  exact ⟨rt, ⟨_, _, _, _, _, rt, hl, rfl⟩, hp⟩

/-- A heartbeat before the admission keeps it. -/
theorem admission_kept_after_heartbeat :
    ∃ v v', v.host.Loaded ∧ (membership Cluster.markHash).run [beat, admission] v = some v' ∧
      (NothingLost Cluster.markHash [beat, admission] v v' ↔
        (membership Cluster.markHash).Settled v.host.cluster.roleState.toOption
          [beat, admission] v) := by
  obtain ⟨rt, hload, hrun⟩ := exists_loaded
    (p := fun rt => ((membership Cluster.markHash).run [beat, admission] (start rt)).isSome)
    (by decide +kernel)
  obtain ⟨v', hv'⟩ := Option.isSome_iff_exists.mp hrun
  exact ⟨start rt, v', hload, hv', nothing_lost_iff_settled _ _ hload hv'⟩

/-- Whether the two ways to run `events` end with different members. -/
def diverge (events : List MembershipEvent) (rt : Runtime) : Bool :=
  match (membership Cluster.markHash).run events (start rt),
      (membership Cluster.markHash).single events (start rt) with
  | some v', some w => decide (v'.host.cluster.assignments ≠ w.host.cluster.assignments)
  | _, _ => false

/-- After the admission, the heartbeat puts back the members the coordinator's copy still has. -/
theorem admission_is_overwritten :
    ¬∀ (hash : InviteHash) (events : List MembershipEvent) (v v' : HostView Runtime),
      v.host.Loaded → (membership hash).run events v = some v' → NothingLost hash events v v' := by
  intro h
  obtain ⟨rt, hload, hdiv⟩ := exists_loaded (p := diverge [admission, beat]) (by decide +kernel)
  unfold diverge at hdiv
  split at hdiv
  · rename_i v' w hrun hsingle
    obtain ⟨_, w', hw', hassign, _, _⟩ := h _ _ _ _ hload hrun
    cases hsingle.symm.trans hw'
    exact (decide_eq_true_eq.mp hdiv) hassign
  · cases hdiv

end Replicas

end ExpraConnect
