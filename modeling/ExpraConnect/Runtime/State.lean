import ExpraConnect.Cluster.Failover
import ExpraConnect.Cluster.Operations
import ExpraConnect.Remote.Service

/-!
# The runtime behind a service

The part of `runtime/core.py` that owns cluster membership: the cluster facade, the failover
coordinator's own copy of the role state, the pairing relationships and the persistence hooks.
The code of the runtime is code behind the service (`Handler`): it acts on its own state and
updates the service through its public methods.

* `Handler.run`: a call without anybody else acting meanwhile;
* `Runtime`, `Runtime.load`: `_load_persisted_state`;
* `hydrateRegistryMembership`, `refreshLiveGrants`: the projections of the membership.

A runtime without a cluster raises on every membership operation and is left out, as are the
connection and the capabilities of the registry's records.
-/

namespace ExpraConnect

open ExpraConnect.Lib

/-! ## Calls of host code -/

namespace Handler

variable {H α : Type}

/-- The outcome of a call during which nobody else acts, and what it leaves behind. -/
def run : Handler H α → HostView H → Except PyError α × HostView H
  | .ret a, v => (.ok a, v)
  | .fail e, v => (.error e, v)
  | .step act next, v => run (next v) (act.apply v)

/-- One step on the runtime's own state. -/
def ofPyM (m : PyM H α) : Handler H α :=
  .step (.act fun h =>
      match m h with
      | .ok _ h' => h'
      | .error _ h' => h') fun v =>
    match m v.host with
    | .ok a _ => .ret a
    | .error e _ => .fail e

/-- A reading of the wall clock. -/
def clock : Handler H ℚ := .step (.act id) fun v => .ret v.clock

/-- `self._service.update_grants(grants)`. -/
def updateGrants (grants : Dict NodeId PeerGrant) : Handler H Unit :=
  .step (.updateGrants grants) fun v =>
    match v.auth.updateGrants grants with
    | .ok _ => .ret ()
    | .error e => .fail e

/-- `self._service.update_cluster_capability_grants(grants)`. -/
def updateClusterCapabilityGrants (grants : List CapabilityGrant) : Handler H Unit :=
  .step (.updateClusterCapabilityGrants grants) fun _ => .ret ()

/-- `self._service.update_cluster_fence(...)`. -/
def updateClusterFence (clusterId : String) (epoch : ℤ) (fencingToken : String) :
    Handler H Unit :=
  .step (.updateClusterFence clusterId epoch fencingToken) fun v =>
    match v.auth.updateClusterFence clusterId epoch fencingToken with
    | .ok _ => .ret ()
    | .error e => .fail e

/-- A returned value leaves the view alone.  Kind: L -/
@[simp] theorem run_ret (a : α) (v : HostView H) : run (.ret a) v = (.ok a, v) := rfl

/-- `pure` leaves the view alone.  Kind: L -/
@[simp] theorem run_pure (a : α) (v : HostView H) : run (pure a) v = (.ok a, v) := rfl

/-- A failure leaves the view alone.  Kind: L -/
@[simp] theorem run_fail (e : PyError) (v : HostView H) :
    run (.fail e : Handler H α) v = (.error e, v) := rfl

/-- A call made of two: the second runs from where the first returned.  Kind: L -/
theorem run_bind {β : Type} (p : Handler H α) (k : α → Handler H β) (v : HostView H) :
    run (p >>= k) v =
      match run p v with
      | (.ok a, v') => run (k a) v'
      | (.error e, v') => (.error e, v') := by
  induction p generalizing v with
  | ret a => rfl
  | fail e => rfl
  | step act next ih => exact ih v (act.apply v)

/-- A sequence returns if and only if both halves do.  Kind: L -/
theorem run_bind_eq_ok {β : Type} {p : Handler H α} {k : α → Handler H β} {v v'' : HostView H}
    {b : β} :
    run (p >>= k) v = (.ok b, v'') ↔
      ∃ a v', run p v = (.ok a, v') ∧ run (k a) v' = (.ok b, v'') := by
  rw [run_bind]
  rcases run p v with ⟨e | a, v'⟩
  · simp
  · simp

/-- A reading of the clock before a step.  Kind: L -/
@[simp] theorem run_clock_bind {β : Type} (k : ℚ → Handler H β) (v : HostView H) :
    run (clock >>= k) v = run (k v.clock) v := rfl

/-- A host step that returns.  Kind: L -/
theorem run_ofPyM_of_ok {m : PyM H α} {v : HostView H} {a : α} {h : H} (hm : m v.host = .ok a h) :
    run (ofPyM m) v = (.ok a, { v with host := h }) := by
  simp [ofPyM, run, HostAct.apply, hm]

/-- A host step that raises.  Kind: L -/
theorem run_ofPyM_of_error {m : PyM H α} {v : HostView H} {e : PyError} {h : H}
    (hm : m v.host = .error e h) : run (ofPyM m) v = (.error e, { v with host := h }) := by
  simp [ofPyM, run, HostAct.apply, hm]

/-- A host step returns if and only if the computation does.  Kind: L -/
theorem run_ofPyM_eq_ok {m : PyM H α} {v v' : HostView H} {a : α} :
    run (ofPyM m) v = (.ok a, v') ↔ ∃ h, m v.host = .ok a h ∧ v' = { v with host := h } := by
  cases hm : m v.host with
  | ok b h =>
      rw [run_ofPyM_of_ok hm]
      aesop
  | error e h =>
      rw [run_ofPyM_of_error hm]
      simp

/-- A call leaves the part `g` of the host's state alone, whether it returns or raises. -/
def Keeps {γ : Type} (g : H → γ) (p : Handler H α) : Prop :=
  ∀ v, g (run p v).2.host = g v.host

section keeps

variable {γ : Type} {g : H → γ}

/-- `pure` keeps everything.  Kind: L -/
theorem keeps_pure (a : α) : Keeps g (pure a : Handler H α) := fun _ => rfl

/-- A sequence keeps what both halves keep.  Kind: L -/
theorem Keeps.bind {β : Type} {p : Handler H α} {k : α → Handler H β} (hp : Keeps g p)
    (hk : ∀ a, Keeps g (k a)) : Keeps g (p >>= k) := by
  intro v
  have hv := hp v
  rw [run_bind]
  rcases hrun : run p v with ⟨e | a, v'⟩
  · rw [hrun] at hv
    exact hv
  · rw [hrun] at hv
    exact (hk a v').trans hv

/-- Reading the clock keeps everything.  Kind: L -/
theorem keeps_clock : Keeps g (clock : Handler H ℚ) := fun _ => rfl

/-- A host step keeps what the computation keeps.  Kind: L -/
theorem keeps_ofPyM {m : PyM H α} (h : ∀ s, g (m.after s) = g s) : Keeps g (ofPyM m) := by
  intro v
  have hv := h v.host
  unfold PyM.after at hv
  cases hm : m v.host with
  | ok a s =>
      rw [run_ofPyM_of_ok hm]
      simpa [hm] using hv
  | error e s =>
      rw [run_ofPyM_of_error hm]
      simpa [hm] using hv

/-- `updateGrants` keeps the host state.  Kind: L -/
theorem keeps_updateGrants (grants : Dict NodeId PeerGrant) :
    Keeps g (updateGrants grants : Handler H Unit) := by
  intro v
  simp only [updateGrants, run, HostAct.apply]
  cases v.auth.updateGrants grants <;> rfl

/-- `updateClusterCapabilityGrants` keeps the host state.  Kind: L -/
theorem keeps_updateClusterCapabilityGrants (grants : List CapabilityGrant) :
    Keeps g (updateClusterCapabilityGrants grants : Handler H Unit) := fun _ => rfl

/-- `updateClusterFence` keeps the host state.  Kind: L -/
theorem keeps_updateClusterFence (clusterId : String) (epoch : ℤ) (fencingToken : String) :
    Keeps g (updateClusterFence clusterId epoch fencingToken : Handler H Unit) := by
  intro v
  simp only [updateClusterFence, run, HostAct.apply]
  cases v.auth.updateClusterFence clusterId epoch fencingToken <;> rfl

end keeps

end Handler

/-! ## The runtime's state -/

/-- Source: `pairing/manager.py`, `PairingManager`, the two directions of a relationship.
Kind: D -/
structure Pairing where
  /-- `grants`, in the form `_wire_grants` gives them. -/
  grants : Dict NodeId PeerGrant
  /-- The keys of `trusted`. -/
  trusted : Finset NodeId

/-- Source: `pairing/manager.py`, `can_join_cluster`.  Kind: D -/
def Pairing.canJoinCluster (p : Pairing) (peer : NodeId) : Bool :=
  decide (peer ∈ p.trusted) || p.grants.values.any fun g => g.callerNodeId = peer

/-- Source: `nodes/registry.py`, `TrustState`, as far as membership reads it.  Kind: D -/
inductive TrustState where
  | observed | authorized | revoked
  deriving DecidableEq

/-- Source: `nodes/registry.py`, `MembershipState`.  Kind: D -/
inductive MembershipState where
  | notJoined | worker | coordinator | subcoordinator
  deriving DecidableEq

/-- Source: `nodes/registry.py`, `NodeRecord`.  Kind: D -/
structure NodeRecord where
  /-- `trust` -/
  trust : TrustState
  /-- `membership` -/
  membership : MembershipState
  /-- `coordinator_id` -/
  coordinatorId : Option NodeId
  deriving DecidableEq

/-- The records of a registry. -/
abbrev NodeRegistry : Type := Dict NodeId NodeRecord

namespace NodeRegistry

/-- `NodeRecord(node_id)` -/
def discovered : NodeRecord := ⟨.observed, .notJoined, none⟩

/-- `NodeRegistry(local_node_id)`.  Source: `nodes/registry.py`, `NodeRegistry.__init__`.  Kind: D -/
def new (localId : NodeId) : NodeRegistry :=
  Dict.empty.insert localId ⟨.authorized, .coordinator, none⟩

/-- Source: `nodes/registry.py`, `NodeRegistry.observe`.  Kind: D -/
def observe (node : NodeId) (records : NodeRegistry) : NodeRegistry :=
  if records.contains node then records else records.insert node discovered

/-- Source: `nodes/registry.py`, `NodeRegistry.promote`.  Kind: D -/
def promote (node : NodeId) (records : NodeRegistry) : Except PyError NodeRegistry :=
  match records.get? node with
  | none => .error ⟨.key, node.value⟩
  | some record =>
      if record.trust = .revoked then
        .error ⟨.permission, "revoked node requires a fresh pairing"⟩
      else .ok (records.insert node { record with trust := .authorized })

/-- Source: `nodes/registry.py`, `NodeRegistry.hydrate_membership`.  Kind: D -/
def hydrateMembership (node : NodeId) (role : MembershipState) (coordinatorId : NodeId)
    (records : NodeRegistry) : Except PyError NodeRegistry :=
  match records.get? node with
  | none => .error ⟨.key, node.value⟩
  | some record =>
      .ok (records.insert node { record with
        membership := role
        coordinatorId := some coordinatorId })

end NodeRegistry

/-- Source: `runtime/core.py`, `ConnectRuntime`.  Kind: D -/
structure Runtime where
  /-- `_identity.node_id` -/
  identity : Option NodeId
  /-- `_pairing` -/
  pairing : Option Pairing
  /-- `_cluster` -/
  cluster : Cluster
  /-- `_cluster_capability_grants` -/
  clusterCapabilityGrants : List CapabilityGrant
  /-- `_failover_coordinator.state` -/
  failover : RoleState
  /-- `_registry` -/
  registry : Option NodeRegistry
  /-- `_cluster_store is not None` -/
  clusterStore : Bool
  /-- What `_save_persisted_state()` answers. -/
  persists : Bool
  /-- `_service is not None` -/
  service : Bool
  /-- The peers `_connection_manager` is connected to. -/
  connections : Option (Finset NodeId)

namespace Runtime

/-- Source: `runtime/core.py`, `_save_persisted_state`.  Kind: D -/
def savePersistedState : PyM Runtime Bool := do
  return (← get).persists

/-- Source: `runtime/core.py`, `_wire_grants`.  Kind: D -/
def wireGrants (rt : Runtime) : Dict NodeId PeerGrant :=
  match rt.pairing with
  | none => Dict.empty
  | some p => p.grants

/-- The role of an assignment that the registry shows.
Source: `runtime/core.py`, `_hydrate_registry_membership`.  Kind: D -/
def registryRole (a : RoleAssignment) : MembershipState :=
  if .coordinator ∈ a.roles then .coordinator
  else if .subcoordinator ∈ a.roles then .subcoordinator
  else .worker

/-- One member of the loop of `_hydrate_registry_membership`.
Source: `runtime/core.py`, `_hydrate_registry_membership`.  Kind: D -/
def hydrateMember (pairing : Option Pairing) (coordinatorId : NodeId)
    (member : NodeId × RoleAssignment) (records : NodeRegistry) : Except PyError NodeRegistry := do
  let records := NodeRegistry.observe member.1 records
  let records ←
    if (pairing.any fun p => p.canJoinCluster member.1) ∧
        (records.get? member.1).any (fun record => record.trust ≠ .authorized) then
      NodeRegistry.promote member.1 records
    else .ok records
  NodeRegistry.hydrateMembership member.1 (registryRole member.2) coordinatorId records

/-- The loop over the members. -/
def hydrateMembers (pairing : Option Pairing) (coordinatorId : NodeId) :
    List (NodeId × RoleAssignment) → NodeRegistry → Option PyError × NodeRegistry
  | [], records => (none, records)
  | member :: rest, records =>
      match hydrateMember pairing coordinatorId member records with
      | .error e => (some e, records)
      | .ok records => hydrateMembers pairing coordinatorId rest records

/-- Source: `runtime/core.py`, `_hydrate_registry_membership`.  Kind: D -/
def hydrateRegistryMembership : PyM Runtime Unit := do
  let rt ← get
  match rt.registry with
  | none => return
  | some records =>
      let (error, records) := hydrateMembers rt.pairing rt.cluster.coordinatorId
        rt.cluster.assignments.dict.entries records
      set { rt with registry := some records }
      match error with
      | some e => throw e
      | none => return

/-- Source: `runtime/core.py`, `_refresh_live_grants`.  Kind: D -/
def refreshLiveGrants : Handler Runtime Unit := do
  let rt ← Handler.ofPyM get
  if rt.service then
    Handler.updateGrants rt.wireGrants
    Handler.updateClusterCapabilityGrants rt.clusterCapabilityGrants
  else return

/-- `self._service.update_cluster_fence(...)` with the cluster's own term.
Source: `remote/role_operations.py`, `_persist_failover_state`.  Kind: D -/
def updateFence : Handler Runtime Unit := do
  let rt ← Handler.ofPyM get
  if rt.service then
    Handler.updateClusterFence rt.cluster.clusterId rt.cluster.epoch.epoch
      rt.cluster.epoch.fencingToken
  else return

/-- A runtime whose cluster was loaded, or created when no document exists: the failover
coordinator starts from the cluster's own role state.
Source: `runtime/core.py`, `_load_persisted_state`.  Kind: D -/
def load (identity : NodeId) (persisted : Option ClusterState) (fresh : Except PyError Cluster)
    (pairing : Pairing) (connections : Finset NodeId) : Except PyError Runtime := do
  let cluster ← match persisted with
    | some state => Cluster.fromState identity state
    | none => fresh
  let failover ← RoleState.new cluster.assignments.values (some cluster.epoch)
    cluster.promotionEpochs cluster.capabilityGrants
  return {
    identity := some identity
    pairing := some pairing
    cluster := cluster
    clusterCapabilityGrants := match persisted with
      | some state => state.roles.capabilityGrants
      | none => []
    failover := failover
    registry := some (hydrateMembers (some pairing) cluster.coordinatorId
      cluster.assignments.dict.entries (NodeRegistry.new identity)).2
    clusterStore := true
    persists := true
    service := false
    connections := some connections }

end Runtime

end ExpraConnect
