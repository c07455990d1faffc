import ExpraConnect.Remote.Fence
import ExpraConnect.Runtime.Replicas

/-!
# A joiner and its coordinator

After `join_cluster` the joiner should obey the coordinator that admitted it.  The join writes the
cluster facade; it installs no fence in the service, keeps no assignment but the joiner's own, and
leaves the runtime's grants as they were.

* `Runtime.JoinAgreed`: the coordinator's requests pass, requests at the previous fence do not, and
  the two copies of the grants agree;
* `join_agreed_iff`: that is so exactly when there was nothing left for the join to switch.
-/

namespace ExpraConnect

open ExpraConnect.Lib

/-! ## Requests at a fence -/

/-- The fence of a cluster. -/
def Cluster.fence (c : Cluster) : FenceValues := ⟨c.clusterId, c.epoch.epoch, c.epoch.fencingToken⟩

/-- The fence of an invite. -/
def InviteRecord.fence (i : InviteRecord) : FenceValues := ⟨i.clusterId, i.epoch, i.fencingToken⟩

/-- The fields of a request or a response have the values of a fence. -/
def FenceValues.In (f : FenceValues) (fields : Fields) : Prop :=
  getField "cluster_id" fields = some (.str f.clusterId) ∧
    getField "epoch" fields = some (.int f.epoch) ∧
      getField "fencing_token" fields = some (.str f.fencingToken)

/-- Two texts compare equal if and only if they are one ASCII text.  Kind: L -/
theorem compareDigest_eq_true_iff {a b : String} :
    compareDigest a b = .ok true ↔ a = b ∧ isAscii a = true := by
  unfold compareDigest
  constructor
  · intro h
    split at h
    · rename_i hascii
      rw [Bool.and_eq_true] at hascii
      exact ⟨by simpa using h, hascii.1⟩
    · cases h
  · rintro ⟨rfl, hascii⟩
    simp [hascii]

/-- The digest comparison of an authorisation.  Kind: L -/
theorem digestCheck_eq_ok {a b : String} {e : PyError} {u : Unit} :
    (do
      raiseIf (!(← compareDigest a b)) e : Except PyError Unit) = .ok u ↔
        a = b ∧ isAscii a = true := by
  rw [← compareDigest_eq_true_iff]
  simp only [Except.bind_eq_ok, Except.raiseIf_eq_ok]
  constructor
  · rintro ⟨same, hsame, hne⟩
    have : same = true := by simpa using hne
    rw [hsame, this]
  · intro h
    exact ⟨true, h, by simp⟩

/-- `Cluster.authorize` accepts the fence of the cluster.  Kind: L -/
theorem Cluster.authorize_eq_ok_iff {c : Cluster} {f : FenceValues} {u : Unit} :
    c.authorize f.clusterId f.epoch f.fencingToken = .ok u ↔
      f = c.fence ∧ isAscii f.fencingToken = true := by
  unfold Cluster.authorize
  rw [Except.bind_eq_ok]
  simp only [Except.raiseIf_eq_ok, not_or, not_not, digestCheck_eq_ok]
  obtain ⟨id, n, token⟩ := f
  simp only [Cluster.fence, FenceValues.mk.injEq]
  constructor
  · rintro ⟨_, ⟨hid, hn⟩, htoken, hascii⟩
    exact ⟨⟨hid, hn, htoken⟩, hascii⟩
  · rintro ⟨⟨hid, hn, htoken⟩, hascii⟩
    exact ⟨(), ⟨hid, hn⟩, htoken, hascii⟩

/-- The service has installed no value that differs from the fence's. -/
def Fence.Allows (installed : Fence) (f : FenceValues) : Prop :=
  (∀ id, installed.clusterId = some id → id = f.clusterId) ∧
    (∀ n, installed.coordinatorEpoch = some n → n = f.epoch) ∧
      ∀ token, installed.fencingToken = some token → f.fencingToken = token ∧
        isAscii f.fencingToken = true

/-- `_verify_role_fence` passes a request at a fence that the installed one allows.  Kind: L -/
theorem checkRoleFence_eq_ok_iff {H : Type} {cfg : ServiceConfig H} {request : RemoteRequest}
    {installed : Fence} {f : FenceValues} {u : Unit} (hf : f.In request.params) :
    checkRoleFence cfg request installed = .ok u ↔ installed.Allows f := by
  obtain ⟨hid, hn, htoken⟩ := hf
  obtain ⟨id, n, token⟩ := installed
  unfold checkRoleFence Fence.Allows
  simp only [hid, hn, htoken, textOf, Option.bind_some, Value.asStr?, Option.any_some,
    Value.equalsInt, Except.bind_eq_ok, Except.raiseIf_eq_ok]
  have hid' : (¬id.any (fun i => decide (some f.clusterId ≠ some i)) = true) ↔
      ∀ i, id = some i → i = f.clusterId := by
    cases id with
    | none => simp
    | some i =>
        simp only [Option.any_some, decide_eq_true_eq, not_not, Option.some.injEq, forall_eq']
        exact eq_comm
  have hn' : (¬n.any (fun m => !decide (f.epoch = m)) = true) ↔ ∀ m, n = some m → m = f.epoch := by
    cases n with
    | none => simp
    | some m =>
        simp only [Option.any_some, Bool.not_eq_true', decide_eq_false_iff_not, not_not,
          Option.some.injEq, forall_eq']
        exact eq_comm
  rw [hid', hn']
  cases token with
  | none => simp
  | some t =>
      simp only [Option.some.injEq, forall_eq', exists_const]
      exact and_congr_right fun _ => and_congr_right fun _ => digestCheck_eq_ok

/-! ## What a join does -/

/-- A field that reads as a text is that text.  Kind: L -/
theorem getField_of_asStr? {key text : String} {fields : Fields}
    (h : (getField key fields).bind Value.asStr? = some text) :
    getField key fields = some (.str text) := by
  obtain ⟨x, hx, htext⟩ := Option.bind_eq_some_iff.mp h
  cases x with
  | str s =>
      cases htext
      exact hx
  | _ => cases htext

/-- A field that reads as an integer is that integer.  Kind: L -/
theorem getField_of_asInt? {key : String} {n : ℤ} {fields : Fields}
    (h : (getField key fields).bind Value.asInt? = some n) :
    getField key fields = some (.int n) := by
  obtain ⟨x, hx, hint⟩ := Option.bind_eq_some_iff.mp h
  cases x with
  | int m =>
      cases hint
      exact hx
  | _ => cases hint

namespace Runtime

/-- The response that a join accepted has the values of the invite.  Kind: L -/
theorem fence_of_checkJoinResponse {identity : NodeId} {invite : InviteRecord} {response : Value}
    {fields : Fields} (h : checkJoinResponse identity invite response = .ok fields) :
    invite.fence.In fields ∧
      getField "coordinator_id" fields = some (.str invite.coordinatorId) := by
  unfold checkJoinResponse at h
  cases response with
  | dict entries =>
      simp only [Except.bind_eq_ok, Except.raiseIf_eq_ok, not_or, not_not] at h
      obtain ⟨_, ⟨_, _, hid, hcoord, hn, htoken, _⟩, expiry, _, h⟩ := h
      have hfields : entries = fields := by
        cases expiry with
        | none => simp at h
        | some q =>
            simp only [Except.bind_eq_ok, Except.pure_eq_ok] at h
            obtain ⟨_, _, heq⟩ := h
            exact heq
      subst hfields
      exact ⟨⟨getField_of_asStr? hid, getField_of_asInt? hn, getField_of_asStr? htoken⟩,
        getField_of_asStr? hcoord⟩
  | _ => simp at h

/-- A join that returns: the cluster has the invite's fence and no member but the joiner; the
service and the runtime's grants are as they were.  Kind: L -/
theorem run_joinCluster_of_ok {peer : Option NodeId} {invite : InviteRecord} {response : Value}
    {v v' : HostView Runtime} {fields : Fields} {identity : NodeId}
    (hid : v.host.identity = some identity)
    (h : Handler.run (joinCluster peer invite response) v = (.ok fields, v')) :
    invite.fence.In fields ∧ getField "coordinator_id" fields = some (.str invite.coordinatorId) ∧
      (∃ node, NodeId.new invite.coordinatorId = .ok node) ∧ v'.auth = v.auth ∧
      v'.host.cluster.fence = invite.fence ∧
      v'.host.cluster.assignments = Assignments.ofList [RoleAssignment.worker identity] ∧
        v'.host.cluster.capabilityGrants = [] ∧
          v'.host.clusterCapabilityGrants = v.host.clusterCapabilityGrants := by
  obtain ⟨fields', w, hjoin, h⟩ := Handler.run_bind_eq_ok.mp h
  obtain ⟨rt, hstep, rfl⟩ := Handler.run_ofPyM_eq_ok.mp hjoin
  obtain ⟨_, w, hhydrate, h⟩ := Handler.run_bind_eq_ok.mp h
  cases h
  -- what follows the join changes the registry only
  have hafter : v'.auth = v.auth ∧ v'.host.cluster = rt.cluster ∧
      v'.host.clusterCapabilityGrants = rt.clusterCapabilityGrants := by
    obtain ⟨rt', hrun, rfl⟩ := Handler.run_ofPyM_eq_ok.mp hhydrate
    obtain ⟨registry, hreg⟩ := after_hydrateRegistryMembership rt
    have hrt' : rt' = { rt with registry := registry } := by
      rw [← hreg, PyM.after, hrun]
    subst hrt'
    exact ⟨rfl, rfl, rfl⟩
  obtain ⟨hauth, hcluster, hgrants⟩ := hafter
  simp only [joinStep, PyM.get_bind_eq_ok] at hstep
  cases hp : v.host.pairing with
  | none => simp [hp] at hstep
  | some pairing =>
      simp only [hp, hid, PyM.raiseIf_bind_eq_ok, PyM.ofExcept_bind_eq_ok,
        PyM.set_bind_eq_ok] at hstep
      obtain ⟨_, f, hcheck, coordinator, hnode, epoch, hepoch, hsave⟩ := hstep
      obtain ⟨_, s, hsaved, hret⟩ := PyM.bind_eq_ok.mp hsave
      obtain ⟨rfl, rfl⟩ := PyM.pure_eq_ok.mp hret
      rw [saveOr_eq] at hsaved
      split at hsaved
      · cases hsaved
        obtain ⟨hn, _, htoken, _, _⟩ := CoordinatorEpoch.new_eq_ok hepoch
        obtain ⟨hfence, hcoord⟩ := fence_of_checkJoinResponse hcheck
        refine ⟨hfence, hcoord, ⟨coordinator, hnode⟩, hauth, ?_, ?_, ?_, hgrants⟩
        · rw [hcluster]
          simp [Cluster.fence, InviteRecord.fence, hn, htoken]
        · rw [hcluster]
        · rw [hcluster]
      · cases hsaved

end Runtime

/-! ## Agreement -/

/-- A request at a fence passes the service's fence and the cluster's. -/
def Runtime.Passes {H : Type} (cfg : ServiceConfig H) (v : HostView Runtime) (f : FenceValues)
    (request : RemoteRequest) : Prop :=
  checkRoleFence cfg request v.auth.fence = .ok () ∧
    v.host.cluster.authorize f.clusterId f.epoch f.fencingToken = .ok ()

/-- After a join that took the joiner from `v` to `v'`, answered with `fields`, the joiner obeys the
admitting coordinator.  Kind: D -/
structure Runtime.JoinAgreed {H : Type} (cfg : ServiceConfig H) (v v' : HostView Runtime)
    (fields : Fields) : Prop where
  /-- The coordinator's requests at the fence of the response pass, and it is a member. -/
  accepted : ∀ (f : FenceValues) (coordinator : NodeId) (request : RemoteRequest), f.In fields →
    getField "coordinator_id" fields = some (.str coordinator.value) → f.In request.params →
      request.callerNodeId = some coordinator → Runtime.Passes cfg v' f request ∧
        (v'.host.cluster.assignments.get? coordinator).isSome = true
  /-- Requests at the fence before the join do not pass. -/
  rejected : ∀ request : RemoteRequest, v.host.cluster.fence.In request.params →
    ¬Runtime.Passes cfg v' v.host.cluster.fence request
  /-- The runtime's grants, which are saved, are the cluster's. -/
  grants : v'.host.clusterCapabilityGrants = v'.host.cluster.capabilityGrants

/-- There is nothing for the join to switch but the cluster's own fence.  Kind: D -/
structure Runtime.NothingToSwitch (v : HostView Runtime) (invite : InviteRecord)
    (identity : NodeId) : Prop where
  /-- The joiner's own assignment is the coordinator's. -/
  member : invite.coordinatorId = identity.value
  /-- The service has no other fence installed. -/
  fence : v.auth.fence.Allows invite.fence
  /-- The token can be compared. -/
  ascii : isAscii invite.fencingToken = true
  /-- The fence before was another one. -/
  moved : v.host.cluster.fence ≠ invite.fence
  /-- The runtime has no grants. -/
  grants : v.host.clusterCapabilityGrants = []

/-- A role request of `caller` at a fence. -/
def FenceValues.request (f : FenceValues) (caller : NodeId) : RemoteRequest where
  nodeId := caller
  callerNodeId := some caller
  op := Op.workerSnapshot.value
  params := [("cluster_id", .str f.clusterId), ("epoch", .int f.epoch),
    ("fencing_token", .str f.fencingToken)]
  requestId := "r"
  nonce := "n"
  timestamp := 0
  sessionId := none
  resume := false
  connectionGeneration := none

/-- A request at a fence carries the fence.  Kind: L -/
theorem FenceValues.in_request (f : FenceValues) (caller : NodeId) :
    f.In (f.request caller).params := ⟨rfl, rfl, rfl⟩

/-- A request carries one fence.  Kind: L -/
theorem FenceValues.eq_of_in {f g : FenceValues} {fields : Fields} (hf : f.In fields)
    (hg : g.In fields) : f = g := by
  obtain ⟨hf₁, hf₂, hf₃⟩ := hf
  obtain ⟨hg₁, hg₂, hg₃⟩ := hg
  obtain ⟨id, n, token⟩ := f
  cases hf₁.symm.trans hg₁
  cases hf₂.symm.trans hg₂
  cases hf₃.symm.trans hg₃
  rfl

/-- The assignments of a lone worker have that worker.  Kind: L -/
theorem isSome_get?_worker {identity node : NodeId} :
    ((Assignments.ofList [RoleAssignment.worker identity]).get? node).isSome = true ↔
      node = identity := by
  rw [Assignments.get?_ofList (by simp [RoleAssignment.worker])]
  by_cases h : identity = node
  · simp [RoleAssignment.worker, h]
  · simp [RoleAssignment.worker, h, Ne.symm h]

/-- **Agreement after a join.**  The joiner obeys the coordinator that admitted it exactly when
there was nothing to switch but the cluster's own fence.
Source: `remote/role_operations.py`, `RuntimeClusterOperations.join_cluster`.  Kind: P -/
theorem join_agreed_iff {H : Type} (cfg : ServiceConfig H) {peer : Option NodeId}
    {invite : InviteRecord} {response : Value} {v v' : HostView Runtime} {fields : Fields}
    {identity : NodeId} (hid : v.host.identity = some identity)
    (h : Handler.run (Runtime.joinCluster peer invite response) v = (.ok fields, v')) :
    Runtime.JoinAgreed cfg v v' fields ↔ Runtime.NothingToSwitch v invite identity := by
  obtain ⟨hfields, hcoord, ⟨node, hnode⟩, hauth, hfence, hmembers, hnone, hgrants⟩ :=
    Runtime.run_joinCluster_of_ok hid h
  have hvalue : invite.coordinatorId = node.value := NodeId.value_of_new hnode
  have hpasses : ∀ (f : FenceValues) (request : RemoteRequest), f.In request.params →
      (Runtime.Passes cfg v' f request ↔
        v.auth.fence.Allows f ∧ f = invite.fence ∧ isAscii f.fencingToken = true) := by
    intro f request hf
    unfold Runtime.Passes
    rw [checkRoleFence_eq_ok_iff hf, Cluster.authorize_eq_ok_iff, hauth, hfence]
  have hmember : ∀ coordinator,
      (v'.host.cluster.assignments.get? coordinator).isSome = true ↔ coordinator = identity := by
    intro coordinator
    rw [hmembers]
    exact isSome_get?_worker
  constructor
  · rintro ⟨haccepted, hrejected, hsame⟩
    obtain ⟨hpass, hsome⟩ := haccepted invite.fence node (invite.fence.request node) hfields
      (by rw [hcoord, hvalue]) (FenceValues.in_request _ _) rfl
    obtain ⟨hallows, _, hascii⟩ := (hpasses _ _ (FenceValues.in_request _ _)).mp hpass
    refine ⟨?_, hallows, hascii, fun hmoved => ?_, ?_⟩
    · rw [hvalue, (hmember node).mp hsome]
    · have hprev := FenceValues.in_request v.host.cluster.fence node
      refine hrejected _ hprev ((hpasses _ _ hprev).mpr ⟨?_, hmoved, ?_⟩)
      · rw [hmoved]
        exact hallows
      · rw [hmoved]
        exact hascii
    · rw [← hgrants, hsame, hnone]
  · rintro ⟨hself, hallows, hascii, hmoved, hempty⟩
    refine ⟨fun f coordinator request hf hc hreq _ => ?_, fun request hprev hpass => ?_, ?_⟩
    · cases FenceValues.eq_of_in hf hfields
      rw [hcoord] at hc
      have hnode' : coordinator = identity := by
        apply NodeId.ext_value
        rw [← hself]
        simpa using hc.symm
      exact ⟨(hpasses _ _ hreq).mpr ⟨hallows, rfl, hascii⟩, (hmember _).mpr hnode'⟩
    · exact hmoved ((hpasses _ _ hprev).mp hpass).2.1
    · rw [hgrants, hempty, hnone]

/-! ## A worker that joined and does not obey -/

namespace JoinAgreement

/-- The admitting coordinator. -/
def coordinator : NodeId := .named "coord"

/-- The joiner. -/
def worker : NodeId := .named "worker"

/-- The joiner's runtime with a cluster of its own, paired with the coordinator. -/
def fresh : Except PyError Runtime :=
  Runtime.load worker none (Cluster.create worker "own" "own-fence" 0)
    ⟨Dict.empty, {coordinator}⟩ ∅

/-- The runtime as it is called, with its own fence installed in the service. -/
def start (rt : Runtime) : HostView Runtime :=
  ⟨⟨true, Dict.empty, [], 0, ⟨some "own", some 1, some "own-fence"⟩⟩, 10, rt⟩

/-- The token hash of the sample is not empty.  Kind: L -/
theorem tokenHash_ne : "#token" ≠ "" := by decide

/-- The coordinator's invite. -/
def invite : InviteRecord :=
  ⟨"#token", "worker", 300, "token", "cluster", "coord", 4, "fence", tokenHash_ne⟩

/-- The coordinator's answer. -/
def response : Value :=
  .dict [("target_node_id", .str "worker"), ("expires_at", .float (.finite 300)),
    ("cluster_id", .str "cluster"), ("coordinator_id", .str "coord"), ("epoch", .int 4),
    ("fencing_token", .str "fence")]

/-- The sample join returns.  Kind: L -/
theorem exists_join :
    ∃ v v' fields, v.host.Loaded ∧ v.host.identity = some worker ∧
      Handler.run (Runtime.joinCluster (some coordinator) invite response) v =
        (.ok fields, v') := by
  have hrun : fresh.toOption.any (fun rt => decide (rt.identity = some worker) &&
      (Handler.run (Runtime.joinCluster (some coordinator) invite response)
        (start rt)).1.toOption.isSome) = true := by decide +kernel
  cases hl : fresh with
  | error e => simp [hl, Except.toOption] at hrun
  | ok rt =>
      simp only [hl, Except.toOption, Option.any_some, Bool.and_eq_true, decide_eq_true_eq] at hrun
      obtain ⟨hid, hjoin⟩ := hrun
      rcases hj : Handler.run (Runtime.joinCluster (some coordinator) invite response)
        (start rt) with ⟨e | fields, v'⟩
      · simp [hj] at hjoin
      · exact ⟨start rt, v', fields, ⟨_, _, _, _, _, rt, hl, rfl⟩, hid, hj⟩

/-- A join that agrees exactly when it had nothing to switch.  Kind: P -/
theorem join_agreed_iff_sample :
    ∃ v v' fields, v.host.Loaded ∧
      Handler.run (Runtime.joinCluster (some coordinator) invite response) v = (.ok fields, v') ∧
        ∀ cfg : ServiceConfig Unit, Runtime.JoinAgreed cfg v v' fields ↔
          Runtime.NothingToSwitch v invite worker := by
  obtain ⟨v, v', fields, hload, hid, hjoin⟩ := exists_join
  exact ⟨v, v', fields, hload, hjoin, fun cfg => join_agreed_iff cfg hid hjoin⟩

/-- The coordinator that admitted the worker is no member of the joined cluster. -/
theorem join_not_agreed :
    ∃ v v' fields, v.host.Loaded ∧
      Handler.run (Runtime.joinCluster (some coordinator) invite response) v = (.ok fields, v') ∧
        ∀ cfg : ServiceConfig Unit, ¬Runtime.JoinAgreed cfg v v' fields := by
  obtain ⟨v, v', fields, hload, hid, hjoin⟩ := exists_join
  refine ⟨v, v', fields, hload, hjoin, fun cfg hagreed => ?_⟩
  obtain ⟨hfields, hcoord, _, _, _, hmembers, _⟩ := Runtime.run_joinCluster_of_ok hid hjoin
  obtain ⟨_, hsome⟩ := hagreed.accepted invite.fence coordinator
    (invite.fence.request coordinator) hfields hcoord (FenceValues.in_request _ _) rfl
  rw [hmembers, isSome_get?_worker] at hsome
  exact absurd hsome (by decide)

end JoinAgreement

end ExpraConnect
