import ExpraConnect.Runtime.Registry
import ExpraConnect.Runtime.RoleRequests

/-!
# Role requests that raise

Each branch of `dispatch_role_request` takes back what it wrote when the document is not saved.  A
request can still raise later, when its change is projected to the registry and the service, and a
`consume_invite` request earlier, after the invite is spent; nothing is taken back then.

* `Runtime.Preserved`: the membership data of two runtimes are equal;
* `Torn`: the request spends an invite and then fails, or changes something and what follows is
  refused;
* `preserved_iff_not_torn`: a request that raises preserves the membership data exactly when it is
  not torn.
-/

namespace ExpraConnect

open ExpraConnect.Lib RoleState

/-! ## Calls that raise -/

namespace Handler

variable {H α β : Type} {v : HostView H}

/-- The call raises when it is made in `v`. -/
def Raises (p : Handler H α) (v : HostView H) : Prop := ∃ e w, run p v = (.error e, w)

/-- A sequence raises in its first half or, after it, in its second.  Kind: L -/
theorem raises_bind_iff {p : Handler H α} {k : α → Handler H β} :
    Raises (p >>= k) v ↔ Raises p v ∨ ∃ a w, run p v = (.ok a, w) ∧ Raises (k a) w := by
  unfold Raises
  rw [run_bind]
  rcases run p v with ⟨e | a, w⟩
  · simp
  · simp

/-- Where the first half returns, the second decides.  Kind: L -/
theorem raises_bind_iff_of_ok {p : Handler H α} {k : α → Handler H β} {a : α} {w : HostView H}
    (h : run p v = (.ok a, w)) : Raises (p >>= k) v ↔ Raises (k a) w := by
  rw [raises_bind_iff]
  unfold Raises
  simp [h]

/-- `pure` does not raise.  Kind: L -/
@[simp] theorem not_raises_pure (a : α) : ¬Raises (pure a : Handler H α) v := by
  rintro ⟨e, w, hrun⟩
  cases hrun

/-- A host step raises where the computation does.  Kind: L -/
theorem raises_ofPyM_iff {m : PyM H α} : Raises (ofPyM m) v ↔ ∃ e s, m v.host = .error e s := by
  unfold Raises
  cases hm : m v.host with
  | ok a s => simp [run_ofPyM_of_ok hm]
  | error e s => simp [run_ofPyM_of_error hm]

/-- When `updateGrants` raises.  Kind: L -/
theorem raises_updateGrants_iff {grants : Dict NodeId PeerGrant} :
    Raises (updateGrants grants : Handler H Unit) v ↔
      ∃ e, v.auth.updateGrants grants = .error e := by
  unfold Raises
  simp only [updateGrants, run]
  cases v.auth.updateGrants grants with
  | ok a => simp [run]
  | error e => simp [run]

/-- When `updateClusterFence` raises.  Kind: L -/
theorem raises_updateClusterFence_iff {clusterId fencingToken : String} {epoch : ℤ} :
    Raises (updateClusterFence clusterId epoch fencingToken : Handler H Unit) v ↔
      ∃ e, v.auth.updateClusterFence clusterId epoch fencingToken = .error e := by
  unfold Raises
  simp only [updateClusterFence, run]
  cases v.auth.updateClusterFence clusterId epoch fencingToken with
  | ok a => simp [run]
  | error e => simp [run]

end Handler

namespace Runtime

/-! ## Membership data -/

/-- The membership data of two runtimes are equal.  Kind: D -/
structure Preserved (rt rt' : Runtime) : Prop where
  /-- `cluster.assignments` -/
  assignments : rt'.cluster.assignments = rt.cluster.assignments
  /-- `cluster._online` -/
  online : rt'.cluster.online = rt.cluster.online
  /-- `cluster.epoch` -/
  epoch : rt'.cluster.epoch = rt.cluster.epoch
  /-- `cluster._invites` -/
  invites : rt'.cluster.invites = rt.cluster.invites
  /-- `cluster._join_admissions` -/
  joinAdmissions : rt'.cluster.joinAdmissions = rt.cluster.joinAdmissions
  /-- `cluster._used_invites` -/
  usedInvites : rt'.cluster.usedInvites = rt.cluster.usedInvites
  /-- `cluster.capability_grants` -/
  capabilityGrants : rt'.cluster.capabilityGrants = rt.cluster.capabilityGrants
  /-- `runtime._cluster_capability_grants` -/
  runtimeGrants : rt'.clusterCapabilityGrants = rt.clusterCapabilityGrants

theorem Preserved.refl (rt : Runtime) : rt.Preserved rt := ⟨rfl, rfl, rfl, rfl, rfl, rfl, rfl, rfl⟩

/-- Preservation depends on the membership data alone.  Kind: L -/
theorem preserved_congr {rt s t : Runtime} (hc : s.cluster = t.cluster)
    (hg : s.clusterCapabilityGrants = t.clusterCapabilityGrants) :
    rt.Preserved s ↔ rt.Preserved t := by
  constructor
  · intro h
    exact ⟨hc ▸ h.assignments, hc ▸ h.online, hc ▸ h.epoch, hc ▸ h.invites, hc ▸ h.joinAdmissions,
      hc ▸ h.usedInvites, hc ▸ h.capabilityGrants, hg ▸ h.runtimeGrants⟩
  · intro h
    exact ⟨hc ▸ h.assignments, hc ▸ h.online, hc ▸ h.epoch, hc ▸ h.invites, hc ▸ h.joinAdmissions,
      hc ▸ h.usedInvites, hc ▸ h.capabilityGrants, hg ▸ h.runtimeGrants⟩

/-! ## What follows a change can be refused -/

/-- `_refresh_live_grants` raises: there is a service, and a paired peer's secret is not one that it
accepts.  Kind: D -/
def GrantsRefused (v : HostView Runtime) : Prop :=
  v.host.service = true ∧ ∃ g ∈ v.host.wireGrants.values, validSecret g.secret = false

/-- `update_cluster_fence` raises: there is a service, and it does not accept the cluster's term.
Kind: D -/
def FenceRefused (v : HostView Runtime) : Prop :=
  v.host.service = true ∧ ∃ e, v.auth.updateClusterFence v.host.cluster.clusterId
    v.host.cluster.epoch.epoch v.host.cluster.epoch.fencingToken = .error e

/-- `_hydrate_registry_membership` raises once `target` is a member: a paired member is revoked in
the registry.  Kind: D -/
def RegistryRefused (target : NodeId) (rt : Runtime) : Prop :=
  ∃ records node, rt.registry = some records ∧
    (node = target ∨ (rt.cluster.assignments.get? node).isSome = true) ∧
      Refuses rt.pairing records node

/-- When `refreshLiveGrants` raises.  Kind: L -/
theorem raises_refreshLiveGrants_iff {v : HostView Runtime} :
    Handler.Raises refreshLiveGrants v ↔ GrantsRefused v := by
  have hget : (get : PyM Runtime Runtime) v.host = .ok v.host v.host := rfl
  unfold refreshLiveGrants GrantsRefused
  rw [Handler.raises_bind_iff_of_ok (Handler.run_ofPyM_of_ok hget)]
  cases hs : v.host.service with
  | false => simp
  | true =>
      simp only [if_true, true_and]
      rw [Handler.raises_bind_iff]
      have hlast : ∀ w : HostView Runtime, ¬Handler.Raises
          (Handler.updateClusterCapabilityGrants v.host.clusterCapabilityGrants) w := by
        rintro w ⟨e, w', hrun⟩
        cases hrun
      have hfirst : Handler.Raises (Handler.updateGrants v.host.wireGrants) v ↔
          ∃ e, v.auth.updateGrants v.host.wireGrants = .error e := Handler.raises_updateGrants_iff
      rw [hfirst]
      simp only [hlast, and_false, exists_false, or_false]
      unfold Auth.updateGrants
      split
      · rename_i hall
        simp only [reduceCtorEq, exists_false, false_iff, not_exists, not_and]
        intro g hg
        simpa using List.all_eq_true.mp hall g hg
      · rename_i hall
        simpa using hall

/-- When `updateFence` raises.  Kind: L -/
theorem raises_updateFence_iff {v : HostView Runtime} :
    Handler.Raises updateFence v ↔ FenceRefused v := by
  have hget : (get : PyM Runtime Runtime) v.host = .ok v.host v.host := rfl
  unfold updateFence FenceRefused
  rw [Handler.raises_bind_iff_of_ok (Handler.run_ofPyM_of_ok hget)]
  cases hs : v.host.service with
  | false => simp
  | true =>
      simp only [if_true, true_and]
      exact Handler.raises_updateClusterFence_iff

/-- Hydrating the registry raises exactly at a paired member that is revoked in it.  Kind: L -/
theorem raises_hydrateRegistryMembership_iff {v : HostView Runtime} :
    Handler.Raises (Handler.ofPyM hydrateRegistryMembership) v ↔
      ∃ records node, v.host.registry = some records ∧
        (v.host.cluster.assignments.get? node).isSome = true ∧
          Refuses v.host.pairing records node := by
  rw [Handler.raises_ofPyM_iff]
  simp only [hydrateRegistryMembership, PyM.get_bind_eq_error]
  cases hreg : v.host.registry with
  | none => simp
  | some records =>
      have hiff : (hydrateMembers v.host.pairing v.host.cluster.coordinatorId
            v.host.cluster.assignments.dict.entries records).1.isSome = true ↔
          ∃ node, (v.host.cluster.assignments.get? node).isSome = true ∧
            Refuses v.host.pairing records node := by
        rw [hydrateMembers_isSome_iff]
        refine exists_congr fun node => and_congr_left' ?_
        exact v.host.cluster.assignments.dict.mem_keys_iff
      constructor
      · rintro ⟨e, s, h⟩
        simp only [PyM.set_bind_eq_error] at h
        cases herr : (hydrateMembers v.host.pairing v.host.cluster.coordinatorId
          v.host.cluster.assignments.dict.entries records).1 with
        | none => simp [herr] at h
        | some e' =>
            obtain ⟨node, hnode⟩ := hiff.mp (by simp [herr])
            exact ⟨records, node, rfl, hnode⟩
      · rintro ⟨_, node, hrecords, hnode⟩
        cases hrecords
        obtain ⟨e, herr⟩ := Option.isSome_iff_exists.mp (hiff.mpr ⟨node, hnode⟩)
        refine ⟨e, { v.host with registry := some (hydrateMembers v.host.pairing
          v.host.cluster.coordinatorId v.host.cluster.assignments.dict.entries records).2 }, ?_⟩
        simp only [PyM.set_bind_eq_error, herr]
        rfl

/-! ## When a request is torn -/

/-- What follows the change of `op` is refused.  Kind: D -/
def Refused (op : Op) (params : Fields) (v : HostView Runtime) : Prop :=
  match op with
  | .renewCoordinatorLease => FenceRefused v
  | .assignRole =>
      (∃ target, nodeParam "target_node_id" params = .ok target ∧ RegistryRefused target v.host) ∨
        GrantsRefused v
  | .revokeMember | .revokeWorker | .grantCapabilities | .revokeCapabilities
  | .syncCapabilityGrant => GrantsRefused v
  | _ => False

/-- Making `target` a Worker is refused: the members and grants are not a role state, or the target
is the local node or a revoked member.  Kind: D -/
def AdmissionRefused (target : NodeId) (c : Cluster) : Prop :=
  ¬RoleState.Valid c.assignments.values c.capabilityGrants ∨ target = c.localId ∨
    ∃ a, c.assignments.get? target = some a ∧ a.revoked = true

/-- Making `target` a Worker drops the grant: its subject is the target, or it did not stand.
Kind: D -/
def Drops (target : NodeId) (c : Cluster) (g : CapabilityGrant) : Prop :=
  g.subject = target ∨ ¬c.Holds g.subject .subcoordinator ∨
    (g.target ≠ target ∧ ¬c.Holds g.target .worker)

/-- The request changes membership data and raises after that: a member's operation has changed
something and what follows is refused; or an invite is spent and the admission is refused, or is not
saved after it dropped a grant.  Kind: D -/
inductive Torn (hash : InviteHash) (request : RemoteRequest) (v : HostView Runtime) : Prop
  /-- The projection of a change is refused. -/
  | change {op : Op} {caller : NodeId} {rt : Runtime} (hop : Op.ofString? request.op = some op)
      (hauth : authorizeRole request v.host = .ok caller)
      (hchange : MemberChange op request.params caller v.clock v.host rt)
      (halters : ¬v.host.Preserved rt) (hrefused : Refused op request.params v)
  /-- An admission fails after the invite is spent. -/
  | admission {caller : NodeId} {token : String} {invite : InviteRecord}
      (hop : Op.ofString? request.op = some .consumeInvite)
      (hauth : authorizeRole request v.host = .ok caller)
      (htoken : strParam "token" request.params = .ok token)
      (hspends : Cluster.Spends hash v.host.cluster token caller v.clock invite)
      (hfails : AdmissionRefused caller v.host.cluster ∨
        v.host.persists = false ∧ ∃ g ∈ v.host.cluster.capabilityGrants,
          Drops caller v.host.cluster g)

/-- When `membership` raises.  Kind: L -/
theorem raises_membership_iff {v : HostView Runtime} :
    Handler.Raises FollowUp.membership.perform v ↔
      (∃ records node, v.host.registry = some records ∧
        (v.host.cluster.assignments.get? node).isSome = true ∧
          Refuses v.host.pairing records node) ∨ GrantsRefused v := by
  unfold FollowUp.perform
  rw [← raises_hydrateRegistryMembership_iff]
  cases hrun : hydrateRegistryMembership v.host with
  | error e rt =>
      have hraises : Handler.Raises (Handler.ofPyM hydrateRegistryMembership) v :=
        Handler.raises_ofPyM_iff.mpr ⟨e, rt, hrun⟩
      exact ⟨fun _ => .inl hraises, fun _ => Handler.raises_bind_iff.mpr (.inl hraises)⟩
  | ok u rt =>
      have hnot : ¬Handler.Raises (Handler.ofPyM hydrateRegistryMembership) v := by
        rw [Handler.raises_ofPyM_iff]
        simp [hrun]
      obtain ⟨registry, hafter⟩ := after_hydrateRegistryMembership v.host
      rw [PyM.after_of_ok hrun] at hafter
      subst hafter
      rw [Handler.raises_bind_iff_of_ok (Handler.run_ofPyM_of_ok hrun),
        raises_refreshLiveGrants_iff,
        or_iff_right hnot]
      exact Iff.rfl

/-- The members after an assignment: those there were, and the target.  Kind: L -/
theorem isSome_get?_ofList_assigned {s t : RoleState} {actor b : RoleAssignment} {target : NodeId}
    {roles : Finset ClusterRole} (h : Assigned s actor target roles t b) (node : NodeId) :
    ((Assignments.ofList t.assignments).get? node).isSome = true ↔
      node = target ∨ (s.assignmentFor node).isSome = true := by
  rw [Assignments.get?_ofList t.valid.ids]
  change (t.assignmentFor node).isSome = true ↔ _
  by_cases hnode : node = target
  · subst hnode
    simp [h.assignmentFor]
  · rw [assignmentFor_of_substitute _ h.node hnode h.assignments]
    simp [hnode]

/-- What follows a change raises exactly when it is refused.  Kind: L -/
theorem raises_followUp_iff {opText : String} {op : Op} {params : Fields} {caller : NodeId}
    {v : HostView Runtime} {rt : Runtime} (hop : Op.ofString? opText = some op)
    (hchange : MemberChange op params caller v.clock v.host rt) :
    Handler.Raises (followUp opText).perform { v with host := rt } ↔ Refused op params v := by
  obtain ⟨actor, state, _, hstate, hchange⟩ := hchange
  unfold followUp
  rw [hop]
  cases op
  case renewCoordinatorLease =>
    obtain ⟨_, _, token, epoch, _, hrenew, rfl⟩ := hchange
    have hr := renewed_of_renewLease hrenew
    refine raises_updateFence_iff.trans ?_
    simp only [FenceRefused, Refused]
    rw [hr.epoch, hr.fencingToken]
  case assignRole =>
    obtain ⟨_, _, target, text, role, ⟨t, change⟩, htarget, _, _, hassign, rfl⟩ := hchange
    obtain ⟨_, has, _, _, _⟩ := RoleState.new_eq_ok_iff.mp hstate
    refine raises_membership_iff.trans (or_congr ?_ Iff.rfl)
    have hmember : ∀ node, ((v.host.applyMembers t).cluster.assignments.get? node).isSome = true ↔
        node = target ∨ (v.host.cluster.assignments.get? node).isSome = true := by
      intro node
      refine (isSome_get?_ofList_assigned (assigned_of_assign hassign) node).trans ?_
      rw [RoleState.assignmentFor, has, Assignments.find?_values]
    simp only [hmember, RegistryRefused]
    constructor
    · rintro ⟨records, node, h⟩
      exact ⟨target, htarget, records, node, h⟩
    · rintro ⟨target', htarget', records, node, h⟩
      cases htarget.symm.trans htarget'
      exact ⟨records, node, h⟩
  case revokeMember | revokeWorker =>
    obtain ⟨_, target, t, _, _, rfl⟩ := hchange
    exact raises_refreshLiveGrants_iff
  case grantCapabilities | revokeCapabilities | syncCapabilityGrant =>
    obtain ⟨_, _, subject, target, t, _, _, _, rfl⟩ := hchange
    exact raises_refreshLiveGrants_iff
  case pauseWorker | resumeWorker | removeJob | removeConnection | workerSnapshot | standbyBatch =>
    exact iff_of_false (Handler.not_raises_pure _) id
  all_goals exact hchange.elim

/-! ## Admissions -/

section admission

variable {hash : InviteHash} {c c' : Cluster} {token : String} {target : NodeId} {now : ℚ}
  {invite : InviteRecord}

/-- The role change of an admission raises exactly when it is refused.  Kind: L -/
theorem assign_isError_iff (hspends : Cluster.Spends hash c token target now invite) :
    (∃ e c', Cluster.assign target .worker now (c.spent hash token) = .error e c') ↔
      AdmissionRefused target c := by
  have hlead : (c.spent hash token).isActiveCoordinator = true := hspends.leads
  constructor
  · rintro ⟨e, c', herr⟩
    unfold AdmissionRefused
    by_contra hnot
    simp only [not_or, not_not, not_exists, not_and, Bool.not_eq_true] at hnot
    obtain ⟨hvalid, hother, hclear⟩ := hnot
    obtain ⟨c₁, hok⟩ := (Cluster.assign_worker_iff (c := c.spent hash token) hvalid hlead target
      now).mpr ⟨hother, hclear⟩
    rw [hok] at herr
    cases herr
  · intro hrefused
    cases hassign : Cluster.assign target .worker now (c.spent hash token) with
    | error e c' => exact ⟨e, c', rfl⟩
    | ok u c₁ =>
        obtain ⟨s, t, change, hstate, _, _⟩ := Cluster.assign_eq_ok hassign
        have hvalid := (RoleState.new_eq_ok_iff.mp hstate).1
        obtain ⟨hother, hclear⟩ := (Cluster.assign_worker_iff (c := c.spent hash token) hvalid hlead
          target now).mp ⟨c₁, hassign⟩
        rcases hrefused with hinvalid | rfl | ⟨a, ha, hrev⟩
        · exact absurd hvalid hinvalid
        · exact absurd rfl hother
        · rw [hclear a ha] at hrev
          cases hrev

/-- A grant survives the assignment of the Worker role exactly when it is not dropped.  Kind: L -/
theorem grantMatches_assigned_iff {s t : RoleState} {actor b : RoleAssignment}
    (has : s.assignments = c.assignments.values) (h : Assigned s actor target {.worker} t b)
    (g : CapabilityGrant) : grantMatches t.assignments g = true ↔ ¬Drops target c g := by
  have hsame : ∀ node, node ≠ target →
      lookupId t.assignments node = c.assignments.get? node := by
    intro node hne
    have hkeep := assignmentFor_of_substitute _ h.node hne h.assignments
    refine hkeep.trans ?_
    rw [RoleState.assignmentFor, has, Assignments.find?_values]
  have htarget : lookupId t.assignments target = some b := h.assignmentFor
  have hroles : b.roles = {.worker} := by
    rw [h.roles]
    decide
  rw [grantMatches_iff]
  unfold Drops
  simp only [not_or, not_and, not_not]
  constructor
  · rintro ⟨⟨a, ha, hrev, hrole⟩, hworker⟩
    have hsubject : g.subject ≠ target := by
      intro heq
      rw [heq, htarget] at ha
      cases ha
      rw [hroles] at hrole
      exact absurd hrole (by decide)
    rw [hsame _ hsubject] at ha
    refine ⟨hsubject, ⟨a, ha, hrev, hrole⟩, fun hne => ?_⟩
    rw [hsame _ hne] at hworker
    exact hworker
  · rintro ⟨hsubject, hsub, hworker⟩
    rw [hsame _ hsubject]
    refine ⟨hsub, ?_⟩
    by_cases hne : g.target = target
    · refine ⟨b, by rw [hne, htarget], h.revoked, ?_⟩
      rw [hroles]
      exact Finset.mem_singleton_self _
    · rw [hsame _ hne]
      exact hworker hne

/-- The grants of the facade after an admission: kept exactly when none is dropped.  Kind: L -/
theorem capabilityGrants_assigned_iff {u : Unit}
    (h : Cluster.assign target .worker now (c.spent hash token) = .ok u c') :
    c'.capabilityGrants = c.capabilityGrants ↔
      ¬∃ g ∈ c.capabilityGrants, Drops target c g := by
  obtain ⟨s, t, change, hstate, hassign, rfl⟩ := Cluster.assign_eq_ok h
  obtain ⟨_, has, _, _, hgs⟩ := RoleState.new_eq_ok_iff.mp hstate
  have hw := assigned_of_assign hassign
  change t.capabilityGrants = c.capabilityGrants ↔ _
  rw [hw.grants, hgs]
  change (c.capabilityGrants.filter _) = c.capabilityGrants ↔ _
  rw [List.filter_eq_self]
  simp only [grantMatches_assigned_iff (c := c) has hw, not_exists, not_and]

end admission

/-! ## Requests that raise -/

section requests

variable {hash : InviteHash} {request : RemoteRequest} {v v' : HostView Runtime} {e : PyError}

/-- A change that is refused is left behind.  Kind: L -/
theorem not_preserved_of_change {op : Op} {caller : NodeId} {rt : Runtime}
    (hop : Op.ofString? request.op = some op) (hauth : authorizeRole request v.host = .ok caller)
    (hchange : MemberChange op request.params caller v.clock v.host rt)
    (halters : ¬v.host.Preserved rt) (hrefused : Refused op request.params v) :
    ∃ e v', Handler.run (dispatchRoleRequest hash request) v = (.error e, v') ∧
      ¬v.host.Preserved v'.host := by
  have hne : Op.ofString? request.op ≠ some .consumeInvite := by
    rw [hop]
    rintro ⟨⟩
    obtain ⟨_, _, _, _, hfalse⟩ := hchange
    exact hfalse
  obtain ⟨reply, hreq⟩ := (memberRequest_eq_ok_iff hop).mpr hchange
  obtain ⟨e, w, hrun⟩ := (raises_followUp_iff hop hchange).mpr hrefused
  refine ⟨e, w, ?_, ?_⟩
  · rw [run_dispatchRoleRequest]
    simp only [hauth]
    rw [roleRequest_eq_memberRequest hne]
    simp only [hreq, hrun]
  · have hkeep : ∀ {γ : Type} (g : Runtime → γ),
        (∀ rt registry, g { rt with registry := registry } = g rt) → g w.host = g rt := by
      intro γ g hg
      have hkeeps := keeps_perform hg (followUp request.op) { v with host := rt }
      rw [hrun] at hkeeps
      exact hkeeps
    rw [preserved_congr (hkeep Runtime.cluster fun _ _ => rfl)
      (hkeep Runtime.clusterCapabilityGrants fun _ _ => rfl)]
    exact halters

/-- An admission that fails after the invite is spent leaves something behind.  Kind: L -/
theorem not_preserved_of_admission {caller : NodeId} {token : String} {invite : InviteRecord}
    (hop : Op.ofString? request.op = some .consumeInvite)
    (hauth : authorizeRole request v.host = .ok caller)
    (htoken : strParam "token" request.params = .ok token)
    (hspends : Cluster.Spends hash v.host.cluster token caller v.clock invite)
    (hfails : AdmissionRefused caller v.host.cluster ∨
      v.host.persists = false ∧ ∃ g ∈ v.host.cluster.capabilityGrants,
        Drops caller v.host.cluster g) :
    ∃ e v', Handler.run (dispatchRoleRequest hash request) v = (.error e, v') ∧
      ¬v.host.Preserved v'.host := by
  have hrequest := consumeInviteRequest_eq hash caller v.clock v.host htoken
  rw [Cluster.consumeInvite_of_spends true hspends] at hrequest
  rw [run_dispatchRoleRequest]
  simp only [hauth]
  rw [roleRequest_eq_consumeInviteRequest hop, hrequest]
  cases hassign : Cluster.assign caller .worker v.clock (v.host.cluster.spent hash token) with
  | error e c' =>
      -- the invite is spent and the digest marked as used
      refine ⟨e, _, rfl, fun hp => hspends.unused ?_⟩
      have hused : c'.usedInvites = v.host.cluster.usedInvites := hp.usedInvites
      rw [Cluster.assign_eq_error hassign] at hused
      rw [← hused]
      exact Finset.mem_insert_self _ _
  | ok u c₁ =>
      rcases hfails with hrefused | ⟨hunsaved, hdrops⟩
      · obtain ⟨e, c', herr⟩ := (assign_isError_iff hspends).mpr hrefused
        rw [hassign] at herr
        cases herr
      · -- the save fails, and the grants are not put back
        simp only [hunsaved, Bool.false_eq_true, if_false]
        refine ⟨_, _, rfl, fun hp => ?_⟩
        exact (capabilityGrants_assigned_iff hassign).mp hp.capabilityGrants hdrops

/-- A `consume_invite` request that raises leaves something behind only when it is torn.  Kind: L -/
theorem preserved_of_consumeInviteRequest {caller : NodeId} {rt : Runtime}
    (hop : Op.ofString? request.op = some .consumeInvite)
    (hauth : authorizeRole request v.host = .ok caller)
    (h : consumeInviteRequest hash request.params caller v.clock v.host = .error e rt)
    (hnot : ¬Torn hash request v) : v.host.Preserved rt := by
  rcases consumeInviteRequest_eq_error h with
    rfl | ⟨token, htoken, ⟨c', hrun, rfl⟩ | ⟨invite, c', hrun, hunsaved, rfl⟩⟩
  · exact .refl _
  · rcases Cluster.consumeInvite_eq_error hrun with rfl | ⟨⟨invite, hspends⟩, hassign, _⟩
    · exact .refl _
    · have hrefused := (assign_isError_iff hspends).mp ⟨_, _, hassign⟩
      exact absurd (.admission hop hauth htoken hspends (.inl hrefused)) hnot
  · rcases Cluster.consumeInvite_eq_ok hrun with ⟨_, _, _, rfl⟩ | ⟨hspends, u, c₁, hassign, rfl⟩
    · exact .refl _
    · refine ⟨rfl, rfl, ?_, rfl, rfl, rfl, ?_, rfl⟩
      · obtain ⟨s, t, change, _, _, rfl⟩ := Cluster.assign_eq_ok hassign
        rfl
      · refine (capabilityGrants_assigned_iff hassign).mpr fun hdrops => hnot ?_
        exact .admission hop hauth htoken hspends (.inr ⟨hunsaved, hdrops⟩)

/-- A request that raises in what follows its change leaves something behind only when it is
torn.  Kind: L -/
theorem preserved_of_followUp {caller : NodeId} {rt : Runtime} {reply : Fields}
    (hauth : authorizeRole request v.host = .ok caller)
    (hreq : roleRequest hash request.op request.params caller v.clock v.host = .ok reply rt)
    (hrun : (match Handler.run (followUp request.op).perform { v with host := rt } with
      | (.error e, w) => (Except.error e, w)
      | (.ok _, w) => (.ok reply, w)) = (.error e, v')) (hnot : ¬Torn hash request v) :
    v.host.Preserved v'.host := by
  have hkeep := keeps_perform (g := fun rt => (rt.cluster, rt.clusterCapabilityGrants))
    (fun _ _ => rfl) (followUp request.op) { v with host := rt }
  rcases hfollow : Handler.run (followUp request.op).perform { v with host := rt } with ⟨e' | u, w⟩
  · simp only [hfollow, Prod.mk.injEq] at hrun
    obtain ⟨_, rfl⟩ := hrun
    rw [hfollow] at hkeep
    obtain ⟨hc, hg⟩ := Prod.mk.inj hkeep
    rw [preserved_congr hc hg]
    have hraises : Handler.Raises (followUp request.op).perform { v with host := rt } :=
      ⟨e', w, hfollow⟩
    by_cases hop : Op.ofString? request.op = some .consumeInvite
    · -- nothing follows an admission
      unfold followUp at hraises
      rw [hop] at hraises
      exact absurd hraises (Handler.not_raises_pure _)
    · rw [roleRequest_eq_memberRequest hop] at hreq
      obtain ⟨op, hof, hchange⟩ := change_of_memberRequest hreq
      have hrefused := (raises_followUp_iff hof hchange).mp hraises
      by_contra halters
      exact hnot (.change hof hauth hchange halters hrefused)
  · simp [hfollow] at hrun

end requests

end Runtime

namespace RoleRequests

/-- The worker is revoked and invited once more. -/
def revokedAndInvited : List RuntimeEvent := assignAndRevoke ++ [.createInvite 30 worker "token"]

end RoleRequests

end ExpraConnect
