import ExpraConnect.Cluster.RoleWrites
import ExpraConnect.Remote.RoleRequestFacts
import ExpraConnect.Runtime.Replicas

/-!
# Capability grants over the life of a runtime

A runtime holds its grants twice: `_cluster_capability_grants`, which the requests start from and
the document saves, and `Cluster.capability_grants`.  The requests for members write both.  The
operations of the facade (`assign`, `revoke`, and through `assign` the admission of an invite) write
the second one only.

* `GrantEvent.apply`: requests, failover operations and the facade's operations, whether they return
  or raise;
* `GrantEvent.Clean`: the event does not make the facade drop a grant;
* `grantsSound_of_clean`: in a run of clean events the two copies agree, every grant joins an active
  Subcoordinator to an active Worker, and a grant whose pair lost that standing comes back only
  through a new request for it;
* `GrantRuns.admission_of_a_standby_splits_the_grants`: a Subcoordinator that redeems an invite
  loses its grants in the facade and keeps them in the runtime.
-/

namespace ExpraConnect

open ExpraConnect.Lib RoleState

/-! ## Grants of the facade -/

namespace Cluster

variable {H : InviteHash} {c c' : Cluster}

/-- Lookups in the members that a role state writes are its own.  Kind: L -/
theorem granted_ofList {s : RoleState} {gs : List CapabilityGrant} (h : Granted s.assignments gs) :
    Granted (Assignments.ofList s.assignments).values gs := by
  have hget : ∀ node, lookupId (Assignments.ofList s.assignments).values node =
      lookupId s.assignments node := fun node =>
    ((Assignments.ofList s.assignments).find?_values node).trans
      (Assignments.get?_ofList s.valid.ids node)
  intro g hg
  obtain ⟨hmatch, hne⟩ := h g hg
  refine ⟨?_, hne⟩
  rw [grantMatches_iff] at hmatch ⊢
  rw [hget, hget]
  exact hmatch

/-- The grants are those of `c`, and each joins an active Subcoordinator to an active Worker. -/
structure KeepsGrants (c c' : Cluster) : Prop where
  /-- No grant is dropped or added. -/
  grants : c'.capabilityGrants = c.capabilityGrants
  /-- Every grant stands. -/
  granted : Granted c'.assignments.values c'.capabilityGrants

theorem KeepsGrants.refl (h : Granted c.assignments.values c.capabilityGrants) :
    KeepsGrants c c := ⟨rfl, h⟩

/-- The grants were kept, so they fit the members that are put back.  Kind: L -/
theorem KeepsGrants.putBack (h : KeepsGrants c c')
    (hs : Granted c.assignments.values c.capabilityGrants) :
    KeepsGrants c (Runtime.putBack c c') :=
  ⟨h.grants, h.grants.symm ▸ hs⟩

/-- `assign` keeps the grants held.  Kind: L -/
theorem keepsGrants_of_assign {node : NodeId} {role : ClusterRole} {now : ℚ} {u : Unit}
    (h : Cluster.assign node role now c = .ok u c')
    (hs : Granted c.assignments.values c.capabilityGrants)
    (hclean : role = .worker → ∀ g ∈ c.capabilityGrants, g.subject ≠ node) : KeepsGrants c c' := by
  obtain ⟨s, t, change, hstate, hassign, rfl⟩ := assign_eq_ok h
  obtain ⟨_, has, _, _, hgs⟩ := RoleState.new_eq_ok_iff.mp hstate
  rw [← has, ← hgs] at hs
  rw [← hgs] at hclean
  have hw := RoleState.assigned_of_assign hassign
  have hgrants := hw.grants_eq hs hclean
  have hgranted : Granted t.assignments t.capabilityGrants := by
    rw [hw.grants]
    exact hs.prune
  exact ⟨hgrants.trans hgs, granted_ofList hgranted⟩

/-- The local assignment is the local node's.  Kind: L -/
theorem localAssignment_nodeId (c : Cluster) : c.localAssignment.nodeId = some c.localId := by
  unfold localAssignment
  cases hget : c.assignments.get? c.localId with
  | none => rfl
  | some a => exact c.assignments.keyed _ ((Dict.get?_eq_some_iff _).mp hget)

/-- `revoke` keeps the grants held.  Kind: L -/
theorem keepsGrants_of_revoke {node : NodeId} {u : Unit} (h : Cluster.revoke node c = .ok u c')
    (hs : Granted c.assignments.values c.capabilityGrants)
    (hclean : node ≠ c.localId →
      ∀ g ∈ c.capabilityGrants, g.subject ≠ node ∧ g.target ≠ node) : KeepsGrants c c' := by
  rcases revoke_eq_ok h with rfl | ⟨s, t, hstate, hrevoke, rfl⟩
  · exact .refl hs
  obtain ⟨_, has, _, _, hgs⟩ := RoleState.new_eq_ok_iff.mp hstate
  rw [← has, ← hgs] at hs
  obtain ⟨b, hw⟩ := RoleState.revoked_of_revoke hrevoke
  have hnode : node ≠ c.localId := by
    obtain ⟨actorId, hctl, hne⟩ := hw.control
    have hid := (RoleState.control_eq_ok_iff.mp hctl).1
    rw [localAssignment_nodeId] at hid
    rw [Option.some.inj hid]
    exact hne
  have hgrants : t.capabilityGrants = s.capabilityGrants := by
    rw [hw.grants]
    refine List.filter_eq_self.mpr fun g hg => ?_
    obtain ⟨hsub, htgt⟩ := hclean hnode g (hgs ▸ hg)
    simp [Ne.symm hsub, Ne.symm htgt]
  exact ⟨hgrants.trans hgs, granted_ofList (hw.granted hs)⟩

/-- Consuming an invite keeps the grants, whatever comes of it, unless it admits the subject of
one.  Kind: L -/
theorem keepsGrants_after_consumeInvite {token : String} {target : NodeId} {now : ℚ}
    (allowRetry : Bool) (hs : Granted c.assignments.values c.capabilityGrants)
    (hclean : ∀ invite, Spends H c token target now invite →
      ∀ g ∈ c.capabilityGrants, g.subject ≠ target) :
    KeepsGrants c ((Cluster.consumeInvite H token target now allowRetry).after c) := by
  cases hrun : Cluster.consumeInvite H token target now allowRetry c with
  | ok invite c' =>
      rw [PyM.after_of_ok hrun]
      rcases consumeInvite_eq_ok hrun with ⟨_, _, _, rfl⟩ | ⟨hspends, u, c₁, hassign, rfl⟩
      · exact .refl hs
      · have hkeeps := keepsGrants_of_assign (c := c.spent H token) hassign hs
          fun _ => hclean invite hspends
        exact ⟨hkeeps.grants, hkeeps.granted⟩
  | error e c' =>
      rw [PyM.after_of_error hrun]
      rcases consumeInvite_eq_error hrun with rfl | ⟨_, _, rfl⟩
      · exact .refl hs
      · exact ⟨rfl, hs⟩

/-- The checks of `join` hold, and the coordinator admits the node.  Kind: D -/
structure Enters (H : InviteHash) (admission : NodeId → Bool) (invite : InviteRecord) (now : ℚ)
    (c coordinator : Cluster) : Prop where
  /-- The coordinator is paired. -/
  paired : admission coordinator.localId = true
  /-- The local membership is active. -/
  active : c.localAssignment.revoked = false ∧ c.localAssignment.paused = false
  /-- The node is not a member already. -/
  elsewhere : ¬(c.clusterId = coordinator.clusterId ∧ c.isMember c.localId = true)
  /-- The coordinator consumes the invite. -/
  admitted : ∃ i d, consumeInvite H invite.token c.localId now true coordinator = .ok i d

/-- A `join` writes nothing to the joining cluster unless its checks hold; then the cluster has
other members and the grants it had.  Kind: L -/
theorem after_join (admission : NodeId → Bool) (invite : InviteRecord) (now : ℚ)
    (coordinator : Cluster) :
    ((join H admission invite now).after (c, coordinator)).1 = c ∨
      (Enters H admission invite now c coordinator ∧
        ((join H admission invite now).after (c, coordinator)).1.capabilityGrants =
          c.capabilityGrants) := by
  let P (p : Cluster × Cluster) : Prop := p.1 = c ∨
    (Enters H admission invite now c coordinator ∧ p.1.capabilityGrants = c.capabilityGrants)
  unfold join
  simp only [PyM.after_get_bind]
  refine PyM.after_raiseIf_bind (P := P) (.inl rfl) fun hpaired => ?_
  refine PyM.after_raiseIf_bind (P := P) (.inl rfl) fun hactive => ?_
  refine PyM.after_raiseIf_bind (P := P) (.inl rfl) fun helse => ?_
  cases hrun : consumeInvite H invite.token c.localId now true coordinator with
  | error e d => exact .inl rfl
  | ok i d =>
      refine .inr ⟨⟨by simpa using hpaired, ?_, helse, i, d, hrun⟩, rfl⟩
      simpa using hactive

end Cluster

/-! ## Grants of the runtime -/

namespace Runtime

variable {rt rt' : Runtime}

/-- The invariant: the two copies of the grants agree, every grant joins an active Subcoordinator to
another, active Worker, and the failover coordinator's role state has none.  Kind: D -/
structure GrantsHeld (rt : Runtime) : Prop where
  /-- The two copies agree. -/
  agree : rt.cluster.capabilityGrants = rt.clusterCapabilityGrants
  /-- Every grant stands. -/
  granted : Granted rt.cluster.assignments.values rt.clusterCapabilityGrants
  /-- The failover coordinator holds no grant. -/
  idle : rt.failover.capabilityGrants = []

/-- Grants are held by what is held.  Kind: L -/
theorem GrantsHeld.of_held (h : rt.GrantsHeld) (hheld : rt'.held = rt.held) : rt'.GrantsHeld := by
  obtain ⟨hc, hg, hf⟩ : rt'.cluster = rt.cluster ∧
      rt'.clusterCapabilityGrants = rt.clusterCapabilityGrants ∧ rt'.failover = rt.failover := by
    simpa [held] using hheld
  exact ⟨by rw [hc, hg, h.agree], by rw [hc, hg]; exact h.granted, by rw [hf, h.idle]⟩

/-- The facade's operations that keep its grants keep the invariant.  Kind: L -/
theorem GrantsHeld.of_keepsGrants (h : rt.GrantsHeld) {c : Cluster}
    (hc : Cluster.KeepsGrants rt.cluster c) : { rt with cluster := c }.GrantsHeld := by
  refine ⟨hc.grants.trans h.agree, ?_, h.idle⟩
  have hgranted := hc.granted
  rw [hc.grants, h.agree] at hgranted
  exact hgranted

/-- A role state with no grant at all can be written to both copies.  Kind: L -/
theorem GrantsHeld.of_nil (hc : rt.cluster.capabilityGrants = [])
    (hg : rt.clusterCapabilityGrants = []) (hf : rt.failover.capabilityGrants = []) :
    rt.GrantsHeld := by
  refine ⟨hc.trans hg.symm, ?_, hf⟩
  rw [hg]
  exact fun g hmem => absurd hmem List.not_mem_nil

/-- The operations that make a grant. -/
def grantingOps : List Op := [.grantCapabilities, .syncCapabilityGrant]

/-- The request is one to grant capabilities to the pair. -/
structure GrantsPair (op : Op) (params : Fields) (key : NodeId × NodeId) : Prop where
  /-- The operation makes a grant -/
  op : op ∈ grantingOps
  /-- for the subject -/
  subject : nodeParam "subject_node_id" params = .ok key.1
  /-- on the target. -/
  target : nodeParam "target_node_id" params = .ok key.2

/-- Applying a role state keeps the grants held.  Kind: L -/
theorem GrantsHeld.applyMembers (h : rt.GrantsHeld) {t : RoleState}
    (ht : Granted t.assignments t.capabilityGrants) : (rt.applyMembers t).GrantsHeld :=
  ⟨rfl, Cluster.granted_ofList ht, h.idle⟩

section change

variable {op : Op} {params : Fields} {now : ℚ} {actor : RoleAssignment} {state t : RoleState}
  {target : NodeId}

/-- A transition keeps every grant standing and makes none.  Kind: L -/
theorem granted_of_transition (h : transition op state actor target = .ok t)
    (hs : Granted state.assignments state.capabilityGrants) :
    Granted t.assignments t.capabilityGrants ∧ t.capabilityGrants ⊆ state.capabilityGrants := by
  have hreplaced : (∃ b, Replaced state target t b) →
      Granted t.assignments t.capabilityGrants ∧
        t.capabilityGrants ⊆ state.capabilityGrants := by
    rintro ⟨b, hb⟩
    exact ⟨hb.granted hs, fun g hg => hb.grants ▸ hg⟩
  unfold transition at h
  split at h
  · exact hreplaced (replaced_of_pause h)
  · exact hreplaced (replaced_of_resume h)
  · exact hreplaced (replaced_of_job h)
  · obtain ⟨b, hb⟩ := revoked_of_revoke h
    refine ⟨hb.granted hs, fun g hg => ?_⟩
    rw [hb.grants] at hg
    exact (List.mem_filter.mp hg).1

/-- A change of the grants keeps the members; a grant that is new joins an active Subcoordinator to
another, active Worker, and was asked for.  Kind: L -/
theorem granted_of_capabilityUpdate {subject : NodeId}
    (hsubject : nodeParam "subject_node_id" params = .ok subject)
    (htarget : nodeParam "target_node_id" params = .ok target) (hop : op ∈ capabilityOps)
    (h : capabilityUpdate op params state actor subject target now = .ok t)
    (hs : Granted state.assignments state.capabilityGrants) :
    Granted state.assignments t.capabilityGrants ∧
      ∀ g ∈ t.capabilityGrants, g ∈ state.capabilityGrants ∨ GrantsPair op params g.key := by
  unfold capabilityUpdate at h
  split at h
  · obtain ⟨_, hgrants⟩ := grants_of_revokeCapabilities h
    have hsub : t.capabilityGrants ⊆ state.capabilityGrants := by
      rw [hgrants]
      exact List.filter_subset_self _
    exact ⟨hs.mono hsub, fun g hg => .inl (hsub hg)⟩
  · rename_i hne
    have hgranting : op ∈ grantingOps := by
      simp only [capabilityOps, List.mem_cons, List.not_mem_nil, or_false] at hop
      rcases hop with rfl | rfl | rfl
      · decide
      · exact absurd rfl hne
      · decide
    simp only [Except.bind_eq_ok] at h
    obtain ⟨_, _, _, _, _, _, hgrant⟩ := h
    obtain ⟨_, grant, hkey, hmatch, hdiff, hgrants⟩ := granted_of_grantCapabilities hgrant
    have hcases : ∀ g ∈ t.capabilityGrants, g ∈ state.capabilityGrants ∨ g = grant := by
      intro g hg
      rw [hgrants] at hg
      rcases List.mem_append.mp hg with hold | hnew
      · exact .inl (List.mem_filter.mp hold).1
      · exact .inr (List.mem_singleton.mp hnew)
    constructor
    · intro g hg
      rcases hcases g hg with hold | rfl
      · exact hs g hold
      · refine ⟨hmatch, ?_⟩
        obtain ⟨hsub, htgt⟩ : g.subject = subject ∧ g.target = target := by
          simpa [CapabilityGrant.key] using hkey
        rw [hsub, htgt]
        exact hdiff
    · intro g hg
      rcases hcases g hg with hold | rfl
      · exact .inl hold
      · refine .inr ⟨hgranting, ?_, ?_⟩
        · rw [hkey]
          exact hsubject
        · rw [hkey]
          exact htarget

end change

/-- The change of a member's request keeps the invariant, and a grant that it adds was asked for,
for a pair that it may join.  Kind: L -/
theorem GrantsHeld.memberChange (h : rt.GrantsHeld) {op : Op} {params : Fields} {caller : NodeId}
    {now : ℚ} (hchange : MemberChange op params caller now rt rt') :
    rt'.GrantsHeld ∧ ∀ g ∈ rt'.clusterCapabilityGrants,
      g ∈ rt.clusterCapabilityGrants ∨ (GrantsPair op params g.key ∧ rt.cluster.Joins g.key) := by
  obtain ⟨actor, state, _, hstate, hchange⟩ := hchange
  obtain ⟨_, has, _, _, hgs⟩ := RoleState.new_eq_ok_iff.mp hstate
  have hs : Granted state.assignments state.capabilityGrants := by
    rw [has, hgs]
    exact h.granted
  have hmembers : ∀ t : RoleState, Granted t.assignments t.capabilityGrants →
      t.capabilityGrants ⊆ state.capabilityGrants → rt' = rt.applyMembers t →
        rt'.GrantsHeld ∧ ∀ g ∈ rt'.clusterCapabilityGrants, g ∈ rt.clusterCapabilityGrants ∨
          (GrantsPair op params g.key ∧ rt.cluster.Joins g.key) := by
    rintro t ht hsub rfl
    exact ⟨h.applyMembers ht, fun g hg => .inl (hgs ▸ hsub hg)⟩
  cases op
  case renewCoordinatorLease =>
    obtain ⟨_, _, token, epoch, _, _, rfl⟩ := hchange
    exact ⟨⟨h.agree, h.granted, h.idle⟩, fun g hg => .inl hg⟩
  case assignRole =>
    obtain ⟨_, _, target, text, role, ⟨t, change⟩, _, _, _, hassign, rfl⟩ := hchange
    have hw := assigned_of_assign hassign
    have ht : Granted t.assignments t.capabilityGrants := by
      rw [hw.grants]
      exact hs.prune
    refine hmembers t ht (fun g hg => ?_) rfl
    rw [hw.grants] at hg
    exact (List.mem_filter.mp hg).1
  case revokeMember | revokeWorker | pauseWorker | resumeWorker | removeJob =>
    obtain ⟨_, target, t, _, htrans, hrt⟩ := hchange
    obtain ⟨ht, hsub⟩ := granted_of_transition htrans hs
    exact hmembers t ht hsub hrt
  case removeConnection =>
    obtain ⟨target, _, _, rfl⟩ := hchange
    exact ⟨⟨h.agree, h.granted, h.idle⟩, fun g hg => .inl hg⟩
  case grantCapabilities | revokeCapabilities | syncCapabilityGrant =>
    obtain ⟨_, _, subject, target, t, hsubject, htarget, hup, rfl⟩ := hchange
    obtain ⟨ht, hnew⟩ := granted_of_capabilityUpdate hsubject htarget (by decide) hup hs
    rw [has] at ht
    refine ⟨⟨rfl, ht, h.idle⟩, fun g hg => ?_⟩
    rcases hnew g hg with hold | hpair
    · exact .inl (hgs ▸ hold)
    · exact .inr ⟨hpair, Cluster.grantMatches_values_iff.mp (ht g hg).1⟩
  case workerSnapshot | standbyBatch =>
    subst hchange
    exact ⟨h, fun g hg => .inl hg⟩
  all_goals exact hchange.elim

/-- An operation of the failover coordinator keeps the invariant and makes no grant, provided that
its candidates have none.  Kind: L -/
theorem GrantsHeld.commitFrom {α : Type} {f : Runtime → Except PyError (Option RoleState × α)}
    {v : HostView Runtime} (h : v.host.GrantsHeld)
    (hf : ∀ candidate a, f v.host = .ok (some candidate, a) → candidate.capabilityGrants = []) :
    (Handler.run (Runtime.commitFrom f) v).2.host.GrantsHeld ∧
      (Handler.run (Runtime.commitFrom f) v).2.host.clusterCapabilityGrants ⊆
        v.host.clusterCapabilityGrants := by
  rcases held_commitFrom f v with hheld | ⟨candidate, a, s, hcand, hs, hheld⟩
  · refine ⟨h.of_held hheld, ?_⟩
    have hgrants : (Handler.run (Runtime.commitFrom f) v).2.host.clusterCapabilityGrants =
        v.host.clusterCapabilityGrants := congrArg (fun p => p.2.1) hheld
    rw [hgrants]
    exact List.Subset.refl _
  · have hnil := hf candidate a hcand
    obtain ⟨hcluster, hgrants, hcopy⟩ :
        (Handler.run (Runtime.commitFrom f) v).2.host.cluster =
            overwrite v.host.cluster candidate ∧
          (Handler.run (Runtime.commitFrom f) v).2.host.clusterCapabilityGrants =
            candidate.capabilityGrants ∧
          (Handler.run (Runtime.commitFrom f) v).2.host.failover = s := by
      simpa only [held, Prod.mk.injEq] using hheld
    rw [hnil] at hgrants
    refine ⟨.of_nil ?_ hgrants ?_, ?_⟩
    · rw [hcluster]
      exact hnil
    · rw [hcopy]
      rcases hs with rfl | rfl
      · exact hnil
      · exact h.idle
    · rw [hgrants]
      exact List.nil_subset _

end Runtime

/-- Dropping an answer does not change what the call leaves.  Kind: L -/
theorem Handler.run_bind_pure_snd {H α β : Type} (p : Handler H α) (b : β) (v : HostView H) :
    (Handler.run (do let _ ← p; return b) v).2 = (Handler.run p v).2 := by
  rw [Handler.run_bind]
  rcases Handler.run p v with ⟨e | a, w⟩
  · rfl
  · rfl

/-- The failover coordinator's operations keep the invariant and make no grant.  Kind: L -/
theorem MembershipOp.grantsHeld (hash : InviteHash) {o : MembershipOp} {v : HostView Runtime}
    (ho : o.ofCoordinator = true) (h : v.host.GrantsHeld) :
    (Handler.run (o.call hash) v).2.host.GrantsHeld ∧
      (Handler.run (o.call hash) v).2.host.clusterCapabilityGrants ⊆
        v.host.clusterCapabilityGrants := by
  cases o with
  | request r => cases ho
  | join peer invite response => cases ho
  | assignRole target role =>
      simp only [call, Handler.run_bind_pure_snd]
      unfold Runtime.assignRole
      rw [Handler.run_clock_bind]
      refine h.commitFrom fun candidate a hf => ?_
      obtain ⟨⟨t, change⟩, hassign, hf⟩ := Except.bind_eq_ok.mp hf
      simp only [Except.pure_eq_ok, Prod.mk.injEq, Option.some.injEq] at hf
      obtain ⟨rfl, _⟩ := hf
      rw [(assigned_of_assign hassign).grants, h.idle]
      rfl
  | revokeMember target =>
      simp only [call, Handler.run_bind_pure_snd]
      refine h.commitFrom fun candidate a hf => ?_
      obtain ⟨t, hrevoke, hf⟩ := Except.bind_eq_ok.mp hf
      simp only [Except.pure_eq_ok, Prod.mk.injEq, Option.some.injEq] at hf
      obtain ⟨rfl, _⟩ := hf
      obtain ⟨b, hb⟩ := revoked_of_revoke hrevoke
      rw [hb.grants, h.idle]
      rfl
  | heartbeat node token now =>
      refine h.commitFrom fun candidate a hf => ?_
      obtain ⟨r, hbeat, hf⟩ := Except.bind_eq_ok.mp hf
      simp only [Except.pure_eq_ok, Prod.mk.injEq] at hf
      obtain ⟨rfl, _⟩ := hf
      rw [FailoverCoordinator.heartbeat_capabilityGrants hbeat, h.idle]
  | promoteIfDue now token =>
      refine h.commitFrom fun candidate a hf => ?_
      obtain ⟨r, hpromote, hf⟩ := Except.bind_eq_ok.mp hf
      simp only [Except.pure_eq_ok, Prod.mk.injEq] at hf
      obtain ⟨rfl, _⟩ := hf
      have hsub := FailoverCoordinator.promoteIfDue_capabilityGrants hpromote
      rw [h.idle] at hsub
      exact List.subset_nil.mp hsub
  | rejoinAsWorker node epoch =>
      simp only [call, Handler.run_bind_pure_snd]
      refine h.commitFrom fun candidate a hf => ?_
      obtain ⟨t, hrejoin, hf⟩ := Except.bind_eq_ok.mp hf
      simp only [Except.pure_eq_ok, Prod.mk.injEq, Option.some.injEq] at hf
      obtain ⟨rfl, _⟩ := hf
      rcases (rejoinAsWorker_writes hrejoin).2 with ⟨rfl, _⟩ | ⟨b, _, _, _, _, hgrants⟩
      · exact h.idle
      · rw [hgrants, h.idle]

/-! ## The life of a runtime -/

/-- What happens to a runtime with grants.
Source: `remote/role_operations.py`, `dispatch_role_request` and `RuntimeClusterOperations`;
`cluster/operations.py`, `Cluster`.  Kind: D -/
inductive GrantEvent where
  /-- `dispatch_role_request(runtime, request)`, at a reading of the cluster's clock. -/
  | request (clock : ℚ) (request : RemoteRequest)
  /-- An operation of the failover coordinator. -/
  | failover (clock : ℚ) (op : MembershipOp) (hop : op.ofCoordinator = true)
  /-- `create_invite(target)`, with the token that is drawn. -/
  | createInvite (clock : ℚ) (target : NodeId) (token : String)
  /-- `cluster.consume_invite(token, target, allow_retry=...)` -/
  | consumeInvite (clock : ℚ) (token : String) (target : NodeId) (allowRetry : Bool)
  /-- `cluster.assign(node, role)` -/
  | assign (clock : ℚ) (node : NodeId) (role : ClusterRole)
  /-- `cluster.revoke(node)` -/
  | revoke (node : NodeId)
  /-- `cluster.join(invite, coordinator, pairing=admission)` -/
  | join (clock : ℚ) (admission : NodeId → Bool) (invite : InviteRecord) (coordinator : Cluster)
  /-- A change around the runtime. -/
  | surroundings (e : Surroundings)

namespace GrantEvent

variable (hash : InviteHash)

/-- The runtime with another facade. -/
def onFacade (c : Cluster) (v : HostView Runtime) : HostView Runtime :=
  { v with host := { v.host with cluster := c } }

/-- The runtime after an event, whether the operation returns or raises.  Kind: D -/
def apply : GrantEvent → HostView Runtime → HostView Runtime
  | request clock r, v =>
      (Handler.run (Runtime.dispatchRoleRequest hash r) { v with clock := clock }).2
  | failover clock o _, v => (Handler.run (o.call hash) { v with clock := clock }).2
  | createInvite clock target token, v =>
      { v with host := (Runtime.createInvite hash target token clock).after v.host }
  | consumeInvite clock token target allowRetry, v =>
      onFacade ((Cluster.consumeInvite hash token target clock allowRetry).after v.host.cluster) v
  | assign clock node role, v =>
      onFacade ((Cluster.assign node role clock).after v.host.cluster) v
  | revoke node, v => onFacade ((Cluster.revoke node).after v.host.cluster) v
  | join clock admission invite coordinator, v =>
      onFacade
        ((Cluster.join hash admission invite clock).after (v.host.cluster, coordinator)).1 v
  | surroundings e, v => e.around v

/-- The event does not make the facade drop a grant: no invite that is spent admits the subject of a
grant, no Worker role is assigned to one, no node that a grant names is revoked, and no cluster with
grants is left for another one.  Kind: D -/
def Clean : GrantEvent → HostView Runtime → Prop
  | request clock r, v =>
      Op.ofString? r.op = some .consumeInvite → ∀ caller token invite,
        Runtime.authorizeRole r v.host = .ok caller → strParam "token" r.params = .ok token →
          Cluster.Spends hash v.host.cluster token caller clock invite →
            ∀ g ∈ v.host.cluster.capabilityGrants, g.subject ≠ caller
  | consumeInvite clock token target _, v =>
      ∀ invite, Cluster.Spends hash v.host.cluster token target clock invite →
        ∀ g ∈ v.host.cluster.capabilityGrants, g.subject ≠ target
  | assign _ node role, v =>
      v.host.cluster.isActiveCoordinator = true → role = .worker →
        ∀ g ∈ v.host.cluster.capabilityGrants, g.subject ≠ node
  | revoke node, v =>
      v.host.cluster.isActiveCoordinator = true → node ≠ v.host.cluster.localId →
        ∀ g ∈ v.host.cluster.capabilityGrants, g.subject ≠ node ∧ g.target ≠ node
  | join clock admission invite coordinator, v =>
      Cluster.Enters hash admission invite clock v.host.cluster coordinator →
        v.host.cluster.capabilityGrants = []
  | failover _ _ _, _ | createInvite _ _ _, _ | surroundings _, _ => True

/-- The event is a request that grants capabilities to the pair, and it is carried out.  Kind: D -/
def Grants (key : NodeId × NodeId) : GrantEvent → HostView Runtime → Prop
  | request clock r, v =>
      ∃ op caller rt, Op.ofString? r.op = some op ∧ Runtime.authorizeRole r v.host = .ok caller ∧
        Runtime.MemberChange op r.params caller clock v.host rt ∧
          Runtime.GrantsPair op r.params key
  | _, _ => False

end GrantEvent

namespace Runtime

/-- The runtime has a grant for the pair, in one of the two copies. -/
def HasGrant (rt : Runtime) (key : NodeId × NodeId) : Prop :=
  ∃ g ∈ rt.cluster.capabilityGrants ++ rt.clusterCapabilityGrants, g.key = key

/-- A runtime without grants. -/
structure Ungranted (rt : Runtime) : Prop where
  /-- None in the facade, -/
  cluster : rt.cluster.capabilityGrants = []
  /-- none in the runtime, -/
  runtime : rt.clusterCapabilityGrants = []
  /-- and none in the failover coordinator's role state. -/
  failover : rt.failover.capabilityGrants = []

/-- Where grants are held, a grant of the handler is one of the runtime.  Kind: L -/
theorem GrantsHeld.hasGrant_iff {rt : Runtime} (h : rt.GrantsHeld) {key : NodeId × NodeId} :
    rt.HasGrant key ↔ ∃ g ∈ rt.clusterCapabilityGrants, g.key = key := by
  unfold HasGrant
  rw [h.agree]
  simp

/-- A held grant joins two members.  Kind: L -/
theorem GrantsHeld.joins {rt : Runtime} (h : rt.GrantsHeld) {key : NodeId × NodeId}
    (hkey : rt.HasGrant key) : rt.cluster.Joins key := by
  obtain ⟨g, hg, rfl⟩ := h.hasGrant_iff.mp hkey
  exact Cluster.grantMatches_values_iff.mp (h.granted g hg).1

end Runtime

/-- Creating an invite changes nothing but the invites.  Kind: L -/
theorem Runtime.after_createInvite (hash : InviteHash) (target : NodeId) (token : String) (now : ℚ)
    (rt : Runtime) :
    ∃ invites, (Runtime.createInvite hash target token now).after rt =
      { rt with cluster := { rt.cluster with invites := invites } } := by
  have hcluster : ∃ invites, (Cluster.createInvite hash target token now).after rt.cluster =
      { rt.cluster with invites := invites } := by
    unfold Cluster.createInvite
    rw [PyM.after_get_bind]
    let P (c : Cluster) : Prop := ∃ invites, c = { rt.cluster with invites := invites }
    refine PyM.after_raiseIf_bind (P := P) ⟨rt.cluster.invites, rfl⟩ fun _ => ?_
    exact PyM.after_ofExcept_bind (P := P) ⟨rt.cluster.invites, rfl⟩ fun invite _ => ⟨_, rfl⟩
  obtain ⟨invites, hafter⟩ := hcluster
  let P (s : Runtime) : Prop :=
    ∃ invites, s = { rt with cluster := { rt.cluster with invites := invites } }
  unfold Runtime.createInvite
  refine PyM.after_bind (P := P) (fun e s h => ?_) fun invite s h => ?_
  · rw [onCluster_eq] at h
    cases hrun : Cluster.createInvite hash target token now rt.cluster with
    | ok i c' => simp [hrun] at h
    | error e' c' =>
        simp only [hrun, EStateM.Result.error.injEq] at h
        rw [PyM.after_of_error hrun] at hafter
        exact ⟨invites, by rw [← h.2, hafter]⟩
  · rw [onCluster_eq] at h
    cases hrun : Cluster.createInvite hash target token now rt.cluster with
    | error e' c' => simp [hrun] at h
    | ok i c' =>
        simp only [hrun, EStateM.Result.ok.injEq] at h
        obtain ⟨_, rfl⟩ := h
        rw [PyM.after_of_ok hrun] at hafter
        subst hafter
        rw [PyM.after_get_bind]
        exact after_saveOr_bind (P := P) ⟨_, rfl⟩ ⟨_, rfl⟩

namespace GrantEvent

section runs

variable {hash : InviteHash} {v : HostView Runtime}

/-- A clean request keeps the grants held.  Kind: L -/
theorem grantsHeld_request {clock : ℚ} {r : RemoteRequest} (h : v.host.GrantsHeld)
    (hclean : (request clock r).Clean hash v) :
    ((request clock r).apply hash v).host.GrantsHeld ∧
      ∀ g ∈ ((request clock r).apply hash v).host.clusterCapabilityGrants,
        g ∈ v.host.clusterCapabilityGrants ∨
          ((request clock r).Grants g.key v ∧ v.host.cluster.Joins g.key) := by
  obtain ⟨rt', heffect, hkeep⟩ :=
    Runtime.effect_of_dispatchRoleRequest hash r { v with clock := clock }
  have hheld := hkeep _ Runtime.held fun _ _ => rfl
  suffices hrt : rt'.GrantsHeld ∧ ∀ g ∈ rt'.clusterCapabilityGrants,
      g ∈ v.host.clusterCapabilityGrants ∨
        ((request clock r).Grants g.key v ∧ v.host.cluster.Joins g.key) by
    have hgrants : ((request clock r).apply hash v).host.clusterCapabilityGrants =
        rt'.clusterCapabilityGrants := congrArg (fun p => p.2.1) hheld
    rw [hgrants]
    exact ⟨hrt.1.of_held hheld, hrt.2⟩
  cases heffect with
  | nothing => exact ⟨h, fun g hg => .inl hg⟩
  | @change op caller rt' hop hauth hchange =>
      obtain ⟨hheld', hnew⟩ := h.memberChange hchange
      refine ⟨hheld', fun g hg => (hnew g hg).imp_right fun hpair => ?_⟩
      exact ⟨⟨op, caller, rt', hop, hauth, hchange, hpair.1⟩, hpair.2⟩
  | @invite token caller c hop hauth htoken hc =>
      have hgranted := h.granted
      rw [← h.agree] at hgranted
      have hkeeps := Cluster.keepsGrants_after_consumeInvite true hgranted
        fun invite hspends => hclean hop caller token invite hauth htoken hspends
      refine ⟨h.of_keepsGrants ?_, fun g hg => .inl hg⟩
      rcases hc with rfl | rfl
      · exact hkeeps
      · exact hkeeps.putBack hgranted

/-- One clean event keeps the invariant; a grant that it adds was asked for, for a pair that a grant
may join.  Kind: L -/
theorem grantsHeld_apply {e : GrantEvent} (h : v.host.GrantsHeld) (hclean : e.Clean hash v) :
    (e.apply hash v).host.GrantsHeld ∧
      ∀ g ∈ (e.apply hash v).host.clusterCapabilityGrants,
        g ∈ v.host.clusterCapabilityGrants ∨ (e.Grants g.key v ∧ v.host.cluster.Joins g.key) := by
  have hgranted := h.granted
  rw [← h.agree] at hgranted
  cases e with
  | request clock r => exact grantsHeld_request h hclean
  | failover clock o ho =>
      obtain ⟨hheld, hsub⟩ := MembershipOp.grantsHeld hash (v := { v with clock := clock }) ho h
      exact ⟨hheld, fun g hg => .inl (hsub hg)⟩
  | createInvite clock target token =>
      obtain ⟨invites, hrt⟩ := Runtime.after_createInvite hash target token clock v.host
      refine ⟨?_, fun g hg => .inl ?_⟩
      · change ((Runtime.createInvite hash target token clock).after v.host).GrantsHeld
        rw [hrt]
        exact ⟨h.agree, h.granted, h.idle⟩
      · change g ∈ ((Runtime.createInvite hash target token clock).after
          v.host).clusterCapabilityGrants at hg
        rw [hrt] at hg
        exact hg
  | consumeInvite clock token target allowRetry =>
      have hkeeps := Cluster.keepsGrants_after_consumeInvite allowRetry hgranted hclean
      exact ⟨h.of_keepsGrants hkeeps, fun g hg => .inl hg⟩
  | assign clock node role =>
      refine ⟨h.of_keepsGrants ?_, fun g hg => .inl hg⟩
      cases hrun : Cluster.assign node role clock v.host.cluster with
      | ok u c' =>
          rw [PyM.after_of_ok hrun]
          have hlead := Cluster.isActiveCoordinator_of_assign hrun
          exact Cluster.keepsGrants_of_assign hrun hgranted (hclean hlead)
      | error e c' =>
          rw [PyM.after_of_error hrun, Cluster.assign_eq_error hrun]
          exact .refl hgranted
  | revoke node =>
      refine ⟨h.of_keepsGrants ?_, fun g hg => .inl hg⟩
      cases hrun : Cluster.revoke node v.host.cluster with
      | ok u c' =>
          rw [PyM.after_of_ok hrun]
          have hlead := Cluster.isActiveCoordinator_of_revoke hrun
          exact Cluster.keepsGrants_of_revoke hrun hgranted (hclean hlead)
      | error e c' =>
          rw [PyM.after_of_error hrun, Cluster.revoke_eq_error hrun]
          exact .refl hgranted
  | join clock admission invite coordinator =>
      refine ⟨h.of_keepsGrants ?_, fun g hg => .inl hg⟩
      rcases Cluster.after_join (H := hash) (c := v.host.cluster) admission invite clock coordinator
        with hsame | ⟨henter, hgrants⟩
      · rw [hsame]
        exact .refl hgranted
      · refine ⟨hgrants, ?_⟩
        rw [hgrants, hclean henter]
        exact fun g hg => absurd hg List.not_mem_nil
  | surroundings e => exact ⟨⟨h.agree, h.granted, h.idle⟩, fun g hg => .inl hg⟩

end runs

variable (hash : InviteHash)

/-- The runtime after events. -/
def run (events : List GrantEvent) (v : HostView Runtime) : HostView Runtime :=
  events.foldl (fun v e => e.apply hash v) v

/-- Every event of the run is clean in the state it happens in.  Kind: D -/
def CleanRun : List GrantEvent → HostView Runtime → Prop
  | [], _ => True
  | e :: rest, v => e.Clean hash v ∧ CleanRun rest (e.apply hash v)

end GrantEvent

/-- No grant is lost in one copy or comes back.  Kind: D -/
structure GrantsSound (hash : InviteHash) (events : List GrantEvent) (v : HostView Runtime) :
    Prop where
  /-- In every state of the run the two copies agree. -/
  agree : ∀ pre post, events = pre ++ post →
    (GrantEvent.run hash pre v).host.cluster.capabilityGrants =
      (GrantEvent.run hash pre v).host.clusterCapabilityGrants
  /-- In every state of the run a grant joins an active Subcoordinator to an active Worker. -/
  stand : ∀ pre post, events = pre ++ post → ∀ key,
    (GrantEvent.run hash pre v).host.HasGrant key →
      (GrantEvent.run hash pre v).host.cluster.Joins key
  /-- A pair that has lost its standing in one state and has a grant in a later one was granted it
  anew in between, when it had its standing back. -/
  regranted : ∀ pre mid post key, events = pre ++ mid ++ post →
    ¬(GrantEvent.run hash pre v).host.cluster.Joins key →
      (GrantEvent.run hash (pre ++ mid) v).host.HasGrant key →
        ∃ m₁ e m₂, mid = m₁ ++ e :: m₂ ∧
          e.Grants key (GrantEvent.run hash (pre ++ m₁) v) ∧
            (GrantEvent.run hash (pre ++ m₁) v).host.cluster.Joins key

section runs

variable {hash : InviteHash} {v : HostView Runtime}

theorem GrantEvent.run_append (pre post : List GrantEvent) (v : HostView Runtime) :
    run hash (pre ++ post) v = run hash post (run hash pre v) := List.foldl_append

theorem GrantEvent.CleanRun.left_of_append {pre post : List GrantEvent}
    (h : CleanRun hash (pre ++ post) v) : CleanRun hash pre v := by
  induction pre generalizing v with
  | nil => trivial
  | cons e rest ih => exact ⟨h.1, ih h.2⟩

/-- The invariant holds after every part of a clean run, and the rest of the run is clean.
Kind: L -/
theorem GrantEvent.grantsHeld_run {pre post : List GrantEvent} (h : v.host.GrantsHeld)
    (hclean : CleanRun hash (pre ++ post) v) :
    (run hash pre v).host.GrantsHeld ∧ CleanRun hash post (run hash pre v) := by
  induction pre generalizing v with
  | nil => exact ⟨h, hclean⟩
  | cons e rest ih =>
      obtain ⟨he, hrest⟩ := hclean
      exact ih (grantsHeld_apply h he).1 hrest

/-- A pair without a grant that has one after a clean run was granted it on the way.  Kind: L -/
theorem GrantEvent.grants_of_hasGrant {mid : List GrantEvent} {key : NodeId × NodeId}
    (h : v.host.GrantsHeld) (hclean : CleanRun hash mid v) (hnot : ¬v.host.HasGrant key)
    (hhas : (run hash mid v).host.HasGrant key) :
    ∃ m₁ e m₂, mid = m₁ ++ e :: m₂ ∧ e.Grants key (run hash m₁ v) ∧
      (run hash m₁ v).host.cluster.Joins key := by
  induction mid generalizing v with
  | nil => exact absurd hhas hnot
  | cons e rest ih =>
      obtain ⟨he, hrest⟩ := hclean
      obtain ⟨hheld, hnew⟩ := grantsHeld_apply h he
      by_cases hnow : (e.apply hash v).host.HasGrant key
      · -- the first event made the grant
        obtain ⟨g, hg, rfl⟩ := hheld.hasGrant_iff.mp hnow
        rcases hnew g hg with hold | hgrants
        · exact absurd (h.hasGrant_iff.mpr ⟨g, hold, rfl⟩) hnot
        · exact ⟨[], e, rest, rfl, hgrants⟩
      · obtain ⟨m₁, e', m₂, hmid, hgrants⟩ := ih hheld hrest hnow hhas
        exact ⟨e :: m₁, e', m₂, by rw [hmid]; rfl, hgrants⟩

/-- **Grants do not come back by themselves.**  From a runtime without grants, through any clean
run, the two copies of the grants agree, every grant stands, and a pair that lost its standing has a
grant again only after a new request for it.
Source: `remote/role_operations.py`, `dispatch_role_request`; `cluster/operations.py`,
`Cluster._apply_role_state`; `cluster/roles.py`, `_prune_capability_grants`.  Kind: P -/
theorem grantsSound_of_clean (events : List GrantEvent) (hstart : v.host.Ungranted)
    (hclean : GrantEvent.CleanRun hash events v) : GrantsSound hash events v := by
  have h : v.host.GrantsHeld := .of_nil hstart.cluster hstart.runtime hstart.failover
  refine ⟨?_, ?_, ?_⟩
  · rintro pre post rfl
    exact (GrantEvent.grantsHeld_run h hclean).1.agree
  · rintro pre post rfl key hkey
    exact (GrantEvent.grantsHeld_run h hclean).1.joins hkey
  · rintro pre mid post key rfl hlost hhas
    rw [List.append_assoc] at hclean
    obtain ⟨hpre, hrest⟩ := GrantEvent.grantsHeld_run h hclean
    have hmid : GrantEvent.CleanRun hash mid (GrantEvent.run hash pre v) := hrest.left_of_append
    rw [GrantEvent.run_append] at hhas
    obtain ⟨m₁, e, m₂, rfl, hgrants⟩ :=
      GrantEvent.grants_of_hasGrant hpre hmid (fun hold => hlost (hpre.joins hold)) hhas
    rw [← GrantEvent.run_append] at hgrants
    exact ⟨m₁, e, m₂, rfl, hgrants⟩

end runs

/-! ## A Subcoordinator that redeems an invite -/

namespace GrantRuns

open Replicas (coordinator standby start roleRequest)

/-- The coordinator's runtime, just started, paired with a standby and a worker. -/
def fresh : Except PyError Runtime :=
  Runtime.load coordinator none (Cluster.create coordinator "cluster" "fence" 0)
    ⟨Dict.empty, {standby, Cluster.invitedWorker}⟩ ∅

/-- The coordinator assigns a role. -/
def assignment (node role : String) : GrantEvent :=
  .request 10 (roleRequest coordinator "assign_role"
    [("target_node_id", .str node), ("roles", .list [.str role])])

/-- The standby may read the worker's state. -/
def granting : GrantEvent :=
  .request 20 (roleRequest coordinator "grant_capabilities"
    [("subject_node_id", .str "standby"), ("target_node_id", .str "worker"),
      ("permissions", .list [.str "read_state"]), ("expires_at", .int 100)])

/-- A standby and a worker with a grant. -/
def granted : List GrantEvent :=
  [assignment "standby" "subcoordinator", assignment "worker" "worker", granting]

/-- A node is invited and redeems the invite. -/
def admission (node : NodeId) : List GrantEvent :=
  [.createInvite 30 node "token",
    .request 40 (roleRequest node "consume_invite" [("token", .str "token")])]

/-- A new runtime that passes an executable check exists.  Kind: L -/
theorem exists_fresh {p : Runtime → Bool} (h : fresh.toOption.any p = true) :
    ∃ rt : Runtime, rt.Ungranted ∧ p rt = true := by
  obtain ⟨rt, hl, hp⟩ := Except.exists_of_any h
  unfold fresh Runtime.load at hl
  simp only [Except.bind_eq_ok, Except.pure_eq_ok] at hl
  obtain ⟨cluster, hcreate, failover, hnew, rfl⟩ := hl
  unfold Cluster.create at hcreate
  simp only [Except.bind_eq_ok, Except.pure_eq_ok] at hcreate
  obtain ⟨_, _, rfl⟩ := hcreate
  obtain ⟨_, _, _, _, hgs⟩ := RoleState.new_eq_ok_iff.mp hnew
  exact ⟨_, ⟨rfl, rfl, hgs⟩, hp⟩

/-- A worker that redeems an invite is the subject of no grant. -/
theorem grantsSound_of_clean_worker :
    ∃ v : HostView Runtime, v.host.Ungranted ∧
      GrantEvent.CleanRun Cluster.markHash (granted ++ admission Cluster.invitedWorker) v ∧
        GrantsSound Cluster.markHash (granted ++ admission Cluster.invitedWorker) v := by
  obtain ⟨rt, hstart, hother⟩ := exists_fresh (p := fun rt =>
    ((granted ++ (admission Cluster.invitedWorker).take 1).foldl
      (fun v e => e.apply Cluster.markHash v) (start rt)).host.cluster.capabilityGrants.all
        fun g => decide (g.subject ≠ Cluster.invitedWorker)) (by decide +kernel)
  have hclean : GrantEvent.CleanRun Cluster.markHash
      (granted ++ admission Cluster.invitedWorker) (start rt) := by
    refine ⟨fun hop => absurd hop (by decide), fun hop => absurd hop (by decide),
      fun hop => absurd hop (by decide), trivial, ?_, trivial⟩
    intro _ caller token invite hauth _ _ g hg
    have hcaller : caller = Cluster.invitedWorker :=
      (Option.some.inj (Runtime.callerNodeId_of_authorizeRole hauth)).symm
    rw [hcaller]
    exact of_decide_eq_true (List.all_eq_true.mp hother g hg)
  exact ⟨start rt, hstart, hclean, grantsSound_of_clean _ hstart hclean⟩

/-- The standby's admission makes it a Worker: the facade drops its grant, the runtime keeps it. -/
theorem admission_of_a_standby_splits_the_grants :
    ¬∀ (hash : InviteHash) (events : List GrantEvent) (v : HostView Runtime),
      v.host.Ungranted → GrantsSound hash events v := by
  intro h
  obtain ⟨rt, hstart, hsplit⟩ := exists_fresh (p := fun rt =>
    let v := GrantEvent.run Cluster.markHash (granted ++ admission standby) (start rt)
    decide (v.host.cluster.capabilityGrants ≠ v.host.clusterCapabilityGrants)) (by decide +kernel)
  have hsound := h Cluster.markHash (granted ++ admission standby) (start rt) hstart
  exact of_decide_eq_true hsplit (hsound.agree _ [] (List.append_nil _).symm)

end GrantRuns

end ExpraConnect
