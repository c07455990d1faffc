import ExpraConnect.Cluster.FailoverFacts
import ExpraConnect.Remote.RoleOperations

/-!
# What the membership operations do to the two role states

A runtime holds its role state in the cluster facade and once more in the failover coordinator.

* `keeps_failover_dispatchRoleRequest`, `keeps_failover_joinCluster`: requests of peers and a join
  leave the coordinator's copy alone;
* `run_commit_of_ok`, `run_commit_of_error`: a commit writes its candidate to both, and one that
  raises writes it to the cluster at most;
* `RoleState.Complete`: every candidate has bound assignments and a term, so that the cluster it is
  written to has it as its own role state (`roleState_overwrite`);
* `run_renewLeaseRequest`: what an accepted lease renewal does.
-/

namespace ExpraConnect

open ExpraConnect.Lib

/-! ## Complete role states -/

namespace RoleState

/-- Every assignment names its node, and there is a term.  Source: none: infrastructure.  Kind: D -/
structure Complete (s : RoleState) : Prop where
  /-- No assignment is unbound. -/
  bound : ∀ a ∈ s.assignments, a.nodeId.isSome = true
  /-- There is a term. -/
  term : s.epoch.isSome = true

/-- Substituting a bound assignment keeps the list bound.  Kind: L -/
theorem bound_substitute {a : RoleAssignment} {as : List RoleAssignment}
    (ha : a.nodeId.isSome = true) (h : ∀ b ∈ as, b.nodeId.isSome = true) :
    ∀ b ∈ substitute a as, b.nodeId.isSome = true := by
  intro b hb
  obtain ⟨c, hc, rfl⟩ := List.mem_map.mp hb
  split
  · exact ha
  · exact h c hc

/-- `_replace_assignment` keeps the state complete.  Kind: L -/
theorem Complete.replaceAssignment {s t : RoleState} {a : RoleAssignment} (h : s.Complete)
    (ha : a.nodeId.isSome = true) (ht : s.replaceAssignment a = .ok t) : t.Complete := by
  obtain ⟨_, has, hep, _, _⟩ := new_eq_ok_iff.mp ht
  refine ⟨?_, ?_⟩
  · rw [has]
    exact bound_substitute ha h.bound
  · rw [hep]
    exact h.term

/-- `assign` keeps the state complete.  Kind: L -/
theorem Complete.assign {s t : RoleState} {actor : RoleAssignment} {target : NodeId}
    {roles : Finset ClusterRole} {now : ℚ} {ch : RoleChange} (h : s.Complete)
    (ht : s.assign actor target roles now = .ok (t, ch)) : t.Complete := by
  simp only [RoleState.assign, Except.bind_eq_ok, Except.pure_eq_ok] at ht
  obtain ⟨_, _, _, _, _, _, _, _, _, _, a, hnew, b, hdrop, u, hu, heq⟩ := ht
  cases heq
  obtain ⟨_, has, hep, _, _⟩ := new_eq_ok_iff.mp hu
  have hb : b.nodeId.isSome = true := by
    have ha : a.nodeId = some target := (RoleAssignment.new_nodeId hnew).1
    unfold dropJob at hdrop
    split at hdrop
    · rw [(RoleAssignment.new_nodeId hdrop).1, ha]
      rfl
    · cases hdrop
      rw [ha]
      rfl
  refine ⟨?_, ?_⟩
  · rw [has]
    intro c hc
    rcases List.mem_append.mp hc with hc | hc
    · exact bound_substitute hb h.bound c hc
    · split at hc
      · rw [List.mem_singleton.mp hc]
        exact hb
      · simp at hc
  · rw [hep]
    exact h.term

/-- `revoke` keeps the state complete.  Kind: L -/
theorem Complete.revoke {s t : RoleState} {actor : RoleAssignment} {target : NodeId}
    (h : s.Complete) (ht : s.revoke actor target = .ok t) : t.Complete := by
  simp only [RoleState.revoke, Except.bind_eq_ok] at ht
  obtain ⟨_, _, _, _, ht⟩ := ht
  cases hf : s.assignmentFor target with
  | none => simp [hf] at ht
  | some current =>
      simp only [hf, Except.bind_eq_ok] at ht
      obtain ⟨_, _, a, hnew, u, hu, ht⟩ := ht
      have ha : a.nodeId.isSome = true := by
        rw [(RoleAssignment.new_nodeId hnew).1, nodeId_of_assignmentFor hf]
        rfl
      have hu' := h.replaceAssignment ha hu
      obtain ⟨_, has, hep, _, _⟩ := new_eq_ok_iff.mp ht
      exact ⟨has ▸ hu'.bound, hep ▸ hu'.term⟩

/-- `rejoin_as_worker` keeps the state complete.  Kind: L -/
theorem Complete.rejoinAsWorker {s t : RoleState} {node : NodeId} {epoch : ℤ} (h : s.Complete)
    (ht : ExpraConnect.rejoinAsWorker s node epoch = .ok t) : t.Complete := by
  simp only [ExpraConnect.rejoinAsWorker, Except.bind_eq_ok] at ht
  obtain ⟨_, _, _, _, ht⟩ := ht
  cases hf : s.assignmentFor node with
  | none =>
      simp only [hf, Except.pure_eq_ok] at ht
      exact ht ▸ h
  | some a =>
      simp only [hf] at ht
      split at ht
      · obtain ⟨b, hnew, ht⟩ := Except.bind_eq_ok.mp ht
        refine h.replaceAssignment ?_ ht
        rw [(RoleAssignment.new_nodeId hnew).1, nodeId_of_assignmentFor hf]
        rfl
      · exact (Except.pure_eq_ok.mp ht) ▸ h

end RoleState

/-! ## The failover coordinator's candidates -/

namespace FailoverCoordinator

/-- A heartbeat keeps the state complete.  Kind: L -/
theorem complete_of_heartbeat {s c : RoleState} {node : NodeId} {token : String} {now : ℚ}
    (hs : s.Complete) (h : heartbeat s node token now = .ok (some c)) : c.Complete := by
  obtain ⟨e, e', _, hep, _, has⟩ := heartbeat_eq_some h
  exact ⟨has ▸ hs.bound, by rw [hep]; rfl⟩

/-- A promotion keeps the state complete.  Kind: L -/
theorem complete_of_promoteIfDue {s c : RoleState} {now : ℚ} {token : String} (hs : s.Complete)
    (h : promoteIfDue s now token = .ok (some c)) : c.Complete := by
  obtain ⟨e, e', _, hep, _, has⟩ := promoteIfDue_eq_some h
  refine ⟨?_, by rw [hep]; rfl⟩
  rw [has]
  exact RoleState.bound_promotedList _ hs.bound

end FailoverCoordinator

namespace Runtime

/-! ## Requests and joins leave the coordinator's copy alone -/

/-- A save succeeds or restores the previous runtime and raises.  Kind: L -/
theorem saveOr_eq (previous s : Runtime) (message : String) :
    saveOr previous message s =
      if s.persists then .ok () s else .error ⟨.runtime, message⟩ previous := by
  have h : saveOr previous message s =
      (if s.persists then pure () else (do set previous; throw ⟨.runtime, message⟩) :
        PyM Runtime Unit) s := rfl
  rw [h]
  split <;> rfl

/-- A save that fails puts back the runtime it was given.  Kind: L -/
theorem after_saveOr_bind {α : Type} {previous s : Runtime} {message : String}
    {k : Unit → PyM Runtime α} {P : Runtime → Prop} (hp : P previous)
    (hok : P ((k ()).after s)) : P ((saveOr previous message >>= k).after s) := by
  refine PyM.after_bind (fun e s' h => ?_) fun a s' h => ?_
  · rw [saveOr_eq] at h
    split at h <;> cases h
    exact hp
  · rw [saveOr_eq] at h
    split at h <;> cases h
    exact hok

/-- A computation on the cluster leaves the rest of the runtime alone.  Kind: L -/
theorem onCluster_eq {α : Type} (m : PyM Cluster α) (rt : Runtime) :
    onCluster m rt =
      match m rt.cluster with
      | .ok a cluster => .ok a { rt with cluster := cluster }
      | .error e cluster => .error e { rt with cluster := cluster } := by
  have h : onCluster m rt = (match m rt.cluster with
      | .ok a cluster => (do set { rt with cluster := cluster }; return a)
      | .error e cluster => (do set { rt with cluster := cluster }; throw e) :
        PyM Runtime α) rt := rfl
  rw [h]
  cases m rt.cluster <;> rfl

/-- The failover coordinator's state is that of `rt`. -/
abbrev SameFailover (rt s : Runtime) : Prop := s.failover = rt.failover

/-- `consumeInviteRequest` leaves the failover coordinator alone.  Kind: L -/
theorem failover_consumeInviteRequest (hash : InviteHash) (params : Fields) (caller : NodeId)
    (now : ℚ) (rt : Runtime) :
    ((consumeInviteRequest hash params caller now).after rt).failover = rt.failover := by
  unfold consumeInviteRequest
  rw [PyM.after_get_bind]
  refine PyM.after_ofExcept_bind (P := SameFailover rt) rfl fun token _ => ?_
  refine PyM.after_bind (fun e s h => ?_) fun invite s h => ?_
  · rw [onCluster_eq] at h
    split at h <;> cases h
    rfl
  · rw [onCluster_eq] at h
    split at h <;> cases h
    rw [PyM.after_get_bind]
    exact after_saveOr_bind (P := SameFailover rt) rfl rfl

/-- `renewLeaseRequest` leaves the failover coordinator alone.  Kind: L -/
theorem failover_renewLeaseRequest (params : Fields) (caller : NodeId) (now : ℚ) (rt : Runtime) :
    ((renewLeaseRequest params caller now).after rt).failover = rt.failover := by
  unfold renewLeaseRequest
  rw [PyM.after_get_bind]
  refine PyM.after_raiseIf_bind (P := SameFailover rt) rfl fun _ => ?_
  refine PyM.after_ofExcept_bind (P := SameFailover rt) rfl fun token _ => ?_
  refine PyM.after_ofExcept_bind (P := SameFailover rt) rfl fun epoch _ => ?_
  rw [PyM.after_set_bind]
  split
  · exact after_saveOr_bind (P := SameFailover rt) rfl rfl
  · rfl

/-- `assignRoleRequest` leaves the failover coordinator alone.  Kind: L -/
theorem failover_assignRoleRequest (params : Fields) (caller : NodeId) (actor : RoleAssignment)
    (state : RoleState) (now : ℚ) (rt : Runtime) :
    ((assignRoleRequest params caller actor state now).after rt).failover = rt.failover := by
  unfold assignRoleRequest
  rw [PyM.after_get_bind]
  refine PyM.after_ofExcept_bind (P := SameFailover rt) rfl fun target _ => ?_
  refine PyM.after_ofExcept_bind (P := SameFailover rt) rfl fun roles _ => ?_
  split
  · refine PyM.after_raiseIf_bind (P := SameFailover rt) rfl fun _ => ?_
    refine PyM.after_ofExcept_bind (P := SameFailover rt) rfl fun role _ => ?_
    refine PyM.after_ofExcept_bind (P := SameFailover rt) rfl fun u _ => ?_
    rw [PyM.after_set_bind]
    exact after_saveOr_bind (P := SameFailover rt) rfl rfl
  · rfl

/-- `transitionRequest` leaves the failover coordinator alone.  Kind: L -/
theorem failover_transitionRequest (op : Op) (params : Fields) (actor : RoleAssignment)
    (state : RoleState) (rt : Runtime) :
    ((transitionRequest op params actor state).after rt).failover = rt.failover := by
  unfold transitionRequest
  rw [PyM.after_get_bind]
  refine PyM.after_ofExcept_bind (P := SameFailover rt) rfl fun target _ => ?_
  refine PyM.after_ofExcept_bind (P := SameFailover rt) rfl fun u _ => ?_
  rw [PyM.after_set_bind]
  exact after_saveOr_bind (P := SameFailover rt) rfl rfl

/-- `removeConnectionRequest` leaves the failover coordinator alone.  Kind: L -/
theorem failover_removeConnectionRequest (params : Fields) (caller : NodeId) (rt : Runtime) :
    ((removeConnectionRequest params caller).after rt).failover = rt.failover := by
  unfold removeConnectionRequest
  rw [PyM.after_get_bind]
  refine PyM.after_ofExcept_bind (P := SameFailover rt) rfl fun target _ => ?_
  exact PyM.after_raiseIf_bind (P := SameFailover rt) rfl fun _ => rfl

/-- `capabilitiesRequest` leaves the failover coordinator alone.  Kind: L -/
theorem failover_capabilitiesRequest (op : Op) (params : Fields) (caller : NodeId)
    (actor : RoleAssignment) (state : RoleState) (now : ℚ) (rt : Runtime) :
    ((capabilitiesRequest op params caller actor state now).after rt).failover = rt.failover := by
  unfold capabilitiesRequest
  rw [PyM.after_get_bind]
  refine PyM.after_raiseIf_bind (P := SameFailover rt) rfl fun _ => ?_
  refine PyM.after_ofExcept_bind (P := SameFailover rt) rfl fun subject _ => ?_
  refine PyM.after_ofExcept_bind (P := SameFailover rt) rfl fun target _ => ?_
  refine PyM.after_ofExcept_bind (P := SameFailover rt) rfl fun u _ => ?_
  rw [PyM.after_set_bind]
  exact after_saveOr_bind (P := SameFailover rt) rfl rfl

/-- `memberRequest` leaves the failover coordinator alone.  Kind: L -/
theorem failover_memberRequest (opText : String) (params : Fields) (caller : NodeId) (now : ℚ)
    (rt : Runtime) :
    ((memberRequest opText params caller now).after rt).failover = rt.failover := by
  unfold memberRequest
  rw [PyM.after_get_bind]
  split
  · rfl
  · refine PyM.after_ofExcept_bind (P := SameFailover rt) rfl fun state _ => ?_
    split
    case h_1 => exact failover_renewLeaseRequest _ _ _ _
    case h_2 => exact failover_assignRoleRequest _ _ _ _ _ _
    case h_8 => exact failover_removeConnectionRequest _ _ _
    all_goals
      first
      | exact failover_transitionRequest _ _ _ _ _
      | exact failover_capabilitiesRequest _ _ _ _ _ _ _
      | rfl

/-- `roleRequest` leaves the failover coordinator alone.  Kind: L -/
theorem failover_roleRequest (hash : InviteHash) (opText : String) (params : Fields)
    (caller : NodeId) (now : ℚ) (rt : Runtime) :
    ((roleRequest hash opText params caller now).after rt).failover = rt.failover := by
  unfold roleRequest
  split
  · exact failover_consumeInviteRequest _ _ _ _ _
  · exact failover_memberRequest _ _ _ _ _

/-! ## The projections of the membership -/

/-- Hydrating the registry changes nothing but the registry.  Kind: L -/
theorem after_hydrateRegistryMembership (rt : Runtime) :
    ∃ registry, hydrateRegistryMembership.after rt = { rt with registry := registry } := by
  unfold hydrateRegistryMembership
  rw [PyM.after_get_bind]
  cases hr : rt.registry with
  | none => exact ⟨none, by cases rt; cases hr; rfl⟩
  | some records =>
      refine ⟨some (hydrateMembers rt.pairing rt.cluster.coordinatorId
        rt.cluster.assignments.dict.entries records).2, ?_⟩
      simp only [PyM.after_set_bind]
      split <;> rfl

section projections

variable {γ : Type} {g : Runtime → γ}

/-- `hydrateRegistryMembership` keeps what the rest of the runtime says.  Kind: L -/
theorem keeps_hydrateRegistryMembership
    (hg : ∀ rt registry, g { rt with registry := registry } = g rt) :
    Handler.Keeps g (Handler.ofPyM hydrateRegistryMembership) := by
  refine Handler.keeps_ofPyM fun rt => ?_
  obtain ⟨registry, h⟩ := after_hydrateRegistryMembership rt
  rw [h, hg]

/-- `refreshLiveGrants` keeps what the rest of the runtime says.  Kind: L -/
theorem keeps_refreshLiveGrants : Handler.Keeps g refreshLiveGrants := by
  refine (Handler.keeps_ofPyM fun rt => rfl).bind fun rt => ?_
  split
  · exact (Handler.keeps_updateGrants _).bind fun _ =>
      Handler.keeps_updateClusterCapabilityGrants _
  · exact Handler.keeps_pure _

/-- `updateFence` keeps what the rest of the runtime says.  Kind: L -/
theorem keeps_updateFence : Handler.Keeps g updateFence := by
  refine (Handler.keeps_ofPyM fun rt => rfl).bind fun rt => ?_
  split
  · exact Handler.keeps_updateClusterFence _ _ _
  · exact Handler.keeps_pure _

/-- `perform` keeps what the rest of the runtime says.  Kind: L -/
theorem keeps_perform (hg : ∀ rt registry, g { rt with registry := registry } = g rt)
    (f : FollowUp) : Handler.Keeps g f.perform := by
  cases f with
  | none => exact Handler.keeps_pure _
  | fence => exact keeps_updateFence
  | grants => exact keeps_refreshLiveGrants
  | membership =>
      exact (keeps_hydrateRegistryMembership hg).bind fun _ => keeps_refreshLiveGrants

end projections

/-- A request of a peer leaves the failover coordinator's state alone.  Kind: L -/
theorem keeps_failover_dispatchRoleRequest (hash : InviteHash) (request : RemoteRequest) :
    Handler.Keeps Runtime.failover (dispatchRoleRequest hash request) := by
  refine (Handler.keeps_ofPyM fun rt => ?_).bind fun caller => ?_
  · unfold authorizeStep
    rw [PyM.after_get_bind]
    cases authorizeRole request rt <;> rfl
  · refine Handler.keeps_clock.bind fun now => ?_
    refine (Handler.keeps_ofPyM (failover_roleRequest _ _ _ _ _)).bind fun reply => ?_
    exact (keeps_perform (fun _ _ => rfl) _).bind fun _ => Handler.keeps_pure _

/-- So does a join.  Kind: L -/
theorem keeps_failover_joinCluster (peer : Option NodeId) (invite : InviteRecord)
    (response : Value) : Handler.Keeps Runtime.failover (joinCluster peer invite response) := by
  refine (Handler.keeps_ofPyM fun rt => ?_).bind fun fields => ?_
  · unfold joinStep
    rw [PyM.after_get_bind]
    split
    · rfl
    · refine PyM.after_raiseIf_bind (P := SameFailover rt) rfl fun _ => ?_
      split
      · rfl
      · refine PyM.after_ofExcept_bind (P := SameFailover rt) rfl fun _ _ => ?_
        refine PyM.after_ofExcept_bind (P := SameFailover rt) rfl fun _ _ => ?_
        refine PyM.after_ofExcept_bind (P := SameFailover rt) rfl fun _ _ => ?_
        rw [PyM.after_set_bind]
        exact after_saveOr_bind (P := SameFailover rt) rfl rfl
  · exact (keeps_hydrateRegistryMembership fun _ _ => rfl).bind fun _ => Handler.keeps_pure _

/-! ## Commits -/

/-- The cluster a complete role state is written to has it as its role state.  Kind: L -/
theorem roleState_overwrite {s : RoleState} (hs : s.Complete) (c : Cluster) :
    (overwrite c s).roleState = .ok s := by
  obtain ⟨e, he⟩ := Option.isSome_iff_exists.mp hs.term
  have hvalues : (Assignments.ofList s.assignments).values = s.assignments := by
    rw [Assignments.values_ofList s.valid.ids]
    exact List.filter_eq_self.mpr hs.bound
  refine RoleState.new_eq_ok_iff.mpr ⟨?_, hvalues.symm, ?_, rfl, rfl⟩
  · change RoleState.Valid (Assignments.ofList s.assignments).values s.capabilityGrants
    rw [hvalues]
    exact s.valid
  · simp [overwrite, he]

/-- The two role states of a runtime. -/
def replicas (rt : Runtime) : Cluster × RoleState := (rt.cluster, rt.failover)

/-- The failover state is written if and only if the store persists.  Kind: L -/
theorem writeFailoverState_eq (state : RoleState) (rt : Runtime) :
    writeFailoverState state rt =
      if rt.persists then
        .ok () { rt with
          cluster := overwrite rt.cluster state
          clusterCapabilityGrants := state.capabilityGrants }
      else .error ⟨.runtime, "failover state was not durably persisted"⟩ rt :=
  saveOr_eq rt { rt with
    cluster := overwrite rt.cluster state
    clusterCapabilityGrants := state.capabilityGrants } _

/-- Persisting a candidate writes the cluster and the grants, unless it raises before; what follows
projects the new membership and touches nothing but the registry and the service.  Kind: L -/
theorem run_persistFailoverState_of {γ : Type} {g : Runtime → γ}
    (hg : ∀ rt registry, g { rt with registry := registry } = g rt) (state : RoleState)
    (v : HostView Runtime) :
    g (Handler.run (persistFailoverState state) v).2.host =
        g { v.host with
          cluster := overwrite v.host.cluster state
          clusterCapabilityGrants := state.capabilityGrants } ∨
      ((Handler.run (persistFailoverState state) v).2.host = v.host ∧
        ∃ e, (Handler.run (persistFailoverState state) v).1 = .error e) := by
  unfold persistFailoverState
  rw [Handler.run_bind]
  have hw := writeFailoverState_eq state v.host
  split at hw
  · left
    rw [Handler.run_ofPyM_of_ok hw]
    have hrest : Handler.Keeps g (do
        updateFence
        Handler.ofPyM hydrateRegistryMembership
        refreshLiveGrants) :=
      keeps_updateFence.bind fun _ =>
        (keeps_hydrateRegistryMembership hg).bind fun _ => keeps_refreshLiveGrants
    exact hrest _
  · right
    rw [Handler.run_ofPyM_of_error hw]
    exact ⟨rfl, _, rfl⟩

/-- In terms of the two role states: the coordinator's is left alone.  Kind: L -/
theorem run_persistFailoverState (state : RoleState) (v : HostView Runtime) :
    replicas (Handler.run (persistFailoverState state) v).2.host =
        (overwrite v.host.cluster state, v.host.failover) ∨
      (replicas (Handler.run (persistFailoverState state) v).2.host = replicas v.host ∧
        ∃ e, (Handler.run (persistFailoverState state) v).1 = .error e) :=
  (run_persistFailoverState_of (g := replicas) (fun _ _ => rfl) state v).imp_right
    fun h => ⟨congrArg replicas h.1, h.2⟩

/-- A commit that returns wrote its candidate to both role states.  Kind: L -/
theorem run_commit_of_ok {candidate : RoleState} {v v' : HostView Runtime} {u : Unit}
    (h : Handler.run (commit candidate) v = (.ok u, v')) :
    replicas v'.host = (overwrite v.host.cluster candidate, candidate) := by
  obtain ⟨_, w, hw, h⟩ := Handler.run_bind_eq_ok.mp h
  obtain ⟨rt, hm, rfl⟩ := Handler.run_ofPyM_eq_ok.mp h
  rw [PyM.modify_eq_ok] at hm
  subst hm
  rcases run_persistFailoverState candidate v with hp | ⟨_, e, he⟩
  · rw [hw] at hp
    exact congrArg (fun p => (p.1, candidate)) hp
  · rw [hw] at he
    cases he

/-- A commit that raises wrote its candidate to the cluster at most.  Kind: L -/
theorem run_commit_of_error {candidate : RoleState} {v v' : HostView Runtime} {e : PyError}
    (h : Handler.run (commit candidate) v = (.error e, v')) :
    replicas v'.host = (overwrite v.host.cluster candidate, v.host.failover) ∨
      replicas v'.host = replicas v.host := by
  unfold commit at h
  rw [Handler.run_bind] at h
  rcases hrun : Handler.run (persistFailoverState candidate) v with ⟨e' | u, w⟩
  · rw [hrun] at h
    cases h
    have hp := run_persistFailoverState candidate v
    rw [hrun] at hp
    exact hp.imp_right And.left
  · rw [hrun] at h
    cases h

section commitFrom

variable {α : Type} {f : Runtime → Except PyError (Option RoleState × α)} {v v' : HostView Runtime}

/-- A commit is computed from the runtime and then carried out.  Kind: L -/
theorem run_commitFrom (f : Runtime → Except PyError (Option RoleState × α))
    (v : HostView Runtime) :
    Handler.run (commitFrom f) v =
      match f v.host with
      | .error e => (.error e, v)
      | .ok (none, a) => (.ok a, v)
      | .ok (some candidate, a) => Handler.run (do commit candidate; return a) v := by
  have hget : (get : PyM Runtime Runtime) v.host = .ok v.host v.host := rfl
  unfold commitFrom
  rw [Handler.run_bind, Handler.run_ofPyM_of_ok hget]
  dsimp only
  rcases f v.host with e | ⟨_ | candidate, a⟩ <;> rfl

/-- A committing operation that returns: without a candidate nothing happened, with one both role
states have it.  Kind: L -/
theorem run_commitFrom_of_ok {a : α} (h : Handler.run (commitFrom f) v = (.ok a, v')) :
    (f v.host = .ok (none, a) ∧ v' = v) ∨
      ∃ candidate, f v.host = .ok (some candidate, a) ∧
        replicas v'.host = (overwrite v.host.cluster candidate, candidate) := by
  rw [run_commitFrom] at h
  rcases hf : f v.host with e | ⟨_ | candidate, b⟩
  · simp [hf] at h
  · simp only [hf, Prod.mk.injEq, Except.ok.injEq] at h
    obtain ⟨rfl, rfl⟩ := h
    exact .inl ⟨rfl, rfl⟩
  · simp only [hf] at h
    obtain ⟨_, w, hw, h⟩ := Handler.run_bind_eq_ok.mp h
    cases h
    exact .inr ⟨candidate, rfl, run_commit_of_ok hw⟩

/-- One that raises: both role states are as they were, or the cluster alone has the candidate.
Kind: L -/
theorem run_commitFrom_of_error {e : PyError}
    (h : Handler.run (commitFrom f) v = (.error e, v')) :
    replicas v'.host = replicas v.host ∨
      ∃ candidate a, f v.host = .ok (some candidate, a) ∧
        replicas v'.host = (overwrite v.host.cluster candidate, v.host.failover) := by
  rw [run_commitFrom] at h
  rcases hf : f v.host with e' | ⟨_ | candidate, b⟩
  · simp only [hf, Prod.mk.injEq] at h
    exact .inl (h.2 ▸ rfl)
  · simp [hf] at h
  · simp only [hf] at h
    rw [Handler.run_bind] at h
    rcases hrun : Handler.run (commit candidate) v with ⟨e' | u, w⟩
    · rw [hrun] at h
      cases h
      rcases run_commit_of_error hrun with hw | hw
      · exact .inr ⟨candidate, b, rfl, hw⟩
      · exact .inl hw
    · rw [hrun] at h
      cases h

/-- What a runtime holds of a cluster: the facade, the grants, and the coordinator's role state. -/
def held (rt : Runtime) : Cluster × List CapabilityGrant × RoleState :=
  (rt.cluster, rt.clusterCapabilityGrants, rt.failover)

/-- A committing operation, whatever comes of it: nothing happened, or the candidate and its grants
are written, to the cluster at least.  Kind: L -/
theorem held_commitFrom (f : Runtime → Except PyError (Option RoleState × α))
    (v : HostView Runtime) :
    held (Handler.run (commitFrom f) v).2.host = held v.host ∨
      ∃ candidate a s, f v.host = .ok (some candidate, a) ∧
        (s = candidate ∨ s = v.host.failover) ∧
          held (Handler.run (commitFrom f) v).2.host =
            (overwrite v.host.cluster candidate, candidate.capabilityGrants, s) := by
  rw [run_commitFrom]
  rcases hf : f v.host with e | ⟨_ | candidate, a⟩
  · exact .inl rfl
  · exact .inl rfl
  simp only [commit]
  rw [Handler.run_bind, Handler.run_bind]
  have hp := run_persistFailoverState_of (g := held) (fun _ _ => rfl) candidate v
  rcases hrun : Handler.run (persistFailoverState candidate) v with ⟨e | u, w⟩
  · rw [hrun] at hp
    rcases hp with hw | ⟨hw, _⟩
    · exact .inr ⟨candidate, a, _, rfl, .inr rfl, hw⟩
    · exact .inl (congrArg held hw)
  · rw [hrun] at hp
    rcases hp with hw | ⟨_, e, he⟩
    · have hset : held { w.host with failover := candidate } =
          (overwrite v.host.cluster candidate, candidate.capabilityGrants, candidate) :=
        congrArg (fun p => (p.1, p.2.1, candidate)) hw
      exact .inr ⟨candidate, a, candidate, rfl, .inl rfl, hset⟩
    · cases he

end commitFrom

/-! ## Requests that return -/

/-- An authorized role request names its caller.  Kind: L -/
theorem callerNodeId_of_authorizeRole {request : RemoteRequest} {rt : Runtime} {caller : NodeId}
    (h : authorizeRole request rt = .ok caller) : request.callerNodeId = some caller := by
  unfold authorizeRole at h
  cases hc : request.callerNodeId with
  | none => simp [hc] at h
  | some c =>
      simp only [hc, Except.bind_eq_ok, Except.pure_eq_ok] at h
      obtain ⟨_, _, _, _, _, _, _, _, _, _, rfl⟩ := h
      rfl

/-- A request that returns was authorised and changed the runtime; what followed touched nothing but
the registry and the service.  Kind: L -/
theorem run_dispatchRoleRequest_of_ok {hash : InviteHash} {request : RemoteRequest}
    {v v' : HostView Runtime} {reply : Fields}
    (h : Handler.run (dispatchRoleRequest hash request) v = (.ok reply, v')) :
    ∃ caller rt, authorizeRole request v.host = .ok caller ∧
      roleRequest hash request.op request.params caller v.clock v.host = .ok reply rt ∧
        ∀ (γ : Type) (g : Runtime → γ), (∀ rt registry, g { rt with registry := registry } = g rt) →
          g v'.host = g rt := by
  obtain ⟨caller, w, hauth, h⟩ := Handler.run_bind_eq_ok.mp h
  obtain ⟨rt, hchecks, rfl⟩ := Handler.run_ofPyM_eq_ok.mp hauth
  simp only [authorizeStep, PyM.get_bind_eq_ok, PyM.ofExcept_eq_ok] at hchecks
  obtain ⟨hcaller, rfl⟩ := hchecks
  rw [Handler.run_clock_bind] at h
  obtain ⟨reply', w, hrun, h⟩ := Handler.run_bind_eq_ok.mp h
  obtain ⟨rt, hreq, rfl⟩ := Handler.run_ofPyM_eq_ok.mp hrun
  obtain ⟨_, w, hfollow, h⟩ := Handler.run_bind_eq_ok.mp h
  cases h
  refine ⟨caller, rt, hcaller, hreq, fun γ g hg => ?_⟩
  have hkeep := keeps_perform hg (followUp request.op) { v with host := rt }
  rw [hfollow] at hkeep
  exact hkeep

/-! ## Lease renewals -/

/-- An accepted renewal extends the lease of the cluster's term and changes neither the rest of the
cluster nor the coordinator's state.  Kind: L -/
theorem run_renewLeaseRequest {hash : InviteHash} {request : RemoteRequest}
    {v v' : HostView Runtime} {reply : Fields}
    (hop : Op.ofString? request.op = some .renewCoordinatorLease)
    (h : Handler.run (dispatchRoleRequest hash request) v = (.ok reply, v')) :
    ∃ epoch : CoordinatorEpoch, v'.host.cluster = { v.host.cluster with epoch := epoch } ∧
      epoch.leaseExpiresAt =
        max v.host.cluster.epoch.leaseExpiresAt (v.clock + heartbeatTimeoutSeconds) ∧
      v'.host.failover = v.host.failover := by
  obtain ⟨caller, rt, _, hreq, hrest⟩ := run_dispatchRoleRequest_of_ok h
  have hkeep : replicas v'.host = replicas rt := hrest _ replicas fun _ _ => rfl
  simp only [roleRequest, hop, memberRequest, PyM.get_bind_eq_ok] at hreq
  cases hactor : v.host.cluster.assignments.get? caller with
  | none => simp [hactor] at hreq
  | some actor =>
      simp only [hactor, renewLeaseRequest, PyM.ofExcept_bind_eq_ok, PyM.get_bind_eq_ok,
        PyM.raiseIf_bind_eq_ok, PyM.set_bind_eq_ok] at hreq
      obtain ⟨_, _, _, token, _, epoch, hrenew, hset⟩ := hreq
      have hrt : rt = { v.host with cluster := { v.host.cluster with epoch := epoch } } := by
        split at hset
        · obtain ⟨_, _, hsave, hret⟩ := PyM.bind_eq_ok.mp hset
          rw [saveOr_eq] at hsave
          split at hsave <;> cases hsave
          exact (PyM.pure_eq_ok.mp hret).2.symm
        · exact (PyM.pure_eq_ok.mp hset).2.symm
      subst hrt
      exact ⟨epoch, congrArg Prod.fst hkeep, (renewed_of_renewLease hrenew).lease,
        congrArg Prod.snd hkeep⟩

end Runtime

end ExpraConnect
