import ExpraConnect.Runtime.Replicas

/-!
# Promotion and the coordinator's lease

The lease is renewed in two places: a `renew_coordinator_lease` request extends the cluster's term,
a heartbeat of the host application extends the term of `FailoverCoordinator.state` and copies it to
the cluster.  `promote_if_due` reads the second alone.

* `LeaseEvent.step`: accepted renewals, heartbeats and promotions, with the times of the renewals
  that only the cluster knows of;
* `Leased`: the invariant, the cluster's lease ends when the coordinator's copy and all of these
  renewals have ended;
* `promotion_respects_lease_iff`: in every run, a promotion happens after the lease of the cluster's
  term exactly when each of these renewals has ended by then;
* `Replicas.promotion_during_lease`: a promotion 50 seconds after an accepted renewal.
-/

namespace ExpraConnect

open ExpraConnect.Lib

/-! ## Runs -/

/-- What happens to the lease of a runtime.
Source: `remote/role_operations.py`, `dispatch_role_request` and `RuntimeClusterOperations`.
Kind: D -/
inductive LeaseEvent where
  /-- An accepted `renew_coordinator_lease` request, at a reading of the cluster's clock. -/
  | renew (clock : ℚ) (request : RemoteRequest)
  /-- `heartbeat(coordinator_id=..., fencing_token=..., now=...)` -/
  | heartbeat (coordinatorId : NodeId) (fencingToken : String) (now : ℚ)
  /-- `promote_if_due(now=...)`, with the fencing token a promotion draws. -/
  | promoteIfDue (now : ℚ) (token : String)
  /-- A change around the runtime. -/
  | surroundings (e : Surroundings)

/-- The renewals that only the cluster knows of, after a call of the failover coordinator at `now`
took the cluster's term from `before` to `after`: none once it committed; a call that raised after
it wrote the cluster leaves its own. -/
def renewalsAfter (result : Except PyError Bool) (now : ℚ) (before after : CoordinatorEpoch)
    (renewals : List ℚ) : List ℚ :=
  match result with
  | .ok true => []
  | .ok false => renewals
  | .error _ => if after = before then renewals else [now]

/-- A call of the failover coordinator, whatever comes of it. -/
def coordinatorCall (call : Handler Runtime Bool) (now : ℚ) (s : HostView Runtime × List ℚ) :
    HostView Runtime × List ℚ :=
  let (result, v') := Handler.run call s.1
  (v', renewalsAfter result now s.1.host.cluster.epoch v'.host.cluster.epoch s.2)

/-- The runtime, and the times of the renewals that only the cluster knows of, after an event.
Kind: D -/
def LeaseEvent.step (hash : InviteHash) :
    LeaseEvent → HostView Runtime × List ℚ → Option (HostView Runtime × List ℚ)
  | renew clock request, (v, renewals) =>
      if Op.ofString? request.op = some .renewCoordinatorLease then
        match Handler.run (Runtime.dispatchRoleRequest hash request) { v with clock := clock } with
        | (.ok _, v') => some (v', renewals ++ [clock])
        | (.error _, _) => none
      else none
  | heartbeat coordinatorId fencingToken now, s =>
      some (coordinatorCall (Runtime.heartbeat coordinatorId fencingToken now) now s)
  | promoteIfDue now token, s => some (coordinatorCall (Runtime.promoteIfDue now token) now s)
  | surroundings e, (v, renewals) => some (e.around v, renewals)

/-- Events one after the other. -/
def leaseRun (hash : InviteHash) :
    List LeaseEvent → HostView Runtime × List ℚ → Option (HostView Runtime × List ℚ)
  | [], s => some s
  | e :: es, s => (e.step hash s).bind (leaseRun hash es)

/-! ## The invariant -/

/-- The cluster's lease has ended exactly when the lease of the coordinator's copy has, and every
renewal that only the cluster knows of.  Kind: D -/
structure Leased (s : HostView Runtime × List ℚ) : Prop where
  /-- The coordinator's copy is complete. -/
  complete : s.1.host.failover.Complete
  /-- The two leases. -/
  ended : ∃ e, s.1.host.failover.epoch = some e ∧
    ∀ q, s.1.host.cluster.epoch.leaseExpiresAt ≤ q ↔
      e.leaseExpiresAt ≤ q ∧ ∀ t ∈ s.2, t + heartbeatTimeoutSeconds ≤ q

/-- A loaded runtime is leased, without renewals.  Kind: L -/
theorem Leased.of_loaded {v : HostView Runtime} (h : v.host.Loaded) : Leased (v, []) := by
  obtain ⟨_, _, hep, _, _⟩ := RoleState.new_eq_ok_iff.mp h.roleState
  exact ⟨h.complete, v.host.cluster.epoch, hep, fun q => by simp⟩

/-- The candidate `c` extends the lease of `s` to `now + 120` at least, and no further than that or
where it was.  A promotion does so too, since the old lease ended by `now`. -/
def Extends (now : ℚ) (s c : RoleState) : Prop :=
  ∃ e e', s.epoch = some e ∧ c.epoch = some e' ∧
    ∀ q, e'.leaseExpiresAt ≤ q ↔ e.leaseExpiresAt ≤ q ∧ now + heartbeatTimeoutSeconds ≤ q

/-- A heartbeat extends the lease.  Kind: L -/
theorem extends_of_heartbeat {s c : RoleState} {node : NodeId} {token : String} {now : ℚ}
    (h : FailoverCoordinator.heartbeat s node token now = .ok (some c)) : Extends now s c := by
  obtain ⟨e, e', he, he', hrenewed, _⟩ := FailoverCoordinator.heartbeat_eq_some h
  exact ⟨e, e', he, he', fun q => by rw [hrenewed.lease, max_le_iff]⟩

/-- A promotion extends the lease.  Kind: L -/
theorem extends_of_promoteIfDue {s c : RoleState} {now : ℚ} {token : String}
    (h : FailoverCoordinator.promoteIfDue s now token = .ok (some c)) : Extends now s c := by
  obtain ⟨e, e', he, he', hsucc, _⟩ := FailoverCoordinator.promoteIfDue_eq_some h
  refine ⟨e, e', he, he', fun q => ?_⟩
  rw [hsucc.lease]
  constructor
  · intro hq
    refine ⟨hsucc.due.trans (le_trans ?_ hq), hq⟩
    simp [heartbeatTimeoutSeconds]
  · exact And.right

/-- A call of the coordinator keeps the invariant, whether it commits, answers `False` or raises,
before or after it wrote the cluster.  Kind: L -/
theorem Leased.coordinatorCall {f : RoleState → Except PyError (Option RoleState)} {now : ℚ}
    {s : HostView Runtime × List ℚ} (h : Leased s)
    (hf : ∀ c, f s.1.host.failover = .ok (some c) →
      c.Complete ∧ Extends now s.1.host.failover c) :
    Leased (coordinatorCall (Runtime.commitFrom fun rt => do
      let candidate ← f rt.failover
      return (candidate, candidate.isSome)) now s) := by
  obtain ⟨v, renewals⟩ := s
  unfold ExpraConnect.coordinatorCall
  rcases hrun : Handler.run (Runtime.commitFrom fun rt => do
      let candidate ← f rt.failover
      return (candidate, candidate.isSome)) v with ⟨e | b, v'⟩
  · rcases Runtime.run_commitFrom_of_error hrun with hrep | ⟨c, a, hdecided, hrep⟩
    · have hcluster : v'.host.cluster = v.host.cluster := congrArg Prod.fst hrep
      have hcopy : v'.host.failover = v.host.failover := congrArg Prod.snd hrep
      simp only [renewalsAfter, hcluster, if_true]
      refine ⟨hcopy ▸ h.complete, ?_⟩
      simpa only [hcluster, hcopy] using h.ended
    · -- the cluster has the candidate's term, the coordinator its old one
      have hcluster : v'.host.cluster = Runtime.overwrite v.host.cluster c :=
        congrArg Prod.fst hrep
      have hcopy : v'.host.failover = v.host.failover := congrArg Prod.snd hrep
      obtain ⟨r, hr, hret⟩ := Except.bind_eq_ok.mp hdecided
      simp only [Except.pure_eq_ok, Prod.mk.injEq] at hret
      obtain ⟨rfl, _⟩ := hret
      obtain ⟨e₀, e', he, he', hlease⟩ := (hf c hr).2
      refine ⟨hcopy ▸ h.complete, ?_⟩
      by_cases hsame : v'.host.cluster.epoch = v.host.cluster.epoch
      · simpa only [renewalsAfter, hsame, if_true, hcopy] using h.ended
      · simp only [renewalsAfter, hsame, if_false, hcopy, List.mem_singleton, forall_eq]
        refine ⟨e₀, he, fun q => ?_⟩
        rw [hcluster]
        simpa [Runtime.overwrite, he'] using hlease q
  · rcases Runtime.run_commitFrom_of_ok hrun with ⟨hdecided, rfl⟩ | ⟨c, hdecided, hrep⟩
    · obtain ⟨r, _, hret⟩ := Except.bind_eq_ok.mp hdecided
      simp only [Except.pure_eq_ok, Prod.mk.injEq] at hret
      obtain ⟨rfl, rfl⟩ := hret
      exact h
    · obtain ⟨r, hr, hret⟩ := Except.bind_eq_ok.mp hdecided
      simp only [Except.pure_eq_ok, Prod.mk.injEq] at hret
      obtain ⟨rfl, rfl⟩ := hret
      obtain ⟨hc, e₀, e', he, he', hlease⟩ := hf c hr
      have hcluster : v'.host.cluster = Runtime.overwrite v.host.cluster c :=
        congrArg Prod.fst hrep
      have hcopy : v'.host.failover = c := congrArg Prod.snd hrep
      refine ⟨hcopy ▸ hc, e', hcopy ▸ he', fun q => ?_⟩
      simp [renewalsAfter, hcluster, Runtime.overwrite, he']

/-- An event keeps the invariant.  Kind: L -/
theorem Leased.step {hash : InviteHash} {e : LeaseEvent} {s s' : HostView Runtime × List ℚ}
    (h : Leased s) (hstep : e.step hash s = some s') : Leased s' := by
  obtain ⟨v, renewals⟩ := s
  cases e with
  | renew clock request =>
      simp only [LeaseEvent.step] at hstep
      split at hstep
      · rename_i hop
        rcases hrun : Handler.run (Runtime.dispatchRoleRequest hash request)
            { v with clock := clock } with ⟨e | reply, v'⟩
        · simp [hrun] at hstep
        · simp only [hrun, Option.some.injEq] at hstep
          subst hstep
          obtain ⟨epoch, hcluster, hlease, hcopy⟩ := Runtime.run_renewLeaseRequest hop hrun
          obtain ⟨e₀, he, hended⟩ := h.ended
          refine ⟨hcopy ▸ h.complete, e₀, by rw [hcopy]; exact he, fun q => ?_⟩
          have hq := hended q
          simp only [hcluster, hlease, max_le_iff, List.mem_append, List.mem_singleton] at hq ⊢
          rw [hq]
          aesop
      · cases hstep
  | heartbeat node token now =>
      cases hstep
      refine h.coordinatorCall (f := fun s => FailoverCoordinator.heartbeat s node token now) ?_
      exact fun c hc =>
        ⟨FailoverCoordinator.complete_of_heartbeat h.complete hc, extends_of_heartbeat hc⟩
  | promoteIfDue now token =>
      cases hstep
      refine h.coordinatorCall (f := fun s => FailoverCoordinator.promoteIfDue s now token) ?_
      exact fun c hc =>
        ⟨FailoverCoordinator.complete_of_promoteIfDue h.complete hc,
          extends_of_promoteIfDue hc⟩
  | surroundings e =>
      cases hstep
      exact ⟨h.complete, h.ended⟩

/-- A run keeps the invariant.  Kind: L -/
theorem Leased.run {hash : InviteHash} {es : List LeaseEvent} {s s' : HostView Runtime × List ℚ}
    (h : Leased s) (hrun : leaseRun hash es s = some s') : Leased s' := by
  induction es generalizing s with
  | nil =>
      cases hrun
      exact h
  | cons e es ih =>
      obtain ⟨t, ht, hrest⟩ := Option.bind_eq_some_iff.mp hrun
      exact ih (h.step ht) hrest

/-! ## Promotions -/

/-- A promotion that answers `True` found the lease of the coordinator's copy ended.  Kind: L -/
theorem lease_le_of_promoteIfDue {v v' : HostView Runtime} {now : ℚ} {token : String}
    (h : Handler.run (Runtime.promoteIfDue now token) v = (.ok true, v')) :
    ∃ e, v.host.failover.epoch = some e ∧ e.leaseExpiresAt ≤ now := by
  rcases Runtime.run_commitFrom_of_ok h with ⟨hf, _⟩ | ⟨c, hf, _⟩
  · obtain ⟨r, _, hret⟩ := Except.bind_eq_ok.mp hf
    simp only [Except.pure_eq_ok, Prod.mk.injEq] at hret
    obtain ⟨rfl, hfalse⟩ := hret
    cases hfalse
  · obtain ⟨r, hr, hret⟩ := Except.bind_eq_ok.mp hf
    simp only [Except.pure_eq_ok, Prod.mk.injEq] at hret
    obtain ⟨rfl, _⟩ := hret
    obtain ⟨e, _, he, _, hsucc, _⟩ := FailoverCoordinator.promoteIfDue_eq_some hr
    exact ⟨e, he, hsucc.due⟩

/-- In every run, from a loaded runtime, of accepted renewals, heartbeats and promotions: a
promotion at `now` finds the lease of the cluster's term ended exactly when every renewal that only
the cluster knows of has ended.
Source: `remote/role_operations.py`, `promote_if_due`; `cluster/failover.py`,
`FailoverCoordinator.promote_if_due`.  Kind: P -/
theorem promotion_respects_lease_iff (hash : InviteHash) (events : List LeaseEvent)
    {v₀ v v' : HostView Runtime} {renewals : List ℚ} {now : ℚ} {token : String}
    (hload : v₀.host.Loaded) (hrun : leaseRun hash events (v₀, []) = some (v, renewals))
    (hpromote : Handler.run (Runtime.promoteIfDue now token) v = (.ok true, v')) :
    v.host.cluster.epoch.leaseExpiresAt ≤ now ↔
      ∀ t ∈ renewals, t + heartbeatTimeoutSeconds ≤ now := by
  have h := (Leased.of_loaded hload).run hrun
  obtain ⟨e, he, hended⟩ := h.ended
  obtain ⟨e', he', hdue⟩ := lease_le_of_promoteIfDue hpromote
  cases he.symm.trans he'
  rw [hended now]
  exact and_iff_right hdue

namespace Replicas

/-- The coordinator renews its lease through a request at 100, up to 220. -/
def renewal : LeaseEvent :=
  .renew 100 (roleRequest coordinator "renew_coordinator_lease" [])

/-- Whether the standby is promoted at `now` after `events`. -/
def promotes (events : List LeaseEvent) (now : ℚ) (rt : Runtime) : Bool :=
  match leaseRun Cluster.markHash events (start rt, []) with
  | none => false
  | some (v, _) =>
      match Handler.run (Runtime.promoteIfDue now "next") v with
      | (.ok true, _) => decide (now < v.host.cluster.epoch.leaseExpiresAt ∨ 220 ≤ now)
      | _ => false

/-- The sample promotion is possible.  Kind: L -/
theorem exists_promotion (events : List LeaseEvent) (now : ℚ)
    (h : loaded.toOption.any (promotes events now) = true) :
    ∃ v₀ v v', ∃ renewals : List ℚ, v₀.host.Loaded ∧
      leaseRun Cluster.markHash events (v₀, []) = some (v, renewals) ∧
      Handler.run (Runtime.promoteIfDue now "next") v = (.ok true, v') ∧
        (now < v.host.cluster.epoch.leaseExpiresAt ∨ 220 ≤ now) := by
  obtain ⟨rt, hload, hp⟩ := exists_loaded h
  unfold promotes at hp
  split at hp
  · cases hp
  · rename_i v renewals hrun
    split at hp
    · rename_i v' hpromote
      exact ⟨start rt, v, v', renewals, hload, hrun, hpromote, by simpa using hp⟩
    · cases hp

/-- Once the renewal has ended, a promotion is safe. -/
theorem promotion_after_renewal :
    ∃ v₀ v v', ∃ renewals : List ℚ, v₀.host.Loaded ∧
      leaseRun Cluster.markHash [renewal] (v₀, []) = some (v, renewals) ∧
      Handler.run (Runtime.promoteIfDue 220 "next") v = (.ok true, v') ∧
      (v.host.cluster.epoch.leaseExpiresAt ≤ 220 ↔
        ∀ t ∈ renewals, t + heartbeatTimeoutSeconds ≤ 220) := by
  obtain ⟨v₀, v, v', renewals, hload, hrun, hpromote, _⟩ :=
    exists_promotion [renewal] 220 (by decide +kernel)
  exact ⟨v₀, v, v', renewals, hload, hrun, hpromote,
    promotion_respects_lease_iff _ _ hload hrun hpromote⟩

/-- 50 seconds after the renewal the standby takes over, 70 seconds before the lease ends. -/
theorem promotion_during_lease :
    ¬∀ (hash : InviteHash) (events : List LeaseEvent) (v₀ v v' : HostView Runtime)
        (renewals : List ℚ) (now : ℚ) (token : String),
      v₀.host.Loaded → leaseRun hash events (v₀, []) = some (v, renewals) →
        Handler.run (Runtime.promoteIfDue now token) v = (.ok true, v') →
          v.host.cluster.epoch.leaseExpiresAt ≤ now := by
  intro h
  obtain ⟨v₀, v, v', renewals, hload, hrun, hpromote, hlease⟩ :=
    exists_promotion [renewal] 150 (by decide +kernel)
  have hle := h _ _ v₀ v v' renewals _ _ hload hrun hpromote
  rcases hlease with hlt | hlate
  · exact absurd hle (not_le.mpr hlt)
  · norm_num at hlate

end Replicas

end ExpraConnect
