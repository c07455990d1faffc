import ExpraConnect.Cluster.FailoverRuns
import ExpraConnect.Runtime.Projection

/-!
# Operations and the registry

Some operations bring the records of the registry up to date after they wrote assignments
(`assign_role`, a join, the failover coordinator's operations), others write assignments and leave
the records alone (an admission, a revocation).

* `Stale`: what goes wrong with the records in an operation;
* `projectsUnless_call`: nothing else does.
-/

namespace ExpraConnect

open ExpraConnect.Lib

/-! ## Operations of the failover coordinator -/

namespace FailoverOp

/-- The entries a method writes, if it commits.  Kind: D -/
def flags (s : RoleState) : FailoverOp → NodeId → Option Bool
  | assignRole _ target _ _ =>
      Function.update (Runtime.flags s.assignmentFor) target (some false)
  | revokeMember _ target => Function.update (Runtime.flags s.assignmentFor) target (some true)
  | _ => Runtime.flags s.assignmentFor

/-- The number and the token of the term it commits, in a term. -/
def term (e : CoordinatorEpoch) : FailoverOp → ℕ × String
  | promoteIfDue _ token => (e.epoch + 1, token)
  | _ => (e.epoch, e.fencingToken)

variable {m : FailoverOp} {s t : RoleState}

/-- What an operation of the failover coordinator does to the flags.  Kind: L -/
theorem flags_candidate (h : m.candidate s = .ok (some t)) :
    Runtime.flags t.assignmentFor = m.flags s := by
  cases m with
  | heartbeat node token now =>
      obtain ⟨_, _, _, _, _, has⟩ := FailoverCoordinator.heartbeat_eq_some h
      unfold RoleState.assignmentFor
      rw [has]
      rfl
  | promoteIfDue now token =>
      obtain ⟨_, _, _, _, hsucc, has⟩ := FailoverCoordinator.promoteIfDue_eq_some h
      exact Runtime.flags_of_promoted hsucc has
  | rejoinAsWorker node currentEpoch =>
      obtain ⟨u, hu, heq⟩ := Except.bind_eq_ok.mp h
      cases heq
      exact Runtime.flags_of_rejoinAsWorker hu
  | assignRole actor target roles now =>
      obtain ⟨⟨u, change⟩, hu, heq⟩ := Except.bind_eq_ok.mp h
      cases heq
      exact Runtime.flags_of_assigned (RoleState.assigned_of_assign hu)
  | revokeMember actor target =>
      obtain ⟨u, hu, heq⟩ := Except.bind_eq_ok.mp h
      cases heq
      obtain ⟨b, hb⟩ := RoleState.revoked_of_revoke hu
      exact Runtime.flags_of_revoked hb

/-- What an operation of the failover coordinator does to the term.  Kind: L -/
theorem term_candidate (h : m.candidate s = .ok (some t)) (old : CoordinatorEpoch) :
    ((t.epoch.getD old).epoch, (t.epoch.getD old).fencingToken) = m.term (s.epoch.getD old) := by
  cases he : s.epoch with
  | some e =>
      obtain ⟨e', he', ⟨now, token, rfl, hsucc⟩ | ⟨hne, hsame⟩⟩ := term_cases he h
      · rw [he', Option.getD_some, Option.getD_some, hsucc.epoch, hsucc.fencingToken]
        rfl
      · rw [he', Option.getD_some, Option.getD_some, hsame.epoch, hsame.fencingToken]
        cases m with
        | promoteIfDue now token => exact absurd rfl (hne now token)
        | _ => rfl
  | none =>
      cases m with
      | heartbeat node token now =>
          obtain ⟨_, _, hsome, _⟩ := FailoverCoordinator.heartbeat_eq_some h
          cases he.symm.trans hsome
      | promoteIfDue now token =>
          obtain ⟨_, _, hsome, _⟩ := FailoverCoordinator.promoteIfDue_eq_some h
          cases he.symm.trans hsome
      | rejoinAsWorker node currentEpoch =>
          obtain ⟨u, hu, heq⟩ := Except.bind_eq_ok.mp h
          cases heq
          obtain ⟨_, ⟨rfl, _⟩ | ⟨_, _, _, hte, _, _⟩⟩ := RoleState.rejoinAsWorker_writes hu
          · rw [he]
            rfl
          · rw [hte, he]
            rfl
      | assignRole actor target roles now =>
          obtain ⟨⟨u, change⟩, hu, heq⟩ := Except.bind_eq_ok.mp h
          cases heq
          rw [(RoleState.assigned_of_assign hu).epoch, he]
          rfl
      | revokeMember actor target =>
          obtain ⟨u, hu, heq⟩ := Except.bind_eq_ok.mp h
          cases heq
          obtain ⟨_, hb⟩ := RoleState.revoked_of_revoke hu
          rw [hb.epoch, he]
          rfl

end FailoverOp

namespace MembershipOp

/-- The method of the failover coordinator behind an operation of the host application.
Source: `remote/role_operations.py`, `RuntimeClusterOperations`.  Kind: D -/
def method (v : HostView Runtime) : MembershipOp → Option FailoverOp
  | request _ | join _ _ _ => none
  | assignRole target role =>
      some (.assignRole v.host.cluster.localAssignment target {role} v.clock)
  | revokeMember target => some (.revokeMember v.host.cluster.localAssignment target)
  | heartbeat coordinatorId fencingToken now => some (.heartbeat coordinatorId fencingToken now)
  | promoteIfDue now token => some (.promoteIfDue now token)
  | rejoinAsWorker nodeId currentEpoch => some (.rejoinAsWorker nodeId currentEpoch)

/-- A committing operation whose answer is dropped.  Kind: L -/
theorem run_commitFrom_bind {α : Type} (f : Runtime → Except PyError (Option RoleState × α))
    (v : HostView Runtime) :
    Handler.run (do let _ ← Runtime.commitFrom f; return true) v =
      match f v.host with
      | .error e => (.error e, v)
      | .ok (none, _) => (.ok true, v)
      | .ok (some c, _) => Handler.run (do Runtime.commit c; return true) v := by
  rw [Handler.run_bind, Runtime.run_commitFrom]
  rcases f v.host with e | ⟨_ | c, a⟩
  · rfl
  · rfl
  · simp only [Handler.run_bind]
    rcases Handler.run (Runtime.commit c) v with ⟨e | u, w⟩
    · rfl
    · rfl

/-- Such an operation commits what the method decides.  Kind: L -/
theorem run_call_of_method (hash : InviteHash) {o : MembershipOp} {v : HostView Runtime}
    {m : FailoverOp} (h : o.method v = some m) :
    Handler.run (o.call hash) v =
      match m.candidate v.host.failover with
      | .error e => (.error e, v)
      | .ok none => (.ok false, v)
      | .ok (some c) => Handler.run (do Runtime.commit c; return true) v := by
  cases o with
  | request r => cases h
  | join peer invite response => cases h
  | assignRole target role =>
      cases h
      change Handler.run (do let _ ← Runtime.commitFrom fun rt => _; return true) v = _
      rw [run_commitFrom_bind]
      simp only [FailoverOp.candidate]
      cases v.host.failover.assign v.host.cluster.localAssignment target {role} v.clock with
      | error e => rfl
      | ok r => rfl
  | revokeMember target =>
      cases h
      change Handler.run (do let _ ← Runtime.commitFrom fun rt => _; return true) v = _
      rw [run_commitFrom_bind]
      simp only [FailoverOp.candidate]
      cases v.host.failover.revoke v.host.cluster.localAssignment target with
      | error e => rfl
      | ok c => rfl
  | heartbeat node token now =>
      cases h
      refine (Runtime.run_commitFrom _ v).trans ?_
      simp only [FailoverOp.candidate]
      rcases FailoverCoordinator.heartbeat v.host.failover node token now with e | _ | c
      · rfl
      · rfl
      · rfl
  | promoteIfDue now token =>
      cases h
      refine (Runtime.run_commitFrom _ v).trans ?_
      simp only [FailoverOp.candidate]
      rcases FailoverCoordinator.promoteIfDue v.host.failover now token with e | _ | c
      · rfl
      · rfl
      · rfl
  | rejoinAsWorker node currentEpoch =>
      cases h
      change Handler.run (do let _ ← Runtime.commitFrom fun rt => _; return true) v = _
      rw [run_commitFrom_bind]
      simp only [FailoverOp.candidate]
      cases ExpraConnect.rejoinAsWorker v.host.failover node currentEpoch with
      | error e => rfl
      | ok c => rfl

end MembershipOp

namespace Runtime

/-- The service does not accept the term that a method commits.  Kind: D -/
def TermRefused (m : FailoverOp) (v : HostView Runtime) : Prop :=
  v.host.service = true ∧ ∃ e, v.auth.updateClusterFence v.host.cluster.clusterId
    (m.term (v.host.failover.epoch.getD v.host.cluster.epoch)).1
    (m.term (v.host.failover.epoch.getD v.host.cluster.epoch)).2 = .error e

section commits

variable {v : HostView Runtime}

/-- The runtime when the candidate is written to the cluster and saved. -/
def written (c : RoleState) (rt : Runtime) : Runtime :=
  { rt with
    cluster := overwrite rt.cluster c
    clusterCapabilityGrants := c.capabilityGrants }

/-- A commit brings the records up to date, unless the service refuses the term before.  Kind: L -/
theorem projectsUnless_commit (h : v.host.Projects) (c : RoleState) :
    ProjectsUnless (commit c) v (v.host.persists = true ∧
      (v.host.Misfit (flags c.assignmentFor) ∨
        FenceRefused { v with host := v.host.written c })) := by
  have hlast : Handler.Keeps projected
      (Handler.ofPyM (modify fun rt : Runtime => { rt with failover := c })) :=
    Handler.keeps_ofPyM fun _ => rfl
  refine ProjectsUnless.bind_keeps ?_ fun _ => hlast
  have hwrite := writeFailoverState_eq c v.host
  unfold persistFailoverState
  by_cases hsaved : v.host.persists = true
  · rw [if_pos hsaved] at hwrite
    refine projectsUnless_bind_of_ok (Handler.run_ofPyM_of_ok hwrite) ?_
    change ProjectsUnless _ { v with host := v.host.written c } _
    have hfence := keeps_updateFence (g := id) { v with host := v.host.written c }
    rcases hrun : Handler.run updateFence { v with host := v.host.written c } with ⟨e | u, w⟩
    · have hrefused := raises_updateFence_iff.mp ⟨e, w, hrun⟩
      refine projectsUnless_of_error (e := e) (w := w) ?_ fun hnot => ?_
      · rw [Handler.run_bind, hrun]
      · exact absurd ⟨hsaved, .inr hrefused⟩ hnot
    · have hallowed : ¬FenceRefused { v with host := v.host.written c } := by
        rw [← raises_updateFence_iff]
        rintro ⟨e, w', hraises⟩
        cases hrun.symm.trans hraises
      rw [hrun] at hfence
      have hhost : w.host = v.host.written c := hfence
      have hmembers : w.host.cluster.assignments.get? = c.assignmentFor := by
        funext node
        rw [hhost]
        exact Assignments.get?_ofList c.valid.ids node
      have hhydrate := projectsUnless_hydrate (w := w) h (by rw [hhost]; rfl) (by rw [hhost]; rfl)
      rw [hmembers] at hhydrate
      have hrest := hhydrate.bind_keeps (k := fun _ => refreshLiveGrants) fun _ =>
        keeps_refreshLiveGrants
      refine projectsUnless_bind_of_ok hrun (hrest.congr ?_)
      exact ⟨fun hmisfit => ⟨hsaved, .inl hmisfit⟩, fun hbad => hbad.2.resolve_right hallowed⟩
  · rw [if_neg hsaved] at hwrite
    refine projectsUnless_of_error (e := ⟨.runtime, "failover state was not durably persisted"⟩)
      (w := v) ?_ fun _ => h
    rw [Handler.run_bind, Handler.run_ofPyM_of_error hwrite]

/-- What goes wrong with the records when a method of the failover coordinator is called.
Kind: D -/
def StaleMethod (m : FailoverOp) (v : HostView Runtime) : Prop :=
  (∃ c, m.candidate v.host.failover = .ok (some c)) ∧ v.host.persists = true ∧
    (v.host.Misfit (m.flags v.host.failover) ∨ TermRefused m v)

/-- A membership call projects unless its method was stale.  Kind: L -/
theorem projectsUnless_method {hash : InviteHash} {o : MembershipOp} {m : FailoverOp}
    (h : v.host.Projects) (ho : o.method v = some m) :
    ProjectsUnless (o.call hash) v (StaleMethod m v) := by
  have hcall := MembershipOp.run_call_of_method hash ho
  unfold StaleMethod
  rcases hcand : m.candidate v.host.failover with e | _ | c
  · rw [hcand] at hcall
    exact projectsUnless_of_error hcall fun _ => h
  · rw [hcand] at hcall
    refine ⟨fun _ => ?_, fun a w _ hbad => ?_⟩
    · rw [hcall]
      exact h
    · obtain ⟨⟨c, hc⟩, _⟩ := hbad
      cases hc
  · rw [hcand] at hcall
    have hcommit := (projectsUnless_commit h c).bind_keeps
      (k := fun _ => (return true : Handler Runtime Bool)) fun _ => Handler.keeps_pure _
    have hterm : FenceRefused { v with host := v.host.written c } ↔ TermRefused m v := by
      unfold FenceRefused TermRefused
      rw [← FailoverOp.term_candidate hcand]
      rfl
    rw [hterm, FailoverOp.flags_candidate hcand] at hcommit
    refine ⟨fun hnot => ?_, fun a w hok hbad => ?_⟩
    · rw [hcall]
      exact hcommit.projects fun hbad => hnot ⟨⟨c, rfl⟩, hbad⟩
    · rw [hcall] at hok
      exact hcommit.fails a w hok hbad.2

end commits

/-! ## Requests -/

/-- What goes wrong with the records in a request of `caller` that passed the checks: an admission
of a node whose record does not show a Worker, an assignment that brings the records up to date with
a misfit, or a revocation of a node that has a record.  Kind: D -/
def StaleRequest (hash : InviteHash) (op : Op) (params : Fields) (caller : NodeId)
    (v : HostView Runtime) : Prop :=
  match op with
  | .consumeInvite =>
      ∃ token invite, strParam "token" params = .ok token ∧
        Cluster.Spends hash v.host.cluster token caller v.clock invite ∧
          ¬AdmissionRefused caller v.host.cluster ∧ v.host.persists = true ∧
            v.host.HasRecord caller ∧ ∀ a, v.host.cluster.assignments.get? caller = some a →
              registryRole a ≠ .worker
  | .assignRole =>
      ∃ target, nodeParam "target_node_id" params = .ok target ∧
        (∃ rt, MemberChange op params caller v.clock v.host rt) ∧
          v.host.Misfit (Function.update (flags v.host.cluster.assignments.get?) target
            (some false))
  | .revokeMember | .revokeWorker =>
      ∃ target, nodeParam "target_node_id" params = .ok target ∧
        (∃ rt, MemberChange op params caller v.clock v.host rt) ∧ v.host.HasRecord target
  | _ => False

section requests

variable {hash : InviteHash} {op : Op} {opText : String} {params : Fields} {caller : NodeId}
  {v : HostView Runtime} {rt : Runtime} {state : RoleState}

/-- The assignments of a request's role state are the cluster's.  Kind: L -/
theorem assignmentFor_of_requestState (h : v.host.requestState = .ok state) :
    state.assignmentFor = v.host.cluster.assignments.get? := by
  obtain ⟨_, has, _, _, _⟩ := RoleState.new_eq_ok_iff.mp h
  funext node
  rw [RoleState.assignmentFor, has, Assignments.find?_values]

/-- Applying a role state, the members are its assignments.  Kind: L -/
theorem get?_applyMembers (t : RoleState) :
    (v.host.applyMembers t).cluster.assignments.get? = t.assignmentFor := by
  funext node
  exact Assignments.get?_ofList t.valid.ids node

/-- An entry that is replaced by one with its roles and standing shows as before.  Kind: L -/
theorem projects_of_replaced {t : RoleState} {b : RoleAssignment} {target : NodeId}
    (h : v.host.Projects) (hstate : v.host.requestState = .ok state)
    (hb : RoleState.Replaced state target t b) : (v.host.applyMembers t).Projects := by
  have hget : ∀ node, (v.host.applyMembers t).cluster.assignments.get? node =
      if node = target then (v.host.cluster.assignments.get? node).map fun _ => b
      else v.host.cluster.assignments.get? node := by
    intro node
    rw [get?_applyMembers, assignmentFor_of_replaced hb.node hb.assignments,
      assignmentFor_of_requestState hstate]
  refine (h.step_iff (v.host.applyMembers t) target rfl rfl
    fun node hne => ?_).mpr fun _ => ?_
  · rw [hget, if_neg hne]
  · obtain ⟨cur, hcur, hroles, hrev⟩ := hb.current
    rw [assignmentFor_of_requestState hstate] at hcur
    rw [hget, if_pos rfl, hcur]
    refine Mirroring.standing_congr ?_ ?_
    · simp only [registryMirror, hrev]
    · simp only [registryMirror, registryRole_congr hroles]

/-- A revocation leaves the record of its target as it was.  Kind: L -/
theorem projects_of_revoked_iff {t : RoleState} {actor b : RoleAssignment} {target : NodeId}
    (h : v.host.Projects) (hstate : v.host.requestState = .ok state)
    (hb : RoleState.Revoked state actor target t b) :
    (v.host.applyMembers t).Projects ↔ ¬v.host.HasRecord target := by
  have hget : ∀ node, (v.host.applyMembers t).cluster.assignments.get? node =
      if node = target then (v.host.cluster.assignments.get? node).map fun _ => b
      else v.host.cluster.assignments.get? node := by
    intro node
    rw [get?_applyMembers, assignmentFor_of_replaced hb.node hb.assignments,
      assignmentFor_of_requestState hstate]
  refine (h.step_iff (v.host.applyMembers t) target rfl rfl
    fun node hne => ?_).trans ?_
  · rw [hget, if_neg hne]
  · obtain ⟨cur, hcur, hrev⟩ := hb.member
    rw [assignmentFor_of_requestState hstate] at hcur
    rw [hget, if_pos rfl, hcur]
    simp [Mirroring.standing, registryMirror, Option.filter, hrev, hb.revoked]

/-- A redeemed invite was saved.  Kind: L -/
theorem persists_of_consumeInviteRequest {reply : Fields}
    (h : consumeInviteRequest hash params caller v.clock v.host = .ok reply rt) :
    v.host.persists = true := by
  obtain ⟨token, invite, c', htoken, hconsume, _, _⟩ := consumeInviteRequest_eq_ok h
  rw [consumeInviteRequest_eq hash caller v.clock v.host htoken] at h
  simp only [hconsume] at h
  by_contra hnot
  rw [if_neg hnot] at h
  cases h

/-- A node that became a Worker has a record that shows something else, if it had one that did.
Kind: L -/
theorem projects_of_admitted_iff {token : String} {invite : InviteRecord} {u : Unit} {c₁ : Cluster}
    (h : v.host.Projects) (htoken : strParam "token" params = .ok token)
    (hpersists : v.host.persists = true)
    (hspends : Cluster.Spends hash v.host.cluster token caller v.clock invite)
    (hassign : Cluster.assign caller .worker v.clock (v.host.cluster.spent hash token) = .ok u c₁)
    (hreg : rt.registry = v.host.registry) (has : rt.cluster.assignments = c₁.assignments)
    (hcoord : rt.cluster.coordinatorId = c₁.coordinatorId) :
    rt.Projects ↔ ¬StaleRequest hash .consumeInvite params caller v := by
  have hallowed : ¬AdmissionRefused caller v.host.cluster := by
    rw [← assign_isError_iff hspends]
    rintro ⟨e, c', herr⟩
    rw [hassign] at herr
    cases herr
  obtain ⟨s, t, change, hstate, hassigned, rfl⟩ := Cluster.assign_eq_ok hassign
  obtain ⟨_, hs, _, _, _⟩ := RoleState.new_eq_ok_iff.mp hstate
  have hw := RoleState.assigned_of_assign hassigned
  have hmembers : s.assignmentFor = v.host.cluster.assignments.get? := by
    funext node
    rw [RoleState.assignmentFor, hs, Assignments.find?_values]
    rfl
  have hget : ∀ node, rt.cluster.assignments.get? node = t.assignmentFor node := by
    intro node
    rw [has]
    exact Assignments.get?_ofList t.valid.ids node
  have hworker : registryRole change.assignment = .worker := by
    unfold registryRole
    rw [hw.roles]
    decide
  refine (h.step_iff rt caller hreg hcoord fun node hne => ?_).trans ?_
  · rw [hget, RoleState.assignmentFor_of_substitute _ hw.node hne hw.assignments, hmembers]
  · rw [hget, hw.assignmentFor, Mirroring.standing_of_live (by simp [registryMirror, hw.revoked])]
    constructor
    · rintro hsame ⟨token', _, _, _, _, _, hrecord, hother⟩
      have hstands := (hsame hrecord).symm
      cases hcur : v.host.cluster.assignments.get? caller with
      | none => simp [hcur, Mirroring.standing_none] at hstands
      | some cur =>
          rw [hcur] at hstands
          have hlive : registryMirror.live cur = true := by
            by_contra hdead
            simp [Mirroring.standing, Option.filter, hdead] at hstands
          rw [Mirroring.standing_of_live hlive] at hstands
          have hrole := congrArg Prod.fst (Option.some.inj hstands)
          exact hother cur hcur (hrole.trans hworker)
    · intro hnot hrecord
      by_contra hne
      refine hnot ⟨token, invite, htoken, hspends, hallowed, hpersists, hrecord, fun cur hcur hrole =>
        hne ?_⟩
      have hrev : cur.revoked = false := by
        by_contra hrevoked
        exact hallowed (.inr (.inr ⟨cur, hcur, by simpa using hrevoked⟩))
      rw [hcur, Mirroring.standing_of_live (by simp [registryMirror, hrev])]
      simp only [registryMirror, hrole, hworker]

/-- A change of a member's request, with what follows it.  Kind: L -/
theorem projectsUnless_followUp (h : v.host.Projects) (hop : Op.ofString? opText = some op)
    (hchange : MemberChange op params caller v.clock v.host rt) :
    ProjectsUnless (followUp opText).perform { v with host := rt }
      (StaleRequest hash op params caller v) := by
  have haccepted : ∃ rt, MemberChange op params caller v.clock v.host rt := ⟨rt, hchange⟩
  obtain ⟨actor, state, _, hstate, hchange⟩ := hchange
  unfold followUp
  rw [hop]
  cases op
  case renewCoordinatorLease =>
    obtain ⟨_, _, token, epoch, _, hrenew, rfl⟩ := hchange
    refine projectsUnless_of_keeps keeps_updateFence (iff_of_true ?_ not_false)
    refine (projects_congr ?_).mpr h
    simp only [projected, Cluster.coordinatorId, (renewed_of_renewLease hrenew).coordinatorId]
  case assignRole =>
    obtain ⟨_, _, target, text, role, ⟨t, change⟩, htarget, _, _, hassign, rfl⟩ := hchange
    have hflags : flags (v.host.applyMembers t).cluster.assignments.get? =
        Function.update (flags v.host.cluster.assignments.get?) target (some false) := by
      rw [get?_applyMembers, flags_of_assigned (RoleState.assigned_of_assign hassign),
        assignmentFor_of_requestState hstate]
    have hhydrate := projectsUnless_hydrate (w := { v with host := v.host.applyMembers t }) h
      rfl rfl
    rw [hflags] at hhydrate
    have hrest := hhydrate.bind_keeps (k := fun _ => refreshLiveGrants) fun _ =>
      keeps_refreshLiveGrants
    refine hrest.congr ⟨fun hmisfit => ⟨target, htarget, haccepted, hmisfit⟩, ?_⟩
    rintro ⟨target', htarget', _, hmisfit⟩
    cases htarget.symm.trans htarget'
    exact hmisfit
  case revokeMember | revokeWorker =>
    obtain ⟨_, target, t, htarget, htrans, rfl⟩ := hchange
    obtain ⟨b, hb⟩ := RoleState.revoked_of_revoke htrans
    refine projectsUnless_of_keeps keeps_refreshLiveGrants ?_
    refine (projects_of_revoked_iff h hstate hb).trans (not_congr ?_)
    constructor
    · exact fun hrecord => ⟨target, htarget, haccepted, hrecord⟩
    · rintro ⟨target', htarget', _, hrecord⟩
      cases htarget.symm.trans htarget'
      exact hrecord
  case grantCapabilities | revokeCapabilities | syncCapabilityGrant =>
    obtain ⟨_, _, subject, target, t, _, _, _, rfl⟩ := hchange
    exact projectsUnless_of_keeps keeps_refreshLiveGrants
      (iff_of_true ((projects_congr rfl).mpr h) not_false)
  case pauseWorker =>
    obtain ⟨_, target, t, _, htrans, rfl⟩ := hchange
    obtain ⟨b, hb⟩ := RoleState.replaced_of_pause htrans
    exact projectsUnless_of_keeps (Handler.keeps_pure _)
      (iff_of_true (projects_of_replaced h hstate hb) not_false)
  case resumeWorker =>
    obtain ⟨_, target, t, _, htrans, rfl⟩ := hchange
    obtain ⟨b, hb⟩ := RoleState.replaced_of_resume htrans
    exact projectsUnless_of_keeps (Handler.keeps_pure _)
      (iff_of_true (projects_of_replaced h hstate hb) not_false)
  case removeJob =>
    obtain ⟨_, target, t, _, htrans, rfl⟩ := hchange
    obtain ⟨b, hb⟩ := RoleState.replaced_of_job htrans
    exact projectsUnless_of_keeps (Handler.keeps_pure _)
      (iff_of_true (projects_of_replaced h hstate hb) not_false)
  case removeConnection =>
    obtain ⟨target, _, _, rfl⟩ := hchange
    exact projectsUnless_of_keeps (Handler.keeps_pure _)
      (iff_of_true ((projects_congr rfl).mpr h) not_false)
  case workerSnapshot | standbyBatch =>
    cases hchange
    exact projectsUnless_of_keeps (Handler.keeps_pure _) (iff_of_true h not_false)
  all_goals exact hchange.elim

/-- An admission: the record of a node that becomes a Worker is left as it was.  Kind: L -/
theorem projectsUnless_consumeInviteRequest (h : v.host.Projects) :
    ProjectsUnless (Handler.ofPyM (consumeInviteRequest hash params caller v.clock)) v
      (StaleRequest hash .consumeInvite params caller v) := by
  cases hreq : consumeInviteRequest hash params caller v.clock v.host with
  | error e rt =>
      refine projectsUnless_of_error (Handler.run_ofPyM_of_error hreq) fun _ => ?_
      -- whatever is left of it, the members and the term are what they were
      rcases consumeInviteRequest_eq_error hreq with
        rfl | ⟨token, _, ⟨c', hrun, rfl⟩ | ⟨invite, c', hrun, _, rfl⟩⟩
      · exact h
      · rcases Cluster.consumeInvite_eq_error hrun with rfl | ⟨_, _, rfl⟩
        · exact h
        · exact (projects_congr rfl).mpr h
      · refine (projects_congr ?_).mpr h
        rcases Cluster.consumeInvite_eq_ok hrun with ⟨_, _, _, rfl⟩ | ⟨_, u, c₁, hassign, rfl⟩
        · rfl
        · obtain ⟨s, t, change, _, _, rfl⟩ := Cluster.assign_eq_ok hassign
          rfl
  | ok reply rt =>
      have hrun := Handler.run_ofPyM_of_ok (v := v) hreq
      obtain ⟨token, invite, c', htoken, hconsume, rfl, _⟩ := consumeInviteRequest_eq_ok hreq
      have hiff : Projects { v.host with cluster := c' } ↔
          ¬StaleRequest hash .consumeInvite params caller v := by
        rcases Cluster.consumeInvite_eq_ok hconsume with
          ⟨hstored, _, _, rfl⟩ | ⟨hspends, u, c₁, hassign, rfl⟩
        · refine iff_of_true h ?_
          rintro ⟨token', _, htoken', hspends, _⟩
          cases htoken.symm.trans htoken'
          rw [hspends.noAdmission] at hstored
          cases hstored
        · exact projects_of_admitted_iff h htoken (persists_of_consumeInviteRequest hreq) hspends
            hassign rfl rfl rfl
      refine ⟨fun hnot => ?_, fun a w hok hbad hw => ?_⟩
      · rw [hrun]
        exact hiff.mpr hnot
      · rw [hrun] at hok
        cases hok
        exact hiff.mp hw hbad

/-- A request brings the records up to date, or leaves them alone, as its operation says.
Kind: L -/
theorem projectsUnless_dispatchRoleRequest {request : RemoteRequest} (h : v.host.Projects) :
    ProjectsUnless (dispatchRoleRequest hash request) v
      (∃ op caller, Op.ofString? request.op = some op ∧ authorizeRole request v.host = .ok caller ∧
        StaleRequest hash op request.params caller v) := by
  have hrun := run_dispatchRoleRequest hash request v
  cases hauth : authorizeRole request v.host with
  | error e =>
      simp only [hauth] at hrun
      exact projectsUnless_of_error hrun fun _ => h
  | ok caller =>
      have hcaller : ∀ {op : Op} {caller' : NodeId}, (Except.ok caller : Except PyError NodeId) =
          .ok caller' → StaleRequest hash op request.params caller' v →
            StaleRequest hash op request.params caller v := by
        intro op caller' heq hstale
        cases heq
        exact hstale
      by_cases hop : Op.ofString? request.op = some .consumeInvite
      · -- nothing follows an admission
        have hdispatch : Handler.run (dispatchRoleRequest hash request) v =
            Handler.run (Handler.ofPyM
              (consumeInviteRequest hash request.params caller v.clock)) v := by
          rw [hrun]
          simp only [hauth, roleRequest_eq_consumeInviteRequest hop, followUp, hop]
          cases hreq : consumeInviteRequest hash request.params caller v.clock v.host with
          | error e rt => rw [Handler.run_ofPyM_of_error hreq]
          | ok reply rt =>
              rw [Handler.run_ofPyM_of_ok hreq]
              rfl
        have hconsume : ProjectsUnless (Handler.ofPyM
            (consumeInviteRequest hash request.params caller v.clock)) v
            (StaleRequest hash .consumeInvite request.params caller v) :=
          projectsUnless_consumeInviteRequest h
        have hunless : ProjectsUnless (dispatchRoleRequest hash request) v
            (StaleRequest hash .consumeInvite request.params caller v) := by
          refine ⟨fun hnot => ?_, fun a w hok => ?_⟩
          · rw [hdispatch]
            exact hconsume.projects hnot
          · rw [hdispatch] at hok
            exact hconsume.fails a w hok
        refine hunless.congr ⟨fun hstale => ⟨_, caller, hop, rfl, hstale⟩, ?_⟩
        rintro ⟨op, caller', hop', hcaller', hstale⟩
        cases hop.symm.trans hop'
        exact hcaller hcaller' hstale
      · simp only [hauth, roleRequest_eq_memberRequest hop] at hrun
        cases hreq : memberRequest request.op request.params caller v.clock v.host with
        | error e rt =>
            simp only [hreq] at hrun
            refine projectsUnless_of_error hrun fun _ => ?_
            rw [memberRequest_eq_error hreq]
            exact h
        | ok reply rt =>
            simp only [hreq] at hrun
            obtain ⟨op, hof, hchange⟩ := change_of_memberRequest hreq
            have hfollow : ProjectsUnless (followUp request.op).perform { v with host := rt }
                (StaleRequest hash op request.params caller v) :=
              projectsUnless_followUp h hof hchange
            have hunless : ProjectsUnless (dispatchRoleRequest hash request) v
                (StaleRequest hash op request.params caller v) := by
              rcases hlast : Handler.run (followUp request.op).perform { v with host := rt } with
                ⟨e | u, w⟩
              · rw [hlast] at hrun
                refine projectsUnless_of_error hrun fun hnot => ?_
                have hw := hfollow.projects hnot
                rwa [hlast] at hw
              · rw [hlast] at hrun
                refine ⟨fun hnot => ?_, fun a w' hok hbad => ?_⟩
                · rw [hrun]
                  have hw := hfollow.projects hnot
                  rwa [hlast] at hw
                · rw [hrun] at hok
                  cases hok
                  exact hfollow.fails u w hlast hbad
            refine hunless.congr ⟨fun hstale => ⟨op, caller, hof, rfl, hstale⟩, ?_⟩
            rintro ⟨op', caller', hof', hcaller', hstale⟩
            cases hof.symm.trans hof'
            exact hcaller hcaller' hstale

end requests

/-! ## Joins -/

/-- The checks of a join pass, and it is saved; `identity` is the joiner and `epoch` the term it
takes over.  Source: `remote/role_operations.py`, `join_cluster`.  Kind: D -/
structure Joins (peer : Option NodeId) (invite : InviteRecord) (response : Value) (rt : Runtime)
    (identity : NodeId) (epoch : CoordinatorEpoch) : Prop where
  /-- `pairing.can_join_cluster(peer_id)` -/
  paired : ∃ pairing, rt.pairing = some pairing ∧ peer.any pairing.canJoinCluster = true
  /-- `_identity.node_id` -/
  known : rt.identity = some identity
  /-- The response is not malformed. -/
  checked : ∃ fields, checkJoinResponse identity invite response = .ok fields
  /-- `type(cluster.epoch)(...)` returns. -/
  term : ∃ node, NodeId.new invite.coordinatorId = .ok node ∧
    CoordinatorEpoch.new invite.epoch node invite.fencingToken rt.cluster.epoch.issuedAt
      rt.cluster.epoch.leaseExpiresAt = .ok epoch
  /-- `_save_persisted_state()` -/
  saved : rt.persists = true

/-- The joiner's runtime before the records are brought up to date. -/
def joined (invite : InviteRecord) (identity : NodeId) (epoch : CoordinatorEpoch) (rt : Runtime) :
    Runtime :=
  { rt with cluster := { rt.cluster with
      clusterId := invite.clusterId
      epoch := epoch
      assignments := Assignments.ofList [RoleAssignment.worker identity]
      online := Dict.empty.insert identity true
      promotionEpochs := ∅
      capabilityGrants := [] } }

section joins

variable {peer : Option NodeId} {invite : InviteRecord} {response : Value} {v : HostView Runtime}
  {rt rt' : Runtime}

/-- A join that returns has joined.  Kind: L -/
theorem joins_of_joinStep {fields : Fields}
    (h : joinStep peer invite response rt = .ok fields rt') :
    ∃ identity epoch, Joins peer invite response rt identity epoch ∧
      rt' = joined invite identity epoch rt := by
  simp only [joinStep, PyM.get_bind_eq_ok] at h
  cases hp : rt.pairing with
  | none => simp [hp] at h
  | some pairing =>
      cases hid : rt.identity with
      | none => simp [hp, hid] at h
      | some identity =>
          simp only [hp, hid, PyM.raiseIf_bind_eq_ok, PyM.ofExcept_bind_eq_ok,
            PyM.set_bind_eq_ok, saveOr_bind_eq_ok, PyM.pure_eq_ok] at h
          obtain ⟨hpaired, f, hcheck, node, hnode, epoch, hepoch, hsaved, _, rfl⟩ := h
          exact ⟨identity, epoch, ⟨⟨pairing, hp, by simpa using hpaired⟩, hid, ⟨f, hcheck⟩,
            ⟨node, hnode, hepoch⟩, hsaved⟩, by simp only [joined, hid, hp]⟩

/-- A join that raises leaves the runtime as it was.  Kind: L -/
theorem joinStep_eq_error {e : PyError} (h : joinStep peer invite response rt = .error e rt') :
    rt' = rt := by
  simp only [joinStep, PyM.get_bind_eq_error] at h
  cases hp : rt.pairing with
  | none =>
      simp only [hp, PyM.throw_eq_error] at h
      exact h.2.symm
  | some pairing =>
      cases hid : rt.identity with
      | none =>
          simp only [hp, hid, PyM.raiseIf_bind_eq_error, PyM.throw_eq_error] at h
          rcases h with ⟨_, _, hs⟩ | ⟨_, _, hs⟩
          · exact hs.symm
          · exact hs.symm
      | some identity =>
          simp only [hp, hid, PyM.raiseIf_bind_eq_error, PyM.ofExcept_bind_eq_error,
            PyM.set_bind_eq_error, saveOr_bind_eq_error, PyM.pure_eq_error] at h
          rcases h with ⟨_, _, hs⟩ | ⟨_, ⟨_, hs⟩ | ⟨_, _, ⟨_, hs⟩ | ⟨_, _, ⟨_, hs⟩ |
            ⟨_, _, ⟨_, _, hs⟩ | ⟨_, hfalse⟩⟩⟩⟩⟩
          · exact hs.symm
          · exact hs
          · exact hs
          · exact hs
          · exact hs
          · exact hfalse.elim

/-- What goes wrong with the records in a join.  Kind: D -/
def StaleJoin (peer : Option NodeId) (invite : InviteRecord) (response : Value)
    (v : HostView Runtime) : Prop :=
  ∃ identity epoch, Joins peer invite response v.host identity epoch ∧
    v.host.Misfit (Function.update (fun _ => none) identity (some false))

/-- A join brings the records up to date.  Kind: L -/
theorem projectsUnless_joinCluster (h : v.host.Projects) :
    ProjectsUnless (joinCluster peer invite response) v (StaleJoin peer invite response v) := by
  unfold joinCluster
  cases hstep : joinStep peer invite response v.host with
  | error e rt =>
      refine projectsUnless_of_error (e := e) (w := { v with host := rt }) ?_ fun _ => ?_
      · rw [Handler.run_bind, Handler.run_ofPyM_of_error hstep]
      · rw [joinStep_eq_error hstep]
        exact h
  | ok fields rt =>
      obtain ⟨identity, epoch, hjoins, rfl⟩ := joins_of_joinStep hstep
      refine projectsUnless_bind_of_ok (Handler.run_ofPyM_of_ok hstep) ?_
      have hflags : flags (joined invite identity epoch v.host).cluster.assignments.get? =
          Function.update (fun _ => none) identity (some false) := by
        funext node
        have hget : (joined invite identity epoch v.host).cluster.assignments.get? node =
            [RoleAssignment.worker identity].find? fun a => decide (a.nodeId = some node) :=
          Assignments.get?_ofList (by simp [RoleAssignment.worker]) node
        unfold flags
        rw [hget]
        by_cases hnode : node = identity
        · subst hnode
          simp [RoleAssignment.worker]
        · simp [RoleAssignment.worker, hnode, Ne.symm hnode]
      have hhydrate := projectsUnless_hydrate
        (w := { v with host := joined invite identity epoch v.host }) h rfl rfl
      rw [hflags] at hhydrate
      have hrest := hhydrate.bind_keeps (k := fun _ => (return fields : Handler Runtime Fields))
        fun _ => Handler.keeps_pure _
      refine hrest.congr ⟨fun hmisfit => ⟨identity, epoch, hjoins, hmisfit⟩, ?_⟩
      rintro ⟨identity', epoch', hjoins', hmisfit⟩
      cases hjoins.known.symm.trans hjoins'.known
      exact hmisfit

end joins

/-! ## Every operation -/

/-- What goes wrong with the records in an operation.  Kind: D -/
def StaleOp (hash : InviteHash) (o : MembershipOp) (v : HostView Runtime) : Prop :=
  match o with
  | .request r => ∃ op caller, Op.ofString? r.op = some op ∧
      authorizeRole r v.host = .ok caller ∧ StaleRequest hash op r.params caller v
  | .join peer invite response => StaleJoin peer invite response v
  | o => ∃ m, o.method v = some m ∧ StaleMethod m v

/-- Whatever comes of an operation, the records project the membership afterwards unless something
goes wrong; an operation in which it does and that returns leaves them stale.  Kind: L -/
theorem projectsUnless_call (hash : InviteHash) (o : MembershipOp) {v : HostView Runtime}
    (h : v.host.Projects) : ProjectsUnless (o.call hash) v (StaleOp hash o v) := by
  have hmethod : ∀ m, o.method v = some m → (StaleOp hash o v ↔ StaleMethod m v) →
      ProjectsUnless (o.call hash) v (StaleOp hash o v) :=
    fun m hm hiff => (projectsUnless_method h hm).congr hiff.symm
  have hstale : ∀ m, o.method v = some m →
      ((∃ m', o.method v = some m' ∧ StaleMethod m' v) ↔ StaleMethod m v) := by
    intro m hm
    rw [hm]
    simp
  cases o with
  | request r =>
      exact (projectsUnless_dispatchRoleRequest h).bind_keeps fun _ => Handler.keeps_pure _
  | join peer invite response =>
      exact (projectsUnless_joinCluster h).bind_keeps fun _ => Handler.keeps_pure _
  | assignRole target role => exact hmethod _ rfl (hstale _ rfl)
  | revokeMember target => exact hmethod _ rfl (hstale _ rfl)
  | heartbeat node token now => exact hmethod _ rfl (hstale _ rfl)
  | promoteIfDue now token => exact hmethod _ rfl (hstale _ rfl)
  | rejoinAsWorker node currentEpoch => exact hmethod _ rfl (hstale _ rfl)

end Runtime

end ExpraConnect
