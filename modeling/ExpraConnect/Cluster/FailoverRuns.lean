import ExpraConnect.Cluster.RoleWrites

/-!
# Whole runs of the failover coordinator

`FailoverCoordinator` under any sequence of calls, each with arguments of its own and with a
`persist` that may fail.

* `FailoverCall.step`: one call, with its answer and the state it leaves; `runCalls`: many;
* `Led`: the coordinator of the term is the one active Coordinator, and `_control` accepts it;
* `led_iff_never_demoted`: every state of a run is led exactly when no `rejoin_as_worker` names the
  coordinator of the day at the current term;
* `fencing_across_promotions`: terms are numbered by promotions, each is left at most once, leases
  only grow within a term, and a heartbeat is accepted only with the token of the current term.
-/

namespace ExpraConnect

open ExpraConnect.Lib

/-! ## Calls -/

/-- A method of the failover coordinator, with its arguments.
Source: `cluster/failover.py`, `FailoverCoordinator`.  Kind: D -/
inductive FailoverOp where
  /-- `heartbeat(coordinator_id=..., fencing_token=..., now=...)` -/
  | heartbeat (coordinatorId : NodeId) (fencingToken : String) (now : ℚ)
  /-- `promote_if_due(now=...)`, with the value of `new_fencing_token()`. -/
  | promoteIfDue (now : ℚ) (token : String)
  /-- `rejoin_as_worker(node_id=..., current_epoch=...)` -/
  | rejoinAsWorker (nodeId : NodeId) (currentEpoch : ℤ)
  /-- `assign_role(actor=..., target=..., roles=..., now=...)` -/
  | assignRole (actor : RoleAssignment) (target : NodeId) (roles : Finset ClusterRole) (now : ℚ)
  /-- `revoke_member(actor=..., target=...)` -/
  | revokeMember (actor : RoleAssignment) (target : NodeId)

/-- The state a method commits, `none` where it answers `False` instead.
Source: `cluster/failover.py`, `FailoverCoordinator`.  Kind: D -/
def FailoverOp.candidate : FailoverOp → RoleState → Except PyError (Option RoleState)
  | heartbeat node token now, s => FailoverCoordinator.heartbeat s node token now
  | promoteIfDue now token, s => FailoverCoordinator.promoteIfDue s now token
  | rejoinAsWorker node currentEpoch, s => do
      return some (← ExpraConnect.rejoinAsWorker s node currentEpoch)
  | assignRole actor target roles now, s => do return some (← s.assign actor target roles now).1
  | revokeMember actor target, s => do return some (← s.revoke actor target)

/-- A call: the method, and what `persist` does if the call gets that far. -/
structure FailoverCall where
  /-- The method and its arguments. -/
  op : FailoverOp
  /-- What `persist(candidate)` does. -/
  persist : Except PyError Unit

/-- The answer of a call and the state it leaves; `True` stands for a commit.
Source: `cluster/failover.py`, `FailoverCoordinator._commit` and its callers.  Kind: D -/
def FailoverCall.step (c : FailoverCall) (s : RoleState) : Except PyError Bool × RoleState :=
  match c.op.candidate s with
  | .error e => (.error e, s)
  | .ok none => (.ok false, s)
  | .ok (some candidate) =>
      match c.persist with
      | .error e => (.error e, s)
      | .ok () => (.ok true, candidate)

/-- The state after a sequence of calls. -/
def runCalls (cs : List FailoverCall) (s : RoleState) : RoleState :=
  cs.foldl (fun s c => (c.step s).2) s

@[simp] theorem runCalls_nil (s : RoleState) : runCalls [] s = s := rfl

@[simp] theorem runCalls_cons (c : FailoverCall) (cs : List FailoverCall) (s : RoleState) :
    runCalls (c :: cs) s = runCalls cs (c.step s).2 := rfl

theorem runCalls_append (pre post : List FailoverCall) (s : RoleState) :
    runCalls (pre ++ post) s = runCalls post (runCalls pre s) := by
  unfold runCalls
  rw [List.foldl_append]

/-- A call that answers `True` has committed its candidate.  Kind: L -/
theorem FailoverCall.step_eq_true {c : FailoverCall} {s : RoleState}
    (h : (c.step s).1 = .ok true) : c.op.candidate s = .ok (some (c.step s).2) := by
  unfold step at h ⊢
  cases hc : c.op.candidate s with
  | error e => simp [hc] at h
  | ok o =>
      cases o with
      | none => simp [hc] at h
      | some t =>
          cases hp : c.persist with
          | error e => simp [hc, hp] at h
          | ok u => rfl

/-- A call commits its candidate and answers `True`, or leaves the state as it is.  Kind: L -/
theorem FailoverCall.step_cases (c : FailoverCall) (s : RoleState) :
    ((c.step s).1 = .ok true ∧ c.op.candidate s = .ok (some (c.step s).2)) ∨
      ((c.step s).1 ≠ .ok true ∧ (c.step s).2 = s) := by
  by_cases h : (c.step s).1 = .ok true
  · exact .inl ⟨h, step_eq_true h⟩
  · refine .inr ⟨h, ?_⟩
    unfold step at h ⊢
    cases hc : c.op.candidate s with
    | error e => rfl
    | ok o =>
        cases o with
        | none => rfl
        | some t =>
            cases hp : c.persist with
            | error e => rfl
            | ok u => simp [hc, hp] at h

/-! ## Where a run starts -/

/-- The role state of a new cluster.
Source: `cluster/operations.py`, `ClusterState.create_local`.  Kind: D -/
def RoleState.createLocal (node : NodeId) (token : String) (now : ℚ) :
    Except PyError RoleState := do
  let epoch ← CoordinatorEpoch.new 1 node token now (now + 120)
  RoleState.new [RoleAssignment.coordinator node] (some epoch) ∅ []

/-- A new cluster has its creator as coordinator of the first term.  Kind: L -/
theorem RoleState.createLocal_eq_ok {node : NodeId} {token : String} {now : ℚ} {s : RoleState}
    (h : RoleState.createLocal node token now = .ok s) :
    s.assignments = [RoleAssignment.coordinator node] ∧
      (∃ e, s.epoch = some e ∧ e.epoch = 1 ∧ e.coordinatorId = node) ∧ s.Lone := by
  obtain ⟨e, he, hs⟩ := Except.bind_eq_ok.mp h
  obtain ⟨hepoch, hnode, _, _, _⟩ := CoordinatorEpoch.new_eq_ok he
  obtain ⟨_, has, hep, hpe, hgs⟩ := RoleState.new_eq_ok_iff.mp hs
  exact ⟨has, ⟨e, hep, hepoch, hnode⟩, ⟨node, has⟩, hpe, hgs⟩

/-! ## The coordinator of the term -/

namespace RoleState

/-- The term's coordinator holds the Coordinator role.  Kind: D -/
structure Led (s : RoleState) : Prop where
  /-- One non-revoked assignment holds the Coordinator role, and it is that of the term. -/
  coordinator : ∃ e a, s.epoch = some e ∧ a.nodeId = some e.coordinatorId ∧
    s.assignments.filter (fun a => !a.revoked && decide (.coordinator ∈ a.roles)) = [a]
  /-- `_control` accepts some node. -/
  accepted : ∃ actor node, s.control actor = .ok node

/-- The assignment of the term's coordinator, active and unpaused. -/
def LedBy (s : RoleState) (a : RoleAssignment) : Prop :=
  ∃ e, s.epoch = some e ∧ s.assignmentFor e.coordinatorId = some a ∧ a.revoked = false ∧
    a.paused = false ∧ .coordinator ∈ a.roles

/-- A state is led if and only if it is led by someone.  Kind: L -/
theorem led_iff {s : RoleState} (h : s.IsCoherent) : s.Led ↔ ∃ a, s.LedBy a := by
  constructor
  · rintro ⟨⟨e, a, he, ha, hf⟩, actor, node, hctl⟩
    obtain ⟨_, b, hb, hrev, hpaused, hrole, hterm⟩ := control_eq_ok_iff.mp hctl
    refine ⟨b, e, he, ?_, hrev, hpaused, hrole⟩
    rw [hterm e he]
    exact hb
  · rintro ⟨a, e, he, ha, hrev, hpaused, hrole⟩
    have hid := nodeId_of_assignmentFor ha
    refine ⟨⟨e, a, he, hid, ?_⟩, a, e.coordinatorId, ?_⟩
    · have hfilter : s.assignments.filter (fun a => !a.revoked && decide (.coordinator ∈ a.roles)) =
          s.assignments.filter (RoleAssignment.active .coordinator) := by
        refine List.filter_congr fun b hb => ?_
        simp [RoleAssignment.active, h.bound b hb]
      have hmem : a ∈ s.assignments.filter (RoleAssignment.active .coordinator) :=
        List.mem_filter.mpr
          ⟨(mem_of_lookupId ha).1, by simp [RoleAssignment.active, hid, hrev, hrole]⟩
      have hle := s.valid.coordinators
      rw [hfilter]
      revert hmem hle
      rcases s.assignments.filter (RoleAssignment.active .coordinator) with _ | ⟨b, _ | ⟨c, rest⟩⟩
      · exact fun hmem => absurd hmem List.not_mem_nil
      · intro hmem _
        rw [List.mem_singleton.mp hmem]
      · intro _ hle
        simp at hle
    · refine control_eq_ok_iff.mpr ⟨hid, a, ha, hrev, hpaused, hrole, fun e' he' => ?_⟩
      cases he.symm.trans he'
      rfl

/-- The term's coordinator keeps its assignment when the state changes for other nodes only.
Kind: L -/
theorem LedBy.congr {s t : RoleState} {a : RoleAssignment} (h : s.LedBy a)
    (hterm : t.epoch.map CoordinatorEpoch.coordinatorId =
      s.epoch.map CoordinatorEpoch.coordinatorId)
    (hfor : ∀ e, s.epoch = some e → t.assignmentFor e.coordinatorId =
      s.assignmentFor e.coordinatorId) : t.LedBy a := by
  obtain ⟨e, he, ha, hrest⟩ := h
  rw [he] at hterm
  obtain ⟨e', he', hid⟩ := Option.map_eq_some_iff.mp hterm
  refine ⟨e', he', ?_, hrest⟩
  rw [hid, hfor e he]
  exact ha

/-! ## What each method does to the coordinator -/

section methods

variable {s t : RoleState}

/-- A target other than the node `_control` accepted is not the coordinator of the term.  Kind: L -/
theorem ne_of_control {actor : RoleAssignment} {actorId target : NodeId} {e : CoordinatorEpoch}
    (hctl : s.control actor = .ok actorId) (hne : target ≠ actorId) (he : s.epoch = some e) :
    e.coordinatorId ≠ target := by
  obtain ⟨_, _, _, _, _, _, hterm⟩ := control_eq_ok_iff.mp hctl
  rw [hterm e he]
  exact Ne.symm hne

/-- The promoted node is the coordinator of the new term.  Kind: L -/
theorem ledBy_promoted {now : ℚ} {token : String} {e e' : CoordinatorEpoch}
    (he' : t.epoch = some e') (hsucc : Succeeds s now token e e')
    (ht : t.assignments = promotedList e'.coordinatorId s.assignments) :
    t.LedBy (RoleAssignment.coordinator e'.coordinatorId) := by
  refine ⟨e', he', ?_, rfl, rfl, by simp [RoleAssignment.coordinator]⟩
  obtain ⟨sub, hsub, hid⟩ := hsucc.standby
  have hmem : sub ∈ s.assignments := List.mem_of_find?_eq_some hsub
  have hfind : (promotedList e'.coordinatorId s.assignments).find?
      (fun a => decide (a.nodeId = some e'.coordinatorId)) ≠ none := by
    intro hnone
    have hall := List.find?_eq_none.mp hnone _ (List.mem_map.mpr ⟨sub, hmem, rfl⟩)
    simp [hid, RoleAssignment.coordinator] at hall
  obtain ⟨b, hb⟩ := Option.ne_none_iff_exists'.mp hfind
  have hbmem := List.mem_of_find?_eq_some hb
  have hbid : b.nodeId = some e'.coordinatorId := by simpa using List.find?_some hb
  obtain ⟨c, _, rfl⟩ := List.mem_map.mp hbmem
  unfold assignmentFor
  rw [ht, hb]
  split
  · rfl
  · rename_i hc
    rw [if_neg hc] at hbid
    exact absurd hbid hc

end methods

end RoleState

/-- The transition of the role state behind a method. -/
def FailoverOp.transition : FailoverOp → RoleTransition
  | heartbeat node token now => .heartbeat node token now
  | promoteIfDue now token => .promoteIfDue now token
  | rejoinAsWorker node currentEpoch => .rejoinAsWorker node currentEpoch
  | assignRole actor target roles now => .assign actor target roles now
  | revokeMember actor target => .revoke actor target

/-- The candidate of a method is what its transition makes of the state.  Kind: L -/
theorem FailoverOp.apply_transition {op : FailoverOp} {s t : RoleState}
    (h : op.candidate s = .ok (some t)) : op.transition.apply s = .ok t := by
  cases op with
  | heartbeat node token now => exact Except.bind_eq_ok.mpr ⟨some t, h, rfl⟩
  | promoteIfDue now token => exact Except.bind_eq_ok.mpr ⟨some t, h, rfl⟩
  | rejoinAsWorker node currentEpoch =>
      obtain ⟨u, hu, heq⟩ := Except.bind_eq_ok.mp h
      cases heq
      exact hu
  | assignRole actor target roles now =>
      obtain ⟨u, hu, heq⟩ := Except.bind_eq_ok.mp h
      cases heq
      exact Except.bind_eq_ok.mpr ⟨u, hu, rfl⟩
  | revokeMember actor target =>
      obtain ⟨u, hu, heq⟩ := Except.bind_eq_ok.mp h
      cases heq
      exact hu

/-- A call keeps the state coherent.  Kind: L -/
theorem FailoverCall.isCoherent_step {s : RoleState} (h : s.IsCoherent) (c : FailoverCall) :
    (c.step s).2.IsCoherent := by
  rcases c.step_cases s with ⟨_, hc⟩ | ⟨_, hs⟩
  · exact (RoleTransition.meets_apply h _).of_eq_ok (FailoverOp.apply_transition hc)
  · rw [hs]
    exact h

/-- A run of calls keeps the state coherent.  Kind: L -/
theorem isCoherent_runCalls {s : RoleState} (h : s.IsCoherent) (cs : List FailoverCall) :
    (runCalls cs s).IsCoherent := by
  induction cs generalizing s with
  | nil => exact h
  | cons c cs ih => exact ih (c.isCoherent_step h)

/-- The call takes the Coordinator role from the coordinator of the term: it is a persisted
`rejoin_as_worker` of that node at that term.  Kind: D -/
def FailoverCall.Demotes (c : FailoverCall) (s : RoleState) : Prop :=
  c.persist = .ok () ∧ ∃ e, s.epoch = some e ∧ c.op = .rejoinAsWorker e.coordinatorId e.epoch

/-- Every other call leaves a led state led.  Kind: L -/
theorem FailoverCall.ledBy_step {c : FailoverCall} {s : RoleState} {a : RoleAssignment}
    (h : s.LedBy a) (hc : ¬c.Demotes s) : ∃ b, (c.step s).2.LedBy b := by
  rcases c.step_cases s with ⟨htrue, hcand⟩ | ⟨_, hs⟩
  swap
  · exact ⟨a, hs.symm ▸ h⟩
  generalize (c.step s).2 = t at hcand
  obtain ⟨e, he, hrest⟩ := id h
  cases hop : c.op with
  | heartbeat node token now =>
      rw [hop] at hcand
      obtain ⟨e₀, e', he₀, he', hrenewed, has⟩ := FailoverCoordinator.heartbeat_eq_some hcand
      refine ⟨a, h.congr ?_ fun e₁ _ => ?_⟩
      · simp [he₀, he', hrenewed.coordinatorId]
      · unfold RoleState.assignmentFor
        rw [has]
  | promoteIfDue now token =>
      rw [hop] at hcand
      obtain ⟨e₀, e', _, he', hsucc, has⟩ := FailoverCoordinator.promoteIfDue_eq_some hcand
      exact ⟨_, RoleState.ledBy_promoted he' hsucc has⟩
  | rejoinAsWorker node currentEpoch =>
      rw [hop] at hcand
      obtain ⟨u, hu, heq⟩ := Except.bind_eq_ok.mp hcand
      cases heq
      obtain ⟨hepoch, ⟨rfl, _⟩ | ⟨b, hb, _, hte, hta, _⟩⟩ := RoleState.rejoinAsWorker_writes hu
      · exact ⟨a, h⟩
      · -- the node that rejoins is not the coordinator
        have hne : e.coordinatorId ≠ node := by
          rintro rfl
          refine hc ⟨?_, e, he, by rw [hop, hepoch e he]⟩
          unfold step at htrue
          simp only [hop, hcand] at htrue
          cases hp : c.persist with
          | ok u => rfl
          | error x => simp [hp] at htrue
        refine ⟨a, h.congr (by rw [hte]) fun e₁ he₁ => ?_⟩
        cases he.symm.trans he₁
        exact RoleState.assignmentFor_of_substitute false hb hne (by simpa using hta)
  | assignRole actor target roles now =>
      rw [hop] at hcand
      obtain ⟨⟨u, change⟩, hu, heq⟩ := Except.bind_eq_ok.mp hcand
      cases heq
      have hw := RoleState.assigned_of_assign hu
      obtain ⟨actorId, hctl, hne⟩ := hw.control
      refine ⟨a, h.congr (by rw [hw.epoch]) fun e₁ he₁ => ?_⟩
      exact RoleState.assignmentFor_of_substitute _ hw.node
        (RoleState.ne_of_control hctl hne he₁) hw.assignments
  | revokeMember actor target =>
      rw [hop] at hcand
      obtain ⟨u, hu, heq⟩ := Except.bind_eq_ok.mp hcand
      cases heq
      obtain ⟨b, hw⟩ := RoleState.revoked_of_revoke hu
      obtain ⟨actorId, hctl, hne⟩ := hw.control
      refine ⟨a, h.congr (by rw [hw.epoch]) fun e₁ he₁ => ?_⟩
      exact RoleState.assignmentFor_of_substitute false hw.node
        (RoleState.ne_of_control hctl hne he₁) (by simpa using hw.assignments)

/-- After such a call no node leads the term.  Kind: L -/
theorem FailoverCall.not_ledBy_of_demotes {c : FailoverCall} {s : RoleState} {a : RoleAssignment}
    (h : s.LedBy a) (hc : c.Demotes s) (b : RoleAssignment) : ¬(c.step s).2.LedBy b := by
  obtain ⟨hpersist, e, he, hop⟩ := hc
  obtain ⟨e₀, he₀, ha, _, _, hrole⟩ := h
  cases he.symm.trans he₀
  -- the call returns: the epoch is the current one and the Worker's entry is accepted
  obtain ⟨t, ht⟩ : ∃ t, rejoinAsWorker s e.coordinatorId e.epoch = .ok t := by
    obtain ⟨w, hw⟩ : ∃ w, RoleAssignment.new {.worker} a.nodeId false a.revoked false = .ok w :=
      RoleAssignment.new_isOk a.nodeId false a.revoked false (by decide) (by simp)
    obtain ⟨hid, hroles, _, hrev, _⟩ := RoleAssignment.new_nodeId hw
    have hwid := hid.trans (RoleState.nodeId_of_assignmentFor ha)
    have hv : RoleState.Valid (RoleState.substitute w s.assignments) s.capabilityGrants := by
      refine RoleState.Valid.substitute hwid ha (fun hr => hrev ▸ hr) fun role hne hmem => ?_
      rw [hroles] at hmem
      exact absurd (Finset.mem_singleton.mp (mem_of_mem_normalizeRoles hne hmem)) hne
    refine ⟨⟨_, s.epoch, s.promotionEpochs, _, hv⟩, ?_⟩
    simp only [rejoinAsWorker, Except.bind_eq_ok, Except.raiseIf_eq_ok]
    refine ⟨(), by simp, (), by simp [he], ?_⟩
    simp only [ha, if_pos hrole, Except.bind_eq_ok]
    exact ⟨w, hw, RoleState.new_eq_ok_iff.mpr ⟨hv, rfl, rfl, rfl, rfl⟩⟩
  have hstep : (c.step s).2 = t := by
    unfold step
    simp only [hop, FailoverOp.candidate, ht, hpersist]
    rfl
  rw [hstep]
  rintro ⟨e', he', hb, _, _, hbrole⟩
  obtain ⟨_, ⟨rfl, hnone⟩ | ⟨w, hw, hwrole, hte, hta, _⟩⟩ := RoleState.rejoinAsWorker_writes ht
  · exact hnone a ha hrole
  · rw [hte, he] at he'
    cases he'
    have hlookup := RoleState.lookupId_substitute hw s.assignments e.coordinatorId
    rw [if_pos rfl, ← hta] at hlookup
    obtain ⟨_, _, rfl⟩ := Option.map_eq_some_iff.mp (hlookup.symm.trans hb)
    exact hwrole hbrole

/-- In a run from a new cluster, every state is led exactly when no call takes the Coordinator role
from the coordinator of the term.
Source: `cluster/failover.py`, `FailoverCoordinator`.  Kind: P -/
theorem led_iff_never_demoted {node : NodeId} {token : String} {now : ℚ} {s : RoleState}
    (h : RoleState.createLocal node token now = .ok s) (calls : List FailoverCall) :
    (∀ pre, pre <+: calls → (runCalls pre s).Led) ↔
      ∀ pre call, pre ++ [call] <+: calls → ¬call.Demotes (runCalls pre s) := by
  obtain ⟨has, ⟨e, he, _, hid⟩, hlone⟩ := RoleState.createLocal_eq_ok h
  have hcoh : ∀ pre, (runCalls pre s).IsCoherent := isCoherent_runCalls hlone.isCoherent
  constructor
  · intro hled pre call hpre hdem
    obtain ⟨a, ha⟩ := (RoleState.led_iff (hcoh pre)).mp
      (hled pre ((List.prefix_append pre [call]).trans hpre))
    obtain ⟨b, hb⟩ := (RoleState.led_iff (hcoh (pre ++ [call]))).mp (hled _ hpre)
    rw [runCalls_append] at hb
    exact FailoverCall.not_ledBy_of_demotes ha hdem b hb
  · intro hnever pre hpre
    rw [RoleState.led_iff (hcoh pre)]
    -- induction over the run, one call more at its end
    induction pre using List.reverseRecOn with
    | nil =>
        refine ⟨RoleAssignment.coordinator node, e, he, ?_, rfl, rfl, by
          simp [RoleAssignment.coordinator]⟩
        simp [RoleState.assignmentFor, has, hid, RoleAssignment.coordinator]
    | append_singleton pre call ih =>
        obtain ⟨a, ha⟩ := ih ((List.prefix_append pre [call]).trans hpre)
        rw [runCalls_append]
        exact FailoverCall.ledBy_step ha (hnever pre call hpre)

namespace FailoverRuns

/-- The node that creates the sample cluster. -/
def nodeA : NodeId := .named "a"

/-- Its standby. -/
def nodeB : NodeId := ⟨"b", by decide⟩

/-- The state of the sample is a new cluster's.  Kind: L -/
theorem createLocal_nodeA : RoleState.createLocal nodeA "t" 0 = .ok loneState := by
  decide +kernel

/-- A call of the sample coordinator whose `persist` returns. -/
def persisted (op : FailoverOp) : FailoverCall := ⟨op, .ok ()⟩

/-- A run with a rejoin at a term that is over. -/
theorem led_iff_never_demoted_rejoin :
    (∀ pre, pre <+: [persisted (.rejoinAsWorker nodeA 0)] → (runCalls pre loneState).Led) ↔
      ∀ pre call, pre ++ [call] <+: [persisted (.rejoinAsWorker nodeA 0)] →
        ¬call.Demotes (runCalls pre loneState) :=
  led_iff_never_demoted createLocal_nodeA _

/-- `rejoin_as_worker` of the coordinator itself, at its own term, leaves nobody in control. -/
theorem not_led_after_own_rejoin :
    RoleState.createLocal nodeA "t" 0 = .ok loneState ∧
      ¬(runCalls [persisted (.rejoinAsWorker nodeA 1)] loneState).Led := by
  refine ⟨createLocal_nodeA, ?_⟩
  have hcoh := isCoherent_runCalls loneState_lone.isCoherent
    [persisted (.rejoinAsWorker nodeA 1)]
  rw [RoleState.led_iff hcoh]
  rintro ⟨b, hb⟩
  have hled : loneState.LedBy (RoleAssignment.coordinator nodeA) :=
    ⟨_, rfl, rfl, rfl, rfl, by decide⟩
  exact FailoverCall.not_ledBy_of_demotes hled ⟨rfl, _, rfl, rfl⟩ b hb

end FailoverRuns

/-! ## Terms -/

/-- The value `new_fencing_token()` has in a call, if it is one that can promote. -/
def FailoverCall.drawn (c : FailoverCall) : Option String :=
  match c.op with
  | .promoteIfDue _ token => some token
  | _ => none

/-- The terms that the promotions of a run ended, in order.  Kind: D -/
def endedTerms : List FailoverCall → RoleState → List CoordinatorEpoch
  | [], _ => []
  | c :: cs, s =>
      (if c.drawn.isSome ∧ (c.step s).1 = .ok true then s.epoch.toList else []) ++
        endedTerms cs (c.step s).2

/-- `e'` is the term `e`, with a lease that is not shorter. -/
structure SameTerm (e e' : CoordinatorEpoch) : Prop where
  /-- The number of the term, -/
  epoch : e'.epoch = e.epoch
  /-- its token, -/
  fencingToken : e'.fencingToken = e.fencingToken
  /-- and its lease. -/
  lease : e.leaseExpiresAt ≤ e'.leaseExpiresAt

theorem SameTerm.refl (e : CoordinatorEpoch) : SameTerm e e := ⟨rfl, rfl, le_rfl⟩

/-- A method starts the next term by a promotion, or stays in the term.  Kind: L -/
theorem FailoverOp.term_cases {op : FailoverOp} {s t : RoleState} {e : CoordinatorEpoch}
    (he : s.epoch = some e) (h : op.candidate s = .ok (some t)) :
    ∃ e', t.epoch = some e' ∧
      ((∃ now token, op = .promoteIfDue now token ∧ Succeeds s now token e e') ∨
        ((∀ now token, op ≠ .promoteIfDue now token) ∧ SameTerm e e')) := by
  cases op with
  | heartbeat node token now =>
      obtain ⟨e₀, e', he₀, he', hr, _⟩ := FailoverCoordinator.heartbeat_eq_some h
      cases he.symm.trans he₀
      refine ⟨e', he', .inr ⟨fun _ _ hop => (nomatch hop), hr.epoch, hr.fencingToken, ?_⟩⟩
      rw [hr.lease]
      exact le_max_left _ _
  | promoteIfDue now token =>
      obtain ⟨e₀, e', he₀, he', hsucc, _⟩ := FailoverCoordinator.promoteIfDue_eq_some h
      cases he.symm.trans he₀
      exact ⟨e', he', .inl ⟨now, token, rfl, hsucc⟩⟩
  | rejoinAsWorker node currentEpoch =>
      obtain ⟨u, hu, heq⟩ := Except.bind_eq_ok.mp h
      cases heq
      have hte : t.epoch = s.epoch := by
        obtain ⟨_, ⟨rfl, _⟩ | ⟨_, _, _, hte, _, _⟩⟩ := RoleState.rejoinAsWorker_writes hu
        · rfl
        · exact hte
      exact ⟨e, hte.trans he, .inr ⟨fun _ _ hop => (nomatch hop), .refl e⟩⟩
  | assignRole actor target roles now =>
      obtain ⟨⟨u, change⟩, hu, heq⟩ := Except.bind_eq_ok.mp h
      cases heq
      have hte := (RoleState.assigned_of_assign hu).epoch
      exact ⟨e, hte.trans he, .inr ⟨fun _ _ hop => (nomatch hop), .refl e⟩⟩
  | revokeMember actor target =>
      obtain ⟨u, hu, heq⟩ := Except.bind_eq_ok.mp h
      cases heq
      obtain ⟨_, hw⟩ := RoleState.revoked_of_revoke hu
      have hte := hw.epoch
      exact ⟨e, hte.trans he, .inr ⟨fun _ _ hop => (nomatch hop), .refl e⟩⟩

/-- One call ends the term and starts the next, with the token it drew, or stays in the term.
Kind: L -/
theorem FailoverCall.term_cases (c : FailoverCall) (cs : List FailoverCall) {s : RoleState}
    {e : CoordinatorEpoch} (he : s.epoch = some e) :
    ∃ e', (c.step s).2.epoch = some e' ∧
      ((c.drawn = some e'.fencingToken ∧ e'.epoch = e.epoch + 1 ∧
          endedTerms (c :: cs) s = e :: endedTerms cs (c.step s).2) ∨
        (SameTerm e e' ∧ endedTerms (c :: cs) s = endedTerms cs (c.step s).2)) := by
  rcases c.step_cases s with ⟨htrue, hcand⟩ | ⟨hfalse, hs⟩
  · obtain ⟨e', he', ⟨now, token, hop, hsucc⟩ | ⟨hop, hsame⟩⟩ := FailoverOp.term_cases he hcand
    · have hdrawn : c.drawn = some e'.fencingToken := by
        simp [drawn, hop, hsucc.fencingToken]
      refine ⟨e', he', .inl ⟨hdrawn, hsucc.epoch, ?_⟩⟩
      simp [endedTerms, hdrawn, htrue, he]
    · have hdrawn : c.drawn = none := by
        unfold drawn
        split
        · rename_i now token h
          exact absurd h (hop now token)
        · rfl
      refine ⟨e', he', .inr ⟨hsame, ?_⟩⟩
      simp [endedTerms, hdrawn]
  · refine ⟨e, by rw [hs, he], .inr ⟨.refl e, ?_⟩⟩
    simp [endedTerms, hfalse]

/-- From term `e` to term `e'` in a run.  Kind: D -/
structure Advances (cs : List FailoverCall) (s : RoleState) (e e' : CoordinatorEpoch) : Prop where
  /-- Terms are counted by promotions. -/
  number : e'.epoch = e.epoch + (endedTerms cs s).length
  /-- The terms that ended are those before, in order. -/
  ended : (endedTerms cs s).map CoordinatorEpoch.epoch =
    List.range' e.epoch (endedTerms cs s).length
  /-- Each term has its own draw of a token. -/
  tokens : ((endedTerms cs s).map CoordinatorEpoch.fencingToken ++ [e'.fencingToken]).Sublist
    (e.fencingToken :: cs.filterMap FailoverCall.drawn)
  /-- Within a term the lease does not get shorter. -/
  lease : e'.epoch = e.epoch → e.leaseExpiresAt ≤ e'.leaseExpiresAt

/-- A run of calls advances the term.  Kind: L -/
theorem advances_runCalls (cs : List FailoverCall) {s : RoleState} {e : CoordinatorEpoch}
    (he : s.epoch = some e) :
    ∃ e', (runCalls cs s).epoch = some e' ∧ Advances cs s e e' := by
  induction cs generalizing s e with
  | nil => exact ⟨e, he, by simp [endedTerms], by simp [endedTerms], by simp [endedTerms],
      fun _ => le_rfl⟩
  | cons c cs ih =>
      obtain ⟨e₁, he₁, hcase⟩ := c.term_cases cs he
      obtain ⟨e', he', hadv⟩ := ih he₁
      refine ⟨e', he', ?_⟩
      have hnumber := hadv.number
      rcases hcase with ⟨hdrawn, hnext, hended⟩ | ⟨hsame, hended⟩
      · -- a promotion: the term `e` joins those that ended
        refine ⟨?_, ?_, ?_, ?_⟩
        · rw [hended, List.length_cons]
          omega
        · rw [hended, List.map_cons, List.length_cons, hadv.ended, List.range'_succ, hnext]
        · rw [hended, List.map_cons, List.cons_append, List.filterMap_cons, hdrawn]
          exact hadv.tokens.cons_cons _
        · intro h
          omega
      · refine ⟨?_, ?_, ?_, ?_⟩
        · rw [hended, hnumber, hsame.epoch]
        · rw [hended, hadv.ended, hsame.epoch]
        · rw [hended]
          refine hadv.tokens.trans ?_
          rw [hsame.fencingToken, List.filterMap_cons]
          split
          · exact List.Sublist.refl _
          · exact (List.sublist_cons_self _ _).cons_cons _
        · intro h
          exact hsame.lease.trans (hadv.lease (h.trans hsame.epoch.symm))

/-- What a run from term `e` maintains about terms, leases and heartbeats.  Kind: D -/
structure Fenced (cs : List FailoverCall) (s : RoleState) (e e' : CoordinatorEpoch) : Prop where
  /-- The number of the term is the initial one plus the number of promotions. -/
  number : e'.epoch = e.epoch + (endedTerms cs s).length
  /-- Each term is promoted from at most once. -/
  once : ((endedTerms cs s).map CoordinatorEpoch.epoch).Nodup
  /-- The lease does not get shorter while the number of the term is the same. -/
  lease : ∀ pre, pre <+: cs → ∀ e₁, (runCalls pre s).epoch = some e₁ → e₁.epoch = e'.epoch →
    e₁.leaseExpiresAt ≤ e'.leaseExpiresAt
  /-- A heartbeat and a promotion are never both possible. -/
  exclusive : ∀ node token now drawn c d,
    ¬(FailoverCoordinator.heartbeat (runCalls cs s) node token now = .ok (some c) ∧
      FailoverCoordinator.promoteIfDue (runCalls cs s) now drawn = .ok (some d))
  /-- An accepted heartbeat is the current coordinator's, with a token of no earlier term. -/
  heartbeats : ∀ node token now persist,
    ((⟨.heartbeat node token now, persist⟩ : FailoverCall).step (runCalls cs s)).1 = .ok true →
      node = e'.coordinatorId ∧ token = e'.fencingToken ∧
        ∀ p ∈ endedTerms cs s, token ≠ p.fencingToken

/-- Fencing across promotions, in every run whose draws of `new_fencing_token` never repeat.
Source: `cluster/failover.py`, `FailoverCoordinator`; `cluster/roles.py`, `renew_lease`,
`promote_subcoordinator`.  Kind: P -/
theorem fencing_across_promotions {s : RoleState} {e : CoordinatorEpoch} (he : s.epoch = some e)
    (cs : List FailoverCall)
    (hfresh : (e.fencingToken :: cs.filterMap FailoverCall.drawn).Nodup) :
    ∃ e', (runCalls cs s).epoch = some e' ∧ Fenced cs s e e' := by
  obtain ⟨e', he', hadv⟩ := advances_runCalls cs he
  refine ⟨e', he', hadv.number, ?_, ?_, ?_, ?_⟩
  · rw [hadv.ended]
    exact List.nodup_range'
  · rintro pre ⟨post, rfl⟩ e₁ he₁ hepoch
    obtain ⟨e₂, he₂, hpost⟩ := advances_runCalls post he₁
    rw [runCalls_append] at he'
    cases he'.symm.trans he₂
    exact hpost.lease hepoch.symm
  · rintro node token now drawn c d ⟨hbeat, hpromote⟩
    obtain ⟨e₁, _, he₁, _, hrenewed, _⟩ := FailoverCoordinator.heartbeat_eq_some hbeat
    obtain ⟨e₂, _, he₂, _, hsucc, _⟩ := FailoverCoordinator.promoteIfDue_eq_some hpromote
    cases he₁.symm.trans he₂
    exact absurd hrenewed.alive (not_lt.mpr hsucc.due)
  · intro node token now persist htrue
    obtain ⟨e₁, _, he₁, _, hrenewed, _⟩ :=
      FailoverCoordinator.heartbeat_eq_some (FailoverCall.step_eq_true htrue)
    cases he'.symm.trans he₁
    refine ⟨hrenewed.holder.symm, hrenewed.token.symm, ?_⟩
    rintro p hp rfl
    -- the tokens of the terms, with the current one last, are pairwise different
    have hnodup := hadv.tokens.nodup hfresh
    rw [List.nodup_append] at hnodup
    exact hnodup.2.2 _ (List.mem_map_of_mem hp) _ (List.mem_singleton_self _) hrenewed.token.symm

namespace FailoverRuns

/-- A coordinator loses its term to its standby and gets the next one back. -/
def thereAndBack : List FailoverCall :=
  [persisted (.assignRole (RoleAssignment.coordinator nodeA) nodeB {.subcoordinator} 0),
    persisted (.promoteIfDue 120 "u"),
    persisted (.assignRole (RoleAssignment.coordinator nodeB) nodeA {.subcoordinator} 130),
    persisted (.promoteIfDue 240 "v")]

/-- Two promotions there and back.  Kind: P -/
theorem fencing_across_promotions_thereAndBack :
    ∃ e', (runCalls thereAndBack loneState).epoch = some e' ∧
      Fenced thereAndBack loneState
        ⟨1, nodeA, "t", 0, 120, by decide, by decide⟩ e' :=
  fencing_across_promotions rfl thereAndBack (by decide)

/-- A heartbeat with the coordinator id of an earlier term is accepted: that node is the coordinator
again. -/
theorem heartbeat_of_earlier_coordinator :
    RoleState.createLocal nodeA "t" 0 = .ok loneState ∧
      ("t" :: thereAndBack.filterMap FailoverCall.drawn).Nodup ∧
      nodeA ∈ (endedTerms thereAndBack loneState).map CoordinatorEpoch.coordinatorId ∧
      ((persisted (.heartbeat nodeA "v" 250)).step (runCalls thereAndBack loneState)).1 =
        .ok true := by
  refine ⟨createLocal_nodeA, by decide, by decide +kernel, ?_⟩
  decide +kernel

end FailoverRuns

end ExpraConnect
