import ExpraConnect.Cluster.RoleAuthority
import ExpraConnect.Cluster.RoleTransitions

/-!
# Assignments without a node

`RoleState.__post_init__` leaves the unbound assignments out of its checks, and the persisted form
of a role state leaves them out altogether.  This module compares a role state with the one that a
restart would give back.

* `RoleState.strip`: the state without its unbound assignments;
* `RoleCall`: every operation on a role state, with what it returns;
* `RoleCall.Inert`: an operation has the same outcome with and without the unbound assignments;
* `RoleCall.Shadowed`: an `assign` of the Subcoordinator role that only an unbound assignment keeps
  from succeeding, since `assign` counts those too;
* `inert_iff`: every operation is inert, except a shadowed one.
-/

namespace ExpraConnect

open ExpraConnect.Lib

/-- Two computations that start alike and whose continuations agree up to `g`.  Kind: L -/
theorem Except.bind_eq_map_bind {ε α β γ : Type} {x : Except ε α} {k : α → Except ε β}
    {k' : α → Except ε γ} {g : β → γ} (h : ∀ a, x = .ok a → k' a = g <$> k a) :
    (x >>= k') = g <$> (x >>= k) := by
  cases x with
  | ok a => exact h a rfl
  | error e => rfl

namespace RoleState

/-! ## Leaving the unbound assignments out -/

/-- The assignments that name a node. -/
def bound (as : List RoleAssignment) : List RoleAssignment :=
  as.filter fun a => a.nodeId.isSome

/-- The state without its unbound assignments: what is left of it after a restart.
Source: `cluster/state.py`, `role_state_to_dict`.  Kind: D -/
def strip (s : RoleState) : RoleState where
  assignments := bound s.assignments
  epoch := s.epoch
  promotionEpochs := s.promotionEpochs
  capabilityGrants := s.capabilityGrants
  valid := s.valid.filter_isSome

/-- Unbound assignments have no node id.  Kind: L -/
theorem filterMap_nodeId_bound (as : List RoleAssignment) :
    (bound as).filterMap RoleAssignment.nodeId = as.filterMap RoleAssignment.nodeId := by
  unfold bound
  rw [List.filterMap_filter]
  congr 1
  funext a
  cases a.nodeId <;> rfl

/-- Unbound assignments are not active.  Kind: L -/
theorem filter_active_bound (role : ClusterRole) (as : List RoleAssignment) :
    (bound as).filter (RoleAssignment.active role) = as.filter (RoleAssignment.active role) := by
  unfold bound
  rw [List.filter_filter]
  congr 1
  funext a
  unfold RoleAssignment.active
  cases a.nodeId.isSome <;> simp

/-- The constructor treats the two lists alike, its errors included.  Kind: L -/
theorem new_bound (as : List RoleAssignment) (ep : Option CoordinatorEpoch) (pe : Finset ℕ)
    (gs : List CapabilityGrant) : new (bound as) ep pe gs = strip <$> new as ep pe gs := by
  unfold new
  simp only [filterMap_nodeId_bound, filter_active_bound]
  split
  · split
    · split
      · split <;> rfl
      · rfl
    · rfl
  · rfl

/-- A search for a node's entry passes over the unbound ones.  Kind: L -/
@[simp] theorem lookupId_bound (as : List RoleAssignment) (node : NodeId) :
    lookupId (bound as) node = lookupId as node := by
  unfold lookupId bound
  rw [List.find?_filter]
  congr 1
  funext a
  by_cases ha : a.nodeId = some node
  · simp [ha]
  · simp [ha]

/-- Unbound assignments carry no grants.  Kind: L -/
@[simp] theorem pruneCapabilityGrants_bound (as : List RoleAssignment)
    (gs : List CapabilityGrant) :
    pruneCapabilityGrants (bound as) gs = pruneCapabilityGrants as gs := by
  unfold pruneCapabilityGrants
  congr 1
  funext g
  simp only [grantMatches, lookupId_bound]

/-- Exchanging the entry of a node leaves every other entry as bound as it was.  Kind: L -/
theorem substitute_bound (a : RoleAssignment) (as : List RoleAssignment) :
    bound (substitute a as) = substitute a (bound as) := by
  unfold bound substitute
  rw [List.filter_map]
  congr 2
  funext b
  simp only [Function.comp]
  split
  · rename_i hb
    rw [hb]
  · rfl

theorem bound_append (as bs : List RoleAssignment) : bound (as ++ bs) = bound as ++ bound bs :=
  List.filter_append ..

/-- Leaving out the unbound ones and filtering commute.  Kind: L -/
theorem bound_filter (q : RoleAssignment → Bool) (as : List RoleAssignment) :
    bound (as.filter q) = (bound as).filter q := by
  unfold bound
  rw [List.filter_filter, List.filter_filter]
  congr 1
  funext a
  exact Bool.and_comm ..

/-- A promotion exchanges entries and moves none.  Kind: L -/
theorem promotedList_bound (subId : NodeId) (as : List RoleAssignment) :
    bound (promotedList subId as) = promotedList subId (bound as) := by
  unfold bound promotedList
  rw [List.filter_map]
  congr 2
  funext a
  simp only [Function.comp]
  split
  · rename_i ha
    rw [ha]
    rfl
  · rfl

/-! ## Queries -/

variable {s : RoleState} {actor : RoleAssignment} {target : NodeId}

/-- Stripping keeps the epoch.  Kind: L -/
@[simp] theorem strip_epoch : s.strip.epoch = s.epoch := rfl

/-- Stripping leaves out the unbound assignments.  Kind: L -/
@[simp] theorem strip_assignments : s.strip.assignments = bound s.assignments := rfl

/-- Stripping keeps the promotion epochs.  Kind: L -/
@[simp] theorem strip_promotionEpochs : s.strip.promotionEpochs = s.promotionEpochs := rfl

/-- Stripping keeps the grants.  Kind: L -/
@[simp] theorem strip_capabilityGrants : s.strip.capabilityGrants = s.capabilityGrants := rfl

/-- `assignmentFor` does not see unbound assignments.  Kind: L -/
@[simp] theorem assignmentFor_strip (node : NodeId) :
    s.strip.assignmentFor node = s.assignmentFor node :=
  lookupId_bound s.assignments node

/-- `control` does not see unbound assignments.  Kind: L -/
@[simp] theorem control_strip : s.strip.control actor = s.control actor := by
  unfold control
  simp only [assignmentFor_strip, strip_epoch]
  rfl

/-- `allows` does not see unbound assignments.  Kind: L -/
@[simp] theorem allows_strip (subject : NodeId) (permission : NodePermission) (now : Option ℚ) :
    s.strip.allows subject target permission now = s.allows subject target permission now := by
  simp only [allows, assignmentFor_strip, capabilityGrant, strip_capabilityGrants]

/-- `canPromote` does not see unbound assignments.  Kind: L -/
@[simp] theorem canPromote_strip (node : NodeId) (now : ℚ) :
    canPromote s.strip node now = canPromote s node now := by
  unfold canPromote
  simp only [assignmentFor_strip, strip_epoch, strip_promotionEpochs]
  rfl

/-- The candidate of a promotion is an entry that names its node.  Kind: L -/
@[simp] theorem promotionCandidate_strip : promotionCandidate s.strip = promotionCandidate s := by
  unfold promotionCandidate
  rw [strip_assignments, bound, List.find?_filter]
  congr 1
  funext a
  unfold RoleAssignment.active
  cases a.nodeId.isSome <;> simp

/-! ## Transitions -/

/-- `replace(self, capability_grants=...)`.  Kind: L -/
theorem new_strip (gs : List CapabilityGrant) :
    new s.strip.assignments s.strip.epoch s.strip.promotionEpochs gs =
      strip <$> new s.assignments s.epoch s.promotionEpochs gs :=
  new_bound ..

/-- `replaceAssignment` commutes with leaving out the unbound assignments.  Kind: L -/
theorem replaceAssignment_strip (a : RoleAssignment) :
    s.strip.replaceAssignment a = strip <$> s.replaceAssignment a := by
  unfold replaceAssignment
  rw [strip_assignments, ← substitute_bound]
  exact new_bound ..

/-- `_replace(replace(current, ...))`.  Kind: L -/
theorem replace_new_strip (x : Except PyError RoleAssignment) :
    (x >>= s.strip.replaceAssignment) = strip <$> (x >>= s.replaceAssignment) :=
  Except.bind_eq_map_bind fun a _ => replaceAssignment_strip a

/-- `pause` commutes with leaving out the unbound assignments.  Kind: L -/
theorem pause_strip : s.strip.pause actor target = strip <$> s.pause actor target := by
  unfold pause
  rw [control_strip, assignmentFor_strip]
  refine Except.bind_eq_map_bind fun actorId _ => Except.bind_eq_map_bind fun _ _ => ?_
  cases s.assignmentFor target with
  | none => rfl
  | some cur => exact Except.bind_eq_map_bind fun _ _ => replace_new_strip _

/-- `resume` commutes with leaving out the unbound assignments.  Kind: L -/
theorem resume_strip : s.strip.resume actor target = strip <$> s.resume actor target := by
  unfold resume
  rw [control_strip, assignmentFor_strip]
  refine Except.bind_eq_map_bind fun actorId _ => ?_
  cases s.assignmentFor target with
  | none => rfl
  | some cur => exact Except.bind_eq_map_bind fun _ _ => replace_new_strip _

/-- `job` commutes with leaving out the unbound assignments.  Kind: L -/
theorem job_strip (active : Bool) :
    s.strip.job actor target active = strip <$> s.job actor target active := by
  unfold job
  rw [control_strip, assignmentFor_strip]
  refine Except.bind_eq_map_bind fun actorId _ => ?_
  cases s.assignmentFor target with
  | none => rfl
  | some cur => exact Except.bind_eq_map_bind fun _ _ => replace_new_strip _

/-- `revoke` commutes with leaving out the unbound assignments.  Kind: L -/
theorem revoke_strip : s.strip.revoke actor target = strip <$> s.revoke actor target := by
  unfold revoke
  rw [control_strip, assignmentFor_strip]
  refine Except.bind_eq_map_bind fun actorId _ => Except.bind_eq_map_bind fun _ _ => ?_
  cases s.assignmentFor target with
  | none => rfl
  | some cur =>
      refine Except.bind_eq_map_bind fun _ _ => Except.bind_eq_map_bind fun a _ => ?_
      rw [replaceAssignment_strip]
      cases s.replaceAssignment a with
      | error e => rfl
      | ok updated => exact new_strip _

/-- `clearRevocation` commutes with leaving out the unbound assignments.  Kind: L -/
theorem clearRevocation_strip :
    s.strip.clearRevocation target = strip <$> s.clearRevocation target := by
  unfold clearRevocation
  rw [assignmentFor_strip]
  cases s.assignmentFor target with
  | none => rfl
  | some cur =>
      dsimp only
      split
      · rw [strip_assignments, ← bound_filter]
        exact new_bound ..
      · rfl

/-- `grantCapabilities` commutes with leaving out the unbound assignments.  Kind: L -/
theorem grantCapabilities_strip (subject : NodeId) (permissions : Finset NodePermission)
    (now expiresAt : ℚ) :
    s.strip.grantCapabilities actor subject target permissions now expiresAt =
      strip <$> s.grantCapabilities actor subject target permissions now expiresAt := by
  unfold grantCapabilities
  rw [control_strip, assignmentFor_strip, assignmentFor_strip]
  refine Except.bind_eq_map_bind fun actorId _ => Except.bind_eq_map_bind fun _ _ =>
    Except.bind_eq_map_bind fun _ _ => Except.bind_eq_map_bind fun grant _ => ?_
  exact new_strip _

/-- `revokeCapabilities` commutes with leaving out the unbound assignments.  Kind: L -/
theorem revokeCapabilities_strip (subject : NodeId) :
    s.strip.revokeCapabilities actor subject target =
      strip <$> s.revokeCapabilities actor subject target := by
  unfold revokeCapabilities
  rw [control_strip]
  exact Except.bind_eq_map_bind fun actorId _ => new_strip _

/-- `rejoinAsWorker` commutes with leaving out the unbound assignments.  Kind: L -/
theorem rejoinAsWorker_strip (node : NodeId) (currentEpoch : ℤ) :
    rejoinAsWorker s.strip node currentEpoch = strip <$> rejoinAsWorker s node currentEpoch := by
  unfold rejoinAsWorker
  rw [strip_epoch, assignmentFor_strip]
  refine Except.bind_eq_map_bind fun _ _ => Except.bind_eq_map_bind fun _ _ => ?_
  cases s.assignmentFor node with
  | none => rfl
  | some cur =>
      dsimp only
      split
      · exact replace_new_strip _
      · rfl

/-- A promotion's decision, without its unbound assignments. -/
def stripDecision (d : PromotionDecision) : PromotionDecision :=
  { d with assignments := bound d.assignments }

/-- `promoteSubcoordinator` commutes with leaving out the unbound assignments.  Kind: L -/
theorem promoteSubcoordinator_strip (now : ℚ) (token : String) :
    promoteSubcoordinator s.strip now token =
      stripDecision <$> promoteSubcoordinator s now token := by
  unfold promoteSubcoordinator
  rw [strip_epoch, promotionCandidate_strip]
  cases s.epoch with
  | none => rfl
  | some old =>
      dsimp only
      cases (promotionCandidate s).bind RoleAssignment.nodeId with
      | none => rfl
      | some subId =>
          dsimp only
          rw [canPromote_strip, mapM_promoted, mapM_promoted]
          refine Except.bind_eq_map_bind fun _ _ => Except.bind_eq_map_bind fun epoch _ => ?_
          refine congrArg Except.ok ?_
          simp only [stripDecision, strip_assignments, strip_capabilityGrants, promotedList_bound]
          rw [← promotedList_bound, pruneCapabilityGrants_bound]

/-! ## Assigning a role -/

/-- Only an unbound assignment stands between the call and its success: `assign` passes every check
up to the one for another Subcoordinator, and what that check finds are unbound assignments.
Kind: D -/
structure Shadowed (s : RoleState) (actor : RoleAssignment) (target : NodeId)
    (roles : Finset ClusterRole) : Prop where
  /-- The actor may control the target. -/
  control : ∃ actorId, s.control actor = .ok actorId ∧ target ≠ actorId
  /-- The call does not delegate Coordinator ownership. -/
  coordinator : .coordinator ∉ roles
  /-- The target is not revoked. -/
  current : ∀ a, s.assignmentFor target = some a → a.revoked = false
  /-- The call assigns the Subcoordinator role. -/
  subcoordinator : .subcoordinator ∈ roles
  /-- No other node holds that role. -/
  free : ∀ a ∈ s.assignments, a.nodeId ≠ some target →
    RoleAssignment.active .subcoordinator a = false
  /-- An unbound assignment does. -/
  unbound : ∃ a ∈ s.assignments, a.nodeId = none ∧ a.revoked = false ∧ .subcoordinator ∈ a.roles

/-- The check of `assign` for another Subcoordinator. -/
abbrev OtherSubcoordinator (s : RoleState) (target : NodeId) (roles : Finset ClusterRole) : Prop :=
  .subcoordinator ∈ roles ∧ s.assignments.any (fun a => a.nodeId ≠ some target &&
    (!a.revoked && decide (.subcoordinator ∈ a.roles))) = true

/-- On the bound assignments the check asks for an active Subcoordinator.  Kind: L -/
theorem otherSubcoordinator_strip {roles : Finset ClusterRole} :
    s.strip.OtherSubcoordinator target roles ↔ .subcoordinator ∈ roles ∧
      ∃ a ∈ s.assignments, a.nodeId ≠ some target ∧
        RoleAssignment.active .subcoordinator a = true := by
  unfold OtherSubcoordinator
  rw [strip_assignments, bound, List.any_filter, List.any_eq_true]
  refine and_congr_right fun _ => exists_congr fun a => and_congr_right fun _ => ?_
  simp only [RoleAssignment.active, Bool.and_eq_true, decide_eq_true_eq]
  tauto

/-- Where the check finds something, an active Subcoordinator or an unbound assignment is it.
Kind: L -/
theorem unbound_of_otherSubcoordinator {roles : Finset ClusterRole}
    (h : s.OtherSubcoordinator target roles)
    (hfree : ∀ a ∈ s.assignments, a.nodeId ≠ some target →
      RoleAssignment.active .subcoordinator a = false) :
    ∃ a ∈ s.assignments, a.nodeId = none ∧ a.revoked = false ∧ .subcoordinator ∈ a.roles := by
  obtain ⟨a, hmem, ha⟩ := List.any_eq_true.mp h.2
  simp only [Bool.and_eq_true, decide_eq_true_eq, Bool.not_eq_true'] at ha
  obtain ⟨hne, hrevoked, hrole⟩ := ha
  refine ⟨a, hmem, ?_, hrevoked, hrole⟩
  have hactive := hfree a hmem hne
  cases hnode : a.nodeId with
  | none => rfl
  | some n => simp [RoleAssignment.active, hnode, hrevoked, hrole] at hactive

/-- With the five checks passed, `assign` returns.  Kind: L -/
theorem assign_isOk {actorId : NodeId} {roles : Finset ClusterRole}
    (hcontrol : s.control actor = .ok actorId) (hne : target ≠ actorId)
    (hcoord : .coordinator ∉ roles)
    (hcurrent : ∀ a, s.assignmentFor target = some a → a.revoked = false)
    (hother : ¬s.OtherSubcoordinator target roles) (now : ℚ) :
    ∃ r, s.assign actor target roles now = .ok r := by
  obtain ⟨a, hnew⟩ := RoleAssignment.new_isOk (some target)
    ((s.assignmentFor target).elim false RoleAssignment.paused) false
    ((s.assignmentFor target).elim false RoleAssignment.hasActiveJob)
    (fun hc => hcoord hc.1) (by simp)
  obtain ⟨hid, hroles, -, -, -⟩ := RoleAssignment.new_nodeId hnew
  obtain ⟨b, hdrop, hbid, hbroles, -, -⟩ := dropJob_isOk a
  have hnorm : ∀ role, role ≠ .worker → role ∈ b.roles → role ∈ roles := by
    intro role hwork hrole
    rw [hbroles, hroles] at hrole
    exact mem_of_mem_normalizeRoles hwork hrole
  have hv := Valid.assigned (hbid.trans hid) (fun hc => hcoord (hnorm _ (by decide) hc))
    fun hsub => active_of_any_subcoordinator hother (hnorm _ (by decide) hsub)
  have hany : ¬(s.assignmentFor target).any RoleAssignment.revoked = true := by
    cases hf : s.assignmentFor target with
    | none => simp
    | some b => simp [hcurrent b hf]
  simp only [assign, Except.bind_eq_ok, Except.raiseIf_eq_ok]
  exact ⟨_, actorId, hcontrol, (), hne, (), hcoord, (), hany, (), hother, a, hnew, b, hdrop,
    ⟨_, _, _, _, hv _⟩, new_eq_ok_iff.mpr ⟨hv _, rfl, rfl, rfl, rfl⟩, rfl⟩

/-- The check has the same outcome on both states, where no unbound assignment decides it alone.
Kind: L -/
theorem otherSubcoordinator_strip_iff {roles : Finset ClusterRole}
    (h : .subcoordinator ∈ roles → (∀ a ∈ s.assignments, a.nodeId ≠ some target →
      RoleAssignment.active .subcoordinator a = false) →
        ¬∃ a ∈ s.assignments, a.nodeId = none ∧ a.revoked = false ∧ .subcoordinator ∈ a.roles) :
    s.strip.OtherSubcoordinator target roles ↔ s.OtherSubcoordinator target roles := by
  constructor
  · rintro ⟨hrole, hany⟩
    obtain ⟨a, ha, hp⟩ := List.any_eq_true.mp hany
    exact ⟨hrole, List.any_eq_true.mpr ⟨a, (List.mem_filter.mp ha).1, hp⟩⟩
  · intro hother
    by_contra hnot
    rw [otherSubcoordinator_strip] at hnot
    have hfree : ∀ a ∈ s.assignments, a.nodeId ≠ some target →
        RoleAssignment.active .subcoordinator a = false := by
      intro a hmem hne
      by_contra hactive
      exact hnot ⟨hother.1, a, hmem, hne, by simpa using hactive⟩
    exact h hother.1 hfree (unbound_of_otherSubcoordinator hother hfree)

/-- The list an assignment leaves, without its unbound entries: the new entry names its node.
Kind: L -/
theorem bound_assigned {b : RoleAssignment} (hb : b.nodeId = some target) :
    bound (substitute b s.assignments ++
      (if (s.assignmentFor target).isNone then [b] else [])) =
        substitute b (bound s.assignments) ++
          (if (s.assignmentFor target).isNone then [b] else []) := by
  rw [bound_append, substitute_bound]
  split <;> simp [bound, hb]

/-- An `assign` that no unbound assignment decides has the same outcome on both states.  Kind: L -/
theorem assign_strip {roles : Finset ClusterRole} (h : ¬s.Shadowed actor target roles) (now : ℚ) :
    s.strip.assign actor target roles now =
      (fun r => (r.1.strip, r.2)) <$> s.assign actor target roles now := by
  unfold assign
  rw [control_strip, assignmentFor_strip]
  refine Except.bind_eq_map_bind fun actorId hcontrol => Except.bind_eq_map_bind fun _ hne =>
    Except.bind_eq_map_bind fun _ hcoord => Except.bind_eq_map_bind fun _ hrevoked => ?_
  rw [Except.raiseIf_eq_ok] at hne hcoord hrevoked
  have hcurrent : ∀ a, s.assignmentFor target = some a → a.revoked = false := by
    intro a ha
    simpa [ha] using hrevoked
  -- here the two computations could part: a shadowed call is the one that does
  have hsame : s.strip.OtherSubcoordinator target roles ↔ s.OtherSubcoordinator target roles :=
    otherSubcoordinator_strip_iff fun hrole hfree hunbound =>
      h ⟨⟨actorId, hcontrol, hne⟩, hcoord, hcurrent, hrole, hfree, hunbound⟩
  have hcheck : ∀ e : PyError, (raiseIf (s.strip.OtherSubcoordinator target roles) e :
      Except PyError Unit) = raiseIf (s.OtherSubcoordinator target roles) e := by
    intro e
    unfold raiseIf
    simp only [hsame]
  rw [hcheck]
  refine Except.bind_eq_map_bind fun _ _ => Except.bind_eq_map_bind fun a ha =>
    Except.bind_eq_map_bind fun b hb => ?_
  obtain ⟨b', hb', hid, -⟩ := dropJob_isOk a
  cases hb.symm.trans hb'
  have hnode : b.nodeId = some target := hid.trans (RoleAssignment.new_nodeId ha).1
  rw [strip_assignments, strip_capabilityGrants, strip_epoch, strip_promotionEpochs,
    ← bound_assigned hnode]
  dsimp only
  rw [pruneCapabilityGrants_bound, new_bound]
  cases new (substitute b s.assignments ++
    (if (s.assignmentFor target).isNone then [b] else [])) s.epoch s.promotionEpochs _ with
  | error e => rfl
  | ok t => rfl

end RoleState

/-! ## Every operation -/

/-- What an operation on a role state returns. -/
inductive RoleResult where
  /-- A new state. -/
  | state (s : RoleState)
  /-- A new state and the change it records. -/
  | changed (s : RoleState) (change : RoleChange)
  /-- The decision of a promotion. -/
  | decision (d : PromotionDecision)
  /-- The answer of `allows`. -/
  | answer (allowed : Bool)

/-- The result without its unbound assignments. -/
def RoleResult.strip : RoleResult → RoleResult
  | state s => state s.strip
  | changed s change => changed s.strip change
  | decision d => decision (RoleState.stripDecision d)
  | answer allowed => answer allowed

/-- An operation on a role state, with its arguments.
Source: `cluster/roles.py`, `RoleState`, `promote_subcoordinator`, `rejoin_as_worker`.  Kind: D -/
inductive RoleCall where
  /-- `assign` -/
  | assign (actor : RoleAssignment) (target : NodeId) (roles : Finset ClusterRole) (now : ℚ)
  /-- `pause` -/
  | pause (actor : RoleAssignment) (target : NodeId)
  /-- `resume` -/
  | resume (actor : RoleAssignment) (target : NodeId)
  /-- `revoke` -/
  | revoke (actor : RoleAssignment) (target : NodeId)
  /-- `clear_revocation` -/
  | clearRevocation (target : NodeId)
  /-- `assign_job` -/
  | assignJob (actor : RoleAssignment) (target : NodeId)
  /-- `remove_job` -/
  | removeJob (actor : RoleAssignment) (target : NodeId)
  /-- `grant_capabilities` -/
  | grantCapabilities (actor : RoleAssignment) (subject target : NodeId)
      (permissions : Finset NodePermission) (now expiresAt : ℚ)
  /-- `revoke_capabilities` -/
  | revokeCapabilities (actor : RoleAssignment) (subject target : NodeId)
  /-- `allows` -/
  | allows (subject target : NodeId) (permission : NodePermission) (now : Option ℚ)
  /-- `promote_subcoordinator` -/
  | promoteSubcoordinator (now : ℚ) (token : String)
  /-- `rejoin_as_worker` -/
  | rejoinAsWorker (node : NodeId) (currentEpoch : ℤ)

namespace RoleCall

/-- The call, on a state. -/
def run : RoleCall → RoleState → Except PyError RoleResult
  | assign actor target roles now, s =>
      (fun r => .changed r.1 r.2) <$> s.assign actor target roles now
  | pause actor target, s => .state <$> s.pause actor target
  | resume actor target, s => .state <$> s.resume actor target
  | revoke actor target, s => .state <$> s.revoke actor target
  | clearRevocation target, s => .state <$> s.clearRevocation target
  | assignJob actor target, s => .state <$> s.assignJob actor target
  | removeJob actor target, s => .state <$> s.removeJob actor target
  | grantCapabilities actor subject target permissions now expiresAt, s =>
      .state <$> s.grantCapabilities actor subject target permissions now expiresAt
  | revokeCapabilities actor subject target, s =>
      .state <$> s.revokeCapabilities actor subject target
  | allows subject target permission now, s =>
      .ok (.answer (s.allows subject target permission now))
  | promoteSubcoordinator now token, s =>
      .decision <$> ExpraConnect.promoteSubcoordinator s now token
  | rejoinAsWorker node currentEpoch, s =>
      .state <$> ExpraConnect.rejoinAsWorker s node currentEpoch

/-- The call succeeds on the state exactly when it succeeds on the stripped state, and the results
are the same after `strip`. -/
def Inert (call : RoleCall) (s : RoleState) : Prop :=
  (call.run s.strip).toOption = (call.run s).toOption.map RoleResult.strip

/-- The call is an `assign` that only an unbound assignment keeps from succeeding. -/
def Shadowed : RoleCall → RoleState → Prop
  | assign actor target roles _, s => s.Shadowed actor target roles
  | _, _ => False

/-- A transition that commutes with `strip` still does so under its result's label.  Kind: L -/
theorem map_state_strip {x y : Except PyError RoleState} (h : x = RoleState.strip <$> y) :
    (RoleResult.state <$> x) = RoleResult.strip <$> (RoleResult.state <$> y) := by
  rw [h]
  cases y with
  | error e => rfl
  | ok t => rfl

/-- Every call but a shadowed one commutes with `strip`, the errors it raises included.  Kind: L -/
theorem run_strip {call : RoleCall} {s : RoleState} (h : ¬call.Shadowed s) :
    call.run s.strip = RoleResult.strip <$> call.run s := by
  cases call with
  | assign actor target roles now =>
      simp only [run]
      rw [RoleState.assign_strip h]
      cases s.assign actor target roles now with
      | error e => rfl
      | ok r => rfl
  | pause actor target => exact map_state_strip RoleState.pause_strip
  | resume actor target => exact map_state_strip RoleState.resume_strip
  | revoke actor target => exact map_state_strip RoleState.revoke_strip
  | clearRevocation target => exact map_state_strip RoleState.clearRevocation_strip
  | assignJob actor target => exact map_state_strip (RoleState.job_strip true)
  | removeJob actor target => exact map_state_strip (RoleState.job_strip false)
  | grantCapabilities actor subject target permissions now expiresAt =>
      exact map_state_strip (RoleState.grantCapabilities_strip subject permissions now expiresAt)
  | revokeCapabilities actor subject target =>
      exact map_state_strip (RoleState.revokeCapabilities_strip subject)
  | allows subject target permission now =>
      simp only [run, RoleState.allows_strip]
      rfl
  | promoteSubcoordinator now token =>
      simp only [run]
      rw [RoleState.promoteSubcoordinator_strip]
      cases ExpraConnect.promoteSubcoordinator s now token with
      | error e => rfl
      | ok d => rfl
  | rejoinAsWorker node currentEpoch =>
      exact map_state_strip (RoleState.rejoinAsWorker_strip node currentEpoch)

/-- A shadowed call succeeds on the stripped state and raises on the state itself.  Kind: L -/
theorem not_inert_of_shadowed {call : RoleCall} {s : RoleState} (h : call.Shadowed s) :
    ¬call.Inert s := by
  cases call with
  | assign actor target roles now =>
      obtain ⟨⟨actorId, hcontrol, hne⟩, hcoord, hcurrent, hrole, hfree, a, hmem, hnode, hrevoked,
        ha⟩ := h
      have hstrip : ¬s.strip.OtherSubcoordinator target roles := by
        rw [RoleState.otherSubcoordinator_strip]
        rintro ⟨-, b, hb, hbne, hbactive⟩
        rw [hfree b hb hbne] at hbactive
        cases hbactive
      obtain ⟨r, hr⟩ := RoleState.assign_isOk (s := s.strip)
        (RoleState.control_strip.trans hcontrol) hne hcoord
        (fun b hb => hcurrent b ((RoleState.assignmentFor_strip target).symm.trans hb)) hstrip now
      have hother : s.OtherSubcoordinator target roles := by
        refine ⟨hrole, List.any_eq_true.mpr ⟨a, hmem, ?_⟩⟩
        simp [hnode, hrevoked, ha]
      intro hinert
      simp only [Inert, run, hr] at hinert
      cases hassign : s.assign actor target roles now with
      | error e =>
          rw [hassign] at hinert
          cases hinert
      | ok t =>
          simp only [RoleState.assign, Except.bind_eq_ok, Except.raiseIf_eq_ok] at hassign
          obtain ⟨_, _, _, _, _, _, _, _, _, hnot, _⟩ := hassign
          exact hnot hother
  | _ => exact h.elim

end RoleCall

/-- In every role state, every operation has the same outcome with and without the unbound
assignments, unless it is an `assign` that only an unbound assignment keeps from succeeding.
Source: `cluster/roles.py`, `RoleState`.  Kind: P -/
theorem inert_iff (s : RoleState) (call : RoleCall) : call.Inert s ↔ ¬call.Shadowed s := by
  constructor
  · exact fun hinert hshadowed => RoleCall.not_inert_of_shadowed hshadowed hinert
  · intro h
    unfold RoleCall.Inert
    rw [RoleCall.run_strip h]
    cases call.run s with
    | error e => rfl
    | ok r => rfl

/-- A coordinator next to an unbound Subcoordinator. -/
def unboundState : Except PyError RoleState := do
  let spare ← RoleAssignment.new {.subcoordinator} none false false false
  RoleState.new [RoleAssignment.coordinator (.named "a"), spare] none ∅ []

/-- The coordinator cannot make a node its Subcoordinator, until a restart drops the unbound one. -/
theorem unbound_subcoordinator_blocks :
    ¬∀ (s : RoleState) (call : RoleCall), call.Inert s := by
  intro h
  have hok : unboundState.toOption.any (fun s =>
      (s.assign (RoleAssignment.coordinator ⟨"a", by decide⟩) ⟨"b", by decide⟩ {.subcoordinator}
        0).toOption.isNone &&
      (s.strip.assign (RoleAssignment.coordinator ⟨"a", by decide⟩) ⟨"b", by decide⟩
        {.subcoordinator} 0).toOption.isSome) = true := by
    decide +kernel
  obtain ⟨s, -, hs⟩ := Option.any_eq_true _ _ |>.mp hok
  simp only [Bool.and_eq_true, Option.isNone_iff_eq_none] at hs
  have hinert := h s (.assign (RoleAssignment.coordinator ⟨"a", by decide⟩) ⟨"b", by decide⟩
    {.subcoordinator} 0)
  simp only [RoleCall.Inert, RoleCall.run] at hinert
  obtain ⟨hstate, hstrip⟩ := hs
  cases hassign : s.assign (RoleAssignment.coordinator ⟨"a", by decide⟩) ⟨"b", by decide⟩
      {.subcoordinator} 0 with
  | ok r =>
      rw [hassign] at hstate
      cases hstate
  | error e =>
      obtain ⟨r, hr⟩ := Option.isSome_iff_exists.mp hstrip
      rw [Except.eq_ok_of_toOption hr, hassign] at hinert
      cases hinert

end ExpraConnect
