import ExpraConnect.Cluster.OperationFacts
import ExpraConnect.Remote.RoleOperationFacts

/-!
# What a role request does, whether it returns or raises

`dispatch_role_request` checks, changes the runtime, and projects the change.

* `MemberChange`: the change that a member's request makes, in terms of the pure transitions of the
  role state; `memberRequest_eq_ok_iff`: a request returns exactly with such a change, and
  `memberRequest_eq_error`: one that raises leaves the runtime as it was;
* `consumeInviteRequest_eq_ok`, `consumeInviteRequest_eq_error`: the same for an invite, where a
  request that raises may have spent it;
* `run_dispatchRoleRequest`: the whole request, in these terms, and `Effect`: what it makes of the
  runtime, whatever comes of it.
-/

namespace ExpraConnect

open ExpraConnect.Lib

namespace Runtime

/-! ## Saving -/

/-- A save before a step returns if and only if the store persists and the step returns.  Kind: L -/
@[simp] theorem saveOr_bind_eq_ok {α : Type} {previous s s' : Runtime} {message : String}
    {k : Unit → PyM Runtime α} {a : α} :
    (saveOr previous message >>= k) s = .ok a s' ↔ s.persists = true ∧ k () s = .ok a s' := by
  rw [PyM.bind_eq_ok]
  simp only [saveOr_eq]
  constructor
  · rintro ⟨_, t, hsave, hk⟩
    split at hsave
    · cases hsave
      exact ⟨‹_›, hk⟩
    · cases hsave
  · rintro ⟨hp, hk⟩
    exact ⟨(), s, by rw [if_pos hp], hk⟩

/-- A save before a step raises its own error or the step's.  Kind: L -/
@[simp] theorem saveOr_bind_eq_error {α : Type} {previous s s' : Runtime} {message : String}
    {k : Unit → PyM Runtime α} {e : PyError} :
    (saveOr previous message >>= k) s = .error e s' ↔
      (s.persists = false ∧ e = ⟨.runtime, message⟩ ∧ s' = previous) ∨
        (s.persists = true ∧ k () s = .error e s') := by
  rw [PyM.bind_eq_error]
  simp only [saveOr_eq]
  cases hp : s.persists with
  | true =>
      simp only [if_true, reduceCtorEq, false_or, false_and, true_and, EStateM.Result.ok.injEq]
      constructor
      · rintro ⟨_, _, rfl, hk⟩
        exact hk
      · intro hk
        exact ⟨(), s, rfl, hk⟩
  | false => simp [eq_comm]

/-! ## The requests of members -/

/-- The grants after `grant_capabilities`, `sync_capability_grant` or `revoke_capabilities`.
Source: `remote/role_operations.py`, `dispatch_role_request`.  Kind: D -/
def capabilityUpdate (op : Op) (params : Fields) (state : RoleState) (actor : RoleAssignment)
    (subject target : NodeId) (now : ℚ) : Except PyError RoleState :=
  if op = .revokeCapabilities then state.revokeCapabilities actor subject target
  else do
    let permissions ← (← strsParam "permissions" params).mapM NodePermission.new
    state.grantCapabilities actor subject target permissions.toFinset now
      (← floatParam "expires_at" params)

/-- Write the grants of an updated role state to both copies. -/
def applyGrants (updated : RoleState) (rt : Runtime) : Runtime :=
  { rt with
    clusterCapabilityGrants := updated.capabilityGrants
    cluster := { rt.cluster with capabilityGrants := updated.capabilityGrants } }

/-- The change from `rt` to `rt'` that the request of a member, `actor`, makes in role state
`state`.  Kind: D -/
def ChangeBy (op : Op) (params : Fields) (caller : NodeId) (now : ℚ) (actor : RoleAssignment)
    (state : RoleState) (rt rt' : Runtime) : Prop :=
  match op with
  | .renewCoordinatorLease =>
      caller = rt.cluster.coordinatorId ∧ (rt.clusterStore = true → rt.persists = true) ∧
        ∃ token epoch, strParam "fencing_token" params = .ok token ∧
          renewLease rt.cluster.epoch caller token now = .ok epoch ∧
            rt' = { rt with cluster := { rt.cluster with epoch := epoch } }
  | .assignRole =>
      caller = rt.cluster.coordinatorId ∧ rt.persists = true ∧
        ∃ target text role updated, nodeParam "target_node_id" params = .ok target ∧
          strsParam "roles" params = .ok [text] ∧ ClusterRole.new text = .ok role ∧
            state.assign actor target {role} now = .ok updated ∧ rt' = rt.applyMembers updated.1
  | .revokeMember | .revokeWorker | .pauseWorker | .resumeWorker | .removeJob =>
      rt.persists = true ∧ ∃ target updated, nodeParam "target_node_id" params = .ok target ∧
        transition op state actor target = .ok updated ∧ rt' = rt.applyMembers updated
  | .removeConnection =>
      ∃ target, nodeParam "target_node_id" params = .ok target ∧
        (caller = rt.cluster.coordinatorId ∨ caller = target) ∧
          rt' = { rt with connections := rt.connections.map (Finset.erase · target) }
  | .grantCapabilities | .revokeCapabilities | .syncCapabilityGrant =>
      caller = rt.cluster.coordinatorId ∧ rt.persists = true ∧
        ∃ subject target updated, nodeParam "subject_node_id" params = .ok subject ∧
          nodeParam "target_node_id" params = .ok target ∧
            capabilityUpdate op params state actor subject target now = .ok updated ∧
              rt' = rt.applyGrants updated
  | .workerSnapshot | .standbyBatch => rt' = rt
  | _ => False

/-- The change that the request of a member makes.  Kind: D -/
def MemberChange (op : Op) (params : Fields) (caller : NodeId) (now : ℚ) (rt rt' : Runtime) :
    Prop :=
  ∃ actor state, rt.cluster.assignments.get? caller = some actor ∧ rt.requestState = .ok state ∧
    ChangeBy op params caller now actor state rt rt'

section branches

variable {op : Op} {params : Fields} {caller : NodeId} {now : ℚ} {actor : RoleAssignment}
  {state : RoleState} {rt rt' : Runtime} {e : PyError}

/-- `renewLeaseRequest` returns if and only if it makes its change.  Kind: L -/
theorem renewLeaseRequest_eq_ok_iff :
    (∃ reply, renewLeaseRequest params caller now rt = .ok reply rt') ↔
      ChangeBy .renewCoordinatorLease params caller now actor state rt rt' := by
  simp only [renewLeaseRequest, ChangeBy, PyM.get_bind_eq_ok, PyM.raiseIf_bind_eq_ok,
    PyM.ofExcept_bind_eq_ok, PyM.set_bind_eq_ok, not_not]
  constructor
  · rintro ⟨reply, hcaller, token, htoken, epoch, hrenew, h⟩
    split at h
    · rename_i hstore
      simp only [saveOr_bind_eq_ok, PyM.pure_eq_ok] at h
      exact ⟨hcaller, fun _ => h.1, token, epoch, htoken, hrenew, h.2.2.symm⟩
    · rename_i hstore
      exact ⟨hcaller, fun hs => absurd hs hstore, token, epoch, htoken, hrenew,
        (PyM.pure_eq_ok.mp h).2.symm⟩
  · rintro ⟨hcaller, hsave, token, epoch, htoken, hrenew, rfl⟩
    by_cases hstore : rt.clusterStore = true
    · simp only [hstore, if_true, saveOr_bind_eq_ok, PyM.pure_eq_ok]
      exact ⟨_, hcaller, token, htoken, epoch, hrenew, hsave hstore, rfl, rfl⟩
    · simp only [hstore, Bool.false_eq_true, if_false, PyM.pure_eq_ok]
      exact ⟨_, hcaller, token, htoken, epoch, hrenew, rfl, rfl⟩

/-- A refused `renewLeaseRequest` leaves the runtime as it was.  Kind: L -/
theorem renewLeaseRequest_eq_error (h : renewLeaseRequest params caller now rt = .error e rt') :
    rt' = rt := by
  simp only [renewLeaseRequest, PyM.get_bind_eq_error, PyM.raiseIf_bind_eq_error,
    PyM.ofExcept_bind_eq_error, PyM.set_bind_eq_error] at h
  rcases h with ⟨_, _, hs⟩ | ⟨_, ⟨_, hs⟩ | ⟨_, _, ⟨_, hs⟩ | ⟨_, _, h⟩⟩⟩
  · exact hs.symm
  · exact hs
  · exact hs
  · split at h
    · simp only [saveOr_bind_eq_error, PyM.pure_eq_error, and_false, or_false] at h
      exact h.2.2
    · simp at h

/-- `assignRoleRequest` returns if and only if it makes its change.  Kind: L -/
theorem assignRoleRequest_eq_ok_iff :
    (∃ reply, assignRoleRequest params caller actor state now rt = .ok reply rt') ↔
      ChangeBy .assignRole params caller now actor state rt rt' := by
  simp only [assignRoleRequest, ChangeBy, PyM.get_bind_eq_ok, PyM.ofExcept_bind_eq_ok]
  constructor
  · rintro ⟨reply, target, htarget, roles, hroles, h⟩
    split at h
    · simp only [PyM.raiseIf_bind_eq_ok, PyM.ofExcept_bind_eq_ok, PyM.set_bind_eq_ok,
        saveOr_bind_eq_ok, PyM.pure_eq_ok, not_not] at h
      obtain ⟨hcaller, role, hrole, updated, hassign, hsave, _, rfl⟩ := h
      exact ⟨hcaller, hsave, target, _, role, updated, htarget, hroles, hrole, hassign, rfl⟩
    · simp at h
  · rintro ⟨hcaller, hsave, target, text, role, updated, htarget, hroles, hrole, hassign, rfl⟩
    refine ⟨[("ok", .bool true), ("node_id", .str target.value), ("role", .str text)], target,
      htarget, [text], hroles, ?_⟩
    simp only [PyM.raiseIf_bind_eq_ok, PyM.ofExcept_bind_eq_ok, PyM.set_bind_eq_ok,
      saveOr_bind_eq_ok, PyM.pure_eq_ok, not_not]
    exact ⟨hcaller, role, hrole, updated, hassign, hsave, trivial, rfl⟩

/-- A refused `assignRoleRequest` leaves the runtime as it was.  Kind: L -/
theorem assignRoleRequest_eq_error
    (h : assignRoleRequest params caller actor state now rt = .error e rt') : rt' = rt := by
  simp only [assignRoleRequest, PyM.get_bind_eq_error, PyM.ofExcept_bind_eq_error] at h
  rcases h with ⟨_, hs⟩ | ⟨_, _, ⟨_, hs⟩ | ⟨_, _, h⟩⟩
  · exact hs
  · exact hs
  · split at h
    · simp only [PyM.raiseIf_bind_eq_error, PyM.ofExcept_bind_eq_error, PyM.set_bind_eq_error,
        saveOr_bind_eq_error, PyM.pure_eq_error, and_false, or_false] at h
      rcases h with ⟨_, _, hs⟩ | ⟨_, ⟨_, hs⟩ | ⟨_, _, ⟨_, hs⟩ | ⟨_, _, _, _, hs⟩⟩⟩
      · exact hs.symm
      · exact hs
      · exact hs
      · exact hs
    · exact (PyM.throw_eq_error.mp h).2.symm

/-- The operations with a role transition. -/
def transitionOps : List Op :=
  [.revokeMember, .revokeWorker, .pauseWorker, .resumeWorker, .removeJob]

/-- `transitionRequest` returns if and only if it makes its change.  Kind: L -/
theorem transitionRequest_eq_ok_iff (hop : op ∈ transitionOps) :
    (∃ reply, transitionRequest op params actor state rt = .ok reply rt') ↔
      ChangeBy op params caller now actor state rt rt' := by
  have hchange : ChangeBy op params caller now actor state rt rt' ↔
      rt.persists = true ∧ ∃ target updated, nodeParam "target_node_id" params = .ok target ∧
        transition op state actor target = .ok updated ∧ rt' = rt.applyMembers updated := by
    simp only [transitionOps, List.mem_cons, List.not_mem_nil, or_false] at hop
    rcases hop with rfl | rfl | rfl | rfl | rfl <;> rfl
  rw [hchange]
  simp only [transitionRequest, PyM.get_bind_eq_ok, PyM.ofExcept_bind_eq_ok, PyM.set_bind_eq_ok,
    saveOr_bind_eq_ok, PyM.pure_eq_ok]
  constructor
  · rintro ⟨reply, target, htarget, updated, htrans, hsave, _, rfl⟩
    exact ⟨hsave, target, updated, htarget, htrans, rfl⟩
  · rintro ⟨hsave, target, updated, htarget, htrans, rfl⟩
    exact ⟨_, target, htarget, updated, htrans, hsave, rfl, rfl⟩

/-- A refused `transitionRequest` leaves the runtime as it was.  Kind: L -/
theorem transitionRequest_eq_error
    (h : transitionRequest op params actor state rt = .error e rt') : rt' = rt := by
  simp only [transitionRequest, PyM.get_bind_eq_error, PyM.ofExcept_bind_eq_error,
    PyM.set_bind_eq_error, saveOr_bind_eq_error, PyM.pure_eq_error, and_false, or_false] at h
  rcases h with ⟨_, hs⟩ | ⟨_, _, ⟨_, hs⟩ | ⟨_, _, _, _, hs⟩⟩
  · exact hs
  · exact hs
  · exact hs

/-- `removeConnectionRequest` returns if and only if it makes its change.  Kind: L -/
theorem removeConnectionRequest_eq_ok_iff :
    (∃ reply, removeConnectionRequest params caller rt = .ok reply rt') ↔
      ChangeBy .removeConnection params caller now actor state rt rt' := by
  simp only [removeConnectionRequest, ChangeBy, PyM.get_bind_eq_ok, PyM.ofExcept_bind_eq_ok,
    PyM.raiseIf_bind_eq_ok, PyM.set_bind_eq_ok, PyM.pure_eq_ok, not_and_or, not_not]
  constructor
  · rintro ⟨reply, target, htarget, hcaller, _, rfl⟩
    exact ⟨target, htarget, hcaller, rfl⟩
  · rintro ⟨target, htarget, hcaller, rfl⟩
    exact ⟨_, target, htarget, hcaller, rfl, rfl⟩

/-- A refused `removeConnectionRequest` leaves the runtime as it was.  Kind: L -/
theorem removeConnectionRequest_eq_error
    (h : removeConnectionRequest params caller rt = .error e rt') : rt' = rt := by
  simp only [removeConnectionRequest, PyM.get_bind_eq_error, PyM.ofExcept_bind_eq_error,
    PyM.raiseIf_bind_eq_error, PyM.set_bind_eq_error, PyM.pure_eq_error, and_false, or_false] at h
  rcases h with ⟨_, hs⟩ | ⟨_, _, _, _, hs⟩
  · exact hs
  · exact hs.symm

/-- The operations on grants. -/
def capabilityOps : List Op := [.grantCapabilities, .revokeCapabilities, .syncCapabilityGrant]

/-- `capabilitiesRequest` returns if and only if it makes its change.  Kind: L -/
theorem capabilitiesRequest_eq_ok_iff (hop : op ∈ capabilityOps) :
    (∃ reply, capabilitiesRequest op params caller actor state now rt = .ok reply rt') ↔
      ChangeBy op params caller now actor state rt rt' := by
  have hchange : ChangeBy op params caller now actor state rt rt' ↔
      caller = rt.cluster.coordinatorId ∧ rt.persists = true ∧
        ∃ subject target updated, nodeParam "subject_node_id" params = .ok subject ∧
          nodeParam "target_node_id" params = .ok target ∧
            capabilityUpdate op params state actor subject target now = .ok updated ∧
              rt' = rt.applyGrants updated := by
    simp only [capabilityOps, List.mem_cons, List.not_mem_nil, or_false] at hop
    rcases hop with rfl | rfl | rfl <;> rfl
  rw [hchange]
  simp only [capabilitiesRequest, PyM.get_bind_eq_ok, PyM.ofExcept_bind_eq_ok,
    PyM.raiseIf_bind_eq_ok, PyM.set_bind_eq_ok, saveOr_bind_eq_ok, PyM.pure_eq_ok, not_not]
  constructor
  · rintro ⟨reply, hcaller, subject, hsubject, target, htarget, updated, hup, hsave, _, rfl⟩
    exact ⟨hcaller, hsave, subject, target, updated, hsubject, htarget, hup, rfl⟩
  · rintro ⟨hcaller, hsave, subject, target, updated, hsubject, htarget, hup, rfl⟩
    exact ⟨_, hcaller, subject, hsubject, target, htarget, updated, hup, hsave, rfl, rfl⟩

/-- A refused `capabilitiesRequest` leaves the runtime as it was.  Kind: L -/
theorem capabilitiesRequest_eq_error
    (h : capabilitiesRequest op params caller actor state now rt = .error e rt') : rt' = rt := by
  simp only [capabilitiesRequest, PyM.get_bind_eq_error, PyM.ofExcept_bind_eq_error,
    PyM.raiseIf_bind_eq_error, PyM.set_bind_eq_error, saveOr_bind_eq_error, PyM.pure_eq_error,
    and_false, or_false] at h
  rcases h with ⟨_, _, hs⟩ | ⟨_, ⟨_, hs⟩ | ⟨_, _, ⟨_, hs⟩ | ⟨_, _, ⟨_, hs⟩ | ⟨_, _, _, _, hs⟩⟩⟩⟩
  · exact hs.symm
  · exact hs
  · exact hs
  · exact hs
  · exact hs

end branches

section members

variable {opText : String} {op : Op} {params : Fields} {caller : NodeId} {now : ℚ}
  {rt rt' : Runtime} {e : PyError}

/-- A request that computes a state first returns if and only if the change is made from that state.
Kind: L -/
theorem exists_change_iff {actor : RoleAssignment} {r : Except PyError RoleState}
    {p : RoleState → PyM Runtime Fields} {q : RoleAssignment → RoleState → Prop}
    (h : ∀ state, (∃ reply, p state rt = .ok reply rt') ↔ q actor state) :
    (∃ reply state, r = .ok state ∧ p state rt = .ok reply rt') ↔
      ∃ a state, actor = a ∧ r = .ok state ∧ q a state := by
  constructor
  · rintro ⟨reply, state, hr, hp⟩
    exact ⟨actor, state, rfl, hr, (h state).mp ⟨reply, hp⟩⟩
  · rintro ⟨_, state, rfl, hr, hq⟩
    obtain ⟨reply, hp⟩ := (h state).mpr hq
    exact ⟨reply, state, hr, hp⟩

/-- A member's request returns exactly with the change of its operation.  Kind: L -/
theorem memberRequest_eq_ok_iff (hop : Op.ofString? opText = some op) :
    (∃ reply, memberRequest opText params caller now rt = .ok reply rt') ↔
      MemberChange op params caller now rt rt' := by
  simp only [memberRequest, MemberChange, PyM.get_bind_eq_ok, hop]
  cases hactor : rt.cluster.assignments.get? caller with
  | none => simp
  | some actor =>
      simp only [PyM.ofExcept_bind_eq_ok, Option.some.injEq]
      cases op
      case renewCoordinatorLease => exact exists_change_iff fun _ => renewLeaseRequest_eq_ok_iff
      case assignRole => exact exists_change_iff fun _ => assignRoleRequest_eq_ok_iff
      case revokeMember | revokeWorker | pauseWorker | resumeWorker | removeJob =>
        exact exists_change_iff fun _ => transitionRequest_eq_ok_iff (by decide)
      case removeConnection => exact exists_change_iff fun _ => removeConnectionRequest_eq_ok_iff
      case grantCapabilities | revokeCapabilities | syncCapabilityGrant =>
        exact exists_change_iff fun _ => capabilitiesRequest_eq_ok_iff (by decide)
      case workerSnapshot | standbyBatch =>
        refine exists_change_iff fun _ => ?_
        simp only [PyM.pure_eq_ok, ChangeBy]
        constructor
        · rintro ⟨_, _, h⟩
          exact h.symm
        · exact fun h => ⟨_, rfl, h.symm⟩
      all_goals
        refine exists_change_iff fun _ => ?_
        simp [ChangeBy]

/-- A member's request that returns is for an operation that is known, and made its change.
Kind: L -/
theorem change_of_memberRequest {reply : Fields}
    (h : memberRequest opText params caller now rt = .ok reply rt') :
    ∃ op, Op.ofString? opText = some op ∧ MemberChange op params caller now rt rt' := by
  cases hop : Op.ofString? opText with
  | some op => exact ⟨op, rfl, (memberRequest_eq_ok_iff hop).mp ⟨reply, h⟩⟩
  | none =>
      simp only [memberRequest, PyM.get_bind_eq_ok, hop] at h
      cases hactor : rt.cluster.assignments.get? caller with
      | none => simp [hactor] at h
      | some actor => simp [hactor] at h

/-- A member's request that raises leaves the runtime as it was.  Kind: L -/
theorem memberRequest_eq_error (h : memberRequest opText params caller now rt = .error e rt') :
    rt' = rt := by
  simp only [memberRequest, PyM.get_bind_eq_error] at h
  cases hactor : rt.cluster.assignments.get? caller with
  | none =>
      simp only [hactor, PyM.throw_eq_error] at h
      exact h.2.symm
  | some actor =>
      simp only [hactor, PyM.ofExcept_bind_eq_error] at h
      rcases h with ⟨_, hs⟩ | ⟨state, _, h⟩
      · exact hs
      · cases hop : Op.ofString? opText with
        | none =>
            simp only [hop, PyM.throw_eq_error] at h
            exact h.2.symm
        | some op =>
            simp only [hop] at h
            cases op
            case renewCoordinatorLease => exact renewLeaseRequest_eq_error h
            case assignRole => exact assignRoleRequest_eq_error h
            case revokeMember | revokeWorker | pauseWorker | resumeWorker | removeJob =>
              exact transitionRequest_eq_error h
            case removeConnection => exact removeConnectionRequest_eq_error h
            case grantCapabilities | revokeCapabilities | syncCapabilityGrant =>
              exact capabilitiesRequest_eq_error h
            case workerSnapshot | standbyBatch => simp at h
            all_goals exact (PyM.throw_eq_error.mp h).2.symm

end members

/-! ## Invites -/

section invites

variable {hash : InviteHash} {params : Fields} {caller : NodeId} {now : ℚ} {rt rt' : Runtime}

/-- The cluster as an admission that was not saved leaves it: everything but the grants is put
back.  Source: `remote/role_operations.py`, `dispatch_role_request`.  Kind: D -/
def putBack (c c' : Cluster) : Cluster :=
  { c' with
    assignments := c.assignments
    online := c.online
    invites := c.invites
    joinAdmissions := c.joinAdmissions
    usedInvites := c.usedInvites }

variable (hash caller now rt) in
/-- What a `consume_invite` request with a token does.  Kind: L -/
theorem consumeInviteRequest_eq {token : String} (htoken : strParam "token" params = .ok token) :
    consumeInviteRequest hash params caller now rt =
      match Cluster.consumeInvite hash token caller now true rt.cluster with
      | .error e c' => .error e { rt with cluster := c' }
      | .ok invite c' =>
          if rt.persists then .ok (admissionReply invite c') { rt with cluster := c' }
          else .error ⟨.runtime, "cluster invite was not durably persisted"⟩
            { rt with cluster := putBack rt.cluster c' } := by
  cases hrun : Cluster.consumeInvite hash token caller now true rt.cluster with
  | error e c' =>
      simp only [consumeInviteRequest, PyM.get_bind_eq_error, PyM.ofExcept_bind_eq_error]
      refine .inr ⟨token, htoken, PyM.bind_eq_error.mpr (.inl ?_)⟩
      rw [onCluster_eq, hrun]
  | ok invite c' =>
      have hcluster : onCluster (Cluster.consumeInvite hash token caller now true) rt =
          .ok invite { rt with cluster := c' } := by
        rw [onCluster_eq, hrun]
      by_cases hp : rt.persists = true
      · simp only [consumeInviteRequest, PyM.get_bind_eq_ok, PyM.ofExcept_bind_eq_ok, if_pos hp]
        refine ⟨token, htoken, PyM.bind_eq_ok.mpr ⟨invite, _, hcluster, ?_⟩⟩
        simp only [PyM.get_bind_eq_ok, saveOr_bind_eq_ok, PyM.pure_eq_ok]
        exact ⟨hp, trivial, trivial⟩
      · simp only [consumeInviteRequest, PyM.get_bind_eq_error, PyM.ofExcept_bind_eq_error,
          if_neg hp]
        refine .inr ⟨token, htoken, PyM.bind_eq_error.mpr (.inr ⟨invite, _, hcluster, ?_⟩)⟩
        simp only [PyM.get_bind_eq_error, saveOr_bind_eq_error]
        exact .inl ⟨by simpa using hp, trivial, rfl⟩

/-- One without a token raises at once.  Kind: L -/
theorem consumeInviteRequest_of_error {e : PyError} (htoken : strParam "token" params = .error e) :
    consumeInviteRequest hash params caller now rt = .error e rt := by
  simp only [consumeInviteRequest, PyM.get_bind_eq_error, PyM.ofExcept_bind_eq_error]
  exact .inl ⟨htoken, trivial⟩

/-- What a `consume_invite` request that returned did.  Kind: L -/
theorem consumeInviteRequest_eq_ok {reply : Fields}
    (h : consumeInviteRequest hash params caller now rt = .ok reply rt') :
    ∃ token invite c', strParam "token" params = .ok token ∧
      Cluster.consumeInvite hash token caller now true rt.cluster = .ok invite c' ∧
        rt' = { rt with cluster := c' } ∧ reply = admissionReply invite c' := by
  cases htoken : strParam "token" params with
  | error e => simp [consumeInviteRequest_of_error htoken] at h
  | ok token =>
      rw [consumeInviteRequest_eq hash caller now rt htoken] at h
      cases hrun : Cluster.consumeInvite hash token caller now true rt.cluster with
      | error e c' => simp [hrun] at h
      | ok invite c' =>
          simp only [hrun] at h
          split at h
          · cases h
            exact ⟨token, invite, c', rfl, hrun, rfl, rfl⟩
          · cases h

/-- What one that raised left behind: the cluster as the admission left it when it raised, or as a
failed save puts it back.  Kind: L -/
theorem consumeInviteRequest_eq_error {e : PyError}
    (h : consumeInviteRequest hash params caller now rt = .error e rt') :
    rt' = rt ∨ ∃ token, strParam "token" params = .ok token ∧
      ((∃ c', Cluster.consumeInvite hash token caller now true rt.cluster = .error e c' ∧
          rt' = { rt with cluster := c' }) ∨
        ∃ invite c', Cluster.consumeInvite hash token caller now true rt.cluster = .ok invite c' ∧
          rt.persists = false ∧ rt' = { rt with cluster := putBack rt.cluster c' }) := by
  cases htoken : strParam "token" params with
  | error e' =>
      rw [consumeInviteRequest_of_error htoken] at h
      cases h
      exact .inl rfl
  | ok token =>
      rw [consumeInviteRequest_eq hash caller now rt htoken] at h
      refine .inr ⟨token, rfl, ?_⟩
      cases hrun : Cluster.consumeInvite hash token caller now true rt.cluster with
      | error e' c' =>
          simp only [hrun] at h
          cases h
          exact .inl ⟨c', rfl, rfl⟩
      | ok invite c' =>
          simp only [hrun] at h
          split at h
          · cases h
          · rename_i hp
            cases h
            exact .inr ⟨invite, c', rfl, by simpa using hp, rfl⟩

end invites

/-! ## The whole request -/

/-- Every operation but `consume_invite` is a member's.  Kind: L -/
theorem roleRequest_eq_memberRequest {hash : InviteHash} {opText : String} {params : Fields}
    {caller : NodeId} {now : ℚ} (hop : Op.ofString? opText ≠ some .consumeInvite) :
    roleRequest hash opText params caller now = memberRequest opText params caller now := by
  unfold roleRequest
  split
  · exact absurd ‹_› hop
  · rfl

/-- `consume_invite` is its own request.  Kind: L -/
theorem roleRequest_eq_consumeInviteRequest {hash : InviteHash} {opText : String} {params : Fields}
    {caller : NodeId} {now : ℚ} (hof : Op.ofString? opText = some .consumeInvite) :
    roleRequest hash opText params caller now = consumeInviteRequest hash params caller now := by
  unfold roleRequest
  rw [hof]

/-- The outcome of a request: its checks, its change, and what follows.  Kind: L -/
theorem run_dispatchRoleRequest (hash : InviteHash) (request : RemoteRequest)
    (v : HostView Runtime) :
    Handler.run (dispatchRoleRequest hash request) v =
      match authorizeRole request v.host with
      | .error e => (.error e, v)
      | .ok caller =>
          match roleRequest hash request.op request.params caller v.clock v.host with
          | .error e rt => (.error e, { v with host := rt })
          | .ok reply rt =>
              match Handler.run (followUp request.op).perform { v with host := rt } with
              | (.error e, w) => (.error e, w)
              | (.ok _, w) => (.ok reply, w) := by
  unfold dispatchRoleRequest
  rw [Handler.run_bind]
  cases hauth : authorizeRole request v.host with
  | error e =>
      have hstep : authorizeStep request v.host = .error e v.host := by
        simp only [authorizeStep, PyM.get_bind_eq_error, PyM.ofExcept_eq_error, hauth, and_self]
      rw [Handler.run_ofPyM_of_error hstep]
  | ok caller =>
      have hstep : authorizeStep request v.host = .ok caller v.host := by
        simp only [authorizeStep, PyM.get_bind_eq_ok, PyM.ofExcept_eq_ok, hauth, and_self]
      rw [Handler.run_ofPyM_of_ok hstep]
      simp only [Handler.run_clock_bind]
      rw [Handler.run_bind]
      cases hreq : roleRequest hash request.op request.params caller v.clock v.host with
      | error e rt => rw [Handler.run_ofPyM_of_error hreq]
      | ok reply rt =>
          rw [Handler.run_ofPyM_of_ok hreq]
          simp only
          rw [Handler.run_bind]
          rcases Handler.run (followUp request.op).perform { v with host := rt } with ⟨e | u, w⟩
          · rfl
          · rfl

/-- What a request, whatever comes of it, makes of a runtime before its change is projected.
Kind: D -/
inductive Effect (hash : InviteHash) (request : RemoteRequest) (now : ℚ) (rt : Runtime) :
    Runtime → Prop
  /-- Nothing. -/
  | nothing : Effect hash request now rt rt
  /-- The change of a member's request. -/
  | change {op : Op} {caller : NodeId} {rt' : Runtime} (hop : Op.ofString? request.op = some op)
      (hauth : authorizeRole request rt = .ok caller)
      (hchange : MemberChange op request.params caller now rt rt') : Effect hash request now rt rt'
  /-- What consuming an invite left in the cluster, the part that is put back after a failed save
  aside. -/
  | invite {token : String} {caller : NodeId} {c : Cluster}
      (hop : Op.ofString? request.op = some .consumeInvite)
      (hauth : authorizeRole request rt = .ok caller)
      (htoken : strParam "token" request.params = .ok token)
      (hc : c = (Cluster.consumeInvite hash token caller now true).after rt.cluster ∨
        c = putBack rt.cluster
          ((Cluster.consumeInvite hash token caller now true).after rt.cluster)) :
      Effect hash request now rt { rt with cluster := c }

/-- What an authorized request does to the runtime.  Kind: L -/
theorem effect_of_roleRequest (hash : InviteHash) {request : RemoteRequest} {caller : NodeId}
    (now : ℚ) {rt : Runtime} (hauth : authorizeRole request rt = .ok caller) :
    Effect hash request now rt
      ((roleRequest hash request.op request.params caller now).after rt) := by
  by_cases hop : Op.ofString? request.op = some .consumeInvite
  · rw [roleRequest_eq_consumeInviteRequest hop]
    cases hreq : consumeInviteRequest hash request.params caller now rt with
    | ok reply rt' =>
        obtain ⟨token, invite, c', htoken, hrun, rfl, _⟩ := consumeInviteRequest_eq_ok hreq
        rw [PyM.after_of_ok hreq]
        exact .invite hop hauth htoken (.inl (PyM.after_of_ok hrun).symm)
    | error e rt' =>
        rw [PyM.after_of_error hreq]
        rcases consumeInviteRequest_eq_error hreq with
          rfl | ⟨token, htoken, ⟨c', hrun, rfl⟩ | ⟨invite, c', hrun, _, rfl⟩⟩
        · exact .nothing
        · exact .invite hop hauth htoken (.inl (PyM.after_of_error hrun).symm)
        · refine .invite hop hauth htoken (.inr ?_)
          rw [PyM.after_of_ok hrun]
  · rw [roleRequest_eq_memberRequest hop]
    cases hreq : memberRequest request.op request.params caller now rt with
    | ok reply rt' =>
        rw [PyM.after_of_ok hreq]
        obtain ⟨op, hof, hchange⟩ := change_of_memberRequest hreq
        exact .change hof hauth hchange
    | error e rt' =>
        rw [PyM.after_of_error hreq, memberRequest_eq_error hreq]
        exact .nothing

/-- A request has its effect, and what follows touches nothing but the registry and the service.
Kind: L -/
theorem effect_of_dispatchRoleRequest (hash : InviteHash) (request : RemoteRequest)
    (v : HostView Runtime) :
    ∃ rt', Effect hash request v.clock v.host rt' ∧
      ∀ (γ : Type) (g : Runtime → γ), (∀ rt registry, g { rt with registry := registry } = g rt) →
        g (Handler.run (dispatchRoleRequest hash request) v).2.host = g rt' := by
  rw [run_dispatchRoleRequest]
  cases hauth : authorizeRole request v.host with
  | error e => exact ⟨v.host, .nothing, fun _ _ _ => rfl⟩
  | ok caller =>
      have heffect := effect_of_roleRequest hash v.clock hauth
      simp only
      cases hreq : roleRequest hash request.op request.params caller v.clock v.host with
      | error e rt' =>
          rw [PyM.after_of_error hreq] at heffect
          exact ⟨rt', heffect, fun _ _ _ => rfl⟩
      | ok reply rt' =>
          rw [PyM.after_of_ok hreq] at heffect
          refine ⟨rt', heffect, fun γ g hg => ?_⟩
          have hkeep := keeps_perform hg (followUp request.op) { v with host := rt' }
          simp only
          rcases hrun : Handler.run (followUp request.op).perform { v with host := rt' } with
            ⟨e | u, w⟩
          · rw [hrun] at hkeep
            exact hkeep
          · rw [hrun] at hkeep
            exact hkeep

end Runtime

end ExpraConnect
