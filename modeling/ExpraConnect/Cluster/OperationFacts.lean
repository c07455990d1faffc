import ExpraConnect.Cluster.FailoverRuns
import ExpraConnect.Cluster.InvitePreimage

/-!
# What the operations of the cluster facade do

One lemma for each operation that says what it went through when it returned or raised, and what it
wrote.  The proofs about invites, grants and atomicity use these and unfold nothing.
-/

namespace ExpraConnect

open ExpraConnect.Lib

namespace Cluster

variable {H : InviteHash} {c c' : Cluster}

/-! ## Assigning and revoking -/

/-- The cluster with the members and grants of `s`, where `node` is known to be online.
Source: `cluster/operations.py`, `Cluster.assign`.  Kind: D -/
def withMember (c : Cluster) (s : RoleState) (node : NodeId) : Cluster :=
  { c.applyRoleState s with
    online := if c.online.contains node then c.online else c.online.insert node true }

/-- What `assign` wrote.  Kind: L -/
theorem assign_eq_ok {node : NodeId} {role : ClusterRole} {now : ℚ} {u : Unit}
    (h : Cluster.assign node role now c = .ok u c') :
    ∃ s t change, c.roleState = .ok s ∧
      s.assign c.localAssignment node {role} now = .ok (t, change) ∧ c' = c.withMember t node := by
  simp only [Cluster.assign, PyM.get_bind_eq_ok, PyM.raiseIf_bind_eq_ok, PyM.ofExcept_bind_eq_ok,
    PyM.set_eq_ok] at h
  obtain ⟨_, s, hs, ⟨t, change⟩, ht, hset⟩ := h
  exact ⟨s, t, change, hs, ht, hset⟩

/-- An `assign` that raises wrote nothing.  Kind: L -/
theorem assign_eq_error {node : NodeId} {role : ClusterRole} {now : ℚ} {e : PyError}
    (h : Cluster.assign node role now c = .error e c') : c' = c := by
  simp only [Cluster.assign, PyM.get_bind_eq_error, PyM.raiseIf_bind_eq_error,
    PyM.ofExcept_bind_eq_error, PyM.set_eq_error] at h
  rcases h with ⟨_, _, hs⟩ | ⟨_, ⟨_, hs⟩ | ⟨_, _, ⟨_, hs⟩ | ⟨_, _, hfalse⟩⟩⟩
  · exact hs.symm
  · exact hs
  · exact hs
  · exact hfalse.elim

/-- Only the active coordinator assigns.  Kind: L -/
theorem isActiveCoordinator_of_assign {node : NodeId} {role : ClusterRole} {now : ℚ} {u : Unit}
    (h : Cluster.assign node role now c = .ok u c') : c.isActiveCoordinator = true := by
  simp only [Cluster.assign, PyM.get_bind_eq_ok, PyM.raiseIf_bind_eq_ok] at h
  simpa using h.1

/-- Only the active coordinator revokes.  Kind: L -/
theorem isActiveCoordinator_of_revoke {node : NodeId} {u : Unit}
    (h : Cluster.revoke node c = .ok u c') : c.isActiveCoordinator = true := by
  simp only [Cluster.revoke, PyM.get_bind_eq_ok, PyM.raiseIf_bind_eq_ok] at h
  simpa using h.1

/-- What `revoke` wrote: nothing for a node that is not an active member.  Kind: L -/
theorem revoke_eq_ok {node : NodeId} {u : Unit} (h : Cluster.revoke node c = .ok u c') :
    c' = c ∨ ∃ s t, c.roleState = .ok s ∧ s.revoke c.localAssignment node = .ok t ∧
      c' = c.applyRoleState t := by
  simp only [Cluster.revoke, PyM.get_bind_eq_ok, PyM.raiseIf_bind_eq_ok] at h
  obtain ⟨_, h⟩ := h
  cases hcur : c.assignments.get? node with
  | none =>
      simp only [hcur, PyM.pure_eq_ok] at h
      exact .inl h.2.symm
  | some current =>
      simp only [hcur] at h
      split at h
      · exact .inl (PyM.pure_eq_ok.mp h).2.symm
      · simp only [PyM.ofExcept_bind_eq_ok, PyM.set_eq_ok] at h
        obtain ⟨s, hs, t, ht, hset⟩ := h
        exact .inr ⟨s, t, hs, ht, hset⟩

/-- A `revoke` that raises wrote nothing.  Kind: L -/
theorem revoke_eq_error {node : NodeId} {e : PyError} (h : Cluster.revoke node c = .error e c') :
    c' = c := by
  simp only [Cluster.revoke, PyM.get_bind_eq_error, PyM.raiseIf_bind_eq_error] at h
  rcases h with ⟨_, _, hs⟩ | ⟨_, h⟩
  · exact hs.symm
  · cases hcur : c.assignments.get? node with
    | none => simp [hcur] at h
    | some current =>
        simp only [hcur] at h
        split at h
        · simp at h
        · simp only [PyM.ofExcept_bind_eq_error, PyM.set_eq_error] at h
          rcases h with ⟨_, hs⟩ | ⟨_, _, ⟨_, hs⟩ | ⟨_, _, hfalse⟩⟩
          · exact hs
          · exact hs
          · exact hfalse.elim

/-- The entry of an assigned node afterwards: not revoked, with the assigned role.  Kind: L -/
theorem get?_withMember {s t : RoleState} {actor : RoleAssignment} {node : NodeId}
    {roles : Finset ClusterRole} {now : ℚ} {change : RoleChange}
    (h : s.assign actor node roles now = .ok (t, change)) :
    (c.withMember t node).assignments.get? node = some change.assignment ∧
      change.assignment.revoked = false ∧ change.assignment.roles = normalizeRoles roles := by
  have hw := RoleState.assigned_of_assign h
  refine ⟨?_, hw.revoked, hw.roles⟩
  change (Assignments.ofList t.assignments).get? node = some change.assignment
  rw [Assignments.get?_ofList t.valid.ids]
  exact hw.assignmentFor

/-! ## Standing -/

/-- The node is an active member with the role. -/
def Holds (c : Cluster) (node : NodeId) (role : ClusterRole) : Prop :=
  ∃ a, c.assignments.get? node = some a ∧ a.revoked = false ∧ role ∈ a.roles

/-- The pair is one that a grant may join: an active Subcoordinator and an active Worker.
Kind: D -/
def Joins (c : Cluster) (key : NodeId × NodeId) : Prop :=
  c.Holds key.1 .subcoordinator ∧ c.Holds key.2 .worker

/-- A grant matches the members if and only if it joins two of them.  Kind: L -/
theorem grantMatches_values_iff {g : CapabilityGrant} :
    RoleState.grantMatches c.assignments.values g = true ↔ c.Joins g.key := by
  rw [RoleState.grantMatches_iff]
  have hget : ∀ node, RoleState.lookupId c.assignments.values node = c.assignments.get? node :=
    c.assignments.find?_values
  rw [hget, hget]
  rfl

/-! ## Consuming an invite -/

/-- The cluster with the invite of a token spent.
Source: `cluster/operations.py`, `Cluster.consume_invite`.  Kind: D -/
def spent (H : InviteHash) (c : Cluster) (token : String) : Cluster :=
  { c with
    invites := (c.invites.erase token).erase (H.hash token)
    usedInvites := insert (H.hash token) c.usedInvites }

/-- The checks of `consume_invite` in front of the admission hold for `invite`: it is what the
lookups find, unused, live, and for this node, cluster and term.  Kind: D -/
structure Spends (H : InviteHash) (c : Cluster) (token : String) (target : NodeId) (now : ℚ)
    (invite : InviteRecord) : Prop where
  /-- The local node leads the cluster. -/
  leads : c.isActiveCoordinator = true
  /-- No admission is stored for the token. -/
  noAdmission : c.joinAdmissions.get? (H.hash token) = none
  /-- The lookups find the invite. -/
  found : c.lookupInvite H token = some invite
  /-- The token was not used. -/
  unused : H.hash token ∉ c.usedInvites
  /-- The invite has not expired. -/
  live : now < invite.expiresAt
  /-- It invites this node -/
  target : NodeId.new invite.targetNodeId = .ok target
  /-- into this cluster -/
  cluster : invite.clusterId = c.clusterId
  /-- and term. -/
  epoch : invite.epoch = c.epoch.epoch

/-- What a `consume_invite` that returned did: it answered from the stored admission, or spent the
invite, assigned the Worker role and stored the admission.  Kind: L -/
theorem consumeInvite_eq_ok {token : String} {target : NodeId} {now : ℚ} {allowRetry : Bool}
    {invite : InviteRecord}
    (h : Cluster.consumeInvite H token target now allowRetry c = .ok invite c') :
    (c.joinAdmissions.get? (H.hash token) = some invite ∧ allowRetry = true ∧
        NodeId.new invite.targetNodeId = .ok target ∧ c' = c) ∨
      (Spends H c token target now invite ∧
        ∃ u c₁, Cluster.assign target .worker now (c.spent H token) = .ok u c₁ ∧
          c' = { c₁ with joinAdmissions :=
            c₁.joinAdmissions.insert (H.hash token) { invite with token := "" } }) := by
  simp only [Cluster.consumeInvite, PyM.get_bind_eq_ok, PyM.raiseIf_bind_eq_ok] at h
  obtain ⟨hlead, h⟩ := h
  cases hadm : c.joinAdmissions.get? (H.hash token) with
  | some admission =>
      simp only [hadm, PyM.raiseIf_bind_eq_ok, PyM.ofExcept_bind_eq_ok, PyM.pure_eq_ok] at h
      obtain ⟨hretry, admitted, htarget, heq, rfl, rfl⟩ := h
      have hadmitted : admitted = target := not_not.mp heq
      subst hadmitted
      exact .inl ⟨rfl, by simpa using hretry, htarget, rfl⟩
  | none =>
      cases hfound : (c.invites.get? token).or (c.invites.get? (H.hash token)) with
      | none =>
          simp only [hadm, hfound] at h
          simp at h
      | some found =>
          simp only [hadm, hfound, PyM.raiseIf_bind_eq_ok, PyM.ofExcept_bind_eq_ok,
            PyM.modify_bind_eq_ok, not_or, not_le, not_not] at h
          obtain ⟨⟨hused, hlive⟩, invited, hinv, ⟨rfl, hcl, hep⟩, h⟩ := h
          obtain ⟨u, c₁, hassign, h⟩ := PyM.bind_eq_ok.mp h
          simp only [PyM.modify_bind_eq_ok, PyM.pure_eq_ok] at h
          obtain ⟨rfl, rfl⟩ := h
          exact .inr ⟨⟨by simpa using hlead, hadm, hfound, hused, hlive, hinv, hcl, hep⟩, u, c₁,
            hassign, rfl⟩

/-- A `consume_invite` that raises wrote nothing, or spent the invite before the role change
raised.  Kind: L -/
theorem consumeInvite_eq_error {token : String} {target : NodeId} {now : ℚ} {allowRetry : Bool}
    {e : PyError} (h : Cluster.consumeInvite H token target now allowRetry c = .error e c') :
    c' = c ∨ ((∃ invite, Spends H c token target now invite) ∧
      Cluster.assign target .worker now (c.spent H token) = .error e c' ∧
        c' = c.spent H token) := by
  simp only [Cluster.consumeInvite, PyM.get_bind_eq_error, PyM.raiseIf_bind_eq_error] at h
  rcases h with ⟨_, _, hs⟩ | ⟨hlead, h⟩
  · exact .inl hs.symm
  cases hadm : c.joinAdmissions.get? (H.hash token) with
  | some admission =>
      simp only [hadm, PyM.raiseIf_bind_eq_error, PyM.ofExcept_bind_eq_error,
        PyM.pure_eq_error] at h
      rcases h with ⟨_, _, hs⟩ | ⟨_, ⟨_, hs⟩ | ⟨_, _, ⟨_, _, hs⟩ | ⟨_, hfalse⟩⟩⟩
      · exact .inl hs.symm
      · exact .inl hs
      · exact .inl hs.symm
      · exact hfalse.elim
  | none =>
      cases hfound : (c.invites.get? token).or (c.invites.get? (H.hash token)) with
      | none =>
          simp only [hadm, hfound, PyM.throw_eq_error] at h
          exact .inl h.2.symm
      | some found =>
          simp only [hadm, hfound, PyM.raiseIf_bind_eq_error, PyM.ofExcept_bind_eq_error,
            PyM.modify_bind_eq_error, not_or, not_le, not_not] at h
          rcases h with ⟨_, _, hs⟩ | ⟨⟨hused, hlive⟩, ⟨_, hs⟩ | ⟨invited, hinv, ⟨_, _, hs⟩ |
            ⟨⟨rfl, hcl, hep⟩, h⟩⟩⟩
          · exact .inl hs.symm
          · exact .inl hs
          · exact .inl hs.symm
          · have hspends : Spends H c token invited now found :=
              ⟨by simpa using hlead, hadm, hfound, hused, hlive, hinv, hcl, hep⟩
            rcases PyM.bind_eq_error.mp h with hassign | ⟨_, _, _, hfalse⟩
            · exact .inr ⟨⟨found, hspends⟩, hassign, assign_eq_error hassign⟩
            · simp only [PyM.modify_bind_eq_error, PyM.pure_eq_error] at hfalse

/-- An invite that is spent is answered by the role change.  Kind: L -/
theorem consumeInvite_of_spends {token : String} {target : NodeId} {now : ℚ} (allowRetry : Bool)
    {invite : InviteRecord} (h : Spends H c token target now invite) :
    Cluster.consumeInvite H token target now allowRetry c =
      match Cluster.assign target .worker now (c.spent H token) with
      | .ok _ c₁ =>
          .ok invite { c₁ with
            joinAdmissions :=
              c₁.joinAdmissions.insert (H.hash token) { invite with token := "" } }
      | .error e c₁ => .error e c₁ := by
  have hfound : (c.invites.get? token).or (c.invites.get? (H.hash token)) = some invite := h.found
  cases hassign : Cluster.assign target .worker now (c.spent H token) with
  | ok u c₁ =>
      simp only [Cluster.consumeInvite, PyM.get_bind_eq_ok, PyM.raiseIf_bind_eq_ok]
      refine ⟨by simp [h.leads], ?_⟩
      simp only [h.noAdmission, hfound, PyM.raiseIf_bind_eq_ok, PyM.ofExcept_bind_eq_ok,
        PyM.modify_bind_eq_ok, not_or, not_le, not_not]
      exact ⟨⟨h.unused, h.live⟩, target, h.target, ⟨rfl, h.cluster, h.epoch⟩,
        PyM.bind_eq_ok.mpr ⟨u, c₁, hassign, rfl⟩⟩
  | error e c₁ =>
      simp only [Cluster.consumeInvite, PyM.get_bind_eq_error, PyM.raiseIf_bind_eq_error]
      refine .inr ⟨by simp [h.leads], ?_⟩
      simp only [h.noAdmission, hfound, PyM.raiseIf_bind_eq_error, PyM.ofExcept_bind_eq_error,
        PyM.modify_bind_eq_error, not_or, not_le, not_not]
      exact .inr ⟨⟨h.unused, h.live⟩, .inr ⟨target, h.target, .inr ⟨⟨rfl, h.cluster, h.epoch⟩,
        PyM.bind_eq_error.mpr (.inl hassign)⟩⟩⟩

end Cluster

end ExpraConnect
