import ExpraConnect.Cluster.RoleFacts

/-!
# What a restart does to a cluster

A restart writes the cluster to its document, decodes the document and rebuilds the cluster.

* one lemma for each part of the document: decoding what was encoded;
* `Cluster.Restartable`: what the strict decoder asks for; `Cluster.restarted`: what it rebuilds;
* `Cluster.restart_eq_ok_iff`: a restart succeeds on exactly the restartable clusters, and gives the
  rebuilt one.
-/

namespace ExpraConnect

open ExpraConnect.Lib

/-! ## Decoding what was encoded -/

/-- A list whose items are decoded one by one.  Kind: L -/
theorem Except.mapM_map_eq_ok {α β γ : Type} {f : β → Except PyError γ} {g : α → β} {k : α → γ}
    {l : List α} (h : ∀ a ∈ l, f (g a) = .ok (k a)) : (l.map g).mapM f = .ok (l.map k) := by
  induction l with
  | nil => rfl
  | cons a l ih =>
      rw [List.map_cons, List.mapM_cons, h a List.mem_cons_self,
        ih fun b hb => h b (List.mem_cons_of_mem _ hb)]
      rfl

/-- A role's value names the role.  Kind: L -/
theorem ClusterRole.new_value (role : ClusterRole) : ClusterRole.new role.value = .ok role := by
  cases role with
  | worker => decide
  | coordinator => decide
  | subcoordinator => decide

/-- The role set of an assignment survives.  Kind: L -/
theorem rolesToList_mapM (roles : Finset ClusterRole) :
    ∃ l, (rolesToList roles).mapM ClusterRole.new = .ok l ∧ l.toFinset = roles := by
  refine ⟨_, Except.mapM_map_eq_ok (k := id) fun role _ => ClusterRole.new_value role, ?_⟩
  rw [List.map_id]
  ext role
  cases role <;> simp

/-- So does the permission set of a grant.  Kind: L -/
theorem permissionsToList_mapM (permissions : Finset NodePermission) :
    ∃ l, (permissionsToList permissions).mapM NodePermission.new = .ok l ∧
      l.toFinset = permissions := by
  refine ⟨_, Except.mapM_map_eq_ok (k := id) fun p _ => NodePermission.new_value p, ?_⟩
  rw [List.map_id]
  ext permission
  cases permission <;> simp

/-- An assignment as it is read back: no job is running.
Source: `cluster/state.py`, `role_state_from_dict`.  Kind: D -/
def RoleAssignment.restarted (a : RoleAssignment) : RoleAssignment :=
  { a with hasActiveJob := false }

/-- The document of a bound assignment.  Kind: L -/
theorem assignmentFromDict_toDict {a : RoleAssignment} {d : AssignmentDoc}
    (h : assignmentToDict a = some d) : assignmentFromDict d = .ok a.restarted := by
  obtain ⟨n, hn, rfl⟩ := Option.map_eq_some_iff.mp h
  obtain ⟨l, hl, hroles⟩ := rolesToList_mapM a.roles
  simp only [assignmentFromDict, Except.bind_eq_ok]
  refine ⟨l, hl, n, NodeId.new_value n, ?_⟩
  rw [hroles]
  unfold RoleAssignment.new
  simp only [a.normalized]
  rw [dif_neg a.exclusive, dif_neg a.not_revoked_paused]
  simp only [RoleAssignment.restarted, hn]

/-- An epoch reads back.  Kind: L -/
theorem epochFromDict_toDict (e : CoordinatorEpoch) : epochFromDict (epochToDict e) = .ok e := by
  simp only [epochFromDict, epochToDict, Except.bind_eq_ok]
  refine ⟨e.coordinatorId, NodeId.new_value _, ?_⟩
  unfold CoordinatorEpoch.new
  rw [dif_pos e.token_ne, dif_pos e.issued_le]

/-- A capability grant reads back.  Kind: L -/
theorem grantFromDict_toDict (g : CapabilityGrant) : grantFromDict (grantToDict g) = .ok g := by
  obtain ⟨l, hl, hpermissions⟩ := permissionsToList_mapM g.permissions
  simp only [grantFromDict, grantToDict, Except.bind_eq_ok]
  refine ⟨g.subject, NodeId.new_value _, g.target, NodeId.new_value _, l, hl, ?_⟩
  rw [hpermissions]
  unfold CapabilityGrant.new
  rw [dif_pos g.permissions_ne, dif_pos g.issued_lt]

/-- An invite as it is read back: without its one-time token.
Source: `cluster/invites.py`, `invite_to_dict`.  Kind: D -/
def InviteRecord.restored (i : InviteRecord) : InviteRecord := { i with token := "" }

/-- An invite reads back without its token.  Kind: L -/
theorem inviteFromDict_toDict (i : InviteRecord) :
    inviteFromDict (inviteToDict i) = .ok i.restored := by
  have hne : (inviteToDict i).tokenHash ≠ "" := i.hash_ne
  unfold inviteFromDict InviteRecord.new
  rw [if_neg hne, dif_pos hne]
  rfl

/-! ## The members -/

/-- A restart keeps the members valid.  Kind: L -/
theorem RoleState.Valid.restarted {as : List RoleAssignment} {gs : List CapabilityGrant}
    (h : RoleState.Valid as gs) : RoleState.Valid (as.map RoleAssignment.restarted) gs where
  ids := by
    rw [List.filterMap_map]
    exact h.ids
  coordinators := by
    rw [List.filter_map, List.length_map]
    exact h.coordinators
  subcoordinators := by
    rw [List.filter_map, List.length_map]
    exact h.subcoordinators
  grants := h.grants

/-- The documents of a cluster's members are read back one by one.  Kind: L -/
theorem mapM_assignmentFromDict {as : List RoleAssignment} (h : ∀ a ∈ as, a.nodeId.isSome = true) :
    (as.filterMap assignmentToDict).mapM assignmentFromDict =
      .ok (as.map RoleAssignment.restarted) := by
  induction as with
  | nil => rfl
  | cons a as ih =>
      obtain ⟨n, hn⟩ := Option.isSome_iff_exists.mp (h a List.mem_cons_self)
      have hdoc : ∃ d, assignmentToDict a = some d := by simp [assignmentToDict, hn]
      obtain ⟨d, hd⟩ := hdoc
      rw [List.filterMap_cons_some hd, List.mapM_cons, assignmentFromDict_toDict hd,
        ih fun b hb => h b (List.mem_cons_of_mem _ hb)]
      rfl

/-! ## The whole cluster -/

namespace Cluster

variable {H : InviteHash} {c c' : Cluster}

/-- What `from_dict` and `from_state` ask of the document of a cluster.
Source: `cluster/operations.py`, `ClusterState.from_dict` and `Cluster.from_state`.  Kind: D -/
structure Restartable (c : Cluster) : Prop where
  /-- The members and grants are a role state. -/
  valid : RoleState.Valid c.assignments.values c.capabilityGrants
  /-- The local node is a member. -/
  member : (c.assignments.get? c.localId).isSome = true
  /-- The cluster has a name. -/
  named : c.clusterId ≠ ""
  /-- No used invite is empty. -/
  used : "" ∉ c.usedInvites

/-- A list of invites, by digest. -/
def byDigest (invites : List InviteRecord) : Dict String InviteRecord :=
  Dict.ofList (invites.map fun i => (i.tokenHash, i.restored))

/-- The cluster that is rebuilt: jobs are gone, invites are filed under their digests, and a used
token that was stored as such is stored as its digest.
Source: `cluster/operations.py`, `Cluster.from_state`.  Kind: D -/
def restarted (H : InviteHash) (c : Cluster) : Cluster :=
  { c with
    assignments := Assignments.ofList (c.assignments.values.map RoleAssignment.restarted)
    online := Dict.empty.insert c.localId true
    invites := byDigest c.invites.values
    joinAdmissions := byDigest c.joinAdmissions.values
    usedInvites := c.usedInvites.image fun item => if H.isDigest item then item else H.hash item }

/-- A node id is not empty.  Kind: L -/
theorem NodeId.value_ne_empty (n : NodeId) : n.value ≠ "" := by
  intro h
  have hv := n.valid
  rw [h] at hv
  revert hv
  decide

/-- A restartable cluster is rebuilt.  Kind: L -/
theorem restart_of_restartable (h : c.Restartable) : c.restart H = .ok (c.restarted H) := by
  have hmembers := mapM_assignmentFromDict c.assignments.isSome_of_mem_values
  have hinvites : ∀ l : List InviteRecord, (l.map inviteToDict).mapM inviteFromDict =
      .ok (l.map InviteRecord.restored) :=
    fun l => Except.mapM_map_eq_ok fun i _ => inviteFromDict_toDict i
  have hgrants : (c.capabilityGrants.map grantToDict).mapM grantFromDict =
      .ok c.capabilityGrants := by
    have hmap := Except.mapM_map_eq_ok (l := c.capabilityGrants) (k := id)
      fun g _ => grantFromDict_toDict g
    rwa [List.map_id] at hmap
  have hepoch : (some (epochToDict c.epoch)).mapM epochFromDict = .ok (some c.epoch) := by
    rw [Option.mapM_some, epochFromDict_toDict]
    rfl
  have hroles : c.roleState = .ok ⟨c.assignments.values, some c.epoch, c.promotionEpochs,
      c.capabilityGrants, h.valid⟩ := RoleState.new_eq_ok_iff.mpr ⟨h.valid, rfl, rfl, rfl, rfl⟩
  have hrestored : RoleState.new (c.assignments.values.map RoleAssignment.restarted)
      (some c.epoch) (c.promotionEpochs.sort (· ≤ ·)).toFinset c.capabilityGrants =
        .ok ⟨_, some c.epoch, c.promotionEpochs, c.capabilityGrants, h.valid.restarted⟩ := by
    rw [Finset.sort_toFinset]
    exact RoleState.new_eq_ok_iff.mpr ⟨h.valid.restarted, rfl, rfl, rfl, rfl⟩
  have hused : ¬((c.usedInvites.sort (· ≤ ·)).any (· = "")) = true := by
    intro hany
    obtain ⟨item, hitem, heq⟩ := List.any_eq_true.mp hany
    rw [Finset.mem_sort, of_decide_eq_true heq] at hitem
    exact h.used hitem
  have hlocal : (c.assignments.values.map RoleAssignment.restarted).any
      (fun a => a.nodeId = some c.localId) = true := by
    obtain ⟨a, ha⟩ := Option.isSome_iff_exists.mp h.member
    rw [← Assignments.find?_values] at ha
    rw [List.any_map, List.any_eq_true]
    exact ⟨a, List.mem_of_find?_eq_some ha, List.find?_some ha⟩
  simp only [Cluster.restart, Cluster.toDict, Except.bind_eq_ok, Except.pure_eq_ok]
  refine ⟨_, ⟨_, hroles, rfl⟩, ?_⟩
  simp only [ClusterState.fromDict, Except.bind_eq_ok, Except.pure_eq_ok, Except.raiseIf_eq_ok]
  have hnamed : ¬(c.localId.value = "" ∨ c.clusterId = "") :=
    fun hempty => hempty.elim (NodeId.value_ne_empty _) h.named
  refine ⟨_, ⟨_, hmembers, _, hepoch, _, hgrants, _, hrestored, (), hnamed, _, hinvites _, _,
    hinvites _, (), hused, rfl⟩, ?_⟩
  simp only [Cluster.fromState, Except.bind_eq_ok, Except.raiseIf_eq_ok]
  refine ⟨(), by simpa using hlocal, ?_⟩
  simp only [Except.pure_eq_ok, restarted, byDigest, List.map_map]
  congr 1
  ext item
  simp

/-- A restart that succeeds found everything it asks for.  Kind: L -/
theorem restartable_of_restart (h : c.restart H = .ok c') : c.Restartable := by
  have hmembers := mapM_assignmentFromDict c.assignments.isSome_of_mem_values
  simp only [Cluster.restart, Except.bind_eq_ok] at h
  obtain ⟨document, hdoc, state, hstate, h⟩ := h
  simp only [Cluster.toDict, Except.bind_eq_ok, Except.pure_eq_ok] at hdoc
  obtain ⟨roles, hroles, rfl⟩ := hdoc
  obtain ⟨hvalid, has, -⟩ := RoleState.new_eq_ok_iff.mp hroles
  simp only [ClusterState.fromDict, Except.bind_eq_ok, Except.pure_eq_ok,
    Except.raiseIf_eq_ok] at hstate
  obtain ⟨as, hdecoded, _, _, _, _, roles', hnew, _, hnames, _, _, _, _, _, hused, rfl⟩ := hstate
  rw [has, hmembers] at hdecoded
  cases hdecoded
  simp only [Cluster.fromState, Except.bind_eq_ok, Except.raiseIf_eq_ok] at h
  obtain ⟨_, hlocal, -⟩ := h
  refine ⟨hvalid, ?_, fun hempty => hnames (.inr hempty), fun hmem => hused ?_⟩
  · rw [(RoleState.new_eq_ok_iff.mp hnew).2.1, List.any_map, not_or] at hlocal
    have hany : (c.assignments.values.any ((fun a => decide (a.nodeId = some c.localId)) ∘
        RoleAssignment.restarted)) = true := by
      simpa using hlocal.2
    obtain ⟨a, ha, hnode⟩ := List.any_eq_true.mp hany
    rw [← Assignments.find?_values, List.find?_isSome]
    exact ⟨a, ha, hnode⟩
  · rw [List.any_eq_true]
    exact ⟨"", (Finset.mem_sort _).mpr hmem, by simp⟩

/-- A restart succeeds on exactly the restartable clusters, and rebuilds them.  Kind: L -/
theorem restart_eq_ok_iff : c.restart H = .ok c' ↔ c.Restartable ∧ c' = c.restarted H := by
  constructor
  · intro h
    have hr := restartable_of_restart h
    rw [restart_of_restartable hr] at h
    exact ⟨hr, (Except.ok.inj h).symm⟩
  · rintro ⟨hr, rfl⟩
    exact restart_of_restartable hr

end Cluster

end ExpraConnect
