import ExpraConnect.Lib.Mirror
import ExpraConnect.Runtime.State

/-!
# The registry as a mirror of the members

* `hydrateMember_of_not_refused`, `hydrateMember_of_refused`: one member of the loop of
  `_hydrate_registry_membership`;
* `hydrateMembers_isSome_iff`: the loop raises exactly at a paired member that is revoked in the
  registry;
* `registryMirror`, `hydrateMembers_of_not_refused`: otherwise it brings the records up to date.
-/

namespace ExpraConnect

open ExpraConnect.Lib

/-- The node has a record that is revoked. -/
def NodeRegistry.revoked (records : NodeRegistry) (node : NodeId) : Bool :=
  (records.get? node).any fun record => record.trust = .revoked

namespace Runtime

/-- `self._pairing is not None and self._pairing.can_join_cluster(node_id)`. -/
def paired (pairing : Option Pairing) (node : NodeId) : Bool :=
  pairing.any fun p => p.canJoinCluster node

/-- A paired node whose record is revoked cannot be promoted.  Kind: D -/
def Refuses (pairing : Option Pairing) (records : NodeRegistry) (node : NodeId) : Prop :=
  paired pairing node = true ∧ records.revoked node = true

/-- An assignment has a role.  Kind: L -/
theorem registryRole_ne (a : RoleAssignment) : registryRole a ≠ .notJoined := by
  unfold registryRole
  split
  · exact nofun
  · split <;> exact nofun

/-- The records as a mirror of the assignments; the context is the pairing and the coordinator.
Source: `runtime/core.py`, `_hydrate_registry_membership`.  Kind: D -/
def registryMirror : Mirroring NodeId RoleAssignment NodeRecord (MembershipState × Option NodeId)
    (Option Pairing × NodeId) where
  live a := !a.revoked
  written x a := (registryRole a, some x.2)
  shows r := if r.membership = .notJoined then none else some (r.membership, r.coordinatorId)
  update x node a record :=
    { trust := if paired x.1 node then .authorized
        else (record.getD NodeRegistry.discovered).trust
      membership := registryRole a
      coordinatorId := some x.2 }
  shows_update _ _ a _ := if_neg (registryRole_ne a)

section loop

variable {pairing : Option Pairing} {coordinatorId node : NodeId} {a : RoleAssignment}
  {records : NodeRegistry}

/-- Observing a node gives it a record, which is not revoked if it is new.  Kind: L -/
theorem get?_observe (node : NodeId) (records : NodeRegistry) :
    (NodeRegistry.observe node records).get? node =
      some ((records.get? node).getD NodeRegistry.discovered) := by
  unfold NodeRegistry.observe Dict.contains
  cases h : records.get? node with
  | none => simp
  | some record => simp [h]

/-- An observation is overwritten by what follows it.  Kind: L -/
theorem insert_observe (node : NodeId) (record : NodeRecord) (records : NodeRegistry) :
    (NodeRegistry.observe node records).insert node record = records.insert node record := by
  unfold NodeRegistry.observe
  split
  · rfl
  · exact Dict.insert_insert _ _ _ _

/-- A node is revoked if and only if its record is.  Kind: L -/
theorem revoked_eq (node : NodeId) (records : NodeRegistry) : records.revoked node = true ↔
    ((records.get? node).getD NodeRegistry.discovered).trust = .revoked := by
  unfold NodeRegistry.revoked
  cases records.get? node with
  | none => simp [NodeRegistry.discovered]
  | some record => simp

/-- Promoting a known node that is not revoked.  Kind: L -/
theorem promote_of_get? {record : NodeRecord} (h : records.get? node = some record)
    (hrev : record.trust ≠ .revoked) : NodeRegistry.promote node records =
      .ok (records.insert node { record with trust := .authorized }) := by
  unfold NodeRegistry.promote
  rw [h]
  exact if_neg hrev

/-- Hydrating a known node.  Kind: L -/
theorem hydrateMembership_of_get? {record : NodeRecord} {role : MembershipState}
    (h : records.get? node = some record) :
    NodeRegistry.hydrateMembership node role coordinatorId records =
      .ok (records.insert node ⟨record.trust, role, some coordinatorId⟩) := by
  unfold NodeRegistry.hydrateMembership
  rw [h]

/-- A member that is not refused gets the record of the mirror.  Kind: L -/
theorem hydrateMember_of_not_refused (h : ¬Refuses pairing records node) :
    hydrateMember pairing coordinatorId (node, a) records =
      .ok (records.insert node
        (registryMirror.update (pairing, coordinatorId) node a (records.get? node))) := by
  have hget := get?_observe node records
  have hnot : paired pairing node = true →
      ((records.get? node).getD NodeRegistry.discovered).trust ≠ .revoked :=
    fun hpaired hrev => h ⟨hpaired, (revoked_eq node records).mpr hrev⟩
  simp only [registryMirror]
  generalize (records.get? node).getD NodeRegistry.discovered = record at hget hnot ⊢
  unfold hydrateMember
  dsimp only
  rw [hget, Option.any_some]
  by_cases hpaired : paired pairing node = true
  · by_cases hauth : record.trust = .authorized
    · rw [if_neg (by simp [hauth]), if_pos hpaired]
      refine (hydrateMembership_of_get? hget).trans ?_
      rw [insert_observe, hauth]
    · rw [if_pos ⟨hpaired, by simpa using hauth⟩, promote_of_get? hget (hnot hpaired),
        insert_observe, if_pos hpaired]
      refine (hydrateMembership_of_get? (Dict.get?_insert_self _ _ _)).trans ?_
      rw [Dict.insert_insert]
  · rw [if_neg fun hboth => hpaired hboth.1, if_neg hpaired]
    refine (hydrateMembership_of_get? hget).trans ?_
    rw [insert_observe]

/-- One that is refused raises.  Kind: L -/
theorem hydrateMember_of_refused (h : Refuses pairing records node) :
    hydrateMember pairing coordinatorId (node, a) records =
      .error ⟨.permission, "revoked node requires a fresh pairing"⟩ := by
  have hget := get?_observe node records
  have hrev := (revoked_eq node records).mp h.2
  generalize (records.get? node).getD NodeRegistry.discovered = record at hget hrev
  unfold hydrateMember
  dsimp only
  rw [hget, Option.any_some, if_pos ⟨h.1, by simp [hrev]⟩, NodeRegistry.promote, hget]
  dsimp only
  rw [if_pos hrev]
  rfl

/-- An update revokes nobody and clears nobody that was not refused.  Kind: L -/
theorem revoked_insert_update (h : ¬Refuses pairing records node) (other : NodeId) :
    NodeRegistry.revoked (records.insert node
      (registryMirror.update (pairing, coordinatorId) node a (records.get? node))) other =
        records.revoked other := by
  by_cases hother : node = other
  · subst hother
    rw [Bool.eq_iff_iff, revoked_eq node records, NodeRegistry.revoked, Dict.get?_insert_self]
    by_cases hpaired : paired pairing node = true
    · have hrev : ((records.get? node).getD NodeRegistry.discovered).trust ≠ .revoked :=
        fun hrev => h ⟨hpaired, (revoked_eq node records).mpr hrev⟩
      simp [registryMirror, hpaired, hrev]
    · simp [registryMirror, hpaired]
  · rw [NodeRegistry.revoked, NodeRegistry.revoked, Dict.get?_insert_of_ne _ _ hother]

/-- The loop over the members raises exactly at a paired member that is revoked in the registry.
Kind: L -/
theorem hydrateMembers_isSome_iff (members : List (NodeId × RoleAssignment))
    (records : NodeRegistry) :
    (hydrateMembers pairing coordinatorId members records).1.isSome = true ↔
      ∃ node ∈ members.map Prod.fst, Refuses pairing records node := by
  induction members generalizing records with
  | nil => simp [hydrateMembers]
  | cons member rest ih =>
      obtain ⟨node, a⟩ := member
      unfold hydrateMembers
      by_cases hrefused : Refuses pairing records node
      · rw [hydrateMember_of_refused hrefused]
        exact iff_of_true rfl ⟨node, List.mem_cons_self, hrefused⟩
      · rw [hydrateMember_of_not_refused hrefused]
        dsimp only
        rw [ih, List.map_cons, List.exists_mem_cons_iff, or_iff_right hrefused]
        simp only [Refuses, revoked_insert_update hrefused]

/-- Otherwise it brings the records up to date.  Kind: L -/
theorem hydrateMembers_of_not_refused {members : List (NodeId × RoleAssignment)}
    {records : NodeRegistry}
    (h : ∀ node ∈ members.map Prod.fst, ¬Refuses pairing records node) :
    hydrateMembers pairing coordinatorId members records =
      (none, registryMirror.refresh (pairing, coordinatorId) members records) := by
  induction members generalizing records with
  | nil => rfl
  | cons member rest ih =>
      obtain ⟨node, a⟩ := member
      have hnode := h node List.mem_cons_self
      rw [hydrateMembers, hydrateMember_of_not_refused hnode]
      dsimp only
      rw [ih, Mirroring.refresh]
      intro other hother
      rw [Refuses, revoked_insert_update hnode]
      exact h other (List.mem_cons_of_mem _ hother)

end loop

end Runtime

end ExpraConnect
