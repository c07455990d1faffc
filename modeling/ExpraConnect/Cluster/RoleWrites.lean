import ExpraConnect.Cluster.FailoverFacts

/-!
# What the transitions of a role state write

For each transition that returned, the entry it wrote and the grants it left.

* `Assigned`, `Revoked`, `Replaced`: the entry of one node is written, and the grants are pruned to
  fit, cleared of the node, or kept;
* `Granted`: every grant stands between an active Subcoordinator and another, active Worker, with
  one lemma for each transition that a request can make;
* `heartbeat_capabilityGrants`, `promoteIfDue_capabilityGrants`: the failover coordinator creates no
  grant.
-/

namespace ExpraConnect

open ExpraConnect.Lib

namespace RoleState

variable {s t : RoleState} {actor : RoleAssignment} {target : NodeId}

/-! ## Entries -/

/-- An `assign` of `roles` to `target` took `s` to `t` and wrote the entry `b`.  Kind: D -/
structure Assigned (s : RoleState) (actor : RoleAssignment) (target : NodeId)
    (roles : Finset ClusterRole) (t : RoleState) (b : RoleAssignment) : Prop where
  /-- The acting coordinator is another node. -/
  control : ∃ actorId, s.control actor = .ok actorId ∧ target ≠ actorId
  /-- The Coordinator role is not assigned. -/
  noCoordinator : .coordinator ∉ roles
  /-- There is no other Subcoordinator. -/
  standby : .subcoordinator ∈ roles → ∀ a ∈ s.assignments, a.nodeId ≠ some target →
    a.revoked = false → .subcoordinator ∉ a.roles
  /-- The entry is that of the target, -/
  node : b.nodeId = some target
  /-- is active, -/
  revoked : b.revoked = false
  /-- and has the roles. -/
  roles : b.roles = normalizeRoles roles
  /-- The term is the same. -/
  epoch : t.epoch = s.epoch
  /-- The entry replaces the one there was, or is added. -/
  assignments : t.assignments = substitute b s.assignments ++
    (if (s.assignmentFor target).isNone then [b] else [])
  /-- The grants are pruned to fit. -/
  grants : t.capabilityGrants = pruneCapabilityGrants t.assignments s.capabilityGrants

/-- What `assign` writes.  Kind: L -/
theorem assigned_of_assign {roles : Finset ClusterRole} {now : ℚ} {change : RoleChange}
    (h : s.assign actor target roles now = .ok (t, change)) :
    Assigned s actor target roles t change.assignment := by
  simp only [assign, Except.bind_eq_ok, Except.raiseIf_eq_ok, Except.pure_eq_ok] at h
  obtain ⟨actorId, hctl, _, hne, _, hcoord, _, _, _, hother, a, ha, b, hb, u, hu, heq⟩ := h
  cases heq
  obtain ⟨_, has, hep, _, hgs⟩ := new_eq_ok_iff.mp hu
  obtain ⟨haid, haroles, _, harev, _⟩ := RoleAssignment.new_nodeId ha
  obtain ⟨hbid, hbroles, hbrev⟩ : b.nodeId = some target ∧ b.roles = normalizeRoles roles ∧
      b.revoked = false := by
    unfold dropJob at hb
    split at hb
    · obtain ⟨hid, hroles, _, hrev, _⟩ := RoleAssignment.new_nodeId hb
      exact ⟨hid.trans haid, by rw [hroles, a.normalized, haroles], hrev.trans harev⟩
    · cases hb
      exact ⟨haid, haroles, harev⟩
  refine ⟨⟨actorId, hctl, hne⟩, hcoord, ?_, hbid, hbrev, hbroles, hep, has, ?_⟩
  · intro hsub x hx hxn hxr hxs
    refine hother ⟨hsub, List.any_eq_true.mpr ⟨x, hx, ?_⟩⟩
    simp [hxn, hxr, hxs]
  · rw [hgs, has]

/-- A `revoke` of `target` took `s` to `t` and wrote the entry `b`.  Kind: D -/
structure Revoked (s : RoleState) (actor : RoleAssignment) (target : NodeId) (t : RoleState)
    (b : RoleAssignment) : Prop where
  /-- The acting coordinator is another node. -/
  control : ∃ actorId, s.control actor = .ok actorId ∧ target ≠ actorId
  /-- The target was an active member. -/
  member : ∃ cur, s.assignmentFor target = some cur ∧ cur.revoked = false
  /-- The entry is that of the target, -/
  node : b.nodeId = some target
  /-- and is revoked. -/
  revoked : b.revoked = true
  /-- The term is the same. -/
  epoch : t.epoch = s.epoch
  /-- The entry replaces the one there was. -/
  assignments : t.assignments = substitute b s.assignments
  /-- No grant names the target any more. -/
  grants : t.capabilityGrants =
    s.capabilityGrants.filter fun g => target ≠ g.subject && target ≠ g.target

/-- What `revoke` writes.  Kind: L -/
theorem revoked_of_revoke (h : s.revoke actor target = .ok t) :
    ∃ b, Revoked s actor target t b := by
  simp only [revoke, Except.bind_eq_ok, Except.raiseIf_eq_ok] at h
  obtain ⟨actorId, hctl, _, hne, h⟩ := h
  cases hcur : s.assignmentFor target with
  | none => simp [hcur] at h
  | some cur =>
      simp only [hcur, Except.bind_eq_ok, Except.raiseIf_eq_ok, Bool.not_eq_true] at h
      obtain ⟨_, hrev, b, hb, u, hu, ht⟩ := h
      obtain ⟨_, hua, hue, _, hug⟩ := new_eq_ok_iff.mp hu
      obtain ⟨_, hta, hte, _, htg⟩ := new_eq_ok_iff.mp ht
      obtain ⟨hbid, _, _, hbrev, _⟩ := RoleAssignment.new_nodeId hb
      exact ⟨b, ⟨actorId, hctl, hne⟩, ⟨cur, hcur, hrev⟩, hbid.trans (nodeId_of_assignmentFor hcur),
        hbrev, hte.trans hue, hta.trans hua, by rw [htg, hug]⟩

/-- The entry of `target` was replaced by one with its roles and standing, and nothing else changed.
Kind: D -/
structure Replaced (s : RoleState) (target : NodeId) (t : RoleState) (b : RoleAssignment) :
    Prop where
  /-- There was an entry with the same roles and standing. -/
  current : ∃ cur, s.assignmentFor target = some cur ∧ b.roles = cur.roles ∧
    b.revoked = cur.revoked
  /-- The entry is that of the target. -/
  node : b.nodeId = some target
  /-- It replaces the one there was. -/
  assignments : t.assignments = substitute b s.assignments
  /-- The grants are kept. -/
  grants : t.capabilityGrants = s.capabilityGrants

/-- What replacing an assignment by one of the same roles writes.  Kind: L -/
theorem replaced_of_new {cur b : RoleAssignment} {paused job : Bool}
    (hcur : s.assignmentFor target = some cur)
    (hb : RoleAssignment.new cur.roles cur.nodeId paused cur.revoked job = .ok b)
    (ht : s.replaceAssignment b = .ok t) : Replaced s target t b := by
  obtain ⟨_, hta, _, _, htg⟩ := new_eq_ok_iff.mp ht
  obtain ⟨hid, hroles, _, hrev, _⟩ := RoleAssignment.new_nodeId hb
  exact ⟨⟨cur, hcur, hroles.trans cur.normalized, hrev⟩,
    hid.trans (nodeId_of_assignmentFor hcur), hta, htg⟩

/-- What `pause` writes.  Kind: L -/
theorem replaced_of_pause (h : s.pause actor target = .ok t) : ∃ b, Replaced s target t b := by
  simp only [pause, Except.bind_eq_ok] at h
  obtain ⟨_, _, _, _, h⟩ := h
  cases hcur : s.assignmentFor target with
  | none => simp [hcur] at h
  | some cur =>
      simp only [hcur, Except.bind_eq_ok] at h
      obtain ⟨_, _, b, hb, ht⟩ := h
      exact ⟨b, replaced_of_new hcur hb ht⟩

/-- What `resume` writes.  Kind: L -/
theorem replaced_of_resume (h : s.resume actor target = .ok t) : ∃ b, Replaced s target t b := by
  simp only [resume, Except.bind_eq_ok] at h
  obtain ⟨_, _, h⟩ := h
  cases hcur : s.assignmentFor target with
  | none => simp [hcur] at h
  | some cur =>
      simp only [hcur, Except.bind_eq_ok] at h
      obtain ⟨_, _, b, hb, ht⟩ := h
      exact ⟨b, replaced_of_new hcur hb ht⟩

/-- What `job` writes.  Kind: L -/
theorem replaced_of_job {active : Bool} (h : s.job actor target active = .ok t) :
    ∃ b, Replaced s target t b := by
  simp only [job, Except.bind_eq_ok] at h
  obtain ⟨_, _, h⟩ := h
  cases hcur : s.assignmentFor target with
  | none => simp [hcur] at h
  | some cur =>
      simp only [hcur, Except.bind_eq_ok] at h
      obtain ⟨_, _, b, hb, ht⟩ := h
      exact ⟨b, replaced_of_new hcur hb ht⟩

/-- `rejoin_as_worker` makes the entry of a Coordinator a Worker's, or changes nothing.  Kind: L -/
theorem rejoinAsWorker_writes {node : NodeId} {currentEpoch : ℤ}
    (h : rejoinAsWorker s node currentEpoch = .ok t) :
    (∀ e, s.epoch = some e → (e.epoch : ℤ) = currentEpoch) ∧
      ((t = s ∧ ∀ a, s.assignmentFor node = some a → .coordinator ∉ a.roles) ∨
        ∃ b, b.nodeId = some node ∧ .coordinator ∉ b.roles ∧ t.epoch = s.epoch ∧
          t.assignments = substitute b s.assignments ∧
            t.capabilityGrants = s.capabilityGrants) := by
  simp only [rejoinAsWorker, Except.bind_eq_ok, Except.raiseIf_eq_ok] at h
  obtain ⟨_, _, _, hepoch, h⟩ := h
  refine ⟨fun e he => by simpa [he] using hepoch, ?_⟩
  cases hcur : s.assignmentFor node with
  | none =>
      simp only [hcur, Except.pure_eq_ok] at h
      exact .inl ⟨h.symm, fun a ha => by cases ha⟩
  | some cur =>
      simp only [hcur] at h
      split at h
      · obtain ⟨b, hb, ht⟩ := Except.bind_eq_ok.mp h
        obtain ⟨hid, hroles, _, _, _⟩ := RoleAssignment.new_nodeId hb
        obtain ⟨_, has, hep, _, hgs⟩ := new_eq_ok_iff.mp ht
        refine .inr ⟨b, hid.trans (nodeId_of_assignmentFor hcur), ?_, hep, has, hgs⟩
        rw [hroles]
        decide
      · rename_i hrole
        cases h
        exact .inl ⟨rfl, fun a ha => Option.some.inj ha ▸ hrole⟩

/-- Another node's entry is what it was.  Kind: L -/
theorem assignmentFor_of_substitute (add : Bool) {b : RoleAssignment} {node : NodeId}
    (hb : b.nodeId = some target) (hne : node ≠ target)
    (ht : t.assignments = substitute b s.assignments ++ (if add then [b] else [])) :
    t.assignmentFor node = s.assignmentFor node := by
  have hsub := lookupId_substitute hb s.assignments node
  rw [if_neg hne] at hsub
  have hadd : (if add then [b] else []).find? (fun a => decide (a.nodeId = some node)) = none := by
    split
    · simp [hb, Ne.symm hne]
    · rfl
  unfold assignmentFor
  rw [ht, List.find?_append, hadd, Option.or_none]
  exact hsub

/-- The target's entry is the one that was written.  Kind: L -/
theorem Assigned.assignmentFor {roles : Finset ClusterRole} {b : RoleAssignment}
    (h : Assigned s actor target roles t b) : t.assignmentFor target = some b := by
  have hsub := lookupId_substitute h.node s.assignments target
  rw [if_pos rfl] at hsub
  unfold lookupId at hsub
  unfold RoleState.assignmentFor
  rw [h.assignments, List.find?_append, hsub]
  cases hcur : s.assignmentFor target with
  | none =>
      unfold RoleState.assignmentFor at hcur
      simp [hcur, h.node]
  | some cur =>
      unfold RoleState.assignmentFor at hcur
      simp [hcur]

/-! ## Grants -/

/-- Every grant stands between an active Subcoordinator and another, active Worker. -/
def Granted (as : List RoleAssignment) (gs : List CapabilityGrant) : Prop :=
  ∀ g ∈ gs, grantMatches as g = true ∧ g.subject ≠ g.target

/-- Fewer grants stay granted.  Kind: L -/
theorem Granted.mono {as : List RoleAssignment} {gs hs : List CapabilityGrant} (h : Granted as gs)
    (hsub : hs ⊆ gs) : Granted as hs := fun g hg => h g (hsub hg)

/-- Grants that were pruned to fit do fit.  Kind: L -/
theorem Granted.prune {as bs : List RoleAssignment} {gs : List CapabilityGrant}
    (h : Granted as gs) : Granted bs (pruneCapabilityGrants bs gs) := by
  intro g hg
  obtain ⟨hmem, hmatch⟩ := List.mem_filter.mp hg
  exact ⟨hmatch, (h g hmem).2⟩

/-- A replacement keeps the grants.  Kind: L -/
theorem Replaced.granted {b : RoleAssignment} (h : Replaced s target t b)
    (hs : Granted s.assignments s.capabilityGrants) :
    Granted t.assignments t.capabilityGrants := by
  obtain ⟨cur, hcur, hroles, hrev⟩ := h.current
  rw [h.grants, h.assignments]
  intro g hg
  obtain ⟨hmatch, hne⟩ := hs g hg
  refine ⟨grantMatches_substitute h.node hcur ?_ ?_ ?_ hmatch, hne⟩
  · exact fun hr => hrev.trans hr
  · exact fun hr => hroles ▸ hr
  · exact fun hr => hroles ▸ hr

/-- A revocation keeps the grants.  Kind: L -/
theorem Revoked.granted {b : RoleAssignment} (h : Revoked s actor target t b)
    (hs : Granted s.assignments s.capabilityGrants) :
    Granted t.assignments t.capabilityGrants := by
  rw [h.grants, h.assignments]
  intro g hg
  obtain ⟨hmem, hother⟩ := List.mem_filter.mp hg
  simp only [Bool.and_eq_true, decide_eq_true_eq] at hother
  obtain ⟨hmatch, hne⟩ := hs g hmem
  refine ⟨?_, hne⟩
  rw [grantMatches_iff] at hmatch ⊢
  rw [lookupId_substitute h.node, lookupId_substitute h.node, if_neg (Ne.symm hother.1),
    if_neg (Ne.symm hother.2)]
  exact hmatch

/-- A grant that is made joins an active Subcoordinator to another, active Worker.  Kind: L -/
theorem granted_of_grantCapabilities {subject : NodeId} {permissions : Finset NodePermission}
    {now expiresAt : ℚ}
    (h : s.grantCapabilities actor subject target permissions now expiresAt = .ok t) :
    t.assignments = s.assignments ∧ ∃ grant, grant.key = (subject, target) ∧
      grantMatches s.assignments grant = true ∧ subject ≠ target ∧
        t.capabilityGrants =
          (s.capabilityGrants.filter fun g => g.key ≠ (subject, target)) ++ [grant] := by
  simp only [grantCapabilities, Except.bind_eq_ok, Except.raiseIf_eq_ok, not_or] at h
  obtain ⟨_, _, _, hsub, _, ⟨htgt, hne⟩, grant, hgrant, hnew⟩ := h
  obtain ⟨_, hta, _, _, htg⟩ := new_eq_ok_iff.mp hnew
  obtain ⟨hsubject, htarget⟩ : grant.subject = subject ∧ grant.target = target := by
    unfold CapabilityGrant.new at hgrant
    split at hgrant
    · split at hgrant
      · cases hgrant
        exact ⟨rfl, rfl⟩
      · cases hgrant
    · cases hgrant
  refine ⟨hta, grant, by simp [CapabilityGrant.key, hsubject, htarget], ?_, hne, htg⟩
  rw [grantMatches_iff, hsubject, htarget]
  constructor
  · cases hf : s.assignmentFor subject with
    | none => simp [hf] at hsub
    | some a =>
        simp only [hf, Option.all_some, Bool.or_eq_true, decide_eq_true_eq, not_or,
          Bool.not_eq_true, not_not] at hsub
        exact ⟨a, hf, hsub.1.1, hsub.2⟩
  · cases hf : s.assignmentFor target with
    | none => simp [hf] at htgt
    | some a =>
        simp only [hf, Option.all_some, Bool.or_eq_true, decide_eq_true_eq, not_or,
          Bool.not_eq_true, not_not] at htgt
        exact ⟨a, hf, htgt.1.1, htgt.2⟩

/-- What `revoke_capabilities` removes.  Kind: L -/
theorem grants_of_revokeCapabilities {subject : NodeId}
    (h : s.revokeCapabilities actor subject target = .ok t) :
    t.assignments = s.assignments ∧
      t.capabilityGrants = s.capabilityGrants.filter fun g => g.key ≠ (subject, target) := by
  obtain ⟨_, _, hnew⟩ := Except.bind_eq_ok.mp h
  obtain ⟨_, hta, _, _, htg⟩ := new_eq_ok_iff.mp hnew
  exact ⟨hta, htg⟩

/-- A node keeps its standing when its own entry, or another one, is written with it.  Kind: L -/
theorem Assigned.standing {roles : Finset ClusterRole} {b : RoleAssignment}
    (h : Assigned s actor target roles t b) {node : NodeId} {role : ClusterRole}
    (hrole : node = target → role ∈ roles)
    (hs : ∃ a, lookupId s.assignments node = some a ∧ a.revoked = false ∧ role ∈ a.roles) :
    ∃ a, lookupId t.assignments node = some a ∧ a.revoked = false ∧ role ∈ a.roles := by
  by_cases hnode : node = target
  · subst hnode
    refine ⟨b, h.assignmentFor, h.revoked, ?_⟩
    rw [h.roles]
    exact mem_normalizeRoles (hrole rfl)
  · obtain ⟨a, ha, hrest⟩ := hs
    have hkeep := assignmentFor_of_substitute _ h.node hnode h.assignments
    exact ⟨a, hkeep.trans ha, hrest⟩

/-- Assigning a role keeps every grant, unless the Worker role is assigned to the subject of one.
Kind: L -/
theorem Assigned.grants_eq {role : ClusterRole} {b : RoleAssignment}
    (h : Assigned s actor target {role} t b) (hs : Granted s.assignments s.capabilityGrants)
    (hclean : role = .worker → ∀ g ∈ s.capabilityGrants, g.subject ≠ target) :
    t.capabilityGrants = s.capabilityGrants := by
  rw [h.grants]
  refine List.filter_eq_self.mpr fun g hg => ?_
  obtain ⟨hmatch, hne⟩ := hs g hg
  rw [grantMatches_iff] at hmatch ⊢
  have hsubject : g.subject = target → .subcoordinator ∈ ({role} : Finset ClusterRole) := by
    intro hsub
    cases role with
    | coordinator => exact absurd (Finset.mem_singleton_self _) h.noCoordinator
    | subcoordinator => exact Finset.mem_singleton_self _
    | worker => exact absurd hsub (hclean rfl g hg)
  have htarget : g.target = target → .worker ∈ ({role} : Finset ClusterRole) := by
    intro htgt
    cases role with
    | coordinator => exact absurd (Finset.mem_singleton_self _) h.noCoordinator
    | worker => exact Finset.mem_singleton_self _
    | subcoordinator =>
        -- the grant's subject is another Subcoordinator, so the role is not assigned
        obtain ⟨⟨a, ha, hrev, hrole⟩, _⟩ := hmatch
        obtain ⟨hmem, hid⟩ := mem_of_lookupId ha
        refine absurd hrole (h.standby (Finset.mem_singleton_self _) a hmem ?_ hrev)
        rw [hid, ← htgt]
        exact fun heq => hne (Option.some.inj heq)
  exact ⟨h.standing hsubject hmatch.1, h.standing htarget hmatch.2⟩

end RoleState

/-! ## Grants of the failover coordinator -/

namespace FailoverCoordinator

variable {s c : RoleState} {now : ℚ} {token : String}

/-- A heartbeat leaves the grants alone.  Kind: L -/
theorem heartbeat_capabilityGrants {node : NodeId}
    (h : heartbeat s node token now = .ok (some c)) : c.capabilityGrants = s.capabilityGrants := by
  unfold heartbeat at h
  cases he : s.epoch with
  | none => simp [he] at h
  | some e =>
      simp only [he] at h
      obtain ⟨e', _, hnew⟩ := Except.bind_eq_ok.mp (fencedOut_eq_some h)
      obtain ⟨_, _, _, _, hgs⟩ := RoleState.new_eq_ok_iff.mp hnew
      exact hgs

/-- A promotion adds no grant.  Kind: L -/
theorem promoteIfDue_capabilityGrants (h : promoteIfDue s now token = .ok (some c)) :
    c.capabilityGrants ⊆ s.capabilityGrants := by
  unfold promoteIfDue at h
  obtain ⟨r, hr, h⟩ := Except.bind_eq_ok.mp h
  cases r with
  | none => simp at h
  | some d =>
      obtain ⟨c', hnew, hc⟩ := Except.bind_eq_ok.mp h
      simp only [Except.pure_eq_ok, Option.some.injEq] at hc
      subst hc
      obtain ⟨_, _, _, _, hgs⟩ := RoleState.new_eq_ok_iff.mp hnew
      have hd := fencedOut_eq_some hr
      unfold promoteSubcoordinator at hd
      cases he : s.epoch with
      | none => simp [he] at hd
      | some old =>
          simp only [he] at hd
          cases hsub : (promotionCandidate s).bind RoleAssignment.nodeId with
          | none => simp [hsub] at hd
          | some subId =>
              simp only [hsub, Except.bind_eq_ok, Except.pure_eq_ok] at hd
              obtain ⟨_, _, e', _, as, _, rfl⟩ := hd
              rw [hgs]
              exact List.filter_subset_self _

end FailoverCoordinator

end ExpraConnect
