import ExpraConnect.Cluster.Failover
import ExpraConnect.Cluster.RoleFacts
import ExpraConnect.Lib.Meets

/-!
# The representation invariant of a role state

What the constructors of `cluster/models.py` and `cluster/roles.py` check is part of the types.
`Coherent` is the rest of what the transitions maintain: who may hold a job, between whom a grant
stands, and that a term was promoted from before the current one began.

* `RoleTransition`: every transition of a role state, with the arguments it takes;
* `Coherent`: the invariant, `meets_apply`: one transition keeps it;
* `representation_invariant`: it holds of every state reached from a lone coordinator, and there no
  transition that passed its own checks is rejected by a constructor afterwards.
-/

namespace ExpraConnect

open ExpraConnect.Lib

/-! ## The invariant -/

/-- The errors of `RoleState.__post_init__` and `RoleAssignment.__post_init__`.
Source: `cluster/roles.py`, `RoleState.__post_init__`; `cluster/models.py`,
`RoleAssignment.__post_init__`.  Kind: D -/
def constructorErrors : List PyError :=
  [⟨.value, "a node cannot be both Coordinator and Subcoordinator"⟩,
    ⟨.value, "a revoked node cannot also be paused"⟩,
    ⟨.value, "invalid or duplicate role assignment"⟩,
    ⟨.value, "only one active Coordinator is allowed"⟩,
    ⟨.value, "only one active Subcoordinator is allowed"⟩,
    ⟨.value, "duplicate capability grant"⟩]

/-- The error does not come from a constructor's validation. -/
abbrev NotRejected (e : PyError) : Prop := e ∉ constructorErrors

namespace RoleState

/-- What the transitions maintain beyond the constructors' checks.  Kind: D -/
structure Coherent (as : List RoleAssignment) (ep : Option CoordinatorEpoch) (pe : Finset ℕ)
    (gs : List CapabilityGrant) : Prop where
  /-- Every assignment names its node. -/
  bound : ∀ a ∈ as, a.nodeId.isSome = true
  /-- A job is held by a non-revoked Worker. -/
  jobs : ∀ a ∈ as, a.hasActiveJob = true → a.revoked = false ∧ .worker ∈ a.roles
  /-- A grant joins a non-revoked Subcoordinator to another, non-revoked Worker. -/
  grants : ∀ g ∈ gs, grantMatches as g = true ∧ g.subject ≠ g.target
  /-- Only earlier terms were promoted from. -/
  epochs : ∀ p ∈ pe, ∃ e, ep = some e ∧ p < e.epoch

/-- `Coherent`, of a role state. -/
abbrev IsCoherent (s : RoleState) : Prop :=
  Coherent s.assignments s.epoch s.promotionEpochs s.capabilityGrants

end RoleState

/-! ## Constructors that cannot reject -/

/-- Normalizing adds the Worker role only.  Kind: L -/
theorem mem_of_mem_normalizeRoles {roles : Finset ClusterRole} {role : ClusterRole}
    (hne : role ≠ .worker) (h : role ∈ normalizeRoles roles) : role ∈ roles := by
  unfold normalizeRoles at h
  by_cases hc : ClusterRole.coordinator ∈ roles
  · simpa [hc, hne] using h
  · by_cases he : roles = ∅
    · simp [he, hne] at h
    · simpa [hc, he] using h

/-- Normalizing removes no role.  Kind: L -/
theorem mem_normalizeRoles {roles : Finset ClusterRole} {role : ClusterRole} (h : role ∈ roles) :
    role ∈ normalizeRoles roles := by
  have he : roles ≠ ∅ := Finset.ne_empty_of_mem h
  unfold normalizeRoles
  by_cases hc : ClusterRole.coordinator ∈ roles
  · simp [hc, h]
  · simp [hc, he, h]

/-- The constructor accepts a role set without the Coordinator or without the Subcoordinator, and a
node that is not both revoked and paused.  Kind: L -/
theorem RoleAssignment.new_isOk {roles : Finset ClusterRole} (node : Option NodeId)
    (paused revoked job : Bool) (hx : ¬(.coordinator ∈ roles ∧ .subcoordinator ∈ roles))
    (hr : ¬(revoked = true ∧ paused = true)) :
    ∃ a, RoleAssignment.new roles node paused revoked job = .ok a := by
  have hx' : ¬(.coordinator ∈ normalizeRoles roles ∧ .subcoordinator ∈ normalizeRoles roles) :=
    fun h => hx ⟨mem_of_mem_normalizeRoles (by decide) h.1,
      mem_of_mem_normalizeRoles (by decide) h.2⟩
  unfold RoleAssignment.new
  rw [dif_neg hx', dif_neg hr]
  exact ⟨_, rfl⟩

namespace RoleState

/-- Valid and coherent data makes a coherent role state.  Kind: L -/
theorem meets_new {as : List RoleAssignment} {ep : Option CoordinatorEpoch} {pe : Finset ℕ}
    {gs : List CapabilityGrant} (hv : Valid as gs) (hc : Coherent as ep pe gs) :
    Meets NotRejected IsCoherent (new as ep pe gs) := by
  have hnew : new as ep pe gs = .ok ⟨as, ep, pe, gs, hv⟩ :=
    new_eq_ok_iff.mpr ⟨hv, rfl, rfl, rfl, rfl⟩
  rw [hnew]
  exact hc

/-! ## Looking up after a substitution -/

/-- What is found is listed, under its node.  Kind: L -/
theorem mem_of_lookupId {as : List RoleAssignment} {n : NodeId} {a : RoleAssignment}
    (h : lookupId as n = some a) : a ∈ as ∧ a.nodeId = some n :=
  ⟨List.mem_of_find?_eq_some h, by simpa using List.find?_some h⟩

/-- A node has one entry.  Kind: L -/
theorem eq_of_lookupId {as : List RoleAssignment} {n : NodeId} {a b : RoleAssignment}
    (hn : (as.filterMap RoleAssignment.nodeId).Nodup) (ha : lookupId as n = some a) (hb : b ∈ as)
    (hbn : b.nodeId = some n) : b = a := by
  induction as with
  | nil => cases hb
  | cons c as ih =>
      rw [List.filterMap_cons] at hn
      simp only [lookupId, List.find?_cons] at ha
      by_cases hc : c.nodeId = some n
      · simp only [hc, decide_true, Option.some.injEq] at ha
        simp only [hc, List.nodup_cons] at hn
        rcases List.mem_cons.mp hb with rfl | hb'
        · exact ha
        · exact absurd (mem_filterMap_nodeId_iff.mpr ⟨b, hb', hbn⟩) hn.1
      · simp only [hc, decide_false] at ha
        rcases List.mem_cons.mp hb with rfl | hb'
        · exact absurd hbn hc
        · refine ih ?_ ha hb'
          cases hcn : c.nodeId with
          | none => simpa [hcn] using hn
          | some m =>
              simp only [hcn, List.nodup_cons] at hn
              exact hn.2

/-- The entry of the substituted node is the substitute; the others stay.  Kind: L -/
theorem lookupId_substitute {a : RoleAssignment} {m : NodeId} (ha : a.nodeId = some m)
    (as : List RoleAssignment) (n : NodeId) :
    lookupId (substitute a as) n =
      if n = m then (lookupId as n).map fun _ => a else lookupId as n := by
  induction as with
  | nil => simp [substitute, lookupId]
  | cons b as ih =>
      simp only [substitute, lookupId, List.map_cons, List.find?_cons] at ih ⊢
      by_cases hb : b.nodeId = a.nodeId
      · by_cases hn : n = m
        · subst hn
          simp [hb, ha]
        · have hnm : ¬(some m = some n) := fun h => hn (Option.some.inj h).symm
          simp only [hb, ha, if_true, hnm, decide_false, if_neg hn] at ih ⊢
          exact ih
      · by_cases hbn : b.nodeId = some n
        · have hn : n ≠ m := by
            rintro rfl
            exact hb (hbn.trans ha.symm)
          rw [if_neg hb, if_neg hn]
          simp only [hbn, decide_true]
        · simp only [if_neg hb, hbn, decide_false]
          exact ih

/-- A grant matches if and only if a Subcoordinator holds it over a member.  Kind: L -/
theorem grantMatches_iff {as : List RoleAssignment} {g : CapabilityGrant} :
    grantMatches as g = true ↔
      (∃ a, lookupId as g.subject = some a ∧ a.revoked = false ∧ .subcoordinator ∈ a.roles) ∧
        ∃ a, lookupId as g.target = some a ∧ a.revoked = false ∧ .worker ∈ a.roles := by
  unfold grantMatches
  cases lookupId as g.subject with
  | none => simp
  | some sub =>
      cases lookupId as g.target with
      | none => simp
      | some tgt => simp [and_assoc]

/-- A node keeps its standing when an entry is replaced by one that keeps it.  Kind: L -/
theorem standing_substitute {as : List RoleAssignment} {a cur : RoleAssignment} {m n : NodeId}
    {role : ClusterRole} (ha : a.nodeId = some m) (hcur : lookupId as m = some cur)
    (hrev : cur.revoked = false → a.revoked = false) (hrole : role ∈ cur.roles → role ∈ a.roles)
    (h : ∃ b, lookupId as n = some b ∧ b.revoked = false ∧ role ∈ b.roles) :
    ∃ b, lookupId (substitute a as) n = some b ∧ b.revoked = false ∧ role ∈ b.roles := by
  obtain ⟨b, hb, hbr, hbrole⟩ := h
  rw [lookupId_substitute ha]
  by_cases hn : n = m
  · subst hn
    cases hcur.symm.trans hb
    exact ⟨a, by simp [hb], hrev hbr, hrole hbrole⟩
  · exact ⟨b, by simp [hn, hb], hbr, hbrole⟩

/-- A grant still matches when one node's entry is replaced by one that keeps its standing.
Kind: L -/
theorem grantMatches_substitute {as : List RoleAssignment} {a cur : RoleAssignment} {m : NodeId}
    {g : CapabilityGrant} (ha : a.nodeId = some m) (hcur : lookupId as m = some cur)
    (hrev : cur.revoked = false → a.revoked = false)
    (hsub : .subcoordinator ∈ cur.roles → .subcoordinator ∈ a.roles)
    (hwork : .worker ∈ cur.roles → .worker ∈ a.roles) (hg : grantMatches as g = true) :
    grantMatches (substitute a as) g = true := by
  rw [grantMatches_iff] at hg ⊢
  exact ⟨standing_substitute ha hcur hrev hsub hg.1, standing_substitute ha hcur hrev hwork hg.2⟩

/-! ## Counting the holders of a role -/

/-- Entries that all belong to one node are at most one.  Kind: L -/
theorem length_le_one_of_nodeId {l : List RoleAssignment} {n : NodeId}
    (hn : (l.filterMap RoleAssignment.nodeId).Nodup) (h : ∀ a ∈ l, a.nodeId = some n) :
    l.length ≤ 1 := by
  match l with
  | [] => simp
  | [a] => simp
  | a :: b :: l =>
      have ha := h a (by simp)
      have hb := h b (by simp)
      simp [ha, hb] at hn

/-- If every holder of a role is one node, there is at most one.  Kind: L -/
theorem length_active_le_one {l : List RoleAssignment} {n : NodeId} {role : ClusterRole}
    (hn : (l.filterMap RoleAssignment.nodeId).Nodup)
    (h : ∀ a ∈ l, RoleAssignment.active role a = true → a.nodeId = some n) :
    (l.filter (RoleAssignment.active role)).length ≤ 1 := by
  refine length_le_one_of_nodeId (n := n) ?_ fun a ha => ?_
  · exact (List.filter_sublist.filterMap _).nodup hn
  · rw [List.mem_filter] at ha
    exact h a ha.1 ha.2

/-- A substitute that holds a role only where the old entry did creates no holder.  Kind: L -/
theorem length_active_substitute_le' {a : RoleAssignment} {role : ClusterRole}
    {as : List RoleAssignment}
    (h : ∀ b ∈ as, b.nodeId = a.nodeId → RoleAssignment.active role a = true →
      RoleAssignment.active role b = true) :
    ((substitute a as).filter (RoleAssignment.active role)).length ≤
      (as.filter (RoleAssignment.active role)).length := by
  induction as with
  | nil => simp [substitute]
  | cons b as ih =>
      have ih' := ih fun c hc => h c (List.mem_cons_of_mem _ hc)
      simp only [substitute, List.map_cons, List.filter_cons] at ih' ⊢
      by_cases hb : b.nodeId = a.nodeId
      · simp only [if_pos hb]
        cases ha : RoleAssignment.active role a with
        | true =>
            rw [h b List.mem_cons_self hb ha]
            simpa using ih'
        | false =>
            simp only [Bool.false_eq_true, if_false]
            split
            · exact ih'.trans (by simp)
            · exact ih'
      · simp only [if_neg hb]
        split
        · simpa using ih'
        · exact ih'

/-- Replacing an entry by one of the same node with no new role keeps the constructors' checks.
Kind: L -/
theorem Valid.substitute {s : RoleState} {a cur : RoleAssignment} {m : NodeId}
    (ha : a.nodeId = some m) (hcur : s.assignmentFor m = some cur)
    (hrev : a.revoked = false → cur.revoked = false)
    (hroles : ∀ role, role ≠ .worker → role ∈ a.roles → role ∈ cur.roles) :
    Valid (substitute a s.assignments) s.capabilityGrants := by
  have hactive : ∀ role, role ≠ .worker → ∀ b ∈ s.assignments, b.nodeId = a.nodeId →
      RoleAssignment.active role a = true → RoleAssignment.active role b = true := by
    intro role hne b hb hbn hact
    have hbm : b.nodeId = some m := hbn.trans ha
    cases eq_of_lookupId s.valid.ids hcur hb hbm
    simp only [RoleAssignment.active, Bool.and_eq_true, Bool.not_eq_true',
      decide_eq_true_eq] at hact ⊢
    exact ⟨⟨by rw [hbm]; rfl, hrev hact.1.2⟩, hroles role hne hact.2⟩
  refine ⟨?_, ?_, ?_, s.valid.grants⟩
  · rw [filterMap_nodeId_substitute]
    exact s.valid.ids
  · exact (length_active_substitute_le' (hactive _ (by decide))).trans s.valid.coordinators
  · exact (length_active_substitute_le' (hactive _ (by decide))).trans s.valid.subcoordinators

/-! ## The transitions -/

section transitions

variable {s : RoleState} {actor : RoleAssignment} {target : NodeId}

/-- What passing `_control` and the target's check establishes does not matter to the invariant;
that a check raises an error of its own does.  Kind: L -/
theorem meets_control : Meets NotRejected (fun _ => True) (s.control actor) := by
  unfold control
  split
  · exact meets_error.mpr (by decide)
  · split
    · exact meets_error.mpr (by decide)
    · split
      · exact meets_error.mpr (by decide)
      · trivial

/-- A guard meets the specification if its error does.  Kind: L -/
theorem meets_raiseIf {p : Prop} [Decidable p] {e : PyError} (he : NotRejected e) :
    Meets NotRejected (fun _ => ¬p) (raiseIf p e : Except PyError Unit) := by
  unfold raiseIf
  split
  · exact he
  · assumption

/-- An entry replaced by one that keeps the node's standing keeps the invariant.  Kind: L -/
theorem Coherent.substitute {a cur : RoleAssignment} (h : s.IsCoherent)
    (ha : a.nodeId = some target) (hcur : s.assignmentFor target = some cur)
    (hrev : cur.revoked = false → a.revoked = false)
    (hjob : a.hasActiveJob = true → a.revoked = false ∧ .worker ∈ a.roles)
    (hsub : .subcoordinator ∈ cur.roles → .subcoordinator ∈ a.roles)
    (hwork : .worker ∈ cur.roles → .worker ∈ a.roles) :
    Coherent (substitute a s.assignments) s.epoch s.promotionEpochs s.capabilityGrants where
  bound := by
    intro b hb
    obtain ⟨c, hc, rfl⟩ := List.mem_map.mp hb
    split
    · rw [ha]
      rfl
    · exact h.bound c hc
  jobs := by
    intro b hb
    obtain ⟨c, hc, rfl⟩ := List.mem_map.mp hb
    split
    · exact hjob
    · exact h.jobs c hc
  grants := fun g hg =>
    ⟨grantMatches_substitute ha hcur hrev hsub hwork (h.grants g hg).1, (h.grants g hg).2⟩
  epochs := h.epochs

/-- `_replace` by an entry that changes neither role set nor membership.  Kind: L -/
theorem meets_replaceAssignment {a cur : RoleAssignment} (h : s.IsCoherent)
    (hcur : s.assignmentFor target = some cur) (ha : a.nodeId = cur.nodeId)
    (hroles : a.roles = cur.roles) (hrev : a.revoked = cur.revoked)
    (hjob : a.hasActiveJob = true → a.revoked = false ∧ .worker ∈ a.roles) :
    Meets NotRejected IsCoherent (s.replaceAssignment a) := by
  have ha' : a.nodeId = some target := ha.trans (nodeId_of_assignmentFor hcur)
  refine meets_new (Valid.substitute ha' hcur (fun h => hrev ▸ h) fun role _ h => hroles ▸ h) ?_
  exact h.substitute ha' hcur (fun h => hrev ▸ h) hjob (fun h => hroles ▸ h) fun h => hroles ▸ h

/-- An entry with another `paused` or `has_active_job` is accepted by the constructor.  Kind: L -/
theorem new_of_roles {cur : RoleAssignment} (paused job : Bool) (hrev : cur.revoked = false) :
    ∃ a, RoleAssignment.new cur.roles cur.nodeId paused cur.revoked job = .ok a ∧
      a.nodeId = cur.nodeId ∧ a.roles = cur.roles ∧ a.revoked = cur.revoked ∧
        a.hasActiveJob = job := by
  obtain ⟨a, ha⟩ := RoleAssignment.new_isOk cur.nodeId paused cur.revoked job cur.exclusive
    (by simp [hrev])
  obtain ⟨hid, hroles, _, hr, hj⟩ := RoleAssignment.new_nodeId ha
  exact ⟨a, ha, hid, hroles.trans cur.normalized, hr, hj⟩

/-- `pause` keeps the state coherent, and its result is not rejected.  Kind: L -/
theorem meets_pause (h : s.IsCoherent) : Meets NotRejected IsCoherent (s.pause actor target) := by
  refine meets_control.bind fun actorId _ => ?_
  refine (meets_raiseIf (by decide)).bind fun _ _ => ?_
  split
  · exact meets_throw.mpr (by decide)
  · rename_i cur hcur
    refine (meets_raiseIf (by decide)).bind fun _ hrev => ?_
    rw [Bool.not_eq_true] at hrev
    obtain ⟨a, hnew, hid, hroles, hr, hj⟩ := new_of_roles true cur.hasActiveJob hrev
    refine meets_bind_of_eq_ok hnew (meets_replaceAssignment h hcur hid hroles hr ?_)
    rw [hj, hr, hroles]
    exact h.jobs cur (mem_of_lookupId hcur).1

/-- `resume` keeps the state coherent, and its result is not rejected.  Kind: L -/
theorem meets_resume (h : s.IsCoherent) :
    Meets NotRejected IsCoherent (s.resume actor target) := by
  refine meets_control.bind fun actorId _ => ?_
  split
  · exact meets_throw.mpr (by decide)
  · rename_i cur hcur
    refine (meets_raiseIf (by decide)).bind fun _ hrev => ?_
    rw [Bool.not_eq_true] at hrev
    obtain ⟨a, hnew, hid, hroles, hr, hj⟩ := new_of_roles false cur.hasActiveJob hrev
    refine meets_bind_of_eq_ok hnew (meets_replaceAssignment h hcur hid hroles hr ?_)
    rw [hj, hr, hroles]
    exact h.jobs cur (mem_of_lookupId hcur).1

/-- `job` keeps the state coherent, and its result is not rejected.  Kind: L -/
theorem meets_job (h : s.IsCoherent) (active : Bool) :
    Meets NotRejected IsCoherent (s.job actor target active) := by
  refine meets_control.bind fun actorId _ => ?_
  split
  · exact meets_throw.mpr (by decide)
  · rename_i cur hcur
    refine (meets_raiseIf (by decide)).bind fun _ hchecks => ?_
    simp only [Bool.or_eq_true, not_or, Bool.not_eq_true, decide_eq_true_eq, not_not] at hchecks
    obtain ⟨⟨hrev, hwork⟩, _⟩ := hchecks
    obtain ⟨a, hnew, hid, hroles, hr, hj⟩ := new_of_roles cur.paused active hrev
    refine meets_bind_of_eq_ok hnew (meets_replaceAssignment h hcur hid hroles hr fun _ => ?_)
    exact ⟨hr.trans hrev, hroles ▸ hwork⟩

/-- Dropping grants keeps the invariant.  Kind: L -/
theorem Coherent.filter_grants {as : List RoleAssignment} {ep : Option CoordinatorEpoch}
    {pe : Finset ℕ} {gs : List CapabilityGrant} (h : Coherent as ep pe gs)
    (q : CapabilityGrant → Bool) : Coherent as ep pe (gs.filter q) :=
  ⟨h.bound, h.jobs, fun g hg => h.grants g (List.mem_filter.mp hg).1, h.epochs⟩

/-- `revoke` keeps the state coherent, and its result is not rejected.  Kind: L -/
theorem meets_revoke (h : s.IsCoherent) :
    Meets NotRejected IsCoherent (s.revoke actor target) := by
  refine meets_control.bind fun actorId _ => ?_
  refine (meets_raiseIf (by decide)).bind fun _ _ => ?_
  split
  · exact meets_throw.mpr (by decide)
  · rename_i cur hcur
    refine (meets_raiseIf (by decide)).bind fun _ _ => ?_
    obtain ⟨a, hnew⟩ := RoleAssignment.new_isOk cur.nodeId false true false cur.exclusive (by simp)
    obtain ⟨hid, hroles, _, hrev, hjob⟩ := RoleAssignment.new_nodeId hnew
    have ha : a.nodeId = some target := hid.trans (nodeId_of_assignmentFor hcur)
    refine meets_bind_of_eq_ok hnew ?_
    have hv : Valid (substitute a s.assignments) s.capabilityGrants := by
      refine Valid.substitute ha hcur (fun hf => ?_) fun role _ hr => ?_
      · rw [hrev] at hf
        cases hf
      · rwa [hroles, cur.normalized] at hr
    have hreplace : s.replaceAssignment a = .ok ⟨substitute a s.assignments, s.epoch,
        s.promotionEpochs, s.capabilityGrants, hv⟩ := new_eq_ok_iff.mpr ⟨hv, rfl, rfl, rfl, rfl⟩
    refine meets_bind_of_eq_ok hreplace (meets_new (hv.filter_grants _) ?_)
    refine ⟨?_, ?_, ?_, h.epochs⟩
    · intro b hb
      obtain ⟨c, hc, rfl⟩ := List.mem_map.mp hb
      split
      · rw [ha]
        rfl
      · exact h.bound c hc
    · intro b hb
      obtain ⟨c, hc, rfl⟩ := List.mem_map.mp hb
      split
      · simp [hjob]
      · exact h.jobs c hc
    · -- the remaining grants do not name the revoked node
      intro g hg
      obtain ⟨hmem, hother⟩ := List.mem_filter.mp hg
      simp only [Bool.and_eq_true, decide_eq_true_eq] at hother
      obtain ⟨hmatch, hne⟩ := h.grants g hmem
      rw [grantMatches_iff] at hmatch ⊢
      rw [lookupId_substitute ha, lookupId_substitute ha, if_neg (Ne.symm hother.1),
        if_neg (Ne.symm hother.2)]
      exact ⟨hmatch, hne⟩

/-- `clearRevocation` keeps the state coherent, and its result is not rejected.  Kind: L -/
theorem meets_clearRevocation (h : s.IsCoherent) :
    Meets NotRejected IsCoherent (s.clearRevocation target) := by
  unfold clearRevocation
  split
  · exact h
  · rename_i cur hcur
    split
    · rename_i hrev
      have hsub : (s.assignments.filter fun a => a.nodeId ≠ some target).Sublist s.assignments :=
        List.filter_sublist
      refine meets_new ⟨?_, ?_, ?_, s.valid.grants⟩ ⟨?_, ?_, ?_, h.epochs⟩
      · exact (hsub.filterMap _).nodup s.valid.ids
      · exact ((hsub.filter _).length_le).trans s.valid.coordinators
      · exact ((hsub.filter _).length_le).trans s.valid.subcoordinators
      · exact fun a ha => h.bound a (hsub.subset ha)
      · exact fun a ha => h.jobs a (hsub.subset ha)
      · -- a revoked node has no part in a grant, so every lookup stays
        intro g hg
        obtain ⟨hmatch, hne⟩ := h.grants g hg
        refine ⟨?_, hne⟩
        rw [grantMatches_iff] at hmatch ⊢
        have hkeep : ∀ n role, (∃ a, lookupId s.assignments n = some a ∧ a.revoked = false ∧
            role ∈ a.roles) → ∃ a, lookupId (s.assignments.filter fun a => a.nodeId ≠ some target)
              n = some a ∧ a.revoked = false ∧ role ∈ a.roles := by
          rintro n role ⟨a, ha, har, hrole⟩
          have hn : n ≠ target := by
            rintro rfl
            cases hcur.symm.trans ha
            rw [hrev] at har
            cases har
          refine ⟨a, ?_, har, hrole⟩
          unfold lookupId at ha ⊢
          rw [List.find?_filter, ← ha]
          congr 1
          funext b
          by_cases hb : b.nodeId = some n
          · simp [hb, hn]
          · simp [hb]
        exact ⟨hkeep _ _ hmatch.1, hkeep _ _ hmatch.2⟩
    · exact h

/-! ### Assigning a role -/

/-- The list an assignment leaves: in place of the node's entry, or at the end.  Kind: L -/
theorem mem_assigned {b x : RoleAssignment} {as : List RoleAssignment} {add : Bool}
    (h : x ∈ substitute b as ++ (if add then [b] else [])) :
    x = b ∨ (x ∈ as ∧ x.nodeId ≠ b.nodeId) := by
  rcases List.mem_append.mp h with hx | hx
  · obtain ⟨c, hc, rfl⟩ := List.mem_map.mp hx
    split
    · exact .inl rfl
    · exact .inr ⟨hc, ‹_›⟩
  · split at hx
    · exact .inl (List.mem_singleton.mp hx)
    · simp at hx

/-- An assignment keeps the node ids distinct.  Kind: L -/
theorem nodup_assigned {b : RoleAssignment} (hb : b.nodeId = some target) :
    ((substitute b s.assignments ++
      (if (s.assignmentFor target).isNone then [b] else [])).filterMap
        RoleAssignment.nodeId).Nodup := by
  rw [List.filterMap_append, filterMap_nodeId_substitute]
  cases hf : s.assignmentFor target with
  | none =>
      rw [assignmentFor_eq_none_iff] at hf
      simp only [Option.isNone_none, if_true, List.filterMap_cons, hb, List.filterMap_nil]
      rw [List.nodup_append]
      refine ⟨s.valid.ids, by simp, ?_⟩
      intro x hx y hy hxy
      simp only [List.mem_singleton] at hy
      subst hy hxy
      exact hf hx
  | some c => simpa using s.valid.ids

/-- No holder of a role is created by an entry that does not hold it.  Kind: L -/
theorem length_active_assigned_le {b : RoleAssignment} {role : ClusterRole} {add : Bool}
    {as : List RoleAssignment} (hb : RoleAssignment.active role b = false) :
    ((substitute b as ++ (if add then [b] else [])).filter (RoleAssignment.active role)).length ≤
      (as.filter (RoleAssignment.active role)).length := by
  rw [List.filter_append, List.length_append]
  have hle := length_active_substitute_le hb as
  split
  · simpa [hb] using hle
  · simpa using hle

/-- Taking the job from a node that is no Worker changes nothing else.  Kind: L -/
theorem dropJob_isOk (a : RoleAssignment) :
    ∃ b, dropJob a = .ok b ∧ b.nodeId = a.nodeId ∧ b.roles = a.roles ∧ b.revoked = a.revoked ∧
      (b.hasActiveJob = true → .worker ∈ b.roles) := by
  unfold dropJob
  split
  · obtain ⟨b, hb⟩ := RoleAssignment.new_isOk a.nodeId a.paused a.revoked false a.exclusive
      a.not_revoked_paused
    obtain ⟨hbid, hbroles, _, hbrev, hbjob⟩ := RoleAssignment.new_nodeId hb
    refine ⟨b, hb, hbid, hbroles.trans a.normalized, hbrev, ?_⟩
    simp [hbjob]
  · rename_i hw
    exact ⟨a, rfl, rfl, rfl, rfl, fun _ => not_not.mp hw⟩

/-- The list an assignment leaves passes the constructor's checks: unique nodes, no new Coordinator,
and the Subcoordinator only at `target`.  Kind: L -/
theorem Valid.assigned {b : RoleAssignment} (hb : b.nodeId = some target)
    (hcoord : .coordinator ∉ b.roles)
    (hother : .subcoordinator ∈ b.roles → ∀ x ∈ s.assignments, x.nodeId ≠ some target →
      RoleAssignment.active .subcoordinator x = false)
    (q : CapabilityGrant → Bool) :
    Valid (RoleState.substitute b s.assignments ++
      (if (s.assignmentFor target).isNone then [b] else [])) (s.capabilityGrants.filter q) := by
  refine ⟨nodup_assigned hb, ?_, ?_,
    (List.filter_sublist.map CapabilityGrant.key).nodup s.valid.grants⟩
  · exact (length_active_assigned_le (by simp [RoleAssignment.active, hcoord])).trans
      s.valid.coordinators
  · by_cases hsub : .subcoordinator ∈ b.roles
    · refine length_active_le_one (n := target) (nodup_assigned hb) fun x hx hact => ?_
      rcases mem_assigned hx with rfl | ⟨hmem, hne⟩
      · exact hb
      · rw [hother hsub x hmem (hb ▸ hne)] at hact
        cases hact
    · exact (length_active_assigned_le (by simp [RoleAssignment.active, hsub])).trans
        s.valid.subcoordinators

/-- Nobody but the target holds the Subcoordinator role, as `assign` checks it.  Kind: L -/
theorem active_of_any_subcoordinator {roles : Finset ClusterRole}
    (h : ¬(.subcoordinator ∈ roles ∧ s.assignments.any (fun a => a.nodeId ≠ some target &&
      (!a.revoked && decide (.subcoordinator ∈ a.roles))) = true))
    (hroles : .subcoordinator ∈ roles) :
    ∀ x ∈ s.assignments, x.nodeId ≠ some target →
      RoleAssignment.active .subcoordinator x = false := by
  intro x hx hne
  by_contra hact
  simp only [RoleAssignment.active, Bool.not_eq_false, Bool.and_eq_true] at hact
  refine h ⟨hroles, List.any_eq_true.mpr ⟨x, hx, ?_⟩⟩
  simp only [Bool.and_eq_true]
  exact ⟨by simpa using hne, hact.1.2, hact.2⟩

/-- `assign` keeps the state coherent, and its result is not rejected.  Kind: L -/
theorem meets_assign (h : s.IsCoherent) (roles : Finset ClusterRole) (now : ℚ) :
    Meets NotRejected (fun r => r.1.IsCoherent) (s.assign actor target roles now) := by
  refine meets_control.bind fun actorId _ => ?_
  refine (meets_raiseIf (by decide)).bind fun _ _ => ?_
  refine (meets_raiseIf (by decide)).bind fun _ hcoord => ?_
  refine (meets_raiseIf (by decide)).bind fun _ _ => ?_
  refine (meets_raiseIf (by decide)).bind fun _ hother => ?_
  obtain ⟨a, hnew⟩ := RoleAssignment.new_isOk (some target)
    ((s.assignmentFor target).elim false RoleAssignment.paused) false
    ((s.assignmentFor target).elim false RoleAssignment.hasActiveJob)
    (fun hc => hcoord hc.1) (by simp)
  obtain ⟨hid, hroles, _, hrev, _⟩ := RoleAssignment.new_nodeId hnew
  refine meets_bind_of_eq_ok hnew ?_
  obtain ⟨b, hdrop, hbid, hbroles, hbrev, hbjob⟩ := dropJob_isOk a
  refine meets_bind_of_eq_ok hdrop ?_
  have hnorm : ∀ role, role ≠ .worker → role ∈ b.roles → role ∈ roles := by
    intro role hne hrole
    rw [hbroles, hroles] at hrole
    exact mem_of_mem_normalizeRoles hne hrole
  have hv := Valid.assigned (hbid.trans hid) (fun hc => hcoord (hnorm _ (by decide) hc))
    fun hsub => active_of_any_subcoordinator hother (hnorm _ (by decide) hsub)
  refine (meets_new (hv _) ⟨?_, ?_, ?_, h.epochs⟩).bind fun t ht => ?_
  · intro x hx
    rcases mem_assigned hx with rfl | ⟨hmem, _⟩
    · rw [hbid, hid]
      rfl
    · exact h.bound x hmem
  · intro x hx
    rcases mem_assigned hx with rfl | ⟨hmem, _⟩
    · exact fun hj => ⟨hbrev.trans hrev, hbjob hj⟩
    · exact h.jobs x hmem
  · intro g hg
    obtain ⟨hmem, hmatch⟩ := List.mem_filter.mp hg
    exact ⟨hmatch, (h.grants g hmem).2⟩
  · exact ht

/-! ### Grants, leases and promotion -/

/-- `grantCapabilities` keeps the state coherent, and its result is not rejected.  Kind: L -/
theorem meets_grantCapabilities (h : s.IsCoherent) (subject : NodeId)
    (permissions : Finset NodePermission) (now expiresAt : ℚ) :
    Meets NotRejected IsCoherent
      (s.grantCapabilities actor subject target permissions now expiresAt) := by
  refine meets_control.bind fun actorId _ => ?_
  refine (meets_raiseIf (by decide)).bind fun _ hsub => ?_
  refine (meets_raiseIf (by decide)).bind fun _ htgt => ?_
  have hgrant : Meets NotRejected (fun g : CapabilityGrant => g.key = (subject, target))
      (CapabilityGrant.new subject target permissions now expiresAt) := by
    unfold CapabilityGrant.new
    split
    · split
      · rfl
      · exact meets_error.mpr (by decide)
    · exact meets_error.mpr (by decide)
  refine hgrant.bind fun g hkey => ?_
  have hsubject : g.subject = subject := congrArg Prod.fst hkey
  have htarget : g.target = target := congrArg Prod.snd hkey
  simp only [not_or] at htgt
  refine meets_new ⟨s.valid.ids, s.valid.coordinators, s.valid.subcoordinators, ?_⟩
    ⟨h.bound, h.jobs, ?_, h.epochs⟩
  · rw [List.map_append, List.nodup_append]
    refine ⟨(List.filter_sublist.map CapabilityGrant.key).nodup s.valid.grants, by simp, ?_⟩
    intro x hx y hy hxy
    obtain ⟨g', hg', rfl⟩ := List.mem_map.mp hx
    have hne := (List.mem_filter.mp hg').2
    simp only [List.map_cons, List.map_nil, List.mem_singleton] at hy
    rw [hxy, hy, hkey] at hne
    simp at hne
  · intro g' hg'
    rcases List.mem_append.mp hg' with hg' | hg'
    · exact h.grants g' (List.mem_filter.mp hg').1
    · rw [List.mem_singleton] at hg'
      subst hg'
      rw [grantMatches_iff, hsubject, htarget]
      refine ⟨⟨?_, ?_⟩, htgt.2⟩
      · cases hf : s.assignmentFor subject with
        | none => simp [hf] at hsub
        | some a =>
            simp only [hf, Option.all_some, Bool.or_eq_true, decide_eq_true_eq, not_or,
              Bool.not_eq_true, not_not] at hsub
            exact ⟨a, hf, hsub.1.1, hsub.2⟩
      · cases hf : s.assignmentFor target with
        | none => simp [hf] at htgt
        | some a =>
            simp only [hf, Option.all_some, Bool.or_eq_true, decide_eq_true_eq, not_or,
              Bool.not_eq_true, not_not] at htgt
            exact ⟨a, hf, htgt.1.1.1, htgt.1.2⟩

/-- `revokeCapabilities` keeps the state coherent, and its result is not rejected.  Kind: L -/
theorem meets_revokeCapabilities (h : s.IsCoherent) (subject : NodeId) :
    Meets NotRejected IsCoherent (s.revokeCapabilities actor subject target) := by
  refine meets_control.bind fun actorId _ => ?_
  exact meets_new (s.valid.filter_grants _) (h.filter_grants _)

/-- `rejoinAsWorker` keeps the state coherent, and its result is not rejected.  Kind: L -/
theorem meets_rejoinAsWorker (h : s.IsCoherent) (node : NodeId) (currentEpoch : ℤ) :
    Meets NotRejected IsCoherent (rejoinAsWorker s node currentEpoch) := by
  refine (meets_raiseIf (by decide)).bind fun _ _ => ?_
  refine (meets_raiseIf (by decide)).bind fun _ _ => ?_
  split
  · exact h
  · rename_i cur hcur
    split
    · rename_i hcoord
      have hplain : ¬(.coordinator ∈ ({.worker} : Finset ClusterRole) ∧
          .subcoordinator ∈ ({.worker} : Finset ClusterRole)) := by decide
      obtain ⟨a, hnew⟩ :=
        RoleAssignment.new_isOk cur.nodeId false cur.revoked false hplain (by simp)
      obtain ⟨hid, hroles, _, hrev, hjob⟩ := RoleAssignment.new_nodeId hnew
      have hworker : a.roles = {.worker} := hroles.trans (by decide)
      have ha : a.nodeId = some node := hid.trans (nodeId_of_assignmentFor hcur)
      refine meets_bind_of_eq_ok hnew (meets_new ?_ ?_)
      · refine Valid.substitute ha hcur (fun hf => hrev ▸ hf) fun role hne hr => ?_
        rw [hworker, Finset.mem_singleton] at hr
        exact absurd hr hne
      · -- a Coordinator is no Subcoordinator, so no grant loses its subject
        refine h.substitute ha hcur (fun hf => hrev.trans hf) (by simp [hjob]) (fun hs => ?_)
          fun _ => by simp [hworker]
        exact absurd ⟨hcoord, hs⟩ cur.exclusive
    · exact h

/-- Comparing digests rejects nothing of the state.  Kind: L -/
theorem meets_compareDigest {a b : String} :
    Meets NotRejected (fun _ => True) (compareDigest a b) := by
  unfold compareDigest
  split
  · trivial
  · exact meets_error.mpr (by decide)

/-- A new epoch has its number.  Kind: L -/
theorem meets_epoch {n : ℕ} {node : NodeId} {token : String} {issued lease : ℚ} :
    Meets NotRejected (fun e : CoordinatorEpoch => e.epoch = n)
      (CoordinatorEpoch.new n node token issued lease) := by
  unfold CoordinatorEpoch.new
  split
  · split
    · rfl
    · exact meets_error.mpr (by decide)
  · exact meets_error.mpr (by decide)

/-- A renewed lease is of the same epoch.  Kind: L -/
theorem meets_renewLease {e : CoordinatorEpoch} {node : NodeId} {token : String} {now : ℚ} :
    Meets NotRejected (fun e' : CoordinatorEpoch => e'.epoch = e.epoch)
      (renewLease e node token now) := by
  refine (meets_raiseIf (by decide)).bind fun _ _ => ?_
  refine meets_compareDigest.bind fun _ _ => ?_
  refine (meets_raiseIf (by decide)).bind fun _ _ => ?_
  refine (meets_raiseIf (by decide)).bind fun _ _ => ?_
  exact (meets_raiseIf (by decide)).bind fun _ _ => meets_epoch

/-- What is fenced out becomes `None`.  Kind: L -/
theorem meets_fencedOut {α : Type} {P : α → Prop} {r : Except PyError α}
    (h : Meets NotRejected P r) :
    Meets NotRejected (fun o : Option α => ∀ a, o = some a → P a)
      (FailoverCoordinator.fencedOut r) := by
  cases r with
  | ok a => exact fun b hb => Option.some.inj hb ▸ h
  | error e =>
      simp only [FailoverCoordinator.fencedOut]
      split
      · exact fun b hb => nomatch hb
      · exact h

/-- A heartbeat's candidate.  Kind: L -/
theorem meets_heartbeat (h : s.IsCoherent) (node : NodeId) (token : String) (now : ℚ) :
    Meets NotRejected (fun o : Option RoleState => ∀ t, o = some t → t.IsCoherent)
      (FailoverCoordinator.heartbeat s node token now) := by
  unfold FailoverCoordinator.heartbeat
  split
  · exact fun t ht => nomatch ht
  · rename_i e he
    refine meets_fencedOut (meets_renewLease.bind fun e' he' => ?_)
    refine meets_new s.valid ⟨h.bound, h.jobs, h.grants, fun p hp => ?_⟩
    obtain ⟨e₀, he₀, hlt⟩ := h.epochs p hp
    cases he.symm.trans he₀
    exact ⟨e', rfl, he' ▸ hlt⟩

/-- The Worker role is normal.  Kind: L -/
theorem normalizeRoles_worker : normalizeRoles {.worker} = {.worker} := by decide

/-- The Worker role is not exclusive.  Kind: L -/
theorem exclusive_worker : ¬(ClusterRole.coordinator ∈ ({.worker} : Finset ClusterRole) ∧
    ClusterRole.subcoordinator ∈ ({.worker} : Finset ClusterRole)) := by decide

/-- `replace(a, roles=frozenset({WORKER}))` never fails. -/
def demoted (a : RoleAssignment) : RoleAssignment where
  roles := {.worker}
  nodeId := a.nodeId
  paused := a.paused
  revoked := a.revoked
  hasActiveJob := a.hasActiveJob
  normalized := normalizeRoles_worker
  exclusive := exclusive_worker
  not_revoked_paused := a.not_revoked_paused

/-- Demoting keeps the rest of the assignment.  Kind: L -/
theorem new_worker_eq (a : RoleAssignment) :
    RoleAssignment.new {.worker} a.nodeId a.paused a.revoked a.hasActiveJob = .ok (demoted a) := by
  unfold RoleAssignment.new
  simp only [normalizeRoles_worker]
  rw [dif_neg (by decide), dif_neg a.not_revoked_paused]
  rfl

/-- Everyone's assignment after a promotion of `subId`. -/
def promotedList (subId : NodeId) (as : List RoleAssignment) : List RoleAssignment :=
  as.map fun a => if a.nodeId = some subId then RoleAssignment.coordinator subId else demoted a

/-- The comprehension of a promotion rejects nothing.  Kind: L -/
theorem mapM_promoted (subId : NodeId) (as : List RoleAssignment) :
    as.mapM (fun a => if a.nodeId = some subId then pure (RoleAssignment.coordinator subId)
      else RoleAssignment.new {.worker} a.nodeId a.paused a.revoked a.hasActiveJob) =
        (.ok (promotedList subId as) : Except PyError _) := by
  induction as with
  | nil => rfl
  | cons a as ih =>
      rw [List.mapM_cons]
      refine Except.bind_eq_ok.mpr ⟨if a.nodeId = some subId then
        RoleAssignment.coordinator subId else demoted a, ?_, ?_⟩
      · split
        · rfl
        · exact new_worker_eq a
      · exact Except.bind_eq_ok.mpr ⟨promotedList subId as, ih, rfl⟩

/-- A promotion keeps the node ids.  Kind: L -/
theorem filterMap_nodeId_promotedList (subId : NodeId) (as : List RoleAssignment) :
    (promotedList subId as).filterMap RoleAssignment.nodeId =
      as.filterMap RoleAssignment.nodeId := by
  unfold promotedList
  rw [List.filterMap_map]
  congr 1
  funext a
  simp only [Function.comp]
  split
  · rename_i h
    exact h.symm
  · rfl

/-- After a promotion the promoted node is the one Coordinator, and there is no Subcoordinator.
Kind: L -/
theorem Valid.promotedList (subId : NodeId) (q : CapabilityGrant → Bool) :
    Valid (promotedList subId s.assignments) (s.capabilityGrants.filter q) := by
  have hids : ((RoleState.promotedList subId s.assignments).filterMap
      RoleAssignment.nodeId).Nodup := by
    rw [filterMap_nodeId_promotedList]
    exact s.valid.ids
  refine ⟨hids, ?_, ?_, (List.filter_sublist.map CapabilityGrant.key).nodup s.valid.grants⟩
  · refine length_active_le_one (n := subId) hids fun a ha hact => ?_
    obtain ⟨c, _, rfl⟩ := List.mem_map.mp ha
    split
    · rfl
    · rename_i hc
      simp [RoleAssignment.active, hc, demoted] at hact
  · have hnone : (RoleState.promotedList subId s.assignments).filter
        (RoleAssignment.active .subcoordinator) = [] := by
      rw [List.filter_eq_nil_iff]
      intro a ha
      obtain ⟨c, _, rfl⟩ := List.mem_map.mp ha
      split
      · simp [RoleAssignment.active, RoleAssignment.coordinator]
      · simp [RoleAssignment.active, demoted]
    rw [hnone]
    simp

/-- A promotion's decision.  Kind: L -/
theorem meets_promoteSubcoordinator (now : ℚ) (token : String) :
    Meets NotRejected (fun d : PromotionDecision => ∃ subId e, s.epoch = some e ∧
      d.epoch.epoch = e.epoch + 1 ∧ d.assignments = promotedList subId s.assignments ∧
        d.capabilityGrants = pruneCapabilityGrants d.assignments s.capabilityGrants)
      (promoteSubcoordinator s now token) := by
  unfold promoteSubcoordinator
  split
  · exact meets_throw.mpr (by decide)
  · rename_i e he
    split
    · exact meets_throw.mpr (by decide)
    · rename_i subId _
      refine (meets_raiseIf (by decide)).bind fun _ _ => ?_
      refine meets_epoch.bind fun e' he' => ?_
      refine meets_bind_of_eq_ok (mapM_promoted subId s.assignments) ?_
      exact ⟨subId, e, he, he', rfl, rfl⟩

/-- A promotion's candidate.  Kind: L -/
theorem meets_promoteIfDue (h : s.IsCoherent) (now : ℚ) (token : String) :
    Meets NotRejected (fun o : Option RoleState => ∀ t, o = some t → t.IsCoherent)
      (FailoverCoordinator.promoteIfDue s now token) := by
  unfold FailoverCoordinator.promoteIfDue
  refine (meets_fencedOut (meets_promoteSubcoordinator now token)).bind fun o ho => ?_
  split
  · exact fun t ht => nomatch ht
  · rename_i d
    obtain ⟨subId, e, he, hepoch, has, hgs⟩ := ho d rfl
    rw [hgs, has]
    refine (meets_new (Valid.promotedList subId _) ⟨?_, ?_, ?_, ?_⟩).bind fun t ht => ?_
    · intro a ha
      obtain ⟨c, hc, rfl⟩ := List.mem_map.mp ha
      split
      · rfl
      · exact h.bound c hc
    · intro a ha
      obtain ⟨c, hc, rfl⟩ := List.mem_map.mp ha
      split
      · simp [RoleAssignment.coordinator]
      · exact fun hj => ⟨(h.jobs c hc hj).1, by simp [demoted]⟩
    · intro g hg
      obtain ⟨hmem, hmatch⟩ := List.mem_filter.mp hg
      exact ⟨hmatch, (h.grants g hmem).2⟩
    · intro p hp
      refine ⟨d.epoch, rfl, ?_⟩
      rw [hepoch] at hp ⊢
      rcases Finset.mem_insert.mp hp with rfl | hp
      · omega
      · obtain ⟨e₀, he₀, hlt⟩ := h.epochs p hp
        cases he.symm.trans he₀
        omega
    · intro t' ht'
      cases ht'
      exact ht

end transitions

end RoleState

/-! ## Every sequence of transitions -/

/-- A transition of a role state, with its arguments.
Source: `cluster/roles.py`, `RoleState`, `rejoin_as_worker`; `cluster/failover.py`.  Kind: D -/
inductive RoleTransition where
  /-- `assign` -/
  | assign (actor : RoleAssignment) (target : NodeId) (roles : Finset ClusterRole) (now : ℚ)
  /-- `pause` -/
  | pause (actor : RoleAssignment) (target : NodeId)
  /-- `resume` -/
  | resume (actor : RoleAssignment) (target : NodeId)
  /-- `revoke` -/
  | revoke (actor : RoleAssignment) (target : NodeId)
  /-- `clear_revocation` -/
  | clearRevocation (target : NodeId)
  /-- `assign_job` -/
  | assignJob (actor : RoleAssignment) (target : NodeId)
  /-- `remove_job` -/
  | removeJob (actor : RoleAssignment) (target : NodeId)
  /-- `grant_capabilities` -/
  | grantCapabilities (actor : RoleAssignment) (subject target : NodeId)
      (permissions : Finset NodePermission) (now expiresAt : ℚ)
  /-- `revoke_capabilities` -/
  | revokeCapabilities (actor : RoleAssignment) (subject target : NodeId)
  /-- `rejoin_as_worker` -/
  | rejoinAsWorker (node : NodeId) (currentEpoch : ℤ)
  /-- `FailoverCoordinator.heartbeat` -/
  | heartbeat (node : NodeId) (token : String) (now : ℚ)
  /-- `FailoverCoordinator.promote_if_due` -/
  | promoteIfDue (now : ℚ) (token : String)

namespace RoleTransition

/-- The state a transition leads to; a heartbeat or promotion that is refused leads nowhere else. -/
def apply : RoleTransition → RoleState → Except PyError RoleState
  | assign actor target roles now, s => do return (← s.assign actor target roles now).1
  | pause actor target, s => s.pause actor target
  | resume actor target, s => s.resume actor target
  | revoke actor target, s => s.revoke actor target
  | clearRevocation target, s => s.clearRevocation target
  | assignJob actor target, s => s.assignJob actor target
  | removeJob actor target, s => s.removeJob actor target
  | grantCapabilities actor subject target permissions now expiresAt, s =>
      s.grantCapabilities actor subject target permissions now expiresAt
  | revokeCapabilities actor subject target, s => s.revokeCapabilities actor subject target
  | rejoinAsWorker node currentEpoch, s => ExpraConnect.rejoinAsWorker s node currentEpoch
  | heartbeat node token now, s => do
      return (← FailoverCoordinator.heartbeat s node token now).getD s
  | promoteIfDue now token, s => do
      return (← FailoverCoordinator.promoteIfDue s now token).getD s

/-- One transition, from a coherent state: coherent again, and if it raises, by its own checks.
Kind: L -/
theorem meets_apply {s : RoleState} (h : s.IsCoherent) (t : RoleTransition) :
    Meets NotRejected RoleState.IsCoherent (t.apply s) := by
  cases t with
  | assign actor target roles now => exact (RoleState.meets_assign h roles now).bind fun r hr => hr
  | pause actor target => exact RoleState.meets_pause h
  | resume actor target => exact RoleState.meets_resume h
  | revoke actor target => exact RoleState.meets_revoke h
  | clearRevocation target => exact RoleState.meets_clearRevocation h
  | assignJob actor target => exact RoleState.meets_job h true
  | removeJob actor target => exact RoleState.meets_job h false
  | grantCapabilities actor subject target permissions now expiresAt =>
      exact RoleState.meets_grantCapabilities h subject permissions now expiresAt
  | revokeCapabilities actor subject target => exact RoleState.meets_revokeCapabilities h subject
  | rejoinAsWorker node currentEpoch => exact RoleState.meets_rejoinAsWorker h node currentEpoch
  | heartbeat node token now =>
      refine (RoleState.meets_heartbeat h node token now).bind fun o ho => ?_
      cases o with
      | none => exact h
      | some t => exact ho t rfl
  | promoteIfDue now token =>
      refine (RoleState.meets_promoteIfDue h now token).bind fun o ho => ?_
      cases o with
      | none => exact h
      | some t => exact ho t rfl

end RoleTransition

/-- A lone coordinator: one assignment, no promotion so far, no grant.
Source: `cluster/operations.py`, `ClusterState.create_local`.  Kind: D -/
structure RoleState.Lone (s : RoleState) : Prop where
  /-- The coordinator is the only member. -/
  assignments : ∃ node, s.assignments = [RoleAssignment.coordinator node]
  /-- No term was promoted from. -/
  promotionEpochs : s.promotionEpochs = ∅
  /-- There is no grant. -/
  capabilityGrants : s.capabilityGrants = []

/-- A lone state is coherent.  Kind: L -/
theorem RoleState.Lone.isCoherent {s : RoleState} (h : s.Lone) : s.IsCoherent := by
  obtain ⟨node, hnode⟩ := h.assignments
  refine ⟨?_, ?_, ?_, ?_⟩
  · simp [hnode, RoleAssignment.coordinator]
  · simp [hnode, RoleAssignment.coordinator]
  · simp [h.capabilityGrants]
  · simp [h.promotionEpochs]

/-- The states that sequences of transitions lead to. -/
inductive RoleState.Reached : RoleState → Prop where
  /-- A lone coordinator. -/
  | lone {s : RoleState} : s.Lone → Reached s
  /-- One more transition that returned. -/
  | step {s t : RoleState} (tr : RoleTransition) : Reached s → tr.apply s = .ok t → Reached t

/-- A reached state is coherent.  Kind: L -/
theorem RoleState.Reached.isCoherent {s : RoleState} (h : s.Reached) : s.IsCoherent := by
  induction h with
  | lone hs => exact hs.isCoherent
  | step tr _ ht ih => exact (RoleTransition.meets_apply ih tr).of_eq_ok ht

/-- The representation invariant, in the words of the source.  Kind: D -/
structure RoleState.Represents (s : RoleState) : Prop where
  /-- Node ids are unique. -/
  ids : (s.assignments.filterMap RoleAssignment.nodeId).Nodup
  /-- At most one non-revoked Coordinator. -/
  coordinators : (s.assignments.filter (RoleAssignment.active .coordinator)).length ≤ 1
  /-- At most one non-revoked Subcoordinator. -/
  subcoordinators : (s.assignments.filter (RoleAssignment.active .subcoordinator)).length ≤ 1
  /-- A job is held by a non-revoked Worker. -/
  jobs : ∀ a ∈ s.assignments, a.hasActiveJob = true → a.revoked = false ∧ .worker ∈ a.roles
  /-- A grant joins a non-revoked Subcoordinator to another, non-revoked Worker. -/
  grants : ∀ g ∈ s.capabilityGrants, g.subject ≠ g.target ∧
    (∃ a, s.assignmentFor g.subject = some a ∧ a.revoked = false ∧ .subcoordinator ∈ a.roles) ∧
      ∃ a, s.assignmentFor g.target = some a ∧ a.revoked = false ∧ .worker ∈ a.roles
  /-- One grant for each pair. -/
  pairs : (s.capabilityGrants.map CapabilityGrant.key).Nodup
  /-- Only earlier terms were promoted from. -/
  epochs : ∀ p ∈ s.promotionEpochs, ∃ e, s.epoch = some e ∧ p < e.epoch

/-- Every state reached from a lone coordinator satisfies the representation invariant, and there
every transition returns or raises by one of its own checks, never by a constructor's.
Source: `cluster/roles.py`, `RoleState` and its transitions.  Kind: P -/
theorem representation_invariant {s : RoleState} (h : s.Reached) :
    s.Represents ∧ ∀ (t : RoleTransition) (e : PyError), t.apply s = .error e →
      e ∉ constructorErrors := by
  have hc := h.isCoherent
  refine ⟨⟨s.valid.ids, s.valid.coordinators, s.valid.subcoordinators, hc.jobs, ?_,
    s.valid.grants, hc.epochs⟩, ?_⟩
  · intro g hg
    obtain ⟨hmatch, hne⟩ := hc.grants g hg
    exact ⟨hne, RoleState.grantMatches_iff.mp hmatch⟩
  · intro t e he
    exact (RoleTransition.meets_apply hc t).of_eq_error he

/-- Transitions, one after the other. -/
def RoleTransition.applyAll (ts : List RoleTransition) (s : RoleState) : Except PyError RoleState :=
  ts.foldlM (fun s t => t.apply s) s

/-- What transitions reach is reached.  Kind: L -/
theorem RoleState.Reached.of_applyAll {ts : List RoleTransition} {s t : RoleState} (h : s.Reached)
    (ht : RoleTransition.applyAll ts s = .ok t) : t.Reached := by
  induction ts generalizing s with
  | nil =>
      cases ht
      exact h
  | cons tr ts ih =>
      obtain ⟨s', hs', ht⟩ := Except.bind_eq_ok.mp ht
      exact ih (.step tr h hs') ht

/-- The coordinator of a sample state. -/
def loneState : RoleState where
  assignments := [RoleAssignment.coordinator (.named "a")]
  epoch := some ⟨1, .named "a", "t", 0, 120, by decide, by decide⟩
  promotionEpochs := ∅
  capabilityGrants := []
  valid := ⟨by decide, by decide, by decide, by decide⟩

/-- The sample state is lone.  Kind: L -/
theorem loneState_lone : loneState.Lone := ⟨⟨.named "a", rfl⟩, rfl, rfl⟩

/-- `a` leads, with `b` as its Subcoordinator and a job on `c`; `b` is granted `c`, and promoted
when the term of `a` is over; then `b` leads, with `d` as its Subcoordinator, and grants it `c`. -/
def sampleTransitions : List RoleTransition :=
  [.assign (RoleAssignment.coordinator (.named "a")) (.named "b") {.subcoordinator} 1,
    .assign (RoleAssignment.coordinator (.named "a")) (.named "c") {.worker} 2,
    .assignJob (RoleAssignment.coordinator (.named "a")) (.named "c"),
    .grantCapabilities (RoleAssignment.coordinator (.named "a")) (.named "b") (.named "c")
      {.readState} 3 1000,
    .promoteIfDue 200 "t2",
    .assign (RoleAssignment.coordinator (.named "b")) (.named "d") {.subcoordinator} 201,
    .grantCapabilities (RoleAssignment.coordinator (.named "b")) (.named "d") (.named "c")
      {.readState} 202 1000]

/-- The state after the transitions holds a grant, a job and an earlier term, and represents. -/
theorem representation_invariant_promoted :
    ∃ s, RoleTransition.applyAll sampleTransitions loneState = .ok s ∧
      (s.assignments.length = 4 ∧ s.capabilityGrants.length = 1 ∧ s.promotionEpochs = {1} ∧
        s.assignments.any RoleAssignment.hasActiveJob = true) ∧
      s.Represents ∧ ∀ (t : RoleTransition) (e : PyError), t.apply s = .error e →
        e ∉ constructorErrors := by
  have hrun : ((RoleTransition.applyAll sampleTransitions loneState).toOption.any fun s =>
      decide (s.assignments.length = 4 ∧ s.capabilityGrants.length = 1 ∧ s.promotionEpochs = {1} ∧
        s.assignments.any RoleAssignment.hasActiveJob = true)) = true := by decide +kernel
  obtain ⟨s, hok, hshape⟩ := Except.exists_of_any hrun
  exact ⟨s, hok, of_decide_eq_true hshape,
    representation_invariant (.of_applyAll (.lone loneState_lone) hok)⟩

end ExpraConnect
