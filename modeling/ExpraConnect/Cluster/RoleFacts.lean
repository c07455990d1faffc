import ExpraConnect.Cluster.Operations

/-!
# Facts about role states that the cluster results share

* `Assignments.values_ofList`: filing a list of assignments by node and reading it back drops
  the unbound ones and nothing else;
* `RoleState.control_eq_ok_iff`: who controls peers;
* `RoleState.Valid.substitute_worker`: replacing one node's entry by a plain Worker keeps the
  constructor's checks, so `RoleState.assign` to the Worker role never trips over them
  (`RoleState.assign_worker_isOk`);
* `RoleState.assign_eq_ok`: what a successful `assign` went through.
-/

namespace ExpraConnect

open ExpraConnect.Lib

/-! ## Reading back a dictionary comprehension -/

namespace Assignments

/-- The keys of the comprehension are the bound node ids.  Kind: L -/
theorem map_fst_pairs (l : List RoleAssignment) :
    (pairs l).map Prod.fst = l.filterMap RoleAssignment.nodeId := by
  induction l with
  | nil => rfl
  | cons a l ih =>
      have hcons : pairs (a :: l) = pairs [a] ++ pairs l := by
        simp [pairs, List.filterMap_cons]
        cases a.nodeId <;> rfl
      rw [hcons, List.map_append, ih]
      cases h : a.nodeId <;> simp [pairs, h]

/-- Its values are the bound assignments.  Kind: L -/
theorem map_snd_pairs (l : List RoleAssignment) :
    (pairs l).map Prod.snd = l.filter fun a => a.nodeId.isSome := by
  induction l with
  | nil => rfl
  | cons a l ih =>
      have hcons : pairs (a :: l) = pairs [a] ++ pairs l := by
        simp [pairs, List.filterMap_cons]
        cases a.nodeId <;> rfl
      rw [hcons, List.map_append, ih]
      cases h : a.nodeId <;> simp [pairs, h]

/-- Filing by node and reading back keeps exactly the bound assignments, in order.  Kind: L -/
theorem values_ofList {l : List RoleAssignment} (h : (l.filterMap RoleAssignment.nodeId).Nodup) :
    (ofList l).values = l.filter fun a => a.nodeId.isSome := by
  have hent : (Dict.ofList (pairs l)).entries = pairs l :=
    Dict.entries_ofList (by rwa [map_fst_pairs])
  change (Dict.ofList (pairs l)).entries.map Prod.snd = _
  rw [hent, map_snd_pairs]

/-- The values of a keyed dictionary are all bound.  Kind: L -/
theorem isSome_of_mem_values (m : Assignments) : ∀ a ∈ m.values, a.nodeId.isSome = true := by
  intro a ha
  obtain ⟨p, hp, rfl⟩ := List.mem_map.mp ha
  simp [m.keyed p hp]

/-- In a keyed table a lookup is a search for the node.  Kind: L -/
theorem find?_of_keyed {l : List (NodeId × RoleAssignment)}
    (hk : ∀ p ∈ l, p.2.nodeId = some p.1) (node : NodeId) :
    ((l.map Prod.snd).find? fun a => a.nodeId = some node) = Dict.lookupRaw node l := by
  induction l with
  | nil => rfl
  | cons p l ih =>
      obtain ⟨n, a⟩ := p
      have hp : a.nodeId = some n := hk (n, a) List.mem_cons_self
      simp only [List.map_cons, List.find?_cons, Dict.lookupRaw, hp, Option.some.injEq]
      by_cases hn : n = node
      · simp [hn]
      · simp only [hn, decide_false, if_false]
        exact ih fun q hq => hk q (List.mem_cons_of_mem _ hq)

/-- `assignments.get(node)` is the first value bound to `node`.  Kind: L -/
theorem find?_values (m : Assignments) (node : NodeId) :
    (m.values.find? fun a => a.nodeId = some node) = m.get? node :=
  find?_of_keyed m.keyed node

/-- The dictionary of a list has the list's first entry for each node.  Kind: L -/
theorem get?_ofList {l : List RoleAssignment} (h : (l.filterMap RoleAssignment.nodeId).Nodup)
    (node : NodeId) : (ofList l).get? node = l.find? fun a => a.nodeId = some node := by
  rw [← find?_values, values_ofList h, List.find?_filter]
  congr 1
  funext a
  by_cases ha : a.nodeId = some node
  · simp [ha]
  · simp [ha]

end Assignments

namespace RoleState

/-! ## Validity -/

/-- The checks look at bound assignments only.  Kind: L -/
theorem Valid.filter_isSome {as : List RoleAssignment} {gs : List CapabilityGrant}
    (h : Valid as gs) : Valid (as.filter fun a => a.nodeId.isSome) gs where
  ids := by
    have heq : (as.filter fun a => a.nodeId.isSome).filterMap RoleAssignment.nodeId =
        as.filterMap RoleAssignment.nodeId := by
      rw [List.filterMap_filter]
      congr 1
      funext a
      cases a.nodeId <;> rfl
    rw [heq]
    exact h.ids
  coordinators := by
    rw [List.filter_filter]
    refine le_trans (List.Sublist.length_le ?_) h.coordinators
    exact List.monotone_filter_right as fun a ha => by simpa using (Bool.and_eq_true_iff.mp ha).1
  subcoordinators := by
    rw [List.filter_filter]
    refine le_trans (List.Sublist.length_le ?_) h.subcoordinators
    exact List.monotone_filter_right as fun a ha => by simpa using (Bool.and_eq_true_iff.mp ha).1
  grants := h.grants

/-- Fewer grants are still valid.  Kind: L -/
theorem Valid.filter_grants {as : List RoleAssignment} {gs : List CapabilityGrant}
    (h : Valid as gs) (q : CapabilityGrant → Bool) : Valid as (gs.filter q) where
  ids := h.ids
  coordinators := h.coordinators
  subcoordinators := h.subcoordinators
  grants := (List.filter_sublist.map CapabilityGrant.key).nodup h.grants

/-- Substituting a bound assignment moves no node id.  Kind: L -/
theorem filterMap_nodeId_substitute (a : RoleAssignment) (as : List RoleAssignment) :
    (substitute a as).filterMap RoleAssignment.nodeId = as.filterMap RoleAssignment.nodeId := by
  unfold substitute
  rw [List.filterMap_map]
  congr 1
  funext b
  simp only [Function.comp]
  split
  · rename_i h
    exact h.symm
  · rfl

/-- Substituting an entry that does not hold `role` creates no holder of `role`.  Kind: L -/
theorem length_active_substitute_le {a : RoleAssignment} {role : ClusterRole}
    (ha : RoleAssignment.active role a = false) (as : List RoleAssignment) :
    ((substitute a as).filter (RoleAssignment.active role)).length ≤
      (as.filter (RoleAssignment.active role)).length := by
  induction as with
  | nil => simp [substitute]
  | cons b as ih =>
      simp only [substitute, List.map_cons] at ih ⊢
      by_cases hb : b.nodeId = a.nodeId
      · rw [if_pos hb, List.filter_cons_of_neg (by simp [ha])]
        exact ih.trans ((List.sublist_cons_self b as).filter _).length_le
      · rw [if_neg hb]
        cases hr : RoleAssignment.active role b with
        | true =>
            rw [List.filter_cons_of_pos hr, List.filter_cons_of_pos hr]
            simpa using ih
        | false =>
            rw [List.filter_cons_of_neg (by simp [hr]), List.filter_cons_of_neg (by simp [hr])]
            exact ih

/-- A node is bound if and only if an assignment has it.  Kind: L -/
theorem mem_filterMap_nodeId_iff {as : List RoleAssignment} {node : NodeId} :
    node ∈ as.filterMap RoleAssignment.nodeId ↔ ∃ a ∈ as, a.nodeId = some node := by
  simp [List.mem_filterMap]

/-- A node without an assignment is bound by none.  Kind: L -/
theorem assignmentFor_eq_none_iff {s : RoleState} {node : NodeId} :
    s.assignmentFor node = none ↔ node ∉ s.assignments.filterMap RoleAssignment.nodeId := by
  rw [mem_filterMap_nodeId_iff]
  simp [assignmentFor]

/-- The assignment of a node has that node.  Kind: L -/
theorem nodeId_of_assignmentFor {s : RoleState} {node : NodeId} {a : RoleAssignment}
    (h : s.assignmentFor node = some a) : a.nodeId = some node := by
  unfold assignmentFor at h
  simpa using List.find?_some h

/-! ## Authority -/

/-- `_control` accepts exactly the active, unpaused Coordinator of the current term.  Kind: L -/
theorem control_eq_ok_iff {s : RoleState} {actor : RoleAssignment} {actorId : NodeId} :
    s.control actor = .ok actorId ↔
      actor.nodeId = some actorId ∧ ∃ a, s.assignmentFor actorId = some a ∧ a.revoked = false ∧
        a.paused = false ∧ .coordinator ∈ a.roles ∧
          ∀ e, s.epoch = some e → e.coordinatorId = actorId := by
  unfold control
  cases hn : actor.nodeId with
  | none => simp
  | some n =>
      dsimp only
      cases ha : s.assignmentFor n with
      | none =>
          simp only [reduceCtorEq, Option.some.injEq, false_iff, not_and, not_exists]
          rintro rfl a h
          rw [ha] at h
          cases h
      | some a =>
          simp only [Option.some.injEq]
          split
          · rename_i hc
            simp only [reduceCtorEq, false_iff]
            rintro ⟨rfl, b, hb, hr, hp, hcoord, hep⟩
            cases hb.symm.trans ha
            cases he : s.epoch with
            | none => simp [hr, hp, hcoord, he] at hc
            | some e => simp [hr, hp, hcoord, he, hep e he] at hc
          · rename_i hc
            simp only [Bool.or_eq_true, decide_eq_true_eq, not_or, Bool.not_eq_true,
              not_not] at hc
            obtain ⟨⟨⟨hr, hp⟩, hcoord⟩, hep⟩ := hc
            constructor
            · intro h
              cases h
              refine ⟨rfl, a, ha, hr, hp, hcoord, ?_⟩
              intro e he
              simpa [he] using hep
            · rintro ⟨rfl, -⟩
              rfl

/-! ## Assigning the Worker role -/

/-- A Worker assignment is always accepted.  Kind: L -/
theorem worker_new_isOk (target : NodeId) (paused job : Bool) :
    ∃ a, RoleAssignment.new {.worker} (some target) paused false job = .ok a ∧
      a.nodeId = some target ∧ a.roles = {.worker} ∧ a.revoked = false := by
  have hn : normalizeRoles {.worker} = {.worker} := by decide
  refine ⟨⟨{.worker}, some target, paused, false, job, hn, by decide, by simp⟩, ?_, rfl, rfl, rfl⟩
  unfold RoleAssignment.new
  simp only [hn]
  rw [dif_neg (by decide), dif_neg (by simp)]

/-- Replacing or adding one node's entry by a plain Worker keeps the constructor's checks.
Kind: L -/
theorem Valid.substitute_worker {s : RoleState} {a : RoleAssignment} {target : NodeId}
    (ha : a.nodeId = some target) (hroles : a.roles = {.worker})
    (gs : List CapabilityGrant) (hgs : (gs.map CapabilityGrant.key).Nodup) :
    Valid (substitute a s.assignments ++ (if (s.assignmentFor target).isNone then [a] else []))
      gs := by
  have hcoord : RoleAssignment.active .coordinator a = false := by
    simp [RoleAssignment.active, hroles]
  have hsub : RoleAssignment.active .subcoordinator a = false := by
    simp [RoleAssignment.active, hroles]
  refine ⟨?_, ?_, ?_, hgs⟩
  · rw [List.filterMap_append, filterMap_nodeId_substitute]
    cases hf : s.assignmentFor target with
    | none =>
        rw [assignmentFor_eq_none_iff] at hf
        simp only [Option.isNone_none, if_true, List.filterMap_cons, ha, List.filterMap_nil]
        rw [List.nodup_append]
        refine ⟨s.valid.ids, by simp, ?_⟩
        intro x hx y hy hxy
        simp only [List.mem_singleton] at hy
        subst hy hxy
        exact hf hx
    | some b => simpa using s.valid.ids
  · rw [List.filter_append, List.length_append]
    have hle := (length_active_substitute_le hcoord s.assignments).trans s.valid.coordinators
    split <;> simp [hcoord, hle]
  · rw [List.filter_append, List.length_append]
    have hle := (length_active_substitute_le hsub s.assignments).trans s.valid.subcoordinators
    split <;> simp [hsub, hle]

/-- Assigning the Worker role succeeds for every other, non-revoked target.  Kind: L -/
theorem assign_worker_isOk {s : RoleState} {actor : RoleAssignment} {actorId target : NodeId}
    (hctl : s.control actor = .ok actorId) (hne : target ≠ actorId)
    (hrev : ∀ a, s.assignmentFor target = some a → a.revoked = false) (now : ℚ) :
    ∃ r, s.assign actor target {.worker} now = .ok r := by
  obtain ⟨a, hnew, hid, hroles, -⟩ := worker_new_isOk target
    ((s.assignmentFor target).elim false RoleAssignment.paused)
    ((s.assignmentFor target).elim false RoleAssignment.hasActiveJob)
  have hany : (s.assignmentFor target).any RoleAssignment.revoked = false := by
    cases hf : s.assignmentFor target with
    | none => rfl
    | some b => simpa using hrev b hf
  obtain ⟨t, ht⟩ : ∃ t, new (substitute a s.assignments ++
      (if (s.assignmentFor target).isNone then [a] else [])) s.epoch s.promotionEpochs
      (pruneCapabilityGrants (substitute a s.assignments ++
        (if (s.assignmentFor target).isNone then [a] else [])) s.capabilityGrants) = .ok t := by
    have hgs : ((pruneCapabilityGrants (substitute a s.assignments ++
        (if (s.assignmentFor target).isNone then [a] else []))
          s.capabilityGrants).map CapabilityGrant.key).Nodup :=
      (List.filter_sublist.map CapabilityGrant.key).nodup s.valid.grants
    exact ⟨⟨_, _, _, _, Valid.substitute_worker hid hroles _ hgs⟩,
      new_eq_ok_iff.mpr ⟨Valid.substitute_worker hid hroles _ hgs, rfl, rfl, rfl, rfl⟩⟩
  refine ⟨(t, ⟨target, a, now, actorId⟩), ?_⟩
  simp only [assign, Except.bind_eq_ok, Except.raiseIf_eq_ok]
  refine ⟨actorId, hctl, (), hne, (), by simp, (), by simp [hany], (), by simp, a, hnew, a, ?_, t,
    ht, rfl⟩
  simp [dropJob, hroles]

/-- What a successful `assign` checked and produced.  Kind: L -/
theorem assign_eq_ok {s t : RoleState} {actor : RoleAssignment} {target : NodeId}
    {roles : Finset ClusterRole} {now : ℚ} {ch : RoleChange}
    (h : s.assign actor target roles now = .ok (t, ch)) :
    ∃ actorId, s.control actor = .ok actorId ∧ target ≠ actorId ∧
      (∀ a, s.assignmentFor target = some a → a.revoked = false) ∧ t.epoch = s.epoch ∧
        t.promotionEpochs = s.promotionEpochs := by
  simp only [assign, Except.bind_eq_ok, Except.raiseIf_eq_ok, Except.pure_eq_ok] at h
  obtain ⟨actorId, hctl, _, hne, _, _, _, hrev, _, _, a, _, b, _, u, hu, heq⟩ := h
  cases heq
  obtain ⟨_, _, hep, hpe, _⟩ := new_eq_ok_iff.mp hu
  refine ⟨actorId, hctl, hne, ?_, hep, hpe⟩
  intro a ha
  simpa [ha] using hrev

end RoleState

end ExpraConnect
