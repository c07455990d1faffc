import ExpraConnect.Runtime.RequestAtomicity

/-!
# The registry as a projection of the membership

Every record of the registry should show whether its node is a member, and as what.

* `Runtime.Projects`: every record shows its node's standing;
* `Misfit`, `projects_refresh_iff`: what goes wrong when the records are brought up to date;
* `ProjectsUnless`: how a call does with the records, whether it returns or raises;
* `flags_of_assigned` and its like: which entries the transitions of the role state write.
-/

namespace ExpraConnect

open ExpraConnect.Lib

namespace Runtime

/-! ## The projection -/

/-- Every record shows the standing of its node: it has not joined exactly if it is not a member,
and a member's record has the role of its assignment and the coordinator.
Source: `nodes/registry.py`, `NodeRegistry.hydrate_membership`.  Kind: D -/
def Projects (rt : Runtime) : Prop :=
  ∀ records node record, rt.registry = some records → records.get? node = some record →
    (record.membership = .notJoined ↔ rt.cluster.isMember node = false) ∧
      ∀ a, rt.cluster.isMember node = true → rt.cluster.assignments.get? node = some a →
        record.membership = registryRole a ∧
          record.coordinatorId = some rt.cluster.coordinatorId

/-- Only the nodes with a record have to be looked at. -/
instance (rt : Runtime) : Decidable rt.Projects :=
  decidable_of_iff
    (∀ records ∈ rt.registry, ∀ p ∈ records.entries,
      (p.2.membership = .notJoined ↔ rt.cluster.isMember p.1 = false) ∧
        ∀ a ∈ rt.cluster.assignments.get? p.1, rt.cluster.isMember p.1 = true →
          p.2.membership = registryRole a ∧
            p.2.coordinatorId = some rt.cluster.coordinatorId)
    ⟨fun h records node record hrecords hrecord =>
      have hp := h records hrecords (node, record) (records.get?_eq_some_iff.mp hrecord)
      ⟨hp.1, fun a hmember ha => hp.2 a ha hmember⟩,
    fun h records hrecords p hp =>
      have hshows := h records p.1 p.2 hrecords (records.get?_eq_some_iff.mpr hp)
      ⟨hshows.1, fun a ha hmember => hshows.2 a hmember ha⟩⟩

variable {rt rt' : Runtime} {node : NodeId}

/-- No member is a node that is unknown or revoked.  Kind: L -/
theorem isMember_eq_false_iff : rt.cluster.isMember node = false ↔
    ∀ a, rt.cluster.assignments.get? node = some a → a.revoked = true := by
  unfold Cluster.isMember
  cases rt.cluster.assignments.get? node with
  | none => simp
  | some a => simp

/-- A member is a known node that is not revoked.  Kind: L -/
theorem isMember_iff : rt.cluster.isMember node = true ↔
    ∃ a, rt.cluster.assignments.get? node = some a ∧ a.revoked = false := by
  unfold Cluster.isMember
  cases rt.cluster.assignments.get? node with
  | none => simp
  | some a => simp

/-- What one record should show, in terms of the mirror.  Kind: L -/
theorem shows_eq_standing_iff {pairing : Option Pairing} {record : NodeRecord} :
    registryMirror.shows record = registryMirror.standing (pairing, rt.cluster.coordinatorId)
        (rt.cluster.assignments.get? node) ↔
      (record.membership = .notJoined ↔ rt.cluster.isMember node = false) ∧
        ∀ a, rt.cluster.isMember node = true → rt.cluster.assignments.get? node = some a →
          record.membership = registryRole a ∧
            record.coordinatorId = some rt.cluster.coordinatorId := by
  cases hmember : rt.cluster.isMember node with
  | false =>
      have hnone : registryMirror.standing (pairing, rt.cluster.coordinatorId)
          (rt.cluster.assignments.get? node) = none := by
        refine Mirroring.standing_eq_none_iff.mpr fun a ha => ?_
        have hrev := isMember_eq_false_iff.mp hmember a ha
        simp [registryMirror, hrev]
      rw [hnone]
      simp [registryMirror]
  | true =>
      obtain ⟨a, ha, hrev⟩ := isMember_iff.mp hmember
      have hsome : registryMirror.standing (pairing, rt.cluster.coordinatorId)
          (rt.cluster.assignments.get? node) =
            some (registryRole a, some rt.cluster.coordinatorId) := by
        rw [ha]
        exact Mirroring.standing_of_live (by simp [registryMirror, hrev])
      rw [hsome, ha]
      have hrole := registryRole_ne a
      by_cases hjoined : record.membership = .notJoined
      · simp [registryMirror, hjoined, Ne.symm hrole]
      · simp [registryMirror, hjoined]

/-- The registry projects the membership exactly when it mirrors the assignments.  Kind: L -/
theorem projects_iff_agrees (pairing : Option Pairing) : rt.Projects ↔
    ∀ records, rt.registry = some records →
      registryMirror.Agrees (pairing, rt.cluster.coordinatorId) rt.cluster.assignments.get?
        records := by
  constructor
  · intro h records hreg node record hrecord
    exact shows_eq_standing_iff.mpr (h records node record hreg hrecord)
  · intro h records node record hreg hrecord
    exact shows_eq_standing_iff.mp (h records hreg node record hrecord)

/-- What the projection is about. -/
def projected (rt : Runtime) : Option NodeRegistry × Assignments × NodeId :=
  (rt.registry, rt.cluster.assignments, rt.cluster.coordinatorId)

/-- Whether a runtime projects depends on the projected part.  Kind: L -/
theorem projects_congr (h : rt'.projected = rt.projected) : rt'.Projects ↔ rt.Projects := by
  simp only [projected, Prod.mk.injEq] at h
  obtain ⟨hreg, has, hcoord⟩ := h
  unfold Projects Cluster.isMember
  rw [hreg, has, hcoord]

/-- The registry has a record of the node. -/
def HasRecord (rt : Runtime) (node : NodeId) : Prop :=
  ∃ records, rt.registry = some records ∧ records.contains node = true

/-- Without an update of the records, after the entry of `key` changed.  Kind: L -/
theorem Projects.step_iff (rt' : Runtime) (key : NodeId) (h : rt.Projects)
    (hreg : rt'.registry = rt.registry)
    (hcoord : rt'.cluster.coordinatorId = rt.cluster.coordinatorId)
    (hsame : ∀ node, node ≠ key →
      registryMirror.standing (rt.pairing, rt.cluster.coordinatorId)
          (rt'.cluster.assignments.get? node) =
        registryMirror.standing (rt.pairing, rt.cluster.coordinatorId)
          (rt.cluster.assignments.get? node)) :
    rt'.Projects ↔ (rt.HasRecord key →
      registryMirror.standing (rt.pairing, rt.cluster.coordinatorId)
          (rt'.cluster.assignments.get? key) =
        registryMirror.standing (rt.pairing, rt.cluster.coordinatorId)
          (rt.cluster.assignments.get? key)) := by
  rw [projects_iff_agrees rt.pairing] at h ⊢
  rw [hreg, hcoord]
  constructor
  · rintro h' ⟨records, hrecords, hkey⟩
    exact ((h records hrecords).step_iff hsame).mp (h' records hrecords) hkey
  · intro hkey records hrecords
    exact ((h records hrecords).step_iff hsame).mpr fun hk => hkey ⟨records, hrecords, hk⟩

/-! ## Bringing the records up to date -/

/-- Which nodes have an entry in a table, and whether it is revoked. -/
def flags (table : NodeId → Option RoleAssignment) (node : NodeId) : Option Bool :=
  (table node).map RoleAssignment.revoked

/-- A node has no flag if and only if it has no assignment.  Kind: L -/
theorem flags_eq_none_iff {table : NodeId → Option RoleAssignment} :
    flags table node = none ↔ table node = none := by simp [flags]

/-- The flag of a node is that of its assignment.  Kind: L -/
theorem flags_eq_some_iff {table : NodeId → Option RoleAssignment} {revoked : Bool} :
    flags table node = some revoked ↔ ∃ a, table node = some a ∧ a.revoked = revoked := by
  simp [flags]

/-- What goes wrong when the records of a runtime are brought up to date from assignments with the
flags.  Kind: D -/
inductive Misfit (rt : Runtime) (flags : NodeId → Option Bool) : Prop
  /-- A revoked node gets the role it had. -/
  | revoked {node : NodeId} (hreg : rt.registry.isSome = true) (h : flags node = some true)
  /-- A member without an assignment keeps its record. -/
  | dropped {node : NodeId} (hrecord : rt.HasRecord node) (hmember : rt.cluster.isMember node = true)
      (h : flags node = none)
  /-- A paired node whose record is revoked is refused. -/
  | refused {records : NodeRegistry} {node : NodeId} (hreg : rt.registry = some records)
      (h : (flags node).isSome = true) (hrefuses : Refuses rt.pairing records node)

/-- Without a refusal the records are brought up to date.  Kind: L -/
theorem hydrateRegistryMembership_of_not_refused {records : NodeRegistry}
    (hreg : rt.registry = some records)
    (h : ∀ node, (rt.cluster.assignments.get? node).isSome = true →
      ¬Refuses rt.pairing records node) :
    hydrateRegistryMembership rt = .ok () { rt with
      registry := some (registryMirror.refresh (rt.pairing, rt.cluster.coordinatorId)
        rt.cluster.assignments.dict.entries records) } := by
  have hloop : hydrateMembers rt.pairing rt.cluster.coordinatorId
      rt.cluster.assignments.dict.entries records = (none, registryMirror.refresh
        (rt.pairing, rt.cluster.coordinatorId) rt.cluster.assignments.dict.entries records) := by
    refine hydrateMembers_of_not_refused fun node hnode => h node ?_
    exact rt.cluster.assignments.dict.mem_keys_iff.mp hnode
  simp only [hydrateRegistryMembership, PyM.get_bind_eq_ok, hreg, hloop, PyM.set_bind_eq_ok,
    PyM.pure_eq_ok, and_self]

/-- Without a registry there is nothing to bring up to date.  Kind: L -/
theorem hydrateRegistryMembership_of_none (hreg : rt.registry = none) :
    hydrateRegistryMembership rt = .ok () rt := by
  simp only [hydrateRegistryMembership, PyM.get_bind_eq_ok, hreg, PyM.pure_eq_ok, and_self]

/-- The records after the update project the membership unless there is a misfit: `rt` is the
runtime before the operation, `rt'` the one that is hydrated.  Kind: L -/
theorem projects_refresh_iff {records : NodeRegistry} (h : rt.Projects)
    (hreg : rt.registry = some records) (hpairing : rt'.pairing = rt.pairing)
    (hnot : ∀ node, (rt'.cluster.assignments.get? node).isSome = true →
      ¬Refuses rt'.pairing records node) :
    Projects { rt' with
      registry := some (registryMirror.refresh (rt'.pairing, rt'.cluster.coordinatorId)
        rt'.cluster.assignments.dict.entries records) } ↔
      ¬rt.Misfit (flags rt'.cluster.assignments.get?) := by
  have hagrees := (projects_iff_agrees rt.pairing).mp h records hreg
  have hiff := hagrees.refresh_iff (x := (rt'.pairing, rt'.cluster.coordinatorId))
    rt'.cluster.assignments.dict
  rw [projects_iff_agrees rt'.pairing]
  simp only [Option.some.injEq, forall_eq']
  refine hiff.trans ?_
  constructor
  · rintro ⟨hlive, hkept⟩ hmisfit
    cases hmisfit with
    | revoked _ hflag =>
        obtain ⟨a, ha, hrev⟩ := flags_eq_some_iff.mp hflag
        have hlives := hlive _ a ha
        simp [registryMirror, hrev] at hlives
    | dropped hrecord hmember hflag =>
        obtain ⟨records', hrecords', hcontains⟩ := hrecord
        cases hreg.symm.trans hrecords'
        obtain ⟨a, ha, hrev⟩ := isMember_iff.mp hmember
        have hdead := hkept _ hcontains (flags_eq_none_iff.mp hflag) a ha
        simp [registryMirror, hrev] at hdead
    | refused hrecords' hentry hrefuses =>
        cases hreg.symm.trans hrecords'
        rw [← hpairing] at hrefuses
        exact hnot _ (by simpa [flags] using hentry) hrefuses
  · intro hmisfit
    refine ⟨fun node a ha => ?_, fun node hcontains hnone a ha => ?_⟩
    · by_contra hdead
      have hflag : flags rt'.cluster.assignments.get? node = some true :=
        flags_eq_some_iff.mpr ⟨a, ha, by simpa [registryMirror] using hdead⟩
      exact hmisfit (.revoked (by simp [hreg]) hflag)
    · by_contra hlive
      refine hmisfit (.dropped ⟨records, hreg, hcontains⟩ (isMember_iff.mpr ⟨a, ha, ?_⟩)
        (flags_eq_none_iff.mpr hnone))
      simpa [registryMirror] using hlive

/-! ## Calls -/

/-- How a call does with the records: whatever comes of it, they project the membership afterwards
unless it is `bad`; if it is bad and returns, they do not.  Kind: D -/
structure ProjectsUnless {α : Type} (p : Handler Runtime α) (v : HostView Runtime) (bad : Prop) :
    Prop where
  /-- Whether it returns or raises. -/
  projects : ¬bad → (Handler.run p v).2.host.Projects
  /-- When it returns. -/
  fails : ∀ a w, Handler.run p v = (.ok a, w) → bad → ¬w.host.Projects

section calls

variable {α β : Type} {p : Handler Runtime α} {k : α → Handler Runtime β} {v w : HostView Runtime}
  {bad : Prop}

/-- The exception may be put in an equivalent form.  Kind: L -/
theorem ProjectsUnless.congr {bad' : Prop} (h : ProjectsUnless p v bad) (hiff : bad ↔ bad') :
    ProjectsUnless p v bad' :=
  ⟨fun hnot => h.projects fun hbad => hnot (hiff.mp hbad),
    fun a w hrun hbad => h.fails a w hrun (hiff.mpr hbad)⟩

/-- A call that raises projects unless the exception holds.  Kind: L -/
theorem projectsUnless_of_error {e : PyError} (hrun : Handler.run p v = (.error e, w))
    (h : ¬bad → w.host.Projects) : ProjectsUnless p v bad := by
  refine ⟨fun hnot => ?_, fun a w' hok => ?_⟩
  · rw [hrun]
    exact h hnot
  · cases hrun.symm.trans hok

/-- A call that leaves alone what the projection is about.  Kind: L -/
theorem projectsUnless_of_keeps (hp : Handler.Keeps projected p)
    (h : v.host.Projects ↔ ¬bad) : ProjectsUnless p v bad := by
  have hv := projects_congr (hp v)
  refine ⟨fun hnot => hv.mpr (h.mpr hnot), fun a w hrun hbad hw => ?_⟩
  rw [hrun] at hv
  exact h.mp (hv.mp hw) hbad

/-- What follows may leave it alone.  Kind: L -/
theorem ProjectsUnless.bind_keeps (h : ProjectsUnless p v bad)
    (hk : ∀ a, Handler.Keeps projected (k a)) : ProjectsUnless (p >>= k) v bad := by
  rcases hrun : Handler.run p v with ⟨e | a, w⟩
  · have hprojects := h.projects
    rw [hrun] at hprojects
    refine projectsUnless_of_error (e := e) (w := w) ?_ hprojects
    rw [Handler.run_bind, hrun]
  · have hprojects := h.projects
    rw [hrun] at hprojects
    have hw := projects_congr (hk a w)
    refine ⟨fun hnot => ?_, fun b w' hok hbad hw' => ?_⟩
    · rw [Handler.run_bind, hrun]
      exact hw.mpr (hprojects hnot)
    · rw [Handler.run_bind, hrun] at hok
      simp only at hok
      rw [hok] at hw
      exact h.fails a w hrun hbad (hw.mp hw')

/-- What comes before may have returned.  Kind: L -/
theorem projectsUnless_bind_of_ok {a : α} (hrun : Handler.run p v = (.ok a, w))
    (h : ProjectsUnless (k a) w bad) : ProjectsUnless (p >>= k) v bad := by
  have heq : Handler.run (p >>= k) v = Handler.run (k a) w := by rw [Handler.run_bind, hrun]
  refine ⟨fun hnot => ?_, fun b w' hok => ?_⟩
  · rw [heq]
    exact h.projects hnot
  · rw [heq] at hok
    exact h.fails b w' hok

/-- Bringing the records up to date, after an operation that started in `v` wrote assignments.
Kind: L -/
theorem projectsUnless_hydrate (h : v.host.Projects) (hreg : w.host.registry = v.host.registry)
    (hpairing : w.host.pairing = v.host.pairing) :
    ProjectsUnless (Handler.ofPyM hydrateRegistryMembership) w
      (v.host.Misfit (flags w.host.cluster.assignments.get?)) := by
  cases hrecords : v.host.registry with
  | none =>
      have hrun := Handler.run_ofPyM_of_ok
        (hydrateRegistryMembership_of_none (hreg.trans hrecords))
      have hnone : w.host.Projects := fun records _ _ hsome => by
        rw [hreg, hrecords] at hsome
        cases hsome
      refine ⟨fun _ => ?_, fun a w' hok hmisfit => ?_⟩
      · rw [hrun]
        exact hnone
      · cases hmisfit with
        | revoked hsome _ => simp [hrecords] at hsome
        | dropped hrecord _ _ =>
            obtain ⟨_, hsome, _⟩ := hrecord
            cases hrecords.symm.trans hsome
        | refused hsome _ _ => cases hrecords.symm.trans hsome
  | some records =>
      by_cases hrefused : ∃ node, (w.host.cluster.assignments.get? node).isSome = true ∧
          Refuses w.host.pairing records node
      · obtain ⟨node, hentry, hrefuses⟩ := hrefused
        obtain ⟨e, w', hrun⟩ := raises_hydrateRegistryMembership_iff.mpr
          ⟨records, node, hreg.trans hrecords, hentry, hrefuses⟩
        refine projectsUnless_of_error hrun fun hnot => absurd ?_ hnot
        rw [hpairing] at hrefuses
        exact .refused hrecords (by simpa [flags] using hentry) hrefuses
      · simp only [not_exists, not_and] at hrefused
        have hrun := Handler.run_ofPyM_of_ok
          (hydrateRegistryMembership_of_not_refused (hreg.trans hrecords) hrefused)
        have hiff := projects_refresh_iff h hrecords hpairing hrefused
        refine ⟨fun hnot => ?_, fun a w' hok hmisfit => ?_⟩
        · rw [hrun]
          exact hiff.mpr hnot
        · rw [hrun] at hok
          cases hok
          exact fun hw => hiff.mp hw hmisfit

end calls

/-! ## What the transitions do to the flags -/

section transitions

variable {s t : RoleState} {actor b : RoleAssignment} {target : NodeId}

/-- The record's role depends on the roles alone.  Kind: L -/
theorem registryRole_congr {a b : RoleAssignment} (h : a.roles = b.roles) :
    registryRole a = registryRole b := by
  unfold registryRole
  rw [h]

/-- An assignment clears the flag of its target.  Kind: L -/
theorem flags_of_assigned {roles : Finset ClusterRole}
    (h : RoleState.Assigned s actor target roles t b) :
    flags t.assignmentFor = Function.update (flags s.assignmentFor) target (some false) := by
  funext node
  by_cases hnode : node = target
  · subst hnode
    rw [Function.update_self, flags_eq_some_iff]
    exact ⟨b, h.assignmentFor, h.revoked⟩
  · rw [Function.update_of_ne hnode, flags, flags,
      RoleState.assignmentFor_of_substitute _ h.node hnode h.assignments]

/-- The entry that replaces another, and every other entry.  Kind: L -/
theorem assignmentFor_of_replaced {node : NodeId} (hb : b.nodeId = some target)
    (ht : t.assignments = RoleState.substitute b s.assignments) :
    t.assignmentFor node =
      if node = target then (s.assignmentFor node).map fun _ => b else s.assignmentFor node := by
  unfold RoleState.assignmentFor
  rw [ht]
  exact RoleState.lookupId_substitute hb s.assignments node

/-- A revocation sets the flag of its target.  Kind: L -/
theorem flags_of_revoked (h : RoleState.Revoked s actor target t b) :
    flags t.assignmentFor = Function.update (flags s.assignmentFor) target (some true) := by
  obtain ⟨cur, hcur, _⟩ := h.member
  funext node
  unfold flags
  rw [assignmentFor_of_replaced h.node h.assignments]
  by_cases hnode : node = target
  · subst hnode
    simp [hcur, h.revoked]
  · rw [if_neg hnode, Function.update_of_ne hnode]

/-- Rejoining changes no flag.  Kind: L -/
theorem flags_of_rejoinAsWorker {node : NodeId} {currentEpoch : ℤ}
    (h : ExpraConnect.rejoinAsWorker s node currentEpoch = .ok t) :
    flags t.assignmentFor = flags s.assignmentFor := by
  simp only [ExpraConnect.rejoinAsWorker, Except.bind_eq_ok] at h
  obtain ⟨_, _, _, _, h⟩ := h
  cases hcur : s.assignmentFor node with
  | none =>
      simp only [hcur, Except.pure_eq_ok] at h
      rw [h]
  | some cur =>
      simp only [hcur] at h
      split at h
      · obtain ⟨b, hb, ht⟩ := Except.bind_eq_ok.mp h
        obtain ⟨hid, _, _, hrev, _⟩ := RoleAssignment.new_nodeId hb
        obtain ⟨_, has, _, _, _⟩ := RoleState.new_eq_ok_iff.mp ht
        funext other
        unfold flags
        rw [assignmentFor_of_replaced (hid.trans (RoleState.nodeId_of_assignmentFor hcur)) has]
        by_cases hother : other = node
        · subst hother
          simp [hcur, hrev]
        · rw [if_neg hother]
      · cases h
        rfl

/-- A promotion revokes nobody, and the node it promotes was not revoked.  Kind: L -/
theorem flags_of_promoted {e e' : CoordinatorEpoch} {now : ℚ} {token : String}
    (h : Succeeds s now token e e')
    (ht : t.assignments = RoleState.promotedList e'.coordinatorId s.assignments) :
    flags t.assignmentFor = flags s.assignmentFor := by
  obtain ⟨sub, hsub, hid⟩ := h.standby
  have hmem := List.mem_of_find?_eq_some hsub
  have hactive := List.find?_some hsub
  have hrev : sub.revoked = false := by
    simp only [RoleAssignment.active, Bool.and_eq_true, Bool.not_eq_true'] at hactive
    exact hactive.1.1.2
  have hpromoted : (RoleAssignment.coordinator e'.coordinatorId).revoked = false := rfl
  funext node
  unfold flags RoleState.assignmentFor
  rw [ht, RoleState.promotedList, List.find?_map, Option.map_map]
  -- a promotion keeps the node of every entry
  have hsame : (fun a : RoleAssignment => decide (a.nodeId = some node)) ∘ (fun a =>
      if a.nodeId = some e'.coordinatorId then RoleAssignment.coordinator e'.coordinatorId
      else RoleState.demoted a) = fun a => decide (a.nodeId = some node) := by
    funext a
    by_cases ha : a.nodeId = some e'.coordinatorId
    · simp [ha, RoleAssignment.coordinator]
    · simp [ha, RoleState.demoted]
  rw [hsame]
  cases hfind : s.assignments.find? fun a => decide (a.nodeId = some node) with
  | none => rfl
  | some a =>
      simp only [Option.map_some, Function.comp]
      by_cases ha : a.nodeId = some e'.coordinatorId
      · have hnode : a.nodeId = some node := by simpa using List.find?_some hfind
        cases RoleState.eq_of_lookupId s.valid.ids hfind hmem (hid.trans (ha.symm.trans hnode))
        rw [if_pos ha, hpromoted, hrev]
      · rw [if_neg ha]
        rfl

end transitions

end Runtime

end ExpraConnect
