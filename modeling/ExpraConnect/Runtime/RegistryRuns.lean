import ExpraConnect.Runtime.GrantRuns
import ExpraConnect.Runtime.RegistryOperations

/-!
# The registry over whole runs

* `RegistryEvent`: what happens to a runtime that can touch a record or what it should show;
* `RegistryEvent.Stale`: what goes wrong with the records in an event;
* `projects_iff_never_stale`: the records project the membership in every state of a run exactly
  when nothing goes wrong in any event;
* `RoleRequests.admitted_worker_has_not_joined`: an admitted worker whose record says it has not
  joined.
-/

namespace ExpraConnect

open ExpraConnect.Lib

/-! ## Starts -/

/-- What a start finds: the documents on disk, and what a new cluster would draw.
Source: `runtime/core.py`, `_load_persisted_state`.  Kind: D -/
structure Boot where
  /-- `_identity.node_id` -/
  identity : NodeId
  /-- `cluster.yaml`, if there is one -/
  persisted : Option ClusterState
  /-- The id of a new cluster. -/
  clusterId : String
  /-- Its fencing token. -/
  token : String
  /-- The time of its creation. -/
  now : ℚ
  /-- `trust.yaml` -/
  pairing : Pairing
  /-- The peers that are connected. -/
  connections : Finset NodeId

namespace Boot

open ExpraConnect.Runtime

/-- The runtime that is started.  Source: `runtime/core.py`, `_load_persisted_state`.  Kind: D -/
def load (b : Boot) : Except PyError Runtime :=
  Runtime.load b.identity b.persisted (Cluster.create b.identity b.clusterId b.token b.now)
    b.pairing b.connections

/-- A start finds a revoked member.  Kind: D -/
def Stale (b : Boot) : Prop :=
  ∃ state, b.persisted = some state ∧
    ∃ a ∈ state.roles.assignments, a.nodeId.isSome = true ∧ a.revoked = true

variable {b : Boot} {rt : Runtime}

/-- The local node has an entry in a started runtime, and the entries are the document's.
Kind: L -/
theorem cluster_of_load (h : b.load = .ok rt) :
    (rt.cluster.assignments.get? b.identity).isSome = true ∧
      ((∃ node a, rt.cluster.assignments.get? node = some a ∧ a.revoked = true) ↔ b.Stale) := by
  unfold load Runtime.load at h
  cases hp : b.persisted with
  | none =>
      simp only [hp, Except.bind_eq_ok, Except.pure_eq_ok] at h
      obtain ⟨c, hc, failover, _, rfl⟩ := h
      obtain ⟨e, _, heq⟩ := Except.bind_eq_ok.mp hc
      cases heq
      have hget : ∀ node, (Assignments.ofList [RoleAssignment.coordinator b.identity]).get? node =
          [RoleAssignment.coordinator b.identity].find? fun a => decide (a.nodeId = some node) :=
        fun node => Assignments.get?_ofList (by simp [RoleAssignment.coordinator]) node
      refine ⟨?_, ?_⟩
      · rw [hget]
        simp [RoleAssignment.coordinator]
      · refine iff_of_false ?_ ?_
        · rintro ⟨node, a, ha, hrev⟩
          rw [hget] at ha
          have hmem := List.mem_of_find?_eq_some ha
          rw [List.mem_singleton.mp hmem] at hrev
          cases hrev
        · rintro ⟨state, hstate, _⟩
          cases hp.symm.trans hstate
  | some state =>
      simp only [hp, Except.bind_eq_ok, Except.pure_eq_ok] at h
      obtain ⟨c, hc, failover, _, rfl⟩ := h
      simp only [Cluster.fromState, Except.bind_eq_ok, Except.raiseIf_eq_ok] at hc
      obtain ⟨_, hlocal, hc⟩ := hc
      cases hep : state.roles.epoch with
      | none => simp [hep] at hc
      | some epoch =>
          simp only [hep, Except.pure_eq_ok] at hc
          have hget : ∀ node, c.assignments.get? node = state.roles.assignmentFor node := by
            intro node
            rw [← hc]
            exact Assignments.get?_ofList state.roles.valid.ids node
          refine ⟨?_, ?_⟩
          · rw [hget, RoleState.assignmentFor, List.find?_isSome]
            simpa using (not_or.mp hlocal).2
          · constructor
            · rintro ⟨node, a, ha, hrev⟩
              rw [hget] at ha
              have hid := RoleState.nodeId_of_assignmentFor ha
              exact ⟨state, hp, a, List.mem_of_find?_eq_some ha, by simp [hid], hrev⟩
            · rintro ⟨state', hstate', a, hmem, hbound, hrev⟩
              cases hp.symm.trans hstate'
              obtain ⟨node, hnode⟩ := Option.isSome_iff_exists.mp hbound
              have hsome : (state.roles.assignmentFor node).isSome = true := by
                rw [RoleState.assignmentFor, List.find?_isSome]
                exact ⟨a, hmem, by simp [hnode]⟩
              obtain ⟨a', ha'⟩ := Option.isSome_iff_exists.mp hsome
              cases RoleState.eq_of_lookupId state.roles.valid.ids ha' hmem hnode
              exact ⟨node, a, (hget node).trans ha', hrev⟩

/-- The records of a started runtime are those of a new registry, brought up to date.  Kind: L -/
theorem registry_of_load (h : b.load = .ok rt) :
    rt.registry = some (registryMirror.refresh (some b.pairing, rt.cluster.coordinatorId)
      rt.cluster.assignments.dict.entries (NodeRegistry.new b.identity)) := by
  have hnot : ∀ node, ¬Refuses (some b.pairing) (NodeRegistry.new b.identity) node := by
    rintro node ⟨_, hrev⟩
    unfold NodeRegistry.revoked NodeRegistry.new at hrev
    by_cases hnode : b.identity = node
    · subst hnode
      simp at hrev
    · simp [Dict.get?_insert_of_ne _ _ hnode] at hrev
  have hloop : ∀ c : Cluster, hydrateMembers (some b.pairing) c.coordinatorId
      c.assignments.dict.entries (NodeRegistry.new b.identity) = (none, registryMirror.refresh
        (some b.pairing, c.coordinatorId) c.assignments.dict.entries
        (NodeRegistry.new b.identity)) :=
    fun c => hydrateMembers_of_not_refused fun node _ => hnot node
  unfold load Runtime.load at h
  cases hp : b.persisted with
  | none =>
      simp only [hp, Except.bind_eq_ok, Except.pure_eq_ok] at h
      obtain ⟨c, _, failover, _, rfl⟩ := h
      simp only [hloop]
  | some state =>
      simp only [hp, Except.bind_eq_ok, Except.pure_eq_ok] at h
      obtain ⟨c, _, failover, _, rfl⟩ := h
      simp only [hloop]

/-- The records of a started runtime project the membership unless it found a revoked member.
Kind: L -/
theorem projects_of_load_iff (h : b.load = .ok rt) : rt.Projects ↔ ¬b.Stale := by
  obtain ⟨hlocal, hstale⟩ := cluster_of_load h
  have hreg := registry_of_load h
  rw [projects_iff_agrees (some b.pairing), ← hstale, hreg]
  simp only [Option.some.injEq, forall_eq']
  refine (Mirroring.agrees_refresh_iff rt.cluster.assignments.dict _).trans ?_
  constructor
  · rintro ⟨hlive, _⟩ ⟨node, a, ha, hrev⟩
    have hlives := hlive node a ha
    simp [registryMirror, hrev] at hlives
  · intro hnone
    refine ⟨fun node a ha => ?_, fun node r hr hempty => ?_⟩
    · cases hrev : a.revoked with
      | false => simp [registryMirror, hrev]
      | true => exact absurd ⟨node, a, ha, hrev⟩ hnone
    · -- a new registry has a record of the local node only
      by_cases hnode : b.identity = node
      · subst hnode
        have hnone' : rt.cluster.assignments.get? b.identity = none := hempty
        rw [hnone'] at hlocal
        cases hlocal
      · rw [NodeRegistry.new, Dict.get?_insert_of_ne _ _ hnode] at hr
        simp at hr

end Boot

/-! ## Events -/

/-- What happens to a runtime that can touch a record or what the records should show.
Source: `runtime/core.py`, `connections/manager.py`, `remote/role_operations.py`.  Kind: D -/
inductive RegistryEvent where
  /-- A start, from whatever documents it finds. -/
  | boot (b : Boot)
  /-- A cluster operation at a reading of the clock, whatever comes of it. -/
  | op (clock : ℚ) (op : MembershipOp)
  /-- `create_invite(target)`, with the token that is drawn. -/
  | createInvite (clock : ℚ) (target : NodeId) (token : String)
  /-- `observe(node)`: the node is discovered or about to be connected. -/
  | observe (node : NodeId)
  /-- The trust of a record changes: `promote`, `revoke`, `hydrate_trust`. -/
  | trust (node : NodeId) (state : TrustState)
  /-- A change around the cluster that leaves the records alone. -/
  | surroundings (e : Surroundings)

namespace RegistryEvent

open ExpraConnect.Runtime

/-- The record of a node with another trust.
Source: `nodes/registry.py`, `promote`, `revoke` and `hydrate_trust`.  Kind: D -/
def setTrust (node : NodeId) (state : TrustState) (records : NodeRegistry) : NodeRegistry :=
  match records.get? node with
  | none => records
  | some record => records.insert node { record with trust := state }

/-- The runtime after an event.  Kind: D -/
def apply (hash : InviteHash) : RegistryEvent → HostView Runtime → HostView Runtime
  | boot b, v => { v with host := b.load.toOption.getD v.host }
  | op clock o, v => (Handler.run (o.call hash) { v with clock := clock }).2
  | createInvite clock target token, v =>
      { v with host := (Runtime.createInvite hash target token clock).after v.host }
  | observe node, v =>
      { v with host := { v.host with registry := v.host.registry.map (NodeRegistry.observe node) } }
  | trust node state, v =>
      { v with host := { v.host with registry := v.host.registry.map (setTrust node state) } }
  | surroundings e, v => { e with registry := v.host.registry }.around v

/-- A cluster operation or a start returned.  Kind: D -/
def Completes (hash : InviteHash) : RegistryEvent → HostView Runtime → Prop
  | boot b, _ => ∃ rt, b.load = .ok rt
  | op clock o, v => ∃ b w, Handler.run (o.call hash) { v with clock := clock } = (.ok b, w)
  | _, _ => True

/-- What goes wrong with the records in an event: a start finds a revoked member, an operation
leaves them stale, or a member that has no record is observed.  Kind: D -/
def Stale (hash : InviteHash) : RegistryEvent → HostView Runtime → Prop
  | boot b, _ => b.Stale
  | op clock o, v => StaleOp hash o { v with clock := clock }
  | observe node, v => v.host.registry.isSome = true ∧ ¬v.host.HasRecord node ∧
      v.host.cluster.isMember node = true
  | _, _ => False

section events

variable {hash : InviteHash} {v : HostView Runtime} {node : NodeId}

/-- Creating an invite keeps the projection.  Kind: L -/
theorem projects_createInvite (h : v.host.Projects) (clock : ℚ) (target : NodeId)
    (token : String) : ((createInvite clock target token).apply hash v).host.Projects := by
  obtain ⟨invites, hafter⟩ := Runtime.after_createInvite hash target token clock v.host
  refine (projects_congr ?_).mpr h
  change ((Runtime.createInvite hash target token clock).after v.host).projected = _
  rw [hafter]
  rfl

/-- The trust of a record is not part of what it shows.  Kind: L -/
theorem projects_trust (h : v.host.Projects) (node : NodeId) (state : TrustState) :
    ((trust node state).apply hash v).host.Projects := by
  rintro records' other record hreg hrecord
  obtain ⟨records, hrecords, rfl⟩ := Option.map_eq_some_iff.mp hreg
  unfold setTrust at hrecord
  cases hget : records.get? node with
  | none =>
      simp only [hget] at hrecord
      exact h records other record hrecords hrecord
  | some r =>
      simp only [hget] at hrecord
      by_cases hother : node = other
      · subst hother
        rw [Dict.get?_insert_self, Option.some.injEq] at hrecord
        subst hrecord
        exact h records node r hrecords hget
      · rw [Dict.get?_insert_of_ne _ _ hother] at hrecord
        exact h records other record hrecords hrecord

/-- A new record shows nothing, so its node must not be a member.  Kind: L -/
theorem projects_observe_iff (h : v.host.Projects) (node : NodeId) :
    ((observe node).apply hash v).host.Projects ↔ ¬(observe node).Stale hash v := by
  constructor
  · rintro h' ⟨hsome, hnone, hmember⟩
    obtain ⟨records, hrecords⟩ := Option.isSome_iff_exists.mp hsome
    have hget : records.get? node = none := by
      by_contra hne
      exact hnone ⟨records, hrecords, Option.isSome_iff_ne_none.mpr hne⟩
    have hnew := get?_observe node records
    rw [hget] at hnew
    have hshows := (h' (NodeRegistry.observe node records) node NodeRegistry.discovered
      (by simp [apply, hrecords]) hnew).1
    have hnot : v.host.cluster.isMember node = false := hshows.mp rfl
    rw [hmember] at hnot
    cases hnot
  · rintro hfine records' other record hreg hrecord
    obtain ⟨records, hrecords, rfl⟩ := Option.map_eq_some_iff.mp hreg
    by_cases hcontains : records.contains node = true
    · unfold NodeRegistry.observe at hrecord
      rw [if_pos hcontains] at hrecord
      exact h records other record hrecords hrecord
    · unfold NodeRegistry.observe at hrecord
      rw [if_neg hcontains] at hrecord
      by_cases hother : node = other
      · subst hother
        rw [Dict.get?_insert_self, Option.some.injEq] at hrecord
        subst hrecord
        have hmember : v.host.cluster.isMember node = false := by
          by_contra hmember
          refine hfine ⟨by simp [hrecords], ?_, by simpa using hmember⟩
          rintro ⟨records'', hrecords'', hhas⟩
          cases hrecords.symm.trans hrecords''
          exact hcontains hhas
        refine ⟨iff_of_true rfl hmember, fun a hmember' => ?_⟩
        have hfalse : v.host.cluster.isMember node = true := hmember'
        rw [hmember] at hfalse
        cases hfalse
      · rw [Dict.get?_insert_of_ne _ _ hother] at hrecord
        exact h records other record hrecords hrecord

/-- One event keeps the records true unless something goes wrong in it.  Kind: L -/
theorem projects_apply (h : v.host.Projects) {e : RegistryEvent} (hfine : ¬e.Stale hash v) :
    (e.apply hash v).host.Projects := by
  cases e with
  | boot b =>
      change (b.load.toOption.getD v.host).Projects
      cases hload : b.load with
      | error _ => exact h
      | ok rt => exact (Boot.projects_of_load_iff hload).mpr hfine
  | op clock o =>
      have hv : ({ v with clock := clock } : HostView Runtime).host.Projects := h
      exact (projectsUnless_call hash o hv).projects hfine
  | createInvite clock target token => exact projects_createInvite h clock target token
  | observe node => exact (projects_observe_iff h node).mpr hfine
  | trust node state => exact projects_trust h node state
  | surroundings e => exact (projects_congr rfl).mpr h

/-- An event that goes wrong and completes leaves them stale.  Kind: L -/
theorem not_projects_apply (h : v.host.Projects) {e : RegistryEvent} (hstale : e.Stale hash v)
    (hdone : e.Completes hash v) : ¬(e.apply hash v).host.Projects := by
  cases e with
  | boot b =>
      obtain ⟨rt, hload⟩ := hdone
      change ¬(b.load.toOption.getD v.host).Projects
      rw [hload]
      exact fun hrt => (Boot.projects_of_load_iff hload).mp hrt hstale
  | op clock o =>
      have hv : ({ v with clock := clock } : HostView Runtime).host.Projects := h
      obtain ⟨b, w, hrun⟩ := hdone
      have hfails := (projectsUnless_call hash o hv).fails b w hrun hstale
      change ¬(Handler.run (o.call hash) { v with clock := clock }).2.host.Projects
      rw [hrun]
      exact hfails
  | createInvite clock target token => exact hstale.elim
  | observe node => exact fun h' => (projects_observe_iff h node).mp h' hstale
  | trust node state => exact hstale.elim
  | surroundings e => exact hstale.elim

end events

/-! ## Runs -/

/-- The records project the membership in every state of the run of the events from `v`.
Kind: D -/
def AlwaysProject (hash : InviteHash) : List RegistryEvent → HostView Runtime → Prop
  | [], v => v.host.Projects
  | e :: rest, v => v.host.Projects ∧ AlwaysProject hash rest (e.apply hash v)

/-- Nothing goes wrong with the records in any event of the run.  Kind: D -/
def NeverStale (hash : InviteHash) : List RegistryEvent → HostView Runtime → Prop
  | [], _ => True
  | e :: rest, v => ¬e.Stale hash v ∧ NeverStale hash rest (e.apply hash v)

/-- Every operation and start of the run returns.  Kind: D -/
def Completed (hash : InviteHash) : List RegistryEvent → HostView Runtime → Prop
  | [], _ => True
  | e :: rest, v => e.Completes hash v ∧ Completed hash rest (e.apply hash v)

instance decidableCompletes (hash : InviteHash) : (e : RegistryEvent) → (v : HostView Runtime) →
    Decidable (e.Completes hash v)
  | boot b, _ => decidable_of_iff (b.load.toOption.isSome = true) <| by
      show _ ↔ ∃ rt, b.load = .ok rt
      cases b.load <;> simp [Except.toOption]
  | op clock o, v => decidable_of_iff
      ((Handler.run (o.call hash) { v with clock := clock }).1.toOption.isSome = true) <| by
        show _ ↔ ∃ b w, Handler.run (o.call hash) { v with clock := clock } = (.ok b, w)
        rcases Handler.run (o.call hash) { v with clock := clock } with ⟨e | b, w⟩ <;>
          simp [Except.toOption]
  | createInvite _ _ _, _ | observe _, _ | trust _ _, _ | surroundings _, _ => .isTrue trivial

instance decidableCompleted (hash : InviteHash) : (events : List RegistryEvent) →
    (v : HostView Runtime) → Decidable (Completed hash events v)
  | [], _ => .isTrue trivial
  | e :: rest, v =>
      have := decidableCompleted hash rest (e.apply hash v)
      inferInstanceAs (Decidable (_ ∧ _))

instance decidableAlwaysProject (hash : InviteHash) : (events : List RegistryEvent) →
    (v : HostView Runtime) → Decidable (AlwaysProject hash events v)
  | [], v => inferInstanceAs (Decidable v.host.Projects)
  | e :: rest, v =>
      have := decidableAlwaysProject hash rest (e.apply hash v)
      inferInstanceAs (Decidable (_ ∧ _))

/-- A run that is never stale always projects.  Kind: L -/
theorem alwaysProject_of_neverStale {hash : InviteHash} (events : List RegistryEvent)
    {v : HostView Runtime} (h : v.host.Projects) (hfine : NeverStale hash events v) :
    AlwaysProject hash events v := by
  induction events generalizing v with
  | nil => exact h
  | cons e rest ih => exact ⟨h, ih (projects_apply h hfine.1) hfine.2⟩

/-- A run that always projects does so at its start.  Kind: L -/
theorem projects_of_alwaysProject {hash : InviteHash} {events : List RegistryEvent}
    {v : HostView Runtime} (h : AlwaysProject hash events v) : v.host.Projects := by
  cases events with
  | nil => exact h
  | cons e rest => exact h.1

/-- A completed run that always projects is never stale.  Kind: L -/
theorem neverStale_of_alwaysProject {hash : InviteHash} (events : List RegistryEvent)
    {v : HostView Runtime} (hdone : Completed hash events v) (h : AlwaysProject hash events v) :
    NeverStale hash events v := by
  induction events generalizing v with
  | nil => trivial
  | cons e rest ih =>
      refine ⟨fun hstale => ?_, ih hdone.2 h.2⟩
      exact not_projects_apply h.1 hstale hdone.1 (projects_of_alwaysProject h.2)

end RegistryEvent

/-- **When the registry projects the membership.**  In a run from a start in which nothing goes
wrong with the records in any event they project the membership in every state reached; in a run in
which every operation returns, only then.
Source: `runtime/core.py`, `_hydrate_registry_membership`; `remote/role_operations.py`,
`dispatch_role_request`.  Kind: P -/
theorem projects_iff_never_stale (hash : InviteHash) (b : Boot) (events : List RegistryEvent)
    {v : HostView Runtime} (hload : b.load = .ok v.host) :
    (¬b.Stale ∧ RegistryEvent.NeverStale hash events v →
      RegistryEvent.AlwaysProject hash events v) ∧
    (RegistryEvent.Completed hash events v → (RegistryEvent.AlwaysProject hash events v ↔
      ¬b.Stale ∧ RegistryEvent.NeverStale hash events v)) := by
  have hstart := Boot.projects_of_load_iff hload
  have hfine : ¬b.Stale ∧ RegistryEvent.NeverStale hash events v →
      RegistryEvent.AlwaysProject hash events v := fun h =>
    RegistryEvent.alwaysProject_of_neverStale events (hstart.mpr h.1) h.2
  refine ⟨hfine, fun hdone => ⟨fun h => ⟨?_, ?_⟩, hfine⟩⟩
  · exact hstart.mp (RegistryEvent.projects_of_alwaysProject h)
  · exact RegistryEvent.neverStale_of_alwaysProject events hdone h

/-! ## A worker that is seen before it joins -/

namespace RoleRequests

/-- The start of the sample runtime. -/
def boot : Boot := ⟨coordinator, none, "cluster", "fence", 0, ⟨Dict.empty, {worker}⟩, ∅⟩

/-- The worker is discovered and invited. -/
def seen : List RegistryEvent := [.observe worker, .createInvite 5 worker "token"]

/-- It redeems its invite. -/
def admitted : RegistryEvent := .op 10 (.request redeem)

/-- The worker joins before it is seen and is made a Subcoordinator. -/
def promoted : List RegistryEvent :=
  [.createInvite 5 worker "token", admitted,
    .op 20 (.request (request coordinator .assignRole
      [("target_node_id", .str "worker"), ("roles", .list [.str "subcoordinator"])])),
    .observe worker]

/-- An admission does not touch the record of the admitted node. -/
theorem admitted_worker_has_not_joined :
    ¬∀ (hash : InviteHash) (b : Boot) (events : List RegistryEvent) (v : HostView Runtime),
      b.load = .ok v.host → RegistryEvent.Completed hash events v →
        RegistryEvent.AlwaysProject hash events v := by
  intro hall
  obtain ⟨rt, hload, hdone, hfails⟩ : ∃ rt, boot.load = .ok rt ∧
      RegistryEvent.Completed Cluster.markHash (seen ++ [admitted]) (start rt) ∧
        ¬RegistryEvent.AlwaysProject Cluster.markHash (seen ++ [admitted]) (start rt) := by
    obtain ⟨rt, hload, hboth⟩ := Except.exists_of_any (x := boot.load) (p := fun rt =>
      decide (RegistryEvent.Completed Cluster.markHash (seen ++ [admitted]) (start rt)) &&
        !decide (RegistryEvent.AlwaysProject Cluster.markHash (seen ++ [admitted]) (start rt)))
      (by decide +kernel)
    simp only [Bool.and_eq_true, Bool.not_eq_true', decide_eq_true_eq, decide_eq_false_iff_not]
      at hboth
    exact ⟨rt, hload, hboth⟩
  exact hfails (hall Cluster.markHash boot _ (start rt) hload hdone)

/-- Of two runs that complete, one with an admission and an assignment in which nothing goes wrong,
and one in which something does. -/
theorem projects_iff_never_stale_boot :
    ∃ v : HostView Runtime, boot.load = .ok v.host ∧
      (RegistryEvent.AlwaysProject Cluster.markHash promoted v ∧
        ¬boot.Stale ∧ RegistryEvent.NeverStale Cluster.markHash promoted v) ∧
      ¬(¬boot.Stale ∧ RegistryEvent.NeverStale Cluster.markHash (seen ++ [admitted]) v) := by
  obtain ⟨rt, hload, hchecks⟩ := Except.exists_of_any (x := boot.load) (p := fun rt =>
    decide (RegistryEvent.Completed Cluster.markHash promoted (start rt)) &&
      decide (RegistryEvent.AlwaysProject Cluster.markHash promoted (start rt)) &&
      (decide (RegistryEvent.Completed Cluster.markHash (seen ++ [admitted]) (start rt)) &&
        !decide (RegistryEvent.AlwaysProject Cluster.markHash (seen ++ [admitted]) (start rt))))
    (by decide +kernel)
  simp only [Bool.and_eq_true, Bool.not_eq_true', decide_eq_true_eq, decide_eq_false_iff_not]
    at hchecks
  obtain ⟨⟨hdone, halways⟩, hdone', hfails⟩ := hchecks
  have hiff := (projects_iff_never_stale Cluster.markHash boot promoted hload).2 hdone
  have hiff' := (projects_iff_never_stale Cluster.markHash boot (seen ++ [admitted]) hload).2 hdone'
  exact ⟨start rt, hload, ⟨halways, hiff.mp halways⟩, fun hfine => hfails (hiff'.mpr hfine)⟩

end RoleRequests

end ExpraConnect
