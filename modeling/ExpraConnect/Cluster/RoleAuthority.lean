import ExpraConnect.Cluster.Roles

/-!
# Who has coordinator authority

Two functions of `cluster/roles.py` decide it: `_control` guards every transition, and `allows`
answers for a single permission.  `_control` asks the coordinator term, `allows` does not.

* `roleStateFromDict`: `cluster/state.py`, the states that can be loaded; nothing in it relates the
  assignments to the term;
* `RoleState.allows`;
* `Agree`: what the two functions owe each other; `StaleCoordinator`: an active Coordinator that the
  term does not name;
* `authority_agrees_iff`: they agree except about a stale Coordinator over an active Worker.
-/

namespace ExpraConnect

/-! ## Loading a role state -/

/-- Source: `cluster/state.py`, `_finite_number`.  Kind: D -/
def finiteNumber (field : String) (value : Option Value) : Except PyError ℚ := do
  match ← (value.getD .null).finite? with
  | some q => return q
  | none => throw ⟨.value, field ++ " is malformed"⟩

/-- `isinstance(raw.get(key), str)`, as the text. -/
def textField (key : String) (fields : Fields) (e : PyError) : Except PyError String :=
  match getField key fields with
  | some (.str s) => .ok s
  | _ => .error e

/-- `raw.get(key, False)`, which has to be a boolean when it is there. -/
def flagField (key : String) (fields : Fields) : Except PyError Bool :=
  match getField key fields with
  | none => .ok false
  | some (.bool b) => .ok b
  | some _ => .error ⟨.value, "role assignment boolean is malformed"⟩

/-- The part of `role_state_from_dict` about one assignment.
Source: `cluster/state.py`, `role_state_from_dict`.  Kind: D -/
def rawAssignment (raw : Value) : Except PyError RoleAssignment :=
  match raw with
  | .dict fields => do
      let roles : Value := match getField "roles" fields, getField "role" fields with
        | none, some (.str role) => .list [.str role]
        | some .null, some (.str role) => .list [.str role]
        | roles, _ => roles.getD .null
      let node ← textField "node_id" fields ⟨.value, "role assignment is malformed"⟩
      match roles.asTexts? with
      | none => throw ⟨.value, "role assignment is malformed"⟩
      | some texts =>
          let paused ← flagField "paused" fields
          let revoked ← flagField "revoked" fields
          let _ ← flagField "has_active_job" fields
          let roles ← texts.mapM ClusterRole.new
          let node ← NodeId.new node
          RoleAssignment.new roles.toFinset (some node) paused revoked false
  | _ => .error ⟨.type, "role assignment is malformed"⟩

/-- The part of `role_state_from_dict` about the term.
Source: `cluster/state.py`, `role_state_from_dict`.  Kind: D -/
def rawEpoch (raw : Value) : Except PyError (Option CoordinatorEpoch) :=
  match raw with
  | .null => .ok none
  | .dict fields => do
      match getField "epoch" fields with
      | some (.int n) =>
          raiseIf (n < 0) ⟨.value, "epoch is malformed"⟩
          let coordinator ← textField "coordinator_id" fields ⟨.value, "epoch is malformed"⟩
          let token ← textField "fencing_token" fields ⟨.value, "epoch is malformed"⟩
          raiseIf (token = "") ⟨.value, "epoch is malformed"⟩
          let coordinator ← NodeId.new coordinator
          let issuedAt ← finiteNumber "epoch issued_at" (getField "issued_at" fields)
          let lease ← finiteNumber "epoch lease_expires_at" (getField "lease_expires_at" fields)
          return some (← CoordinatorEpoch.new n.toNat coordinator token issuedAt lease)
      | _ => throw ⟨.value, "epoch is malformed"⟩
  | _ => .error ⟨.value, "epoch is malformed"⟩

/-- The part of `role_state_from_dict` about one grant.
Source: `cluster/state.py`, `role_state_from_dict`.  Kind: D -/
def rawGrant (raw : Value) : Except PyError CapabilityGrant :=
  match raw with
  | .dict fields => do
      let subject ← textField "subject" fields ⟨.value, "capability grant is malformed"⟩
      let target ← textField "target" fields ⟨.value, "capability grant is malformed"⟩
      match ((getField "permissions" fields).getD .null).asTexts? with
      | none => throw ⟨.value, "capability grant is malformed"⟩
      | some texts =>
          let subject ← NodeId.new subject
          let target ← NodeId.new target
          let permissions ← texts.mapM NodePermission.new
          let issuedAt ← finiteNumber "grant issued_at" (getField "issued_at" fields)
          let expiresAt ← finiteNumber "grant expires_at" (getField "expires_at" fields)
          CapabilityGrant.new subject target permissions.toFinset issuedAt expiresAt
  | _ => .error ⟨.value, "capability grant is malformed"⟩

/-- A promotion marker. -/
def rawPromotion : Value → Except PyError ℕ
  | .int n => if n < 0 then .error ⟨.value, "promotion epochs are malformed"⟩ else .ok n.toNat
  | _ => .error ⟨.value, "promotion epochs are malformed"⟩

/-- `value.get(key, [])`, which has to be a list. -/
def listField (key : String) (fields : Fields) (e : PyError) : Except PyError (List Value) :=
  match getField key fields with
  | none => .ok []
  | some (.list items) => .ok items
  | some _ => .error e

/-- Source: `cluster/state.py`, `role_state_from_dict`.  Kind: D -/
def roleStateFromDict (value : Value) : Except PyError RoleState :=
  match value with
  | .dict fields => do
      let items ← listField "assignments" fields ⟨.type, "role state is malformed"⟩
      let _ ← requiredField "assignments" fields
      let assignments ← items.mapM rawAssignment
      let epoch ← rawEpoch ((getField "epoch" fields).getD .null)
      let markers ← listField "promotion_epochs" fields ⟨.value, "promotion epochs are malformed"⟩
      let promotions ← markers.mapM rawPromotion
      let rawGrants ← listField "capability_grants" fields
        ⟨.type, "capability grants are malformed"⟩
      let grants ← rawGrants.mapM rawGrant
      RoleState.new assignments epoch promotions.toFinset grants
  | _ => .error ⟨.type, "role state is malformed"⟩

/-! ## The two decisions -/

namespace RoleState

/-- `allows(subject, target, permission, now)`, with `none` for a `now` that is no finite number.
Source: `cluster/roles.py`, `RoleState.allows`.  Kind: D -/
def allows (s : RoleState) (subject target : NodeId) (permission : NodePermission)
    (now : Option ℚ) : Bool :=
  match now with
  | none => false
  | some t =>
      match s.assignmentFor subject, s.assignmentFor target with
      | some source, some destination =>
          if source.revoked || source.paused || destination.revoked || destination.paused then false
          else if subject = target then true
          else if .coordinator ∈ source.roles then decide (.worker ∈ destination.roles)
          else
            decide (.subcoordinator ∈ source.roles) && decide (.worker ∈ destination.roles) &&
              (s.capabilityGrant subject target (some t)).any fun g =>
                decide (permission ∈ g.permissions)
      | _, _ => false

/-- `allows` is true, and the subject holds the Coordinator role. -/
def AllowsCoordinator (s : RoleState) (subject target : NodeId) (permission : NodePermission)
    (now : Option ℚ) : Prop :=
  s.allows subject target permission now = true ∧
    ∃ source, s.assignmentFor subject = some source ∧ .coordinator ∈ source.roles

/-- `_control` accepts the node, whatever assignment object it is presented with. -/
def Controls (s : RoleState) (node : NodeId) : Prop :=
  ∀ actor : RoleAssignment, actor.nodeId = some node → s.control actor = .ok node

/-- `_control` accepts the node with some assignment object. -/
def MayControl (s : RoleState) (node : NodeId) : Prop :=
  ∃ actor : RoleAssignment, actor.nodeId = some node ∧ s.control actor = .ok node

/-- What the two decisions owe each other about a subject and a target: a Coordinator that `allows`
lets act may control, and a node that the term does not name gets coordinator authority from neither
of them. -/
def Agree (s : RoleState) (subject target : NodeId) (permission : NodePermission)
    (now : Option ℚ) : Prop :=
  (s.AllowsCoordinator subject target permission now → s.Controls subject) ∧
    ∀ e, s.epoch = some e → e.coordinatorId ≠ subject →
      ¬s.AllowsCoordinator subject target permission now ∧ ¬s.MayControl subject

/-- The subject is assigned as an active, unpaused Coordinator, and the term names another node. -/
def StaleCoordinator (s : RoleState) (subject : NodeId) : Prop :=
  (∃ source, s.assignmentFor subject = some source ∧ source.revoked = false ∧
    source.paused = false ∧ .coordinator ∈ source.roles) ∧
  ∃ e, s.epoch = some e ∧ e.coordinatorId ≠ subject

/-- The target is an active, unpaused Worker. -/
def ActiveWorker (s : RoleState) (target : NodeId) : Prop :=
  ∃ destination, s.assignmentFor target = some destination ∧ destination.revoked = false ∧
    destination.paused = false ∧ .worker ∈ destination.roles

/-- When `allows` takes its Coordinator branch and says yes.  Kind: L -/
theorem allowsCoordinator_iff {s : RoleState} {subject target : NodeId}
    {permission : NodePermission} {now : Option ℚ} (hne : subject ≠ target) :
    s.AllowsCoordinator subject target permission now ↔
      now ≠ none ∧ (∃ source, s.assignmentFor subject = some source ∧ source.revoked = false ∧
        source.paused = false ∧ .coordinator ∈ source.roles) ∧ s.ActiveWorker target := by
  unfold AllowsCoordinator allows ActiveWorker
  cases now with
  | none => simp
  | some t =>
      cases hsource : s.assignmentFor subject with
      | none => simp
      | some source =>
          cases hdestination : s.assignmentFor target with
          | none => simp
          | some destination =>
              by_cases hrole : .coordinator ∈ source.roles
              · simp only [Option.some.injEq, exists_eq_left', hne, hrole, if_true, if_false]
                cases source.revoked <;> cases source.paused <;> cases destination.revoked <;>
                  cases destination.paused <;> simp
              · simp [hrole]

/-- `_control` refuses a node that the term does not name.  Kind: L -/
theorem not_mayControl_of_epoch {s : RoleState} {node : NodeId} {e : CoordinatorEpoch}
    (he : s.epoch = some e) (hne : e.coordinatorId ≠ node) : ¬s.MayControl node := by
  rintro ⟨actor, hactor, hcontrol⟩
  unfold control at hcontrol
  rw [hactor] at hcontrol
  dsimp only at hcontrol
  split at hcontrol
  · cases hcontrol
  · split at hcontrol
    · cases hcontrol
    · rename_i hguard
      simp [he, hne] at hguard

/-- `_control` accepts an active, unpaused Coordinator that the term names or that has no term.
Kind: L -/
theorem controls_of_active {s : RoleState} {node : NodeId} {source : RoleAssignment}
    (hsource : s.assignmentFor node = some source) (hrevoked : source.revoked = false)
    (hpaused : source.paused = false) (hrole : .coordinator ∈ source.roles)
    (hepoch : ∀ e, s.epoch = some e → e.coordinatorId = node) : s.Controls node := by
  intro actor hactor
  unfold control
  rw [hactor]
  dsimp only
  rw [hsource]
  dsimp only
  have hany : (s.epoch.any fun e => decide (e.coordinatorId ≠ node)) = false := by
    cases he : s.epoch with
    | none => rfl
    | some e => simp [hepoch e he]
  rw [hany, hrevoked, hpaused, if_neg]
  simp [hrole]

/-- In every role state, the two decisions agree about a subject and another node, unless the clock
reading is a number, the subject is a stale Coordinator and the target an active Worker.
Source: `cluster/roles.py`, `RoleState.allows` and `RoleState._control`.  Kind: P -/
theorem authority_agrees_iff (s : RoleState) {subject target : NodeId} (hne : subject ≠ target)
    (permission : NodePermission) (now : Option ℚ) :
    s.Agree subject target permission now ↔
      ¬(now ≠ none ∧ s.StaleCoordinator subject ∧ s.ActiveWorker target) := by
  constructor
  · rintro hagree ⟨hnow, ⟨hsource, e, he, hcoordinator⟩, htarget⟩
    exact (hagree.2 e he hcoordinator).1 ((allowsCoordinator_iff hne).mpr ⟨hnow, hsource, htarget⟩)
  · intro hstale
    refine ⟨fun hallows => ?_, fun e he hcoordinator => ⟨fun hallows => ?_, ?_⟩⟩
    · obtain ⟨hnow, hactive, htarget⟩ := (allowsCoordinator_iff hne).mp hallows
      have hepoch : ∀ e, s.epoch = some e → e.coordinatorId = subject := by
        intro e he
        by_contra hcoordinator
        exact hstale ⟨hnow, ⟨hactive, e, he, hcoordinator⟩, htarget⟩
      obtain ⟨source, hsource, hrevoked, hpaused, hrole⟩ := hactive
      exact controls_of_active hsource hrevoked hpaused hrole hepoch
    · obtain ⟨hnow, hactive, htarget⟩ := (allowsCoordinator_iff hne).mp hallows
      exact hstale ⟨hnow, ⟨hactive, e, he, hcoordinator⟩, htarget⟩
    · exact not_mayControl_of_epoch he hcoordinator

/-- The document of a cluster whose term names `new`, while `old` is still assigned as
Coordinator. -/
def staleDocument : Value := .dict
  [("assignments", .list
      [.dict [("node_id", .str "old"), ("roles", .list [.str "coordinator", .str "worker"])],
        .dict [("node_id", .str "worker"), ("roles", .list [.str "worker"])]]),
    ("epoch", .dict [("epoch", .int 2), ("coordinator_id", .str "new"),
      ("fencing_token", .str "fence"), ("issued_at", .int 0), ("lease_expires_at", .int 100)])]

/-- In the same cluster the two decisions agree that the worker does not direct `old`. -/
theorem authority_agrees_worker :
    ∃ s, roleStateFromDict staleDocument = .ok s ∧
      s.Agree ⟨"worker", by decide⟩ ⟨"old", by decide⟩ .readState (some 1) := by
  have hworker : (roleStateFromDict staleDocument).toOption.any (fun s =>
      !((s.assignmentFor ⟨"worker", by decide⟩).any fun a => .coordinator ∈ a.roles)) = true := by
    decide +kernel
  obtain ⟨s, hs, hworker⟩ := Option.any_eq_true _ _ |>.mp hworker
  refine ⟨s, Except.eq_ok_of_toOption hs,
    (authority_agrees_iff s (by decide) .readState (some 1)).mpr ?_⟩
  rintro ⟨-, ⟨⟨source, hsource, -, -, hrole⟩, -⟩, -⟩
  rw [hsource] at hworker
  simp [hrole] at hworker

/-- A stale Coordinator: `allows` lets it act on the worker, `_control` refuses it. -/
theorem stale_coordinator_allowed :
    ¬∀ (value : Value) (s : RoleState), roleStateFromDict value = .ok s →
      ∀ (subject target : NodeId) (permission : NodePermission) (now : Option ℚ),
        subject ≠ target → s.Agree subject target permission now := by
  intro h
  have hallows : (roleStateFromDict staleDocument).toOption.any (fun s =>
      s.allows ⟨"old", by decide⟩ ⟨"worker", by decide⟩ .readState (some 1) &&
        ((s.assignmentFor ⟨"old", by decide⟩).any fun a => .coordinator ∈ a.roles) &&
        s.epoch.any fun e => e.coordinatorId ≠ ⟨"old", by decide⟩) = true := by
    decide +kernel
  obtain ⟨s, hs, hs_allows⟩ := Option.any_eq_true _ _ |>.mp hallows
  simp only [Bool.and_eq_true] at hs_allows
  obtain ⟨⟨hallow, hsource⟩, hepoch⟩ := hs_allows
  obtain ⟨source, hsource, hrole⟩ := Option.any_eq_true _ _ |>.mp hsource
  obtain ⟨e, he, hne⟩ := Option.any_eq_true _ _ |>.mp hepoch
  have hagree := h staleDocument s (Except.eq_ok_of_toOption hs) ⟨"old", by decide⟩
    ⟨"worker", by decide⟩ .readState (some 1) (by decide)
  exact (hagree.2 e he (by simpa using hne)).1 ⟨hallow, source, hsource, by simpa using hrole⟩

end RoleState

end ExpraConnect
