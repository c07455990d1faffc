import ExpraConnect.Pairing.TargetFacts

/-!
# The pairing port under arbitrary messages

One lifetime of a runtime's pairing port.  Pairing requests and elevations are split at their
operator callback, so that any other message can arrive while an operator is asked; controls hold
their lock from beginning to end.

* `PortState`, `PortEvent`, `PortState.step`: the port with the requests that wait for an operator,
  and a ledger of the approvals that were given and of the transactions that became grants;
* `Possible`: a monotone clock and fresh transaction ids; `Gentle`: an elevation writes over the
  grant it read and over no repair, and approved secrets are ones the service accepts;
* `Sound`: the invariant that ties transactions, permissions, grants and approvals together, kept
  by every gentle step (`Sound.step`);
* `port_integrity`: what a gentle run never does;
* `elevation_reverts_repair`: without `Gentle` an elevation brings a replaced secret back.
-/

namespace ExpraConnect

open ExpraConnect.Lib

/-! ## The port and its messages -/

/-- An operator said yes to a request, whose transaction was to have this id. -/
structure OperatorApproval where
  /-- The request. -/
  request : PairingRequest
  /-- The transaction id that `begin` drew. -/
  txid : String

/-- The port between two steps. -/
structure PortState where
  /-- The port and the live ACL. -/
  view : HostView PairingPort
  /-- The request that holds `_inbound_pairing_lock` while its operator is asked. -/
  asking : Option PairingRequest
  /-- The elevations whose operator is asked, with the grants they read. -/
  elevating : List (CapabilityElevationRequest × PairingManager.PeerGrant)
  /-- Every approval of a pairing request so far. -/
  approvals : List OperatorApproval
  /-- Every transaction whose confirmation returned `True` or wrote a grant. -/
  granted : List String

/-- What can happen at the port. -/
inductive PortEvent where
  /-- The clock moves. -/
  | tick (now : ℚ)
  /-- A `pair_request` arrives. -/
  | request (r : PairingRequest)
  /-- `on_pairing_request` returns; `txid` is the id that `begin` would draw. -/
  | answer (approved : Bool) (txid : String)
  /-- A `pair_confirm` or `pair_abort` arrives. -/
  | control (r : PairingControlRequest)
  /-- An `elevation_request` arrives. -/
  | elevation (r : CapabilityElevationRequest)
  /-- `on_elevation_request` returns, for the elevation at this position. -/
  | decided (i : ℕ) (approved : Bool)

namespace PortState

/-- The grants of the pairing manager. -/
def grants (s : PortState) : Dict NodeId PairingManager.PeerGrant := s.view.host.pairing.grants

/-- The ledger after a control: a confirmation counts if it returned `True` or wrote a grant. -/
def grantedAfter (s : PortState) (r : PairingControlRequest) : List String :=
  match Port.handlePairingControl r s.view with
  | .ok b w =>
      if r.operation = .confirm ∧ (b ∨ w.host.pairing.grants ≠ s.grants) then
        r.transactionId :: s.granted
      else s.granted
  | .error _ _ => s.granted

/-- One step. -/
def step (check : SignatureCheck) (s : PortState) : PortEvent → PortState
  | .tick now => { s with view := { s.view with clock := now } }
  | .request r =>
      if s.asking.isSome then s
      else
        match Port.admission check s.view.host s.view.clock r with
        | .asked => { s with asking := some r }
        | _ => s
  | .answer approved txid =>
      match s.asking with
      | none => s
      | some r =>
          { s with
            view := (Port.closeRequest r txid approved).after s.view
            asking := none
            approvals := if approved then ⟨r, txid⟩ :: s.approvals else s.approvals }
  | .control r =>
      { s with
        view := (Port.handlePairingControl r).after s.view
        granted := s.grantedAfter r }
  | .elevation r =>
      match Port.openElevation s.view.host r with
      | .ok (some grant) => { s with elevating := s.elevating ++ [(r, grant)] }
      | _ => s
  | .decided i approved =>
      match s.elevating[i]? with
      | none => s
      | some (r, grant) =>
          { s with
            view := (Port.closeElevation r grant approved).after s.view
            elevating := s.elevating.eraseIdx i }

/-- The clock does not go back, and transaction ids are fresh. -/
def Possible (s : PortState) : PortEvent → Prop
  | .tick now => s.view.clock ≤ now
  | .answer _ txid =>
      s.view.host.pairing.pending.get? txid = none ∧
        s.view.host.pendingPermissions.get? txid = none ∧ ∀ a ∈ s.approvals, a.txid ≠ txid
  | _ => True

/-- A repair of this caller is under way: an operator is asked about it, or its transaction can
still be confirmed. -/
def Repairing (s : PortState) (caller : NodeId) : Prop :=
  (∃ q ∈ s.asking, q.callerNodeId = caller) ∨
    ∃ txid t permissions, s.view.host.pairing.pending.get? txid = some t ∧
      s.view.host.pendingPermissions.get? txid = some permissions ∧
      t.peerId = caller ∧ s.view.clock < t.expiresAt

/-- The branches that break the port are not taken: an approved secret is 64 hexadecimal digits,
and an elevation is granted while the grant is still the one it read and no repair of the caller is
under way. -/
def Gentle (s : PortState) : PortEvent → Prop
  | .answer true _ => ∀ r ∈ s.asking, validSecret r.proposedSecret = true
  | .decided i true => ∀ r grant, s.elevating[i]? = some (r, grant) →
      s.grants.get? r.callerNodeId = some grant ∧ ¬s.Repairing r.callerNodeId
  | _ => True

/-- A lifetime starts with nothing in progress, and with grants that were loaded. -/
structure Initial (s : PortState) : Prop where
  /-- No operator is asked about a request. -/
  asking : s.asking = none
  /-- No operator is asked about an elevation. -/
  elevating : s.elevating = []
  /-- No approval was given yet. -/
  approvals : s.approvals = []
  /-- No transaction became a grant yet. -/
  granted : s.granted = []
  /-- No transaction can be confirmed. -/
  pending : ∀ txid, s.view.host.pairing.pending.get? txid = none ∨
    s.view.host.pendingPermissions.get? txid = none
  /-- The grants passed the checks of the trust document. -/
  loaded : ∀ caller g, s.grants.get? caller = some g →
    validSecret g.secret = true ∧ PermissionItem.texts g.permissions ⊆ knownPermissions

/-! ## What the port promises -/

/-- The proof in the material verifies under the root that the grant stores. -/
def VerifiedUnder (check : SignatureCheck) (g : PairingManager.PeerGrant) (m : Material) : Prop :=
  ∃ root generation fingerprint proof, g.rootPublicKey = some root ∧
    m.rootPublicKey = some root ∧ m.transportGeneration = some generation ∧
    m.transportFingerprint = some fingerprint ∧ m.transportProof = some proof ∧
    verifyTransportProof check g.callerId root generation fingerprint proof = true

/-- What one step may do to the grants. -/
structure Integrity (check : SignatureCheck) (s : PortState) (e : PortEvent) : Prop where
  /-- A grant that a control makes is that of an approved request, and read-only. -/
  created : ∀ r, e = .control r → ∀ caller g, (s.step check e).grants.get? caller = some g →
    s.grants.get? caller ≠ some g →
    ∃ a ∈ s.approvals, a.txid = r.transactionId ∧ a.request.callerNodeId = caller ∧
      g.secret = a.request.proposedSecret ∧ g.toMaterial = a.request.material ∧
      g.permissions = permissionValues a.request.permissions ∧
      PermissionItem.texts g.permissions ⊆ readPermissions.image NodePermission.value
  /-- No other message makes a grant for a caller that has none. -/
  nowhereElse : (∀ r, e ≠ .control r) → ∀ caller, s.grants.get? caller = none →
    (s.step check e).grants.get? caller = none
  /-- Transactions that became grants did so once, each by an approval of its own. -/
  once : (s.step check e).granted.Nodup ∧ ((s.step check e).approvals.map (·.txid)).Nodup ∧
    ∀ txid ∈ (s.step check e).granted, txid ∈ (s.step check e).approvals.map (·.txid)
  /-- A secret is replaced by the confirmation of a repair that proved the stored root. -/
  replaced : ∀ caller old g, s.grants.get? caller = some old →
    (s.step check e).grants.get? caller = some g → g.secret ≠ old.secret →
    ∃ r, e = .control r ∧ ∃ a ∈ s.approvals, a.txid = r.transactionId ∧
      a.request.callerNodeId = caller ∧ a.request.proposedSecret = g.secret ∧
      a.request.intent = .repair ∧ VerifiedUnder check old a.request.material

/-- A run in which every step is possible. -/
def PossibleRun (check : SignatureCheck) : List PortEvent → PortState → Prop
  | [], _ => True
  | e :: rest, s => s.Possible e ∧ PossibleRun check rest (s.step check e)

/-- A run in which every step is possible and gentle. -/
def GentleRun (check : SignatureCheck) : List PortEvent → PortState → Prop
  | [], _ => True
  | e :: rest, s => s.Possible e ∧ s.Gentle e ∧ GentleRun check rest (s.step check e)

/-- A run in which every step keeps the promise. -/
def IntegrityRun (check : SignatureCheck) : List PortEvent → PortState → Prop
  | [], _ => True
  | e :: rest, s => Integrity check s e ∧ IntegrityRun check rest (s.step check e)

/-! ## The invariant -/

/-- The transaction that an approval made, with its permissions. -/
structure Made (a : OperatorApproval) (txid : String) (t : PendingPairing)
    (permissions : Finset PermissionItem) : Prop where
  /-- The approval's transaction has this id. -/
  approvalId : a.txid = txid
  /-- The transaction knows its id. -/
  transactionId : t.transactionId = txid
  /-- The transaction is with the caller of the request. -/
  peer : t.peerId = a.request.callerNodeId
  /-- It has the secret of the request. -/
  secret : t.secret = a.request.proposedSecret
  /-- It has the material of the request. -/
  material : t.toMaterial = a.request.material
  /-- It is inbound. -/
  direction : t.direction = .inbound
  /-- It has the intent of the request. -/
  intent : t.intent = a.request.intent
  /-- It is to get the permissions of the request. -/
  permissions : permissions = permissionValues a.request.permissions
  /-- The service accepts its secret. -/
  valid : validSecret t.secret = true

/-- A transaction that can be confirmed or aborted. -/
def Confirmable (v : HostView PairingPort) (txid : String) (t : PendingPairing)
    (permissions : Finset PermissionItem) : Prop :=
  v.host.pairing.pending.get? txid = some t ∧
    v.host.pendingPermissions.get? txid = some permissions

/-- Every confirmable transaction comes from an approval that made no grant yet; a caller has at
most one that is active; and if the caller has a grant, it is a repair that proves its root. -/
structure Sound (check : SignatureCheck) (s : PortState) : Prop where
  /-- A confirmable transaction was approved. -/
  covered : ∀ txid t permissions, Confirmable s.view txid t permissions →
    ∃ a ∈ s.approvals, Made a txid t permissions
  /-- A confirmable transaction became no grant yet. -/
  unspent : ∀ txid t permissions, Confirmable s.view txid t permissions → txid ∉ s.granted
  /-- A caller has at most one active transaction. -/
  alone : ∀ txid txid' t t' permissions permissions', Confirmable s.view txid t permissions →
    Confirmable s.view txid' t' permissions' → s.view.clock < t.expiresAt →
    s.view.clock < t'.expiresAt → t.peerId = t'.peerId → txid = txid'
  /-- An active transaction of a caller with a grant is a repair that proves the stored root. -/
  justified : ∀ txid t permissions g, Confirmable s.view txid t permissions →
    s.view.clock < t.expiresAt → s.grants.get? t.peerId = some g →
    t.intent = .repair ∧ VerifiedUnder check g t.toMaterial
  /-- So is a request about which an operator is asked, and its caller has no active
  transaction. -/
  asked : ∀ r ∈ s.asking,
    s.view.host.pairing.findPendingFor s.view.clock r.callerNodeId (some .inbound) = none ∧
      ∀ g, s.grants.get? r.callerNodeId = some g →
        r.intent = .repair ∧ VerifiedUnder check g r.material
  /-- Grants were made once, each by an approval of its own. -/
  ledger : s.granted.Nodup ∧ (s.approvals.map (·.txid)).Nodup ∧
    ∀ txid ∈ s.granted, txid ∈ s.approvals.map (·.txid)
  /-- The service accepts the grants. -/
  valid : Port.GrantsValid s.view.host.pairing

/-- A new port is sound.  Kind: L -/
theorem Initial.sound {check : SignatureCheck} {s : PortState} (h : s.Initial) :
    Sound check s := by
  have hnone : ∀ txid t permissions, ¬Confirmable s.view txid t permissions := by
    rintro txid t permissions ⟨ht, hp⟩
    rcases h.pending txid with hno | hno
    · cases hno.symm.trans ht
    · cases hno.symm.trans hp
  refine ⟨fun _ _ _ hc => absurd hc (hnone _ _ _), fun _ _ _ hc => absurd hc (hnone _ _ _),
    fun _ _ _ _ _ _ hc => absurd hc (hnone _ _ _), fun _ _ _ _ hc => absurd hc (hnone _ _ _),
    fun r hr => ?_, ?_, h.loaded⟩
  · rw [h.asking] at hr
    cases hr
  · rw [h.granted, h.approvals]
    exact ⟨List.nodup_nil, List.nodup_nil, fun _ hx => absurd hx List.not_mem_nil⟩

/-- A continuous root was verified.  Kind: L -/
theorem verifiedUnder_of_continuous {check : SignatureCheck} {g : PairingManager.PeerGrant}
    {r : PairingRequest} (h : grantRootContinuous check g r.rootPublicKey r.transportGeneration
      r.transportFingerprint r.transportProof = true) : VerifiedUnder check g r.material := by
  unfold grantRootContinuous at h
  cases hroot : g.rootPublicKey with
  | none => simp [hroot] at h
  | some root =>
      simp only [hroot] at h
      by_cases hempty : root = ""
      · simp [hempty] at h
      · by_cases hsame : r.rootPublicKey = some root
        · cases hgeneration : r.transportGeneration with
          | none => simp [hempty, hsame, hgeneration] at h
          | some generation =>
              cases hproof : r.transportProof with
              | none => simp [hempty, hsame, hgeneration, hproof] at h
              | some proof =>
                  by_cases hno : proof = ""
                  · simp [hempty, hsame, hgeneration, hproof, hno] at h
                  · simp only [hempty, hsame, hgeneration, hproof, hno, if_false, ne_eq,
                      not_true_eq_false] at h
                    exact ⟨root, generation, r.transportFingerprint, proof, hroot, hsame,
                      hgeneration, rfl, hproof, h⟩
        · simp [hempty, hsame] at h

/-- A request about which the operator is asked.  Kind: L -/
theorem admission_asked {check : SignatureCheck} {p : PairingPort} {now : ℚ} {r : PairingRequest}
    (h : Port.admission check p now r = .asked) :
    p.pairing.findPendingFor now r.callerNodeId (some .inbound) = none ∧
      ∀ g, p.pairing.grants.get? r.callerNodeId = some g →
        r.intent = .repair ∧ VerifiedUnder check g r.material := by
  unfold Port.admission at h
  by_cases hself : r.callerNodeId = p.nodeId
  · simp [hself] at h
  · simp only [hself, if_false] at h
    -- whichever way the pending check is reached, it asks only if there is no transaction
    have hpending : Port.pendingAdmission r
        (p.pairing.findPendingFor now r.callerNodeId (some .inbound)) = .asked →
        p.pairing.findPendingFor now r.callerNodeId (some .inbound) = none := by
      intro hfound
      cases hduplicate : p.pairing.findPendingFor now r.callerNodeId (some .inbound) with
      | none => rfl
      | some duplicate =>
          rw [hduplicate, Port.pendingAdmission] at hfound
          by_cases hsecret : duplicate.secret = r.proposedSecret
          · simp [hsecret] at hfound
          · simp [hsecret] at hfound
    cases hgrant : p.pairing.grants.get? r.callerNodeId with
    | none =>
        simp only [hgrant] at h
        exact ⟨hpending h, fun g hg => by cases hg⟩
    | some grant =>
        simp only [hgrant] at h
        by_cases hroot : grantRootContinuous check grant r.rootPublicKey r.transportGeneration
            r.transportFingerprint r.transportProof = true
        · by_cases hintent : r.intent = .repair
          · simp only [hroot, hintent, Bool.not_true, Bool.false_eq_true, if_false, ne_eq,
              not_true_eq_false] at h
            refine ⟨hpending h, fun g hg => ?_⟩
            obtain rfl : grant = g := Option.some.inj hg
            exact ⟨hintent, verifiedUnder_of_continuous hroot⟩
          · simp [hroot, hintent] at h
        · simp [hroot] at h

/-! ## One step -/

/-- Nothing new can be confirmed, and nobody new is asked.  Kind: L -/
theorem Sound.shrink {check : SignatureCheck} {s s' : PortState} (h : Sound check s)
    (hclock : s.view.clock ≤ s'.view.clock)
    (hpending : ∀ txid t, s'.view.host.pairing.pending.get? txid = some t →
      s.view.host.pairing.pending.get? txid = some t)
    (hpermissions : ∀ txid permissions,
      s'.view.host.pendingPermissions.get? txid = some permissions →
        s.view.host.pendingPermissions.get? txid = some permissions)
    (hgrants : s'.grants = s.grants) (hasking : ∀ r ∈ s'.asking, r ∈ s.asking)
    (happrovals : ∀ a ∈ s.approvals, a ∈ s'.approvals)
    (hnodup : (s'.approvals.map (·.txid)).Nodup) (hgranted : s'.granted = s.granted) :
    Sound check s' := by
  have hconfirmable : ∀ {txid t permissions}, Confirmable s'.view txid t permissions →
      Confirmable s.view txid t permissions :=
    fun hc => ⟨hpending _ _ hc.1, hpermissions _ _ hc.2⟩
  refine ⟨fun txid t permissions hc => ?_, fun txid t permissions hc => ?_, ?_, ?_, ?_, ?_, ?_⟩
  · obtain ⟨a, ha, hmade⟩ := h.covered txid t permissions (hconfirmable hc)
    exact ⟨a, happrovals a ha, hmade⟩
  · rw [hgranted]
    exact h.unspent txid t permissions (hconfirmable hc)
  · intro txid txid' t t' permissions permissions' hc hc' hlive hlive' hpeer
    exact h.alone txid txid' t t' permissions permissions' (hconfirmable hc) (hconfirmable hc')
      (hclock.trans_lt hlive) (hclock.trans_lt hlive') hpeer
  · intro txid t permissions g hc hlive hg
    rw [hgrants] at hg
    exact h.justified txid t permissions g (hconfirmable hc) (hclock.trans_lt hlive) hg
  · intro r hr
    obtain ⟨hnone, hrepair⟩ := h.asked r (hasking r hr)
    refine ⟨PairingManager.findPendingFor_eq_none.mpr fun txid t ht hpeer hlive => ?_,
      fun g hg => ?_⟩
    · exact PairingManager.findPendingFor_eq_none.mp hnone txid t (hpending txid t ht) hpeer
        (hclock.trans_lt hlive)
    · rw [hgrants] at hg
      exact hrepair g hg
  · rw [hgranted]
    refine ⟨h.ledger.1, hnodup, fun x hx => ?_⟩
    obtain ⟨a, ha, heq⟩ := List.mem_map.mp (h.ledger.2.2 x hx)
    exact List.mem_map.mpr ⟨a, happrovals a ha, heq⟩
  · intro caller g hg
    have hold : s'.grants.get? caller = some g := hg
    rw [hgrants] at hold
    exact h.valid caller g hold

/-- What a control can do to a sound port.  Kind: L -/
theorem Sound.handled {check : SignatureCheck} {s : PortState} (h : Sound check s)
    (r : PairingControlRequest) :
    ∃ b w, Port.handlePairingControl r s.view = .ok b w ∧ Port.Handled s.view r b w := by
  refine Port.handlePairingControl_handled h.valid fun t permissions hc => ?_
  obtain ⟨a, -, hmade⟩ := h.covered _ _ _ ⟨hc.found, hc.allowed⟩
  refine ⟨hmade.valid, ?_⟩
  rw [hmade.permissions]
  exact Port.texts_known _

/-- A control is a step of the port.  Kind: L -/
theorem step_control {check : SignatureCheck} {s : PortState} {r : PairingControlRequest} {b : Bool}
    {w : HostView PairingPort} (hrun : Port.handlePairingControl r s.view = .ok b w) :
    s.step check (.control r) = { s with
      view := w
      granted :=
        if r.operation = .confirm ∧ (b ∨ w.host.pairing.grants ≠ s.grants) then
          r.transactionId :: s.granted
        else s.granted } := by
  simp only [step, grantedAfter, hrun, PyM.after_of_ok hrun]

/-- A transaction that is still there after another was dropped is another one.  Kind: L -/
theorem Confirmable.of_erase {v w : HostView PairingPort} {txid txid' : String}
    {t : PendingPairing} {permissions : Finset PermissionItem}
    (hpending : w.host.pairing.pending = v.host.pairing.pending.erase txid)
    (hpermissions : w.host.pendingPermissions = v.host.pendingPermissions.erase txid)
    (h : Confirmable w txid' t permissions) :
    txid ≠ txid' ∧ Confirmable v txid' t permissions := by
  obtain ⟨ht, hp⟩ := h
  rw [hpending, Dict.get?_erase] at ht
  rw [hpermissions, Dict.get?_erase] at hp
  by_cases hne : txid = txid'
  · simp [hne] at ht
  · rw [if_neg hne] at ht hp
    exact ⟨hne, ht, hp⟩

/-- A transaction that becomes a grant was the only active one of its caller, whom no operator is
asked about.  Kind: L -/
theorem Sound.grant {check : SignatureCheck} {s s' : PortState} (h : Sound check s)
    {txid : String} {t : PendingPairing} {permissions : Finset PermissionItem}
    (hc : Confirmable s.view txid t permissions) (hlive : s.view.clock < t.expiresAt)
    (hclock : s'.view.clock = s.view.clock)
    (hpairing : s'.view.host.pairing = { s.view.host.pairing.abort txid with
      grants := s.view.host.pairing.grants.insert t.peerId
        (PairingManager.grantOf t permissions) })
    (hpermissions : s'.view.host.pendingPermissions = s.view.host.pendingPermissions.erase txid)
    (hasking : s'.asking = s.asking) (happrovals : s'.approvals = s.approvals)
    (hgranted : s'.granted = txid :: s.granted) : Sound check s' := by
  obtain ⟨a, ha, hmade⟩ := h.covered txid t permissions hc
  have hpending : s'.view.host.pairing.pending = s.view.host.pairing.pending.erase txid := by
    rw [hpairing]
    rfl
  have hgrants : s'.grants = s.grants.insert t.peerId (PairingManager.grantOf t permissions) := by
    unfold grants
    rw [hpairing]
  have hother : ∀ {txid' t' permissions'}, Confirmable s'.view txid' t' permissions' →
      txid ≠ txid' ∧ Confirmable s.view txid' t' permissions' :=
    fun hc' => hc'.of_erase hpending hpermissions
  refine ⟨?_, ?_, ?_, ?_, ?_, ?_, ?_⟩
  · intro txid' t' permissions' hc'
    rw [happrovals]
    exact h.covered txid' t' permissions' (hother hc').2
  · intro txid' t' permissions' hc'
    obtain ⟨hne, hold⟩ := hother hc'
    rw [hgranted, List.mem_cons, not_or]
    exact ⟨fun heq => hne heq.symm, h.unspent txid' t' permissions' hold⟩
  · intro txid₁ txid₂ t₁ t₂ p₁ p₂ hc₁ hc₂ hlive₁ hlive₂ hpeer
    rw [hclock] at hlive₁ hlive₂
    exact h.alone txid₁ txid₂ t₁ t₂ p₁ p₂ (hother hc₁).2 (hother hc₂).2 hlive₁ hlive₂ hpeer
  · intro txid' t' permissions' g hc' hlive' hg
    obtain ⟨hne, hold⟩ := hother hc'
    rw [hclock] at hlive'
    have hpeer : t.peerId ≠ t'.peerId := fun heq =>
      hne (h.alone txid txid' t t' permissions permissions' hc hold hlive hlive' heq)
    rw [hgrants, Dict.get?_insert_of_ne _ _ hpeer] at hg
    exact h.justified txid' t' permissions' g hold hlive' hg
  · intro r hr
    rw [hasking] at hr
    obtain ⟨hnone, hrepair⟩ := h.asked r hr
    have hfree := PairingManager.findPendingFor_eq_none.mp hnone
    have hcaller : t.peerId ≠ r.callerNodeId := fun heq =>
      hfree txid t hc.1 heq hlive hmade.direction
    refine ⟨PairingManager.findPendingFor_eq_none.mpr fun txid' t' ht' hpeer hlive' => ?_,
      fun g hg => ?_⟩
    · rw [hpending, Dict.get?_erase] at ht'
      split at ht'
      · cases ht'
      · rw [hclock] at hlive'
        exact hfree txid' t' ht' hpeer hlive'
    · rw [hgrants, Dict.get?_insert_of_ne _ _ hcaller] at hg
      exact hrepair g hg
  · obtain ⟨honce, hids, hsub⟩ := h.ledger
    rw [happrovals, hgranted]
    refine ⟨List.nodup_cons.mpr ⟨h.unspent txid t permissions hc, honce⟩, hids, ?_⟩
    intro x hx
    rcases List.mem_cons.mp hx with rfl | hx
    · exact List.mem_map.mpr ⟨a, ha, hmade.approvalId⟩
    · exact hsub x hx
  · have hinsert := h.valid.insert hmade.valid (hmade.permissions ▸ Port.texts_known _)
    intro caller g hg
    rw [hpairing] at hg
    exact hinsert caller g hg

/-- A control keeps the port sound.  Kind: L -/
theorem Sound.control {check : SignatureCheck} {s : PortState} (h : Sound check s)
    (r : PairingControlRequest) : Sound check (s.step check (.control r)) := by
  obtain ⟨b, w, hrun, hhandled⟩ := h.handled r
  rw [step_control hrun]
  cases hhandled with
  | idle w hclock hpairing hpermissions =>
      refine h.shrink hclock.ge (fun txid t ht => ?_) (fun txid permissions hp => ?_) ?_
        (fun _ hr => hr) (fun _ ha => ha) h.ledger.2.1 (if_neg ?_)
      · rw [← hpairing]
        exact ht
      · rw [← hpermissions]
        exact hp
      · exact congrArg PairingManager.grants hpairing
      · rintro ⟨-, hb | hne⟩
        · cases hb
        · exact hne (congrArg PairingManager.grants hpairing)
  | dropped b w hop hclock hpairing hpermissions =>
      refine h.shrink hclock.ge (fun txid t ht => ?_) (fun txid permissions hp => ?_) ?_
        (fun _ hr => hr) (fun _ ha => ha) h.ledger.2.1 (if_neg ?_)
      · have hpending : w.host.pairing.pending =
            s.view.host.pairing.pending.erase r.transactionId :=
          congrArg PairingManager.pending hpairing
        rw [hpending, Dict.get?_erase] at ht
        split at ht
        · cases ht
        · exact ht
      · rw [hpermissions, Dict.get?_erase] at hp
        split at hp
        · cases hp
        · exact hp
      · show w.host.pairing.grants = s.view.host.pairing.grants
        rw [hpairing]
        rfl
      · rintro ⟨hconfirm, -⟩
        cases hop.symm.trans hconfirm
  | granted t permissions w hclock haddresses hop hlive hpairing hpermissions =>
      exact h.grant ⟨haddresses.found, haddresses.allowed⟩ hlive hclock hpairing hpermissions
        rfl rfl (if_pos ⟨hop, .inl rfl⟩)

/-- What the operator's answer does when the caller has no active transaction. -/
inductive Answered (v : HostView PairingPort) (r : PairingRequest) (txid : String) :
    Bool → HostView PairingPort → Prop
  /-- Nothing that another request could notice. -/
  | idle (approved : Bool) (w : HostView PairingPort) (hclock : w.clock = v.clock)
      (hpairing : w.host.pairing = v.host.pairing)
      (hpermissions : w.host.pendingPermissions = v.host.pendingPermissions) :
      Answered v r txid approved w
  /-- The request is pending. -/
  | begun (t : PendingPairing) (w : HostView PairingPort) (hclock : w.clock = v.clock)
      (ht : t = v.host.pairing.newTransaction v.clock txid r.proposedSecret r.callerNodeId
        (some r.proposedSecret) r.material .inbound r.intent)
      (hpairing : w.host.pairing =
        { v.host.pairing with pending := v.host.pairing.pending.insert txid t })
      (hpermissions : w.host.pendingPermissions =
        v.host.pendingPermissions.insert txid (permissionValues r.permissions)) :
      Answered v r txid true w

/-- What closing a request answers.  Kind: L -/
theorem closeRequest_answered {v : HostView PairingPort} {r : PairingRequest} {txid : String}
    (approved : Bool)
    (hfree : v.host.pairing.findPendingFor v.clock r.callerNodeId (some .inbound) = none)
    (hpending : v.host.pairing.pending.get? txid = none)
    (hpermissions : v.host.pendingPermissions.get? txid = none) :
    Answered v r txid approved ((Port.closeRequest r txid approved).after v) := by
  obtain ⟨response, w, hrun, hclosing⟩ := Port.closeRequest_spec v r txid approved
  rw [PyM.after_of_ok hrun]
  cases hclosing with
  | denied => exact .idle _ v rfl rfl rfl
  | busy => exact .idle _ v rfl rfl rfl
  | unsaved pending m hm =>
      obtain ⟨hpairing, hperms⟩ := Port.drop_begun hfree hpending hpermissions hm
      exact .idle _ _ rfl hpairing hperms
  | begun pending m response hm hresponse =>
      have hbegin := PairingManager.begin_of_free hfree txid r.proposedSecret r.proposedSecret
        r.material r.intent
      obtain ⟨rfl, rfl⟩ := Prod.mk.inj (Except.ok.inj (hbegin.symm.trans hm))
      exact .begun _ _ rfl rfl rfl rfl

/-- A request becomes a transaction.  Kind: L -/
theorem Sound.begin {check : SignatureCheck} {s s' : PortState} (h : Sound check s)
    {r : PairingRequest} {txid : String} {t : PendingPairing} (hasked : r ∈ s.asking)
    (hvalid : validSecret r.proposedSecret = true) (hnew : ∀ a ∈ s.approvals, a.txid ≠ txid)
    (hclock : s'.view.clock = s.view.clock)
    (ht : t = s.view.host.pairing.newTransaction s.view.clock txid r.proposedSecret
      r.callerNodeId (some r.proposedSecret) r.material .inbound r.intent)
    (hpairing : s'.view.host.pairing =
      { s.view.host.pairing with pending := s.view.host.pairing.pending.insert txid t })
    (hpermissions : s'.view.host.pendingPermissions =
      s.view.host.pendingPermissions.insert txid (permissionValues r.permissions))
    (hasking : s'.asking = none) (happrovals : s'.approvals = ⟨r, txid⟩ :: s.approvals)
    (hgranted : s'.granted = s.granted) : Sound check s' := by
  obtain ⟨hnone, hrepair⟩ := h.asked r hasked
  have hfree := PairingManager.findPendingFor_eq_none.mp hnone
  have hsecret : t.secret = r.proposedSecret := by
    rw [ht]
    exact PairingManager.newTransaction_secret _ _ _ _ _ _ _ _
  have hpeer : t.peerId = r.callerNodeId := by rw [ht]; rfl
  have hmade : Made ⟨r, txid⟩ txid t (permissionValues r.permissions) := by
    refine ⟨rfl, ?_, hpeer, hsecret, ?_, ?_, ?_, rfl, hsecret ▸ hvalid⟩ <;> rw [ht] <;> rfl
  have hgrants : s'.grants = s.grants := by unfold grants; rw [hpairing]
  -- what can be confirmed is the new transaction, or could be confirmed before
  have hcases : ∀ {x u p}, Confirmable s'.view x u p →
      (x = txid ∧ u = t ∧ p = permissionValues r.permissions) ∨
        (txid ≠ x ∧ Confirmable s.view x u p) := by
    rintro x u p ⟨hu, hp⟩
    rw [hpairing] at hu
    rw [hpermissions] at hp
    by_cases hne : txid = x
    · subst hne
      simp only [Dict.get?_insert_self, Option.some.injEq] at hu hp
      exact .inl ⟨rfl, hu.symm, hp.symm⟩
    · simp only [Dict.get?_insert_of_ne _ _ hne] at hu hp
      exact .inr ⟨hne, hu, hp⟩
  -- an old active transaction is with another caller
  have hother : ∀ {x u p}, Confirmable s.view x u p → s.view.clock < u.expiresAt →
      u.peerId ≠ t.peerId := by
    intro x u p hc hlive heq
    obtain ⟨a, -, hold⟩ := h.covered x u p hc
    exact hfree x u hc.1 (heq.trans hpeer) hlive hold.direction
  refine ⟨?_, ?_, ?_, ?_, fun q hq => ?_, ?_, ?_⟩
  · intro x u p hc
    rw [happrovals]
    rcases hcases hc with ⟨rfl, rfl, rfl⟩ | ⟨-, hold⟩
    · exact ⟨_, List.mem_cons_self, hmade⟩
    · obtain ⟨a, ha, hmade'⟩ := h.covered x u p hold
      exact ⟨a, List.mem_cons_of_mem _ ha, hmade'⟩
  · intro x u p hc
    rw [hgranted]
    rcases hcases hc with ⟨rfl, -, -⟩ | ⟨-, hold⟩
    · intro hmem
      obtain ⟨a, ha, heq⟩ := List.mem_map.mp (h.ledger.2.2 x hmem)
      exact hnew a ha heq
    · exact h.unspent x u p hold
  · intro x x' u u' p p' hc hc' hlive hlive' heq
    rw [hclock] at hlive hlive'
    rcases hcases hc with ⟨rfl, rfl, rfl⟩ | ⟨-, hold⟩
    · rcases hcases hc' with ⟨rfl, -, -⟩ | ⟨-, hold'⟩
      · rfl
      · exact absurd heq.symm (hother hold' hlive')
    · rcases hcases hc' with ⟨-, rfl, -⟩ | ⟨-, hold'⟩
      · exact absurd heq (hother hold hlive)
      · exact h.alone x x' u u' p p' hold hold' hlive hlive' heq
  · intro x u p g hc hlive hg
    rw [hclock] at hlive
    rw [hgrants] at hg
    rcases hcases hc with ⟨-, rfl, -⟩ | ⟨-, hold⟩
    · rw [hpeer] at hg
      rw [hmade.intent, hmade.material]
      exact hrepair g hg
    · exact h.justified x u p g hold hlive hg
  · rw [hasking] at hq
    cases hq
  · obtain ⟨honce, hids, hsub⟩ := h.ledger
    rw [happrovals, hgranted]
    refine ⟨honce, List.nodup_cons.mpr ⟨fun hmem => ?_, hids⟩, fun x hx => ?_⟩
    · obtain ⟨a, ha, heq⟩ := List.mem_map.mp hmem
      exact hnew a ha heq
    · exact List.mem_cons_of_mem _ (hsub x hx)
  · intro caller g hg
    have hold : s'.grants.get? caller = some g := hg
    rw [hgrants] at hold
    exact h.valid caller g hold

/-- An answer of the operator is a step of the port.  Kind: L -/
theorem step_answer {check : SignatureCheck} {s : PortState} {r : PairingRequest}
    (hasking : s.asking = some r) (approved : Bool) (txid : String) :
    s.step check (.answer approved txid) = { s with
      view := (Port.closeRequest r txid approved).after s.view
      asking := none
      approvals := if approved then ⟨r, txid⟩ :: s.approvals else s.approvals } := by
  simp only [step, hasking]

/-- An answer of the operator keeps the port sound.  Kind: L -/
theorem Sound.answer {check : SignatureCheck} {s : PortState} (h : Sound check s) {approved : Bool}
    {txid : String} (hpossible : s.Possible (.answer approved txid))
    (hgentle : s.Gentle (.answer approved txid)) :
    Sound check (s.step check (.answer approved txid)) := by
  obtain ⟨hpending, hpermissions, hnew⟩ := hpossible
  cases hasking : s.asking with
  | none => simpa only [step, hasking] using h
  | some r =>
      rw [step_answer hasking]
      have hanswered := closeRequest_answered approved (h.asked r hasking).1
        hpending hpermissions
      generalize (Port.closeRequest r txid approved).after s.view = w at hanswered
      cases hanswered with
      | idle _ _ hclock hpairing hpermissions' =>
          refine h.shrink hclock.ge (fun x t ht => hpairing ▸ ht)
            (fun x p hp => hpermissions' ▸ hp) (congrArg PairingManager.grants hpairing)
            (fun _ hr => absurd hr (Option.not_mem_none _)) (fun a ha => ?_) ?_ rfl
          · cases approved
            · exact ha
            · exact List.mem_cons_of_mem _ ha
          · cases approved
            · exact h.ledger.2.1
            · refine List.nodup_cons.mpr ⟨fun hmem => ?_, h.ledger.2.1⟩
              obtain ⟨a, ha, heq⟩ := List.mem_map.mp hmem
              exact hnew a ha heq
      | begun t _ hclock ht hpairing hpermissions' =>
          exact h.begin hasking (hgentle r hasking) hnew hclock ht hpairing hpermissions' rfl rfl
            rfl

/-- What the answer to an elevation leaves: nothing but a grant of the caller is touched.
Kind: L -/
theorem closeElevation_after (v : HostView PairingPort) (r : CapabilityElevationRequest)
    (grant : PairingManager.PeerGrant) (approved : Bool) :
    ∃ d, ((Port.closeElevation r grant approved).after v).clock = v.clock ∧
      ((Port.closeElevation r grant approved).after v).host.pairing =
        { v.host.pairing with grants := d } ∧
      ((Port.closeElevation r grant approved).after v).host.pendingPermissions =
        v.host.pendingPermissions ∧
      (d = v.host.pairing.grants ∨
        approved = true ∧ (d = v.host.pairing.grants.insert r.callerNodeId grant ∨
          d = v.host.pairing.grants.insert r.callerNodeId
            (Port.elevated grant r.permissions))) := by
  obtain ⟨result, w, hrun, helevation⟩ := Port.closeElevation_spec v r grant approved
  rw [PyM.after_of_attempt hrun]
  cases helevation with
  | declined => exact ⟨_, rfl, rfl, rfl, .inl rfl⟩
  | unsaved => exact ⟨_, rfl, rfl, rfl, .inr ⟨rfl, .inl rfl⟩⟩
  | unrefreshed => exact ⟨_, rfl, rfl, rfl, .inr ⟨rfl, .inr rfl⟩⟩
  | elevated => exact ⟨_, rfl, rfl, rfl, .inr ⟨rfl, .inr rfl⟩⟩

/-- A grant is written for a caller whose repair is not under way.  Kind: L -/
theorem Sound.rewrite {check : SignatureCheck} {s s' : PortState} (h : Sound check s)
    {caller : NodeId} {grant : PairingManager.PeerGrant} (hidle : ¬s.Repairing caller)
    (hsecret : validSecret grant.secret = true)
    (hknown : PermissionItem.texts grant.permissions ⊆ knownPermissions)
    (hclock : s'.view.clock = s.view.clock)
    (hpairing : s'.view.host.pairing = { s.view.host.pairing with
      grants := s.view.host.pairing.grants.insert caller grant })
    (hpermissions : s'.view.host.pendingPermissions = s.view.host.pendingPermissions)
    (hasking : s'.asking = s.asking) (happrovals : s'.approvals = s.approvals)
    (hgranted : s'.granted = s.granted) : Sound check s' := by
  have hpending : s'.view.host.pairing.pending = s.view.host.pairing.pending := by rw [hpairing]
  have hgrants : s'.grants = s.grants.insert caller grant := by unfold grants; rw [hpairing]
  have hsame : ∀ {x t p}, Confirmable s'.view x t p → Confirmable s.view x t p := by
    rintro x t p ⟨ht, hp⟩
    exact ⟨hpending ▸ ht, hpermissions ▸ hp⟩
  refine ⟨?_, ?_, ?_, ?_, fun r hr => ?_, ?_, ?_⟩
  · intro x t p hc
    rw [happrovals]
    exact h.covered x t p (hsame hc)
  · intro x t p hc
    rw [hgranted]
    exact h.unspent x t p (hsame hc)
  · intro x x' t t' p p' hc hc' hlive hlive' hpeer
    rw [hclock] at hlive hlive'
    exact h.alone x x' t t' p p' (hsame hc) (hsame hc') hlive hlive' hpeer
  · intro x t p g hc hlive hg
    rw [hclock] at hlive
    have hne : caller ≠ t.peerId := fun heq =>
      hidle (.inr ⟨x, t, p, (hsame hc).1, (hsame hc).2, heq.symm, hlive⟩)
    rw [hgrants, Dict.get?_insert_of_ne _ _ hne] at hg
    exact h.justified x t p g (hsame hc) hlive hg
  · rw [hasking] at hr
    obtain ⟨hnone, hrepair⟩ := h.asked r hr
    have hne : caller ≠ r.callerNodeId := fun heq => hidle (.inl ⟨r, hr, heq.symm⟩)
    refine ⟨PairingManager.findPendingFor_eq_none.mpr fun x t ht hpeer hlive => ?_, fun g hg => ?_⟩
    · rw [hpending] at ht
      rw [hclock] at hlive
      exact PairingManager.findPendingFor_eq_none.mp hnone x t ht hpeer hlive
    · rw [hgrants, Dict.get?_insert_of_ne _ _ hne] at hg
      exact hrepair g hg
  · rw [happrovals, hgranted]
    exact h.ledger
  · intro x g hg
    have hnew : s'.grants.get? x = some g := hg
    rw [hgrants, Dict.get?_insert] at hnew
    split at hnew
    · cases hnew
      exact ⟨hsecret, hknown⟩
    · exact h.valid x g hnew

/-- A decision on an elevation is a step of the port.  Kind: L -/
theorem step_decided {check : SignatureCheck} {s : PortState} {i : ℕ}
    {r : CapabilityElevationRequest} {grant : PairingManager.PeerGrant}
    (hi : s.elevating[i]? = some (r, grant)) (approved : Bool) :
    s.step check (.decided i approved) = { s with
      view := (Port.closeElevation r grant approved).after s.view
      elevating := s.elevating.eraseIdx i } := by
  simp only [step, hi]

/-- What a gentle answer to an elevation does: it rewrites the permissions of a grant, or
nothing.  Kind: L -/
theorem decided_spec (check : SignatureCheck) {s : PortState} {i : ℕ} {approved : Bool}
    (hgentle : s.Gentle (.decided i approved)) :
    (s.step check (.decided i approved)).grants = s.grants ∧
        (Sound check s → Sound check (s.step check (.decided i approved))) ∨
      ∃ caller grant after, s.grants.get? caller = some grant ∧ after.secret = grant.secret ∧
        (s.step check (.decided i approved)).grants = s.grants.insert caller after ∧
        (Sound check s → Sound check (s.step check (.decided i approved))) := by
  cases hi : s.elevating[i]? with
  | none =>
      have hstep : s.step check (.decided i approved) = s := by simp only [step, hi]
      rw [hstep]
      exact .inl ⟨rfl, id⟩
  | some entry =>
      obtain ⟨r, grant⟩ := entry
      rw [step_decided hi]
      obtain ⟨d, hclock, hpairing, hpermissions, hd⟩ :=
        closeElevation_after s.view r grant approved
      generalize (Port.closeElevation r grant approved).after s.view = w
        at hclock hpairing hpermissions
      rcases hd with rfl | ⟨rfl, hd⟩
      · refine .inl ⟨congrArg PairingManager.grants hpairing, fun h => ?_⟩
        exact h.shrink hclock.ge (fun x t ht => by rw [hpairing] at ht; exact ht)
          (fun x p hp => hpermissions ▸ hp) (congrArg PairingManager.grants hpairing)
          (fun _ hr => hr) (fun _ ha => ha) h.ledger.2.1 rfl
      · obtain ⟨hgrant, hidle⟩ := hgentle r grant hi
        right
        rcases hd with rfl | rfl
        · refine ⟨r.callerNodeId, grant, grant, hgrant, rfl,
            congrArg PairingManager.grants hpairing, fun h => ?_⟩
          obtain ⟨hsecret, hknown⟩ := h.valid _ _ hgrant
          exact h.rewrite hidle hsecret hknown hclock hpairing hpermissions rfl rfl rfl
        · refine ⟨r.callerNodeId, grant, Port.elevated grant r.permissions, hgrant, rfl,
            congrArg PairingManager.grants hpairing, fun h => ?_⟩
          have hsecret : validSecret (Port.elevated grant r.permissions).secret = true :=
            (h.valid _ _ hgrant).1
          exact h.rewrite hidle hsecret (Port.texts_known _) hclock hpairing hpermissions rfl rfl
            rfl

/-- A possible and gentle step keeps the invariant.  Kind: L -/
theorem Sound.step {check : SignatureCheck} {s : PortState} {e : PortEvent} (h : Sound check s)
    (hpossible : s.Possible e) (hgentle : s.Gentle e) : Sound check (s.step check e) := by
  cases e with
  | tick now =>
      exact h.shrink hpossible (fun _ _ ht => ht) (fun _ _ hp => hp) rfl (fun _ hr => hr)
        (fun _ ha => ha) h.ledger.2.1 rfl
  | request r =>
      unfold PortState.step
      dsimp only
      split
      · exact h
      · split
        · rename_i hadmission
          exact { h with
            asked := fun q hq => by
              obtain rfl : r = q := Option.some.inj hq
              exact admission_asked hadmission }
        · exact h
  | answer approved txid => exact h.answer hpossible hgentle
  | control r => exact h.control r
  | elevation r =>
      unfold PortState.step
      dsimp only
      split
      · exact { h with }
      · exact h
  | decided i approved =>
      rcases decided_spec check hgentle with ⟨-, hkeep⟩ | ⟨_, _, _, -, -, -, hkeep⟩
      · exact hkeep h
      · exact hkeep h

/-! ## What a run never does -/

/-- What a control does to the grants of a sound port.  Kind: L -/
theorem Sound.grants_control {check : SignatureCheck} {s : PortState} (h : Sound check s)
    (r : PairingControlRequest) :
    (s.step check (.control r)).grants = s.grants ∨
      ∃ t permissions a, a ∈ s.approvals ∧ Made a r.transactionId t permissions ∧
        (∀ old, s.grants.get? t.peerId = some old →
          t.intent = .repair ∧ VerifiedUnder check old t.toMaterial) ∧
        (s.step check (.control r)).grants =
          s.grants.insert t.peerId (PairingManager.grantOf t permissions) := by
  obtain ⟨b, w, hrun, hhandled⟩ := h.handled r
  rw [step_control hrun]
  cases hhandled with
  | idle w hclock hpairing hpermissions =>
      exact .inl (congrArg PairingManager.grants hpairing)
  | dropped b w hop hclock hpairing hpermissions =>
      left
      show w.host.pairing.grants = s.view.host.pairing.grants
      rw [hpairing]
      rfl
  | granted t permissions w hclock haddresses hop hlive hpairing hpermissions =>
      have hc : Confirmable s.view r.transactionId t permissions :=
        ⟨haddresses.found, haddresses.allowed⟩
      obtain ⟨a, ha, hmade⟩ := h.covered _ _ _ hc
      exact .inr ⟨t, permissions, a, ha, hmade, fun old hold => h.justified _ _ _ old hc hlive hold,
        congrArg PairingManager.grants hpairing⟩

/-- An answer to a request touches no grant.  Kind: L -/
theorem Sound.grants_answer {check : SignatureCheck} {s : PortState} (h : Sound check s)
    {approved : Bool} {txid : String} (hpossible : s.Possible (.answer approved txid)) :
    (s.step check (.answer approved txid)).grants = s.grants := by
  obtain ⟨hpending, hpermissions, -⟩ := hpossible
  cases hasking : s.asking with
  | none => simp only [PortState.step, hasking]
  | some r =>
      rw [step_answer hasking]
      have hanswered := closeRequest_answered approved (h.asked r hasking).1 hpending hpermissions
      generalize (Port.closeRequest r txid approved).after s.view = w at hanswered
      cases hanswered with
      | idle _ _ hclock hpairing => exact congrArg PairingManager.grants hpairing
      | begun t _ hclock ht hpairing =>
          show w.host.pairing.grants = s.view.host.pairing.grants
          rw [hpairing]

/-- A step that is no control keeps every secret, and makes no grant for a new caller.  Kind: L -/
theorem Sound.quiet {check : SignatureCheck} {s : PortState} (h : Sound check s) {e : PortEvent}
    (hpossible : s.Possible e) (hgentle : s.Gentle e) (hcontrol : ∀ r, e ≠ .control r)
    (caller : NodeId) :
    ((s.step check e).grants.get? caller).map (·.secret) =
      (s.grants.get? caller).map (·.secret) := by
  cases e with
  | tick now => rfl
  | request r =>
      unfold PortState.step
      dsimp only
      split
      · rfl
      · split <;> rfl
  | answer approved txid => rw [h.grants_answer hpossible]
  | control r => exact absurd rfl (hcontrol r)
  | elevation r =>
      unfold PortState.step
      dsimp only
      split <;> rfl
  | decided i approved =>
      rcases decided_spec check hgentle with ⟨heq, -⟩ | ⟨x, grant, after, hold, hsame, heq, -⟩
      · rw [heq]
      · rw [heq, Dict.get?_insert]
        split
        · rename_i hx
          subst hx
          rw [hold]
          exact congrArg some hsame
        · rfl

/-- A step of a sound port keeps its integrity.  Kind: L -/
theorem Sound.integrity {check : SignatureCheck} {s : PortState} {e : PortEvent}
    (h : Sound check s) (hpossible : s.Possible e) (hgentle : s.Gentle e) :
    Integrity check s e where
  created := by
    rintro r rfl caller g hg hnew
    rcases h.grants_control r with heq | ⟨t, permissions, a, ha, hmade, -, heq⟩
    · rw [heq] at hg
      exact absurd hg hnew
    · rw [heq, Dict.get?_insert] at hg
      split at hg
      · rename_i hcaller
        cases hg
        refine ⟨a, ha, hmade.approvalId, hmade.peer.symm.trans hcaller, hmade.secret,
          hmade.material, hmade.permissions, ?_⟩
        show PermissionItem.texts permissions ⊆ _
        rw [hmade.permissions, texts_permissionValues]
        exact Finset.image_subset_image a.request.readOnly
      · exact absurd hg hnew
  nowhereElse hcontrol caller hnone := by
    have hkeep := h.quiet hpossible hgentle hcontrol caller
    rw [hnone] at hkeep
    exact Option.map_eq_none_iff.mp hkeep
  once := (h.step hpossible hgentle).ledger
  replaced := by
    intro caller old g hold hg hne
    by_cases hcontrol : ∃ r, e = .control r
    · obtain ⟨r, rfl⟩ := hcontrol
      rcases h.grants_control r with heq | ⟨t, permissions, a, ha, hmade, hrepair, heq⟩
      · rw [heq, hold] at hg
        cases hg
        exact absurd rfl hne
      · rw [heq, Dict.get?_insert] at hg
        split at hg
        · rename_i hcaller
          cases hg
          subst hcaller
          obtain ⟨hintent, hverified⟩ := hrepair old hold
          exact ⟨r, rfl, a, ha, hmade.approvalId, hmade.peer.symm, hmade.secret.symm,
            hmade.intent ▸ hintent, hmade.material ▸ hverified⟩
        · rw [hold] at hg
          cases hg
          exact absurd rfl hne
    · have hkeep := h.quiet hpossible hgentle (fun r hr => hcontrol ⟨r, hr⟩) caller
      rw [hold, hg] at hkeep
      exact absurd (Option.some.inj hkeep) hne

/-- In every run of one lifetime that starts without a confirmable transaction, in which approved
secrets are ones the service accepts and elevations are granted to the grant they read, outside a
repair: a grant comes from an approved request, once, and a secret is only replaced by a repair
that proved the stored root.  Kind: P -/
theorem port_integrity {check : SignatureCheck} {events : List PortEvent} {s : PortState}
    (hinitial : s.Initial) (hrun : GentleRun check events s) : IntegrityRun check events s := by
  have hsound : Sound check s := hinitial.sound
  clear hinitial
  induction events generalizing s with
  | nil => trivial
  | cons e rest ih =>
      obtain ⟨hpossible, hgentle, hrest⟩ := hrun
      exact ⟨hsound.integrity hpossible hgentle, ih hrest (hsound.step hpossible hgentle)⟩

/-! ## A repair, and an elevation -/

/-- A proof names its root. -/
def namesRoot : SignatureCheck := fun root _ _ _ proof => proof = "signed by " ++ root

/-- The caller. -/
def heldCaller : NodeId := ⟨"caller", by decide⟩

/-- The grant that the port was loaded with. -/
def heldGrant : PairingManager.PeerGrant where
  identityFingerprint := some (.text "caller identity")
  transportFingerprint := some (.text "caller transport")
  rootPublicKey := some "caller root"
  transportGeneration := some 1
  transportProof := some "signed by caller root"
  callerId := heldCaller
  secret := "00112233445566778899aabbccddeeff00112233445566778899aabbccddeeff"
  permissions := permissionValues {.readState}

/-- A port with one grant. -/
def heldPort : PortState where
  view :=
    { auth := ⟨true, Dict.empty, [], 0, ⟨none, none, none⟩⟩
      clock := 0
      host :=
        { nodeId := .named "target"
          pairing := { PairingManager.new (.named "target") with
            grants := Dict.empty.insert heldCaller heldGrant }
          pendingPermissions := Dict.empty
          service := true
          clusterCapabilityGrants := []
          clusterText := ""
          disk := ⟨⟨[heldGrant], [], []⟩, ""⟩
          saves := fun _ => ⟨true, true⟩ } }
  asking := none
  elevating := []
  approvals := []
  granted := []

/-- The caller asks for a new secret, and proves its root. -/
def repairRequest : PairingRequest where
  callerNodeId := heldCaller
  identityFingerprint := .text "caller identity"
  transportFingerprint := .text "caller transport"
  proposedSecret := "ffeeddccbbaa99887766554433221100ffeeddccbbaa99887766554433221100"
  permissions := {.readState}
  rootPublicKey := some "caller root"
  transportGeneration := some 1
  transportProof := some "signed by caller root"
  intent := .repair
  identityPresent := by decide
  transportPresent := by decide
  secretValid := by decide +kernel
  readOnly := subset_rfl

/-- It confirms the repair. -/
def repairConfirm : PairingControlRequest where
  operation := .confirm
  transactionId := "repair"
  callerNodeId := heldCaller
  identityFingerprint := "caller identity"
  transportFingerprint := "caller transport"
  secret := repairRequest.proposedSecret
  permissions := {.readState}
  expiresAt := 300

/-- With the old secret it asks for more. -/
def elevationRequest : CapabilityElevationRequest where
  callerNodeId := heldCaller
  identityFingerprint := .text "caller identity"
  transportFingerprint := .text "caller transport"
  currentSecret := heldGrant.secret
  proposedSecret := heldGrant.secret
  permissions := {.remoteManagement}
  identityPresent := by decide
  transportPresent := by decide
  currentValid := by decide +kernel
  proposedValid := by decide +kernel
  nonempty := by decide

/-- A repair from beginning to end. -/
def repairRun : List PortEvent :=
  [.request repairRequest, .answer true "repair", .control repairConfirm]

/-- The port of the sample is new.  Kind: L -/
theorem heldPort_initial : heldPort.Initial := by
  refine ⟨rfl, rfl, rfl, rfl, fun txid => .inl rfl, fun caller g hg => ?_⟩
  have hget : (Dict.empty.insert heldCaller heldGrant).get? caller = some g := hg
  rw [Dict.get?_insert] at hget
  split at hget
  · cases hget
    exact ⟨by decide +kernel, by decide +kernel⟩
  · cases hget

/-- A repair keeps every promise. -/
theorem port_integrity_repair : IntegrityRun namesRoot repairRun heldPort := by
  refine port_integrity heldPort_initial
    ⟨trivial, trivial, ⟨?_, ?_, ?_⟩, ?_, trivial, trivial, trivial⟩
  · decide +kernel
  · decide +kernel
  · decide +kernel
  · intro r hr
    have hvalid : (heldPort.step namesRoot (.request repairRequest)).asking.all
        (fun r => validSecret r.proposedSecret) = true := by decide +kernel
    rwa [Option.mem_def.mp hr] at hvalid

/-- An elevation that was asked for before the repair and is granted after it. -/
def revertingRun : List PortEvent := .elevation elevationRequest :: repairRun ++ [.decided 0 true]

/-- The elevation writes the old secret back. -/
theorem elevation_reverts_repair :
    heldPort.Initial ∧ PossibleRun namesRoot revertingRun heldPort ∧
      ¬IntegrityRun namesRoot revertingRun heldPort := by
  refine ⟨heldPort_initial, ⟨trivial, trivial, ⟨?_, ?_, ?_⟩, trivial, trivial, trivial⟩, ?_⟩
  · decide +kernel
  · decide +kernel
  · decide +kernel
  · rintro ⟨-, -, -, -, hdecided, -⟩
    have hbefore : ((((((heldPort.step namesRoot (.elevation elevationRequest)).step namesRoot
        (.request repairRequest)).step namesRoot (.answer true "repair")).step namesRoot
        (.control repairConfirm)).grants.get? heldCaller).map (·.secret)) =
        some repairRequest.proposedSecret := by decide +kernel
    have hafter : (((((((heldPort.step namesRoot (.elevation elevationRequest)).step namesRoot
        (.request repairRequest)).step namesRoot (.answer true "repair")).step namesRoot
        (.control repairConfirm)).step namesRoot (.decided 0 true)).grants.get?
        heldCaller).map (·.secret)) = some heldGrant.secret := by decide +kernel
    obtain ⟨old, hold, hsecret⟩ := Option.map_eq_some_iff.mp hbefore
    obtain ⟨g, hg, hsecret'⟩ := Option.map_eq_some_iff.mp hafter
    have hne : g.secret ≠ old.secret := by
      rw [hsecret, hsecret']
      decide +kernel
    obtain ⟨r, hcontrol, -⟩ := hdecided.replaced heldCaller old g hold hg hne
    cases hcontrol

end PortState

end ExpraConnect
