import ExpraConnect.Pairing.Server
import ExpraConnect.Pairing.TargetRuns

/-!
# Failed saves and elevations at the pairing port

What a handler of the port leaves behind when a save fails, and what an elevation leaves of the
grant that it replaces.  An operator answers at once: nothing else happens at the port meanwhile.

* `PortOp`: the operations that save, `PortOp.Unsaved`: one reports failure because a save did;
* `restored_iff`: the operation then leaves the pairing tables as they were, unless it is a
  `pair_abort`, which has no rollback; `abort_not_restored`;
* `elevated_frame_iff`: an elevation changes the permissions only, if and only if the grant had
  neither root nor generation nor proof; `continuous_elevated`: a caller that is elevated cannot
  prove its root any more; `elevation_drops_root`.
-/

namespace ExpraConnect

open ExpraConnect.Lib

namespace Port

/-! ## Whole operations -/

/-- With the operator's answer.  Source: `runtime/core.py`, `_handle_elevation_request`.  Kind: D -/
def handleElevationRequest (r : CapabilityElevationRequest) (approved : Bool) : PortM Bool := do
  let v ← get
  match ← PyM.ofExcept (openElevation v.host r) with
  | none => return false
  | some grant => closeElevation r grant approved

/-- What an operation reports. -/
inductive PortReport where
  /-- The response to a request. -/
  | response (fields : Fields)
  /-- A handler returned this. -/
  | answer (b : Bool)
  /-- `approve_pairing` returned a grant. -/
  | grant (g : PairingManager.PeerGrant)

/-- An operation of the port that saves. -/
inductive PortOp where
  /-- `handle_pairing_request`, with the operator's answer and the id that `begin` would draw -/
  | request (h : Handling) (r : PairingRequest)
  /-- `_handle_pairing_control` -/
  | control (r : PairingControlRequest)
  /-- `approve_pairing` -/
  | approve (txid : String) (permissions : Finset PermissionItem)
  /-- `_handle_elevation_request` -/
  | elevation (r : CapabilityElevationRequest) (approved : Bool)

namespace PortOp

/-- The operation. -/
def run (check : SignatureCheck) : PortOp → PortM PortReport
  | .request h r => do return .response (← handlePairingRequest check h r)
  | .control r => do return .answer (← handlePairingControl r)
  | .approve txid permissions => do return .grant (← approvePairing txid permissions)
  | .elevation r approved => do return .answer (← handleElevationRequest r approved)

/-- The transaction id of a request is one that `uuid4` draws: nothing has it yet. -/
def Fresh (v : HostView PairingPort) : PortOp → Prop
  | .request h _ =>
      v.host.pairing.pending.get? h.txid = none ∧ v.host.pendingPermissions.get? h.txid = none
  | _ => True

/-- The operation reports failure because a save returned `False`: a request is answered with
`persistence_failed`, an approval raises `PersistenceError`, an elevation that the operator wants
and a control that names its transaction return `False`, a confirmation not because
`approve_pairing` raised another error.  Kind: D -/
def Unsaved (check : SignatureCheck) (v : HostView PairingPort) : PortOp → Prop
  | .request h r =>
      ∃ w, handlePairingRequest check h r v = .ok (refusal "persistence_failed") w
  | .control r =>
      (∃ pending expected, Addresses v r pending expected) ∧
        (∃ w, handlePairingControl r v = .ok false w) ∧
        (r.operation = .confirm → ∀ expected,
          v.host.pendingPermissions.get? r.transactionId = some expected →
            ∀ e w, approvePairing r.transactionId expected v = .error e w → e.kind = .runtime)
  | .approve txid permissions =>
      ∃ w, approvePairing txid permissions v =
        .error ⟨.runtime, "pairing approval was not durably persisted"⟩ w
  | .elevation r approved =>
      approved = true ∧ (∃ grant, openElevation v.host r = .ok (some grant)) ∧
        ∃ w, handleElevationRequest r approved v = .ok false w

end PortOp

/-- The pairing tables of `w` are those of `v`.  Kind: D -/
structure Restored (v w : HostView PairingPort) : Prop where
  /-- `trusted` -/
  trusted : w.host.pairing.trusted = v.host.pairing.trusted
  /-- `grants` -/
  grants : w.host.pairing.grants = v.host.pairing.grants
  /-- `pending` -/
  pending : w.host.pairing.pending = v.host.pairing.pending
  /-- `_auth_broken` -/
  authBroken : w.host.pairing.authBroken = v.host.pairing.authBroken
  /-- `_pending_permissions`, whose order nobody reads -/
  permissions : ∀ txid, w.host.pendingPermissions.get? txid = v.host.pendingPermissions.get? txid

/-- What leaves manager and permissions alone restores them.  Kind: L -/
theorem Restored.of_same {v w : HostView PairingPort} (hpairing : w.host.pairing = v.host.pairing)
    (hpermissions : ∀ txid,
      w.host.pendingPermissions.get? txid = v.host.pendingPermissions.get? txid) :
    Restored v w :=
  ⟨congrArg PairingManager.trusted hpairing, congrArg PairingManager.grants hpairing,
    congrArg PairingManager.pending hpairing, congrArg PairingManager.authBroken hpairing,
    hpermissions⟩

/-- The operation is a `pair_abort` that names its transaction, and its save returns `False`. -/
def PortOp.DropsUnsaved (v : HostView PairingPort) (op : PortOp) : Prop :=
  ∃ r pending expected, op = .control r ∧ r.operation = .abort ∧ Addresses v r pending expected ∧
    v.host.saveReport = false

/-! ## Rollbacks -/

section

variable {check : SignatureCheck} {v w : HostView PairingPort}

/-- A control that names its transaction does what it says.  Kind: L -/
theorem handlePairingControl_of_addresses {r : PairingControlRequest} {pending : PendingPairing}
    {expected : Finset PermissionItem} (h : Addresses v r pending expected) :
    handlePairingControl r v =
      match r.operation with
      | .abort => .ok v.host.saveReport (afterSave (drop v r.transactionId))
      | .confirm => confirmPending r.transactionId expected v := by
  simp only [handlePairingControl, PyM.bind_apply, PyM.get_apply, h.found, h.allowed, h.matched,
    if_true]
  cases r.operation <;> rfl

/-- An approval that could not be saved is taken back.  Kind: L -/
theorem restored_of_approvePairing {txid : String} {permissions : Finset PermissionItem}
    {e : PyError} (hrun : approvePairing txid permissions v = .error e w)
    (he : e.kind = .runtime) : Restored v w := by
  obtain ⟨happroval, -⟩ := confirmPending_of_error hrun
  cases happroval with
  | refused _ hvalue => cases he.symm.trans hvalue
  | unsaved grant m hm hreport => exact .of_same rfl fun _ => rfl
  | unrefreshed grant m _ hm hreport hrefresh =>
      cases he.symm.trans (refreshed_eq_error hrefresh)

/-- A confirmation that `approve_pairing` did not refuse puts everything back.  Kind: L -/
theorem restored_of_confirmPending {txid : String} {expected : Finset PermissionItem}
    (hallowed : v.host.pendingPermissions.get? txid = some expected)
    (hrun : confirmPending txid expected v = .ok false w)
    (hreason : ∀ e w, approvePairing txid expected v = .error e w → e.kind = .runtime) :
    Restored v w := by
  cases happrove : approvePairing txid expected v with
  | error e w₁ =>
      have hrefused := (confirmPending_of_error happrove).2
      obtain ⟨-, rfl⟩ := EStateM.Result.ok.inj (hrefused.symm.trans hrun)
      exact restored_of_approvePairing happrove (hreason e w₁ happrove)
  | ok grant w₁ =>
      have hconfirm := (confirmPending_of_ok happrove).2
      cases hreport : (drop w₁ txid).host.saveReport with
      | true =>
          rw [hreport, if_pos rfl] at hconfirm
          cases hconfirm.symm.trans hrun
      | false =>
          rw [hreport, if_neg Bool.false_ne_true] at hconfirm
          obtain ⟨-, rfl⟩ := EStateM.Result.ok.inj (hconfirm.symm.trans hrun)
          refine .of_same rfl fun txid' => ?_
          show ((v.host.pendingPermissions.erase txid).insert txid expected).get? txid' = _
          by_cases htxid : txid = txid'
          · rw [← htxid, Dict.get?_insert_self, hallowed]
          · rw [Dict.get?_insert_of_ne _ _ htxid, Dict.get?_erase_of_ne _ htxid]

/-- The outcomes of a refusal tell why.  Kind: L -/
theorem refusal_inj {a b : String} (h : refusal a = refusal b) : a = b := by
  simp only [refusal, List.cons.injEq, Prod.mk.injEq, Value.str.injEq, true_and, and_true] at h
  exact h

/-- A response is no refusal.  Kind: L -/
theorem pairingResponse_ne_refusal {pending : PendingPairing} {outcome : String} :
    pairingResponse pending v ≠ .ok (refusal outcome) w := by
  intro h
  simp only [pairingResponse, PyM.bind_apply, PyM.get_apply] at h
  cases hpermissions : v.host.pendingPermissions.get? pending.transactionId with
  | none =>
      rw [hpermissions] at h
      cases h
  | some permissions =>
      rw [hpermissions] at h
      cases h

/-- A request that could not be saved is taken back.  Kind: L -/
theorem restored_of_handlePairingRequest {h : Handling} {r : PairingRequest}
    (hpending : v.host.pairing.pending.get? h.txid = none)
    (hpermissions : v.host.pendingPermissions.get? h.txid = none)
    (hrun : handlePairingRequest check h r v = .ok (refusal "persistence_failed") w) :
    Restored v w := by
  unfold handlePairingRequest at hrun
  split at hrun
  · obtain ⟨hresponse, -⟩ := EStateM.Result.ok.inj hrun
    exact absurd (refusal_inj hresponse) (by decide)
  · simp only [PyM.bind_apply, PyM.get_apply] at hrun
    cases hadmission : admission check v.host v.clock r with
    | refused outcome =>
        rw [hadmission] at hrun
        obtain ⟨-, rfl⟩ := EStateM.Result.ok.inj hrun
        exact .of_same rfl fun _ => rfl
    | repeated pending =>
        rw [hadmission] at hrun
        exact absurd hrun pairingResponse_ne_refusal
    | asked =>
        rw [hadmission] at hrun
        have hfree := (PortState.admission_asked hadmission).1
        obtain ⟨response, w', hclose, hclosing⟩ := closeRequest_spec v r h.txid h.approved
        obtain ⟨hresponse, rfl⟩ := EStateM.Result.ok.inj (hclose.symm.trans hrun)
        generalize h.approved = approved at hclosing
        cases hclosing with
        | denied => exact .of_same rfl fun _ => rfl
        | busy => exact .of_same rfl fun _ => rfl
        | unsaved pending m hbegin =>
            obtain ⟨hpairing, hperms⟩ := drop_begun hfree hpending hpermissions hbegin
            exact .of_same hpairing fun txid => by rw [hperms]
        | begun pending m _ hbegin hanswer =>
            rw [hresponse] at hanswer
            exact absurd hanswer pairingResponse_ne_refusal

/-- The grant that the operator decides about is the caller's.  Kind: L -/
theorem openElevation_eq_some {p : PairingPort} {r : CapabilityElevationRequest}
    {grant : PairingManager.PeerGrant} (h : openElevation p r = .ok (some grant)) :
    p.pairing.grants.get? r.callerNodeId = some grant := by
  unfold openElevation at h
  split at h
  · cases h
  · rename_i found hfound
    obtain ⟨same, -, h⟩ := Except.bind_eq_ok.mp h
    split at h
    · obtain rfl := Option.some.inj (Except.ok.inj h)
      exact hfound
    · cases h

/-- An elevation that could not be saved gives the caller its grant back.  Kind: L -/
theorem restored_of_handleElevationRequest {r : CapabilityElevationRequest}
    (hrun : handleElevationRequest r true v = .ok false w) : Restored v w := by
  unfold handleElevationRequest at hrun
  simp only [PyM.bind_apply, PyM.get_apply, PyM.ofExcept_apply] at hrun
  cases hopen : openElevation v.host r with
  | error e =>
      rw [hopen] at hrun
      cases hrun
  | ok found =>
      rw [hopen] at hrun
      cases found with
      | none =>
          obtain ⟨-, rfl⟩ := EStateM.Result.ok.inj hrun
          exact .of_same rfl fun _ => rfl
      | some grant =>
          have hstored := openElevation_eq_some hopen
          obtain ⟨result, w', hattempt, helevation⟩ := closeElevation_spec v r grant true
          simp only [PyM.attempt] at hattempt
          dsimp only at hrun
          rw [hrun] at hattempt
          obtain ⟨rfl, rfl⟩ := EStateM.Result.ok.inj hattempt
          cases helevation with
          | unsaved hreport =>
              refine .of_same ?_ fun _ => rfl
              show ({ v.host.pairing with grants := _ } : PairingManager) = v.host.pairing
              rw [Dict.insert_of_get? hstored]

/-- A `pair_abort` whose save returns `False` reports it.  Kind: L -/
theorem PortOp.DropsUnsaved.unsaved {op : PortOp} (h : op.DropsUnsaved v) :
    op.Unsaved check v := by
  obtain ⟨r, pending, expected, rfl, hop, haddresses, hreport⟩ := h
  refine ⟨⟨pending, expected, haddresses⟩, ⟨afterSave (drop v r.transactionId), ?_⟩,
    fun hconfirm => by cases hop.symm.trans hconfirm⟩
  rw [handlePairingControl_of_addresses haddresses, hop, hreport]

/-- Its transaction is gone all the same.  Kind: L -/
theorem PortOp.DropsUnsaved.not_restored {op : PortOp} (h : op.DropsUnsaved v) :
    ¬Restored v ((op.run check).after v) := by
  obtain ⟨r, pending, expected, rfl, hop, haddresses, hreport⟩ := h
  have hrun : (PortOp.run check (.control r)) v =
      .ok (.answer false) (afterSave (drop v r.transactionId)) := by
    simp only [PortOp.run, PyM.bind_apply, handlePairingControl_of_addresses haddresses, hop,
      hreport]
    rfl
  intro hrestored
  have hpending := hrestored.pending
  rw [PyM.after_of_ok hrun] at hpending
  have hgone : (v.host.pairing.pending.erase r.transactionId).get? r.transactionId =
      v.host.pairing.pending.get? r.transactionId := congrArg (·.get? r.transactionId) hpending
  rw [Dict.get?_erase_self, haddresses.found] at hgone
  cases hgone

/-- **Rollback.**  An operation that reports failure because a save returned `False` leaves the
pairing tables as they were, whatever the state and the saves, if and only if it is no `pair_abort`
of its transaction.  Source: `runtime/core.py`, `_handle_pairing_control_locked`,
`_handle_elevation_request` and `approve_pairing`; `pairing/target.py`,
`_handle_pairing_request_locked`.  Kind: P -/
theorem restored_iff {op : PortOp} (hfresh : op.Fresh v) :
    (op.Unsaved check v → Restored v ((op.run check).after v)) ↔ ¬op.DropsUnsaved v := by
  constructor
  · intro h hdrops
    exact hdrops.not_restored (h hdrops.unsaved)
  · intro hkeeps hunsaved
    cases op with
    | request h r =>
        obtain ⟨w, hrun⟩ := hunsaved
        have hafter : (PortOp.run check (.request h r)) v =
            .ok (.response (refusal "persistence_failed")) w := by
          simp only [PortOp.run, PyM.bind_apply, hrun]
          rfl
        rw [PyM.after_of_ok hafter]
        exact restored_of_handlePairingRequest hfresh.1 hfresh.2 hrun
    | control r =>
        obtain ⟨⟨pending, expected, haddresses⟩, ⟨w, hrun⟩, hreason⟩ := hunsaved
        have hafter : (PortOp.run check (.control r)) v = .ok (.answer false) w := by
          simp only [PortOp.run, PyM.bind_apply, hrun]
          rfl
        rw [PyM.after_of_ok hafter]
        have hdoes := handlePairingControl_of_addresses haddresses
        cases hop : r.operation with
        | abort =>
            rw [hop] at hdoes
            obtain ⟨hreport, -⟩ := EStateM.Result.ok.inj (hdoes.symm.trans hrun)
            exact absurd ⟨r, pending, expected, rfl, hop, haddresses, hreport⟩ hkeeps
        | confirm =>
            rw [hop] at hdoes
            exact restored_of_confirmPending haddresses.allowed (hdoes.symm.trans hrun)
              (hreason hop expected haddresses.allowed)
    | approve txid permissions =>
        obtain ⟨w, hrun⟩ := hunsaved
        have hafter : (PortOp.run check (.approve txid permissions)) v =
            .error ⟨.runtime, "pairing approval was not durably persisted"⟩ w := by
          simp only [PortOp.run, PyM.bind_apply, hrun]
        rw [PyM.after_of_error hafter]
        exact restored_of_approvePairing hrun rfl
    | elevation r approved =>
        obtain ⟨rfl, -, w, hrun⟩ := hunsaved
        have hafter : (PortOp.run check (.elevation r true)) v = .ok (.answer false) w := by
          simp only [PortOp.run, PyM.bind_apply, hrun]
          rfl
        rw [PyM.after_of_ok hafter]
        exact restored_of_handleElevationRequest hrun

end

/-! ### A `pair_abort` whose save fails -/

open PortState (namesRoot heldCaller heldGrant heldPort repairRequest repairConfirm
  elevationRequest)

/-- What an operation raises, read off its run.  Kind: L -/
theorem exists_error {σ α : Type} {x : PyM σ α} {s : σ} {e : PyError}
    (h : (match x s with
      | .error e' _ => decide (e' = e)
      | .ok _ _ => false) = true) : ∃ w, x s = .error e w := by
  cases hrun : x s with
  | error e' w =>
      rw [hrun, decide_eq_true_eq] at h
      exact ⟨w, h ▸ rfl⟩
  | ok a w =>
      rw [hrun] at h
      cases h

/-- The port of `heldPort` with the repair of its caller pending, from where on no save succeeds. -/
def unsavedPort : HostView PairingPort :=
  let v := (closeRequest repairRequest "repair" true).after heldPort.view
  { v with host := { v.host with saves := fun _ => ⟨false, true⟩ } }

/-- The operator approves the repair. -/
def unsavedApproval : PortOp := .approve "repair" (permissionValues {.readState})

/-- The approval of the sample is not saved.  Kind: L -/
theorem unsavedApproval_unsaved : unsavedApproval.Unsaved namesRoot unsavedPort :=
  exists_error (by decide +kernel)

/-- The approval raises, and nothing else has happened. -/
theorem restored_iff_approve : unsavedApproval.Unsaved namesRoot unsavedPort ∧
    Restored unsavedPort ((unsavedApproval.run namesRoot).after unsavedPort) := by
  have hfresh : PortOp.Fresh unsavedPort unsavedApproval := trivial
  refine ⟨unsavedApproval_unsaved, (restored_iff hfresh).mpr ?_ unsavedApproval_unsaved⟩
  rintro ⟨r, -, -, hr, -⟩
  cases hr

/-- The caller's transaction. -/
def unsavedTransaction : PendingPairing :=
  heldPort.view.host.pairing.newTransaction 0 "repair" repairRequest.proposedSecret heldCaller
    (some repairRequest.proposedSecret) repairRequest.material .inbound .repair

/-- The abort returns `False`, and the transaction is not pending any more. -/
theorem abort_not_restored :
    (PortOp.control { repairConfirm with operation := .abort }).Unsaved namesRoot unsavedPort ∧
      ¬Restored unsavedPort (((PortOp.control { repairConfirm with operation := .abort }).run
        namesRoot).after unsavedPort) := by
  have haddresses : Addresses unsavedPort { repairConfirm with operation := .abort }
      unsavedTransaction (permissionValues {.readState}) :=
    ⟨by decide +kernel, by decide +kernel, by decide +kernel⟩
  have hdrops : (PortOp.control { repairConfirm with operation := .abort }).DropsUnsaved
      unsavedPort := ⟨_, _, _, rfl, rfl, haddresses, by decide +kernel⟩
  exact ⟨hdrops.unsaved, hdrops.not_restored⟩

/-! ## What an elevation keeps -/

section

variable {check : SignatureCheck} {v w : HostView PairingPort} {r : CapabilityElevationRequest}
  {g : PairingManager.PeerGrant}

/-- From `v` to `w` the grant `g` of the request's caller changed in its permissions only, no other
grant changed, and what proved the root of `g` proves that of the grant now held.  Kind: D -/
structure ElevationFrame (check : SignatureCheck) (r : CapabilityElevationRequest)
    (g : PairingManager.PeerGrant) (v w : HostView PairingPort) : Prop where
  /-- The other fields are as before. -/
  fields : w.host.pairing.grants.get? r.callerNodeId =
    some { g with permissions := permissionValues r.permissions }
  /-- The other callers' grants are as before. -/
  others : ∀ caller, caller ≠ r.callerNodeId →
    w.host.pairing.grants.get? caller = v.host.pairing.grants.get? caller
  /-- A repair that was continuous still is. -/
  continuous : ∀ g', w.host.pairing.grants.get? r.callerNodeId = some g' →
    ∀ root generation fingerprint proof,
      grantRootContinuous check g root generation fingerprint proof = true →
        grantRootContinuous check g' root generation fingerprint proof = true

/-- An accepted elevation writes the elevated grant.  Kind: L -/
theorem grants_of_handleElevationRequest {approved : Bool}
    (hstored : v.host.pairing.grants.get? r.callerNodeId = some g)
    (hrun : handleElevationRequest r approved v = .ok true w) :
    w.host.pairing.grants =
      v.host.pairing.grants.insert r.callerNodeId (elevated g r.permissions) := by
  unfold handleElevationRequest at hrun
  simp only [PyM.bind_apply, PyM.get_apply, PyM.ofExcept_apply] at hrun
  cases hopen : openElevation v.host r with
  | error e =>
      rw [hopen] at hrun
      cases hrun
  | ok found =>
      rw [hopen] at hrun
      cases found with
      | none => cases hrun
      | some grant =>
          obtain rfl : grant = g :=
            Option.some.inj ((openElevation_eq_some hopen).symm.trans hstored)
          obtain ⟨result, w', hattempt, helevation⟩ := closeElevation_spec v r grant approved
          dsimp only at hrun
          simp only [PyM.attempt, hrun, EStateM.Result.ok.injEq] at hattempt
          obtain ⟨rfl, rfl⟩ := hattempt
          cases helevation with
          | elevated auth hreport hauth => rfl

/-- An elevated grant proves no root: it has none.
Source: `runtime/core.py`, `_handle_elevation_request`.  Kind: L -/
theorem continuous_elevated (permissions : Finset NodePermission) (root : Option String)
    (generation : Option ℤ) (fingerprint : Fingerprint) (proof : Option String) :
    grantRootContinuous check (elevated g permissions) root generation fingerprint proof =
      false := rfl

/-- The elevated grant differs in its permissions only if there was nothing that it could drop.
Kind: L -/
theorem elevated_eq_iff (permissions : Finset NodePermission) :
    elevated g permissions = { g with permissions := permissionValues permissions } ↔
      g.rootPublicKey = none ∧ g.transportGeneration = none ∧ g.transportProof = none := by
  obtain ⟨⟨identity, transport, root, generation, proof⟩, caller, secret, held⟩ := g
  simp only [elevated, PairingManager.PeerGrant.mk.injEq, Material.mk.injEq, true_and, and_true]
  constructor
  · rintro ⟨rfl, rfl, rfl⟩
    exact ⟨rfl, rfl, rfl⟩
  · rintro ⟨rfl, rfl, rfl⟩
    exact ⟨rfl, rfl, rfl⟩

/-- **The frame of an elevation.**  An accepted elevation changes nothing but the permissions of the
caller's grant, if and only if the grant had no root, no generation and no proof.
Source: `runtime/core.py`, `_handle_elevation_request`.  Kind: P -/
theorem elevated_frame_iff {approved : Bool}
    (hstored : v.host.pairing.grants.get? r.callerNodeId = some g)
    (hrun : handleElevationRequest r approved v = .ok true w) :
    ElevationFrame check r g v w ↔
      g.rootPublicKey = none ∧ g.transportGeneration = none ∧ g.transportProof = none := by
  have hgrants := grants_of_handleElevationRequest hstored hrun
  have hget : w.host.pairing.grants.get? r.callerNodeId = some (elevated g r.permissions) := by
    rw [hgrants, Dict.get?_insert_self]
  rw [← elevated_eq_iff r.permissions]
  constructor
  · intro h
    exact Option.some.inj (hget.symm.trans h.fields)
  · intro heq
    refine ⟨hget.trans (congrArg some heq), fun caller hcaller => ?_, ?_⟩
    · rw [hgrants, Dict.get?_insert_of_ne _ _ (Ne.symm hcaller)]
    · intro g' hg' root generation fingerprint proof hcontinuous
      -- a grant without a root was not continuous either
      have hroot : g.rootPublicKey = none := (elevated_eq_iff r.permissions).mp heq |>.1
      unfold grantRootContinuous at hcontinuous
      rw [hroot] at hcontinuous
      cases hcontinuous

end

/-- The caller's grant without a root. -/
def rootlessGrant : PairingManager.PeerGrant :=
  { heldGrant with
    rootPublicKey := none
    transportGeneration := none
    transportProof := none }

/-- The port of `heldPort` with another grant of its caller. -/
def portHolding (g : PairingManager.PeerGrant) : HostView PairingPort :=
  withPairing heldPort.view
    { heldPort.view.host.pairing with grants := Dict.empty.insert heldCaller g }

/-- An elevation of a grant without a root.  Kind: P -/
theorem elevated_frame_iff_rootless :
    ElevationFrame namesRoot elevationRequest rootlessGrant (portHolding rootlessGrant)
      ((handleElevationRequest elevationRequest true).after (portHolding rootlessGrant)) := by
  have haccepted : (handleElevationRequest elevationRequest true).returns
      (portHolding rootlessGrant) (fun b _ => b) = true := by decide +kernel
  cases hrun : handleElevationRequest elevationRequest true (portHolding rootlessGrant) with
  | error e w =>
      rw [PyM.returns_of_error hrun] at haccepted
      cases haccepted
  | ok b w =>
      rw [PyM.returns_of_ok hrun] at haccepted
      obtain rfl : b = true := haccepted
      rw [PyM.after_of_ok hrun]
      exact (elevated_frame_iff (g := rootlessGrant) (by decide +kernel) hrun).mpr ⟨rfl, rfl, rfl⟩

/-- The elevation of a caller with a root is accepted; afterwards the repair that proved its root is
not continuous any more. -/
theorem elevation_drops_root :
    (match handleElevationRequest elevationRequest true (portHolding heldGrant) with
      | .ok b _ => b
      | .error _ _ => false) = true ∧
    grantRootContinuous namesRoot heldGrant repairRequest.rootPublicKey
      repairRequest.transportGeneration repairRequest.transportFingerprint
      repairRequest.transportProof = true ∧
    ((((handleElevationRequest elevationRequest true).after
        (portHolding heldGrant)).host.pairing.grants.get? heldCaller).map fun g =>
      grantRootContinuous namesRoot g repairRequest.rootPublicKey
        repairRequest.transportGeneration repairRequest.transportFingerprint
        repairRequest.transportProof) = some false ∧
    ¬ElevationFrame namesRoot elevationRequest heldGrant (portHolding heldGrant)
      ((handleElevationRequest elevationRequest true).after (portHolding heldGrant)) := by
  refine ⟨by decide +kernel, by decide +kernel, by decide +kernel, fun hframe => ?_⟩
  have hroot : ((((handleElevationRequest elevationRequest true).after
      (portHolding heldGrant)).host.pairing.grants.get? heldCaller).map fun g =>
        g.rootPublicKey) = some none := by decide +kernel
  have hkept := hframe.fields
  rw [show elevationRequest.callerNodeId = heldCaller from rfl] at hkept
  rw [hkept] at hroot
  cases hroot

end Port

end ExpraConnect
