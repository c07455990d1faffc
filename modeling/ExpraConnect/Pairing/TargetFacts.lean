import ExpraConnect.Pairing.FlowRollback
import ExpraConnect.Pairing.Target

/-!
# What the handlers of the pairing port can do

Each handler of the port, once: the states it can leave and what it answers there.

* `Port.Approval`: `approve_pairing`, with the three ways in which it raises;
* `Port.Confirmation`: a confirmation, with the grant that stays behind a refused one;
* `Port.Control`: `_handle_pairing_control_locked`;
* `Port.Handled`: a control of a port whose grants the service accepts;
* `Port.Closing`: a pairing request after the operator's answer.

Invariants of the port are proved from these and never unfold a handler.
-/

namespace ExpraConnect

open ExpraConnect.Lib

namespace Port

variable {v v' : HostView PairingPort}

/-! ## Approval -/

/-- The port with a manager in place of its own. -/
def withPairing (v : HostView PairingPort) (m : PairingManager) : HostView PairingPort :=
  { v with host := { v.host with pairing := m } }

/-- The port after its next save. -/
def afterSave (v : HostView PairingPort) : HostView PairingPort :=
  { v with host := v.host.saved }

/-- Field lemma: `pairing` after `withPairing`.  Kind: L -/
@[simp] theorem pairing_withPairing (v : HostView PairingPort) (m : PairingManager) :
    (withPairing v m).host.pairing = m := rfl

/-- Field lemma: `auth` after `withPairing`.  Kind: L -/
@[simp] theorem auth_withPairing (v : HostView PairingPort) (m : PairingManager) :
    (withPairing v m).auth = v.auth := rfl

/-- Field lemma: `pendingPermissions` after `withPairing`.  Kind: L -/
@[simp] theorem pendingPermissions_withPairing (v : HostView PairingPort) (m : PairingManager) :
    (withPairing v m).host.pendingPermissions = v.host.pendingPermissions := rfl

/-- Field lemma: `pairing` after `afterSave`.  Kind: L -/
@[simp] theorem pairing_afterSave (v : HostView PairingPort) :
    (afterSave v).host.pairing = v.host.pairing := rfl

/-- Field lemma: `auth` after `afterSave`.  Kind: L -/
@[simp] theorem auth_afterSave (v : HostView PairingPort) : (afterSave v).auth = v.auth := rfl

/-- Field lemma: `pendingPermissions` after `afterSave`.  Kind: L -/
@[simp] theorem pendingPermissions_afterSave (v : HostView PairingPort) :
    (afterSave v).host.pendingPermissions = v.host.pendingPermissions := rfl

/-- Equation lemma of `savePersistedState`.  Kind: L -/
theorem savePersistedState_apply (v : HostView PairingPort) :
    savePersistedState v = .ok v.host.saveReport (afterSave v) := rfl

/-- Equation lemma of `onPairing`.  Kind: L -/
theorem onPairing_apply (f : PairingManager → PairingManager) (v : HostView PairingPort) :
    onPairing f v = .ok PUnit.unit (withPairing v (f v.host.pairing)) := rfl

/-- The live ACL after a refresh. -/
def refreshed (v : HostView PairingPort) : Except PyError (HostView PairingPort) :=
  if v.host.service then do
    let grants ← v.host.wireGrants
    let auth ← v.auth.updateGrants grants
    return { v with auth := auth.updateClusterCapabilityGrants v.host.clusterCapabilityGrants }
  else .ok v

/-- A refresh that raises changes nothing.  Kind: L -/
theorem refreshLiveGrants_apply (v : HostView PairingPort) :
    refreshLiveGrants v =
      match refreshed v with
      | .ok w => .ok () w
      | .error e => .error e v := by
  unfold refreshLiveGrants refreshed
  simp only [PyM.bind_apply, PyM.get_apply]
  cases hservice : v.host.service with
  | false => rfl
  | true =>
      simp only [if_true, PyM.bind_apply, PyM.ofExcept_apply]
      cases hwire : v.host.wireGrants with
      | error e => rfl
      | ok grants =>
          have hbind : ∀ k : Dict NodeId PeerGrant → Except PyError (HostView PairingPort),
              (Except.ok grants >>= k) = k grants := fun _ => rfl
          simp only [hbind]
          cases hauth : v.auth.updateGrants grants <;> rfl

/-- A refresh raises `ValueError` only.  Kind: L -/
theorem refreshed_eq_error {e : PyError} (h : refreshed v = .error e) : e.kind = .value := by
  unfold refreshed at h
  split at h
  · rcases Except.bind_eq_error.mp h with hwire | ⟨grants, -, h⟩
    · unfold PairingPort.wireGrants at hwire
      split at hwire
      · cases hwire
      · cases hwire
        rfl
    · rcases Except.bind_eq_error.mp h with hauth | ⟨auth, -, h⟩
      · unfold Auth.updateGrants at hauth
        split at hauth
        · cases hauth
        · cases hauth
          rfl
      · cases h
  · cases h

/-- An approval makes this grant of the transaction, and this manager. -/
structure Grants (v : HostView PairingPort) (txid : String) (permissions : Finset PermissionItem)
    (grant : PairingManager.PeerGrant) (m : PairingManager) : Prop where
  /-- The permissions are read-only. -/
  readOnly : PermissionItem.texts permissions ⊆ readPermissions.image NodePermission.value
  /-- The transaction is active. -/
  approves : v.host.pairing.approve v.clock txid permissions = .ok (grant, m)

/-- How `approve_pairing` ends. -/
inductive Approval (v : HostView PairingPort) (txid : String)
    (permissions : Finset PermissionItem) :
    Except PyError PairingManager.PeerGrant → HostView PairingPort → Prop
  /-- It raises before it changes anything. -/
  | refused (e : PyError) (he : e.kind = .value) : Approval v txid permissions (.error e) v
  /-- The approval could not be saved, and was taken back. -/
  | unsaved (grant : PairingManager.PeerGrant) (m : PairingManager)
      (hm : Grants v txid permissions grant m)
      (hreport : v.host.saveReport = false) :
      Approval v txid permissions
        (.error ⟨.runtime, "pairing approval was not durably persisted"⟩)
        (withPairing (afterSave (withPairing v m)) v.host.pairing)
  /-- The approval was saved, but the ACL could not be refreshed: it stays. -/
  | unrefreshed (grant : PairingManager.PeerGrant) (m : PairingManager) (e : PyError)
      (hm : Grants v txid permissions grant m)
      (hreport : v.host.saveReport = true)
      (he : refreshed (afterSave (withPairing v m)) = .error e) :
      Approval v txid permissions (.error e) (afterSave (withPairing v m))
  /-- The approval was saved and is live. -/
  | approved (grant : PairingManager.PeerGrant) (m : PairingManager) (w : HostView PairingPort)
      (hm : Grants v txid permissions grant m)
      (hreport : v.host.saveReport = true)
      (hw : refreshed (afterSave (withPairing v m)) = .ok w) :
      Approval v txid permissions (.ok grant) w

/-- Field lemma: `saveReport` after `withPairing`.  Kind: L -/
theorem saveReport_withPairing (v : HostView PairingPort) (m : PairingManager) :
    (withPairing v m).host.saveReport = v.host.saveReport := rfl

/-- An approval only writes a grant.  Kind: L -/
theorem restoreSnapshot_of_approve {m snap : PairingManager} {now : ℚ} {txid : String}
    {permissions : Finset PermissionItem} {grant : PairingManager.PeerGrant}
    (h : snap.approve now txid permissions = .ok (grant, m)) : m.restoreSnapshot snap = snap := by
  obtain ⟨t, -, -, -, rfl⟩ := PairingManager.approve_eq_ok.mp h
  exact PairingManager.restoreSnapshot_of_same rfl rfl

/-- What `approvePairing` does to the view.  Kind: L -/
theorem approvePairing_spec (v : HostView PairingPort) (txid : String)
    (permissions : Finset PermissionItem) :
    ∃ r w, PyM.attempt (approvePairing txid permissions) v = .ok r w ∧
      Approval v txid permissions r w := by
  simp only [PyM.attempt, approvePairing, PyM.bind_apply, PyM.raiseIf_apply]
  by_cases hread : PermissionItem.texts permissions ⊆ readPermissions.image NodePermission.value
  · simp only [hread, not_true_eq_false, if_false, PyM.get_apply, PyM.ofExcept_apply]
    cases hm : v.host.pairing.approve v.clock txid permissions with
    | error e => exact ⟨_, _, rfl, .refused e (PairingManager.approve_eq_error hm)⟩
    | ok r =>
        obtain ⟨grant, m⟩ := r
        simp only [onPairing_apply, savePersistedState_apply, saveReport_withPairing]
        cases hreport : v.host.saveReport with
        | false =>
            have hback : withPairing (afterSave (withPairing v m)) v.host.pairing =
                withPairing (afterSave (withPairing v m))
                  (m.restoreSnapshot v.host.pairing) := by
              rw [restoreSnapshot_of_approve hm]
            have hunsaved := Approval.unsaved grant m ⟨hread, hm⟩ hreport
            rw [hback] at hunsaved
            exact ⟨_, _, rfl, hunsaved⟩
        | true =>
            simp only [Bool.not_true, Bool.false_eq_true, if_false, PyM.bind_apply,
              refreshLiveGrants_apply]
            cases hw : refreshed (afterSave (withPairing v m)) with
            | error e => exact ⟨_, _, rfl, .unrefreshed grant m e ⟨hread, hm⟩ hreport hw⟩
            | ok w => exact ⟨_, _, rfl, .approved grant m w ⟨hread, hm⟩ hreport hw⟩
  · simp only [hread, not_false_eq_true, if_true]
    exact ⟨_, _, rfl, .refused _ rfl⟩

/-! ## Controls -/

/-- The port with other pending permissions. -/
def withPermissions (v : HostView PairingPort) (d : Dict String (Finset PermissionItem)) :
    HostView PairingPort :=
  { v with host := { v.host with pendingPermissions := d } }

/-- Equation lemma of `onPermissions`.  Kind: L -/
theorem onPermissions_apply (f : Dict String (Finset PermissionItem) →
    Dict String (Finset PermissionItem)) (v : HostView PairingPort) :
    onPermissions f v = .ok PUnit.unit (withPermissions v (f v.host.pendingPermissions)) := rfl

/-- Field lemma: `pairing` after `withPermissions`.  Kind: L -/
@[simp] theorem pairing_withPermissions (v : HostView PairingPort)
    (d : Dict String (Finset PermissionItem)) :
    (withPermissions v d).host.pairing = v.host.pairing := rfl

/-- Field lemma: `auth` after `withPermissions`.  Kind: L -/
@[simp] theorem auth_withPermissions (v : HostView PairingPort)
    (d : Dict String (Finset PermissionItem)) : (withPermissions v d).auth = v.auth := rfl

/-- Field lemma: `pendingPermissions` after `withPermissions`.  Kind: L -/
@[simp] theorem pendingPermissions_withPermissions (v : HostView PairingPort)
    (d : Dict String (Finset PermissionItem)) :
    (withPermissions v d).host.pendingPermissions = d := rfl

/-- The transaction is dropped with its permissions. -/
def drop (v : HostView PairingPort) (txid : String) : HostView PairingPort :=
  withPermissions (withPairing v (v.host.pairing.abort txid))
    (v.host.pendingPermissions.erase txid)

/-- How the confirmation of a matching transaction ends. -/
inductive Confirmation (v : HostView PairingPort) (txid : String)
    (expected : Finset PermissionItem) : Bool → HostView PairingPort → Prop
  /-- `approve_pairing` raised; the transaction stays. -/
  | refused (e : PyError) (w : HostView PairingPort) (h : Approval v txid expected (.error e) w) :
      Confirmation v txid expected false w
  /-- The grant is live and saved without its transaction. -/
  | confirmed (grant : PairingManager.PeerGrant) (w : HostView PairingPort)
      (h : Approval v txid expected (.ok grant) w)
      (hreport : (drop w txid).host.saveReport = true) :
      Confirmation v txid expected true (afterSave (drop w txid))
  /-- The grant is live, but the manager is put back: its second save failed. -/
  | putBack (grant : PairingManager.PeerGrant) (w : HostView PairingPort)
      (h : Approval v txid expected (.ok grant) w)
      (hreport : (drop w txid).host.saveReport = false) :
      Confirmation v txid expected false (afterSave
        (withPermissions (withPairing (afterSave (drop w txid)) v.host.pairing)
          ((v.host.pendingPermissions.erase txid).insert txid expected)))

/-- Whatever `approve_pairing` raises is turned into a refusal.  Kind: L -/
theorem Approval.refuses {txid : String} {permissions : Finset PermissionItem} {e : PyError}
    (h : Approval v txid permissions (.error e) v') : refusesApproval e = true := by
  cases h with
  | refused _ he => simp [refusesApproval, he, ErrorKind.isValueError]
  | unsaved => rfl
  | unrefreshed _ _ _ _ _ he =>
      simp [refusesApproval, refreshed_eq_error he, ErrorKind.isValueError]

/-- An approval that returned changed the grants and the ACL only.  Kind: L -/
theorem Approval.of_ok {txid : String} {permissions : Finset PermissionItem}
    {grant : PairingManager.PeerGrant} (h : Approval v txid permissions (.ok grant) v') :
    ∃ m auth, Grants v txid permissions grant m ∧ v.host.saveReport = true ∧
      v' = { afterSave (withPairing v m) with auth := auth } := by
  cases h with
  | approved _ m _ hm hreport hw =>
      unfold refreshed at hw
      split at hw
      · obtain ⟨grants, -, hw⟩ := Except.bind_eq_ok.mp hw
        obtain ⟨auth, -, hw⟩ := Except.bind_eq_ok.mp hw
        cases hw
        exact ⟨m, _, hm, hreport, rfl⟩
      · cases hw
        exact ⟨m, _, hm, hreport, rfl⟩

/-- What `approve_pairing` raises, a confirmation turns into a refusal.  Kind: L -/
theorem confirmPending_of_error {txid : String} {expected : Finset PermissionItem} {e : PyError}
    {w : HostView PairingPort} (hrun : approvePairing txid expected v = .error e w) :
    Approval v txid expected (.error e) w ∧ confirmPending txid expected v = .ok false w := by
  obtain ⟨r, w', hattempt, happroval⟩ := approvePairing_spec v txid expected
  simp only [PyM.attempt, hrun, EStateM.Result.ok.injEq] at hattempt
  obtain ⟨rfl, rfl⟩ := hattempt
  refine ⟨happroval, ?_⟩
  simp only [confirmPending, PyM.bind_apply, PyM.get_apply, PyM.attempt, hrun, happroval.refuses,
    if_true]
  rfl

/-- After an approval, a confirmation drops the transaction, or puts everything back.  Kind: L -/
theorem confirmPending_of_ok {txid : String} {expected : Finset PermissionItem}
    {grant : PairingManager.PeerGrant} {w : HostView PairingPort}
    (hrun : approvePairing txid expected v = .ok grant w) :
    Approval v txid expected (.ok grant) w ∧
      confirmPending txid expected v =
        if (drop w txid).host.saveReport then .ok true (afterSave (drop w txid))
        else .ok false (afterSave
          (withPermissions (withPairing (afterSave (drop w txid)) v.host.pairing)
            ((v.host.pendingPermissions.erase txid).insert txid expected))) := by
  obtain ⟨r, w', hattempt, happroval⟩ := approvePairing_spec v txid expected
  simp only [PyM.attempt, hrun, EStateM.Result.ok.injEq] at hattempt
  obtain ⟨rfl, rfl⟩ := hattempt
  refine ⟨happroval, ?_⟩
  simp only [confirmPending, PyM.bind_apply, PyM.get_apply, PyM.attempt, hrun, onPairing_apply,
    onPermissions_apply, savePersistedState_apply]
  have hdrop : withPermissions (withPairing w (w.host.pairing.abort txid))
      ((withPairing w (w.host.pairing.abort txid)).host.pendingPermissions.erase txid) =
        drop w txid := rfl
  rw [hdrop]
  cases hreport : (drop w txid).host.saveReport with
  | true => rfl
  | false =>
      simp only [Bool.false_eq_true, if_false, PyM.bind_apply, onPairing_apply,
        onPermissions_apply, savePersistedState_apply]
      have hsnap : ((afterSave (drop w txid)).host.pairing).restoreSnapshot v.host.pairing =
          v.host.pairing := by
        obtain ⟨m, auth, hm, -, rfl⟩ := happroval.of_ok
        obtain ⟨t, -, -, -, rfl⟩ := PairingManager.approve_eq_ok.mp hm.approves
        exact PairingManager.restoreSnapshot_of_same rfl rfl
      have hperms : w.host.pendingPermissions = v.host.pendingPermissions := by
        obtain ⟨m, auth, -, -, rfl⟩ := happroval.of_ok
        rfl
      rw [hsnap, ← hperms]
      rfl

/-- What `confirmPending` does to the view.  Kind: L -/
theorem confirmPending_spec (v : HostView PairingPort) (txid : String)
    (expected : Finset PermissionItem) :
    ∃ b w, confirmPending txid expected v = .ok b w ∧ Confirmation v txid expected b w := by
  cases hrun : approvePairing txid expected v with
  | error e w =>
      obtain ⟨happroval, hconfirm⟩ := confirmPending_of_error hrun
      exact ⟨false, w, hconfirm, .refused e w happroval⟩
  | ok grant w =>
      obtain ⟨happroval, hconfirm⟩ := confirmPending_of_ok hrun
      cases hreport : (drop w txid).host.saveReport with
      | true =>
          rw [hreport, if_pos rfl] at hconfirm
          exact ⟨true, _, hconfirm, .confirmed grant w happroval hreport⟩
      | false =>
          rw [hreport, if_neg Bool.false_ne_true] at hconfirm
          exact ⟨false, _, hconfirm, .putBack grant w happroval hreport⟩

/-- The transaction that a control is about, with its permissions. -/
structure Addresses (v : HostView PairingPort) (r : PairingControlRequest)
    (pending : PendingPairing) (expected : Finset PermissionItem) : Prop where
  /-- The transaction has the id of the control. -/
  found : v.host.pairing.pending.get? r.transactionId = some pending
  /-- So have the permissions. -/
  allowed : v.host.pendingPermissions.get? r.transactionId = some expected
  /-- The control names both in every field. -/
  matched : r.Matches pending expected

/-- How a control ends. -/
inductive Control (v : HostView PairingPort) (r : PairingControlRequest) :
    Bool → HostView PairingPort → Prop
  /-- It matches no transaction. -/
  | refused (h : ∀ pending expected, ¬Addresses v r pending expected) : Control v r false v
  /-- It drops its transaction. -/
  | aborted (pending : PendingPairing) (expected : Finset PermissionItem)
      (h : Addresses v r pending expected) (hop : r.operation = .abort) :
      Control v r (drop v r.transactionId).host.saveReport (afterSave (drop v r.transactionId))
  /-- It confirms its transaction. -/
  | confirmed (pending : PendingPairing) (expected : Finset PermissionItem) (b : Bool)
      (w : HostView PairingPort) (h : Addresses v r pending expected)
      (hop : r.operation = .confirm) (hw : Confirmation v r.transactionId expected b w) :
      Control v r b w

/-- What `handlePairingControl` does to the view.  Kind: L -/
theorem handlePairingControl_spec (v : HostView PairingPort) (r : PairingControlRequest) :
    ∃ b w, handlePairingControl r v = .ok b w ∧ Control v r b w := by
  simp only [handlePairingControl, PyM.bind_apply, PyM.get_apply]
  cases hpending : v.host.pairing.pending.get? r.transactionId with
  | none =>
      refine ⟨false, v, rfl, .refused fun pending expected h => ?_⟩
      cases hpending.symm.trans h.found
  | some pending =>
      cases hexpected : v.host.pendingPermissions.get? r.transactionId with
      | none =>
          refine ⟨false, v, rfl, .refused fun pending expected h => ?_⟩
          cases hexpected.symm.trans h.allowed
      | some expected =>
          by_cases hmatch : r.Matches pending expected
          · have haddr : Addresses v r pending expected := ⟨hpending, hexpected, hmatch⟩
            simp only [hmatch, if_true]
            cases hop : r.operation with
            | abort => exact ⟨_, _, rfl, .aborted pending expected haddr hop⟩
            | confirm =>
                obtain ⟨b, w, hrun, hw⟩ := confirmPending_spec v r.transactionId expected
                exact ⟨b, w, hrun, .confirmed pending expected b w haddr hop hw⟩
          · simp only [hmatch, if_false]
            refine ⟨false, v, rfl, .refused fun pending' expected' h => hmatch ?_⟩
            obtain rfl : pending = pending' := Option.some.inj (hpending.symm.trans h.found)
            obtain rfl : expected = expected' :=
              Option.some.inj (hexpected.symm.trans h.allowed)
            exact h.matched

/-! ## Controls of a port with valid grants -/

/-- The grants are ones that the service accepts. -/
def GrantsValid (m : PairingManager) : Prop :=
  ∀ caller g, m.grants.get? caller = some g →
    validSecret g.secret = true ∧ PermissionItem.texts g.permissions ⊆ knownPermissions

/-- The service takes the grants.  Kind: L -/
theorem refreshed_of_valid {v : HostView PairingPort} (h : GrantsValid v.host.pairing) :
    ∃ w, refreshed v = .ok w := by
  unfold refreshed
  cases v.host.service with
  | false => exact ⟨v, rfl⟩
  | true =>
      have hall : ∀ g ∈ v.host.pairing.grants.values, validSecret g.secret = true ∧
          PermissionItem.texts g.permissions ⊆ knownPermissions := by
        intro g hg
        obtain ⟨caller, hcaller⟩ := Dict.mem_values_iff.mp hg
        exact h caller g hcaller
      have hwire : v.host.wireGrants =
          .ok (v.host.pairing.grants.mapValues PairingManager.PeerGrant.wire) := by
        refine if_pos (List.all_eq_true.mpr fun g hg => decide_eq_true (hall g hg).2)
      have hsecrets : (v.host.pairing.grants.mapValues PairingManager.PeerGrant.wire).values.all
          (fun g => validSecret g.secret) = true := by
        rw [Dict.values_mapValues, List.all_map]
        exact List.all_eq_true.mpr fun g hg => (hall g hg).1
      have hauth : v.auth.updateGrants
          (v.host.pairing.grants.mapValues PairingManager.PeerGrant.wire) =
          .ok { v.auth with
            grantMode := true
            grants := v.host.pairing.grants.mapValues PairingManager.PeerGrant.wire
            grantVersion := v.auth.grantVersion + 1 } := if_pos hsecrets
      exact ⟨_, Except.bind_eq_ok.mpr ⟨_, hwire, Except.bind_eq_ok.mpr ⟨_, hauth, rfl⟩⟩⟩

/-- What a control does when the service takes the grants. -/
inductive Handled (v : HostView PairingPort) (r : PairingControlRequest) :
    Bool → HostView PairingPort → Prop
  /-- Nothing that another request could notice. -/
  | idle (w : HostView PairingPort) (hclock : w.clock = v.clock)
      (hpairing : w.host.pairing = v.host.pairing)
      (hpermissions : ∀ txid, w.host.pendingPermissions.get? txid =
        v.host.pendingPermissions.get? txid) : Handled v r false w
  /-- The transaction is dropped. -/
  | dropped (b : Bool) (w : HostView PairingPort) (hop : r.operation = .abort)
      (hclock : w.clock = v.clock)
      (hpairing : w.host.pairing = v.host.pairing.abort r.transactionId)
      (hpermissions : w.host.pendingPermissions =
        v.host.pendingPermissions.erase r.transactionId) : Handled v r b w
  /-- The transaction becomes a grant. -/
  | granted (t : PendingPairing) (permissions : Finset PermissionItem) (w : HostView PairingPort)
      (hclock : w.clock = v.clock) (haddresses : Addresses v r t permissions)
      (hop : r.operation = .confirm) (hlive : v.clock < t.expiresAt)
      (hpairing : w.host.pairing = { v.host.pairing.abort r.transactionId with
        grants := v.host.pairing.grants.insert t.peerId (PairingManager.grantOf t permissions) })
      (hpermissions : w.host.pendingPermissions =
        v.host.pendingPermissions.erase r.transactionId) : Handled v r true w

/-- The grant of a valid transaction keeps the grants valid.  Kind: L -/
theorem GrantsValid.insert {m : PairingManager} {t : PendingPairing}
    {permissions : Finset PermissionItem} (h : GrantsValid m)
    (hsecret : validSecret t.secret = true)
    (hknown : PermissionItem.texts permissions ⊆ knownPermissions) :
    GrantsValid { m with
      grants := m.grants.insert t.peerId (PairingManager.grantOf t permissions) } := by
  intro caller g hg
  rw [Dict.get?_insert] at hg
  split at hg
  · cases hg
    exact ⟨hsecret, hknown⟩
  · exact h caller g hg

/-- The permissions of a request are ones that the service knows.  Kind: L -/
theorem texts_known (permissions : Finset NodePermission) :
    PermissionItem.texts (permissionValues permissions) ⊆ knownPermissions := by
  rw [texts_permissionValues]
  intro text htext
  obtain ⟨p, -, rfl⟩ := Finset.mem_image.mp htext
  cases p <;> decide

/-- If the transaction that a control addresses is valid, the control leaves no grant behind a
refusal.  Kind: L -/
theorem handlePairingControl_handled {v : HostView PairingPort} {r : PairingControlRequest}
    (hvalid : GrantsValid v.host.pairing)
    (haddressed : ∀ t permissions, Addresses v r t permissions →
      validSecret t.secret = true ∧ PermissionItem.texts permissions ⊆ knownPermissions) :
    ∃ b w, handlePairingControl r v = .ok b w ∧ Handled v r b w := by
  obtain ⟨b, w, hrun, hcontrol⟩ := handlePairingControl_spec v r
  refine ⟨b, w, hrun, ?_⟩
  cases hcontrol with
  | refused => exact .idle v rfl rfl fun _ => rfl
  | aborted pending expected haddr hop => exact .dropped _ _ hop rfl rfl rfl
  | confirmed pending expected b w haddr hop hw =>
      obtain ⟨hsecret, hknown⟩ := haddressed pending expected haddr
      -- the manager after the approval holds valid grants only, so the service takes them
      have hgrant : ∀ {grant m}, Grants v r.transactionId expected grant m →
          v.clock < pending.expiresAt ∧ m = { v.host.pairing with
            grants := v.host.pairing.grants.insert pending.peerId
              (PairingManager.grantOf pending expected) } := by
        intro grant m hm
        obtain ⟨t, hactive, -, rfl, rfl⟩ := PairingManager.approve_eq_ok.mp hm.approves
        obtain ⟨ht, hlive⟩ := PairingManager.active_eq_ok.mp hactive
        obtain rfl : t = pending := Option.some.inj (ht.symm.trans haddr.found)
        exact ⟨hlive, rfl⟩
      have hrestored : ∀ txid, ((v.host.pendingPermissions.erase r.transactionId).insert
          r.transactionId expected).get? txid = v.host.pendingPermissions.get? txid := by
        intro txid
        by_cases htxid : r.transactionId = txid
        · rw [← htxid, Dict.get?_insert_self, haddr.allowed]
        · rw [Dict.get?_insert_of_ne _ _ htxid, Dict.get?_erase_of_ne _ htxid]
      cases hw with
      | refused e w happroval =>
          cases happroval with
          | refused => exact .idle v rfl rfl fun _ => rfl
          | unsaved => exact .idle _ rfl rfl fun _ => rfl
          | unrefreshed grant m e hm hreport he =>
              obtain ⟨-, hmanager⟩ := hgrant hm
              have hgrants : GrantsValid m := hmanager ▸ hvalid.insert hsecret hknown
              obtain ⟨w, hw⟩ := refreshed_of_valid
                (v := afterSave (withPairing v m)) hgrants
              cases he.symm.trans hw
      | confirmed grant w happroval hreport =>
          obtain ⟨m, auth, hm, -, rfl⟩ := happroval.of_ok
          obtain ⟨hlive, rfl⟩ := hgrant hm
          exact .granted pending expected _ rfl haddr hop hlive rfl rfl
      | putBack grant w happroval hreport =>
          obtain ⟨m, auth, hm, -, rfl⟩ := happroval.of_ok
          exact .idle _ rfl rfl hrestored

/-! ## Requests -/

/-- How a request ends after the operator's answer. -/
inductive Closing (v : HostView PairingPort) (r : PairingRequest) (txid : String) :
    Bool → Fields → HostView PairingPort → Prop
  /-- The operator declined. -/
  | denied : Closing v r txid false (refusal "denied") v
  /-- A transaction of the caller is active. -/
  | busy : Closing v r txid true (refusal "already_pending") v
  /-- The transaction could not be saved, and was taken back. -/
  | unsaved (pending : PendingPairing) (m : PairingManager)
      (hbegin : v.host.pairing.begin v.clock txid r.proposedSecret r.callerNodeId
        (some r.proposedSecret) r.material .inbound r.intent = .ok (pending, m)) :
      Closing v r txid true (refusal "persistence_failed")
        (drop (afterSave (withPermissions (withPairing v m) (v.host.pendingPermissions.insert
          pending.transactionId (permissionValues r.permissions)))) pending.transactionId)
  /-- The transaction is pending, and its response is sent. -/
  | begun (pending : PendingPairing) (m : PairingManager) (response : Fields)
      (hbegin : v.host.pairing.begin v.clock txid r.proposedSecret r.callerNodeId
        (some r.proposedSecret) r.material .inbound r.intent = .ok (pending, m))
      (hresponse : pairingResponse pending (afterSave (withPermissions (withPairing v m)
        (v.host.pendingPermissions.insert pending.transactionId
          (permissionValues r.permissions)))) = .ok response (afterSave (withPermissions
            (withPairing v m) (v.host.pendingPermissions.insert pending.transactionId
              (permissionValues r.permissions))))) :
      Closing v r txid true response (afterSave (withPermissions (withPairing v m)
        (v.host.pendingPermissions.insert pending.transactionId
          (permissionValues r.permissions))))

/-- A new transaction that could not be saved is taken back without a trace.  Kind: L -/
theorem drop_begun {r : PairingRequest} {txid : String} {pending : PendingPairing}
    {m : PairingManager}
    (hfree : v.host.pairing.findPendingFor v.clock r.callerNodeId (some .inbound) = none)
    (hpending : v.host.pairing.pending.get? txid = none)
    (hpermissions : v.host.pendingPermissions.get? txid = none)
    (hbegin : v.host.pairing.begin v.clock txid r.proposedSecret r.callerNodeId
      (some r.proposedSecret) r.material .inbound r.intent = .ok (pending, m)) :
    (drop (afterSave (withPermissions (withPairing v m) (v.host.pendingPermissions.insert
      pending.transactionId (permissionValues r.permissions))))
        pending.transactionId).host.pairing = v.host.pairing ∧
    (drop (afterSave (withPermissions (withPairing v m) (v.host.pendingPermissions.insert
      pending.transactionId (permissionValues r.permissions))))
        pending.transactionId).host.pendingPermissions = v.host.pendingPermissions := by
  have hnew := PairingManager.begin_of_free hfree txid r.proposedSecret r.proposedSecret
    r.material r.intent
  obtain ⟨rfl, rfl⟩ := Prod.mk.inj (Except.ok.inj (hnew.symm.trans hbegin))
  have herase := Dict.erase_insert_of_fresh (v := v.host.pairing.newTransaction v.clock txid
    r.proposedSecret r.callerNodeId (some r.proposedSecret) r.material .inbound r.intent) hpending
  refine ⟨?_, Dict.erase_insert_of_fresh hpermissions⟩
  show ({ v.host.pairing with pending := _ } : PairingManager) = v.host.pairing
  exact congrArg (fun d => { v.host.pairing with pending := d }) herase

/-- What becomes of a request when the caller's transaction, if there is one, is looked at. -/
def pendingAdmission (r : PairingRequest) : Option PendingPairing → Admission
  | some duplicate =>
      if duplicate.secret = r.proposedSecret then .repeated duplicate
      else .refused "already_pending"
  | none => .asked

/-- A transaction that is repeated is the caller's, with the secret that it proposes.  Kind: L -/
theorem repeated_eq {check : SignatureCheck} {p : PairingPort} {now : ℚ} {r : PairingRequest}
    {pending : PendingPairing} (h : admission check p now r = .repeated pending) :
    pending.peerId = r.callerNodeId ∧ pending.secret = r.proposedSecret := by
  have hpending : pendingAdmission r
      (p.pairing.findPendingFor now r.callerNodeId (some .inbound)) = .repeated pending := by
    unfold admission at h
    grind [pendingAdmission]
  cases hfound : p.pairing.findPendingFor now r.callerNodeId (some .inbound) with
  | none =>
      rw [hfound] at hpending
      cases hpending
  | some duplicate =>
      rw [hfound, pendingAdmission] at hpending
      split at hpending
      · rename_i hsecret
        cases hpending
        unfold PairingManager.findPendingFor at hfound
        have hsome := List.find?_some hfound
        exact ⟨(of_decide_eq_true hsome).1, hsecret⟩
      · cases hpending

/-- The response of a transaction whose permissions are there.  Kind: L -/
theorem pairingResponse_of_permissions {pending : PendingPairing}
    {permissions : Finset PermissionItem}
    (h : v.host.pendingPermissions.get? pending.transactionId = some permissions) :
    ∃ response, pairingResponse pending v = .ok response v := by
  simp only [pairingResponse, PyM.bind_apply, PyM.get_apply, h]
  exact ⟨_, rfl⟩

/-- What `closeRequest` does to the view.  Kind: L -/
theorem closeRequest_spec (v : HostView PairingPort) (r : PairingRequest) (txid : String)
    (approved : Bool) :
    ∃ response w, closeRequest r txid approved v = .ok response w ∧
      Closing v r txid approved response w := by
  cases approved with
  | false => exact ⟨_, _, rfl, .denied⟩
  | true =>
      simp only [closeRequest, Bool.not_true, Bool.false_eq_true, if_false, PyM.bind_apply,
        PyM.get_apply]
      cases hbegin : v.host.pairing.begin v.clock txid r.proposedSecret r.callerNodeId
          (some r.proposedSecret) r.material .inbound r.intent with
      | error e => exact ⟨_, _, rfl, .busy⟩
      | ok result =>
          obtain ⟨pending, m⟩ := result
          simp only [PyM.bind_apply, onPairing_apply, onPermissions_apply,
            savePersistedState_apply]
          split
          · have hperms : (afterSave (withPermissions (withPairing v m)
                (v.host.pendingPermissions.insert pending.transactionId
                  (permissionValues r.permissions)))).host.pendingPermissions.get?
                pending.transactionId = some (permissionValues r.permissions) :=
              Dict.get?_insert_self _ _ _
            obtain ⟨response, hresponse⟩ := pairingResponse_of_permissions hperms
            exact ⟨response, _, hresponse, .begun pending m response hbegin hresponse⟩
          · exact ⟨_, _, rfl, .unsaved pending m hbegin⟩

/-! ## Elevations -/

/-- The manager with this grant of the caller. -/
def granting (v : HostView PairingPort) (caller : NodeId) (grant : PairingManager.PeerGrant) :
    PairingManager :=
  { v.host.pairing with grants := v.host.pairing.grants.insert caller grant }

/-- The live ACL after an elevation, which leaves the capability grants alone. -/
def relisted (v : HostView PairingPort) : Except PyError Auth :=
  if v.host.service then do
    let grants ← v.host.wireGrants
    v.auth.updateGrants grants
  else .ok v.auth

/-- How an elevation ends after the operator's answer. -/
inductive Elevation (v : HostView PairingPort) (r : CapabilityElevationRequest)
    (grant : PairingManager.PeerGrant) : Bool → Except PyError Bool → HostView PairingPort → Prop
  /-- The operator declined. -/
  | declined : Elevation v r grant false (.ok false) v
  /-- The elevated grant could not be saved: the caller gets back the one that was read. -/
  | unsaved (hreport : v.host.saveReport = false) :
      Elevation v r grant true (.ok false)
        (withPairing (afterSave (withPairing v (granting v r.callerNodeId
          (elevated grant r.permissions)))) (granting v r.callerNodeId grant))
  /-- The elevated grant was saved, but the ACL refused the grants. -/
  | unrefreshed (e : PyError) (hreport : v.host.saveReport = true)
      (he : relisted (afterSave (withPairing v (granting v r.callerNodeId
        (elevated grant r.permissions)))) = .error e) :
      Elevation v r grant true (.error e)
        (afterSave (withPairing v (granting v r.callerNodeId (elevated grant r.permissions))))
  /-- The elevated grant is saved and live. -/
  | elevated (auth : Auth) (hreport : v.host.saveReport = true)
      (hauth : relisted (afterSave (withPairing v (granting v r.callerNodeId
        (elevated grant r.permissions)))) = .ok auth) :
      Elevation v r grant true (.ok true)
        { afterSave (withPairing v (granting v r.callerNodeId (elevated grant r.permissions)))
          with auth := auth }

/-- What `closeElevation` does to the view.  Kind: L -/
theorem closeElevation_spec (v : HostView PairingPort) (r : CapabilityElevationRequest)
    (grant : PairingManager.PeerGrant) (approved : Bool) :
    ∃ result w, PyM.attempt (closeElevation r grant approved) v = .ok result w ∧
      Elevation v r grant approved result w := by
  cases approved with
  | false => exact ⟨_, _, rfl, .declined⟩
  | true =>
      have hfirst : ∀ m : PairingManager, v.host.pairing = m →
          withPairing v { m with
            grants := m.grants.insert r.callerNodeId (elevated grant r.permissions) } =
          withPairing v (granting v r.callerNodeId (elevated grant r.permissions)) := by
        rintro m rfl
        rfl
      simp only [PyM.attempt, closeElevation, Bool.not_true, Bool.false_eq_true, if_false,
        PyM.bind_apply, onPairing_apply, savePersistedState_apply, hfirst _ rfl,
        saveReport_withPairing]
      cases hreport : v.host.saveReport with
      | false =>
          have hunsaved : Elevation v r grant true (.ok false) _ := .unsaved hreport
          refine ⟨_, _, rfl, ?_⟩
          simpa only [pairing_afterSave, granting, withPairing, Dict.insert_insert] using hunsaved
      | true =>
          simp only [if_true, PyM.bind_apply, PyM.get_apply]
          have hfailed : ∀ e, _ → Elevation v r grant true (.error e) _ :=
            fun e he => .unrefreshed e hreport he
          have hlive : ∀ auth, _ → Elevation v r grant true (.ok true) _ :=
            fun auth hauth => .elevated auth hreport hauth
          generalize afterSave (withPairing v (granting v r.callerNodeId
            (elevated grant r.permissions))) = v₁ at hfailed hlive ⊢
          cases hservice : v₁.host.service with
          | false =>
              have hauth : relisted v₁ = .ok v₁.auth := if_neg (by simp [hservice])
              exact ⟨_, _, rfl, hlive v₁.auth hauth⟩
          | true =>
              simp only [if_true, PyM.bind_apply, PyM.ofExcept_apply]
              have hrelisted : relisted v₁ = v₁.host.wireGrants >>= v₁.auth.updateGrants :=
                if_pos hservice
              cases hwire : v₁.host.wireGrants with
              | error e =>
                  rw [hwire] at hrelisted
                  exact ⟨_, _, rfl, hfailed e hrelisted⟩
              | ok grants =>
                  rw [hwire] at hrelisted
                  dsimp only
                  cases hauth : v₁.auth.updateGrants grants with
                  | error e => exact ⟨_, _, rfl, hfailed e (hrelisted.trans hauth)⟩
                  | ok auth => exact ⟨_, _, rfl, hlive auth (hrelisted.trans hauth)⟩

end Port

end ExpraConnect
