import ExpraConnect.Pairing.TargetFacts

/-!
# The pairing messages of the listener

`transport/server.py`, `_pair_request_response` and `_pair_control_response`, with the checks of
`remote/wire_protocol.py` that they run, over the handlers of the pairing port.

* `Handling`: what one message meets at the target besides the port itself;
* `pairingRequestOf`, `pairingControlOf`: the checked requests, as the raw fields yield them;
* `Port.serve`: one message, from its fields to the answer that is sent back;
* `Port.serve_grants`: only a confirmation of its own transaction touches a grant;
* `Port.serve_request_approved`, `Port.serve_confirm`: what an approved answer says about the port.

A call that raises closes the connection without an answer.  `tag` numbers the JSON values that are
no text, where a fingerprint is expected.
-/

namespace ExpraConnect

open ExpraConnect.Lib

/-! ## Checks -/

/-- What one message meets at the target. -/
structure Handling where
  /-- The clock. -/
  now : ℚ
  /-- `_inbound_pairing_lock` is held by another request. -/
  busy : Bool
  /-- `on_pairing_request` returns `True`. -/
  approved : Bool
  /-- The transaction id that `begin` would draw. -/
  txid : String

/-- A fingerprint field of a request: any JSON value. -/
def fingerprintOf (tag : Value → ℕ) : Value → Fingerprint
  | .str s => .text s
  | v => .other (tag v)

/-- A value that is not empty has a fingerprint.  Kind: L -/
theorem fingerprintOf_ne (tag : Value → ℕ) {v : Value} (h : v.truthy = true) :
    fingerprintOf tag v ≠ .text "" := by
  cases v with
  | str s =>
      intro heq
      obtain rfl : s = "" := Fingerprint.text.inj heq
      simp [Value.truthy] at h
  | _ => exact fun heq => Fingerprint.noConfusion heq

/-- The keys that a pairing request must have.
Source: `transport/server.py`, `_pair_request_response`.  Kind: D -/
def requiredPairingFields : List String :=
  ["op", "pairing_mode", "caller_node_id", "identity_fingerprint", "transport_fingerprint",
    "secret", "permissions"]

/-- The keys that it may have.
Source: `transport/server.py`, `_pair_request_response`.  Kind: D -/
def allowedPairingFields : List String :=
  requiredPairingFields ++
    ["root_public_key", "transport_generation", "transport_proof", "intent"]

/-- `NodeId(raw["caller_node_id"])`. -/
def callerOf (raw : Fields) : Except PyError NodeId :=
  match (getField "caller_node_id" raw).bind Value.asStr? with
  | some s => NodeId.new s
  | none => .error ⟨.value, "invalid node id"⟩

/-- `raw.get("intent", "pair")`, if it is an intent.
Source: `transport/server.py`, `_pair_request_response`.  Kind: D -/
def intentOf? (raw : Fields) : Option Intent :=
  match (getField "intent" raw).getD (.str "pair") with
  | .str "pair" => some .pair
  | .str "repair" => some .repair
  | _ => none

/-- `PairingRequest(...)`, with the checks of its `__post_init__`.
Source: `transport/server.py`, `_pair_request_response`; `remote/wire_protocol.py`,
`PairingRequest`.  Kind: D -/
def pairingRequestOf (tag : Value → ℕ) (raw : Fields) (texts : List String) (intent : Intent) :
    Except PyError PairingRequest := do
  let caller ← callerOf raw
  let permissions ← texts.mapM NodePermission.new
  let identity := (getField "identity_fingerprint" raw).getD .null
  let transport := (getField "transport_fingerprint" raw).getD .null
  match (getField "secret" raw).bind Value.asStr? with
  | none => .error ⟨.value, "peer credentials must be 256-bit hex text"⟩
  | some secret =>
      if hidentity : identity.truthy = true then
        if htransport : transport.truthy = true then
          if hsecret : validWireSecret secret = true then
            if hread : permissions.toFinset ⊆ readPermissions then
              .ok {
                callerNodeId := caller
                identityFingerprint := fingerprintOf tag identity
                transportFingerprint := fingerprintOf tag transport
                proposedSecret := secret
                permissions := permissions.toFinset
                rootPublicKey := (getField "root_public_key" raw).bind Value.asStr?
                transportGeneration := (getField "transport_generation" raw).bind Value.asInt?
                transportProof := (getField "transport_proof" raw).bind Value.asStr?
                intent := intent
                identityPresent := fingerprintOf_ne tag hidentity
                transportPresent := fingerprintOf_ne tag htransport
                secretValid := hsecret
                readOnly := hread }
            else .error ⟨.remoteAuthorization, "pairing is read-only"⟩
          else .error ⟨.value, "peer credentials must be 256-bit hex text"⟩
        else .error ⟨.remoteAuth, "pairing transport fingerprint is missing"⟩
      else .error ⟨.remoteAuth, "pairing identity is missing"⟩

/-- The keys of a control.
Source: `remote/wire_protocol.py`, `validate_pairing_control_request`.  Kind: D -/
def controlFields : List String :=
  ["op", "transaction_id", "caller_node_id", "identity_fingerprint", "transport_fingerprint",
    "secret", "permissions", "expires_at"]

/-- `raw.get("op") not in {"pair_confirm", "pair_abort"}`; the lookup in a set hashes the value.
Source: `remote/wire_protocol.py`, `validate_pairing_control_request`.  Kind: D -/
def controlOpOf (raw : Fields) : Except PyError ControlOp :=
  match getField "op" raw with
  | some (.str "pair_confirm") => .ok .confirm
  | some (.str "pair_abort") => .ok .abort
  | some (.list _) => .error ⟨.type, "unhashable type: 'list'"⟩
  | some (.dict _) => .error ⟨.type, "unhashable type: 'dict'"⟩
  | _ => .error ⟨.remoteProtocol, "pairing control operation is invalid"⟩

/-- `raw["permissions"]` of a control. -/
def controlPermissionsOf (raw : Fields) : Except PyError (Finset NodePermission) :=
  match (getField "permissions" raw).bind Value.asTexts? with
  | none => .error ⟨.remoteProtocol, "pairing control permissions are invalid"⟩
  | some texts =>
      match texts.mapM NodePermission.new with
      | .error _ => .error ⟨.remoteProtocol, "pairing control permissions are invalid"⟩
      | .ok permissions =>
          if permissions.toFinset ⊆ readPermissions then .ok permissions.toFinset
          else .error ⟨.remoteAuthorization, "pairing control is read-only"⟩

/-- Source: `remote/wire_protocol.py`, `validate_pairing_control_request`.  Kind: D -/
def pairingControlOf (now : ℚ) (raw : Fields) : Except PyError PairingControlRequest := do
  let operation ← controlOpOf raw
  raiseIf (hasExactly controlFields raw = false)
    ⟨.remoteProtocol, "pairing control fields are invalid"⟩
  let transactionId ← Codec.requireStr (getField "transaction_id" raw) (· ≠ "")
    ⟨.remoteProtocol, "pairing control transaction_id is invalid"⟩
  let identity ← Codec.requireStr (getField "identity_fingerprint" raw) (· ≠ "")
    ⟨.remoteProtocol, "pairing control identity_fingerprint is invalid"⟩
  let transport ← Codec.requireStr (getField "transport_fingerprint" raw) (· ≠ "")
    ⟨.remoteProtocol, "pairing control transport_fingerprint is invalid"⟩
  let caller ← Codec.requireStr (getField "caller_node_id" raw) (· ≠ "")
    ⟨.remoteProtocol, "pairing control caller identity is invalid"⟩
  let secret ← Codec.requireStr (getField "secret" raw) validWireSecret
    ⟨.remoteProtocol, "pairing control secret is invalid"⟩
  let permissions ← controlPermissionsOf raw
  match ← ((getField "expires_at" raw).getD .null).finite? with
  | none => .error ⟨.remoteProtocol, "pairing control expiry is invalid"⟩
  | some expiresAt =>
      raiseIf (expiresAt ≤ now) ⟨.remoteProtocol, "pairing control expiry is invalid"⟩
      let callerNodeId ← NodeId.new caller
      return {
        operation := operation
        transactionId := transactionId
        callerNodeId := callerNodeId
        identityFingerprint := identity
        transportFingerprint := transport
        secret := secret
        permissions := permissions
        expiresAt := expiresAt }

/-- What a control says about the fields it was read from. -/
structure ControlRead (raw : Fields) (r : PairingControlRequest) : Prop where
  /-- `op` -/
  operation : controlOpOf raw = .ok r.operation
  /-- `caller_node_id` -/
  caller : getField "caller_node_id" raw = some (.str r.callerNodeId.value)
  /-- `secret` -/
  secret : getField "secret" raw = some (.str r.secret)
  /-- `permissions` -/
  permissions : controlPermissionsOf raw = .ok r.permissions

/-- What an accepted control was read from.  Kind: L -/
theorem pairingControlOf_eq_ok {now : ℚ} {raw : Fields} {r : PairingControlRequest}
    (h : pairingControlOf now raw = .ok r) : ControlRead raw r := by
  simp only [pairingControlOf, Except.bind_eq_ok, Except.raiseIf_eq_ok] at h
  obtain ⟨op, hop, -, -, txid, -, identity, -, transport, -, caller, hcaller, secret, hsecret,
    permissions, hpermissions, expiry, -, h⟩ := h
  cases expiry with
  | none => cases h
  | some expiresAt =>
      simp only [Except.bind_eq_ok, Except.raiseIf_eq_ok, Except.pure_eq_ok] at h
      obtain ⟨-, -, node, hnode, rfl⟩ := h
      refine ⟨hop, ?_, requireStr_eq_ok hsecret, hpermissions⟩
      rw [requireStr_eq_ok hcaller, NodeId.value_of_new hnode]

/-- The permissions of a control are those that its sender listed.  Kind: L -/
theorem controlPermissionsOf_sortedTexts {raw : Fields} {permissions back : Finset NodePermission}
    (hfield : getField "permissions" raw =
      some (sortedTexts (permissions.image NodePermission.value)))
    (h : controlPermissionsOf raw = .ok back) : back = permissions := by
  unfold controlPermissionsOf at h
  rw [hfield, Option.bind_some, sortedTexts, Value.asTexts?_list] at h
  dsimp only at h
  cases hnew : ((permissions.image NodePermission.value).sort (· ≤ ·)).mapM
      NodePermission.new with
  | error e =>
      rw [hnew] at h
      cases h
  | ok items =>
      rw [hnew] at h
      dsimp only at h
      split at h
      · obtain rfl := Except.ok.inj h
        have hread : ∀ text ∈ (permissions.image NodePermission.value).sort (· ≤ ·),
            ∃ p ∈ permissions, NodePermission.new text = .ok p := by
          intro text htext
          obtain ⟨p, hp, rfl⟩ := Finset.mem_image.mp ((Finset.mem_sort _).mp htext)
          exact ⟨p, hp, NodePermission.new_value p⟩
        ext p
        rw [List.mem_toFinset]
        constructor
        · intro hp
          obtain ⟨text, htext, htextp⟩ := Except.mem_of_mapM_eq_ok hnew p hp
          obtain ⟨q, hq, htextq⟩ := hread text htext
          obtain rfl : q = p := Except.ok.inj (htextq.symm.trans htextp)
          exact hq
        · intro hp
          have htext : p.value ∈ (permissions.image NodePermission.value).sort (· ≤ ·) :=
            (Finset.mem_sort _).mpr (Finset.mem_image_of_mem _ hp)
          obtain ⟨q, hq, hvalue⟩ := Except.exists_of_mapM_eq_ok hnew _ htext
          rw [NodePermission.new_value] at hvalue
          obtain rfl : p = q := Except.ok.inj hvalue
          exact hq
      · cases h

/-! ## Responses -/

namespace Port

/-- `{"approved": approved, "error": error}`. -/
def verdict (approved : Bool) (error : Option String) : Value :=
  .dict [("approved", .bool approved), ("error", optionalValue .str error)]

/-- The exceptions that the listener answers. -/
def answersError (e : PyError) : Bool :=
  e.kind = .key || e.kind = .type || e.kind.isValueError

/-- Source: `pairing/target.py`, `handle_pairing_request`.  Kind: D -/
def handlePairingRequest (check : SignatureCheck) (h : Handling) (r : PairingRequest) :
    PortM Fields := do
  if h.busy then return refusal "already_pending"
  else
    let v ← get
    match admission check v.host v.clock r with
    | .refused outcome => return refusal outcome
    | .repeated pending => pairingResponse pending
    | .asked => closeRequest r h.txid h.approved

/-- Source: `transport/server.py`, `_pair_request_response`.  Kind: D -/
def pairRequestResponse (check : SignatureCheck) (tag : Value → ℕ) (h : Handling)
    (raw : Fields) : PortM Value := do
  if (requiredPairingFields.all fun k => hasField k raw) &&
      (raw.all fun p => p.1 ∈ allowedPairingFields) &&
      decide ((getField "pairing_mode" raw).bind Value.asStr? = some "transactional") then
    match (getField "permissions" raw).bind Value.asTexts?, intentOf? raw with
    | some texts, some intent =>
        match pairingRequestOf tag raw texts intent with
        | .error _ => return verdict false (some "denied")
        | .ok r =>
            match ← PyM.attempt (handlePairingRequest check h r) with
            | .ok response => return .dict response
            | .error e => if answersError e then return verdict false (some "denied") else throw e
    | _, _ => return verdict false (some "invalid_pairing")
  else return verdict false (some "pairing_unavailable")

/-- Source: `transport/server.py`, `_pair_control_response`.  Kind: D -/
def pairControlResponse (raw : Fields) : PortM Value := do
  match pairingControlOf (← get).clock raw with
  | .error e => if answersError e then return verdict false (some "denied") else throw e
  | .ok r =>
      match ← PyM.attempt (handlePairingControl r) with
      | .ok true => return verdict true none
      | .ok false => return verdict false (some "denied")
      | .error e => if answersError e then return verdict false (some "denied") else throw e

/-- One pairing message.  Source: `transport/server.py`, `Handler.handle`.  Kind: D -/
def serve (check : SignatureCheck) (tag : Value → ℕ) (h : Handling) (raw : Fields) :
    PortM Value := do
  modify fun v => { v with clock := h.now }
  match (getField "op" raw).bind Value.asStr? with
  | some "pair_request" => pairRequestResponse check tag h raw
  | some "pair_confirm" => pairControlResponse raw
  | some "pair_abort" => pairControlResponse raw
  | _ => throw ⟨.remoteProtocol, "no pairing operation"⟩

/-! ## What a message does to the grants -/

variable {check : SignatureCheck} {tag : Value → ℕ} {h : Handling} {raw : Fields}
  {v : HostView PairingPort}

/-- The grants are as they were. -/
def SameGrants (v w : HostView PairingPort) : Prop :=
  w.host.pairing.grants = v.host.pairing.grants

/-- The response names the caller and the secret of the request. -/
structure Echoes (r : PairingRequest) (response : Fields) : Prop where
  /-- Its caller. -/
  caller : getField "caller_node_id" response = some (.str r.callerNodeId.value)
  /-- Its secret. -/
  secret : getField "secret" response = some (.str r.proposedSecret)

/-- A response echoes its request.  Kind: L -/
theorem pairingResponse_post {r : PairingRequest} {pending : PendingPairing}
    (hpeer : pending.peerId = r.callerNodeId) (hsecret : pending.secret = r.proposedSecret) :
    (pairingResponse pending).Post v (fun response w => w = v ∧ Echoes r response)
      (fun _ w => w = v) := by
  unfold pairingResponse
  rw [PyM.post_bind, PyM.post_get]
  split
  · exact rfl
  · refine ⟨rfl, ⟨?_, ?_⟩⟩
    · rw [← hpeer]
      rfl
    · rw [← hsecret]
      rfl

/-- A request touches no grant, and is approved only with its own caller and secret.  Kind: L -/
theorem handlePairingRequest_post (check : SignatureCheck) (h : Handling) (r : PairingRequest)
    (v : HostView PairingPort) :
    (handlePairingRequest check h r).Post v
      (fun response w => SameGrants v w ∧
        ((Value.dict response).approved = true → Echoes r response))
      (fun _ => SameGrants v) := by
  unfold handlePairingRequest
  have hrefusal : ∀ outcome, (Value.dict (refusal outcome)).approved ≠ true := fun _ => by
    rw [Value.approved, refusal, getField_cons_self]
    exact Bool.false_ne_true
  split
  · exact ⟨rfl, fun happroved => absurd happroved (hrefusal _)⟩
  · rw [PyM.post_bind, PyM.post_get]
    cases hadmission : admission check v.host v.clock r with
    | refused outcome => exact ⟨rfl, fun happroved => absurd happroved (hrefusal _)⟩
    | repeated pending =>
        obtain ⟨hpeer, hsecret⟩ := repeated_eq hadmission
        refine (pairingResponse_post hpeer hsecret).mono ?_ ?_
        · rintro response w ⟨rfl, hechoes⟩
          exact ⟨rfl, fun _ => hechoes⟩
        · rintro e w rfl
          rfl
    | asked =>
        obtain ⟨response, w, hrun, hclosing⟩ := closeRequest_spec v r h.txid h.approved
        refine PyM.post_of_run hrun ?_
        generalize h.approved = approved at hclosing
        cases hclosing with
        | denied => exact ⟨rfl, fun happroved => absurd happroved (hrefusal _)⟩
        | busy => exact ⟨rfl, fun happroved => absurd happroved (hrefusal _)⟩
        | unsaved pending m hbegin =>
            obtain ⟨-, -, d, rfl⟩ := PairingManager.begin_eq_ok hbegin
            exact ⟨rfl, fun happroved => absurd happroved (hrefusal _)⟩
        | begun pending m response hbegin hresponse =>
            obtain ⟨hpeer, hsecret, d, rfl⟩ := PairingManager.begin_eq_ok hbegin
            exact ⟨rfl, fun _ =>
              (PyM.post_of_ok (pairingResponse_post hpeer hsecret) hresponse).2⟩

/-- A verdict approves what it says.  Kind: L -/
theorem approved_verdict (b : Bool) (error : Option String) :
    (verdict b error).approved = b := by
  rw [verdict, Value.approved, getField_cons_self]

/-- A `pair_request` touches no grant, and is approved only with its own caller and secret.
Kind: L -/
theorem pairRequestResponse_post (check : SignatureCheck) (tag : Value → ℕ) (h : Handling)
    (raw : Fields) (v : HostView PairingPort) :
    (pairRequestResponse check tag h raw).Post v
      (fun answer w => SameGrants v w ∧
        (answer.approved = true → ∃ texts intent r response, answer = .dict response ∧
          pairingRequestOf tag raw texts intent = .ok r ∧ Echoes r response))
      (fun _ => SameGrants v) := by
  have hverdict : ∀ error P, (verdict false error).approved = true → P := fun error P htrue => by
    rw [approved_verdict] at htrue
    exact absurd htrue Bool.false_ne_true
  unfold pairRequestResponse
  split
  · split
    · rename_i texts intent htexts hintent
      cases hr : pairingRequestOf tag raw texts intent with
      | error e => exact ⟨rfl, hverdict _ _⟩
      | ok r =>
          refine (handlePairingRequest_post check h r v).attempt.bind ?_
          rintro (e | response) w hw
          · dsimp only
            split
            · exact ⟨hw, hverdict _ _⟩
            · exact hw
          · exact ⟨hw.1, fun happroved => ⟨texts, intent, r, response, rfl, hr, hw.2 happroved⟩⟩
    · exact ⟨rfl, hverdict _ _⟩
  · exact ⟨rfl, hverdict _ _⟩

/-- The message confirms a transaction that is there.  This is about the port before it arrives. -/
def commits (now : ℚ) (raw : Fields) (p : PairingPort) : Bool :=
  match pairingControlOf now raw with
  | .error _ => false
  | .ok r =>
      match p.pairing.pending.get? r.transactionId, p.pendingPermissions.get? r.transactionId with
      | some pending, some expected =>
          decide (r.operation = .confirm) && decide (r.Matches pending expected)
      | _, _ => false

/-- A confirmation that addresses a transaction commits it.  Kind: L -/
theorem commits_of_addresses {now : ℚ} {r : PairingControlRequest} {pending : PendingPairing}
    {expected : Finset PermissionItem} (hr : pairingControlOf now raw = .ok r)
    (hop : r.operation = .confirm) (h : Addresses v r pending expected) :
    commits now raw v.host = true := by
  simp only [commits, hr, h.found, h.allowed, hop, h.matched, decide_true, Bool.and_self]

/-- Only a `pair_confirm` confirms.  Kind: L -/
theorem commits_of_op {now : ℚ} {p : PairingPort} (h : commits now raw p = true) :
    getField "op" raw = some (.str "pair_confirm") := by
  unfold commits at h
  cases hr : pairingControlOf now raw with
  | error e =>
      rw [hr] at h
      cases h
  | ok r =>
      simp only [hr] at h
      have hconfirm : r.operation = .confirm := by
        split at h
        · exact of_decide_eq_true (Bool.and_eq_true_iff.mp h).1
        · cases h
      have hop := (pairingControlOf_eq_ok hr).operation
      rw [hconfirm] at hop
      unfold controlOpOf at hop
      split at hop
      · assumption
      all_goals cases hop

/-- A control that confirms no transaction touches no grant.  Kind: L -/
theorem pairControlResponse_grants (hcommits : commits v.clock raw v.host = false) :
    (pairControlResponse raw).Post v (fun _ => SameGrants v) (fun _ => SameGrants v) := by
  unfold pairControlResponse
  rw [PyM.post_bind, PyM.post_get]
  cases hr : pairingControlOf v.clock raw with
  | error e =>
      dsimp only
      split <;> rfl
  | ok r =>
      obtain ⟨b, w, hrun, hcontrol⟩ := handlePairingControl_spec v r
      have hgrants : SameGrants v w := by
        cases hcontrol with
        | refused => rfl
        | aborted => rfl
        | confirmed pending expected b w haddresses hop =>
            rw [commits_of_addresses hr hop haddresses] at hcommits
            cases hcommits
      refine PyM.Post.bind (P := fun _ => SameGrants v)
        (PyM.post_of_run (by rw [PyM.attempt, hrun]) hgrants) ?_
      rintro (e | b) w hw
      · dsimp only
        split <;> exact hw
      · cases b <;> exact hw

/-- A confirmation made the grant of its transaction. -/
structure Confirms (v : HostView PairingPort) (raw : Fields) (w : HostView PairingPort)
    (r : PairingControlRequest) (pending : PendingPairing) (expected : Finset PermissionItem) :
    Prop where
  /-- The message is this control. -/
  control : pairingControlOf v.clock raw = .ok r
  /-- It addresses this transaction. -/
  addresses : Addresses v r pending expected
  /-- The grants are those from before and the one of the transaction. -/
  grants : w.host.pairing.grants = v.host.pairing.grants.insert pending.peerId
    (PairingManager.grantOf pending expected)

/-- A confirmation that is answered `True` made the grant of its transaction.  Kind: L -/
theorem pairControlResponse_approved (hop : controlOpOf raw = .ok .confirm) :
    (pairControlResponse raw).Post v
      (fun answer w => answer.approved = true → ∃ r pending expected,
        Confirms v raw w r pending expected)
      (fun _ _ => True) := by
  have hno : ∀ error P, (verdict false error).approved = true → P := fun error P htrue => by
    rw [approved_verdict] at htrue
    exact absurd htrue Bool.false_ne_true
  unfold pairControlResponse
  rw [PyM.post_bind, PyM.post_get]
  cases hr : pairingControlOf v.clock raw with
  | error e =>
      dsimp only
      split
      · exact hno _ _
      · trivial
  | ok r =>
      have hconfirm : r.operation = .confirm :=
        (Except.ok.inj (hop.symm.trans (pairingControlOf_eq_ok hr).operation)).symm
      obtain ⟨b, w, hrun, hcontrol⟩ := handlePairingControl_spec v r
      have hmade : b = true → ∃ r pending expected, Confirms v raw w r pending expected := by
        intro hb
        cases hcontrol with
        | refused => cases hb
        | aborted pending expected haddresses habort => cases habort.symm.trans hconfirm
        | confirmed pending expected b w haddresses _ hw =>
            cases hw with
            | refused => cases hb
            | putBack => cases hb
            | confirmed grant w happroval hreport =>
                obtain ⟨m, auth, hm, -, rfl⟩ := happroval.of_ok
                obtain ⟨t, hactive, -, rfl, rfl⟩ := PairingManager.approve_eq_ok.mp hm.approves
                obtain ⟨ht, -⟩ := PairingManager.active_eq_ok.mp hactive
                obtain rfl : t = pending := Option.some.inj (ht.symm.trans haddresses.found)
                exact ⟨r, t, expected, hr, haddresses, rfl⟩
      have hattempt : (handlePairingControl r).attempt v = .ok (.ok b) w := by
        rw [PyM.attempt, hrun]
      rw [PyM.post_bind]
      refine PyM.post_of_run hattempt ?_
      cases b with
      | false => exact hno _ _
      | true => exact fun _ => hmade rfl

/-- Where the service accepts the grants, a confirmation is answered `True` exactly if it made the
grant of its transaction.  Kind: L -/
theorem pairControlResponse_confirm (hvalid : GrantsValid v.host.pairing)
    (hop : controlOpOf raw = .ok .confirm)
    (hsecret : ∀ r, pairingControlOf v.clock raw = .ok r → validSecret r.secret = true) :
    (pairControlResponse raw).Post v
      (fun answer w => (answer.approved = true ∧ ∃ r pending expected,
          Confirms v raw w r pending expected) ∨ (answer.approved = false ∧ SameGrants v w))
      (fun _ => SameGrants v) := by
  unfold pairControlResponse
  rw [PyM.post_bind, PyM.post_get]
  cases hr : pairingControlOf v.clock raw with
  | error e =>
      dsimp only
      split
      · exact .inr ⟨approved_verdict _ _, rfl⟩
      · rfl
  | ok r =>
      have hconfirm : r.operation = .confirm :=
        (Except.ok.inj (hop.symm.trans (pairingControlOf_eq_ok hr).operation)).symm
      obtain ⟨b, w, hrun, hhandled⟩ := handlePairingControl_handled (r := r) hvalid (by
        intro t permissions haddresses
        refine ⟨haddresses.matched.2.2.2.2.1 ▸ hsecret r hr, ?_⟩
        rw [haddresses.matched.1, ← texts_permissionValues]
        exact texts_known _)
      have hresult : (b = true ∧ ∃ r pending expected, Confirms v raw w r pending expected) ∨
          (b = false ∧ SameGrants v w) := by
        cases hhandled with
        | idle w hclock hpairing => exact .inr ⟨rfl, congrArg PairingManager.grants hpairing⟩
        | dropped b w habort =>
            cases hconfirm.symm.trans habort
        | granted t permissions w hclock haddresses _ _ hpairing =>
            exact .inl ⟨rfl, r, t, permissions, hr, haddresses,
              congrArg PairingManager.grants hpairing⟩
      have hattempt : (handlePairingControl r).attempt v = .ok (.ok b) w := by
        rw [PyM.attempt, hrun]
      rw [PyM.post_bind]
      refine PyM.post_of_run hattempt ?_
      rcases hresult with ⟨rfl, hconfirms⟩ | ⟨rfl, hsame⟩
      · exact .inl ⟨approved_verdict _ _, hconfirms⟩
      · exact .inr ⟨approved_verdict _ _, hsame⟩

/-! ## One message -/

/-- A message that confirms no transaction touches no grant.  Kind: L -/
theorem serve_grants (check : SignatureCheck) (tag : Value → ℕ)
    (hcommits : commits h.now raw v.host = false) :
    (serve check tag h raw).Post v (fun _ => SameGrants v) (fun _ => SameGrants v) := by
  unfold serve
  rw [PyM.post_bind, PyM.post_modify]
  split
  · exact (pairRequestResponse_post check tag h raw _).mono (fun _ _ hw => hw.1) fun _ _ hw => hw
  · exact pairControlResponse_grants (v := { v with clock := h.now }) hcommits
  · exact pairControlResponse_grants (v := { v with clock := h.now }) hcommits
  · rfl

/-- A `pair_request` touches no grant, and is approved only with its own caller and secret.
Kind: L -/
theorem serve_request (check : SignatureCheck) (tag : Value → ℕ)
    (hop : getField "op" raw = some (.str "pair_request")) :
    (serve check tag h raw).Post v
      (fun answer w => SameGrants v w ∧
        (answer.approved = true → ∃ texts intent r response, answer = .dict response ∧
          pairingRequestOf tag raw texts intent = .ok r ∧ Echoes r response))
      (fun _ => SameGrants v) := by
  unfold serve
  rw [PyM.post_bind, PyM.post_modify, hop]
  exact pairRequestResponse_post check tag h raw _

/-- A `pair_confirm` is answered `True` exactly if it made the grant of its transaction.  Kind: L -/
theorem serve_confirm (check : SignatureCheck) (tag : Value → ℕ)
    (hvalid : GrantsValid v.host.pairing)
    (hop : getField "op" raw = some (.str "pair_confirm"))
    (hsecret : ∀ r, pairingControlOf h.now raw = .ok r → validSecret r.secret = true) :
    (serve check tag h raw).Post v
      (fun answer w => (answer.approved = true ∧ ∃ r pending expected,
          Confirms { v with clock := h.now } raw w r pending expected) ∨
        (answer.approved = false ∧ SameGrants v w))
      (fun _ => SameGrants v) := by
  have hconfirm : controlOpOf raw = .ok .confirm := by
    unfold controlOpOf
    rw [hop]
    rfl
  unfold serve
  rw [PyM.post_bind, PyM.post_modify, hop]
  exact pairControlResponse_confirm (v := { v with clock := h.now }) hvalid hconfirm hsecret

/-- A `pair_confirm` that is answered `True` made the grant of its transaction.  Kind: L -/
theorem serve_approved (check : SignatureCheck) (tag : Value → ℕ)
    (hop : getField "op" raw = some (.str "pair_confirm")) :
    (serve check tag h raw).Post v
      (fun answer w => answer.approved = true → ∃ r pending expected,
        Confirms { v with clock := h.now } raw w r pending expected)
      (fun _ _ => True) := by
  have hconfirm : controlOpOf raw = .ok .confirm := by
    unfold controlOpOf
    rw [hop]
    rfl
  unfold serve
  rw [PyM.post_bind, PyM.post_modify, hop]
  exact pairControlResponse_approved (v := { v with clock := h.now }) hconfirm

/-- A request of a caller that has a grant, without a root: the grant is not continuous.  Kind: L -/
theorem grantRootContinuous_none (check : SignatureCheck) (g : PairingManager.PeerGrant)
    (generation : Option ℤ) (fingerprint : Fingerprint) (proof : Option String) :
    grantRootContinuous check g none generation fingerprint proof = false := by
  unfold grantRootContinuous
  cases g.rootPublicKey with
  | none => rfl
  | some root =>
      dsimp only
      split
      · rfl
      · rfl

/-- Such a request is answered with a conflict.  Kind: L -/
theorem handlePairingRequest_conflict {r : PairingRequest} {g : PairingManager.PeerGrant}
    (hroot : r.rootPublicKey = none) (hself : r.callerNodeId ≠ v.host.nodeId)
    (hgrant : v.host.pairing.grants.get? r.callerNodeId = some g) (hfree : h.busy = false) :
    handlePairingRequest check h r v = .ok (refusal "identity_conflict") v := by
  have hadmission : admission check v.host v.clock r = .refused "identity_conflict" := by
    unfold admission
    rw [if_neg hself, hgrant, hroot]
    simp only [grantRootContinuous_none, Bool.not_false, if_true]
  unfold handlePairingRequest
  rw [hfree]
  simp only [Bool.false_eq_true, if_false, PyM.bind_apply, PyM.get_apply, hadmission,
    PyM.pure_apply]

end Port

end ExpraConnect
