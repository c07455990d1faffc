import ExpraConnect.Pairing.Flow
import ExpraConnect.Pairing.ManagerFacts

/-!
# What a failed pairing leaves behind

After `begin` every exit of `_establish` but the last should put the pairing manager back as it
was.  With everything outside the initiator given by a `Script`:

* `PairingManager.unwound`: what `_rollback` leaves, wherever the flow was (`rollback_begun`,
  `rollback_accepted`); it is what was there before unless an outbound remnant of a peer without
  trust goes with it (`unwound_eq_self_iff`);
* `Script.fate`: which exits roll back and which leak; `afterBegin_fate` is the case analysis of
  the code, once;
* `establish_restores_iff`: the manager is as before after every exception exactly if the exits
  that leak are not taken.
-/

namespace ExpraConnect

open ExpraConnect.Lib

namespace PairingManager

variable {m : PairingManager} {peer : NodeId} {t : PendingPairing}

/-! ## The manager before and after -/

/-- What a rollback leaves of a manager: without a trust record of the peer it revokes. -/
def unwound (m : PairingManager) (peer : NodeId) : PairingManager :=
  match m.trusted.get? peer with
  | some _ => m
  | none => m.revokeTrusted peer

/-- A peer without a trust record has an outbound transaction, necessarily an expired one, or a
mark of a broken authentication. -/
structure Remnant (m : PairingManager) (peer : NodeId) : Prop where
  /-- No trust record. -/
  untrusted : m.trusted.get? peer = none
  /-- What a revocation takes along. -/
  remains : peer ∈ m.authBroken ∨
    ∃ t ∈ m.pending.values, t.peerId = peer ∧ t.direction = .outbound

/-- When revoking an unknown peer changes nothing.  Kind: L -/
theorem revokeTrusted_eq_self_iff (hnone : m.trusted.get? peer = none) :
    m.revokeTrusted peer = m ↔
      peer ∉ m.authBroken ∧
        ∀ t ∈ m.pending.values, ¬(t.peerId = peer ∧ t.direction = .outbound) := by
  have hpending : (m.pending.filterEntries fun p =>
      ¬(p.2.peerId = peer ∧ p.2.direction = .outbound)) = m.pending ↔
      ∀ t ∈ m.pending.values, ¬(t.peerId = peer ∧ t.direction = .outbound) := by
    rw [Dict.filterEntries_eq_self_iff]
    simp only [decide_eq_true_eq, Dict.values, List.mem_map, forall_exists_index, and_imp,
      forall_apply_eq_imp_iff₂]
  constructor
  · intro h
    have hbroken : m.authBroken.erase peer = m.authBroken := congrArg PairingManager.authBroken h
    exact ⟨Finset.erase_eq_self.mp hbroken, hpending.mp (congrArg PairingManager.pending h)⟩
  · rintro ⟨hbroken, hnone'⟩
    unfold revokeTrusted
    rw [Dict.erase_of_fresh hnone, Finset.erase_eq_of_notMem hbroken, hpending.mpr hnone']

/-- A rollback restores the manager unless it takes a remnant along.  Kind: L -/
theorem unwound_eq_self_iff : m.unwound peer = m ↔ ¬m.Remnant peer := by
  unfold unwound
  cases htrusted : m.trusted.get? peer with
  | some t => exact iff_of_true rfl fun h => by cases h.untrusted.symm.trans htrusted
  | none =>
      rw [revokeTrusted_eq_self_iff htrusted]
      constructor
      · rintro ⟨hbroken, hpending⟩ ⟨-, h | ⟨t, ht, hout⟩⟩
        · exact hbroken h
        · exact hpending t ht hout
      · intro h
        exact ⟨fun hb => h ⟨htrusted, .inl hb⟩,
          fun t ht hout => h ⟨htrusted, .inr ⟨t, ht, hout⟩⟩⟩

/-- The manager with a transaction begun. -/
def begun (m : PairingManager) (t : PendingPairing) : PairingManager :=
  { m with pending := m.pending.insert t.transactionId t }

/-- The manager with the transaction accepted. -/
def committed (m : PairingManager) (trusted : TrustedPeer) : PairingManager :=
  { m with
    trusted := m.trusted.insert trusted.peerId trusted
    authBroken := m.authBroken.erase trusted.peerId }

/-- A begun transaction shows.  Kind: L -/
theorem begun_ne_self (hfresh : m.pending.get? t.transactionId = none) : m.begun t ≠ m := by
  intro h
  have hget := congrArg (fun n => n.pending.get? t.transactionId) h
  simp [begun, hfresh] at hget

/-- The rollback of a transaction that was only begun.  Kind: L -/
theorem rollback_begun (hfresh : m.pending.get? t.transactionId = none) :
    ((m.begun t).abort t.transactionId).restoreTrusted peer (m.trusted.get? peer)
      (decide (peer ∈ m.authBroken)) = m.unwound peer := by
  have habort : (m.begun t).abort t.transactionId = m := by
    simp [begun, abort, Dict.erase_insert_of_fresh hfresh]
  rw [habort]
  unfold unwound restoreTrusted
  cases htrusted : m.trusted.get? peer with
  | none => rfl
  | some old =>
      by_cases hb : peer ∈ m.authBroken
      · simp [Dict.insert_of_get? htrusted, hb]
      · simp [Dict.insert_of_get? htrusted, hb, Finset.erase_eq_of_notMem]

/-- The rollback of a transaction whose grant was accepted.  Kind: L -/
theorem rollback_committed {trusted : TrustedPeer} (hpeer : trusted.peerId = peer)
    {txid : String} (hfresh : m.pending.get? txid = none) :
    ((m.committed trusted).abort txid).restoreTrusted peer (m.trusted.get? peer)
      (decide (peer ∈ m.authBroken)) = m.unwound peer := by
  subst hpeer
  have hpending : m.pending.erase txid = m.pending := Dict.erase_of_fresh hfresh
  unfold unwound restoreTrusted
  cases htrusted : m.trusted.get? trusted.peerId with
  | none =>
      simp [committed, abort, revokeTrusted, hpending, Dict.erase_insert_of_fresh htrusted,
        Dict.erase_of_fresh htrusted]
  | some old =>
      by_cases hb : trusted.peerId ∈ m.authBroken
      · simp [committed, abort, hpending, Dict.insert_of_get? htrusted, hb, Finset.insert_erase]
      · simp [committed, abort, hpending, Dict.insert_of_get? htrusted, hb,
          Finset.erase_eq_of_notMem]

/-- `accept_grant` of the own transaction, with what it was begun with.  Kind: L -/
theorem acceptGrant_begun {now : ℚ} {grant : PeerGrant} {material : Material}
    (hfresh : m.pending.get? t.transactionId = none) (hcaller : grant.callerId = m.localId)
    (hmaterial : grant.toMaterial = t.toMaterial) :
    (m.begun t).acceptGrant now t.transactionId t.peerId grant material =
      if now < t.expiresAt then
        let trusted : TrustedPeer :=
          { material with peerId := t.peerId, secret := t.secret, permissions := grant.permissions }
        .ok (trusted, m.committed trusted)
      else .error ⟨.value, "pairing transaction is missing or expired"⟩ := by
  have hget : (m.begun t).pending.get? t.transactionId = some t := Dict.get?_insert_self _ _ _
  by_cases hlive : now < t.expiresAt
  · have hactive : (m.begun t).active now t.transactionId = .ok t := by
      simp only [active, hget, Option.filter, hlive, decide_true, if_true]
    have herase : (m.begun t).pending.erase t.transactionId = m.pending :=
      Dict.erase_insert_of_fresh hfresh
    have hbound : ¬(t.peerId ≠ t.peerId ∨ grant.callerId ≠ (m.begun t).localId) := by
      simp [begun, hcaller]
    rw [if_pos hlive]
    refine Except.bind_eq_ok.mpr ⟨t, hactive, Except.bind_eq_ok.mpr
      ⟨(), Except.raiseIf_eq_ok.mpr hbound, Except.bind_eq_ok.mpr
        ⟨(), Except.raiseIf_eq_ok.mpr (not_not_intro hmaterial), ?_⟩⟩⟩
    rw [herase]
    rfl
  · have hactive : (m.begun t).active now t.transactionId =
        .error ⟨.value, "pairing transaction is missing or expired"⟩ := by
      simp only [active, hget, Option.filter, hlive, decide_false, Bool.false_eq_true, if_false]
    rw [if_neg hlive]
    simp only [acceptGrant, hactive]
    rfl

end PairingManager

/-! ## Everything outside, as a script -/

/-- What is outside, with an answer for every place at which the flow asks; a call passes each
place at most once. -/
structure Script where
  /-- Whether the cancel event is set. -/
  cancelled : Checkpoint → Bool
  /-- What the clock shows. -/
  clock : ClockRead → ℚ
  /-- What building the transport of a route raises. -/
  connect : ℕ → Except PyError Unit
  /-- What a request on a route comes to. -/
  request : ℕ → Except PyError (Option Value)
  /-- What a pairing control comes to. -/
  control : ControlOp → Except PyError (Option Value)
  /-- Whether the store could be written. -/
  persists : PersistAt → Bool

namespace Script

/-- The script as an environment. -/
def env (W : Script) : FlowEnv Unit where
  cancelled c u := (W.cancelled c, u)
  clock c u := (W.clock c, u)
  connect i _ _ u := (W.connect i, u)
  request i _ _ u := (W.request i, u)
  control op _ _ u := (W.control op, u)
  persist p _ u := (W.persists p, u)

variable (W : Script)

/-- What one route comes to: an exception, `False` or a response. -/
def routeOutcome (i : ℕ) : Except PyError (Option Fields) := do
  W.connect i
  if W.cancelled (.beforeRequest i) then return none
  else
    let answer ← W.request i
    if W.cancelled (.afterRequest i) then return none
    else return pairingResponse? (← loaded answer)

/-- What ends the loop over the routes: the first outcome that is not an exception of the transport
which lets the next route be tried. -/
def decisive : ℕ → List EndpointCandidate →
    Option (Except PyError (EndpointCandidate × Option Fields))
  | _, [] => none
  | i, endpoint :: rest =>
      match W.routeOutcome i with
      | .ok response => some (.ok (endpoint, response))
      | .error e =>
          if NetworkPairing.passesOn e then decisive (i + 1) rest else some (.error e)

/-- After the grant was accepted nothing stops the call: it is not cancelled, the trust is
persisted, and the target confirms. -/
def confirmed : Bool :=
  !W.cancelled .accepted && W.persists .commit && !W.cancelled .persisted &&
    !W.cancelled .confirming &&
    match W.control .confirm >>= loaded with
    | .ok response => response.approved
    | .error _ => false

end Script

/-- How a call ends after `begin`: it returns, it raises after a rollback, or it raises without. -/
inductive Fate where
  | returned | unwound | leaked
  deriving DecidableEq

/-- The exits of `_establish` after `begin`, of a transaction that expires at `expires`. -/
def Script.fate (W : Script) (permissions : Finset String) (expires : ℚ)
    (routes : List EndpointCandidate) : Fate :=
  match W.decisive 0 routes with
  | none => .unwound
  | some (.error _) => .leaked
  | some (.ok (_, none)) => .unwound
  | some (.ok (endpoint, some response)) =>
      match NetworkPairing.acceptedPermissions permissions response with
      | .error _ => .unwound
      | .ok accepted =>
          match NetworkPairing.transactionOf response accepted endpoint with
          | .error _ => .leaked
          | .ok _ =>
              if W.clock .accept < expires then if W.confirmed then .returned else .unwound
              else .leaked

namespace Script

variable (W : Script) (s : FlowState Unit)

/-- Equation lemma of `cancelled` in a script.  Kind: L -/
@[simp] theorem call_cancelled (c : Checkpoint) :
    FlowEnv.call (W.env.cancelled c) s = .ok (W.cancelled c) s := rfl

/-- Equation lemma of `clock` in a script.  Kind: L -/
@[simp] theorem call_clock (c : ClockRead) :
    FlowEnv.call (W.env.clock c) s = .ok (W.clock c) s := rfl

/-- Equation lemma of `env` in a script.  Kind: L -/
@[simp] theorem save_env (p : PersistAt) : W.env.save p s = .ok (W.persists p) s := rfl

/-- Equation lemma of `connect` in a script.  Kind: L -/
@[simp] theorem callRaising_connect (i : ℕ) (endpoint : EndpointCandidate) (fp : String) :
    FlowEnv.callRaising (W.env.connect i endpoint fp) s = PyM.ofExcept (W.connect i) s := by
  change FlowEnv.callRaising (fun u => (W.connect i, u)) s = _
  cases h : W.connect i <;> rfl

/-- Equation lemma of `request` in a script.  Kind: L -/
@[simp] theorem callRaising_request (i : ℕ) (endpoint : EndpointCandidate) (message : Fields) :
    FlowEnv.callRaising (W.env.request i endpoint message) s =
      PyM.ofExcept (W.request i) s := by
  change FlowEnv.callRaising (fun u => (W.request i, u)) s = _
  cases h : W.request i <;> rfl

/-- Equation lemma of `control` in a script.  Kind: L -/
@[simp] theorem callRaising_control (op : ControlOp) (endpoint : EndpointCandidate)
    (message : Fields) :
    FlowEnv.callRaising (W.env.control op endpoint message) s =
      PyM.ofExcept (W.control op) s := by
  change FlowEnv.callRaising (fun u => (W.control op, u)) s = _
  cases h : W.control op <;> rfl

/-- The flow's attempt at one route is what the script says of it.  Kind: L -/
theorem attempt_route (i : ℕ) (endpoint : EndpointCandidate) (fp : String) (message : Fields) :
    PyM.attempt (do
      FlowEnv.callRaising (W.env.connect i endpoint fp)
      requestPairing W.env i endpoint message) s = .ok (W.routeOutcome i) s := by
  simp only [PyM.attempt, PyM.bind_apply, callRaising_connect, PyM.ofExcept_apply, routeOutcome,
    requestPairing, call_cancelled]
  cases hconnect : W.connect i with
  | error e => rfl
  | ok u =>
      cases hbefore : W.cancelled (.beforeRequest i) with
      | true => rfl
      | false =>
          simp only [Bool.false_eq_true, if_false, PyM.bind_apply, callRaising_request,
            PyM.ofExcept_apply]
          cases hrequest : W.request i with
          | error e => rfl
          | ok answer =>
              cases hafter : W.cancelled (.afterRequest i) with
              | true =>
                  simp only [call_cancelled, hafter]
                  rfl
              | false =>
                  simp only [PyM.bind_apply, call_cancelled, hafter, Bool.false_eq_true,
                    if_false, PyM.ofExcept_apply]
                  change _ = EStateM.Result.ok
                    (loaded answer >>= fun v => pure (pairingResponse? v)) s
                  cases loaded answer <;> rfl

/-- The loop over the routes is what the script says of it, and changes nothing.  Kind: L -/
theorem tryRoutes_script (fp : String) (message : Fields) (i : ℕ)
    (routes : List EndpointCandidate) (errors : List PyError) :
    match W.decisive i routes with
    | none => ∃ errors', NetworkPairing.tryRoutes W.env fp message i routes errors s =
        .ok (.error errors') s
    | some (.error e) => NetworkPairing.tryRoutes W.env fp message i routes errors s = .error e s
    | some (.ok answer) =>
        NetworkPairing.tryRoutes W.env fp message i routes errors s = .ok (.ok answer) s := by
  induction routes generalizing i errors with
  | nil => exact ⟨errors, rfl⟩
  | cons endpoint rest ih =>
      simp only [decisive, NetworkPairing.tryRoutes, PyM.bind_apply, attempt_route]
      cases houtcome : W.routeOutcome i with
      | ok response => rfl
      | error e =>
          cases hpasses : NetworkPairing.passesOn e with
          | true =>
              simp only [hpasses, if_true]
              exact ih _ _
          | false =>
              simp only [hpasses, Bool.false_eq_true, if_false]
              rfl

end Script

namespace NetworkPairing

variable (W : Script) {self : NetworkPairing} {a : Attempt} {o : Opening} {t : PendingPairing}
  {m : PairingManager}

/-- What a rollback does in a script.  Kind: L -/
theorem rollback_script (peer : NodeId) (previous : Option TrustedPeer) (broken : Bool)
    (txid : String) (n : PairingManager) :
    rollback W.env peer previous broken txid ⟨n, ()⟩ =
      .ok () ⟨(n.abort txid).restoreTrusted peer previous broken, ()⟩ := rfl

/-- What the flow keeps of the state before `begin`, and what its transaction is. -/
structure Begun (net : NetworkPairing) (a : Attempt) (o : Opening) (t : PendingPairing)
    (m : PairingManager) : Prop where
  /-- The manager is the initiator's own. -/
  localId : m.localId = net.nodeId
  /-- The transaction id is new. -/
  fresh : m.pending.get? t.transactionId = none
  /-- The transaction is with the peer. -/
  peer : t.peerId = a.peer
  /-- It carries the own material. -/
  material : t.toMaterial = o.material
  /-- The trust that a rollback restores. -/
  previous : o.previous = m.trusted.get? a.peer
  /-- The mark that a rollback restores. -/
  previousBroken : o.previousBroken = decide (a.peer ∈ m.authBroken)

/-- Every rollback of the flow, from wherever the transaction was only begun.  Kind: L -/
theorem rollback_of_begun (h : Begun self a o t m) :
    rollback W.env a.peer o.previous o.previousBroken t.transactionId ⟨m.begun t, ()⟩ =
      .ok () ⟨m.unwound a.peer, ()⟩ := by
  rw [rollback_script, h.previous, h.previousBroken, PairingManager.rollback_begun h.fresh]

/-- Every rollback of the flow, from wherever the grant was accepted.  Kind: L -/
theorem rollback_of_committed (h : Begun self a o t m) {trusted : TrustedPeer}
    (hpeer : trusted.peerId = a.peer) :
    rollback W.env a.peer o.previous o.previousBroken t.transactionId
      ⟨m.committed trusted, ()⟩ = .ok () ⟨m.unwound a.peer, ()⟩ := by
  rw [rollback_script, h.previous, h.previousBroken,
    PairingManager.rollback_committed hpeer h.fresh]

/-- `accept_grant` only looks at the clock.  Kind: L -/
theorem accept_script (h : Begun self a o t m) (accepted : Finset NodePermission) :
    if W.clock .accept < t.expiresAt then
      ∃ trusted, trusted.peerId = a.peer ∧
        accept W.env self a o t accepted ⟨m.begun t, ()⟩ = .ok trusted ⟨m.committed trusted, ()⟩
    else ∃ e, accept W.env self a o t accepted ⟨m.begun t, ()⟩ = .error e ⟨m.begun t, ()⟩ := by
  have hrun : accept W.env self a o t accepted ⟨m.begun t, ()⟩ =
      match (m.begun t).acceptGrant (W.clock .accept) t.transactionId a.peer
        (assumedGrant self o t accepted) (announced o.candidate) with
      | .ok (trusted, n) => .ok trusted ⟨n, ()⟩
      | .error e => .error e ⟨m.begun t, ()⟩ := by
    simp only [accept, PyM.bind_apply, Script.call_clock, PyM.get_apply, PyM.ofExcept_apply]
    cases hgrant : (m.begun t).acceptGrant (W.clock .accept) t.transactionId a.peer
      (assumedGrant self o t accepted) (announced o.candidate) with
    | ok r => rfl
    | error e => rfl
  rw [hrun, ← h.peer, PairingManager.acceptGrant_begun h.fresh h.localId.symm h.material.symm]
  by_cases hlive : W.clock .accept < t.expiresAt
  · simp only [hlive, if_true]
    exact ⟨_, rfl, rfl⟩
  · simp only [hlive, if_false]
    exact ⟨_, rfl⟩

/-- A control changes nothing at the initiator.  Kind: L -/
theorem pairingControl_script (s : FlowState Unit) (p : PairingTransaction) (op : ControlOp) :
    pairingControl W.env p op s =
      PyM.ofExcept ((W.control op >>= loaded).map Value.approved) s := by
  simp only [pairingControl, PyM.bind_apply, Script.callRaising_control, PyM.ofExcept_apply]
  cases hcontrol : W.control op with
  | error e => rfl
  | ok answer =>
      have hbind : (Except.ok answer >>= loaded) = loaded answer := rfl
      simp only [hbind]
      cases loaded answer <;> rfl

/-- The exits of a cancelled call.  Kind: L -/
theorem cancelAccepted_script (h : Begun self a o t m) {trusted : TrustedPeer}
    (hpeer : trusted.peerId = a.peer) (p : PairingTransaction) (e : PyError) :
    ∃ e', (do cancelAccepted W.env a o t p; throw e : PyM (FlowState Unit) TrustedPeer)
      ⟨m.committed trusted, ()⟩ = .error e' ⟨m.unwound a.peer, ()⟩ := by
  simp only [cancelAccepted, PyM.bind_apply, rollback_of_committed W h hpeer, abortPairing,
    pairingControl_script, PyM.ofExcept_apply]
  cases (W.control .abort >>= loaded).map Value.approved with
  | ok b => exact ⟨e, rfl⟩
  | error e' => exact ⟨e', rfl⟩

/-- The exits that abort first: whatever comes of the abort, the rollback is made.  Kind: L -/
theorem abortThenRollback_script (h : Begun self a o t m) {trusted : TrustedPeer}
    (hpeer : trusted.peerId = a.peer) (p : PairingTransaction) (e : PyError) :
    ∃ e', (do abortThenRollback W.env a o t p; throw e : PyM (FlowState Unit) TrustedPeer)
      ⟨m.committed trusted, ()⟩ = .error e' ⟨m.unwound a.peer, ()⟩ := by
  simp only [abortThenRollback, PyM.attempt, PyM.bind_apply, abortPairing,
    pairingControl_script, PyM.ofExcept_apply]
  cases (W.control .abort >>= loaded).map Value.approved with
  | ok b =>
      simp only [rollback_of_committed W h hpeer]
      exact ⟨e, rfl⟩
  | error e' =>
      simp only [rollback_of_committed W h hpeer]
      exact ⟨e', rfl⟩

/-- After the grant was accepted a call returns or rolls back.  Kind: L -/
theorem settle_script (h : Begun self a o t m) {trusted : TrustedPeer}
    (hpeer : trusted.peerId = a.peer) (p : PairingTransaction) :
    if W.confirmed then
      settle W.env a o t p trusted ⟨m.committed trusted, ()⟩ =
        .ok trusted ⟨m.committed trusted, ()⟩
    else
      ∃ e, settle W.env a o t p trusted ⟨m.committed trusted, ()⟩ =
        .error e ⟨m.unwound a.peer, ()⟩ := by
  unfold Script.confirmed
  simp only [settle, PyM.bind_apply (α := Bool), Script.call_cancelled]
  cases haccepted : W.cancelled .accepted with
  | true => exact cancelAccepted_script W h hpeer p _
  | false =>
      simp only [Bool.false_eq_true, if_false, PyM.bind_apply (α := Bool), Script.save_env]
      cases hpersists : W.persists .commit with
      | false => exact abortThenRollback_script W h hpeer p _
      | true =>
          simp only [Bool.not_true, Bool.false_eq_true, if_false, PyM.bind_apply (α := Bool),
            Script.call_cancelled]
          cases hpersisted : W.cancelled .persisted with
          | true => exact cancelAccepted_script W h hpeer p _
          | false =>
              simp only [Bool.false_eq_true, if_false, PyM.attempt, PyM.bind_apply, confirmPairing,
                Script.call_cancelled]
              cases hconfirming : W.cancelled .confirming with
              | true => exact abortThenRollback_script W h hpeer p _
              | false =>
                  simp only [Bool.false_eq_true, if_false, pairingControl_script,
                    PyM.ofExcept_apply]
                  cases hanswer : W.control .confirm >>= loaded with
                  | error e => exact abortThenRollback_script W h hpeer p _
                  | ok v =>
                      cases happroved : v.approved with
                      | true =>
                          simp only [Except.map, happroved]
                          rfl
                      | false =>
                          simp only [Except.map, happroved]
                          exact abortThenRollback_script W h hpeer p _

/-- How a call ends after `begin`, and what it leaves.  Kind: L -/
theorem afterBegin_fate (h : Begun self a o t m) :
    match W.fate a.permissions t.expiresAt (byEndpointRank o.candidate.pairingEndpointCandidates)
      with
    | .returned => ∃ trusted n, afterBegin W.env self a o t ⟨m.begun t, ()⟩ = .ok trusted n
    | .unwound => ∃ e, afterBegin W.env self a o t ⟨m.begun t, ()⟩ =
        .error e ⟨m.unwound a.peer, ()⟩
    | .leaked => ∃ e, afterBegin W.env self a o t ⟨m.begun t, ()⟩ = .error e ⟨m.begun t, ()⟩ := by
  have hroutes := W.tryRoutes_script ⟨m.begun t, ()⟩ o.expectedFingerprint
    (self.requestMessage t.secret a.permissions a.intent) 0
    (byEndpointRank o.candidate.pairingEndpointCandidates) []
  simp only [Script.fate, afterBegin, PyM.bind_apply]
  cases hdecisive : W.decisive 0 (byEndpointRank o.candidate.pairingEndpointCandidates) with
  | none =>
      rw [hdecisive] at hroutes
      obtain ⟨errors, hroutes⟩ := hroutes
      simp only [hroutes, PyM.bind_apply, rollback_of_begun W h]
      exact ⟨_, rfl⟩
  | some outcome =>
      rw [hdecisive] at hroutes
      rcases outcome with e | ⟨endpoint, response⟩
      · simp only [hroutes]
        exact ⟨e, rfl⟩
      · simp only [hroutes]
        cases response with
        | none =>
            simp only [PyM.bind_apply, rollback_of_begun W h, Script.call_cancelled]
            cases W.cancelled .rejected with
            | true => exact ⟨_, rfl⟩
            | false => exact ⟨_, rfl⟩
        | some response =>
            cases haccepted : acceptedPermissions a.permissions response with
            | error e =>
                simp only [haccepted, PyM.bind_apply, rollback_of_begun W h]
                exact ⟨e, rfl⟩
            | ok accepted =>
                cases htransaction : transactionOf response accepted endpoint with
                | error e =>
                    simp only [haccepted, PyM.bind_apply, PyM.ofExcept_apply, htransaction]
                    exact ⟨e, rfl⟩
                | ok p =>
                    have haccept := accept_script W h accepted
                    simp only [haccepted, PyM.bind_apply, PyM.ofExcept_apply, htransaction]
                    by_cases hlive : W.clock .accept < t.expiresAt
                    · rw [if_pos hlive] at haccept
                      obtain ⟨trusted, hpeer, hrun⟩ := haccept
                      have hsettle := settle_script W h hpeer p
                      simp only [hlive, if_true, hrun]
                      cases hconfirmed : W.confirmed with
                      | true =>
                          rw [if_pos hconfirmed] at hsettle
                          exact ⟨trusted, _, hsettle⟩
                      | false =>
                          rw [if_neg (by simp [hconfirmed])] at hsettle
                          exact hsettle
                    · rw [if_neg hlive] at haccept
                      obtain ⟨e, hrun⟩ := haccept
                      simp only [hlive, if_false, hrun]
                      exact ⟨e, rfl⟩

/-! ## The whole call -/

/-- The transaction id and the secret that a call draws occur in no transaction yet. -/
structure Attempt.Fresh (a : Attempt) (m : PairingManager) : Prop where
  /-- No transaction has the id. -/
  txid : m.pending.get? a.txid = none
  /-- No transaction has the secret. -/
  secret : ∀ t ∈ m.pending.values, t.secret ≠ a.drawn

/-- Everything before `begin` only reads, and reads the trust and the mark that a rollback puts
back.  Kind: L -/
theorem opening_script (check : SignatureCheck) (self : NetworkPairing) (a : Attempt)
    (m : PairingManager) :
    (∃ e, opening W.env check self a ⟨m, ()⟩ = .error e ⟨m, ()⟩) ∨
      (∃ trusted, opening W.env check self a ⟨m, ()⟩ = .ok (.inl trusted) ⟨m, ()⟩) ∨
      ∃ o, opening W.env check self a ⟨m, ()⟩ = .ok (.inr o) ⟨m, ()⟩ ∧
        o.previous = m.trusted.get? a.peer ∧
        o.previousBroken = decide (a.peer ∈ m.authBroken) := by
  simp only [opening, PyM.bind_apply, Script.call_cancelled]
  cases hcancelled : W.cancelled .start with
  | true => exact .inl ⟨_, rfl⟩
  | false =>
      simp only [Bool.false_eq_true, if_false, PyM.bind_apply, PyM.ofExcept_apply]
      cases hpairable : self.pairable a.peer a.permissions with
      | error e => exact .inl ⟨e, rfl⟩
      | ok candidate =>
          simp only [PyM.get_apply, Script.call_clock]
          cases hadmission : classifiedTrust a.intent (m.trusted.get? a.peer)
            (m.classifyTrustedCandidate check (W.clock .classify) a.peer
              candidate.1.rootPublicKey candidate.1.transportFingerprint
              candidate.1.transportGeneration candidate.1.transportProof) with
          | error e => exact .inl ⟨e, rfl⟩
          | ok answer =>
              cases answer with
              | some trusted => exact .inr (.inl ⟨trusted, rfl⟩)
              | none =>
                  simp only [PyM.bind_apply, PyM.ofExcept_apply]
                  cases hmaterial : self.material with
                  | error e => exact .inl ⟨e, rfl⟩
                  | ok material => exact .inr (.inr ⟨_, rfl, rfl, rfl⟩)

/-- `begin` of a fresh transaction is refused or adds it.  Kind: L -/
theorem beginOutbound_script (hfresh : a.Fresh m) :
    let t := m.newTransaction (W.clock .begin) a.txid a.drawn a.peer (some a.drawn) o.material
      .outbound a.intent
    beginOutbound W.env a o ⟨m, ()⟩ =
      if (m.findPendingFor (W.clock .begin) a.peer (some .outbound)).isSome then
        .error ⟨.value, "a pairing transaction is already active for this peer"⟩ ⟨m, ()⟩
      else .ok t ⟨m.begun t, ()⟩ := by
  have hnone : m.findPending (W.clock .begin) a.peer a.drawn = none := by
    refine List.find?_eq_none.mpr fun t ht hmatch => ?_
    exact hfresh.secret t ht (of_decide_eq_true hmatch).2.1
  simp only [beginOutbound, PyM.bind_apply, Script.call_clock, PyM.get_apply,
    PyM.ofExcept_apply, PairingManager.begin, Option.bind_some, hnone, Option.filter_none]
  by_cases hbusy : (m.findPendingFor (W.clock .begin) a.peer (some .outbound)).isSome
  · simp only [hbusy, if_true]
  · simp only [hbusy]
    rfl

/-- What has to be in a response for a `PairingTransaction`. -/
def transactionKeys : List String :=
  ["transaction_id", "caller_node_id", "identity_fingerprint", "transport_fingerprint", "secret",
    "expires_at"]

/-- When every exit of a call rolls back, and the rollback is exact.  `routes` are the candidate's
endpoints in the order in which they are tried. -/
structure Contained (W : Script) (a : Attempt) (m : PairingManager)
    (routes : List EndpointCandidate) : Prop where
  /-- The routes raise `OSError`, `ConnectionError` or `RemoteTransportError`, or nothing. -/
  listed : ∀ e, W.decisive 0 routes ≠ some (.error e)
  /-- A response whose permissions are accepted is complete, and comes before the transaction
  expires. -/
  complete : ∀ endpoint response accepted,
    W.decisive 0 routes = some (.ok (endpoint, some response)) →
    acceptedPermissions a.permissions response = .ok accepted →
    (∀ key ∈ transactionKeys, hasField key response) ∧
      W.clock .accept < W.clock .begin + m.ttl
  /-- A remnant of a peer without trust is only there if the call goes through. -/
  remnant : m.Remnant a.peer → W.confirmed = true ∧ ∃ endpoint response accepted,
    W.decisive 0 routes = some (.ok (endpoint, some response)) ∧
    acceptedPermissions a.permissions response = .ok accepted

/-- A transaction is read if and only if the response has every key.  Kind: L -/
theorem transactionOf_isOk_iff (response : Fields) (accepted : Finset NodePermission)
    (endpoint : EndpointCandidate) :
    (∃ p, transactionOf response accepted endpoint = .ok p) ↔
      ∀ key ∈ transactionKeys, hasField key response := by
  have hfield : ∀ key, (∃ v, responseField key response = .ok v) ↔ hasField key response := by
    intro key
    unfold responseField hasField
    cases getField key response <;> simp
  simp only [transactionOf, Except.bind_eq_ok, Except.pure_eq_ok, transactionKeys,
    List.forall_mem_cons, ← hfield]
  constructor
  · rintro ⟨p, a, ha, b, hb, c, hc, d, hd, e, he, f, hf, -⟩
    exact ⟨⟨a, ha⟩, ⟨b, hb⟩, ⟨c, hc⟩, ⟨d, hd⟩, ⟨e, he⟩, ⟨f, hf⟩, by simp⟩
  · rintro ⟨⟨a, ha⟩, ⟨b, hb⟩, ⟨c, hc⟩, ⟨d, hd⟩, ⟨e, he⟩, ⟨f, hf⟩, -⟩
    exact ⟨_, a, ha, b, hb, c, hc, d, hd, e, he, f, hf, rfl⟩

/-- The condition, in terms of the exits.  Kind: L -/
theorem contained_iff_fate (routes : List EndpointCandidate) :
    Contained W a m routes ↔
      W.fate a.permissions (W.clock .begin + m.ttl) routes ≠ .leaked ∧
      (W.fate a.permissions (W.clock .begin + m.ttl) routes = .unwound → ¬m.Remnant a.peer) := by
  unfold Script.fate
  constructor
  · rintro ⟨hlisted, hcomplete, hremnant⟩
    cases hdecisive : W.decisive 0 routes with
    | none =>
        refine ⟨by simp, fun _ hrem => ?_⟩
        obtain ⟨-, endpoint, response, accepted, h, -⟩ := hremnant hrem
        cases hdecisive.symm.trans h
    | some outcome =>
        rcases outcome with e | ⟨endpoint, _ | response⟩
        · exact absurd hdecisive (hlisted e)
        · refine ⟨by simp, fun _ hrem => ?_⟩
          obtain ⟨-, endpoint, response, accepted, h, -⟩ := hremnant hrem
          cases hdecisive.symm.trans h
        · cases haccepted : acceptedPermissions a.permissions response with
          | error e =>
              simp only [haccepted]
              refine ⟨by simp, fun _ hrem => ?_⟩
              obtain ⟨-, endpoint', response', accepted, h, haccepted'⟩ := hremnant hrem
              cases hdecisive.symm.trans h
              cases haccepted.symm.trans haccepted'
          | ok accepted =>
              obtain ⟨hkeys, hlive⟩ := hcomplete endpoint response accepted hdecisive haccepted
              obtain ⟨p, hp⟩ := (transactionOf_isOk_iff response accepted endpoint).mpr hkeys
              simp only [haccepted, hp, hlive, if_true]
              cases hconfirmed : W.confirmed with
              | true => simp
              | false =>
                  refine ⟨by simp, fun _ hrem => ?_⟩
                  cases hconfirmed.symm.trans (hremnant hrem).1
  · rintro ⟨hleaked, hunwound⟩
    refine ⟨fun e h => ?_, fun endpoint response accepted h haccepted => ?_, fun hrem => ?_⟩
    · simp only [h] at hleaked
      exact hleaked rfl
    · simp only [h, haccepted] at hleaked
      cases hp : transactionOf response accepted endpoint with
      | error e =>
          simp only [hp] at hleaked
          exact absurd rfl hleaked
      | ok p =>
          refine ⟨(transactionOf_isOk_iff response accepted endpoint).mp ⟨p, hp⟩, ?_⟩
          by_contra hexpired
          simp only [hp, hexpired, if_false] at hleaked
          exact hleaked rfl
    · -- neither a leak nor a rollback: the call went through
      have hne := fun h => hunwound h hrem
      cases hdecisive : W.decisive 0 routes with
      | none => exact absurd (by simp only [hdecisive]) hne
      | some outcome =>
          rcases outcome with e | ⟨endpoint, _ | response⟩
          · simp only [hdecisive] at hleaked
            exact absurd rfl hleaked
          · exact absurd (by simp only [hdecisive]) hne
          · cases haccepted : acceptedPermissions a.permissions response with
            | error e => exact absurd (by simp only [hdecisive, haccepted]) hne
            | ok accepted =>
                simp only [hdecisive, haccepted] at hleaked hne
                refine ⟨?_, endpoint, response, accepted, rfl, haccepted⟩
                cases hp : transactionOf response accepted endpoint with
                | error e =>
                    simp only [hp] at hleaked
                    exact absurd rfl hleaked
                | ok p =>
                    simp only [hp] at hleaked hne
                    by_cases hlive : W.clock .accept < W.clock .begin + m.ttl
                    · simp only [hlive, if_true] at hne
                      by_contra hconfirmed
                      exact hne (if_neg hconfirmed)
                    · simp only [hlive, if_false] at hleaked
                      exact absurd rfl hleaked

variable {check : SignatureCheck}

/-- After `begin`, in terms of the exits.  Kind: L -/
theorem afterBegin_restores_iff (h : Begun self a o t m) :
    (∀ e s', afterBegin W.env self a o t ⟨m.begun t, ()⟩ = .error e s' → s'.pairing = m) ↔
      W.fate a.permissions t.expiresAt
          (byEndpointRank o.candidate.pairingEndpointCandidates) ≠ .leaked ∧
        (W.fate a.permissions t.expiresAt
          (byEndpointRank o.candidate.pairingEndpointCandidates) = .unwound →
            ¬m.Remnant a.peer) := by
  have hfate := afterBegin_fate W h
  cases hend : W.fate a.permissions t.expiresAt
      (byEndpointRank o.candidate.pairingEndpointCandidates) with
  | returned =>
      rw [hend] at hfate
      obtain ⟨trusted, n, hrun⟩ := hfate
      simp [hrun]
  | unwound =>
      rw [hend] at hfate
      obtain ⟨e, hrun⟩ := hfate
      rw [hrun, ← PairingManager.unwound_eq_self_iff]
      constructor
      · intro hall
        exact ⟨by simp, fun _ => hall e _ rfl⟩
      · rintro ⟨-, hsame⟩ e' s' herr
        cases herr
        exact hsame rfl
  | leaked =>
      rw [hend] at hfate
      obtain ⟨e, hrun⟩ := hfate
      rw [hrun]
      refine iff_of_false (fun hall => ?_) (fun hne => hne.1 rfl)
      exact PairingManager.begun_ne_self h.fresh (hall e _ rfl)

/-- A call puts the manager back as it was whenever it raises, exactly if, once it has begun its
transaction, the exits that leak are not taken.  Kind: P -/
theorem establish_restores_iff (hlocal : m.localId = self.nodeId) (hfresh : a.Fresh m) :
    (∀ e s', establish W.env check self a ⟨m, ()⟩ = .error e s' → s'.pairing = m) ↔
      ∀ o s', opening W.env check self a ⟨m, ()⟩ = .ok (.inr o) s' →
        m.findPendingFor (W.clock .begin) a.peer (some .outbound) = none →
        Contained W a m (byEndpointRank o.candidate.pairingEndpointCandidates) := by
  simp only [establish, PyM.bind_apply]
  rcases opening_script W check self a m with
    ⟨e, hopen⟩ | ⟨trusted, hopen⟩ | ⟨o, hopen, hprevious, hbroken⟩
  · simp only [hopen]
    refine iff_of_true (fun e' s' herr => ?_) fun o s' hok => by cases hok
    cases herr
    rfl
  · simp only [hopen]
    exact iff_of_true (fun e' s' herr => by cases herr) fun o s' hok => by cases hok
  · have hbegin := beginOutbound_script W (o := o) hfresh
    simp only at hbegin
    simp only [hopen, PyM.bind_apply, hbegin]
    cases hbusy : m.findPendingFor (W.clock .begin) a.peer (some .outbound) with
    | some other =>
        simp only [Option.isSome_some, if_true]
        refine iff_of_true (fun e' s' herr => ?_) fun o s' hok hnone => by cases hnone
        cases herr
        rfl
    | none =>
        simp only [Option.isSome_none, Bool.false_eq_true, if_false]
        rw [afterBegin_restores_iff W
          ⟨hlocal, hfresh.txid, rfl, rfl, hprevious, hbroken⟩]
        constructor
        · rintro hfate o' s' hok -
          cases hok
          exact (contained_iff_fate W _).mpr hfate
        · intro hall
          exact (contained_iff_fate W _).mp (hall o _ rfl trivial)

/-! ## A refused request and a changed certificate -/

/-- The target, as it was discovered. -/
def pairingCandidate : DiscoveredNodeCandidate where
  stableId := "target"
  hostname := "target.local"
  addresses := ["10.0.0.2"]
  port := some 7000
  serviceName := "target"
  appVersion := "1"
  protocolVersion := "1"
  platform := none
  connectable := true
  compatible := true
  lastSeen := 0
  identityFingerprint := some "target identity"
  transportFingerprint := some "target transport"
  endpointCandidates := [⟨"10.0.0.2", 7000, .ipv4, "validated", 0, none, none⟩]
  rootPublicKey := some "target root"
  transportGeneration := some 1
  transportProof := some "target proof"
  pairingPort := some 7001
  derived := .inl (by decide)

/-- The initiator. -/
def pairingInitiator : NetworkPairing where
  nodeId := ⟨"initiator", by decide⟩
  identityFingerprint := "initiator identity"
  identityRoot := "initiator root"
  sign := fun _ _ => .ok "initiator proof"
  transportFingerprint := "initiator transport"
  rootPublicKey := some "initiator root"
  transportGeneration := 1
  transportProof := some "initiator proof"
  candidates := Dict.empty.insert "target" pairingCandidate

/-- Its call. -/
def pairingAttempt : Attempt where
  peer := ⟨"target", by decide⟩
  permissions := {"read_state"}
  intent := .pair
  txid := "transaction"
  drawn := "00112233445566778899aabbccddeeff00112233445566778899aabbccddeeff"

/-- A target whose request comes to `answer`; nothing else goes wrong. -/
def answering (answer : Except PyError (Option Value)) : Script where
  cancelled := fun _ => false
  clock := fun _ => 0
  connect := fun _ => .ok ()
  request := fun _ => answer
  control := fun _ => .ok none
  persists := fun _ => true

/-- The manager before the call. -/
def unpaired : PairingManager := PairingManager.new ⟨"initiator", by decide⟩

/-- The attempt of the sample is fresh.  Kind: L -/
theorem fresh_unpaired : pairingAttempt.Fresh unpaired :=
  ⟨rfl, fun _ ht => absurd ht List.not_mem_nil⟩

/-- A refusal is rolled back. -/
theorem establish_restores_refused :
    let refusing := answering (.ok (some (.dict [("approved", .bool false)])))
    ∀ e s', establish refusing.env (fun _ _ _ _ _ => true) pairingInitiator pairingAttempt
      ⟨unpaired, ()⟩ = .error e s' → s'.pairing = unpaired := by
  refine (establish_restores_iff _ rfl fresh_unpaired).mpr fun o s' _ _ => ?_
  have hremnant : ¬unpaired.Remnant pairingAttempt.peer := by
    rintro ⟨-, h | ⟨t, ht, -⟩⟩
    · exact absurd h (Finset.notMem_empty _)
    · exact absurd ht List.not_mem_nil
  generalize byEndpointRank o.candidate.pairingEndpointCandidates = routes
  cases routes with
  | nil =>
      exact ⟨fun e h => (by cases h), fun _ _ _ h => (by cases h), fun h => absurd h hremnant⟩
  | cons endpoint rest =>
      exact ⟨fun e h => (by cases h), fun _ _ _ h => (by cases h), fun h => absurd h hremnant⟩

/-- What a call raises, and the manager it leaves. -/
def raised (W : Script) (m : PairingManager) : Option PyError × PairingManager :=
  match establish W.env (fun _ _ _ _ _ => true) pairingInitiator pairingAttempt ⟨m, ()⟩ with
  | .ok _ s' => (none, s'.pairing)
  | .error e s' => (some e, s'.pairing)

/-- A certificate that changed raises past the `except` clause of the routes: the transaction
stays, and the next call is refused. -/
theorem changed_certificate_leaks :
    let changed := answering (.error ⟨.remoteAuth, "peer certificate fingerprint changed"⟩)
    (raised changed unpaired).1 = some ⟨.remoteAuth, "peer certificate fingerprint changed"⟩ ∧
      (raised changed unpaired).2 ≠ unpaired ∧
      (raised changed unpaired).2.pending.size = 1 ∧
      (raised changed (raised changed unpaired).2).1 =
        some ⟨.value, "a pairing transaction is already active for this peer"⟩ := by
  decide +kernel

end NetworkPairing

end ExpraConnect
