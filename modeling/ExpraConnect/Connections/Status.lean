import ExpraConnect.Connections.Attempts

/-!
# The states that observers are shown

`connections/manager.py` projects the state of each connection into the registry.  A call shows
`CONNECTING` or `RESUMING` while it works and a settled state when it ends, except on the ways out
that set none.

* `LiveManager`: the manager with the states, the numbering of the attempts and the peers to resume;
* `manager_after`: without the states it is `ConnectionManager`;
* `Settled`: no transient state, and `ONLINE` exactly with a provider;
* `Settles`, `settled_call_iff`: the calls that end settled;
* `settled_iff_settling`: a run is settled in every state if and only if its calls settle;
  `left_transient`: the registry refuses a promotion, and a candidate is lost.
-/

namespace ExpraConnect

open ExpraConnect.Lib

/-! ## The manager with its states -/

/-- Source: `connections/state.py`, `ConnectionStatus`.  Kind: D -/
inductive ConnectionStatus where
  | unknown | connecting | online | migrating | resuming | offline
  | authenticationFailed | identityChanged
  deriving DecidableEq

/-- Source: `connections/manager.py`, `ConnectionManager`, and `nodes/registry.py`, `NodeRecord`.
Kind: D -/
structure LiveManager where
  /-- The pairing, the trust of the registry's records, and the peers with a provider. -/
  manager : ConnectionManager
  /-- `connection.status` of the registry's records. -/
  connection : NodeId → ConnectionStatus
  /-- `_generations`, zero where there is none. -/
  generations : NodeId → ℕ
  /-- `_resume_peers` -/
  resumePeers : Finset NodeId

namespace LiveManager

/-- The status in the registry, of a peer that has a record. -/
def status? (s : LiveManager) (peer : NodeId) : Option ConnectionStatus :=
  if s.manager.registry.contains peer then some (s.connection peer) else none

/-- A method of the manager that shows no state. -/
def lift {α : Type} (x : PyM ConnectionManager α) : PyM LiveManager α := fun s =>
  match x s.manager with
  | .ok a m => .ok a { s with manager := m }
  | .error e m => .error e { s with manager := m }

/-- Source: `connections/manager.py`, `_set_state`.  Kind: D -/
def setState (peer : NodeId) (status : ConnectionStatus) (s : LiveManager) : LiveManager :=
  if s.manager.registry.contains peer then
    { s with connection := Function.update s.connection peer status }
  else s

/-- `self._registry.observe(peer_id, ...)`: a new record has the state `UNKNOWN`. -/
def observe (peer : NodeId) (s : LiveManager) : LiveManager :=
  if s.manager.registry.contains peer then s
  else
    { s with
      manager := s.manager.observe peer
      connection := Function.update s.connection peer .unknown }

/-- `self._providers.pop(peer_id, None)`. -/
def dropProvider (peer : NodeId) (s : LiveManager) : LiveManager :=
  { s with manager := { s.manager with providers := s.manager.providers.erase peer } }

/-- A candidate of another identity: the state is shown before the error is raised. -/
def refuseIf (p : Prop) [Decidable p] (peer : NodeId) (e : PyError) : PyM LiveManager Unit :=
  if p then do
    modify fun s => setState peer .identityChanged (observe peer s)
    throw e
  else pure ()

/-- The end of an attempt that succeeded: the registry may refuse the promotion, and then no state
is shown.  Source: `connections/manager.py`, `connect`.  Kind: D -/
def authorizePeer (peer : NodeId) : PyM LiveManager Unit := do
  modify (observe peer)
  lift (ConnectionManager.authorizePeer peer)
  modify (setState peer .online)

/-- The loop over the endpoints.  Source: `connections/manager.py`, `connect`.  Kind: D -/
def tryRoutes (check : SignatureCheck) (c : ConnectCall) (trusted : TrustedPeer)
    (candidate : DiscoveredNodeCandidate) :
    List EndpointCandidate → Option PyError → PyM LiveManager Unit
  | [], last => do
      modify fun s => setState c.peerId .offline (dropProvider c.peerId s)
      throw (last.getD ⟨.os, "all endpoint routes failed"⟩)
  | endpoint :: rest, _ => fun s =>
      match c.route endpoint with
      | .noTransport e =>
          if ConnectionManager.routeFailed e ∨ e.kind = .type ∨ e.kind.isValueError then
            tryRoutes check c trusted candidate rest (some e) s
          else .error e s
      | .hello result =>
          match lift (ConnectionManager.greet check c trusted candidate result) s with
          | .ok _ s => authorizePeer c.peerId s
          | .error e s =>
              if e.kind.isRemoteProtocol then
                .error e (setState c.peerId .authenticationFailed (if e.kind.isRemoteAuth then
                  { s with manager := { s.manager with
                      pairing := s.manager.pairing.markAuthFailure c.peerId } } else s))
              else if ConnectionManager.routeFailed e then
                tryRoutes check c trusted candidate rest (some e) s
              else .error e s

/-- The beginning of an attempt.  Source: `connections/manager.py`, `connect`.  Kind: D -/
def startAttempt (peer : NodeId) (s : LiveManager) : LiveManager :=
  setState peer (if peer ∈ s.resumePeers then .resuming else .connecting)
    (observe peer { s with
      generations := Function.update s.generations peer (s.generations peer + 1)
      resumePeers := s.resumePeers.erase peer })

/-- Source: `connections/manager.py`, `connect`.  Kind: D -/
def connect (check : SignatureCheck) (c : ConnectCall) : PyM LiveManager Unit := do
  let s ← get
  if c.peerId ∈ s.manager.providers then return
  match s.manager.pairing.trusted.get? c.peerId, c.candidate with
  | some trusted, some candidate =>
      raiseIf (!candidate.compatible)
        ⟨.permission, "peer must be discovered and trusted first"⟩
      raiseIf (!candidate.connectable) ⟨.os, "peer is not connectable"⟩
      refuseIf (candidate.stableId ≠ c.peerId.value) c.peerId
        ⟨.remoteAuth, "discovered peer identity does not match route"⟩
      let endpoints := candidate.endpointCandidates.filter fun e => e.validation ≠ "invalid"
      raiseIf (endpoints = []) ⟨.os, "peer has no connectable endpoint"⟩
      refuseIf (!candidateAllowed check trusted candidate) c.peerId
        ⟨.remoteAuth, "peer transport fingerprint changed"⟩
      raiseIf (candidate.transportFingerprint.all (· = ""))
        ⟨.remoteAuth, "peer has no transport fingerprint"⟩
      modify (startAttempt c.peerId)
      tryRoutes check c trusted candidate (byEndpointRank endpoints) none
  | _, _ => throw ⟨.permission, "peer must be discovered and trusted first"⟩

/-- What `reconnect` does before it connects.
Source: `connections/manager.py`, `reconnect`.  Kind: D -/
def resume (peer : NodeId) (s : LiveManager) : LiveManager :=
  setState peer .resuming
    { dropProvider peer s with resumePeers := insert peer s.resumePeers }

/-- One call of `connect` or `reconnect`.
Source: `connections/manager.py`, `connect` and `reconnect`.  Kind: D -/
def call (check : SignatureCheck) (c : ConnectCall) : PyM LiveManager Unit := do
  if c.reconnects then
    modify (resume c.peerId)
  connect check c

/-- Source: `connections/manager.py`, `disconnect`.  Kind: D -/
def disconnect (peer : NodeId) (s : LiveManager) : LiveManager :=
  setState peer .offline (dropProvider peer
    { s with generations := Function.update s.generations peer (s.generations peer + 1) })

/-! ## The parts -/

variable {check : SignatureCheck} {c : ConnectCall} {trusted : TrustedPeer}
  {candidate : DiscoveredNodeCandidate} {peer : NodeId} {s : LiveManager}

/-- The manager's part of `setState`.  Kind: L -/
@[simp] theorem manager_setState (peer : NodeId) (status : ConnectionStatus) (s : LiveManager) :
    (setState peer status s).manager = s.manager := by
  unfold setState
  split <;> rfl

/-- The manager's part of `observe`.  Kind: L -/
@[simp] theorem manager_observe (peer : NodeId) (s : LiveManager) :
    (observe peer s).manager = s.manager.observe peer := by
  unfold observe ConnectionManager.observe
  split <;> rfl

/-- The manager's part of `dropProvider`.  Kind: L -/
@[simp] theorem manager_dropProvider (peer : NodeId) (s : LiveManager) :
    (dropProvider peer s).manager =
      { s.manager with providers := s.manager.providers.erase peer } := rfl

/-- An observed peer has a record.  Kind: L -/
theorem contains_observe (peer : NodeId) (m : ConnectionManager) :
    (m.observe peer).registry.contains peer = true := by
  unfold ConnectionManager.observe
  split_ifs with h
  · exact h
  · simp [Dict.contains]

/-- An observation makes no other record.  Kind: L -/
theorem contains_observe_of_ne {other : NodeId} (h : other ≠ peer) (m : ConnectionManager) :
    (m.observe peer).registry.contains other = m.registry.contains other := by
  unfold ConnectionManager.observe
  split_ifs
  · rfl
  · simp [Dict.contains, Dict.get?_insert_of_ne _ _ (Ne.symm h)]

/-- A state that is shown is in the registry.  Kind: L -/
theorem status?_setState {status : ConnectionStatus}
    (h : s.manager.registry.contains peer = true) :
    (setState peer status s).status? peer = some status := by
  unfold status?
  rw [manager_setState, if_pos h]
  unfold setState
  rw [if_pos h]
  exact congrArg some (Function.update_self ..)

/-- Setting one peer's state leaves the others alone.  Kind: L -/
theorem status?_setState_of_ne {other : NodeId} (h : other ≠ peer) (status : ConnectionStatus)
    (s : LiveManager) : (setState peer status s).status? other = s.status? other := by
  unfold status?
  rw [manager_setState]
  unfold setState
  split_ifs
  · exact congrArg some (Function.update_of_ne h ..)
  all_goals rfl

/-- Observing a peer leaves the states of the others alone.  Kind: L -/
theorem status?_observe_of_ne {other : NodeId} (h : other ≠ peer) (s : LiveManager) :
    (observe peer s).status? other = s.status? other := by
  unfold status?
  rw [manager_observe, contains_observe_of_ne h]
  unfold observe
  split_ifs
  · rfl
  · exact congrArg some (Function.update_of_ne h ..)
  · rfl

/-- What a refusal before a step leaves.  Kind: L -/
theorem after_refuseIf_bind_eq {p : Prop} [Decidable p] {e : PyError}
    {f : Unit → PyM LiveManager Unit} :
    ((refuseIf p peer e : PyM LiveManager Unit) >>= f).after s =
      if p then setState peer .identityChanged (observe peer s) else (f ()).after s := by
  split_ifs with hp
  · simp only [refuseIf, if_pos hp]
    rfl
  · simp only [refuseIf, if_neg hp]
    rfl

/-! ## The loop and its end -/

/-- A peer with a record is not observed anew.  Kind: L -/
theorem observe_of_contains (h : s.manager.registry.contains peer = true) :
    observe peer s = s := by
  unfold observe
  rw [if_pos h]

/-- A peer with a record is promoted and shown as connected, or it was revoked, and then the state
stays what it was.  Source: `nodes/registry.py`, `promote`.  Kind: L -/
theorem authorizePeer_after (h : s.manager.registry.contains peer = true) :
    (authorizePeer peer).after s =
      if s.manager.registry.get? peer = some .revoked then s
      else setState peer .online { s with manager := { s.manager with
        registry := s.manager.registry.insert peer .authorized
        providers := insert peer s.manager.providers } } := by
  have hobserve : s.manager.observe peer = s.manager := by
    unfold ConnectionManager.observe
    rw [if_pos h]
  unfold authorizePeer
  rw [PyM.after_modify_bind, observe_of_contains h]
  have hlift : lift (ConnectionManager.authorizePeer peer) s =
      if s.manager.registry.get? peer = some .revoked then
        .error ⟨.permission, "revoked node requires a fresh pairing"⟩ s
      else .ok () { s with manager := { s.manager with
        registry := s.manager.registry.insert peer .authorized
        providers := insert peer s.manager.providers } } := by
    unfold lift ConnectionManager.authorizePeer
    simp only [PyM.bind_apply, PyM.get_apply, hobserve]
    split_ifs <;> rfl
  unfold PyM.after
  rw [PyM.bind_apply, hlift]
  split_ifs <;> rfl

/-- What the loop leaves, with the state it shows.
Source: `connections/manager.py`, `connect`.  Kind: L -/
theorem tryRoutes_after (endpoints : List EndpointCandidate) (last : Option PyError) :
    (tryRoutes check c trusted candidate endpoints last).after s =
      match (c.decisive endpoints).map c.route with
      | none => setState c.peerId .offline (dropProvider c.peerId s)
      | some (.noTransport _) => s
      | some (.hello result) =>
          match ConnectionManager.greet check c trusted candidate result s.manager with
          | .ok _ m => (authorizePeer c.peerId).after { s with manager := m }
          | .error e m =>
              if e.kind.isRemoteProtocol then
                setState c.peerId .authenticationFailed (if e.kind.isRemoteAuth then
                  { s with manager := { m with pairing := m.pairing.markAuthFailure c.peerId } }
                  else { s with manager := m })
              else { s with manager := m } := by
  induction endpoints generalizing last with
  | nil => rfl
  | cons endpoint rest ih =>
      unfold PyM.after tryRoutes
      by_cases hfailed : (c.route endpoint).failed = true
      · rw [ConnectionManager.decisive_cons_of_failed hfailed]
        cases hroute : c.route endpoint with
        | noTransport e =>
            rw [hroute, ConnectionManager.failed_noTransport] at hfailed
            simp only [if_pos hfailed]
            exact ih (some e)
        | hello result =>
            rw [hroute] at hfailed
            cases result with
            | ok hello => cases hfailed
            | error e =>
                have hraised : ConnectionManager.routeFailed e = true := hfailed
                have hgreet :
                    lift (ConnectionManager.greet check c trusted candidate (.error e)) s =
                      .error e s := rfl
                simp only [hgreet, ConnectionManager.isRemoteProtocol_of_routeFailed hraised,
                  hraised, Bool.false_eq_true, if_false, if_true]
                exact ih (some e)
      · rw [ConnectionManager.decisive_cons_of_not_failed (by simpa using hfailed),
          Option.map_some]
        cases hroute : c.route endpoint with
        | noTransport e =>
            rw [hroute, ConnectionManager.failed_noTransport] at hfailed
            simp only [if_neg hfailed]
        | hello result =>
            unfold lift
            simp only
            cases hgreet : ConnectionManager.greet check c trusted candidate result s.manager with
            | ok u m => rfl
            | error e m =>
                have hraised : ConnectionManager.routeFailed e = false :=
                  ConnectionManager.routeFailed_of_greet (by simpa [hroute] using hfailed) hgreet
                simp only [hraised, Bool.false_eq_true, if_false]
                split_ifs <;> rfl

/-! ## Without the states -/

/-- An observed peer has a record.  Kind: L -/
theorem record_observe (peer : NodeId) (s : LiveManager) :
    (observe peer s).manager.registry.contains peer = true := by
  rw [manager_observe]
  exact contains_observe peer s.manager

/-- Authorizing observes the peer first.  Kind: L -/
theorem authorizePeer_observe (peer : NodeId) (s : LiveManager) :
    (authorizePeer peer).after s = (authorizePeer peer).after (observe peer s) := by
  unfold authorizePeer
  rw [PyM.after_modify_bind, PyM.after_modify_bind, observe_of_contains (record_observe peer s)]

/-- The manager's part of `authorizePeer`.  Kind: L -/
theorem manager_authorizePeer (peer : NodeId) (s : LiveManager) :
    ((authorizePeer peer).after s).manager =
      (ConnectionManager.authorizePeer peer).after s.manager := by
  rw [authorizePeer_observe, authorizePeer_after (record_observe peer s), manager_observe,
    ConnectionManager.authorizePeer_after]
  split_ifs
  · exact manager_observe peer s
  · exact manager_setState peer ..

/-- The states take no part in what is tried and recorded.
Source: `connections/manager.py`, `connect`.  Kind: L -/
theorem manager_tryRoutes {endpoints : List EndpointCandidate} {last : Option PyError}
    (hfree : c.peerId ∉ s.manager.providers) :
    ((tryRoutes check c trusted candidate endpoints last).after s).manager =
      (ConnectionManager.tryRoutes check c trusted candidate endpoints last).after s.manager := by
  rw [tryRoutes_after, ConnectionManager.tryRoutes_after]
  cases hroute : (c.decisive endpoints).map c.route with
  | none =>
      rw [manager_setState, manager_dropProvider, Finset.erase_eq_of_notMem hfree]
  | some outcome =>
      cases outcome with
      | noTransport e => rfl
      | hello result =>
          simp only
          cases hgreet : ConnectionManager.greet check c trusted candidate result s.manager with
          | ok u m => exact manager_authorizePeer c.peerId _
          | error e m =>
              simp only
              by_cases hauth : e.kind.isRemoteAuth = true
              · simp only [ConnectionManager.isRemoteProtocol_of_isRemoteAuth hauth, hauth, if_true]
                exact manager_setState c.peerId ..
              · simp only [hauth, Bool.false_eq_true, if_false]
                split_ifs
                · exact manager_setState c.peerId ..
                · rfl

/-- The manager's part of `startAttempt`.  Kind: L -/
theorem manager_startAttempt (peer : NodeId) (s : LiveManager) :
    (startAttempt peer s).manager = s.manager.observe peer := by
  unfold startAttempt
  rw [manager_setState, manager_observe]

/-- The manager's part of `connect`.  Kind: L -/
theorem manager_connect (check : SignatureCheck) (c : ConnectCall) (s : LiveManager) :
    ((connect check c).after s).manager =
      (ConnectionManager.connect check c).after s.manager := by
  unfold connect ConnectionManager.connect
  rw [PyM.after_get_bind, PyM.after_get_bind]
  by_cases hheld : c.peerId ∈ s.manager.providers
  · rw [if_pos hheld, if_pos hheld]
    rfl
  rw [if_neg hheld, if_neg hheld]
  rcases s.manager.pairing.trusted.get? c.peerId with _ | trusted
  · rfl
  rcases c.candidate with _ | candidate
  · rfl
  · simp only [PyM.after_raiseIf_bind_eq, after_refuseIf_bind_eq,
      ConnectionManager.after_refuseIf_bind_eq, PyM.after_modify_bind]
    have hrefused : (setState c.peerId .identityChanged (observe c.peerId s)).manager =
        s.manager.observe c.peerId := by
      rw [manager_setState, manager_observe]
    have hfree : c.peerId ∉ (startAttempt c.peerId s).manager.providers := by
      rw [manager_startAttempt]
      unfold ConnectionManager.observe
      split_ifs <;> exact hheld
    split_ifs
    · rfl
    · rfl
    · exact hrefused
    · rfl
    · exact hrefused
    · rfl
    · rw [manager_tryRoutes hfree, manager_startAttempt]

/-- **Without the states.**  What a call tries, records and holds does not depend on the states that
it shows.  Source: `connections/manager.py`, `connect` and `reconnect`.  Kind: L -/
theorem manager_after (check : SignatureCheck) (c : ConnectCall) (s : LiveManager) :
    ((call check c).after s).manager = ConnectionManager.after check c s.manager := by
  unfold call ConnectionManager.after ConnectionManager.call
  split
  · rw [PyM.after_modify_bind, PyM.after_modify_bind, manager_connect]
    unfold resume
    rw [manager_setState]
    rfl
  · exact manager_connect check c s

/-! ## Settled -/

/-- No transient state is shown of the peer, and it is shown as connected if and only if it has a
provider.  Kind: D -/
structure Settled (s : LiveManager) (peer : NodeId) : Prop where
  /-- It is not being connected. -/
  notConnecting : s.status? peer ≠ some .connecting
  /-- It is not being resumed. -/
  notResuming : s.status? peer ≠ some .resuming
  /-- `ONLINE` means a provider. -/
  online : s.status? peer = some .online ↔ peer ∈ s.manager.providers

/-- Nothing changed for this peer. -/
def SameAt (peer : NodeId) (s s' : LiveManager) : Prop :=
  s'.status? peer = s.status? peer ∧ (peer ∈ s'.manager.providers ↔ peer ∈ s.manager.providers)

theorem SameAt.refl (peer : NodeId) (s : LiveManager) : SameAt peer s s := ⟨rfl, Iff.rfl⟩

theorem SameAt.trans {s₁ s₂ s₃ : LiveManager} (h : SameAt peer s₁ s₂) (h' : SameAt peer s₂ s₃) :
    SameAt peer s₁ s₃ :=
  ⟨h'.1.trans h.1, h'.2.trans h.2⟩

/-- Whether a peer is settled depends on what concerns it.  Kind: L -/
theorem SameAt.settled_iff {s' : LiveManager} (h : SameAt peer s s') :
    Settled s' peer ↔ Settled s peer := by
  obtain ⟨hstatus, hprovider⟩ := h
  constructor
  · rintro ⟨hconnecting, hresuming, honline⟩
    rw [hstatus] at hconnecting hresuming honline
    exact ⟨hconnecting, hresuming, honline.trans hprovider⟩
  · rintro ⟨hconnecting, hresuming, honline⟩
    rw [← hstatus] at hconnecting hresuming honline
    exact ⟨hconnecting, hresuming, honline.trans hprovider.symm⟩

section OtherPeers

variable {other : NodeId}

/-- `setState` of one peer leaves the others alone.  Kind: L -/
theorem sameAt_setState (h : other ≠ peer) (status : ConnectionStatus) (s : LiveManager) :
    SameAt other s (setState peer status s) :=
  ⟨status?_setState_of_ne h status s, by rw [manager_setState]⟩

/-- An observation leaves the providers alone.  Kind: L -/
theorem providers_observe (peer : NodeId) (m : ConnectionManager) :
    (m.observe peer).providers = m.providers := by
  unfold ConnectionManager.observe
  split <;> rfl

/-- `observe` of one peer leaves the others alone.  Kind: L -/
theorem sameAt_observe (h : other ≠ peer) (s : LiveManager) : SameAt other s (observe peer s) :=
  ⟨status?_observe_of_ne h s, by rw [manager_observe, providers_observe]⟩

/-- `dropProvider` of one peer leaves the others alone.  Kind: L -/
theorem sameAt_dropProvider (h : other ≠ peer) (s : LiveManager) :
    SameAt other s (dropProvider peer s) := by
  refine ⟨rfl, ?_⟩
  rw [manager_dropProvider]
  exact Finset.mem_erase.trans (and_iff_right h)

/-- `startAttempt` of one peer leaves the others alone.  Kind: L -/
theorem sameAt_startAttempt (h : other ≠ peer) (s : LiveManager) :
    SameAt other s (startAttempt peer s) := by
  unfold startAttempt
  refine SameAt.trans ?_ (sameAt_setState h _ _)
  exact SameAt.trans ⟨rfl, Iff.rfl⟩ (sameAt_observe h _)

/-- `resume` of one peer leaves the others alone.  Kind: L -/
theorem sameAt_resume (h : other ≠ peer) (s : LiveManager) : SameAt other s (resume peer s) := by
  unfold resume
  refine SameAt.trans ?_ (sameAt_setState h _ _)
  exact (sameAt_dropProvider h s).trans ⟨rfl, Iff.rfl⟩

/-- `authorizePeer` of one peer leaves the others alone.  Kind: L -/
theorem sameAt_authorizePeer (h : other ≠ peer) (s : LiveManager) :
    SameAt other s ((authorizePeer peer).after s) := by
  rw [authorizePeer_observe, authorizePeer_after (record_observe peer s)]
  refine (sameAt_observe h s).trans ?_
  split_ifs
  · exact SameAt.refl other _
  · refine SameAt.trans ?_ (sameAt_setState h _ _)
    refine ⟨?_, Finset.mem_insert.trans (or_iff_right h)⟩
    unfold status? Dict.contains
    simp only [Dict.get?_insert_of_ne _ _ (Ne.symm h)]

/-- `tryRoutes` of one peer leaves the others alone.  Kind: L -/
theorem sameAt_tryRoutes (h : other ≠ c.peerId) (endpoints : List EndpointCandidate)
    (last : Option PyError) (s : LiveManager) :
    SameAt other s ((tryRoutes check c trusted candidate endpoints last).after s) := by
  rw [tryRoutes_after]
  cases hroute : (c.decisive endpoints).map c.route with
  | none => exact (sameAt_dropProvider h s).trans (sameAt_setState h _ _)
  | some outcome =>
      cases outcome with
      | noTransport e => exact SameAt.refl other s
      | hello result =>
          obtain ⟨pairing, hframe⟩ :=
            @ConnectionManager.greet_frame check c trusted candidate result s.manager
          unfold PyM.after at hframe
          simp only
          cases hgreet : ConnectionManager.greet check c trusted candidate result s.manager with
          | ok u m =>
              rw [hgreet] at hframe
              cases hframe
              exact SameAt.trans ⟨rfl, Iff.rfl⟩ (sameAt_authorizePeer h _)
          | error e m =>
              rw [hgreet] at hframe
              cases hframe
              simp only
              split_ifs
              · exact SameAt.trans ⟨rfl, Iff.rfl⟩ (sameAt_setState h _ _)
              · exact SameAt.trans ⟨rfl, Iff.rfl⟩ (sameAt_setState h _ _)
              · exact ⟨rfl, Iff.rfl⟩

end OtherPeers

end LiveManager

/-! ## The calls that settle -/

namespace ConnectCall

/-- The candidate is refused as one of another identity or transport, and the state says so.
Source: `connections/manager.py`, `connect`.  Kind: D -/
structure Changed (check : SignatureCheck) (c : ConnectCall) (s : ConnectionManager)
    (trusted : TrustedPeer) (candidate : DiscoveredNodeCandidate) : Prop where
  /-- The peer is trusted. -/
  stored : s.trusted? c.peerId = some trusted
  /-- Discovery found the peer. -/
  found : c.candidate = some candidate
  /-- It speaks the protocol. -/
  compatible : candidate.compatible = true
  /-- It can be connected to. -/
  connectable : candidate.connectable = true
  /-- It names another peer, or its transport does not pass the gate. -/
  changed : candidate.stableId ≠ c.peerId.value ∨
    candidate.routes ≠ [] ∧ candidateAllowed check trusted candidate = false

/-- A state is shown at the end of this route: it raised a `RemoteProtocolError`, or its `hello` is
not taken, or the registry promotes the peer.  Kind: D -/
def Handled (check : SignatureCheck) (c : ConnectCall) (s : ConnectionManager)
    (trusted : TrustedPeer) (candidate : DiscoveredNodeCandidate) : RouteOutcome → Prop
  | .noTransport _ => False
  | .hello (.error e) => e.kind.isRemoteProtocol = true
  | .hello (.ok hello) =>
      Taken check c trusted candidate hello → s.registry.get? c.peerId ≠ some .revoked

/-- The call shows a state on its way out: the decisive route is handled, and a `reconnect` of a
peer with a record is not refused before the routes, except as of another identity.  Kind: D -/
def Settles (check : SignatureCheck) (c : ConnectCall) (s : ConnectionManager) : Prop :=
  (∀ trusted candidate endpoint, Attempts check c s trusted candidate →
    c.decisive candidate.routes = some endpoint →
      Handled check c s trusted candidate (c.route endpoint)) ∧
  (c.reconnects = true → s.registry.contains c.peerId = true →
    ∃ trusted candidate, Attempts check c s trusted candidate ∨
      Changed check c s trusted candidate)

end ConnectCall

namespace LiveManager

open ConnectCall

variable {check : SignatureCheck} {c : ConnectCall} {trusted : TrustedPeer}
  {candidate : DiscoveredNodeCandidate} {peer : NodeId} {s : LiveManager}

/-- A recorded peer is settled by a state that fits its provider.  Kind: L -/
theorem settled_setState {status : ConnectionStatus}
    (hrecord : s.manager.registry.contains peer = true) (hconnecting : status ≠ .connecting)
    (hresuming : status ≠ .resuming) (honline : status = .online ↔ peer ∈ s.manager.providers) :
    Settled (setState peer status s) peer := by
  have hstatus : (setState peer status s).status? peer = some status := status?_setState hrecord
  refine ⟨?_, ?_, ?_⟩
  · rw [hstatus]
    exact fun h => hconnecting (Option.some.inj h)
  · rw [hstatus]
    exact fun h => hresuming (Option.some.inj h)
  · rw [hstatus, manager_setState, Option.some.injEq]
    exact honline

/-- A peer without a record or a provider is settled.  Kind: L -/
theorem settled_of_unrecorded (hrecord : ¬s.manager.registry.contains peer = true)
    (hfree : peer ∉ s.manager.providers) : Settled s peer := by
  have hnone : s.status? peer = none := if_neg hrecord
  refine ⟨?_, ?_, ?_⟩
  · rw [hnone]
    exact Option.some_ne_none _ |>.symm
  · rw [hnone]
    exact Option.some_ne_none _ |>.symm
  · rw [hnone]
    exact iff_of_false (Option.some_ne_none _).symm hfree

/-- An observation does not revoke.  Kind: L -/
theorem get?_observe_eq_revoked (peer : NodeId) (m : ConnectionManager) :
    (m.observe peer).registry.get? peer = some .revoked ↔
      m.registry.get? peer = some .revoked := by
  unfold ConnectionManager.observe
  split_ifs with h
  · exact Iff.rfl
  · have hnone : m.registry.get? peer = none := by simpa [Dict.contains] using h
    simp [hnone]

/-- From a transient state the loop ends settled if and only if its decisive route is handled.
Kind: L -/
theorem settled_tryRoutes_iff {endpoints : List EndpointCandidate} {last : Option PyError}
    (hrecord : s.manager.registry.contains c.peerId = true)
    (hfree : c.peerId ∉ s.manager.providers)
    (htransient : ∃ status, s.status? c.peerId = some status ∧
      (status = .connecting ∨ status = .resuming)) :
    Settled ((tryRoutes check c trusted candidate endpoints last).after s) c.peerId ↔
      ∀ endpoint, c.decisive endpoints = some endpoint →
        Handled check c s.manager trusted candidate (c.route endpoint) := by
  have hunsettled : ∀ {s₁ : LiveManager}, s₁.status? c.peerId = s.status? c.peerId →
      ¬Settled s₁ c.peerId := by
    rintro s₁ hsame ⟨hconnecting, hresuming, -⟩
    obtain ⟨status, hstatus, rfl | rfl⟩ := htransient
    · exact hconnecting (hsame.trans hstatus)
    · exact hresuming (hsame.trans hstatus)
  have hfailed : ∀ {s₁ : LiveManager}, s₁.manager.registry.contains c.peerId = true →
      c.peerId ∉ s₁.manager.providers →
      Settled (setState c.peerId .authenticationFailed s₁) c.peerId := by
    intro s₁ hrecord₁ hfree₁
    exact settled_setState hrecord₁ (by decide) (by decide) (iff_of_false (by decide) hfree₁)
  rw [tryRoutes_after]
  cases hdecisive : c.decisive endpoints with
  | none =>
      refine iff_of_true ?_ fun endpoint h => by cases h
      refine settled_setState hrecord (by decide) (by decide) (iff_of_false (by decide) ?_)
      exact Finset.notMem_erase _ _
  | some endpoint =>
      have hone : (∀ e, some endpoint = some e →
          Handled check c s.manager trusted candidate (c.route e)) ↔
          Handled check c s.manager trusted candidate (c.route endpoint) := by simp
      rw [hone, Option.map_some]
      cases hroute : c.route endpoint with
      | noTransport e => exact iff_of_false (hunsettled rfl) id
      | hello result =>
          cases result with
          | error e =>
              have hgreet : ConnectionManager.greet check c trusted candidate (.error e) s.manager =
                  .error e s.manager := rfl
              simp only [hgreet]
              split_ifs with hprotocol hauth
              · exact iff_of_true (hfailed hrecord hfree) hprotocol
              · exact iff_of_true (hfailed hrecord hfree) hprotocol
              · exact iff_of_false (hunsettled rfl) hprotocol
          | ok hello =>
              rcases @ConnectionManager.greet_cases check c trusted candidate hello s.manager with
                ⟨htaken, -, m, hrun, -, hframe⟩ | ⟨hrefused, e, m, hrun, hprotocol, -, -, hframe⟩
              · have hregistry : m.registry = s.manager.registry := by rw [hframe]
                have hrecord' : m.registry.contains c.peerId = true := by rw [hregistry, hrecord]
                simp only [hrun]
                rw [authorizePeer_after hrecord']
                split_ifs with hrevoked
                · refine iff_of_false (hunsettled ?_) fun h => ?_
                  · unfold status?
                    rw [if_pos hrecord', if_pos hrecord]
                  · exact h htaken (by rw [← hregistry]; exact hrevoked)
                · refine iff_of_true (settled_setState ?_ (by decide) (by decide) ?_) fun _ => ?_
                  · simp [Dict.contains]
                  · exact iff_of_true rfl (Finset.mem_insert_self _ _)
                  · rw [← hregistry]
                    exact hrevoked
              · have hrecord' : m.registry.contains c.peerId = true := by rw [hframe]; exact hrecord
                have hfree' : c.peerId ∉ m.providers := by rw [hframe]; exact hfree
                simp only [hrun, hprotocol, if_true]
                refine iff_of_true ?_ fun htaken => absurd htaken hrefused
                split_ifs
                · exact hfailed hrecord' hfree'
                · exact hfailed hrecord' hfree'

/-- A changed identity is not attempted.  Kind: L -/
theorem not_attempts_of_changed {m : ConnectionManager} (h : Changed check c m trusted candidate)
    {trusted' : TrustedPeer} {candidate' : DiscoveredNodeCandidate} :
    ¬Attempts check c m trusted' candidate' := by
  intro h'
  obtain rfl : trusted' = trusted := Option.some.inj (h'.stored.symm.trans h.stored)
  obtain rfl : candidate' = candidate := Option.some.inj (h'.found.symm.trans h.found)
  rcases h.changed with hother | ⟨-, hrefused⟩
  · exact hother h'.identity
  · cases hrefused.symm.trans h'.allowed

/-- What `connect` leaves: it returned the provider, was refused without a state, was refused as of
another identity, or came to its routes.  Source: `connections/manager.py`, `connect`.  Kind: L -/
theorem after_connect {P : LiveManager → Prop} {m : ConnectionManager}
    (hm : s.manager.trusted? = m.trusted?)
    (hfree : c.peerId ∉ s.manager.providers ↔ c.reconnects = true ∨ c.peerId ∉ m.providers)
    (hheld : c.peerId ∈ s.manager.providers → P s)
    (hquiet : c.peerId ∉ s.manager.providers →
      (∀ trusted candidate, ¬Attempts check c m trusted candidate) →
      (∀ trusted candidate, ¬Changed check c m trusted candidate) → P s)
    (hchanged : c.peerId ∉ s.manager.providers → ∀ trusted candidate,
      Changed check c m trusted candidate →
        P (setState c.peerId .identityChanged (observe c.peerId s)))
    (hroutes : c.peerId ∉ s.manager.providers → ∀ trusted candidate,
      Attempts check c m trusted candidate →
        P ((tryRoutes check c trusted candidate candidate.routes none).after
          (startAttempt c.peerId s))) :
    P ((connect check c).after s) := by
  unfold connect
  rw [PyM.after_get_bind]
  split
  · rename_i h
    exact hheld h
  rename_i hnone
  split
  · rename_i trusted candidate htrusted hfound
    have hstored : m.trusted? c.peerId = some trusted := hm ▸ htrusted
    -- what passes the checks can only be this candidate
    have hrefused : ¬Attempts check c m trusted candidate → ¬Changed check c m trusted candidate →
        P s := by
      intro hattempts hother
      refine hquiet hnone (fun trusted' candidate' h => hattempts ?_)
        fun trusted' candidate' h => hother ?_
      all_goals
        obtain rfl : trusted' = trusted := Option.some.inj (h.stored.symm.trans hstored)
        obtain rfl : candidate' = candidate := Option.some.inj (h.found.symm.trans hfound)
        exact h
    have hnil := @ConnectionManager.routes_eq_nil candidate
    simp only [PyM.after_raiseIf_bind_eq, after_refuseIf_bind_eq, PyM.after_modify_bind]
    split_ifs with hcompatible hconnectable hidentity hreachable hallowed hpinned
    · refine hrefused (fun h => ?_) fun h => ?_
      all_goals simp [h.compatible] at hcompatible
    · refine hrefused (fun h => ?_) fun h => ?_
      all_goals simp [h.connectable] at hconnectable
    · exact hchanged hnone trusted candidate ⟨hstored, hfound, by simpa using hcompatible,
        by simpa using hconnectable, .inl hidentity⟩
    · refine hrefused (fun h => h.reachable (hnil.mpr hreachable)) fun h => ?_
      rcases h.changed with hother | ⟨hroutes', -⟩
      · exact hidentity hother
      · exact hroutes' (hnil.mpr hreachable)
    · exact hchanged hnone trusted candidate ⟨hstored, hfound, by simpa using hcompatible,
        by simpa using hconnectable,
        .inr ⟨fun h => hreachable (hnil.mp h), by simpa using hallowed⟩⟩
    · refine hrefused (fun h => h.pinned hpinned) fun h => ?_
      rcases h.changed with hother | ⟨-, hrefused'⟩
      · exact hidentity hother
      · simp [hrefused'] at hallowed
    · exact hroutes hnone trusted candidate ⟨hfree.mp hnone, hstored, hfound,
        by simpa using hcompatible, by simpa using hconnectable, by simpa using hidentity,
        by simpa using hallowed, fun h => hreachable (hnil.mp h), hpinned⟩
  · rename_i hmissing
    refine hquiet hnone (fun trusted candidate h => ?_) fun trusted candidate h => ?_
    all_goals exact hmissing trusted candidate (by rw [← h.stored, ← hm]; rfl) h.found

/-- What `connect` starts from in a call. -/
def prepared (c : ConnectCall) (s : LiveManager) : LiveManager :=
  if c.reconnects then resume c.peerId s else s

/-- When a call finds the peer without a provider.  Kind: L -/
theorem free_prepared :
    c.peerId ∉ (prepared c s).manager.providers ↔
      c.reconnects = true ∨ c.peerId ∉ s.manager.providers := by
  unfold prepared resume
  split_ifs with h
  · rw [manager_setState]
    exact iff_of_true (Finset.notMem_erase _ _) (.inl h)
  · exact ⟨.inr, fun h' => h'.resolve_left h⟩

/-- Preparing a call leaves the registry alone.  Kind: L -/
theorem registry_prepared (c : ConnectCall) (s : LiveManager) :
    (prepared c s).manager.registry = s.manager.registry := by
  unfold prepared resume
  split_ifs
  · rw [manager_setState]
    rfl
  · rfl

/-- `after_connect` for a call, whose conditions are about the state before it.  Kind: L -/
theorem after_call {P : LiveManager → Prop}
    (hheld : c.peerId ∈ (prepared c s).manager.providers → P (prepared c s))
    (hquiet : c.peerId ∉ (prepared c s).manager.providers →
      (∀ trusted candidate, ¬Attempts check c s.manager trusted candidate) →
      (∀ trusted candidate, ¬Changed check c s.manager trusted candidate) → P (prepared c s))
    (hchanged : c.peerId ∉ (prepared c s).manager.providers → ∀ trusted candidate,
      Changed check c s.manager trusted candidate →
        P (setState c.peerId .identityChanged (observe c.peerId (prepared c s))))
    (hroutes : c.peerId ∉ (prepared c s).manager.providers → ∀ trusted candidate,
      Attempts check c s.manager trusted candidate →
        P ((tryRoutes check c trusted candidate candidate.routes none).after
          (startAttempt c.peerId (prepared c s)))) :
    P ((call check c).after s) := by
  have hcall : (call check c).after s = (connect check c).after (prepared c s) := by
    unfold call prepared
    split_ifs
    · rw [PyM.after_modify_bind]
    · rfl
  have hm : (prepared c s).manager.trusted? = s.manager.trusted? := by
    unfold prepared resume
    split_ifs
    · rw [manager_setState]
      rfl
    · rfl
  rw [hcall]
  exact after_connect hm free_prepared hheld hquiet hchanged hroutes

/-- A call changes nothing for other peers.  Kind: L -/
theorem sameAt_call {other : NodeId} (h : other ≠ c.peerId) (s : LiveManager) :
    SameAt other s ((call check c).after s) := by
  have hprepared : SameAt other s (prepared c s) := by
    unfold prepared
    split_ifs
    · exact sameAt_resume h s
    · exact SameAt.refl other s
  refine after_call (fun _ => hprepared) (fun _ _ _ => hprepared) ?_ ?_
  · intro _ trusted candidate _
    exact hprepared.trans ((sameAt_observe h _).trans (sameAt_setState h _ _))
  · intro _ trusted candidate _
    exact hprepared.trans ((sameAt_startAttempt h _).trans (sameAt_tryRoutes h _ _ _))

/-- An attempt starts from a transient state of a peer that has a record.  Kind: L -/
theorem startAttempt_transient (peer : NodeId) (s : LiveManager) :
    (startAttempt peer s).manager.registry.contains peer = true ∧
      ∃ status, (startAttempt peer s).status? peer = some status ∧
        (status = .connecting ∨ status = .resuming) := by
  refine ⟨by rw [manager_startAttempt]; exact contains_observe peer _, ?_⟩
  refine ⟨if peer ∈ s.resumePeers then .resuming else .connecting, ?_, ?_⟩
  · exact status?_setState (record_observe peer _)
  · split_ifs
    · exact .inr rfl
    · exact .inl rfl

/-- **The end of a call.**  From a settled state a call ends settled if and only if it settles.
Source: `connections/manager.py`, `connect` and `reconnect`.  Kind: L -/
theorem settled_call_iff (hs : Settled s c.peerId) :
    Settled ((call check c).after s) c.peerId ↔ Settles check c s.manager := by
  refine @after_call check c s (fun s' => Settled s' c.peerId ↔ Settles check c s.manager)
    ?_ ?_ ?_ ?_
  · intro hheld
    obtain ⟨hplain, -⟩ := not_or.mp (mt free_prepared.mpr (not_not.mpr hheld))
    have hsame : prepared c s = s := if_neg hplain
    rw [hsame] at hheld ⊢
    refine iff_of_true hs ⟨fun trusted candidate endpoint h => ?_, fun h => absurd h hplain⟩
    exact absurd hheld (h.free.resolve_left hplain)
  · intro hfree hattempts hchanged
    have hfirst : ∀ trusted candidate endpoint, Attempts check c s.manager trusted candidate →
        c.decisive candidate.routes = some endpoint →
          Handled check c s.manager trusted candidate (c.route endpoint) :=
      fun trusted candidate _ h => absurd h (hattempts trusted candidate)
    by_cases hreconnects : c.reconnects = true
    · have hsame : prepared c s = resume c.peerId s := if_pos hreconnects
      rw [hsame] at hfree ⊢
      by_cases hrecord : s.manager.registry.contains c.peerId = true
      · -- the peer is left as one that is being resumed
        refine iff_of_false (fun h => h.notResuming ?_) ?_
        · exact status?_setState (show (dropProvider c.peerId s).manager.registry.contains
            c.peerId = true from hrecord)
        · rintro ⟨-, h⟩
          obtain ⟨trusted, candidate, h | h⟩ := h hreconnects hrecord
          · exact hattempts trusted candidate h
          · exact hchanged trusted candidate h
      · refine iff_of_true (settled_of_unrecorded ?_ hfree) ⟨hfirst, fun _ h => absurd h hrecord⟩
        rw [← hsame, registry_prepared]
        exact hrecord
    · have hsame : prepared c s = s := if_neg hreconnects
      rw [hsame]
      exact iff_of_true hs ⟨hfirst, fun h => absurd h hreconnects⟩
  · intro hfree trusted candidate h
    refine iff_of_true (settled_setState (record_observe _ _) (by decide) (by decide) ?_)
      ⟨fun _ _ _ h' => absurd h' (not_attempts_of_changed h),
        fun _ _ => ⟨trusted, candidate, .inr h⟩⟩
    rw [manager_observe, providers_observe]
    exact iff_of_false (by decide) hfree
  · intro hfree trusted candidate h
    obtain ⟨hrecord, htransient⟩ := startAttempt_transient c.peerId (prepared c s)
    have hfree' : c.peerId ∉ (startAttempt c.peerId (prepared c s)).manager.providers := by
      rw [manager_startAttempt, providers_observe]
      exact hfree
    rw [settled_tryRoutes_iff hrecord hfree' htransient]
    -- the attempt itself revokes nobody
    have hhandled : ∀ outcome, Handled check c (startAttempt c.peerId (prepared c s)).manager
        trusted candidate outcome ↔ Handled check c s.manager trusted candidate outcome := by
      rintro (e | e | hello)
      · exact Iff.rfl
      · exact Iff.rfl
      · unfold Handled
        rw [manager_startAttempt, Ne, get?_observe_eq_revoked, registry_prepared]
    constructor
    · intro hall
      refine ⟨fun trusted' candidate' endpoint h' hdecisive => ?_,
        fun _ _ => ⟨trusted, candidate, .inl h⟩⟩
      obtain rfl : trusted' = trusted := Option.some.inj (h'.stored.symm.trans h.stored)
      obtain rfl : candidate' = candidate := Option.some.inj (h'.found.symm.trans h.found)
      exact (hhandled _).mp (hall endpoint hdecisive)
    · rintro ⟨hall, -⟩ endpoint hdecisive
      exact (hhandled _).mpr (hall trusted candidate endpoint h hdecisive)

/-! ## Disconnecting -/

/-- What `disconnect` writes.  Kind: L -/
theorem disconnect_eq (peer : NodeId) (s : LiveManager) :
    disconnect peer s =
      { manager := { s.manager with providers := s.manager.providers.erase peer }
        connection := if s.manager.registry.contains peer then
          Function.update s.connection peer .offline else s.connection
        generations := Function.update s.generations peer (s.generations peer + 1)
        resumePeers := s.resumePeers } := by
  unfold disconnect setState
  split_ifs with h h' h'
  · rfl
  · exact absurd h h'
  · exact absurd h' h
  · rfl

/-- Two disconnections may be made in either order. -/
instance : RightCommutative fun (s : LiveManager) peer => disconnect peer s where
  right_comm s p q := by
    by_cases hpq : p = q
    · rw [hpq]
    simp only [disconnect_eq, Finset.erase_right_comm, Function.update_of_ne hpq,
      Function.update_of_ne (Ne.symm hpq), Function.update_comm hpq]
    congr 1
    split_ifs
    · exact Function.update_comm hpq ..
    all_goals rfl

/-- Source: `connections/manager.py`, `disconnect_all`.  Kind: D -/
def disconnectAll (s : LiveManager) : LiveManager :=
  s.manager.providers.val.foldl (fun s peer => disconnect peer s) s

/-- `disconnect` of one peer leaves the others alone.  Kind: L -/
theorem sameAt_disconnect {other : NodeId} (h : other ≠ peer) (s : LiveManager) :
    SameAt other s (disconnect peer s) := by
  unfold disconnect
  refine SameAt.trans ?_ (sameAt_setState h _ _)
  exact SameAt.trans ⟨rfl, Iff.rfl⟩ (sameAt_dropProvider h _)

/-- Disconnecting leaves every settled peer settled, and settles its own.  Kind: L -/
theorem settled_disconnect (other : NodeId) (hs : Settled s peer) :
    Settled (disconnect other s) peer := by
  by_cases hpeer : peer = other
  · subst hpeer
    have hfree : peer ∉ (disconnect peer s).manager.providers := by
      unfold disconnect
      rw [manager_setState]
      exact Finset.notMem_erase _ _
    by_cases hrecord : s.manager.registry.contains peer = true
    · refine settled_setState hrecord (by decide) (by decide) (iff_of_false (by decide) ?_)
      exact Finset.notMem_erase _ _
    · refine settled_of_unrecorded ?_ hfree
      unfold disconnect
      rw [manager_setState]
      exact hrecord
  · exact (sameAt_disconnect hpeer s).settled_iff.mpr hs

/-- Disconnecting everything keeps a peer settled.  Kind: L -/
theorem settled_disconnectAll (hs : Settled s peer) : Settled (disconnectAll s) peer := by
  unfold disconnectAll
  refine Multiset.foldl_induction' _ s (fun _ => True) (fun s' => Settled s' peer) _ ?_ hs
    fun _ _ => trivial
  intro other s' _ hs'
  exact settled_disconnect other hs'

/-! ## Runs -/

/-- What happens to a manager: its own methods, and what other components do to the pairing and to
the registry. -/
inductive Step where
  /-- `connect` or `reconnect`. -/
  | call (c : ConnectCall)
  /-- `disconnect` -/
  | disconnect (peer : NodeId)
  /-- `disconnect_all` -/
  | disconnectAll
  /-- Peers are paired or revoked. -/
  | pairing (m : PairingManager)
  /-- The registry observes a node, and takes or withdraws its trust. -/
  | record (peer : NodeId) (trust : TrustState)

/-- The record of a node with this trust; its connection stays.
Source: `nodes/registry.py`, `observe`, `revoke` and `hydrate_trust`.  Kind: D -/
def record (peer : NodeId) (trust : TrustState) (s : LiveManager) : LiveManager :=
  let s := observe peer s
  { s with manager := { s.manager with registry := s.manager.registry.insert peer trust } }

/-- One step, whether the call returns or raises. -/
def Step.apply (check : SignatureCheck) : Step → LiveManager → LiveManager
  | .call c, s => (LiveManager.call check c).after s
  | .disconnect peer, s => LiveManager.disconnect peer s
  | .disconnectAll, s => LiveManager.disconnectAll s
  | .pairing m, s => { s with manager := { s.manager with pairing := m } }
  | .record peer trust, s => LiveManager.record peer trust s

/-- A run of steps. -/
def run (check : SignatureCheck) (steps : List Step) (s : LiveManager) : LiveManager :=
  steps.foldl (fun s step => step.apply check s) s

/-- A call for this peer settles; other steps always do. -/
def Step.Settles (check : SignatureCheck) (peer : NodeId) : Step → LiveManager → Prop
  | .call c, s => c.peerId = peer → c.Settles check s.manager
  | _, _ => True

/-- Every step of the run settles where it happens. -/
def SettlingRun (check : SignatureCheck) (peer : NodeId) : List Step → LiveManager → Prop
  | [], _ => True
  | step :: rest, s => step.Settles check peer s ∧ SettlingRun check peer rest (step.apply check s)

/-- A change of trust keeps a peer settled.  Kind: L -/
theorem settled_record (other : NodeId) (trust : TrustState) (hs : Settled s peer) :
    Settled (record other trust s) peer := by
  have hproviders : (record other trust s).manager.providers = s.manager.providers := by
    show (observe other s).manager.providers = _
    rw [manager_observe, providers_observe]
  by_cases hpeer : peer = other
  · subst hpeer
    have hstatus : (record peer trust s).status? peer = some ((observe peer s).connection peer) :=
      if_pos (by simp [record, Dict.contains])
    by_cases hrecord : s.manager.registry.contains peer = true
    · rw [observe_of_contains hrecord] at hstatus
      refine SameAt.settled_iff (s := s) ⟨?_, by rw [hproviders]⟩ |>.mpr hs
      exact hstatus.trans (if_pos hrecord).symm
    · -- a new record is of an unknown connection, and there was no provider
      have hfree : peer ∉ s.manager.providers := fun h =>
        Option.some_ne_none _ ((hs.online.mpr h).symm.trans (if_neg hrecord))
      have hunknown : (observe peer s).connection peer = .unknown := by
        unfold observe
        rw [if_neg hrecord]
        exact Function.update_self ..
      rw [hunknown] at hstatus
      refine ⟨?_, ?_, ?_⟩
      · rw [hstatus]
        decide
      · rw [hstatus]
        decide
      · rw [hstatus, hproviders]
        exact iff_of_false (by decide) hfree
  · refine SameAt.settled_iff (s := s) ⟨?_, by rw [hproviders]⟩ |>.mpr hs
    rw [← status?_observe_of_ne hpeer s]
    unfold status? record Dict.contains
    simp only [Dict.get?_insert_of_ne _ _ (Ne.symm hpeer)]

/-- The step lemma.  Kind: L -/
theorem settled_apply_iff (step : Step) (hs : Settled s peer) :
    Settled (step.apply check s) peer ↔ step.Settles check peer s := by
  cases step with
  | call c =>
      by_cases hpeer : c.peerId = peer
      · subst hpeer
        exact (settled_call_iff hs).trans ⟨fun h _ => h, fun h => h rfl⟩
      · refine iff_of_true ?_ fun h => absurd h hpeer
        exact (sameAt_call (Ne.symm hpeer) s).settled_iff.mpr hs
  | disconnect other => exact iff_of_true (settled_disconnect other hs) trivial
  | disconnectAll => exact iff_of_true (settled_disconnectAll hs) trivial
  | pairing m => exact iff_of_true ⟨hs.notConnecting, hs.notResuming, hs.online⟩ trivial
  | record other trust => exact iff_of_true (settled_record other trust hs) trivial

/-- **Settled.**  In every run, whatever discovery finds, the routes answer, and the pairing and the
registry become, a settled peer is settled in every state if and only if every call for it settles.
Source: `connections/manager.py`, `connect`, `reconnect`, `disconnect` and `disconnect_all`.
Kind: P -/
theorem settled_iff_settling {steps : List Step} (hs : Settled s peer) :
    (∀ before, before <+: steps → Settled (run check before s) peer) ↔
      SettlingRun check peer steps s := by
  induction steps generalizing s with
  | nil =>
      refine iff_of_true (fun before hbefore => ?_) trivial
      rw [List.prefix_nil.mp hbefore]
      exact hs
  | cons step rest ih =>
      have hstep := @settled_apply_iff check peer s step hs
      constructor
      · intro h
        have hafter := h [step] ⟨rest, rfl⟩
        refine ⟨hstep.mp hafter, (ih hafter).mp fun before hbefore => ?_⟩
        exact h (step :: before) (List.cons_prefix_cons.mpr ⟨rfl, hbefore⟩)
      · rintro ⟨hsettles, hrest⟩ before hbefore
        cases before with
        | nil => exact hs
        | cons first before =>
            obtain ⟨rfl, hprefix⟩ := List.cons_prefix_cons.mp hbefore
            exact (ih (hstep.mpr hsettles)).mpr hrest before hprefix

/-- The peer that renews its transport, with this trust in the registry. -/
def liveRenewal (trust : TrustState) : LiveManager where
  manager := { ConnectionManager.beforeRenewal with
    registry := Dict.empty.insert ConnectionManager.renewing trust }
  connection := fun _ => .unknown
  generations := fun _ => 0
  resumePeers := ∅

/-- The sample starts settled.  Kind: L -/
theorem settled_liveRenewal (trust : TrustState) :
    Settled (liveRenewal trust) ConnectionManager.renewing := by
  have hstatus : (liveRenewal trust).status? ConnectionManager.renewing = some .unknown :=
    if_pos (by simp [liveRenewal, Dict.contains])
  refine ⟨?_, ?_, ?_⟩
  · rw [hstatus]
    decide
  · rw [hstatus]
    decide
  · rw [hstatus]
    exact iff_of_false (by decide) (Finset.notMem_empty _)

/-- A renewal through which the peer stays settled.  Kind: P -/
theorem settled_iff_settling_renewal :
    Settled (liveRenewal .observed) ConnectionManager.renewing ∧
      ((∀ before, before <+: [Step.call (ConnectionManager.renewal (some "root"))] →
          Settled (run ConnectionManager.renewalCheck before (liveRenewal .observed))
            ConnectionManager.renewing) ↔
        SettlingRun ConnectionManager.renewalCheck ConnectionManager.renewing
          [Step.call (ConnectionManager.renewal (some "root"))] (liveRenewal .observed)) :=
  ⟨settled_liveRenewal .observed, settled_iff_settling (settled_liveRenewal .observed)⟩

/-- The registry refuses to promote a revoked peer whose `hello` was taken, and a peer whose
candidate was lost is never resumed. -/
theorem left_transient :
    Settled (liveRenewal .revoked) ConnectionManager.renewing ∧
      (run ConnectionManager.renewalCheck
        [.call (ConnectionManager.renewal (some "root"))] (liveRenewal .revoked)).status?
          ConnectionManager.renewing = some .connecting ∧
      Settled (liveRenewal .authorized) ConnectionManager.renewing ∧
      (run ConnectionManager.renewalCheck
        [.call { ConnectionManager.renewal none with candidate := none, reconnects := true }]
          (liveRenewal .authorized)).status? ConnectionManager.renewing = some .resuming := by
  refine ⟨settled_liveRenewal .revoked, ?_, settled_liveRenewal .authorized, ?_⟩
  · decide +kernel
  · decide +kernel

end LiveManager

end ExpraConnect
