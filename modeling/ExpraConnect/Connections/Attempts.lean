import ExpraConnect.Connections.Manager

/-!
# What a call of `connect` comes to

A call is refused before its routes, or it comes to one route: the first that does not fail as a
route.

* `RouteOutcome.failed`, `decisive`: the routes that the loop passes over, and the one it stops at;
* `tryRoutes_after`: what the loop leaves is what the decisive route leaves;
* `Taken`, `Rejected`, `greet_cases`: a `hello` is taken, rejected with a `RemoteAuthError`, or
  refused with another `RemoteProtocolError`;
* `Attempts`, `after_cases`: the conditions under which a call gets to its routes.
-/

namespace ExpraConnect

open ExpraConnect.Lib

/-! ## The decisive route -/

/-- The routes of a candidate in the order in which they are tried. -/
def DiscoveredNodeCandidate.routes (candidate : DiscoveredNodeCandidate) :
    List EndpointCandidate :=
  byEndpointRank (candidate.endpointCandidates.filter fun e => e.validation ≠ "invalid")

/-- The loop goes on to the next route. -/
def RouteOutcome.failed : RouteOutcome → Bool
  | .noTransport e => ConnectionManager.routeFailed e || e.kind = .type || e.kind.isValueError
  | .hello (.ok _) => false
  | .hello (.error e) => ConnectionManager.routeFailed e

namespace ConnectCall

/-- The first route that does not fail as a route. -/
def decisive (c : ConnectCall) (endpoints : List EndpointCandidate) : Option EndpointCandidate :=
  endpoints.find? fun endpoint => !(c.route endpoint).failed

/-- The `hello` is taken: it passes the comparison, its capabilities parse, and a new transport is
saved.  Kind: D -/
def Taken (check : SignatureCheck) (c : ConnectCall) (trusted : TrustedPeer)
    (candidate : DiscoveredNodeCandidate) (hello : Fields) : Prop :=
  validateHelloGeneration check trusted candidate hello = .ok () ∧
    (parseHelloCapabilities hello).isOk = true ∧ (SameTransport trusted candidate ∨ c.Persists)

/-- The outcome of a route ends in a `RemoteAuthError`: that of `hello`, that of the comparison
with the candidate, or that of a save.  Kind: D -/
def Rejected (check : SignatureCheck) (c : ConnectCall) (trusted : TrustedPeer)
    (candidate : DiscoveredNodeCandidate) : RouteOutcome → Prop
  | .noTransport _ => False
  | .hello (.error e) => e.kind.isRemoteAuth = true
  | .hello (.ok hello) =>
      validateHelloGeneration check trusted candidate hello ≠ .ok () ∨
        ((parseHelloCapabilities hello).isOk = true ∧ ¬SameTransport trusted candidate ∧
          ¬c.Persists)

/-- The call gets to its routes, with this record and this candidate.
Source: `connections/manager.py`, `connect`.  Kind: D -/
structure Attempts (check : SignatureCheck) (c : ConnectCall) (s : ConnectionManager)
    (trusted : TrustedPeer) (candidate : DiscoveredNodeCandidate) : Prop where
  /-- The peer has no provider, or `reconnect` dropped it. -/
  free : c.reconnects = true ∨ c.peerId ∉ s.providers
  /-- The peer is trusted. -/
  stored : s.trusted? c.peerId = some trusted
  /-- Discovery found the peer. -/
  found : c.candidate = some candidate
  /-- It speaks the protocol. -/
  compatible : candidate.compatible = true
  /-- It can be connected to. -/
  connectable : candidate.connectable = true
  /-- It names the peer. -/
  identity : candidate.stableId = c.peerId.value
  /-- Its transport passes the gate. -/
  allowed : candidateAllowed check trusted candidate = true
  /-- It has a route. -/
  reachable : candidate.routes ≠ []
  /-- Its transport has a fingerprint. -/
  pinned : ¬candidate.transportFingerprint.all (· = "") = true

end ConnectCall

namespace ConnectionManager

open ConnectCall

variable {check : SignatureCheck} {c : ConnectCall} {trusted : TrustedPeer}
  {candidate : DiscoveredNodeCandidate} {s s' : ConnectionManager}

/-! ## The answer of a route -/

/-- The comparison with the candidate raises `RemoteAuthError` only.  Kind: L -/
theorem validateHelloGeneration_eq_error {hello : Fields} {e : PyError}
    (h : validateHelloGeneration check trusted candidate hello = .error e) :
    e.kind = .remoteAuth := by
  unfold validateHelloGeneration at h
  split_ifs at h
  all_goals
    cases h
    rfl

/-- The capabilities of a `hello` raise no `RemoteAuthError`.  Kind: L -/
theorem parseHelloCapabilities_eq_error {hello : Fields} {e : PyError}
    (h : parseHelloCapabilities hello = .error e) : e.kind = .remoteProtocol := by
  unfold parseHelloCapabilities at h
  split at h
  · split at h
    · cases h
    · cases h
      rfl
  · cases h
    rfl

/-- Recording a transport raises if and only if there is a new one that is not saved.  Kind: L -/
theorem recordGeneration_cases (s : ConnectionManager) :
    ((SameTransport trusted candidate ∨ c.Persists) ∧
      ∃ s₁, recordGeneration c trusted candidate s = .ok () s₁ ∧
        s₁.pairing.authBroken = s.pairing.authBroken ∧ s₁ = { s with pairing := s₁.pairing }) ∨
    ((¬SameTransport trusted candidate ∧ ¬c.Persists) ∧
      ∃ e s₁, recordGeneration c trusted candidate s = .error e s₁ ∧ e.kind = .remoteAuth ∧
        s₁.pairing.authBroken = s.pairing.authBroken ∧ s₁ = { s with pairing := s₁.pairing }) := by
  cases hrun : recordGeneration c trusted candidate s with
  | ok u s₁ =>
      refine .inl ⟨?_, s₁, rfl, ?_⟩
      · rcases recordGeneration_ok hrun with ⟨hsame, -⟩ | ⟨-, hpersists, -⟩
        · exact .inl hsame
        · exact .inr hpersists
      · unfold recordGeneration at hrun
        split at hrun
        · obtain ⟨-, rfl⟩ := PyM.pure_eq_ok.mp hrun
          exact ⟨rfl, rfl⟩
        · rw [PyM.modify_bind_eq_ok] at hrun
          rcases hpersist : c.persist with _ | _ | _ | _
          all_goals simp only [hpersist, PyM.pure_eq_ok, PyM.modify_bind_eq_ok,
            PyM.throw_eq_ok] at hrun
          all_goals
            obtain ⟨-, rfl⟩ := hrun
            exact ⟨rfl, rfl⟩
  | error e s₁ =>
      unfold recordGeneration at hrun
      split at hrun
      · simp at hrun
      · rename_i hnew
        rw [PyM.modify_bind_eq_error] at hrun
        rcases hpersist : c.persist with _ | _ | _ | _
        all_goals simp only [hpersist, PyM.pure_eq_error, PyM.modify_bind_eq_error,
          PyM.throw_eq_error] at hrun
        all_goals
          obtain ⟨rfl, rfl⟩ := hrun
          exact .inr ⟨⟨hnew, fun hp => by simpa using hp _ hpersist⟩, _, _, rfl, rfl, rfl, rfl⟩

/-- A `hello` that came is taken, and then the mark is removed; or it is rejected with a
`RemoteAuthError`, or its capabilities are refused.  Kind: L -/
theorem greet_cases (hello : Fields) (s : ConnectionManager) :
    (Taken check c trusted candidate hello ∧
      ¬Rejected check c trusted candidate (.hello (.ok hello)) ∧
      ∃ s₁, greet check c trusted candidate (.ok hello) s = .ok () s₁ ∧
        s₁.pairing.authBroken = s.pairing.authBroken.erase c.peerId ∧
        s₁ = { s with pairing := s₁.pairing }) ∨
    (¬Taken check c trusted candidate hello ∧
      ∃ e s₁, greet check c trusted candidate (.ok hello) s = .error e s₁ ∧
        e.kind.isRemoteProtocol = true ∧
        (e.kind.isRemoteAuth = true ↔ Rejected check c trusted candidate (.hello (.ok hello))) ∧
        s₁.pairing.authBroken = s.pairing.authBroken ∧ s₁ = { s with pairing := s₁.pairing }) := by
  have hgreet : greet check c trusted candidate (.ok hello) s =
      match validateHelloGeneration check trusted candidate hello with
      | .error e => .error e s
      | .ok _ =>
          match parseHelloCapabilities hello with
          | .error e => .error e s
          | .ok _ =>
              match recordGeneration c trusted candidate s with
              | .error e s₁ => .error e s₁
              | .ok _ s₁ => .ok () { s₁ with pairing := s₁.pairing.markAuthOk c.peerId } := by
    simp only [greet, PyM.bind_apply, PyM.ofExcept_apply]
    cases validateHelloGeneration check trusted candidate hello with
    | error e => rfl
    | ok u =>
        cases parseHelloCapabilities hello with
        | error e => rfl
        | ok capabilities =>
            dsimp only
            cases recordGeneration c trusted candidate s <;> rfl
  rw [hgreet]
  cases hvalid : validateHelloGeneration check trusted candidate hello with
  | error e =>
      have hkind : e.kind = .remoteAuth := validateHelloGeneration_eq_error hvalid
      refine .inr ⟨fun h => ?_, e, s, rfl, by rw [hkind]; rfl, ?_, rfl, rfl⟩
      · cases hvalid.symm.trans h.1
      · exact iff_of_true (by rw [hkind]; rfl) (Or.inl (by simp [hvalid]))
  | ok u =>
      cases hparse : parseHelloCapabilities hello with
      | error e =>
          have hkind : e.kind = .remoteProtocol := parseHelloCapabilities_eq_error hparse
          have hrefused : ¬(parseHelloCapabilities hello).isOk = true := by
            simp [hparse, Except.isOk, Except.toBool]
          refine .inr ⟨fun h => hrefused h.2.1, e, s, rfl, by rw [hkind]; rfl, ?_, rfl, rfl⟩
          refine iff_of_false (by rw [hkind]; simp [ErrorKind.isRemoteAuth]) ?_
          rintro (hne | ⟨hok, -⟩)
          · exact hne hvalid
          · exact hrefused hok
      | ok capabilities =>
          have hparsed : (parseHelloCapabilities hello).isOk = true := by
            simp [hparse, Except.isOk, Except.toBool]
          rcases @recordGeneration_cases c trusted candidate s with
            ⟨hfine, s₁, hrun, hbroken, hframe⟩ |
            ⟨⟨hnew, hfails⟩, e, s₁, hrun, hkind, hbroken, hframe⟩
          · rw [hrun]
            refine .inl ⟨⟨hvalid, hparsed, hfine⟩, ?_, _, rfl, ?_, ?_⟩
            · rintro (hne | ⟨-, hnew, hfails⟩)
              · exact hne hvalid
              · exact hfine.elim hnew hfails
            · show s₁.pairing.authBroken.erase c.peerId = _
              rw [hbroken]
            · rw [hframe]
          · rw [hrun]
            refine .inr ⟨fun h => ?_, e, s₁, rfl, by rw [hkind]; rfl, ?_, hbroken, hframe⟩
            · exact h.2.2.elim hnew hfails
            · exact iff_of_true (by rw [hkind]; rfl) (Or.inr ⟨hparsed, hnew, hfails⟩)

/-- Only the pairing changes while a peer is greeted.  Kind: L -/
theorem greet_frame (result : Except PyError Fields) (s : ConnectionManager) :
    ∃ pairing, (greet check c trusted candidate result).after s =
      { s with pairing := pairing } := by
  unfold PyM.after
  cases result with
  | error e => exact ⟨s.pairing, rfl⟩
  | ok hello =>
      rcases @greet_cases check c trusted candidate hello s with
        ⟨-, -, s₁, hrun, -, hframe⟩ | ⟨-, e, s₁, hrun, -, -, -, hframe⟩
      · exact ⟨s₁.pairing, by rw [hrun]; exact hframe⟩
      · exact ⟨s₁.pairing, by rw [hrun]; exact hframe⟩

/-! ## The loop -/

/-- A route that fails is passed over.  Kind: L -/
theorem decisive_cons_of_failed {endpoint : EndpointCandidate} {rest : List EndpointCandidate}
    (h : (c.route endpoint).failed = true) :
    c.decisive (endpoint :: rest) = c.decisive rest := by
  unfold decisive
  rw [List.find?_cons_of_neg (by simp [h])]

/-- The first that does not fail is decisive.  Kind: L -/
theorem decisive_cons_of_not_failed {endpoint : EndpointCandidate}
    {rest : List EndpointCandidate} (h : (c.route endpoint).failed = false) :
    c.decisive (endpoint :: rest) = some endpoint := by
  unfold decisive
  rw [List.find?_cons_of_pos (by simp [h])]

/-- When a route without a transport counts as failed.  Kind: L -/
theorem failed_noTransport (e : PyError) :
    (RouteOutcome.noTransport e).failed = true ↔
      routeFailed e = true ∨ e.kind = .type ∨ e.kind.isValueError = true := by
  simp [RouteOutcome.failed, or_assoc]

/-- An error that fails a route is no protocol error.  Kind: L -/
theorem isRemoteProtocol_of_routeFailed {e : PyError} (h : routeFailed e = true) :
    e.kind.isRemoteProtocol = false := by
  unfold routeFailed at h
  revert h
  cases e.kind <;> decide

/-- An authorization error is a protocol error.  Kind: L -/
theorem isRemoteProtocol_of_isRemoteAuth {e : PyError} (h : e.kind.isRemoteAuth = true) :
    e.kind.isRemoteProtocol = true := by
  revert h
  cases e.kind <;> decide

/-- What is raised after a route that did not fail ends the loop.  Kind: L -/
theorem routeFailed_of_greet {result : Except PyError Fields} {e : PyError}
    (hfine : (RouteOutcome.hello result).failed = false)
    (h : greet check c trusted candidate result s = .error e s') : routeFailed e = false := by
  cases result with
  | error e' =>
      cases h
      exact hfine
  | ok hello =>
      rcases @greet_cases check c trusted candidate hello s with
        ⟨-, -, s₁, hrun, -⟩ | ⟨-, e₁, s₁, hrun, hprotocol, -⟩
      · cases hrun.symm.trans h
      · cases hrun.symm.trans h
        rw [← Bool.not_eq_true]
        intro hraised
        cases (isRemoteProtocol_of_routeFailed hraised).symm.trans hprotocol

/-- What `_authorize_peer` leaves.  Kind: L -/
theorem authorizePeer_after (peer : NodeId) (s : ConnectionManager) :
    (authorizePeer peer).after s =
      if (s.observe peer).registry.get? peer = some .revoked then s.observe peer
      else { s.observe peer with
        registry := (s.observe peer).registry.insert peer .authorized
        providers := insert peer (s.observe peer).providers } := by
  unfold authorizePeer
  rw [PyM.after_get_bind]
  split_ifs with h
  · simp only [if_pos h]
    rfl
  · simp only [if_neg h]
    rfl

/-- What the loop leaves is what the decisive route leaves; without one nothing happens.
Source: `connections/manager.py`, `connect`.  Kind: L -/
theorem tryRoutes_after (endpoints : List EndpointCandidate) (last : Option PyError) :
    (tryRoutes check c trusted candidate endpoints last).after s =
      match (c.decisive endpoints).map c.route with
      | none | some (.noTransport _) => s
      | some (.hello result) =>
          match greet check c trusted candidate result s with
          | .ok _ s₁ => (authorizePeer c.peerId).after s₁
          | .error e s₁ =>
              if e.kind.isRemoteAuth then
                { s₁ with pairing := s₁.pairing.markAuthFailure c.peerId }
              else s₁ := by
  induction endpoints generalizing last with
  | nil => rfl
  | cons endpoint rest ih =>
      unfold PyM.after tryRoutes
      by_cases hfailed : (c.route endpoint).failed = true
      · -- the state is left to the rest of the loop
        rw [decisive_cons_of_failed hfailed]
        cases hroute : c.route endpoint with
        | noTransport e =>
            rw [hroute, failed_noTransport] at hfailed
            simp only [if_pos hfailed]
            exact ih (some e)
        | hello result =>
            rw [hroute] at hfailed
            cases result with
            | ok hello => cases hfailed
            | error e =>
                have hraised : routeFailed e = true := hfailed
                have hgreet : greet check c trusted candidate (.error e) s = .error e s := rfl
                simp only [hgreet, isRemoteProtocol_of_routeFailed hraised, hraised,
                  Bool.false_eq_true, if_false, if_true]
                exact ih (some e)
      · rw [decisive_cons_of_not_failed (by simpa using hfailed), Option.map_some]
        cases hroute : c.route endpoint with
        | noTransport e =>
            rw [hroute, failed_noTransport] at hfailed
            simp only [if_neg hfailed]
        | hello result =>
            simp only
            cases hgreet : greet check c trusted candidate result s with
            | ok u s₁ => rfl
            | error e s₁ =>
                have hraised : routeFailed e = false :=
                  routeFailed_of_greet (by simpa [hroute] using hfailed) hgreet
                simp only [hraised, Bool.false_eq_true, if_false]
                by_cases hauth : e.kind.isRemoteAuth = true
                · simp only [isRemoteProtocol_of_isRemoteAuth hauth, hauth, if_true]
                · simp only [hauth, Bool.false_eq_true, if_false]
                  split_ifs <;> rfl

/-! ## The checks before the loop -/

/-- An observation leaves the pairing manager alone.  Kind: L -/
theorem pairing_observe (peer : NodeId) (s : ConnectionManager) :
    (observe peer s).pairing = s.pairing := by
  unfold observe
  split <;> rfl

theorem routes_eq_nil :
    candidate.routes = [] ↔
      (candidate.endpointCandidates.filter fun e => e.validation ≠ "invalid") = [] := by
  have hperm := List.perm_insertionSort (fun a b => endpointRank a ≤ endpointRank b)
    (candidate.endpointCandidates.filter fun e => e.validation ≠ "invalid")
  unfold DiscoveredNodeCandidate.routes byEndpointRank
  refine ⟨fun h => ?_, fun h => by rw [h]; rfl⟩
  rw [h] at hperm
  exact hperm.symm.eq_nil

/-- What `connect` leaves is what the routes leave, or the pairing as it was.
Source: `connections/manager.py`, `connect`.  Kind: L -/
theorem after_connect {P : ConnectionManager → Prop} (hs : s.trusted? = s'.trusted?)
    (hfree : c.peerId ∉ s'.providers ↔ c.reconnects = true ∨ c.peerId ∉ s.providers)
    (hquiet : ∀ s₁, s₁.pairing = s'.pairing →
      (∀ trusted candidate, ¬Attempts check c s trusted candidate) → P s₁)
    (hroutes : ∀ trusted candidate s₁, Attempts check c s trusted candidate →
      s₁.pairing = s'.pairing →
        P ((tryRoutes check c trusted candidate candidate.routes none).after s₁)) :
    P ((connect check c).after s') := by
  have hobserved : (observe c.peerId s').pairing = s'.pairing := pairing_observe c.peerId s'
  unfold connect
  rw [PyM.after_get_bind]
  split
  · rename_i hheld
    exact hquiet s' rfl fun trusted candidate h => hfree.mpr h.free hheld
  rename_i hnone
  split
  · rename_i trusted candidate htrusted hcandidate
    have hstored : s.trusted? c.peerId = some trusted := hs ▸ htrusted
    -- a check that refuses this candidate refuses the only attempt there can be
    have hrefused : ∀ s₁ : ConnectionManager, s₁.pairing = s'.pairing →
        ¬Attempts check c s trusted candidate → P s₁ := by
      intro s₁ hs₁ hno
      refine hquiet s₁ hs₁ fun trusted' candidate' h => hno ?_
      obtain rfl : trusted' = trusted := Option.some.inj (h.stored.symm.trans hstored)
      obtain rfl : candidate' = candidate := Option.some.inj (h.found.symm.trans hcandidate)
      exact h
    simp only [PyM.after_raiseIf_bind_eq, after_refuseIf_bind_eq, PyM.after_modify_bind]
    split_ifs with hcompatible hconnectable hidentity hreachable hallowed hpinned
    · exact hrefused s' rfl fun h => by simp [h.compatible] at hcompatible
    · exact hrefused s' rfl fun h => by simp [h.connectable] at hconnectable
    · exact hrefused _ hobserved fun h => hidentity h.identity
    · exact hrefused s' rfl fun h => h.reachable (routes_eq_nil.mpr hreachable)
    · exact hrefused _ hobserved fun h => by simp [h.allowed] at hallowed
    · exact hrefused s' rfl fun h => h.pinned hpinned
    · refine hroutes trusted candidate _ ?_ hobserved
      exact ⟨hfree.mp hnone, hstored, hcandidate, by simpa using hcompatible,
        by simpa using hconnectable, by simpa using hidentity, by simpa using hallowed,
        fun h => hreachable (routes_eq_nil.mp h), hpinned⟩
  · rename_i hmissing
    refine hquiet s' rfl fun trusted candidate h => ?_
    exact hmissing trusted candidate (by rw [← h.stored, hs]; rfl) h.found

/-- What a call leaves is what its routes leave, or the pairing as it was.
Source: `connections/manager.py`, `connect` and `reconnect`.  Kind: L -/
theorem after_cases {P : ConnectionManager → Prop}
    (hquiet : ∀ s₁, s₁.pairing = s.pairing →
      (∀ trusted candidate, ¬Attempts check c s trusted candidate) → P s₁)
    (hroutes : ∀ trusted candidate s₁, Attempts check c s trusted candidate →
      s₁.pairing = s.pairing →
        P ((tryRoutes check c trusted candidate candidate.routes none).after s₁)) :
    P (after check c s) := by
  unfold after call
  split
  · rename_i hreconnects
    rw [PyM.after_modify_bind]
    refine after_connect (by rfl) ⟨fun _ => .inl hreconnects, fun _ => ?_⟩ hquiet hroutes
    exact Finset.notMem_erase _ _
  · rename_i hplain
    exact after_connect rfl ⟨.inr, fun h => h.resolve_left hplain⟩ hquiet hroutes

end ConnectionManager

end ExpraConnect
