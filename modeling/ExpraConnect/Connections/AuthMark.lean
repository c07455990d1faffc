import ExpraConnect.Connections.Attempts

/-!
# What marks a credential as broken

`connect` marks a peer as one whose credential failed whenever its second `try` block raises a
`RemoteAuthError`, also when the peer took the credential and what failed is a comparison with the
candidate, which anybody can advertise, or the local save.

* `tryRoutes_marked_iff`, `after_marked_iff`: a call marks the peer if and only if the decisive
  route is rejected;
* `Honest`, `Agrees`, `Undisturbed`: a peer that takes the secret, and a call in which nothing else
  decides;
* `unmarked_iff_undisturbed`: in a run, an honest peer is never marked if and only if no call meets
  a foreign endpoint that fails authentication, a candidate that disagrees with the peer's `hello`,
  or a failed save; `advertised_root_marks`.
-/

namespace ExpraConnect

open ExpraConnect.Lib

namespace ConnectionManager

open ConnectCall

variable {check : SignatureCheck} {c : ConnectCall} {trusted : TrustedPeer}
  {candidate : DiscoveredNodeCandidate} {s : ConnectionManager}

/-! ## One call -/

/-- Authorizing a peer marks none.  Kind: L -/
theorem authBroken_authorizePeer (peer : NodeId) (s : ConnectionManager) :
    ((authorizePeer peer).after s).pairing.authBroken = s.pairing.authBroken := by
  have hobserve : (observe peer s).pairing = s.pairing := by
    unfold observe
    split <;> rfl
  unfold authorizePeer
  simp only [PyM.after_get_bind]
  split
  · exact congrArg PairingManager.authBroken hobserve
  · exact congrArg PairingManager.authBroken hobserve

/-- The loop marks an unmarked peer if and only if the decisive route is rejected, and never marks
another.  Source: `connections/manager.py`, `connect`.  Kind: L -/
theorem tryRoutes_marked_iff (endpoints : List EndpointCandidate) (last : Option PyError)
    (hstored : s.trusted? c.peerId = some trusted) :
    (∀ peer, peer ≠ c.peerId →
      (peer ∈ ((tryRoutes check c trusted candidate endpoints last).after s).pairing.authBroken ↔
        peer ∈ s.pairing.authBroken)) ∧
    (c.peerId ∉ s.pairing.authBroken →
      (c.peerId ∈
          ((tryRoutes check c trusted candidate endpoints last).after s).pairing.authBroken ↔
        ∃ endpoint, c.decisive endpoints = some endpoint ∧
          Rejected check c trusted candidate (c.route endpoint))) := by
  rw [tryRoutes_after]
  -- a state in which nothing was marked
  have hquiet : ∀ {s₁ : ConnectionManager} {p : Prop},
      s₁.pairing.authBroken = s.pairing.authBroken → ¬p →
      (∀ peer, peer ≠ c.peerId → (peer ∈ s₁.pairing.authBroken ↔ peer ∈ s.pairing.authBroken)) ∧
      (c.peerId ∉ s.pairing.authBroken → (c.peerId ∈ s₁.pairing.authBroken ↔ p)) := by
    intro s₁ p hs₁ hno
    rw [hs₁]
    exact ⟨fun _ _ => Iff.rfl, fun hun => iff_of_false hun hno⟩
  -- a state in which the peer was marked
  have hmarked : ∀ {s₁ : ConnectionManager} {p : Prop},
      s₁.pairing.authBroken = s.pairing.authBroken → s₁.trusted? c.peerId = some trusted → p →
      (∀ peer, peer ≠ c.peerId →
        (peer ∈ (s₁.pairing.markAuthFailure c.peerId).authBroken ↔
          peer ∈ s.pairing.authBroken)) ∧
      (c.peerId ∉ s.pairing.authBroken →
        (c.peerId ∈ (s₁.pairing.markAuthFailure c.peerId).authBroken ↔ p)) := by
    intro s₁ p hs₁ hstored₁ hyes
    have hcontains : s₁.pairing.trusted.contains c.peerId = true := by
      unfold Dict.contains
      rw [show s₁.pairing.trusted.get? c.peerId = some trusted from hstored₁]
      rfl
    unfold PairingManager.markAuthFailure
    rw [if_pos hcontains, hs₁]
    refine ⟨fun peer hpeer => ?_, fun _ => iff_of_true (Finset.mem_insert_self _ _) hyes⟩
    rw [Finset.mem_insert]
    exact or_iff_right hpeer
  cases hdecisive : c.decisive endpoints with
  | none =>
      refine hquiet rfl ?_
      rintro ⟨endpoint, hsome, -⟩
      cases hsome
  | some endpoint =>
      -- whether the decisive route is rejected is whether there is one that is
      have hone : (∃ e, some endpoint = some e ∧ Rejected check c trusted candidate (c.route e)) ↔
          Rejected check c trusted candidate (c.route endpoint) := by simp
      rw [hone, Option.map_some]
      cases hroute : c.route endpoint with
      | noTransport e => exact hquiet rfl id
      | hello result =>
          cases result with
          | error e =>
              have hgreet : greet check c trusted candidate (.error e) s = .error e s := rfl
              simp only [hgreet]
              split_ifs with hauth
              · exact hmarked rfl hstored hauth
              · exact hquiet rfl hauth
          | ok hello =>
              rcases @greet_cases check c trusted candidate hello s with
                ⟨-, hfine, s₁, hrun, hbroken, -⟩ | ⟨-, e, s₁, hrun, -, hauth, hbroken, -⟩
              · simp only [hrun]
                rw [authBroken_authorizePeer, hbroken]
                refine ⟨fun peer hpeer => ?_, fun hun => iff_of_false ?_ hfine⟩
                · rw [Finset.mem_erase]
                  exact and_iff_right hpeer
                · exact Finset.notMem_erase _ _
              · simp only [hrun]
                split_ifs with hkind
                · have hstored₁ : s₁.trusted? c.peerId = some trusted := by
                    rw [greet_error hstored hrun, hstored]
                  exact hmarked hbroken hstored₁ (hauth.mp hkind)
                · exact hquiet hbroken fun h => hkind (hauth.mpr h)

/-- **The mark.**  A call marks an unmarked peer if and only if it gets to its routes and the
decisive one is rejected; it marks no other.
Source: `connections/manager.py`, `connect`; `pairing/manager.py`, `mark_auth_failure`.  Kind: L -/
theorem after_marked_iff (check : SignatureCheck) (c : ConnectCall) (s : ConnectionManager) :
    (∀ peer, peer ≠ c.peerId →
      (peer ∈ (after check c s).pairing.authBroken ↔ peer ∈ s.pairing.authBroken)) ∧
    (c.peerId ∉ s.pairing.authBroken →
      (c.peerId ∈ (after check c s).pairing.authBroken ↔
        ∃ trusted candidate endpoint, Attempts check c s trusted candidate ∧
          c.decisive candidate.routes = some endpoint ∧
          Rejected check c trusted candidate (c.route endpoint))) := by
  refine @after_cases check c s (fun s' => (∀ peer, peer ≠ c.peerId →
      (peer ∈ s'.pairing.authBroken ↔ peer ∈ s.pairing.authBroken)) ∧
    (c.peerId ∉ s.pairing.authBroken → (c.peerId ∈ s'.pairing.authBroken ↔ _))) ?_ ?_
  · intro s₁ hpairing hno
    rw [hpairing]
    refine ⟨fun _ _ => Iff.rfl, fun hun => iff_of_false hun ?_⟩
    rintro ⟨trusted, candidate, -, h, -⟩
    exact hno trusted candidate h
  · intro trusted candidate s₁ h hpairing
    have hstored : s₁.trusted? c.peerId = some trusted := by
      rw [← h.stored]
      unfold trusted?
      rw [hpairing]
    obtain ⟨hothers, hown⟩ := @tryRoutes_marked_iff check c trusted candidate s₁ candidate.routes
      none hstored
    rw [hpairing] at hothers hown
    refine ⟨hothers, fun hun => (hown hun).trans ⟨?_, ?_⟩⟩
    · rintro ⟨endpoint, hdecisive, hrejected⟩
      exact ⟨trusted, candidate, endpoint, h, hdecisive, hrejected⟩
    · rintro ⟨trusted', candidate', endpoint, h', hdecisive, hrejected⟩
      obtain rfl : trusted' = trusted := Option.some.inj (h'.stored.symm.trans h.stored)
      obtain rfl : candidate' = candidate := Option.some.inj (h'.found.symm.trans h.found)
      exact ⟨endpoint, hdecisive, hrejected⟩

end ConnectionManager

/-! ## Runs with an honest peer -/

namespace ConnectCall

/-- At its own endpoints the peer takes the stored secret: `hello` raises no `RemoteAuthError`
there.  What answers at any other endpoint is arbitrary.  Kind: D -/
def Honest (own : EndpointCandidate → Prop) (c : ConnectCall) : Prop :=
  ∀ endpoint e, own endpoint → c.route endpoint = .hello (.error e) → e.kind.isRemoteAuth = false

/-- The `hello` says what the candidate says, or nothing and the transport is the stored one.
Kind: D -/
def Agrees (trusted : TrustedPeer) (candidate : DiscoveredNodeCandidate) (hello : Fields) : Prop :=
  if ["transport_fingerprint", "root_public_key", "transport_generation",
      "transport_proof"].all (fun field => Value.isNone (getField field hello)) = true then
    SameTransport trusted candidate
  else helloMatches candidate hello = true

/-- Nothing but the credential decides about the mark in this call: the decisive route is the
peer's or fails otherwise than by authentication, its `hello` agrees with the candidate, and a new
transport is saved.  Kind: D -/
def Undisturbed (check : SignatureCheck) (own : EndpointCandidate → Prop) (c : ConnectCall)
    (s : ConnectionManager) : Prop :=
  ∀ trusted candidate endpoint, Attempts check c s trusted candidate →
    c.decisive candidate.routes = some endpoint →
      (∀ e, c.route endpoint = .hello (.error e) → own endpoint ∨ e.kind.isRemoteAuth = false) ∧
      ∀ hello, c.route endpoint = .hello (.ok hello) →
        Agrees trusted candidate hello ∧
          (SameTransport trusted candidate ∨ c.Persists ∨
            (parseHelloCapabilities hello).isOk = false)

variable {check : SignatureCheck} {own : EndpointCandidate → Prop} {c : ConnectCall}
  {s : ConnectionManager}

/-- Behind the gate the comparison fails if and only if the `hello` does not agree.  Kind: L -/
theorem validateHelloGeneration_eq_ok {trusted : TrustedPeer}
    {candidate : DiscoveredNodeCandidate}
    (hallowed : candidateAllowed check trusted candidate = true) (hello : Fields) :
    validateHelloGeneration check trusted candidate hello = .ok () ↔
      Agrees trusted candidate hello := by
  unfold validateHelloGeneration Agrees
  rw [hallowed]
  split_ifs <;> simp_all

/-- A call with an honest peer is undisturbed if and only if the decisive route is not rejected.
Kind: L -/
theorem undisturbed_iff (hhonest : c.Honest own) :
    c.Undisturbed check own s ↔
      ¬∃ trusted candidate endpoint, Attempts check c s trusted candidate ∧
        c.decisive candidate.routes = some endpoint ∧
        Rejected check c trusted candidate (c.route endpoint) := by
  constructor
  · rintro h ⟨trusted, candidate, endpoint, hattempts, hdecisive, hrejected⟩
    obtain ⟨herror, hok⟩ := h trusted candidate endpoint hattempts hdecisive
    cases hroute : c.route endpoint with
    | noTransport e =>
        rw [hroute] at hrejected
        exact hrejected
    | hello result =>
        rw [hroute] at hrejected
        cases result with
        | error e =>
            have hfine : e.kind.isRemoteAuth = false := by
              rcases herror e hroute with hown | hfine
              · exact hhonest endpoint e hown hroute
              · exact hfine
            exact absurd hrejected (by rw [Rejected, hfine]; exact Bool.false_ne_true)
        | ok hello =>
            obtain ⟨hagrees, hsaved⟩ := hok hello hroute
            rcases hrejected with hinvalid | ⟨hparses, hnew, hfails⟩
            · exact hinvalid ((validateHelloGeneration_eq_ok hattempts.allowed hello).mpr hagrees)
            · rcases hsaved with hsame | hpersists | hunparsed
              · exact hnew hsame
              · exact hfails hpersists
              · cases hunparsed.symm.trans hparses
  · intro h trusted candidate endpoint hattempts hdecisive
    have hfine : ¬Rejected check c trusted candidate (c.route endpoint) := fun hrejected =>
      h ⟨trusted, candidate, endpoint, hattempts, hdecisive, hrejected⟩
    refine ⟨fun e hroute => .inr ?_, fun hello hroute => ?_⟩
    · rw [← Bool.not_eq_true]
      intro hauth
      rw [hroute] at hfine
      exact hfine hauth
    · rw [hroute] at hfine
      obtain ⟨hvalid, hsaved⟩ := not_or.mp hfine
      refine ⟨(validateHelloGeneration_eq_ok hattempts.allowed hello).mp (not_not.mp hvalid), ?_⟩
      by_contra hno
      obtain ⟨hnew, hfails, hparses⟩ := by simpa only [not_or] using hno
      exact hsaved ⟨by simpa using hparses, hnew, hfails⟩

end ConnectCall

namespace ConnectionManager

open ConnectCall

/-- Every call to the peer is undisturbed where it happens. -/
def UndisturbedRun (check : SignatureCheck) (own : EndpointCandidate → Prop) (peer : NodeId) :
    List ConnectCall → ConnectionManager → Prop
  | [], _ => True
  | c :: rest, s =>
      (c.peerId = peer → c.Undisturbed check own s) ∧
        UndisturbedRun check own peer rest (after check c s)

/-- **The mark of an honest peer.**  In every run of calls, whatever discovery finds, other
endpoints answer and the store does, an honest peer is unmarked in every state if and only if every
call to it is undisturbed.
Source: `connections/manager.py`, `connect` and `_record_generation`.  Kind: P -/
theorem unmarked_iff_undisturbed (check : SignatureCheck) {own : EndpointCandidate → Prop}
    {peer : NodeId} {calls : List ConnectCall} {s : ConnectionManager}
    (hhonest : ∀ c ∈ calls, c.peerId = peer → c.Honest own) (hs : peer ∉ s.pairing.authBroken) :
    (∀ before, before <+: calls → peer ∉ (run check before s).pairing.authBroken) ↔
      UndisturbedRun check own peer calls s := by
  induction calls generalizing s with
  | nil =>
      refine iff_of_true (fun before hbefore => ?_) trivial
      rw [List.prefix_nil.mp hbefore]
      exact hs
  | cons c rest ih =>
      obtain ⟨hothers, hown⟩ := after_marked_iff check c s
      -- the call leaves the peer unmarked
      have hstep : peer ∉ (after check c s).pairing.authBroken ↔
          (c.peerId = peer → c.Undisturbed check own s) := by
        by_cases hpeer : c.peerId = peer
        · subst hpeer
          rw [undisturbed_iff (hhonest c List.mem_cons_self rfl), not_congr (hown hs)]
          exact ⟨fun h _ => h, fun h => h rfl⟩
        · rw [hothers peer (Ne.symm hpeer)]
          exact iff_of_true hs fun h => absurd h hpeer
      have hrest := fun c' hc' => hhonest c' (List.mem_cons_of_mem c hc')
      constructor
      · intro h
        have hafter := h [c] ⟨rest, rfl⟩
        refine ⟨hstep.mp hafter, (ih hrest hafter).mp fun before hbefore => ?_⟩
        exact h (c :: before) (List.cons_prefix_cons.mpr ⟨rfl, hbefore⟩)
      · rintro ⟨hc, hrun⟩ before hbefore
        cases before with
        | nil => exact hs
        | cons c' before =>
            obtain ⟨rfl, hprefix⟩ := List.cons_prefix_cons.mp hbefore
            exact (ih hrest (hstep.mpr hc)).mpr hrun before hprefix

/-- The peer answers and the store saves; nothing marks it. -/
theorem unmarked_iff_undisturbed_renewal :
    (renewal (some "root")).Honest (fun _ => True) ∧ renewing ∉ beforeRenewal.pairing.authBroken ∧
      ((∀ before, before <+: [renewal (some "root")] →
          renewing ∉ (run renewalCheck before beforeRenewal).pairing.authBroken) ↔
        UndisturbedRun renewalCheck (fun _ => True) renewing [renewal (some "root")]
          beforeRenewal) := by
  have hhonest : (renewal (some "root")).Honest fun _ => True := by
    intro endpoint e _ hroute
    cases hroute
  have hunmarked : renewing ∉ beforeRenewal.pairing.authBroken := by decide +kernel
  refine ⟨hhonest, hunmarked, unmarked_iff_undisturbed renewalCheck ?_ hunmarked⟩
  intro c hc _
  obtain rfl := List.mem_singleton.mp hc
  exact hhonest

/-- The peer takes the secret at every endpoint and the store saves, but the advertised root is
another: the peer is marked, and its relationship needs repair. -/
theorem advertised_root_marks :
    (renewal (some "other root")).Honest (fun _ => True) ∧
      (renewal (some "other root")).Persists ∧ renewing ∉ beforeRenewal.pairing.authBroken ∧
      renewing ∈ (run renewalCheck [renewal (some "other root")] beforeRenewal).pairing.authBroken ∧
      (run renewalCheck [renewal (some "other root")] beforeRenewal).pairing.relationship 0
        renewing = .repairRequired := by
  have hhonest : (renewal (some "other root")).Honest fun _ => True := by
    intro endpoint e _ hroute
    cases hroute
  refine ⟨hhonest, fun result h => (Option.some.inj h).symm, ?_⟩
  decide +kernel

end ConnectionManager

end ExpraConnect
