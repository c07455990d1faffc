import ExpraConnect.Lib.Yields
import ExpraConnect.Remote.AtMostOnce

/-!
# What makes a call be answered

`ServiceFacts` says what a part of `handle` has seen when it succeeds; here is the converse: what
the steps of a part have to find so that it succeeds (in the sense of `Lib.Yields`).

* `SameAuthority`: the caller's authority in a state is what it is in another one; the checks of the
  grants depend on nothing else (`…_settles`), so that what passed once passes again;
* `Arriving`, `admitRequest_yields`: when a delivery of an envelope that was admitted once is
  admitted;
* `Passing`, `finalChecks_yields`, `postchecks_yields`: when the checks around and behind the
  operation pass;
* `waiter_yields`, `respond_yields`: what a waiter returns, and how a result is answered.
-/

namespace ExpraConnect

open ExpraConnect.Lib

variable {H : Type} {cfg : ServiceConfig H} {request : RemoteRequest}

/-- A guard whose condition is false returns.  Kind: L -/
theorem yields_raiseIf {σ ι : Type} {P : ι → σ → Prop} {p : Prop} [Decidable p] {e : PyError}
    (hp : ¬p) : Prog.Yields P (fun _ => True) (raiseIf p e : Prog σ ι PyError Unit) := by
  intro h r hends _
  obtain ⟨-, rfl⟩ := ends_raiseIf.mp hends
  exact ⟨(), if_neg hp, trivial⟩

/-- A guard has one outcome.  Kind: L -/
theorem settles_raiseIf {σ ι : Type} {P : ι → σ → Prop} {p : Prop} [Decidable p] {e : PyError} :
    Prog.Settles P (raiseIf p e : Prog σ ι PyError Unit) := by
  intro h h' r r' hr hr' _ _
  rw [(ends_raiseIf.mp hr).2, (ends_raiseIf.mp hr').2]

/-! ## Authority -/

/-- What the checks of the request's authority read in `s` is what they read in `s₀`: the grants and
their version, which of the caller's grants are alive, and the answer of the surface registry.
Kind: D -/
structure SameAuthority (cfg : ServiceConfig H) (request : RemoteRequest) (s₀ s : ServiceState H) :
    Prop where
  /-- Whether there are grants. -/
  mode : s.auth.grantMode = s₀.auth.grantMode
  /-- The Pair grants. -/
  grants : s.auth.grants = s₀.auth.grants
  /-- The cluster grants. -/
  clusterGrants : s.auth.clusterCapabilityGrants = s₀.auth.clusterCapabilityGrants
  /-- Their version. -/
  version : s.auth.grantVersion = s₀.auth.grantVersion
  /-- The caller's Pair grant has not expired meanwhile. -/
  alive : ∀ caller g, request.callerNodeId = some caller → s₀.auth.grants.get? caller = some g →
    g.expired s.clock = g.expired s₀.clock
  /-- Nor has a cluster grant of the caller on this node. -/
  clusterAlive : ∀ g ∈ s₀.auth.clusterCapabilityGrants, some g.subject = request.callerNodeId →
    g.target = cfg.nodeId → (s.clock < g.expiresAt ↔ s₀.clock < g.expiresAt)
  /-- The surface registry answers the same. -/
  surface : ∀ authorize, cfg.surfaceAuthorize = some authorize → ∀ g,
    authorize request g s.view = authorize request g s₀.view

section authority

variable {s₀ : ServiceState H}

/-- While the authority stays as it is, `findClusterGrant` has one outcome.  Kind: L -/
theorem findClusterGrant_settles {caller : NodeId} {items : List CapabilityGrant}
    (hcaller : request.callerNodeId = some caller)
    (hitems : items ⊆ s₀.auth.clusterCapabilityGrants) :
    Prog.Settles (fun _ s => SameAuthority cfg request s₀ s)
      (findClusterGrant cfg caller items) := by
  induction items with
  | nil => exact Prog.settles_pure _
  | cons item rest ih =>
      have hrest := ih fun x hx => hitems (List.mem_cons_of_mem _ hx)
      unfold findClusterGrant
      split
      · rename_i hmatch
        intro h h' r r' hr hr' halong halong'
        obtain ⟨s, t, rfl, ht⟩ := ends_clock_bind.mp hr
        obtain ⟨s', t', rfl, ht'⟩ := ends_clock_bind.mp hr'
        -- both clocks are on the same side of the expiry
        have hown : some item.subject = request.callerNodeId := by rw [hmatch.1, hcaller]
        have hitem := hitems (List.mem_cons_self (a := item))
        have hs := (halong _ List.mem_cons_self).clusterAlive item hitem hown hmatch.2
        have hs' := (halong' _ List.mem_cons_self).clusterAlive item hitem hown hmatch.2
        have htail := halong.tail
        have htail' := halong'.tail
        by_cases hlive : s₀.clock < item.expiresAt
        · rw [if_pos (hs.mpr hlive)] at ht
          rw [if_pos (hs'.mpr hlive)] at ht'
          exact Prog.settles_pure _ _ _ _ _ ht ht' htail htail'
        · rw [if_neg (mt hs.mp hlive)] at ht
          rw [if_neg (mt hs'.mp hlive)] at ht'
          exact hrest _ _ _ _ ht ht' htail htail'
      · exact hrest

/-- While the authority stays as it is, `clusterGrantOf` has one outcome.  Kind: L -/
theorem clusterGrantOf_settles :
    Prog.Settles (fun _ s => SameAuthority cfg request s₀ s) (clusterGrantOf cfg request) := by
  unfold clusterGrantOf
  split
  · exact Prog.settles_pure _
  · rename_i caller hcaller
    intro h h' r r' hr hr' halong halong'
    obtain ⟨s, t, rfl, ht⟩ := Prog.ends_step.mp hr
    obtain ⟨s', t', rfl, ht'⟩ := Prog.ends_step.mp hr'
    change Prog.Ends (findClusterGrant cfg caller s.auth.clusterCapabilityGrants) t r at ht
    change Prog.Ends (findClusterGrant cfg caller s'.auth.clusterCapabilityGrants) t' r' at ht'
    rw [(halong _ List.mem_cons_self).clusterGrants] at ht
    rw [(halong' _ List.mem_cons_self).clusterGrants] at ht'
    exact findClusterGrant_settles hcaller (List.Subset.refl _) _ _ _ _ ht ht' halong.tail
      halong'.tail

/-- **Authorization depends on the authority alone**, not on the interleaving.  Kind: L -/
theorem authorizeRequest_settles (grant : Option PeerGrant) :
    Prog.Settles (fun _ s => SameAuthority cfg request s₀ s)
      (authorizeRequest cfg request grant) := by
  unfold authorizeRequest
  split
  · exact Prog.settles_throw _
  · refine Prog.settles_bind settles_raiseIf fun _ => Prog.settles_bind clusterGrantOf_settles
      fun g => Prog.settles_bind settles_raiseIf fun _ => Prog.settles_bind settles_raiseIf
        fun _ => Prog.settles_bind ?_ fun _ => Prog.settles_pure _
    unfold authorizeSurface
    split
    · refine Prog.settles_bind (Prog.settles_ofExcept _) fun _ =>
        Prog.settles_bind settles_raiseIf fun _ => ?_
      unfold surfaceCheck
      split
      · exact Prog.settles_throw _
      · rename_i authorize hauthorize
        refine Prog.settles_call fun s s' hs hs' => ?_
        rw [hs.surface authorize hauthorize, hs'.surface authorize hauthorize]
    · exact Prog.settles_pure _

/-- While the authority stays as it is, `grantSnapshot` has one outcome.  Kind: L -/
theorem grantSnapshot_settles {caller : Option NodeId}
    (hcaller : ∀ c, caller = some c → request.callerNodeId = some c) :
    Prog.Settles (fun _ s => SameAuthority cfg request s₀ s) (grantSnapshot (H := H) caller) := by
  refine Prog.settles_call fun s s' hs hs' => ?_
  rw [hs.mode, hs.grants, hs.version, hs'.mode, hs'.grants, hs'.version]
  cases caller with
  | none => rfl
  | some c =>
      simp only
      cases hget : s₀.auth.grants.get? c with
      | none => rfl
      | some g => simp only [hs.alive c g (hcaller c rfl) hget, hs'.alive c g (hcaller c rfl) hget]

/-- The snapshot of the request was taken in `s₀`, or could have been. -/
def SnapshotOf (request : RemoteRequest) (snapshot : GrantSnapshot) (s₀ : ServiceState H) : Prop :=
  ∀ g, snapshot.grant = some g → ∃ caller, request.callerNodeId = some caller ∧
    s₀.auth.grants.get? caller = some g

/-- While the authority stays as it is, `assertGrantSnapshotCurrent` has one outcome.  Kind: L -/
theorem assertGrantSnapshotCurrent_settles {snapshot : GrantSnapshot}
    (hsnap : SnapshotOf request snapshot s₀) :
    Prog.Settles (fun _ s => SameAuthority cfg request s₀ s)
      (assertGrantSnapshotCurrent (H := H) snapshot) := by
  refine Prog.settles_call fun s s' hs hs' => ?_
  rw [hs.version, hs'.version]
  cases hgrant : snapshot.grant with
  | none => rfl
  | some g =>
      obtain ⟨caller, hcaller, hget⟩ := hsnap g hgrant
      simp only [Option.any_some, hs.alive caller g hcaller hget, hs'.alive caller g hcaller hget]

end authority

/-! ## Admission -/

/-- Neither the caller's authority nor the fence has changed.  Kind: D -/
structure Unchanged (cfg : ServiceConfig H) (request : RemoteRequest) (s₀ s : ServiceState H) : Prop
    extends SameAuthority cfg request s₀ s where
  /-- The installed fence. -/
  fence : s.auth.fence = s₀.auth.fence

/-- The request is within the freshness window. -/
def FreshAt (cfg : ServiceConfig H) (request : RemoteRequest) (s : ServiceState H) : Prop :=
  s.clock - request.timestamp ≤ cfg.freshnessSeconds ∧
    -cfg.freshnessSeconds ≤ s.clock - request.timestamp

section admission

variable {s₀ : ServiceState H} {envelope : Value} {secret : String} {checked : CheckedEnvelope}
  {h : SvcHistory H}

/-- While the authority stays as it is, `verifyFenceOfRole` has one outcome.  Kind: L -/
theorem verifyFenceOfRole_settles :
    Prog.Settles (fun _ s => Unchanged cfg request s₀ s) (verifyFenceOfRole cfg request) := by
  unfold verifyFenceOfRole
  split
  · refine Prog.settles_call fun s s' hs hs' => ?_
    rw [hs.fence, hs'.fence]
  · exact Prog.settles_pure _

/-- A fresh envelope that passed the checks once is verified, or it is known to the replay cache.
Kind: L -/
theorem verifyRequest_outcome {newCache : Bool} {r : Except PyError RemoteRequest}
    (hchecked : cfg.codec.checkEnvelope envelope secret = .ok checked)
    (hid : checked.checkIdentity = .ok request)
    (hends : Prog.Ends (verifyRequest cfg envelope secret newCache) h r)
    (hfresh : ∀ x ∈ h, x.1 = .read .clock → FreshAt cfg request x.2) :
    r = .ok request ∨ (newCache = false ∧ r = .error (authError "request has been replayed")) := by
  unfold verifyRequest at hends
  rw [hchecked, Prog.ofExcept_ok_bind] at hends
  obtain ⟨s, t, rfl, hrest⟩ := ends_clock_bind.mp hends
  have hwindow : checked.checkFreshness s.clock cfg.freshnessSeconds = .ok () := by
    obtain ⟨-, -, -, hts, -⟩ := checkIdentity_eq_ok hid
    obtain ⟨hlow, hhigh⟩ := hfresh _ List.mem_cons_self rfl
    rw [hts] at hlow hhigh
    simp only [CheckedEnvelope.checkFreshness, Except.raiseIf_eq_ok, not_or, not_lt]
    exact ⟨hlow, hhigh⟩
  rw [hwindow, hid, Prog.ofExcept_ok_bind, Prog.ofExcept_ok_bind] at hrest
  rcases Prog.ends_bind.mp hrest with ⟨e, rfl, herr⟩ | ⟨h₁, h₂, accepted, rfl, hreplay, hlast⟩
  · -- the replay cache itself does not raise
    unfold checkReplay at herr
    split at herr
    · cases (Prog.ends_pure.mp herr).2
    · obtain ⟨u, -, hu⟩ := Prog.ends_call.mp herr
      cases hu
  · cases accepted with
    | true =>
        obtain ⟨-, rfl⟩ := Prog.ends_pure.mp hlast
        exact .inl rfl
    | false =>
        obtain ⟨-, rfl⟩ := Prog.ends_throw.mp hlast
        refine .inr ⟨?_, rfl⟩
        -- a new cache has seen nothing
        cases newCache with
        | false => rfl
        | true =>
            obtain ⟨-, hnew⟩ := Prog.ends_pure.mp hreplay
            simp [ReplayCache.checkAndRecord, ReplayCache.prune, ReplayCache.empty,
              ReplayCache.pruneLoop, Dict.contains] at hnew

/-- An envelope that is fresh and passed the checks once is verified, as often as it comes.
Kind: L -/
theorem verifyOrRetry_yields (hchecked : cfg.codec.checkEnvelope envelope secret = .ok checked)
    (hid : checked.checkIdentity = .ok request) (hop : (Op.ofString? request.op).isSome = true) :
    Prog.Yields (fun l s => l = .read .clock → FreshAt cfg request s) (· = request)
      (verifyOrRetry cfg envelope secret) := by
  intro h r hends halong
  rcases Prog.ends_bind.mp hends with ⟨e, -, herr⟩ | ⟨h₁, h₂, out, rfl, hfirst, hrest⟩
  · exact (Prog.ends_attempt_error.mp herr).elim
  · rw [Prog.ends_attempt_ok] at hfirst
    rcases verifyRequest_outcome hchecked hid hfirst halong.left with rfl | ⟨-, rfl⟩
    · obtain ⟨-, rfl⟩ := Prog.ends_pure.mp hrest
      exact ⟨request, rfl, rfl⟩
    · -- the replay cache knows it: it is verified again with a new one
      have hknown : knownOperation envelope = true := by
        obtain ⟨fields, rfl, hfields⟩ := checkEnvelope_eq_ok hchecked
        obtain ⟨-, hsame, -⟩ := checkIdentity_eq_ok hid
        simpa [knownOperation, hfields.op, Value.asStr?, ← hsame] using hop
      have hretry : ((authError "request has been replayed").kind.isRemoteAuth &&
          containsText "replayed" (authError "request has been replayed").message &&
            knownOperation envelope) = true := by
        rw [hknown]
        decide
      simp only [hretry, if_true] at hrest
      rcases verifyRequest_outcome hchecked hid hrest halong.right with rfl | ⟨hbad, -⟩
      · exact ⟨request, rfl, rfl⟩
      · cases hbad

/-- What a step of a further delivery of the envelope, on another connection, has to find until it
is admitted.  Kind: D -/
structure Arriving (cfg : ServiceConfig H) (request : RemoteRequest) (generation : Generation)
    (sessionId : String) (s₀ : ServiceState H) (l : Instr H) (s : ServiceState H) : Prop where
  /-- Authority and fence are those of the first delivery. -/
  unchanged : Unchanged cfg request s₀ s
  /-- The clock is read within the freshness window. -/
  fresh : l = .read .clock → FreshAt cfg request s
  /-- The session accepts the connection. -/
  accepted : ∀ now, l = .authenticate request generation now →
    (s.sessions.authenticate cfg.sessions request generation now).1 = .ok sessionId

/-- On an active session `authenticateSession` returns.  Kind: L -/
theorem authenticateSession_yields {generation : Generation} {sessionId : String} :
    Prog.Yields (Arriving cfg request generation sessionId s₀) (· = sessionId)
      (authenticateSession cfg request generation) := by
  refine Prog.yields_bind (Q := fun _ => True) (Prog.yields_call fun s _ => ⟨_, rfl, trivial⟩)
    fun now _ => Prog.yields_call fun s hs => ⟨sessionId, hs.accepted now rfl, rfl⟩

/-- **What was admitted once is admitted again**, on a connection that the session accepts.
Kind: L -/
theorem admitRequest_yields {text : String} {generation generation' : Generation} {a : Admission}
    (hends : Prog.Ends (admitRequest cfg text generation) h (.ok a))
    (halong : Prog.Along (fun _ s => Unchanged cfg a.request s₀ s) h)
    (hop : (Op.ofString? a.request.op).isSome = true) :
    Prog.Yields (Arriving cfg a.request generation' a.sessionId s₀) (· = a)
      (admitRequest cfg text generation') := by
  obtain ⟨envelope, hsnap, hver, hsession, hfence, hloads, rfl, hsnap', hsecret, hver', hcaller,
    htarget, -, hfence'⟩ := admitRequest_parts hends
  obtain ⟨⟨checked, hchecked, hid⟩, -⟩ := verifyOrRetry_ends hver'
  have hsame : ∀ c, callerFromJson envelope = some c → a.request.callerNodeId = some c := by
    obtain ⟨fields, rfl, hfields⟩ := checkEnvelope_eq_ok hchecked
    exact fun c hc => callerNodeId_eq_of_callerFromJson hc hfields hid
  have hsnapshot := (grantSnapshot_settles hsame).yields hsnap'
    fun x hx => (halong.left x hx).toSameAuthority
  have hfenced := verifyFenceOfRole_settles.yields hfence' halong.right.right.right
  unfold admitRequest
  simp only [hloads]
  refine Prog.yields_bind (hsnapshot.mono (fun _ _ hs => hs.unchanged.toSameAuthority)
    fun _ h => h) fun snapshot heq => ?_
  subst heq
  rw [← hsecret]
  refine Prog.yields_bind ((verifyOrRetry_yields hchecked hid hop).mono
    (fun _ _ hs => hs.fresh) fun _ h => h) fun request heq => ?_
  subst heq
  refine Prog.yields_bind (yields_raiseIf hcaller) fun _ _ =>
    Prog.yields_bind (yields_raiseIf (not_not.mpr htarget)) fun _ _ =>
      Prog.yields_bind authenticateSession_yields fun sessionId heq => ?_
  subst heq
  exact Prog.yields_bind (hfenced.mono (fun _ _ hs => hs.unchanged) fun _ h => h) fun _ _ =>
    Prog.yields_pure rfl

/-- The clock is read before the connection is authenticated.  Kind: L -/
theorem admitRequest_reaches_clock {text : String} {generation : Generation}
    (hl : Prog.Reaches (admitRequest cfg text generation) h (.read .clock)) :
    ∀ x ∈ h, ∀ other g now, x.1 ≠ .authenticate other g now := by
  have hquiet : ∀ {l : Instr H}, Quiet l → ∀ other g now, l ≠ .authenticate other g now := by
    rintro l hq other g now rfl
    exact hq
  unfold admitRequest at hl
  split at hl
  · exact (Prog.reaches_throw.mp hl).elim
  · rcases Prog.reaches_bind.mp hl with hl | ⟨h₁, h₂, snapshot, rfl, hsnap, hrest⟩
    · cases (Prog.reaches_call.mp hl).2
    · obtain ⟨s, rfl, -⟩ := grantSnapshot_ends hsnap
      have hread : ∀ other g now, (Instr.read .grantSnapshot : Instr H) ≠
          .authenticate other g now := by
        intro other g now hbad
        cases hbad
      rcases Prog.reaches_bind.mp hrest with hl | ⟨h₃, h₄, request, -, -, hl⟩
      · -- inside `verify_request`, of which everything is quiet
        obtain ⟨next, hnext⟩ := hl
        intro x hx
        rcases List.mem_append.mp hx with hx | hx
        · rw [List.mem_singleton.mp hx]
          exact hread
        · obtain ⟨t₁, t₂, rfl⟩ := List.append_of_mem hx
          exact hquiet (verifyOrRetry_only _ _ _ _ hnext.reaches)
      · -- nothing behind it reads the wall clock
        rcases Prog.reaches_bind.mp hl with hl | ⟨_, _, _, -, -, hl⟩
        · exact (reaches_raiseIf.mp hl).elim
        rcases Prog.reaches_bind.mp hl with hl | ⟨_, _, _, -, -, hl⟩
        · exact (reaches_raiseIf.mp hl).elim
        rcases Prog.reaches_bind.mp hl with hl | ⟨_, _, _, -, -, hl⟩
        · rcases Prog.reaches_bind.mp hl with hl | ⟨_, _, _, -, -, hl⟩
          · cases (Prog.reaches_call.mp hl).2
          · cases (Prog.reaches_call.mp hl).2
        rcases Prog.reaches_bind.mp hl with hl | ⟨_, _, _, -, -, hl⟩
        · unfold verifyFenceOfRole at hl
          split at hl
          · cases (Prog.reaches_call.mp hl).2
          · exact (Prog.reaches_pure.mp hl).elim
        · exact (Prog.reaches_pure.mp hl).elim

/-- The grant of a snapshot is one of the caller's.  Kind: L -/
theorem snapshotOf_of_admitRequest {text : String} {generation : Generation} {a : Admission}
    (hends : Prog.Ends (admitRequest cfg text generation) h (.ok a))
    (halong : Prog.Along (fun _ s => Unchanged cfg a.request s₀ s) h) :
    SnapshotOf a.request a.snapshot s₀ := by
  obtain ⟨envelope, hsnap, hver, _, _, -, rfl, hsnap', -, hver', -⟩ := admitRequest_parts hends
  obtain ⟨⟨checked, hchecked, hid⟩, -⟩ := verifyOrRetry_ends hver'
  obtain ⟨u, rfl, hu⟩ := Prog.ends_call.mp hsnap'
  have hsame := (halong (.read .grantSnapshot, u) (by simp)).grants
  intro g hg
  generalize a.snapshot = snapshot at hu hg
  split at hu
  · split at hu
    · cases hu
    · rename_i caller hcaller
      split at hu
      · cases hu
      · rename_i grant hget
        split at hu
        · cases hu
        · cases hu
          cases hg
          obtain ⟨fields, rfl, hfields⟩ := checkEnvelope_eq_ok hchecked
          refine ⟨caller, callerNodeId_eq_of_callerFromJson hcaller hfields hid, ?_⟩
          rw [← hsame]
          exact hget
  · cases hu
    cases hg

end admission

/-! ## The operation -/

/-- The checks of `solve` behind the operation.
Source: `remote/service.py`, `handle`, the closure `solve`.  Kind: D -/
def postchecks (snapshot : GrantSnapshot) (sessionId : String) (generation : Generation)
    (result : Fields) : Svc H Fields := do
  assertSessionCurrent sessionId generation
  assertGrantSnapshotCurrent snapshot
  return result

/-- The checks of a call passed, with the authority of `s₀`.  Kind: D -/
structure Passed (cfg : ServiceConfig H) (request : RemoteRequest) (snapshot : GrantSnapshot)
    (s₀ : ServiceState H) : Prop where
  /-- The snapshot is one of `s₀`. -/
  snapshotOf : SnapshotOf request snapshot s₀
  /-- It was found current. -/
  checked : ∃ h, Prog.Along (fun _ s => Unchanged cfg request s₀ s) h ∧
    Prog.Ends (assertGrantSnapshotCurrent snapshot) h (.ok ())
  /-- The request was authorized. -/
  authorized : ∃ h g, Prog.Along (fun _ s => Unchanged cfg request s₀ s) h ∧
    Prog.Ends (authorizeRequest cfg request snapshot.grant) h (.ok g)
  /-- The fence matched. -/
  fenced : ∃ h, Prog.Along (fun _ s => Unchanged cfg request s₀ s) h ∧
    Prog.Ends (verifyFenceOfRole cfg request) h (.ok ())

/-- What a step has to find so that the checks around the operation pass again.  Kind: D -/
structure Passing (cfg : ServiceConfig H) (request : RemoteRequest) (generation : Generation)
    (sessionId : String) (s₀ : ServiceState H) (l : Instr H) (s : ServiceState H) : Prop where
  /-- Authority and fence are unchanged. -/
  unchanged : Unchanged cfg request s₀ s
  /-- The connection is the one the session is on. -/
  current : ∀ now, l = .assertCurrent sessionId generation now →
    (s.sessions.assertCurrent sessionId generation now).1 = .ok ()

section operation

variable {s₀ : ServiceState H} {snapshot : GrantSnapshot} {sessionId : String}
  {generation : Generation}

/-- A check that was passed once is passed again while nothing it reads has changed.  Kind: L -/
theorem Passed.check_yields (hp : Passed cfg request snapshot s₀) :
    Prog.Yields (Passing cfg request generation sessionId s₀) (fun _ => True)
      (assertGrantSnapshotCurrent snapshot) := by
  obtain ⟨h, halong, hends⟩ := hp.checked
  have hyields := (assertGrantSnapshotCurrent_settles hp.snapshotOf).yields hends
    fun x hx => (halong x hx).toSameAuthority
  exact hyields.mono (fun _ _ hs => hs.unchanged.toSameAuthority) fun _ _ => trivial

/-- A check that was passed once is passed again while nothing it reads has changed.  Kind: L -/
theorem Passed.authorize_yields (hp : Passed cfg request snapshot s₀) :
    Prog.Yields (Passing cfg request generation sessionId s₀) (fun _ => True)
      (authorizeRequest cfg request snapshot.grant) := by
  obtain ⟨h, g, halong, hends⟩ := hp.authorized
  have hyields := (authorizeRequest_settles snapshot.grant).yields hends
    fun x hx => (halong x hx).toSameAuthority
  exact hyields.mono (fun _ _ hs => hs.unchanged.toSameAuthority) fun _ _ => trivial

/-- A check that was passed once is passed again while nothing it reads has changed.  Kind: L -/
theorem Passed.fence_yields (hp : Passed cfg request snapshot s₀) :
    Prog.Yields (Passing cfg request generation sessionId s₀) (fun _ => True)
      (verifyFenceOfRole cfg request) := by
  obtain ⟨h, halong, hends⟩ := hp.fenced
  exact (verifyFenceOfRole_settles.yields hends halong).mono (fun _ _ hs => hs.unchanged)
    fun _ _ => trivial

/-- On an active session `assertSessionCurrent` returns.  Kind: L -/
theorem assertSessionCurrent_yields :
    Prog.Yields (Passing cfg request generation sessionId s₀) (fun _ => True)
      (assertSessionCurrent sessionId generation) :=
  Prog.yields_bind (Q := fun _ => True) (Prog.yields_call fun _ _ => ⟨_, rfl, trivial⟩)
    fun now _ => Prog.yields_call fun _ hs => ⟨(), hs.current now rfl, trivial⟩

/-- The result of an operation that returned is published, when the checks behind it pass.
Kind: L -/
theorem postchecks_yields (hp : Passed cfg request snapshot s₀) (result : Fields) :
    Prog.Yields (Passing cfg request generation sessionId s₀) (· = result)
      (postchecks snapshot sessionId generation result) :=
  Prog.yields_bind assertSessionCurrent_yields fun _ _ =>
    Prog.yields_bind hp.check_yields fun _ _ => Prog.yields_pure rfl

/-- The checks after the operation hand its result on.  Kind: L -/
theorem finalChecks_yields (hp : Passed cfg request snapshot s₀) (payload : Fields) :
    Prog.Yields (Passing cfg request generation sessionId s₀) (· = payload)
      (finalChecks cfg request snapshot sessionId generation payload) :=
  Prog.yields_bind hp.fence_yields fun _ _ =>
    Prog.yields_bind assertSessionCurrent_yields fun _ _ =>
      Prog.yields_bind hp.check_yields fun _ _ =>
        Prog.yields_bind hp.authorize_yields fun _ _ => Prog.yields_pure rfl

/-- What a step has to find so that a call takes over the result of entry `id`.  Kind: D -/
structure Reusing (cfg : ServiceConfig H) (request : RemoteRequest) (generation : Generation)
    (sessionId : String) (s₀ : ServiceState H) (id : ℕ) (result : Fields) (l : Instr H)
    (s : ServiceState H) : Prop extends Passing cfg request generation sessionId s₀ l s where
  /-- The cache knows the entry. -/
  waits : ∀ now, l = .idemEnter (cacheKey request) (fingerprint cfg request) now →
    turnIn cfg (cacheKey request) (fingerprint cfg request) now s = .waiter id
  /-- The entry holds the result. -/
  finds : l = .idemAwait id → awaited id s = .ok result

variable {id : ℕ} {result : Fields}

/-- An idempotent operation hands out the stored result.  Kind: L -/
theorem runOperation_yields (hidem : isIdempotentOp request.op = true) (operation : Svc H Fields) :
    Prog.Yields (Reusing cfg request generation sessionId s₀ id result) (· = result)
      (runOperation cfg request operation) := by
  rw [runOperation, if_pos hidem]
  refine Prog.yields_bind (Q := fun _ => True) (Prog.yields_call fun _ _ => ⟨_, rfl, trivial⟩)
    fun now _ => Prog.yields_bind (Q := (· = IdemTurn.waiter id))
      (Prog.yields_call fun s hs => ⟨_, rfl, hs.waits now rfl⟩) fun turn hturn => ?_
  subst hturn
  exact Prog.yields_call fun s hs => ⟨result, hs.finds rfl, rfl⟩

/-- The whole execution hands out the stored result.  Kind: L -/
theorem execute_yields (hp : Passed cfg request snapshot s₀)
    (hidem : isIdempotentOp request.op = true) :
    Prog.Yields (Reusing cfg request generation sessionId s₀ id result) (· = result)
      (execute cfg request snapshot sessionId generation) := by
  have hweaken : ∀ {α : Type} {p : Svc H α},
      Prog.Yields (Passing cfg request generation sessionId s₀) (fun _ => True) p →
        Prog.Yields (Reusing cfg request generation sessionId s₀ id result) (fun _ => True) p :=
    fun hp => hp.mono (fun _ _ hs => hs.toPassing) fun _ h => h
  refine Prog.yields_bind (hweaken hp.check_yields) fun _ _ =>
    Prog.yields_bind (hweaken hp.authorize_yields) fun _ _ =>
      Prog.yields_bind (runOperation_yields hidem _) fun payload heq => ?_
  subst heq
  exact (finalChecks_yields hp payload).mono (fun _ _ hs => hs.toPassing) fun _ h => h

end operation

/-! ## The answer -/

/-- What ends a self-revocation does not raise. -/
def CommitReturns (cfg : ServiceConfig H) (request : RemoteRequest) : Prop :=
  ∀ commit, cfg.trustRevokeCommit = some commit → request.op = "revoke_self" →
    ∀ h e, ¬Prog.Ends commit h (.error e)

section answer

variable {result : Fields} {secret sessionId : String} {generation : Generation}

/-- A callable ends inside a request as it ends outside.  Kind: L -/
theorem callHost_ends {α : Type} {handler : Handler H α} {h : SvcHistory H} {r : Except PyError α}
    (hends : Prog.Ends (Svc.callHost handler) h r) : ∃ h', Prog.Ends handler h' r := by
  induction handler generalizing h with
  | ret a => exact ⟨[], Prog.ends_ret.mpr ⟨rfl, (Prog.ends_ret.mp hends).2⟩⟩
  | fail e => exact ⟨[], Prog.ends_fail.mpr ⟨rfl, (Prog.ends_fail.mp hends).2⟩⟩
  | step act next ih =>
      obtain ⟨s, t, rfl, ht⟩ := Prog.ends_step.mp hends
      obtain ⟨h', hh'⟩ := ih s.view ht
      exact ⟨(act, s.view) :: h', Prog.ends_step.mpr ⟨s.view, h', rfl, hh'⟩⟩

/-- `commitRevocation` returns, on what it assumes of the host.  Kind: L -/
theorem commitRevocation_yields {P : Instr H → ServiceState H → Prop}
    (hcommit : CommitReturns cfg request) :
    Prog.Yields P (fun _ => True) (commitRevocation cfg request) := by
  unfold commitRevocation
  split
  · rename_i commit hsome
    split
    · rename_i hop
      intro h r hends _
      obtain ⟨h', hh'⟩ := callHost_ends hends
      cases r with
      | ok u => exact ⟨u, rfl, trivial⟩
      | error e => exact (hcommit commit hsome hop h' e hh').elim
    · exact Prog.yields_pure trivial
  · exact Prog.yields_pure trivial

/-- A response with an encodable payload can be signed.  Kind: L -/
theorem signature_responseFields {C : Codec} {nodeId requestId : String} {timestamp : ℚ}
    (hencodable : Value.encodableFields result = true) :
    ∃ sig, C.signature secret (responseFields nodeId requestId true (some result) none timestamp
      sessionId generation) = .ok sig := by
  refine ⟨_, if_pos ?_⟩
  cases generation with
  | none => simp [responseFields, Value.encodableFields, Value.encodable, hencodable]
  | some g => simp [responseFields, Value.encodableFields, Value.encodable, hencodable]

/-- `respond` returns, on what it assumes of the host.  Kind: L -/
theorem respond_yields {P : Instr H → ServiceState H → Prop}
    (hencodable : Value.encodableFields result = true) (hcommit : CommitReturns cfg request) :
    Prog.Yields P (fun response => response.ok = true ∧ response.payload = some result)
      (respond cfg request secret sessionId generation (.ok result)) := by
  refine Prog.yields_bind (commitRevocation_yields hcommit) fun _ _ => ?_
  rw [if_pos hencodable]
  refine Prog.yields_bind (Q := fun _ => True) (Prog.yields_call fun _ _ => ⟨_, rfl, trivial⟩)
    fun now _ => ?_
  obtain ⟨sig, hsign⟩ := signature_responseFields hencodable
  exact Prog.yields_bind (Q := fun _ => True) (Prog.yields_ofExcept hsign trivial) fun sig _ =>
    Prog.yields_pure ⟨rfl, rfl⟩

end answer

/-- A delivery of an envelope that was admitted once, and that takes over the result of an entry,
is answered with it.  Kind: L -/
theorem handle_reuses {s₀ : ServiceState H} {text : String} {generation : Generation}
    {a : Admission} {id : ℕ} {result : Fields} {h : SvcHistory H}
    {out : Except PyError SignedResponse} (hp : Passed cfg a.request a.snapshot s₀)
    (hidem : isIdempotentOp a.request.op = true)
    (hadmission : Prog.Yields (Arriving cfg a.request generation a.sessionId s₀) (· = a)
      (admitRequest cfg text generation))
    (hencodable : Value.encodableFields result = true) (hcommit : CommitReturns cfg a.request)
    (hends : Prog.Ends (handle cfg text generation) h out)
    (harriving : ∀ h₁ h₂ r, h = h₁ ++ h₂ → Prog.Ends (admitRequest cfg text generation) h₁ r →
      Prog.Along (Arriving cfg a.request generation a.sessionId s₀) h₁)
    (hreusing : ∀ h₁ h₂, h = h₁ ++ h₂ → Prog.Ends (admitRequest cfg text generation) h₁ (.ok a) →
      Prog.Along (Reusing cfg a.request generation a.sessionId s₀ id result) h₂) :
    ∃ response, out = .ok response ∧ response.ok = true ∧ response.payload = some result := by
  rcases Prog.ends_bind.mp hends with ⟨e, -, herr⟩ | ⟨h₁, h₂, a', rfl, hadm, hrest⟩
  · obtain ⟨_, hbad, -⟩ := hadmission h _ herr (harriving h [] _ (List.append_nil h).symm herr)
    cases hbad
  · obtain ⟨_, heq, ha'⟩ := hadmission h₁ _ hadm (harriving h₁ h₂ _ rfl hadm)
    cases heq
    subst ha'
    have hyields : Prog.Yields (Reusing cfg a'.request generation a'.sessionId s₀ id result)
        (fun response => response.ok = true ∧ response.payload = some result)
        (do
          let outcome ← (execute cfg a'.request a'.snapshot a'.sessionId generation).attempt
          respond cfg a'.request a'.secret a'.sessionId generation outcome) := by
      refine Prog.yields_bind (Prog.yields_attempt (execute_yields hp hidem)) fun outcome hout => ?_
      obtain ⟨_, rfl, rfl⟩ := hout
      exact respond_yields hencodable hcommit
    exact hyields h₂ out hrest (hreusing h₁ h₂ rfl hadm)

end ExpraConnect
