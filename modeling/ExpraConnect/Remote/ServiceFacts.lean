import ExpraConnect.Remote.Service

/-!
# What the parts of `handle` see and do

One lemma for each part of the request boundary: what its own history tells when it succeeds
(`…_ends`), and which instructions it consists of (`…_only`).  The results about `handle` are put
together from these and never unfold a part again.

* `Quiet`: the instructions of the checks, which read and authenticate;
* `Authorized`: what a successful `_authorize_request` saw;
* `FenceMatches`: what a successful `_verify_role_fence` compared;
* `Verified`: what a successful `verify_request`, retried or not, checked.
-/

namespace ExpraConnect

open ExpraConnect.Lib

variable {H : Type} {cfg : ServiceConfig H}

/-- The history of a thread of the service. -/
abbrev SvcHistory (H : Type) := Prog.History (ServiceState H) (Instr H)

/-! ## Raising -/

/-- A guard ends at once, by its condition.  Kind: L -/
@[simp] theorem ends_raiseIf {σ ι : Type} {p : Prop} [Decidable p] {e : PyError}
    {h : Prog.History σ ι} {r : Except PyError Unit} :
    Prog.Ends (raiseIf p e : Prog σ ι PyError Unit) h r ↔
      h = [] ∧ r = if p then .error e else .ok () := by
  unfold raiseIf
  split
  · exact Prog.ends_throw
  · exact Prog.ends_pure

/-- A guard reaches no instruction.  Kind: L -/
@[simp] theorem reaches_raiseIf {σ ι : Type} {p : Prop} [Decidable p] {e : PyError}
    {h : Prog.History σ ι} {l : ι} :
    Prog.Reaches (raiseIf p e : Prog σ ι PyError Unit) h l ↔ False := by
  unfold raiseIf
  split
  · exact Prog.reaches_throw
  · exact Prog.reaches_pure

/-- A guard has no instruction.  Kind: L -/
theorem only_raiseIf {σ ι : Type} {P : ι → Prop} {p : Prop} [Decidable p] {e : PyError} :
    Prog.Only P (raiseIf p e : Prog σ ι PyError Unit) :=
  fun _ _ h => (reaches_raiseIf.mp h).elim

/-- A check in front of a program that returned did not raise.  Kind: L -/
theorem ends_raiseIf_bind {σ ι β : Type} {p : Prop} [Decidable p] {e : PyError}
    {k : Unit → Prog σ ι PyError β} {h : Prog.History σ ι} {b : β} :
    Prog.Ends ((raiseIf p e : Prog σ ι PyError Unit) >>= k) h (.ok b) ↔
      ¬p ∧ Prog.Ends (k ()) h (.ok b) := by
  by_cases hp : p
  · simp [raiseIf, hp, Prog.ends_bind_ok]
  · simp [raiseIf, hp]

/-- A pure computation in front of a program that returned succeeded.  Kind: L -/
theorem ends_ofExcept_bind {σ ι α β : Type} {x : Except PyError α} {k : α → Prog σ ι PyError β}
    {h : Prog.History σ ι} {b : β} :
    Prog.Ends ((Prog.ofExcept x : Prog σ ι PyError α) >>= k) h (.ok b) ↔
      ∃ a, x = .ok a ∧ Prog.Ends (k a) h (.ok b) := by
  cases x with
  | ok a => simp [Prog.ofExcept]
  | error e => simp [Prog.ofExcept]

/-- An instruction in front of a program that returned.  Kind: L -/
theorem ends_call_bind {σ ι α β : Type} {l : ι} {f : σ → Except PyError α}
    {k : α → Prog σ ι PyError β} {h : Prog.History σ ι} {b : β} :
    Prog.Ends (Prog.call l f >>= k) h (.ok b) ↔
      ∃ s a h', h = (l, s) :: h' ∧ f s = .ok a ∧ Prog.Ends (k a) h' (.ok b) := by
  rw [Prog.ends_bind_ok]
  constructor
  · rintro ⟨h₁, h₂, a, rfl, hcall, hk⟩
    obtain ⟨s, rfl, hf⟩ := Prog.ends_call.mp hcall
    exact ⟨s, a, h₂, rfl, hf.symm, hk⟩
  · rintro ⟨s, a, h', rfl, hf, hk⟩
    exact ⟨[(l, s)], h', a, rfl, Prog.ends_call.mpr ⟨s, rfl, hf.symm⟩, hk⟩

/-- A reading of the clock before a step.  Kind: L -/
theorem ends_clock_bind {β : Type} {k : ℚ → Svc H β} {h : SvcHistory H} {r : Except PyError β} :
    Prog.Ends (Svc.clock >>= k) h r ↔
      ∃ s h', h = (.read .clock, s) :: h' ∧ Prog.Ends (k s.clock) h' r :=
  Prog.ends_step

/-! ## Updates of the access control state -/

/-- An accepted fence is the new fence.  Kind: L -/
theorem Auth.updateClusterFence_eq_ok {clusterId : String} {epoch : ℤ} {token : String}
    {a a' : Auth} (h : a.updateClusterFence clusterId epoch token = .ok a') :
    ∃ fence, a' = { a with fence := fence } := by
  unfold Auth.updateClusterFence at h
  dsimp only at h
  split at h
  · cases h
    exact ⟨_, rfl⟩
  · split at h
    · cases h
      exact ⟨_, rfl⟩
    · split at h
      · cases h
      · split at h
        · split at h
          · cases h
          · simp only [Except.bind_eq_ok, Except.raiseIf_eq_ok] at h
            obtain ⟨_, -, _, -, h⟩ := h
            cases h
            exact ⟨a.fence, rfl⟩
        · cases h
          exact ⟨_, rfl⟩

/-! ## Instruction classes -/

/-- The instructions of the checks: they touch neither the ACL version nor the idempotency cache
and call nobody. -/
def Quiet : Instr H → Prop
  | .read what => what ≠ .grantSnapshot ∧ what ≠ .grantCheck
  | .replay _ _ => True
  | .assertCurrent _ _ _ => True
  | .dropDashboardShare _ => True
  | _ => False

/-- The instructions that only the operation of a request executes. -/
def Inner : Instr H → Prop
  | .enter _ => True
  | .idemEnter _ _ _ => True
  | .idemAwait _ => True
  | .idemFail _ _ => True
  | .idemComplete _ _ => True
  | _ => False

/-- A quiet instruction is none of the operation.  Kind: L -/
theorem Quiet.not_inner {l : Instr H} (h : Quiet l) : ¬Inner l := by
  cases l <;> simp_all [Quiet, Inner]

/-- A read is its own instruction.  Kind: L -/
theorem only_read {α : Type} {P : Instr H → Prop} {what : Read} (h : P (.read what))
    (f : ServiceState H → Except PyError α) : Prog.Only P (Svc.read what f) :=
  Prog.only_call h f

/-- A reading of the clock is its own instruction.  Kind: L -/
theorem only_clock {P : Instr H → Prop} (h : P (.read .clock)) : Prog.Only P (Svc.clock (H := H)) :=
  Prog.only_call h _

/-- A callable of the host performs host actions.  Kind: L -/
theorem callHost_only {α : Type} (handler : Handler H α) :
    Prog.Only (fun l : Instr H => ∃ act, l = .host act) (Svc.callHost handler) := by
  induction handler with
  | ret a => exact Prog.only_ret a
  | fail e => exact Prog.only_fail e
  | step act next ih =>
      intro h l hl
      rcases Prog.reaches_step.mp hl with ⟨-, rfl⟩ | ⟨s, h', -, hl⟩
      · exact ⟨act, rfl⟩
      · exact ih s.view h' l hl

/-! ## Authorization -/

/-- A scan of cluster grants for `subject` on `target` that reads `readings` finds `g`: it takes one
reading for every grant of that subject and target, and stops at the first that is unexpired at its
own reading.  Source: `remote/service.py`, `_authorize_request`.  Kind: D -/
inductive ScanFinds (subject target : NodeId) :
    List CapabilityGrant → List ℚ → Option CapabilityGrant → Prop
  /-- No grant is left. -/
  | none : ScanFinds subject target [] [] none
  /-- A grant of someone else. -/
  | other {item : CapabilityGrant} {rest : List CapabilityGrant} {readings : List ℚ}
      {g : Option CapabilityGrant} (hitem : ¬(item.subject = subject ∧ item.target = target))
      (hrest : ScanFinds subject target rest readings g) :
      ScanFinds subject target (item :: rest) readings g
  /-- A grant that has expired. -/
  | expired {item : CapabilityGrant} {rest : List CapabilityGrant} {now : ℚ} {readings : List ℚ}
      {g : Option CapabilityGrant} (hitem : item.subject = subject ∧ item.target = target)
      (hnow : item.expiresAt ≤ now) (hrest : ScanFinds subject target rest readings g) :
      ScanFinds subject target (item :: rest) (now :: readings) g
  /-- The applicable grant. -/
  | found {item : CapabilityGrant} {rest : List CapabilityGrant} {now : ℚ}
      (hitem : item.subject = subject ∧ item.target = target) (hnow : now < item.expiresAt) :
      ScanFinds subject target (item :: rest) [now] (some item)

/-- The history holds a clock reading of `q`. -/
def ReadClock (h : SvcHistory H) (q : ℚ) : Prop := ∃ s, (Instr.read .clock, s) ∈ h ∧ s.clock = q

/-- A reading stays in a longer history.  Kind: L -/
theorem ReadClock.mono {h h' : SvcHistory H} {q : ℚ} (hq : ReadClock h q) (hsub : h ⊆ h') :
    ReadClock h' q := by
  obtain ⟨s, hs, hq⟩ := hq
  exact ⟨s, hsub hs, hq⟩

/-- The clock readings of a history. -/
def readingsOf (h : SvcHistory H) : List ℚ := h.map fun x => x.2.clock

/-- The scan reads the clock, and nothing else.  Kind: L -/
theorem findClusterGrant_ends {caller : NodeId} {items : List CapabilityGrant} {h : SvcHistory H}
    {g : Option CapabilityGrant} (hends : Prog.Ends (findClusterGrant cfg caller items) h (.ok g)) :
    (∀ x ∈ h, x.1 = .read .clock) ∧ ScanFinds caller cfg.nodeId items (readingsOf h) g := by
  induction items generalizing h with
  | nil =>
      obtain ⟨rfl, hg⟩ := Prog.ends_pure.mp hends
      cases hg
      exact ⟨by simp, .none⟩
  | cons item rest ih =>
      unfold findClusterGrant at hends
      split at hends
      · rename_i hmatch
        obtain ⟨s, h', rfl, hscan⟩ := ends_clock_bind.mp hends
        split at hscan
        · rename_i hlive
          obtain ⟨rfl, hg⟩ := Prog.ends_pure.mp hscan
          cases hg
          exact ⟨by simp, .found hmatch hlive⟩
        · rename_i hexp
          obtain ⟨hclocks, hfinds⟩ := ih hscan
          refine ⟨fun x hx => ?_, .expired hmatch (not_lt.mp hexp) hfinds⟩
          rcases List.mem_cons.mp hx with rfl | hx
          · rfl
          · exact hclocks x hx
      · rename_i hno
        obtain ⟨hclocks, hfinds⟩ := ih hends
        exact ⟨hclocks, .other hno hfinds⟩

/-- The cluster grant `g` is what one scan of the installed cluster grants found, with the readings
that the call made right behind its look at them.
Source: `remote/service.py`, `_authorize_request`.  Kind: D -/
def ClusterGrantSeen (cfg : ServiceConfig H) (request : RemoteRequest)
    (g : Option CapabilityGrant) (h : SvcHistory H) : Prop :=
  match request.callerNodeId with
  | none => g = none
  | some caller => ∃ s scan, (.read .clusterGrants, s) :: scan <:+: h ∧
      (∀ x ∈ scan, x.1 = .read .clock) ∧
      ScanFinds caller cfg.nodeId s.auth.clusterCapabilityGrants (readingsOf scan) g

/-- What was found of the grants stays in a longer history.  Kind: L -/
theorem ClusterGrantSeen.mono {request : RemoteRequest} {g : Option CapabilityGrant}
    {h h' : SvcHistory H} (hg : ClusterGrantSeen cfg request g h) (hpart : h <:+: h') :
    ClusterGrantSeen cfg request g h' := by
  unfold ClusterGrantSeen at hg ⊢
  split
  · rename_i hcaller
    rw [hcaller] at hg
    exact hg
  · rename_i caller hcaller
    rw [hcaller] at hg
    obtain ⟨s, scan, hscan, hclocks, hg⟩ := hg
    exact ⟨s, scan, hscan.trans hpart, hclocks, hg⟩

/-- A returning `_cluster_grant_for` has found the grant it returns.  Kind: L -/
theorem clusterGrantOf_ends {request : RemoteRequest} {h : SvcHistory H}
    {g : Option CapabilityGrant} (hends : Prog.Ends (clusterGrantOf cfg request) h (.ok g)) :
    ClusterGrantSeen cfg request g h := by
  cases hcaller : request.callerNodeId with
  | none =>
      simp only [clusterGrantOf, hcaller] at hends
      simp only [ClusterGrantSeen, hcaller]
      obtain ⟨-, hg⟩ := Prog.ends_pure.mp hends
      cases hg
      rfl
  | some caller =>
      simp only [clusterGrantOf, hcaller] at hends
      simp only [ClusterGrantSeen, hcaller]
      obtain ⟨s, grants, scan, rfl, hgrants, hends⟩ := ends_call_bind.mp hends
      cases hgrants
      obtain ⟨hclocks, hfinds⟩ := findClusterGrant_ends hends
      exact ⟨s, scan, List.infix_rfl, hclocks, hfinds⟩

/-- What a successful `_authorize_request` saw. -/
structure Authorized (cfg : ServiceConfig H) (request : RemoteRequest) (grant : Option PeerGrant)
    (g : Option CapabilityGrant) (h : SvcHistory H) : Prop where
  /-- The cluster grant is the applicable one. -/
  clusterGrant : ClusterGrantSeen cfg request g h
  /-- The operation is known, the node offers its capability and the caller has its permission. -/
  permitted : ∃ op, Op.ofString? request.op = some op ∧ op.capability ∈ cfg.capabilities ∧
    op.permission ∈ effectivePermissions (grant.elim cfg.permissions PeerGrant.permissions) g

/-- An authorization stays in a longer history.  Kind: L -/
theorem Authorized.mono {request : RemoteRequest} {grant : Option PeerGrant}
    {g : Option CapabilityGrant} {h h' : SvcHistory H} (ha : Authorized cfg request grant g h)
    (hpart : h <:+: h') : Authorized cfg request grant g h' :=
  ⟨ha.clusterGrant.mono hpart, ha.permitted⟩

/-- A cluster grant never broadens what the Pair grant permits.  Kind: L -/
theorem mem_of_mem_effectivePermissions {base : Finset NodePermission}
    {g : Option CapabilityGrant} {p : NodePermission} (h : p ∈ effectivePermissions base g) :
    p ∈ base ∧ ∀ c, g = some c → p ∈ c.permissions := by
  unfold effectivePermissions at h
  split at h
  · exact ⟨h, by simp⟩
  · rw [Finset.mem_inter] at h
    exact ⟨h.1, by simpa using h.2⟩

/-- A returning `_authorize_request` has authorized the request.  Kind: L -/
theorem authorizeRequest_ends {request : RemoteRequest} {grant : Option PeerGrant}
    {h : SvcHistory H} {g : Option CapabilityGrant}
    (hends : Prog.Ends (authorizeRequest cfg request grant) h (.ok g)) :
    Authorized cfg request grant g h := by
  unfold authorizeRequest at hends
  split at hends
  · simp at hends
  · rename_i op hop
    obtain ⟨hcap, hends⟩ := ends_raiseIf_bind.mp hends
    obtain ⟨h₁, h₂, g', rfl, hg', hends⟩ := Prog.ends_bind_ok.mp hends
    obtain ⟨-, hends⟩ := ends_raiseIf_bind.mp hends
    obtain ⟨hperm, hends⟩ := ends_raiseIf_bind.mp hends
    obtain ⟨h₃, h₄, -, rfl, -, hends⟩ := Prog.ends_bind_ok.mp hends
    obtain ⟨rfl, hg⟩ := Prog.ends_pure.mp hends
    cases hg
    refine ⟨(clusterGrantOf_ends hg').mono (List.prefix_append _ _).isInfix, op, hop, ?_, ?_⟩
    · exact not_not.mp hcap
    · exact not_not.mp hperm

/-- The instructions `findClusterGrant` consists of.  Kind: L -/
theorem findClusterGrant_only (caller : NodeId) (items : List CapabilityGrant) :
    Prog.Only Quiet (findClusterGrant cfg caller items) := by
  induction items with
  | nil => exact Prog.only_pure _
  | cons item rest ih =>
      unfold findClusterGrant
      split
      · refine Prog.only_bind (only_clock (by simp [Quiet])) fun now => ?_
        split
        · exact Prog.only_pure _
        · exact ih
      · exact ih

/-- The instructions `authorizeRequest` consists of.  Kind: L -/
theorem authorizeRequest_only (request : RemoteRequest) (grant : Option PeerGrant) :
    Prog.Only Quiet (authorizeRequest cfg request grant) := by
  unfold authorizeRequest
  split
  · exact Prog.only_throw _
  · refine Prog.only_bind only_raiseIf fun _ => Prog.only_bind ?_ fun g =>
      Prog.only_bind only_raiseIf fun _ => Prog.only_bind only_raiseIf fun _ =>
        Prog.only_bind ?_ fun _ => Prog.only_pure _
    · unfold clusterGrantOf
      split
      · exact Prog.only_pure _
      · exact Prog.only_bind (only_read (by simp [Quiet]) _) fun _ => findClusterGrant_only _ _
    · unfold authorizeSurface surfaceCheck
      split
      · refine Prog.only_bind (Prog.only_ofExcept _) fun _ =>
          Prog.only_bind only_raiseIf fun _ => ?_
        split
        · exact Prog.only_throw _
        · exact only_read (by simp [Quiet]) _
      · exact Prog.only_pure _

/-! ## The fence -/

/-- The request carries what the installed fence asks for. -/
structure FenceMatches (cfg : ServiceConfig H) (request : RemoteRequest) (fence : Fence) :
    Prop where
  /-- The cluster id. -/
  clusterId : ∀ id, fence.clusterId = some id →
    (getField "cluster_id" request.params).bind Value.asStr? = some id
  /-- The epoch. -/
  epoch : ∀ n, fence.coordinatorEpoch = some n →
    ∃ v, getField "epoch" request.params = some v ∧ v.equalsInt n = true
  /-- The fencing token. -/
  token : ∀ t, fence.fencingToken = some t →
    textOf cfg (getField "fencing_token" request.params) = t

/-- The fence check passes on matching fences only.  Kind: L -/
theorem checkRoleFence_eq_ok {request : RemoteRequest} {fence : Fence}
    (h : checkRoleFence cfg request fence = .ok ()) : FenceMatches cfg request fence := by
  simp only [checkRoleFence, Except.bind_eq_ok, Except.raiseIf_eq_ok] at h
  obtain ⟨-, hid, -, hep, htok⟩ := h
  refine ⟨fun id hid' => ?_, fun n hn => ?_, fun t ht => ?_⟩
  · simpa [hid'] using hid
  · simpa [hn, Option.any_eq_true] using hep
  · rw [ht] at htok
    simp only [Except.bind_eq_ok, Except.raiseIf_eq_ok] at htok
    obtain ⟨same, hsame, hno⟩ := htok
    have htrue : same = true := by simpa using hno
    subst htrue
    exact compareDigest_eq_true hsame

/-- A role request that passes has read a matching fence.  Kind: L -/
theorem verifyFenceOfRole_ends {request : RemoteRequest} {h : SvcHistory H} {u : Unit}
    (hends : Prog.Ends (verifyFenceOfRole cfg request) h (.ok u))
    (hrole : isRoleOp request.op = true) :
    ∃ s, h = [(.read .fence, s)] ∧ FenceMatches cfg request s.auth.fence := by
  unfold verifyFenceOfRole at hends
  rw [if_pos hrole] at hends
  obtain ⟨s, rfl, hs⟩ := Prog.ends_call.mp hends
  exact ⟨s, rfl, checkRoleFence_eq_ok hs.symm⟩

/-- The instructions `verifyFenceOfRole` consists of.  Kind: L -/
theorem verifyFenceOfRole_only (request : RemoteRequest) :
    Prog.Only Quiet (verifyFenceOfRole cfg request) := by
  unfold verifyFenceOfRole
  split
  · exact only_read (by simp [Quiet]) _
  · exact Prog.only_pure _

/-! ## Sessions and snapshots -/

/-- What the grant snapshot of `handle` is, in a state. -/
def snapshotIn (caller : Option NodeId) (snapshot : GrantSnapshot) (s : ServiceState H) : Prop :=
  snapshot.version = s.auth.grantVersion ∧
    (s.auth.grantMode = true → ∃ c grant, caller = some c ∧ s.auth.grants.get? c = some grant ∧
      grant.expired s.clock = false ∧ snapshot.grant = some grant)

/-- A snapshot is what the state held when it was taken.  Kind: L -/
theorem grantSnapshot_ends {caller : Option NodeId} {h : SvcHistory H} {snapshot : GrantSnapshot}
    (hends : Prog.Ends (grantSnapshot caller) h (.ok snapshot)) :
    ∃ s, h = [(.read .grantSnapshot, s)] ∧ snapshotIn caller snapshot s := by
  obtain ⟨s, rfl, hs⟩ := Prog.ends_call.mp hends
  refine ⟨s, rfl, ?_⟩
  split at hs
  · split at hs
    · cases hs
    · rename_i c
      split at hs
      · cases hs
      · rename_i grant hgrant
        split at hs
        · cases hs
        · rename_i hlive
          cases hs
          exact ⟨rfl, fun _ => ⟨c, grant, rfl, hgrant, by simpa using hlive, rfl⟩⟩
  · rename_i hmode
    cases hs
    exact ⟨rfl, fun h => absurd h hmode⟩

/-- A passed check has read the version of the snapshot, and its grant unexpired.  Kind: L -/
theorem assertGrantSnapshotCurrent_ends {snapshot : GrantSnapshot} {h : SvcHistory H} {u : Unit}
    (hends : Prog.Ends (assertGrantSnapshotCurrent snapshot) h (.ok u)) :
    ∃ s, h = [(.read .grantCheck, s)] ∧ s.auth.grantVersion = snapshot.version ∧
      ∀ grant, snapshot.grant = some grant → grant.expired s.clock = false := by
  obtain ⟨s, rfl, hs⟩ := Prog.ends_call.mp hends
  refine ⟨s, rfl, ?_⟩
  split at hs
  · cases hs
  · rename_i hver
    split at hs
    · cases hs
    · rename_i hexp
      refine ⟨(not_not.mp hver).symm, fun grant hg => ?_⟩
      simpa [hg] using hexp

/-- A passed check has found the session current.  Kind: L -/
theorem assertSessionCurrent_ends {sessionId : String} {generation : Generation}
    {h : SvcHistory H} {u : Unit}
    (hends : Prog.Ends (assertSessionCurrent sessionId generation) h (.ok u)) :
    ∃ t s now, h = [(.read .sessionClock, t), (.assertCurrent sessionId generation now, s)] ∧
      now = t.sessionClock ∧ (s.sessions.assertCurrent sessionId generation now).1 = .ok () := by
  obtain ⟨t, now, h', rfl, hnow, hcall⟩ := ends_call_bind.mp hends
  obtain ⟨s, rfl, hs⟩ := Prog.ends_call.mp hcall
  cases hnow
  exact ⟨t, s, _, rfl, rfl, hs.symm⟩

/-- The instructions `assertSessionCurrent` consists of.  Kind: L -/
theorem assertSessionCurrent_only (sessionId : String) (generation : Generation) :
    Prog.Only (Quiet (H := H)) (assertSessionCurrent sessionId generation) :=
  Prog.only_bind (only_read (by simp [Quiet]) _) fun _ => Prog.only_call (by simp [Quiet]) _

/-- The generation that passed `assert_current` is the session's active one.  Kind: L -/
theorem activeGeneration_of_assertCurrent {r : LogicalSessionRegistry} {sessionId : String}
    {generation : Generation} {now : ℚ}
    (h : (r.assertCurrent sessionId generation now).1 = .ok ()) :
    ∃ session, r.sessions.get? sessionId = some session ∧ now < session.expiresAt ∧
      session.activeGeneration = generation := by
  unfold LogicalSessionRegistry.assertCurrent at h
  split at h
  · cases h
  · rename_i token htoken
    split at h
    · cases h
    · split at h
      · cases h
      · rename_i session hlive
        split at h
        · cases h
        · rename_i hact
          obtain ⟨hget, hnow⟩ := LogicalSessionRegistry.live_eq_some_iff.mp hlive
          refine ⟨session, hget, hnow, ?_⟩
          rw [not_not.mp hact]
          exact LogicalSessionRegistry.validateGeneration_eq_ok htoken

/-! ## Envelopes -/

section envelope

variable {C : Codec} {secret : String} {checked : CheckedEnvelope} {request : RemoteRequest}

/-- The envelope is signed with `secret` over all its other fields. -/
def SignedWith (C : Codec) (secret : String) (fields : Fields) : Prop :=
  ∃ sig, getField "sig" fields = some (.str sig) ∧
    C.signature secret (fields.filter fun p => p.1 ≠ "sig") = .ok sig

/-- What an envelope that passed the checks holds. -/
structure EnvelopeFields (C : Codec) (secret : String) (fields : Fields)
    (checked : CheckedEnvelope) : Prop where
  /-- Its signature verifies. -/
  signed : SignedWith C secret fields
  /-- The caller it names. -/
  caller : Codec.optionalStr (getField "caller_node_id" fields) (· ≠ "")
    ⟨.remoteAuth, "request caller_node_id is invalid"⟩ = .ok checked.callerNodeId
  /-- The operation it names. -/
  op : getField "op" fields = some (.str checked.op)

/-- An accepted envelope has the fields of the result.  Kind: L -/
theorem checkEnvelope_eq_ok {envelope : Value} (h : C.checkEnvelope envelope secret = .ok checked) :
    ∃ fields, envelope = .dict fields ∧ EnvelopeFields C secret fields checked := by
  unfold Codec.checkEnvelope at h
  split at h
  · rename_i fields
    refine ⟨fields, rfl, ?_⟩
    simp only [Except.bind_eq_ok, Except.raiseIf_eq_ok] at h
    obtain ⟨_, -, _, -, sig, hsig, _, hverify, nodeId, -, caller, hcaller, op, hop, params, -,
      requestId, -, nonce, -, sessionId, -, resume, -, generation, -, ts, -, h⟩ := h
    split at h
    · simp at h
    · cases h
      refine ⟨⟨sig, requireStr_eq_ok hsig, ?_⟩, hcaller, requireStr_eq_ok hop⟩
      unfold Codec.verifySignature at hverify
      split at hverify
      · simp at hverify
      · rename_i expected hexpected
        simp only [Except.bind_eq_ok, Except.raiseIf_eq_ok] at hverify
        obtain ⟨same, hsame, hno⟩ := hverify
        have htrue : same = true := by simpa using hno
        subst htrue
        rw [compareDigest_eq_true hsame]
        exact hexpected
  · simp at h

/-- An accepted identity names the request.  Kind: L -/
theorem checkIdentity_eq_ok (h : checked.checkIdentity = .ok request) :
    checked.callerNodeId.mapM NodeId.new = .ok request.callerNodeId ∧ request.op = checked.op ∧
      request.requestId = checked.requestId ∧ request.timestamp = checked.timestamp ∧
        request.params = checked.params ∧ NodeId.new checked.nodeId = .ok request.nodeId := by
  unfold CheckedEnvelope.checkIdentity at h
  dsimp only at h
  split at h
  · rename_i hnode hcaller
    cases h
    exact ⟨hcaller, rfl, rfl, rfl, rfl, hnode⟩
  · cases h

/-- The caller whose grant is looked up is the caller of the verified request.  Kind: L -/
theorem callerNodeId_eq_of_callerFromJson {fields : Fields} {caller : NodeId}
    (hcaller : callerFromJson (.dict fields) = some caller)
    (hfields : EnvelopeFields C secret fields checked) (h : checked.checkIdentity = .ok request) :
    request.callerNodeId = some caller := by
  obtain ⟨hmap, -⟩ := checkIdentity_eq_ok h
  have hopt := hfields.caller
  unfold callerFromJson at hcaller
  dsimp only at hcaller
  split at hcaller
  · rename_i text htext
    rw [htext] at hopt
    simp only [Codec.optionalStr] at hopt
    split at hopt
    · rw [← Except.ok.inj hopt, Option.mapM_some] at hmap
      cases hnew : NodeId.new text with
      | error e => simp [hnew, Except.toOption] at hcaller
      | ok n =>
          simp only [hnew, Except.toOption, Option.some.injEq] at hcaller
          subst hcaller
          simpa [hnew, Functor.map, Except.map] using hmap.symm
    · cases hopt
  · cases hcaller

end envelope

/-- What a successful `verify_request`, retried or not, checked. -/
structure Verified (cfg : ServiceConfig H) (envelope : Value) (secret : String)
    (request : RemoteRequest) (h : SvcHistory H) : Prop where
  /-- The checks of the envelope passed, and it names the request. -/
  parsed : ∃ checked, cfg.codec.checkEnvelope envelope secret = .ok checked ∧
    checked.checkIdentity = .ok request
  /-- It was fresh at a clock reading. -/
  fresh : ∃ now, ReadClock h now ∧ now - request.timestamp ≤ cfg.freshnessSeconds ∧
    -cfg.freshnessSeconds ≤ now - request.timestamp

/-- A verification stays in a longer history.  Kind: L -/
theorem Verified.mono {envelope : Value} {secret : String} {request : RemoteRequest}
    {h h' : SvcHistory H} (hv : Verified cfg envelope secret request h) (hsub : h ⊆ h') :
    Verified cfg envelope secret request h' := by
  obtain ⟨hp, now, hnow, hf⟩ := hv
  exact ⟨hp, now, hnow.mono hsub, hf⟩

/-- A returning `_verify_request` has verified the envelope.  Kind: L -/
theorem verifyRequest_ends {envelope : Value} {secret : String} {newCache : Bool}
    {request : RemoteRequest} {h : SvcHistory H}
    (hends : Prog.Ends (verifyRequest cfg envelope secret newCache) h (.ok request)) :
    Verified cfg envelope secret request h := by
  obtain ⟨checked, hchecked, hclock⟩ := ends_ofExcept_bind.mp hends
  obtain ⟨s, h', rfl, hrest⟩ := ends_clock_bind.mp hclock
  obtain ⟨_, hfresh, hrest⟩ := ends_ofExcept_bind.mp hrest
  obtain ⟨request', hid, hrest⟩ := ends_ofExcept_bind.mp hrest
  obtain ⟨h₁, h₂, _, rfl, -, hlast⟩ := Prog.ends_bind_ok.mp hrest
  obtain ⟨-, hlast⟩ := ends_raiseIf_bind.mp hlast
  obtain ⟨rfl, hr⟩ := Prog.ends_pure.mp hlast
  cases hr
  refine ⟨⟨checked, hchecked, hid⟩, s.clock, ⟨s, List.mem_cons_self, rfl⟩, ?_⟩
  obtain ⟨-, -, -, hts, -⟩ := checkIdentity_eq_ok hid
  simp only [CheckedEnvelope.checkFreshness, Except.raiseIf_eq_ok, not_or, not_lt] at hfresh
  rw [hts]
  exact hfresh

/-- The instructions `verifyRequest` consists of.  Kind: L -/
theorem verifyRequest_only (envelope : Value) (secret : String) (newCache : Bool) :
    Prog.Only Quiet (verifyRequest cfg envelope secret newCache) := by
  refine Prog.only_bind (Prog.only_ofExcept _) fun checked =>
    Prog.only_bind (only_clock (by simp [Quiet])) fun now =>
      Prog.only_bind (Prog.only_ofExcept _) fun _ => Prog.only_bind (Prog.only_ofExcept _)
        fun request => Prog.only_bind ?_ fun _ => Prog.only_bind only_raiseIf fun _ =>
          Prog.only_pure _
  unfold checkReplay
  split
  · exact Prog.only_pure _
  · exact Prog.only_call (by simp [Quiet]) _

/-- So has one that refreshed the pairing secret and tried again.  Kind: L -/
theorem verifyOrRetry_ends {envelope : Value} {secret : String} {request : RemoteRequest}
    {h : SvcHistory H} (hends : Prog.Ends (verifyOrRetry cfg envelope secret) h (.ok request)) :
    Verified cfg envelope secret request h := by
  obtain ⟨h₁, h₂, r, rfl, hfirst, hrest⟩ := Prog.ends_bind_ok.mp hends
  rw [Prog.ends_attempt_ok] at hfirst
  split at hrest
  · obtain ⟨rfl, hr⟩ := Prog.ends_pure.mp hrest
    cases hr
    exact (verifyRequest_ends hfirst).mono (List.subset_append_left _ _)
  · split at hrest
    · exact (verifyRequest_ends hrest).mono (List.subset_append_right _ _)
    · simp at hrest

/-- The instructions `verifyOrRetry` consists of.  Kind: L -/
theorem verifyOrRetry_only (envelope : Value) (secret : String) :
    Prog.Only Quiet (verifyOrRetry cfg envelope secret) := by
  refine Prog.only_bind (Prog.only_attempt (verifyRequest_only _ _ _)) fun r => ?_
  split
  · exact Prog.only_pure _
  · split
    · exact verifyRequest_only _ _ _
    · exact Prog.only_throw _

/-! ## From the envelope to the operation -/

/-- The instructions of `handle` before the operation, after the snapshot. -/
def Preliminary (l : Instr H) : Prop :=
  Quiet l ∨ ∃ request generation now, l = .authenticate request generation now

/-- What `handle` established along `h` before it starts the operation. -/
structure Admitted (cfg : ServiceConfig H) (text : String) (generation : Generation)
    (a : Admission) (h : SvcHistory H) : Prop where
  /-- The snapshot came first, and the envelope was verified with its secret. -/
  verified : ∃ envelope s h', cfg.codec.loads text = .ok envelope ∧
    h = (.read .grantSnapshot, s) :: h' ∧ snapshotIn (callerFromJson envelope) a.snapshot s ∧
      Verified cfg envelope a.secret a.request h ∧ ∀ x ∈ h', Preliminary x.1
  /-- The secret is the grant's, or the service's own. -/
  secret : a.secret = a.snapshot.grant.elim cfg.secret PeerGrant.secret
  /-- The request is for this node. -/
  target : a.request.nodeId = cfg.nodeId
  /-- The session accepted the connection. -/
  session : ∃ s now, (.authenticate a.request generation now, s) ∈ h ∧
    (s.sessions.authenticate cfg.sessions a.request generation now).1 = .ok a.sessionId
  /-- The fence matched, for a role operation. -/
  fence : isRoleOp a.request.op = true →
    ∃ s, (.read .fence, s) ∈ h ∧ FenceMatches cfg a.request s.auth.fence

/-- A returning authentication has read the session clock and then the sessions.  Kind: L -/
theorem authenticateSession_ends {request : RemoteRequest} {generation : Generation}
    {h : SvcHistory H} {sessionId : String}
    (hends : Prog.Ends (authenticateSession cfg request generation) h (.ok sessionId)) :
    ∃ t s, h = [(.read .sessionClock, t), (.authenticate request generation t.sessionClock, s)] ∧
      (s.sessions.authenticate cfg.sessions request generation t.sessionClock).1 =
        .ok sessionId := by
  obtain ⟨t, now, h', rfl, hnow, hcall⟩ := ends_call_bind.mp hends
  obtain ⟨s, rfl, hs⟩ := Prog.ends_call.mp hcall
  cases hnow
  exact ⟨t, s, rfl, hs.symm⟩

/-- The parts of an admission: the snapshot, the verification, the session and the fence.
Kind: L -/
theorem admitRequest_parts {text : String} {generation : Generation} {a : Admission}
    {h : SvcHistory H} (hends : Prog.Ends (admitRequest cfg text generation) h (.ok a)) :
    ∃ envelope hsnap hver hsession hfence, cfg.codec.loads text = .ok envelope ∧
      h = hsnap ++ (hver ++ (hsession ++ hfence)) ∧
      Prog.Ends (grantSnapshot (callerFromJson envelope)) hsnap (.ok a.snapshot) ∧
      a.secret = a.snapshot.grant.elim cfg.secret PeerGrant.secret ∧
      Prog.Ends (verifyOrRetry cfg envelope a.secret) hver (.ok a.request) ∧
      ¬(cfg.expectedCallerId.any fun expected => a.request.callerNodeId ≠ some expected) ∧
      a.request.nodeId = cfg.nodeId ∧
      Prog.Ends (authenticateSession cfg a.request generation) hsession (.ok a.sessionId) ∧
      Prog.Ends (verifyFenceOfRole cfg a.request) hfence (.ok ()) := by
  unfold admitRequest at hends
  split at hends
  · simp at hends
  · rename_i envelope hloads
    obtain ⟨hsnap, h₂, snapshot, rfl, hsnap', hrest⟩ := Prog.ends_bind_ok.mp hends
    obtain ⟨hver, h₄, request, rfl, hver', hrest⟩ := Prog.ends_bind_ok.mp hrest
    obtain ⟨hcaller, hrest⟩ := ends_raiseIf_bind.mp hrest
    obtain ⟨htarget, hrest⟩ := ends_raiseIf_bind.mp hrest
    obtain ⟨hsession, h₆, sessionId, rfl, hsession', hrest⟩ := Prog.ends_bind_ok.mp hrest
    obtain ⟨hfence, h₈, _, rfl, hfence', hlast⟩ := Prog.ends_bind_ok.mp hrest
    obtain ⟨rfl, ha⟩ := Prog.ends_pure.mp hlast
    cases ha
    exact ⟨envelope, hsnap, hver, hsession, hfence, hloads, by simp, hsnap', rfl, hver', hcaller,
      not_not.mp htarget, hsession', hfence'⟩

/-- A returning admission has admitted the request.  Kind: L -/
theorem admitRequest_ends {text : String} {generation : Generation} {a : Admission}
    {h : SvcHistory H}
    (hends : Prog.Ends (admitRequest cfg text generation) h (.ok a)) :
    Admitted cfg text generation a h := by
  obtain ⟨envelope, _, hver, _, hfence, hloads, rfl, hsnap, hsecret, hver', -, htarget, hsession,
    hfence'⟩ := admitRequest_parts hends
  obtain ⟨s, rfl, hs⟩ := grantSnapshot_ends hsnap
  obtain ⟨t, u, rfl, hsid⟩ := authenticateSession_ends hsession
  refine ⟨⟨envelope, s, hver ++ ((.read .sessionClock, t) ::
    (.authenticate a.request generation t.sessionClock, u) :: hfence), hloads, by simp, hs, ?_, ?_⟩,
    hsecret, htarget, ⟨u, _, ?_, hsid⟩, fun hrole => ?_⟩
  · refine (verifyOrRetry_ends hver').mono ?_
    intro x hx
    simp [hx]
  · intro x hx
    have hq₃ := (verifyOrRetry_only envelope _).mem hver'
    have hq₇ := (verifyFenceOfRole_only a.request).mem hfence'
    simp only [List.mem_append, List.mem_cons] at hx
    rcases hx with hx | rfl | rfl | hx
    · exact .inl (hq₃ x hx)
    · exact .inl (by simp [Quiet])
    · exact .inr ⟨a.request, generation, _, rfl⟩
    · exact .inl (hq₇ x hx)
  · simp
  · obtain ⟨v, rfl, hv⟩ := verifyFenceOfRole_ends hfence' hrole
    exact ⟨v, by simp, hv⟩

/-- The instructions `admitRequest` consists of.  Kind: L -/
theorem admitRequest_only (text : String) (generation : Generation) :
    Prog.Only (fun l => l = .read .grantSnapshot ∨ Preliminary l)
      (admitRequest cfg text generation) := by
  have hquiet : ∀ l : Instr H, Quiet l → l = .read .grantSnapshot ∨ Preliminary l :=
    fun l hl => .inr (.inl hl)
  unfold admitRequest
  split
  · exact Prog.only_throw _
  · refine Prog.only_bind (only_read (.inl rfl) _) fun snapshot =>
      Prog.only_bind ((verifyOrRetry_only _ _).mono hquiet) fun request =>
        Prog.only_bind only_raiseIf fun _ => Prog.only_bind only_raiseIf fun _ =>
          Prog.only_bind (Prog.only_bind (only_read (.inr (.inl (by simp [Quiet]))) _) fun now =>
            Prog.only_call (.inr (.inr ⟨_, _, _, rfl⟩)) _) fun sessionId =>
              Prog.only_bind ((verifyFenceOfRole_only _).mono hquiet) fun _ => Prog.only_pure _

/-! ## Calls out of the service -/

/-- The instruction enters no call. -/
def NotEnter (l : Instr H) : Prop := ∀ call, l ≠ .enter call

/-- A quiet instruction enters no call.  Kind: L -/
theorem Quiet.notEnter {l : Instr H} (h : Quiet l) : NotEnter l := by
  rintro call rfl
  exact h

/-- Nothing of `p` in front of a call enters another one: `p` makes at most one call. -/
def CallsOnce {α : Type} (p : Svc H α) : Prop :=
  ∀ h call, Prog.Reaches p h (.enter call) → ∀ x ∈ h, NotEnter x.1

section callsOnce

variable {α β : Type} {p : Svc H α} {k : α → Svc H β}

/-- A thread that enters no call calls at most once.  Kind: L -/
theorem callsOnce_of_only (hp : Prog.Only NotEnter p) : CallsOnce p :=
  fun h call hl => absurd rfl (hp h _ hl call)

/-- A sequence whose first half enters no call calls once if the second does.  Kind: L -/
theorem callsOnce_bind_left (hp : Prog.Only NotEnter p) (hk : ∀ a, CallsOnce (k a)) :
    CallsOnce (p >>= k) := by
  intro h call hl
  rcases Prog.reaches_bind.mp hl with hl | ⟨h₁, h₂, a, rfl, hends, hl⟩
  · exact absurd rfl (hp h _ hl call)
  · intro x hx
    rcases List.mem_append.mp hx with hx | hx
    · exact hp.mem hends x hx
    · exact hk a h₂ call hl x hx

/-- A sequence whose second half enters no call calls once if the first does.  Kind: L -/
theorem callsOnce_bind_right (hp : CallsOnce p) (hk : ∀ a, Prog.Only NotEnter (k a)) :
    CallsOnce (p >>= k) := by
  intro h call hl
  rcases Prog.reaches_bind.mp hl with hl | ⟨h₁, h₂, a, rfl, -, hl⟩
  · exact hp h call hl
  · exact absurd rfl (hk a h₂ _ hl call)

/-- Catching adds no call.  Kind: L -/
theorem callsOnce_attempt (hp : CallsOnce p) : CallsOnce p.attempt :=
  fun h call hl => hp h call (Prog.reaches_attempt.mp hl)

/-- What runs inside a call enters none.  Kind: L -/
theorem callHost_notEnter (handler : Handler H α) : Prog.Only NotEnter (Svc.callHost handler) := by
  refine (callHost_only handler).mono ?_
  rintro l ⟨act, rfl⟩ call h
  cases h

theorem callsOnce_invoke (call : Call) (handler : Handler H α) :
    CallsOnce (invoke call handler) := by
  refine callsOnce_bind_right ?_ fun _ => callHost_notEnter handler
  intro h c hl
  obtain ⟨rfl, -⟩ := Prog.reaches_call.mp hl
  simp

end callsOnce

/-- The instructions of an operation: checks, calls and what the called code does. -/
def Acting (l : Instr H) : Prop := Quiet l ∨ (∃ call, l = .enter call) ∨ ∃ act, l = .host act

/-- The instructions `invoke` consists of.  Kind: L -/
theorem invoke_only {α : Type} (call : Call) (handler : Handler H α) :
    Prog.Only Acting (invoke call handler) :=
  Prog.only_bind (Prog.only_call (.inr (.inl ⟨call, rfl⟩)) _) fun _ =>
    (callHost_only handler).mono fun _ h => .inr (.inr h)

/-- The instructions `requireDashboardShare` consists of.  Kind: L -/
theorem requireDashboardShare_only (request : RemoteRequest) :
    Prog.Only Quiet (requireDashboardShare cfg request) := by
  unfold requireDashboardShare
  split
  · exact only_read (by simp [Quiet]) _
  · exact Prog.only_pure _

/-- The instructions `expireDashboardShare` consists of.  Kind: L -/
theorem expireDashboardShare_only (caller : NodeId) :
    Prog.Only (Quiet (H := H)) (expireDashboardShare caller) := by
  refine Prog.only_bind (only_read (by simp [Quiet]) _) fun expiry => ?_
  split
  · exact Prog.only_pure _
  · refine Prog.only_bind (only_clock (by simp [Quiet])) fun now => ?_
    split
    · exact Prog.only_bind (Prog.only_call (by simp [Quiet]) _) fun _ => Prog.only_throw _
    · exact Prog.only_pure _

/-- If the instruction enters a call, the call is one of `P`. -/
def Entering (P : Call → Prop) (l : Instr H) : Prop := ∀ call, l = .enter call → P call

section entering

variable {α β : Type} {P : Call → Prop} {p : Svc H α} {k : α → Svc H β} {call : Call}

/-- An instruction that enters no call enters none but the given ones.  Kind: L -/
theorem NotEnter.entering {l : Instr H} (h : NotEnter l) : Entering P l :=
  fun call heq => absurd heq (h call)

/-- A quiet thread enters none but the given calls.  Kind: L -/
theorem entering_of_quiet (hp : Prog.Only Quiet p) : Prog.Only (Entering P) p :=
  hp.mono fun _ h => h.notEnter.entering

/-- A call that is entered is the call of the branch.  Kind: L -/
theorem invoke_entering (hcall : P call) (handler : Handler H α) :
    Prog.Only (Entering P) (invoke call handler) := by
  refine Prog.only_bind (Prog.only_call ?_ _) fun _ =>
    (callHost_notEnter handler).mono fun _ h => h.entering
  intro call' heq
  cases heq
  exact hcall

end entering

/-- The calls that `_solve` makes for an operation, with what it passes on of the request and of the
cluster grant it was authorized with.  Source: `remote/service.py`, `_solve`.  Kind: D -/
inductive Call.Serves (cfg : ServiceConfig H) (request : RemoteRequest)
    (g : Option CapabilityGrant) : Op → Call → Prop
  | role {op : Op} (hop : op.isRole = true) : Call.Serves cfg request g op (.role request)
  | surface {op : Op} (hop : op.isSurface = true) :
      Call.Serves cfg request g op (.surface request g)
  | trustRevoke {caller : NodeId} (hcaller : request.callerNodeId = some caller) :
      Call.Serves cfg request g .revokeSelf (.trustRevoke caller)
  | capability {caller : NodeId} (params : Fields) (hcaller : request.callerNodeId = some caller)
      (hparams : getField "params" request.params = some (.dict params) ∨
        (∀ fields, getField "params" request.params ≠ some (.dict fields)) ∧ params = []) :
      Call.Serves cfg request g .capabilityRequest
        (.capability caller (textOf cfg (getField "capability" request.params)) params)
  | dashboardSnapshot : Call.Serves cfg request g .dashboardSnapshot .dashboardSnapshot
  | componentSummary : Call.Serves cfg request g .componentSummary
      (.componentSummary (textOf cfg (getField "key" request.params)))
  | processCandidates : Call.Serves cfg request g .processCandidates .processCandidates
  | storageCandidates : Call.Serves cfg request g .storageCandidates .storageCandidates
  | requestQuit : Call.Serves cfg request g .processRequestQuit
      (.processAction ⟨cfg.nodeId, processRefs request.params, .requestQuit⟩)
  | forceQuit : Call.Serves cfg request g .processForceQuit
      (.processAction ⟨cfg.nodeId, processRefs request.params, .forceQuit⟩)

/-- The calls `solveDashboard` enters.  Kind: L -/
theorem solveDashboard_entering {P : Call → Prop} (hcall : P .dashboardSnapshot)
    (request : RemoteRequest) : Prog.Only (Entering P) (solveDashboard cfg request) := by
  have hinvoke : Prog.Only (Entering P) (do
      let snapshot ← invoke .dashboardSnapshot cfg.dashboardSnapshot
      return [("snapshot", snapshot)] : Svc H Fields) :=
    Prog.only_bind (invoke_entering hcall _) fun _ => Prog.only_pure _
  refine Prog.only_bind (entering_of_quiet (requireDashboardShare_only request)) fun _ => ?_
  split
  · exact hinvoke
  · exact Prog.only_bind (entering_of_quiet (expireDashboardShare_only _)) fun _ => hinvoke

/-- The calls `solveSurface` enters.  Kind: L -/
theorem solveSurface_entering {P : Call → Prop} {request : RemoteRequest}
    {g : Option CapabilityGrant} (hcall : P (.surface request g)) (op : Op) :
    Prog.Only (Entering P) (solveSurface cfg op request g) := by
  unfold solveSurface
  split
  · exact Prog.only_throw _
  · exact Prog.only_bind only_raiseIf fun _ => Prog.only_bind (Prog.only_ofExcept _) fun _ =>
      Prog.only_bind only_raiseIf fun _ => Prog.only_bind (invoke_entering hcall _) fun _ =>
        Prog.only_pure _

/-- The calls `solveProcess` enters.  Kind: L -/
theorem solveProcess_entering {P : Call → Prop} {request : RemoteRequest}
    {action : ProcessActionKind}
    (hcall : P (.processAction ⟨cfg.nodeId, processRefs request.params, action⟩)) :
    Prog.Only (Entering P) (solveProcess cfg request action) := by
  unfold solveProcess
  refine Prog.only_bind only_raiseIf fun _ => ?_
  split
  · exact Prog.only_throw _
  · exact invoke_entering hcall _

/-- Every branch enters the call of its operation, for its own request.
Source: `remote/service.py`, `_solve`.  Kind: L -/
theorem dispatch_serves (op : Op) (request : RemoteRequest) (g : Option CapabilityGrant) :
    Prog.Only (Entering (Call.Serves cfg request g op)) (dispatch cfg op request g) := by
  unfold dispatch
  split
  · rename_i hrole
    split
    · exact Prog.only_throw _
    · exact invoke_entering (.role hrole) _
  split
  · rename_i hsurface
    exact solveSurface_entering (.surface hsurface) op
  split
  · split
    · exact Prog.only_throw _
    · exact Prog.only_throw _
    · rename_i caller _ hcaller _
      exact invoke_entering (.trustRevoke hcaller) _
  · split
    · exact Prog.only_throw _
    · exact Prog.only_throw _
    · rename_i caller _ hcaller _
      refine Prog.only_bind (Prog.only_bind (Prog.only_attempt (invoke_entering ?_ _))
        fun r => ?_) fun _ => Prog.only_pure _
      · refine .capability _ hcaller ?_
        split
        · rename_i hparams
          exact .inl hparams
        · rename_i hparams
          exact .inr ⟨hparams, rfl⟩
      · cases r with
        | ok a => exact Prog.only_pure _
        | error e => exact Prog.only_throw _
  · exact Prog.only_pure _
  · exact solveDashboard_entering .dashboardSnapshot request
  · exact Prog.only_bind (invoke_entering .componentSummary _) fun _ => Prog.only_pure _
  · exact Prog.only_bind (invoke_entering .processCandidates _) fun _ => Prog.only_pure _
  · exact solveProcess_entering .requestQuit
  · exact solveProcess_entering .forceQuit
  · exact Prog.only_bind (invoke_entering .storageCandidates _) fun _ => Prog.only_pure _
  · exact Prog.only_throw _

/-- Both facts about a part of the dispatch: what it consists of, and that it calls once. -/
def Dispatches (p : Svc H Fields) : Prop := Prog.Only Acting p ∧ CallsOnce p

/-- A call whose answer is rendered.  Kind: L -/
theorem dispatches_invoke {α : Type} (call : Call) (handler : Handler H α) (f : α → Fields) :
    Dispatches (do let a ← invoke call handler; return f a) :=
  ⟨Prog.only_bind (invoke_only call handler) fun _ => Prog.only_pure _,
    callsOnce_bind_right (callsOnce_invoke call handler) fun _ => Prog.only_pure _⟩

/-- A refusal.  Kind: L -/
theorem dispatches_throw (e : PyError) : Dispatches (throw e : Svc H Fields) :=
  ⟨Prog.only_throw e, callsOnce_of_only (Prog.only_throw e)⟩

/-- A quiet check before a call.  Kind: L -/
theorem dispatches_bind {α : Type} {p : Svc H α} {k : α → Svc H Fields} (hp : Prog.Only Quiet p)
    (hk : ∀ a, Dispatches (k a)) : Dispatches (p >>= k) :=
  ⟨Prog.only_bind (hp.mono fun _ h => .inl h) fun a => (hk a).1,
    callsOnce_bind_left (hp.mono fun _ h => h.notEnter) fun a => (hk a).2⟩

/-- `solveDashboard` enters a call of the request or raises.  Kind: L -/
theorem solveDashboard_dispatches (request : RemoteRequest) :
    Dispatches (solveDashboard cfg request) := by
  refine dispatches_bind (requireDashboardShare_only request) fun _ => ?_
  split
  · exact dispatches_invoke _ _ _
  · exact dispatches_bind (expireDashboardShare_only _) fun _ => dispatches_invoke _ _ _

/-- `solveSurface` enters a call of the request or raises.  Kind: L -/
theorem solveSurface_dispatches (op : Op) (request : RemoteRequest) (g : Option CapabilityGrant) :
    Dispatches (solveSurface cfg op request g) := by
  unfold solveSurface
  split
  · exact dispatches_throw _
  · exact dispatches_bind only_raiseIf fun _ => dispatches_bind (Prog.only_ofExcept _) fun _ =>
      dispatches_bind only_raiseIf fun _ => dispatches_invoke _ _ _

/-- A call whose answer is returned.  Kind: L -/
theorem dispatches_invoke' (call : Call) (handler : Handler H Fields) :
    Dispatches (invoke call handler) :=
  ⟨invoke_only call handler, callsOnce_invoke call handler⟩

/-- `solveProcess` enters a call of the request or raises.  Kind: L -/
theorem solveProcess_dispatches (request : RemoteRequest) (action : ProcessActionKind) :
    Dispatches (solveProcess cfg request action) := by
  refine dispatches_bind only_raiseIf fun _ => ?_
  split
  · exact dispatches_throw _
  · exact dispatches_invoke' _ _

/-- `permissionAsAuthorization` enters a call of the request or raises.  Kind: L -/
theorem permissionAsAuthorization_dispatches {α : Type} (call : Call) (handler : Handler H α)
    (f : α → Fields) :
    Dispatches (do let a ← permissionAsAuthorization (invoke call handler); return f a) := by
  constructor
  · refine Prog.only_bind (Prog.only_bind (Prog.only_attempt (invoke_only call handler))
      fun r => ?_) fun _ => Prog.only_pure _
    cases r with
    | ok a => exact Prog.only_pure _
    | error e => exact Prog.only_throw _
  · refine callsOnce_bind_right (callsOnce_bind_right
      (callsOnce_attempt (callsOnce_invoke call handler)) fun r => ?_) fun _ => Prog.only_pure _
    cases r with
    | ok a => exact Prog.only_pure _
    | error e => exact Prog.only_throw _

/-- `dispatch` enters a call of the request or raises.  Kind: L -/
theorem dispatch_dispatches (op : Op) (request : RemoteRequest) (g : Option CapabilityGrant) :
    Dispatches (dispatch cfg op request g) := by
  unfold dispatch
  split
  · split
    · exact dispatches_throw _
    · exact dispatches_invoke' _ _
  · split
    · exact solveSurface_dispatches op request g
    · split
      · split
        · exact dispatches_throw _
        · exact dispatches_throw _
        · exact dispatches_invoke' _ _
      · split
        · exact dispatches_throw _
        · exact dispatches_throw _
        · exact permissionAsAuthorization_dispatches _ _ _
      · exact ⟨Prog.only_pure _, callsOnce_of_only (Prog.only_pure _)⟩
      · exact solveDashboard_dispatches request
      · exact dispatches_invoke _ _ _
      · exact dispatches_invoke _ _ _
      · exact solveProcess_dispatches request _
      · exact solveProcess_dispatches request _
      · exact dispatches_invoke _ _ _
      · exact dispatches_throw _

/-! ## The operation -/

section operation

variable {request : RemoteRequest} {snapshot : GrantSnapshot} {sessionId : String}
  {generation : Generation} {h : SvcHistory H} {call : Call}

/-- `assertGrantSnapshotCurrent` enters no call.  Kind: L -/
theorem assertGrantSnapshotCurrent_notEnter (snapshot : GrantSnapshot) :
    Prog.Only (NotEnter (H := H)) (assertGrantSnapshotCurrent snapshot) :=
  only_read (fun _ h => nomatch h) _

/-- The checks of `solve` after the operation.  Kind: L -/
theorem postchecks_notEnter (sessionId : String) (generation : Generation)
    (snapshot : GrantSnapshot) (result : Fields) :
    Prog.Only (NotEnter (H := H)) (do
      assertSessionCurrent sessionId generation
      assertGrantSnapshotCurrent snapshot
      return result : Svc H Fields) :=
  Prog.only_bind ((assertSessionCurrent_only _ _).mono fun _ h => h.notEnter) fun _ =>
    Prog.only_bind (assertGrantSnapshotCurrent_notEnter _) fun _ => Prog.only_pure _

/-- `solveRequest` enters at most one call.  Kind: L -/
theorem solveRequest_callsOnce (request : RemoteRequest) (grant : Option PeerGrant) :
    CallsOnce (solveRequest cfg request grant) := by
  refine callsOnce_bind_left ((authorizeRequest_only _ _).mono fun _ h => h.notEnter) fun g =>
    callsOnce_bind_left (Prog.only_ofExcept _) fun _ => ?_
  split
  · exact callsOnce_of_only (Prog.only_throw _)
  · exact (dispatch_dispatches _ _ _).2

/-- `solve` enters at most one call.  Kind: L -/
theorem solve_callsOnce (request : RemoteRequest) (snapshot : GrantSnapshot) (sessionId : String)
    (generation : Generation) : CallsOnce (solve cfg request snapshot sessionId generation) := by
  refine callsOnce_bind_left (assertGrantSnapshotCurrent_notEnter _) fun _ =>
    callsOnce_bind_right (solveRequest_callsOnce request _) fun _ => ?_
  exact postchecks_notEnter _ _ _ _

/-- What stands behind a call out of the service: it is the call of the request's operation, with
the cluster grant that the request was authorized with. -/
structure CallAuthorized (cfg : ServiceConfig H) (request : RemoteRequest) (grant : Option PeerGrant)
    (call : Call) (h : SvcHistory H) : Prop where
  /-- The operation, the cluster grant, and the authorization. -/
  serves : ∃ op g, Op.ofString? request.op = some op ∧ Call.Serves cfg request g op call ∧
    Authorized cfg request grant g h

/-- What authorized a call stays in a longer history.  Kind: L -/
theorem CallAuthorized.mono {grant : Option PeerGrant} {h' : SvcHistory H}
    (hc : CallAuthorized cfg request grant call h) (hpart : h <:+: h') :
    CallAuthorized cfg request grant call h' := by
  obtain ⟨op, g, hop, hserves, hauth⟩ := hc
  exact ⟨op, g, hop, hserves, hauth.mono hpart⟩

/-- `_solve` authorizes a request itself before it calls for it.
Source: `remote/service.py`, `_solve`.  Kind: L -/
theorem solveRequest_reaches_enter {grant : Option PeerGrant}
    (hl : Prog.Reaches (solveRequest cfg request grant) h (.enter call)) :
    CallAuthorized cfg request grant call h := by
  rcases Prog.reaches_bind.mp hl with hl | ⟨h₁, h₂, g, rfl, hauth, hl⟩
  · exact absurd rfl ((authorizeRequest_only _ _ _ _ hl).notEnter call)
  rcases Prog.reaches_bind.mp hl with hl | ⟨h₃, h₄, _, rfl, -, hl⟩
  · exact (Prog.reaches_ofExcept.mp hl).elim
  cases hop : Op.ofString? request.op with
  | none =>
      simp only [hop] at hl
      exact (Prog.reaches_throw.mp hl).elim
  | some op =>
      simp only [hop] at hl
      exact ⟨op, g, hop, dispatch_serves op request g _ _ hl call rfl,
        (authorizeRequest_ends hauth).mono (List.prefix_append _ _).isInfix⟩

/-- The instructions of the idempotency cache. -/
def Recording : Instr H → Prop
  | .idemEnter _ _ _ => True
  | .idemAwait _ => True
  | .idemFail _ _ => True
  | .idemComplete _ _ => True
  | _ => False

/-- Recording is part of the operation.  Kind: L -/
theorem Recording.inner {l : Instr H} (h : Recording l) : Inner l := by
  cases l <;> simp_all [Recording, Inner]

/-- An acting instruction records nothing.  Kind: L -/
theorem Acting.not_recording {l : Instr H} (h : Acting l) : ¬Recording l := by
  rcases h with h | ⟨call, rfl⟩ | ⟨act, rfl⟩
  · exact fun hr => h.not_inner hr.inner
  · exact id
  · exact id

/-- The instructions `solveRequest` consists of.  Kind: L -/
theorem solveRequest_only (request : RemoteRequest) (grant : Option PeerGrant) :
    Prog.Only Acting (solveRequest cfg request grant) := by
  refine Prog.only_bind ((authorizeRequest_only _ _).mono fun _ h => .inl h) fun g =>
    Prog.only_bind (Prog.only_ofExcept _) fun _ => ?_
  split
  · exact Prog.only_throw _
  · exact (dispatch_dispatches _ _ _).1

/-- An operation does not use the cache that it is run by.  Kind: L -/
theorem solve_not_recording (request : RemoteRequest) (snapshot : GrantSnapshot)
    (sessionId : String) (generation : Generation) :
    Prog.Only (fun l => ¬Recording l) (solve cfg request snapshot sessionId generation) :=
  Prog.only_bind (only_read id _) fun _ =>
    Prog.only_bind ((solveRequest_only _ _).mono fun _ h => h.not_recording) fun _ =>
      Prog.only_bind ((assertSessionCurrent_only _ _).mono fun _ h => Acting.not_recording (.inl h))
        fun _ => Prog.only_bind (only_read id _) fun _ => Prog.only_pure _

/-- A call out of the service happens with the permissions of the moment.  Kind: L -/
theorem solve_reaches_enter
    (hl : Prog.Reaches (solve cfg request snapshot sessionId generation) h (.enter call)) :
    CallAuthorized cfg request snapshot.grant call h := by
  rcases Prog.reaches_bind.mp hl with hl | ⟨h₁, h₂, _, rfl, -, hl⟩
  · exact absurd rfl (assertGrantSnapshotCurrent_notEnter _ _ _ hl call)
  · rcases Prog.reaches_bind.mp hl with hl | ⟨h₃, h₄, _, rfl, -, hl⟩
    · exact (solveRequest_reaches_enter hl).mono (List.suffix_append _ _).isInfix
    · exact absurd rfl (postchecks_notEnter _ _ _ _ _ _ hl call)

/-! ### The idempotency cache around it -/

/-- What `IdempotencyCache.run` decides in a state. -/
def turnIn (cfg : ServiceConfig H) (key : IdemKey) (fingerprint : String) (now : ℚ)
    (s : ServiceState H) : IdemTurn :=
  (s.idempotency.enter cfg.idempotencyTtl cfg.idempotencyMaxEntries key fingerprint now).1

/-- What a waiter reads. -/
def awaited (id : ℕ) (s : ServiceState H) : Except PyError Fields :=
  match s.idempotency.object id with
  | some entry => IdempotencyCache.outcome entry
  | none => .error ⟨.remoteExecution, "idempotency result is unavailable"⟩

/-- Where the second half of `run` can be. -/
inductive TurnReaches (operation : Svc H Fields) : IdemTurn → SvcHistory H → Instr H → Prop
  /-- Waiting for the owner. -/
  | await (id : ℕ) : TurnReaches operation (.waiter id) [] (.idemAwait id)
  /-- Inside the operation. -/
  | inside (id : ℕ) (h : SvcHistory H) (l : Instr H) (hop : Prog.Reaches operation h l) :
      TurnReaches operation (.owner id) h l
  /-- About to record an error. -/
  | fail (id : ℕ) (h : SvcHistory H) (e : PyError) (hop : Prog.Ends operation h (.error e)) :
      TurnReaches operation (.owner id) h (.idemFail id e)
  /-- About to record a result. -/
  | complete (id : ℕ) (h : SvcHistory H) (result : Fields)
      (hop : Prog.Ends operation h (.ok result)) :
      TurnReaches operation (.owner id) h (.idemComplete id result)

/-- What one turn of the idempotency cache reaches.  Kind: L -/
theorem idempotencyTurn_reaches {operation : Svc H Fields} {turn : IdemTurn} {l : Instr H}
    (hl : Prog.Reaches (idempotencyTurn operation turn) h l) : TurnReaches operation turn h l := by
  cases turn with
  | refused e => exact (Prog.reaches_throw.mp hl).elim
  | waiter id =>
      obtain ⟨rfl, rfl⟩ := Prog.reaches_call.mp hl
      exact .await id
  | owner id =>
      rcases Prog.reaches_bind.mp hl with hl | ⟨h₁, h₂, out, rfl, hop, hl⟩
      · exact .inside id h l (Prog.reaches_attempt.mp hl)
      · rw [Prog.ends_attempt_ok] at hop
        cases out with
        | error e =>
            rcases Prog.reaches_bind.mp hl with hl | ⟨h₃, h₄, _, rfl, -, hl⟩
            · obtain ⟨rfl, rfl⟩ := Prog.reaches_call.mp hl
              rw [List.append_nil]
              exact .fail id h₁ e hop
            · exact (Prog.reaches_throw.mp hl).elim
        | ok result =>
            obtain ⟨rfl, rfl⟩ := Prog.reaches_call.mp hl
            rw [List.append_nil]
            exact .complete id h₁ result hop

/-- Where `IdempotencyCache.run` can be.  Kind: L -/
theorem idempotencyRun_reaches {key : IdemKey} {fp : String} {operation : Svc H Fields}
    {l : Instr H} (hl : Prog.Reaches (idempotencyRun cfg key fp operation) h l) :
    (h = [] ∧ l = .read .clock) ∨
      (∃ t, h = [(.read .clock, t)] ∧ l = .idemEnter key fp t.clock) ∨
        ∃ t s h', h = (.read .clock, t) :: (.idemEnter key fp t.clock, s) :: h' ∧
          TurnReaches operation (turnIn cfg key fp t.clock s) h' l := by
  rcases Prog.reaches_bind.mp hl with hl | ⟨h₁, h₂, now, rfl, hclock, hl⟩
  · exact .inl (Prog.reaches_call.mp hl)
  · obtain ⟨t, rfl, hnow⟩ := Prog.ends_call.mp hclock
    cases hnow
    rcases Prog.reaches_bind.mp hl with hl | ⟨h₃, h₄, turn, rfl, henter, hl⟩
    · obtain ⟨rfl, rfl⟩ := Prog.reaches_call.mp hl
      exact .inr (.inl ⟨t, rfl, rfl⟩)
    · obtain ⟨s, rfl, hs⟩ := Prog.ends_call.mp henter
      cases hs
      exact .inr (.inr ⟨t, s, h₄, rfl, idempotencyTurn_reaches hl⟩)

/-- Behind the idempotency cache or not, a call out of the service is one of the operation's.
Kind: L -/
theorem runOperation_reaches_enter {operation : Svc H Fields}
    (hl : Prog.Reaches (runOperation cfg request operation) h (.enter call)) :
    ∃ h₁, h₁ <:+ h ∧ Prog.Reaches operation h₁ (.enter call) := by
  unfold runOperation at hl
  split at hl
  · rcases idempotencyRun_reaches hl with ⟨-, hl⟩ | ⟨t, -, hl⟩ | ⟨t, s, h', rfl, hturn⟩
    · cases hl
    · cases hl
    · generalize turnIn cfg (cacheKey request) (fingerprint cfg request) t.clock s = turn at hturn
      cases hturn with
      | inside id h l hop =>
          exact ⟨h', (List.suffix_cons _ _).trans (List.suffix_cons _ _), hop⟩
  · exact ⟨h, List.suffix_rfl, hl⟩

/-- The cached result `id` is that of the request: looked up under its own key and fingerprint. -/
def AwaitsOwn (cfg : ServiceConfig H) (request : RemoteRequest) (id : ℕ) (h : SvcHistory H) :
    Prop :=
  ∃ now s, (.idemEnter (cacheKey request) (fingerprint cfg request) now, s) ∈ h ∧
    turnIn cfg (cacheKey request) (fingerprint cfg request) now s = .waiter id

/-- A result is taken over only for the request that it is cached for.  Kind: L -/
theorem runOperation_reaches_await {id : ℕ}
    (hl : Prog.Reaches (runOperation cfg request
      (solve cfg request snapshot sessionId generation)) h (.idemAwait id)) :
    AwaitsOwn cfg request id h := by
  unfold runOperation at hl
  split at hl
  · rcases idempotencyRun_reaches hl with ⟨-, hl⟩ | ⟨t, -, hl⟩ | ⟨t, s, h', rfl, hturn⟩
    · cases hl
    · cases hl
    · generalize hturn' : turnIn cfg (cacheKey request) (fingerprint cfg request) t.clock s =
        turn at hturn
      cases hturn with
      | await => exact ⟨t.clock, s, by simp, hturn'⟩
      | inside _ h l hop => exact absurd trivial (solve_not_recording _ _ _ _ _ _ hop)
  · exact absurd trivial (solve_not_recording _ _ _ _ _ _ hl)

/-! ### The checks around it -/

/-- `runOperation` enters at most one call.  Kind: L -/
theorem runOperation_callsOnce (request : RemoteRequest) {operation : Svc H Fields}
    (hop : CallsOnce operation) : CallsOnce (runOperation cfg request operation) := by
  unfold runOperation
  split
  · intro h call hl
    rcases idempotencyRun_reaches hl with ⟨-, hl⟩ | ⟨t, -, hl⟩ | ⟨t, s, h', rfl, hturn⟩
    · cases hl
    · cases hl
    · have hinside : ∀ x ∈ h', NotEnter x.1 := by
        generalize turnIn cfg (cacheKey request) (fingerprint cfg request) t.clock s = turn at hturn
        cases hturn with
        | inside id h l hl => exact hop _ call hl
      intro x hx
      rcases List.mem_cons.mp hx with rfl | hx
      · exact fun call hc => nomatch hc
      · rcases List.mem_cons.mp hx with rfl | hx
        · exact fun call hc => nomatch hc
        · exact hinside x hx
  · exact hop

/-- The part of `execute` behind the operation. -/
def finalChecks (cfg : ServiceConfig H) (request : RemoteRequest) (snapshot : GrantSnapshot)
    (sessionId : String) (generation : Generation) (payload : Fields) : Svc H Fields := do
  verifyFenceOfRole cfg request
  assertSessionCurrent sessionId generation
  assertGrantSnapshotCurrent snapshot
  let _ ← authorizeRequest cfg request snapshot.grant
  return payload

/-- `finalChecks` enters no call.  Kind: L -/
theorem finalChecks_notEnter (request : RemoteRequest) (snapshot : GrantSnapshot)
    (sessionId : String) (generation : Generation) (payload : Fields) :
    Prog.Only NotEnter (finalChecks cfg request snapshot sessionId generation payload) :=
  Prog.only_bind ((verifyFenceOfRole_only _).mono fun _ h => h.notEnter) fun _ =>
    Prog.only_bind ((assertSessionCurrent_only _ _).mono fun _ h => h.notEnter) fun _ =>
      Prog.only_bind (assertGrantSnapshotCurrent_notEnter _) fun _ =>
        Prog.only_bind ((authorizeRequest_only _ _).mono fun _ h => h.notEnter) fun _ =>
          Prog.only_pure _

/-- `execute` enters at most one call.  Kind: L -/
theorem execute_callsOnce (request : RemoteRequest) (snapshot : GrantSnapshot) (sessionId : String)
    (generation : Generation) : CallsOnce (execute cfg request snapshot sessionId generation) :=
  callsOnce_bind_left (assertGrantSnapshotCurrent_notEnter _) fun _ =>
    callsOnce_bind_left ((authorizeRequest_only _ _).mono fun _ h => h.notEnter) fun _ =>
      callsOnce_bind_right (runOperation_callsOnce request (solve_callsOnce _ _ _ _)) fun _ =>
        finalChecks_notEnter _ _ _ _ _

/-- `finalChecks` has no instruction of the operation.  Kind: L -/
theorem finalChecks_not_inner (request : RemoteRequest) (snapshot : GrantSnapshot)
    (sessionId : String) (generation : Generation) (payload : Fields) :
    Prog.Only (fun l => ¬Inner l) (finalChecks cfg request snapshot sessionId generation payload) :=
  Prog.only_bind ((verifyFenceOfRole_only _).mono fun _ h => h.not_inner) fun _ =>
    Prog.only_bind ((assertSessionCurrent_only _ _).mono fun _ h => h.not_inner) fun _ =>
      Prog.only_bind (only_read (by simp [Inner]) _) fun _ =>
        Prog.only_bind ((authorizeRequest_only _ _).mono fun _ h => h.not_inner) fun _ =>
          Prog.only_pure _

/-- The operation runs after the checks in front of it.  Kind: L -/
theorem execute_reaches_inner {l : Instr H} (hinner : Inner l)
    (hl : Prog.Reaches (execute cfg request snapshot sessionId generation) h l) :
    ∃ h₁ h₂ g, h = h₁ ++ h₂ ∧ Authorized cfg request snapshot.grant g h₁ ∧
      (∀ x ∈ h₁, ¬Inner x.1) ∧
      Prog.Reaches (runOperation cfg request (solve cfg request snapshot sessionId generation)) h₂
        l := by
  rcases Prog.reaches_bind.mp hl with hl | ⟨h₁, h₂, _, rfl, hfirst, hl⟩
  · obtain ⟨-, rfl⟩ := Prog.reaches_call.mp hl
    exact hinner.elim
  · rcases Prog.reaches_bind.mp hl with hl | ⟨h₃, h₄, g, rfl, hauth, hl⟩
    · exact absurd hinner (authorizeRequest_only _ _ _ _ hl).not_inner
    · rcases Prog.reaches_bind.mp hl with hl | ⟨h₅, h₆, payload, rfl, -, hl⟩
      · refine ⟨h₁ ++ h₃, h₄, g, by simp, ?_, ?_, hl⟩
        · exact (authorizeRequest_ends hauth).mono (List.suffix_append _ _).isInfix
        · intro x hx
          rcases List.mem_append.mp hx with hx | hx
          · obtain ⟨s, rfl, -⟩ := assertGrantSnapshotCurrent_ends hfirst
            obtain rfl := List.mem_singleton.mp hx
            exact id
          · exact ((authorizeRequest_only _ _).mem hauth x hx).not_inner
      · exact absurd hinner (finalChecks_not_inner _ _ _ _ payload _ _ hl)

/-- What a successful operation went through, check by check. -/
structure Executed (cfg : ServiceConfig H) (request : RemoteRequest) (snapshot : GrantSnapshot)
    (sessionId : String) (generation : Generation) (payload : Fields) (h : SvcHistory H) :
    Prop where
  /-- The parts of the history: the first check, the first authorization, the operation, the
  fence, the session, the last check, the last authorization. -/
  parts : ∃ first hauth hrun hfence t now current last hauth', h = (.read .grantCheck, first) ::
      (hauth ++ hrun ++ hfence ++ [(.read .sessionClock, t),
        (.assertCurrent sessionId generation now, current), (.read .grantCheck, last)] ++ hauth') ∧
    first.auth.grantVersion = snapshot.version ∧
    (∃ g, Authorized cfg request snapshot.grant g hauth) ∧ (∀ x ∈ hauth, Quiet x.1) ∧
    Prog.Ends (runOperation cfg request (solve cfg request snapshot sessionId generation)) hrun
      (.ok payload) ∧
    (∀ x ∈ hfence, Quiet x.1) ∧
    (isRoleOp request.op = true →
      ∃ s, hfence = [(.read .fence, s)] ∧ FenceMatches cfg request s.auth.fence) ∧
    (current.sessions.assertCurrent sessionId generation now).1 = .ok () ∧
    last.auth.grantVersion = snapshot.version ∧
    (∀ grant, snapshot.grant = some grant → grant.expired last.clock = false) ∧
    ∃ g, Prog.Ends (authorizeRequest cfg request snapshot.grant) hauth' (.ok g)

/-- A returning execution has executed the request.  Kind: L -/
theorem execute_ends {payload : Fields}
    (hends : Prog.Ends (execute cfg request snapshot sessionId generation) h (.ok payload)) :
    Executed cfg request snapshot sessionId generation payload h := by
  obtain ⟨h₁, h₂, _, rfl, hfirst, hrest⟩ := Prog.ends_bind_ok.mp hends
  obtain ⟨hauth, h₃, g, rfl, hg, hrest⟩ := Prog.ends_bind_ok.mp hrest
  obtain ⟨hrun, h₄, payload', rfl, hrun', hrest⟩ := Prog.ends_bind_ok.mp hrest
  obtain ⟨hfence, h₅, _, rfl, hfence', hrest⟩ := Prog.ends_bind_ok.mp hrest
  obtain ⟨h₆, h₇, _, rfl, hsession, hrest⟩ := Prog.ends_bind_ok.mp hrest
  obtain ⟨h₈, h₉, _, rfl, hlast, hrest⟩ := Prog.ends_bind_ok.mp hrest
  obtain ⟨hauth', h₀, g', rfl, hg', hrest⟩ := Prog.ends_bind_ok.mp hrest
  obtain ⟨rfl, hp⟩ := Prog.ends_pure.mp hrest
  cases hp
  obtain ⟨first, rfl, hv₁, -⟩ := assertGrantSnapshotCurrent_ends hfirst
  obtain ⟨t, current, now, rfl, -, hcur⟩ := assertSessionCurrent_ends hsession
  obtain ⟨last, rfl, hv₂, hexp⟩ := assertGrantSnapshotCurrent_ends hlast
  exact ⟨first, hauth, hrun, hfence, t, now, current, last, hauth', by simp, hv₁,
    ⟨g, authorizeRequest_ends hg⟩, (authorizeRequest_only _ _).mem hg, hrun',
    (verifyFenceOfRole_only _).mem hfence', verifyFenceOfRole_ends hfence', hcur, hv₂, hexp,
    g', hg'⟩

/-! ### The response -/

/-- The instructions of the response: a clock reading, and the commit of a self-revocation. -/
def Closing (l : Instr H) : Prop := l = .read .clock ∨ ∃ act, l = .host act

/-- The instructions `signResponse` consists of.  Kind: L -/
theorem signResponse_only (request : RemoteRequest) (secret sessionId : String)
    (generation : Generation) (ok : Bool) (payload : Option Fields) (error : Option String) :
    Prog.Only Closing (signResponse cfg request secret sessionId generation ok payload error) :=
  Prog.only_bind (only_clock (.inl rfl)) fun _ => Prog.only_bind (Prog.only_ofExcept _) fun _ =>
    Prog.only_pure _

/-- A signed response carries the outcome.  Kind: L -/
theorem signResponse_ends {secret : String} {ok : Bool} {payload : Option Fields}
    {error : Option String} {response : SignedResponse}
    (hends : Prog.Ends (signResponse cfg request secret sessionId generation ok payload error) h
      (.ok response)) :
    response.ok = ok ∧ response.payload = payload ∧ response.error = error ∧
      response.sessionId = sessionId ∧ response.connectionGeneration = generation := by
  obtain ⟨s, h', -, hrest⟩ := ends_clock_bind.mp hends
  obtain ⟨sig, -, hrest⟩ := ends_ofExcept_bind.mp hrest
  obtain ⟨-, hr⟩ := Prog.ends_pure.mp hrest
  cases hr
  exact ⟨rfl, rfl, rfl, rfl, rfl⟩

/-- The instructions `commitRevocation` consists of.  Kind: L -/
theorem commitRevocation_only (request : RemoteRequest) :
    Prog.Only Closing (commitRevocation cfg request) := by
  unfold commitRevocation
  split
  · split
    · exact (callHost_only _).mono fun _ h => .inr h
    · exact Prog.only_pure _
  · exact Prog.only_pure _

/-- The instructions `respond` consists of.  Kind: L -/
theorem respond_only (request : RemoteRequest) (secret sessionId : String)
    (generation : Generation) (outcome : Except PyError Fields) :
    Prog.Only Closing (respond cfg request secret sessionId generation outcome) := by
  unfold respond
  split
  · split
    · exact Prog.only_throw _
    · exact signResponse_only _ _ _ _ _ _ _
  · refine Prog.only_bind (commitRevocation_only request) fun _ => ?_
    split
    · exact signResponse_only _ _ _ _ _ _ _
    · exact signResponse_only _ _ _ _ _ _ _

/-- A response with status ok carries the payload of a successful operation.  Kind: L -/
theorem respond_ends_ok {secret : String} {outcome : Except PyError Fields}
    {response : SignedResponse}
    (hends : Prog.Ends (respond cfg request secret sessionId generation outcome) h (.ok response))
    (hok : response.ok = true) :
    ∃ payload, outcome = .ok payload ∧ response.payload = some payload := by
  unfold respond at hends
  split at hends
  · split at hends
    · simp at hends
    · obtain ⟨hfalse, -⟩ := signResponse_ends hends
      rw [hok] at hfalse
      cases hfalse
  · rename_i payload
    obtain ⟨h₁, h₂, _, -, -, hrest⟩ := Prog.ends_bind_ok.mp hends
    split at hrest
    · obtain ⟨-, hpayload, -⟩ := signResponse_ends hrest
      exact ⟨payload, rfl, hpayload⟩
    · obtain ⟨hfalse, -⟩ := signResponse_ends hrest
      rw [hok] at hfalse
      cases hfalse

end operation

/-! ## The whole boundary -/

section boundary

variable {text : String} {generation : Generation} {h : SvcHistory H}

/-- The operation is that of an admitted request.  Kind: L -/
theorem handle_reaches_inner {l : Instr H} (hinner : Inner l)
    (hl : Prog.Reaches (handle cfg text generation) h l) :
    ∃ a h₁ h₂, h = h₁ ++ h₂ ∧ Admitted cfg text generation a h₁ ∧
      Prog.Reaches (execute cfg a.request a.snapshot a.sessionId generation) h₂ l := by
  rcases Prog.reaches_bind.mp hl with hl | ⟨h₁, h₂, a, rfl, hadm, hl⟩
  · rcases admitRequest_only text generation _ _ hl with rfl | hl | ⟨_, _, _, rfl⟩
    · exact hinner.elim
    · exact absurd hinner hl.not_inner
    · exact hinner.elim
  · rcases Prog.reaches_bind.mp hl with hl | ⟨h₃, h₄, outcome, rfl, -, hl⟩
    · exact ⟨a, h₁, h₂, rfl, admitRequest_ends hadm, Prog.reaches_attempt.mp hl⟩
    · rcases respond_only _ _ _ _ outcome _ _ hl with rfl | ⟨act, rfl⟩
      · exact hinner.elim
      · exact hinner.elim

/-- The operation of an admitted request, behind everything in front of it.  Kind: L -/
theorem handle_reaches_operation {l : Instr H} (hinner : Inner l)
    (hl : Prog.Reaches (handle cfg text generation) h l) :
    ∃ a h₁ h₂ h₃, h = h₁ ++ h₂ ++ h₃ ∧ Admitted cfg text generation a h₁ ∧
      Prog.Reaches (runOperation cfg a.request
        (solve cfg a.request a.snapshot a.sessionId generation)) h₃ l := by
  obtain ⟨a, h₁, h₂, rfl, ha, hl⟩ := handle_reaches_inner hinner hl
  obtain ⟨h₃, h₄, g, rfl, -, -, hl⟩ := execute_reaches_inner hinner hl
  exact ⟨a, h₁, h₃, h₄, by simp, ha, hl⟩

/-- Who enters the idempotency cache has just read the clock.  Kind: L -/
theorem handle_reaches_idemEnter {key : IdemKey} {fp : String} {now : ℚ}
    (hl : Prog.Reaches (handle cfg text generation) h (.idemEnter key fp now)) :
    ∃ a h₁ h₂ t, h = h₁ ++ h₂ ++ [(.read .clock, t)] ∧ Admitted cfg text generation a h₁ ∧
      key = cacheKey a.request ∧ now = t.clock := by
  obtain ⟨a, h₁, h₂, h₃, rfl, ha, hl⟩ :=
    handle_reaches_operation (l := .idemEnter key fp now) trivial hl
  unfold runOperation at hl
  split at hl
  · rcases idempotencyRun_reaches hl with ⟨-, hl⟩ | ⟨t, rfl, heq⟩ | ⟨t, s, h', rfl, hturn⟩
    · cases hl
    · injection heq with hkey _ hnow
      exact ⟨a, h₁, h₂, t, rfl, ha, hkey, hnow⟩
    · generalize turnIn cfg (cacheKey a.request) (fingerprint cfg a.request) t.clock s = turn
        at hturn
      cases hturn with
      | inside id h l hl => exact absurd trivial (solve_not_recording _ _ _ _ _ _ hl)
  · exact absurd trivial (solve_not_recording _ _ _ _ _ _ hl)

/-- Along its history `h`, the `handle` call has become the owner of entry `id`. -/
def Owning (cfg : ServiceConfig H) (text : String) (generation : Generation) (a : Admission)
    (id : ℕ) (h : SvcHistory H) : Prop :=
  ∃ h₁ h₂ t s h₃, h = h₁ ++ h₂ ++ (.read .clock, t) ::
      (.idemEnter (cacheKey a.request) (fingerprint cfg a.request) t.clock, s) :: h₃ ∧
    Admitted cfg text generation a h₁ ∧
      turnIn cfg (cacheKey a.request) (fingerprint cfg a.request) t.clock s = .owner id

/-- Who calls out of the service for an operation that is not a read is its owner.  Kind: L -/
theorem handle_reaches_enter {call : Call}
    (hl : Prog.Reaches (handle cfg text generation) h (.enter call)) :
    ∃ a h₁, Admitted cfg text generation a h₁ ∧ h₁ ⊆ h ∧
      (isIdempotentOp a.request.op = true → ∃ id, Owning cfg text generation a id h) := by
  obtain ⟨a, h₁, h₂, h₃, rfl, ha, hl⟩ := handle_reaches_operation (l := .enter call) trivial hl
  refine ⟨a, h₁, ha, fun x hx => by simp [hx], fun hidem => ?_⟩
  rw [runOperation, if_pos hidem] at hl
  rcases idempotencyRun_reaches hl with ⟨-, hl⟩ | ⟨t, -, hl⟩ | ⟨t, s, h', rfl, hturn⟩
  · cases hl
  · cases hl
  · generalize hturn' : turnIn cfg (cacheKey a.request) (fingerprint cfg a.request) t.clock s =
      turn at hturn
    cases hturn with
    | inside id h l hl => exact ⟨id, h₁, h₂, t, s, h', rfl, ha, hturn'⟩

/-- The instruction records the outcome of entry `id`. -/
def Publishes (id : ℕ) : Instr H → Prop
  | .idemFail id' _ => id' = id
  | .idemComplete id' _ => id' = id
  | _ => False

/-- A publication is a recording.  Kind: L -/
theorem Publishes.recording {id : ℕ} {l : Instr H} (h : Publishes id l) : Recording l := by
  cases l <;> simp_all [Publishes, Recording]

/-- Who records an outcome is the owner of the entry.  Kind: L -/
theorem handle_reaches_publishes {id : ℕ} {l : Instr H} (hp : Publishes id l)
    (hl : Prog.Reaches (handle cfg text generation) h l) :
    ∃ a, Owning cfg text generation a id h := by
  obtain ⟨a, h₁, h₂, h₃, rfl, ha, hl⟩ := handle_reaches_operation hp.recording.inner hl
  refine ⟨a, ?_⟩
  unfold runOperation at hl
  split at hl
  · rcases idempotencyRun_reaches hl with ⟨-, rfl⟩ | ⟨t, -, rfl⟩ | ⟨t, s, h', rfl, hturn⟩
    · exact hp.elim
    · exact hp.elim
    · generalize hturn' : turnIn cfg (cacheKey a.request) (fingerprint cfg a.request) t.clock s =
        turn at hturn
      cases hturn with
      | await id' => exact hp.elim
      | inside id' h l hl => exact absurd hp.recording (solve_not_recording _ _ _ _ _ _ hl)
      | fail id' h e hop =>
          cases hp
          exact ⟨h₁, h₂, t, s, h', rfl, ha, hturn'⟩
      | complete id' h result hop =>
          cases hp
          exact ⟨h₁, h₂, t, s, h', rfl, ha, hturn'⟩
  · exact absurd hp.recording (solve_not_recording _ _ _ _ _ _ hl)

/-- Who records a result is the owner of the entry.  Kind: L -/
theorem handle_reaches_idemComplete {id : ℕ} {result : Fields}
    (hl : Prog.Reaches (handle cfg text generation) h (.idemComplete id result)) :
    ∃ a, Owning cfg text generation a id h :=
  handle_reaches_publishes (l := .idemComplete id result) (Eq.refl id) hl

/-- Nothing of an admission is part of an operation.  Kind: L -/
theorem Admitted.not_inner {a : Admission} (ha : Admitted cfg text generation a h) :
    ∀ x ∈ h, ¬Inner x.1 := by
  obtain ⟨envelope, s, h', -, rfl, -, -, hpre⟩ := ha.verified
  intro x hx
  rcases List.mem_cons.mp hx with rfl | hx
  · exact id
  · rcases hpre x hx with hq | ⟨_, _, _, heq⟩
    · exact hq.not_inner
    · rw [heq]
      exact id

/-- Nothing of a `handle` call in front of a call out of the service enters another one.  Kind: L -/
theorem handle_callsOnce (text : String) (generation : Generation) :
    CallsOnce (handle cfg text generation) := by
  refine callsOnce_bind_left ((admitRequest_only text generation).mono ?_) fun a =>
    callsOnce_bind_right (callsOnce_attempt (execute_callsOnce _ _ _ _)) fun outcome =>
      (respond_only _ _ _ _ _).mono ?_
  · rintro l (rfl | hl | ⟨_, _, _, rfl⟩) call hc
    · cases hc
    · exact hl.notEnter call hc
    · cases hc
  · rintro l (rfl | ⟨act, rfl⟩) call hc
    · cases hc
    · cases hc

/-- A `handle` call that returns: admission, the operation, the response.  Kind: L -/
theorem handle_ends {r : SignedResponse}
    (hends : Prog.Ends (handle cfg text generation) h (.ok r)) :
    ∃ a h₁ h₂ h₃ outcome, h = h₁ ++ h₂ ++ h₃ ∧ Admitted cfg text generation a h₁ ∧
      Prog.Ends (execute cfg a.request a.snapshot a.sessionId generation) h₂ outcome ∧
      Prog.Ends (respond cfg a.request a.secret a.sessionId generation outcome) h₃ (.ok r) := by
  obtain ⟨h₁, h₂, a, rfl, hadm, hrest⟩ := Prog.ends_bind_ok.mp hends
  obtain ⟨h₃, h₄, outcome, rfl, hexec, hresp⟩ := Prog.ends_bind_ok.mp hrest
  exact ⟨a, h₁, h₃, h₄, outcome, by simp, admitRequest_ends hadm, Prog.ends_attempt_ok.mp hexec,
    hresp⟩

end boundary

/-! ## The request an envelope names -/

/-- The text is an envelope that names the request, under some secret. -/
def Names (cfg : ServiceConfig H) (text : String) (request : RemoteRequest) : Prop :=
  ∃ envelope secret checked, cfg.codec.loads text = .ok envelope ∧
    cfg.codec.checkEnvelope envelope secret = .ok checked ∧ checked.checkIdentity = .ok request

/-- What an envelope says does not depend on the secret it is verified with.  Kind: L -/
theorem checkEnvelope_unique {C : Codec} {envelope : Value} {secret secret' : String}
    {checked checked' : CheckedEnvelope} (h : C.checkEnvelope envelope secret = .ok checked)
    (h' : C.checkEnvelope envelope secret' = .ok checked') : checked = checked' := by
  unfold Codec.checkEnvelope at h h'
  split at h
  · simp only [Except.bind_eq_ok, Except.raiseIf_eq_ok] at h h'
    obtain ⟨_, -, _, -, sig, hsig, _, -, nodeId, hnode, caller, hcaller, op, hop, params, hparams,
      requestId, hrequest, nonce, hnonce, sessionId, hsession, resume, hresume, generation, hgen,
      ts, hts, h⟩ := h
    obtain ⟨_, -, _, -, sig', hsig', _, -, nodeId', hnode', caller', hcaller', op', hop', params',
      hparams', requestId', hrequest', nonce', hnonce', sessionId', hsession', resume', hresume',
      generation', hgen', ts', hts', h'⟩ := h'
    rw [hnode] at hnode'
    rw [hcaller] at hcaller'
    rw [hop] at hop'
    rw [hparams] at hparams'
    rw [hrequest] at hrequest'
    rw [hnonce] at hnonce'
    rw [hsession] at hsession'
    cases hsession'
    rw [hresume] at hresume'
    rw [hgen] at hgen'
    rw [hts] at hts'
    cases hnode'
    cases hcaller'
    cases hop'
    cases hparams'
    cases hrequest'
    cases hnonce'
    cases hresume'
    cases hgen'
    cases hts'
    rw [h] at h'
    exact Except.ok.inj h'
  · simp at h

theorem Names.unique {text : String} {request request' : RemoteRequest}
    (h : Names cfg text request) (h' : Names cfg text request') : request = request' := by
  obtain ⟨envelope, secret, checked, hloads, hchecked, hid⟩ := h
  obtain ⟨envelope', secret', checked', hloads', hchecked', hid'⟩ := h'
  rw [hloads] at hloads'
  cases hloads'
  rw [checkEnvelope_unique hchecked hchecked', hid'] at hid
  exact (Except.ok.inj hid).symm

theorem Admitted.names {text : String} {generation : Generation} {a : Admission}
    {h : SvcHistory H} (ha : Admitted cfg text generation a h) : Names cfg text a.request := by
  obtain ⟨envelope, s, h', hloads, -, -, ⟨⟨checked, hchecked, hid⟩, -⟩, -⟩ := ha.verified
  exact ⟨envelope, a.secret, checked, hloads, hchecked, hid⟩

end ExpraConnect
