import ExpraConnect.Remote.Mediation

/-!
# In-flight fencing

Authority can change at any point of a `handle` call.  A call that answers with status ok was not
overtaken by such a change where it matters.

* `Replaces`: the events that replace the Pair grants or the cluster grants;
* `grantVersion_post`: the version of the ACL counts them;
* `FencedCall`: what an answered call looks like in the trace of the whole run;
* `in_flight_fencing`: every answered call, cached or executed, is one.
-/

namespace ExpraConnect

open ExpraConnect.Lib

variable {H : Type} {cfg : ServiceConfig H}

/-- An event of a run of the service. -/
abbrev SvcEvent (H : Type) := Event (ServiceState H) (Instr H) (EnvMove H)

/-! ## The version of the ACL -/

/-- The action replaces the Pair grants or the cluster grants. -/
def HostAct.replaces : HostAct H → Bool
  | .updateGrants grants => grants.values.all fun g => validSecret g.secret
  | .updateClusterCapabilityGrants _ => true
  | _ => false

/-- The event replaces the Pair grants or the cluster grants, whoever causes it. -/
def Replaces : SvcEvent H → Bool
  | .own _ (.host act) _ => act.replaces
  | .env (.host act) _ => act.replaces
  | _ => false

/-- A host action raises the version of the access control exactly when it replaces the grants.
Kind: L -/
theorem grantVersion_onState (act : HostAct H) (s : ServiceState H) :
    (act.onState s).auth.grantVersion = s.auth.grantVersion + act.replaces.toNat := by
  cases act with
  | updateGrants grants =>
      simp only [HostAct.onState, HostAct.apply, ServiceState.view, Auth.updateGrants,
        HostAct.replaces]
      by_cases hvalid : (grants.values.all fun g => validSecret g.secret) = true
      · simp [hvalid]
      · simp [hvalid]
  | updateClusterCapabilityGrants grants => rfl
  | updateClusterFence clusterId epoch token =>
      simp only [HostAct.onState, HostAct.apply, ServiceState.view, HostAct.replaces]
      split
      · rename_i auth hauth
        obtain ⟨fence, rfl⟩ := Auth.updateClusterFence_eq_ok hauth
        rfl
      · rfl
  | act f => rfl

/-- The version counts the replacements, whoever causes them.
Source: `remote/service.py`, `update_grants`, `update_cluster_capability_grants`.  Kind: L -/
theorem grantVersion_post {allowed : EnvMove H → ServiceState H → Prop} (e : SvcEvent H) :
    (e.post (serviceMachine cfg allowed)).auth.grantVersion =
      e.pre.auth.grantVersion + (Replaces e).toNat := by
  cases e with
  | own i l s =>
      cases l with
      | host act => exact grantVersion_onState act s
      | _ => rfl
  | env e s =>
      cases e with
      | host act => exact grantVersion_onState act s
      | tick clock sessionClock => rfl
      | store fault => rfl

/-! ## Answered calls -/

/-- What the call `i` looks like in the trace when it is answered with status ok: the trace is cut
at the grant snapshot (taken in state `s`) and at the last check of that snapshot (in state
`last`).
Source: `remote/service.py`, `handle`.  Kind: D -/
structure FencedCall (cfg : ServiceConfig H) (i : ℕ) (text : String) (generation : Generation)
    (tr : List (SvcEvent H)) (response : SignedResponse) (a : Admission) (payload : Fields)
    (before : List (SvcEvent H)) (s : ServiceState H) (during : List (SvcEvent H))
    (last : ServiceState H) (after : List (SvcEvent H)) : Prop where
  /-- The request is that of the text. -/
  names : Names cfg text a.request
  /-- The cuts. -/
  cuts : tr = before ++ .own i (.read .grantSnapshot) s :: during ++
    .own i (.read .grantCheck) last :: after
  /-- The call starts with its snapshot. -/
  opens : history i before = []
  /-- Behind the second cut the snapshot is not checked again. -/
  lastCheck : ∀ x ∈ history i after, x.1 ≠ .read .grantCheck
  /-- The response carries the payload of the operation. -/
  carries : response.payload = some payload
  /-- No grant or cluster grant was replaced in between, by anyone. -/
  unreplaced : ∀ e ∈ during, Replaces e = false
  /-- In between: the call was admitted, the operation ended with the payload (executed now or
  taken from the cache), the fence was checked, and the session was current.  For a role operation
  the fence matched before the operation and after it. -/
  executed : ∃ hadm hop hfence t now current session,
    history i during = hadm ++ hop ++ hfence ++
      [(.read .sessionClock, t), (.assertCurrent a.sessionId generation now, current)] ∧
    Prog.Ends (runOperation cfg a.request (solve cfg a.request a.snapshot a.sessionId generation))
      hop (.ok payload) ∧
    current.sessions.sessions.get? a.sessionId = some session ∧ now < session.expiresAt ∧
    session.activeGeneration = generation ∧
    (isRoleOp a.request.op = true →
      (∃ u, (.read .fence, u) ∈ hadm ∧ FenceMatches cfg a.request u.auth.fence) ∧
      ∃ u, hfence = [(.read .fence, u)] ∧ FenceMatches cfg a.request u.auth.fence)
  /-- The caller's grant was still alive at the second cut. -/
  unexpired : ∀ grant, a.snapshot.grant = some grant → grant.expired last.clock = false
  /-- What the call did last is to authorize the request again, and to answer. -/
  authorized : ∃ hauth hclose g, history i after = hauth ++ hclose ∧
    Prog.Ends (authorizeRequest cfg a.request a.snapshot.grant) hauth (.ok g) ∧
    Authorized cfg a.request a.snapshot.grant g hauth ∧ ∀ x ∈ hclose, Closing x.1

variable {deliveries : ℕ → String × Generation} {s₀ : ServiceState H} {tr : List (SvcEvent H)}
  {c : Pool (ServiceState H) (Instr H) PyError SignedResponse}

/-- **In-flight fencing.**  In every interleaving of any number of `handle` calls with grant,
cluster grant and fence updates and with the clocks: a call that is answered with status ok is
fenced.
Source: `remote/service.py`, `RemoteService.handle`.  Kind: P -/
theorem in_flight_fencing
    (hrun : Run (serviceMachine cfg fun _ _ => True) (servicePool cfg deliveries s₀) tr c)
    (i : ℕ) (response : SignedResponse) (hret : c.threads i = .ret response)
    (hok : response.ok = true) :
    ∃ a payload before s during last after, snapshotIn
        ((cfg.codec.loads (deliveries i).1).toOption.bind callerFromJson) a.snapshot s ∧
      FencedCall cfg i (deliveries i).1 (deliveries i).2 tr response a payload before s during last
        after := by
  have hends : Prog.Ends (handle cfg (deliveries i).1 (deliveries i).2) (history i tr)
      (.ok response) := hrun.ends hret
  obtain ⟨a, h₁, h₂, h₃, outcome, hh, ha, hexec, hresp⟩ := handle_ends hends
  obtain ⟨payload, rfl, hpayload⟩ := respond_ends_ok hresp hok
  obtain ⟨first, hauth, hop, hfence, t, now, current, last, hauth', hh₂, -, -, -, hop', -, hfence',
    hcur, hlast, hexp, g, hg⟩ := (execute_ends hexec).parts
  obtain ⟨envelope, s, hadm, hloads, hh₁, hsnap, -, hpre⟩ := ha.verified
  obtain ⟨session, hget, hlive, hact⟩ := activeGeneration_of_assertCurrent hcur
  -- the history of the call, cut at the snapshot and at the last check
  have hcut : history i tr = [] ++ (.read .grantSnapshot, s) ::
      ((hadm ++ (.read .grantCheck, first) :: hauth ++ hop ++ hfence ++
        [(.read .sessionClock, t), (.assertCurrent a.sessionId (deliveries i).2 now, current)]) ++
        (.read .grantCheck, last) :: (hauth' ++ h₃)) := by
    rw [hh, hh₂, hh₁]
    simp
  obtain ⟨before, rest, rfl, hbefore, hrest⟩ := eq_append_of_history_eq hcut
  obtain ⟨during, after, rfl, hduring, hafter⟩ := eq_append_of_history_eq hrest
  have hsame : s.auth.grantVersion = last.auth.grantVersion := by rw [hlast, hsnap.1]
  have hrun' : Run (serviceMachine cfg fun _ _ => True) (servicePool cfg deliveries s₀)
      (before ++ .own i (.read .grantSnapshot) s :: during ++
        .own i (.read .grantCheck) last :: after) c := by simpa using hrun
  have hzero := hrun'.weight_eq_zero (f := fun u => u.auth.grantVersion) grantVersion_post hsame
  refine ⟨a, payload, before, s, during, last, after,
    by simpa [hloads, Except.toOption] using hsnap,
    ha.names, by simp, hbefore, ?_, hpayload, ?_, ⟨hadm ++ (.read .grantCheck, first) :: hauth, hop,
      hfence, t, now, current, session, by rw [hduring], hop', hget, hlive, hact, ?_⟩, hexp,
    ⟨hauth', h₃, g, hafter, hg, authorizeRequest_ends hg, (respond_only _ _ _ _ _).mem hresp⟩⟩
  · intro x hx hcheck
    rw [hafter] at hx
    rcases List.mem_append.mp hx with hx | hx
    · have hq := (authorizeRequest_only _ _).mem hg x hx
      rw [hcheck] at hq
      exact hq.2 rfl
    · rcases (respond_only _ _ _ _ _).mem hresp x hx with hc | ⟨act, hc⟩
      · rw [hcheck] at hc
        cases hc
      · rw [hcheck] at hc
        cases hc
  · intro e he
    simpa using hzero e (List.mem_cons_of_mem _ he)
  · intro hrole
    refine ⟨?_, hfence' hrole⟩
    obtain ⟨u, hu, hmatch⟩ := ha.fence hrole
    rw [hh₁] at hu
    rcases List.mem_cons.mp hu with hu | hu
    · cases hu
    · exact ⟨u, by simp [hu], hmatch⟩

/-- Whether call `i` has been answered with status ok. -/
def answeredOk (i : ℕ) (c : Pool (ServiceState H) (Instr H) PyError SignedResponse) : Bool :=
  match c.threads i with
  | .ret response => response.ok
  | _ => false

/-- The executable check of an answered call is sound.  Kind: L -/
theorem eq_ret_of_answeredOk {i : ℕ} {c : Pool (ServiceState H) (Instr H) PyError SignedResponse}
    (h : answeredOk i c = true) : ∃ response, c.threads i = .ret response ∧ response.ok = true := by
  unfold answeredOk at h
  split at h
  · rename_i response hret
    exact ⟨response, hret, h⟩
  · cases h

/-- The peer's self-revocation is answered with status ok, and fenced. -/
theorem in_flight_fencing_revoke :
    ∃ tr c response, Run (sampleMachine [sampleEnvelope])
        (servicePool (sampleConfig [sampleEnvelope])
          (fun _ => (renderJson (.dict sampleEnvelope), none)) (sampleState {.readState})) tr c ∧
      c.threads 0 = .ret response ∧ response.ok = true ∧
      ∃ a payload before s during last after,
        FencedCall (sampleConfig [sampleEnvelope]) 0 (renderJson (.dict sampleEnvelope)) none tr
          response a payload before s during last after := by
  have hexec : (Pool.exec (sampleMachine [sampleEnvelope]) (fun _ _ => true)
      (List.replicate 22 (.thread 0)) (servicePool (sampleConfig [sampleEnvelope])
        (fun _ => (renderJson (.dict sampleEnvelope), none)) (sampleState {.readState}))).any
      (fun out => answeredOk 0 out.2) = true := by decide +kernel
  obtain ⟨tr, c, hrun, htest⟩ := Run.of_exec (fun _ _ _ => trivial) hexec
  obtain ⟨response, hret, hok⟩ := eq_ret_of_answeredOk htest
  obtain ⟨a, payload, before, s, during, last, after, -, hfenced⟩ :=
    in_flight_fencing hrun 0 response hret hok
  exact ⟨tr, c, response, hrun, hret, hok, a, payload, before, s, during, last, after, hfenced⟩

end ExpraConnect
