import ExpraConnect.Remote.ServiceFacts

/-!
# Complete mediation

Whatever text is delivered, in whatever state, and whatever the other requests, the ACL, the fence
and the clocks do in between: a `handle` call leaves the service, or takes over a cached result, or
answers with status ok, only after its own checks saw everything `Mediated` lists.

* `servicePool`: any number of `handle` calls on one service;
* `grantMode_of_run`: a service in grant mode stays in grant mode;
* `Mediated`: the caller's live grant, the signature, freshness, the target, capability and
  permission, the cluster grant and the fence, as the checks of that very call saw them;
* `complete_mediation`.
-/

namespace ExpraConnect

open ExpraConnect.Lib

variable {H : Type} {cfg : ServiceConfig H}

/-- Any number of deliveries to one service; delivery `i` is a text on a connection. -/
def servicePool (cfg : ServiceConfig H) (deliveries : ℕ → String × Generation)
    (s : ServiceState H) : Pool (ServiceState H) (Instr H) PyError SignedResponse :=
  ⟨s, fun i => handle cfg (deliveries i).1 (deliveries i).2⟩

/-! ## Grant mode -/

/-- No host action leaves grant mode.  Kind: L -/
theorem grantMode_onState {act : HostAct H} {s : ServiceState H}
    (h : s.auth.grantMode = true) : (act.onState s).auth.grantMode = true := by
  cases act with
  | updateGrants grants =>
      simp only [HostAct.onState, HostAct.apply, ServiceState.view]
      split
      · rename_i auth hauth
        unfold Auth.updateGrants at hauth
        split at hauth
        · cases hauth
          rfl
        · cases hauth
      · exact h
  | updateClusterCapabilityGrants grants => exact h
  | updateClusterFence clusterId epoch token =>
      simp only [HostAct.onState, HostAct.apply, ServiceState.view]
      split
      · rename_i auth hauth
        obtain ⟨fence, rfl⟩ := Auth.updateClusterFence_eq_ok hauth
        exact h
      · exact h
  | act f => exact h

/-- No instruction leaves grant mode.  Kind: L -/
theorem grantMode_apply {l : Instr H} {s : ServiceState H} (h : s.auth.grantMode = true) :
    (l.apply cfg s).auth.grantMode = true := by
  cases l with
  | host act => exact grantMode_onState h
  | _ => exact h

/-- A service in grant mode stays in grant mode.  Kind: L -/
theorem grantMode_of_run {allowed : EnvMove H → ServiceState H → Prop}
    {c₀ c : Pool (ServiceState H) (Instr H) PyError SignedResponse}
    {tr : List (Event (ServiceState H) (Instr H) (EnvMove H))}
    (hrun : Run (serviceMachine cfg allowed) c₀ tr c) (h₀ : c₀.state.auth.grantMode = true) :
    c.state.auth.grantMode = true := by
  induction hrun with
  | start => exact h₀
  | own i hrun hi hready ih => exact grantMode_apply ih
  | env e hrun hallowed ih =>
      cases e with
      | host act => exact grantMode_onState ih
      | tick clock sessionClock => exact ih
      | store fault => exact ih

/-! ## Mediation -/

/-- What the checks of one `handle` call saw, along its history `h`, of the request it serves and
the Pair grant it serves it under.
Source: `docs/SECURITY_MODEL.md`; `remote/service.py`, `handle`.  Kind: D -/
structure Mediated (cfg : ServiceConfig H) (text : String) (request : RemoteRequest)
    (grant : PeerGrant) (h : SvcHistory H) : Prop where
  /-- The named caller has a live, unexpired grant. -/
  granted : ∃ caller s, request.callerNodeId = some caller ∧ (.read .grantSnapshot, s) ∈ h ∧
    s.auth.grants.get? caller = some grant ∧ grant.expired s.clock = false
  /-- The text is an envelope signed with that grant's secret over all its fields, and the request
  is what it says. -/
  signed : ∃ fields checked, cfg.codec.loads text = .ok (.dict fields) ∧
    SignedWith cfg.codec grant.secret fields ∧
      cfg.codec.checkEnvelope (.dict fields) grant.secret = .ok checked ∧
        checked.checkIdentity = .ok request
  /-- Its timestamp is within the freshness window. -/
  fresh : ∃ now, ReadClock h now ∧ now - request.timestamp ≤ cfg.freshnessSeconds ∧
    -cfg.freshnessSeconds ≤ now - request.timestamp
  /-- It is addressed to the local node. -/
  target : request.nodeId = cfg.nodeId
  /-- The node has the required capability and the Pair grant the required permission; where a
  cluster grant applies, that one permits it too. -/
  permitted : ∃ op clusterGrant, Op.ofString? request.op = some op ∧
    op.capability ∈ cfg.capabilities ∧ op.permission ∈ grant.permissions ∧
      ClusterGrantSeen cfg request clusterGrant h ∧
        ∀ g, clusterGrant = some g → op.permission ∈ g.permissions
  /-- A role operation carries what the installed fence asks for. -/
  fenced : isRoleOp request.op = true →
    ∃ s, (.read .fence, s) ∈ h ∧ FenceMatches cfg request s.auth.fence

/-- Admission and one successful authorization are complete mediation, in grant mode.  Kind: L -/
theorem mediated_of_admitted {text : String} {generation : Generation} {a : Admission}
    {h₁ h : SvcHistory H} {g : Option CapabilityGrant}
    (ha : Admitted cfg text generation a h₁)
    (hmode : ∀ s, (.read .grantSnapshot, s) ∈ h₁ → s.auth.grantMode = true)
    (hauth : Authorized cfg a.request a.snapshot.grant g h) (hsub : h₁ ⊆ h) :
    ∃ grant, Mediated cfg text a.request grant h := by
  obtain ⟨envelope, s, h', hloads, hh, ⟨-, hsnap⟩, hver, -⟩ := ha.verified
  have hmem : (Instr.read .grantSnapshot, s) ∈ h₁ := by simp [hh]
  obtain ⟨caller, grant, hcaller, hget, hlive, hgrant⟩ := hsnap (hmode s hmem)
  have hsecret : a.secret = grant.secret := by simp [ha.secret, hgrant]
  rw [hsecret] at hver
  obtain ⟨checked, hchecked, hid⟩ := hver.parsed
  obtain ⟨fields, rfl, hfields⟩ := checkEnvelope_eq_ok hchecked
  obtain ⟨op, hop, hcap, hperm⟩ := hauth.permitted
  rw [hgrant] at hperm
  obtain ⟨hbase, hcluster⟩ := mem_of_mem_effectivePermissions hperm
  obtain ⟨now, hnow, hfresh⟩ := hver.fresh
  refine ⟨grant, ⟨caller, s, ?_, hsub hmem, hget, hlive⟩, ⟨fields, checked, hloads, hfields.signed,
    hchecked, hid⟩, ⟨now, hnow.mono hsub, hfresh⟩, ha.target,
    ⟨op, g, hop, hcap, hbase, hauth.clusterGrant, hcluster⟩, fun hrole => ?_⟩
  · exact callerNodeId_eq_of_callerFromJson hcaller hfields hid
  · obtain ⟨t, ht, hmatch⟩ := ha.fence hrole
    exact ⟨t, hsub ht, hmatch⟩

variable {deliveries : ℕ → String × Generation} {s₀ : ServiceState H}
  {tr : List (Event (ServiceState H) (Instr H) (EnvMove H))}
  {c : Pool (ServiceState H) (Instr H) PyError SignedResponse}

/-- **Complete mediation.**  In every run of a service in grant mode: when delivery `i` calls out
of the service or takes over a cached result, and when it is answered with status ok, its own
history shows that the request was mediated. The call is that of the request's own operation, under
the cluster grant that its own scan found; the cached result is that of the request's own key.
Source: `remote/service.py`, `RemoteService.handle`.  Kind: P -/
theorem complete_mediation (hmode : s₀.auth.grantMode = true)
    (hrun : Run (serviceMachine cfg fun _ _ => True) (servicePool cfg deliveries s₀) tr c)
    (i : ℕ) :
    (∀ tr₁ l s tr₂, tr = tr₁ ++ Event.own i l s :: tr₂ →
      (∃ call, l = .enter call) ∨ (∃ id, l = .idemAwait id) →
        ∃ request grant, Mediated cfg (deliveries i).1 request grant (history i tr₁) ∧
          (∀ call, l = .enter call → ∃ op g, Op.ofString? request.op = some op ∧
            ClusterGrantSeen cfg request g (history i tr₁) ∧ Call.Serves cfg request g op call) ∧
          ∀ id, l = .idemAwait id → AwaitsOwn cfg request id (history i tr₁)) ∧
    (∀ response, c.threads i = .ret response → response.ok = true →
      ∃ request grant, Mediated cfg (deliveries i).1 request grant (history i tr)) := by
  have hall : ∀ {tr c}, Run (serviceMachine cfg fun _ _ => True) (servicePool cfg deliveries s₀)
      tr c → ∀ l s, (l, s) ∈ history i tr → s.auth.grantMode = true := by
    intro tr c hrun l s hs
    obtain ⟨tr₁, c₁, hrun₁, rfl⟩ := hrun.state_of_mem_history hs
    exact grantMode_of_run hrun₁ hmode
  constructor
  · rintro tr₁ l s tr₂ rfl hl
    have hinner : Inner l := by
      rcases hl with ⟨call, rfl⟩ | ⟨id, rfl⟩
      · exact trivial
      · exact trivial
    have hreach : Prog.Reaches (handle cfg (deliveries i).1 (deliveries i).2) (history i tr₁) l :=
      hrun.reaches
    obtain ⟨a, h₁, h₂, hh, ha, hl'⟩ := handle_reaches_inner hinner hreach
    obtain ⟨h₃, h₄, g, rfl, hauth, -, hop⟩ := execute_reaches_inner hinner hl'
    have hsub₁ : h₁ ⊆ history i tr₁ := by
      rw [hh]
      exact List.subset_append_left _ _
    have hpart₃ : h₃ <:+: history i tr₁ := ⟨h₁, h₄, by rw [hh, List.append_assoc]⟩
    have hpart₄ : h₄ <:+ history i tr₁ := ⟨h₁ ++ h₃, by rw [hh, List.append_assoc]⟩
    obtain ⟨c₁, hrun₁, -⟩ := hrun.split
    have hmodes : ∀ s, (.read .grantSnapshot, s) ∈ h₁ → s.auth.grantMode = true :=
      fun s hs => hall hrun₁ _ s (hsub₁ hs)
    rcases hl with ⟨call, rfl⟩ | ⟨id, rfl⟩
    · -- the call stands behind an authorization of its own
      obtain ⟨h₅, hpart₅, hsolve⟩ := runOperation_reaches_enter hop
      obtain ⟨op, g, hop, hserves, hauth⟩ :=
        (solve_reaches_enter hsolve).mono (hpart₅.trans hpart₄).isInfix
      obtain ⟨grant, hg⟩ := mediated_of_admitted ha hmodes hauth hsub₁
      refine ⟨a.request, grant, hg, fun call' heq => ?_, by simp⟩
      cases heq
      exact ⟨op, g, hop, hauth.clusterGrant, hserves⟩
    · obtain ⟨grant, hg⟩ := mediated_of_admitted ha hmodes (hauth.mono hpart₃) hsub₁
      refine ⟨a.request, grant, hg, by simp, fun id' heq => ?_⟩
      cases heq
      obtain ⟨now, t, hmem, hturn⟩ := runOperation_reaches_await hop
      exact ⟨now, t, hpart₄.subset hmem, hturn⟩
  · intro response hret hok
    have hends : Prog.Ends (handle cfg (deliveries i).1 (deliveries i).2) (history i tr)
        (.ok response) := hrun.ends hret
    obtain ⟨a, h₁, h₂, h₃, outcome, hh, ha, hexec, hresp⟩ := handle_ends hends
    obtain ⟨payload, rfl, -⟩ := respond_ends_ok hresp hok
    obtain ⟨first, hauth, hrun', hfence, t, now, current, last, hauth', hh₂, -, ⟨g, hg⟩, -⟩ :=
      (execute_ends hexec).parts
    have hsub₁ : h₁ ⊆ history i tr := by
      rw [hh]
      intro x hx
      simp [hx]
    have hpart : hauth <:+: history i tr := by
      rw [hh, hh₂]
      refine ⟨h₁ ++ [(.read .grantCheck, first)], hrun' ++ (hfence ++ [(.read .sessionClock, t),
        (.assertCurrent a.sessionId (deliveries i).2 now, current), (.read .grantCheck, last)] ++
        hauth') ++ h₃, ?_⟩
      simp only [List.append_assoc, List.cons_append, List.nil_append]
    obtain ⟨grant, hgr⟩ := mediated_of_admitted ha (fun s hs => hall hrun _ s (hsub₁ hs))
      (hg.mono hpart) hsub₁
    exact ⟨a.request, grant, hgr⟩

/-! ## A small service -/

mutual

/-- The JSON text of a value whose strings need no escapes and whose objects are sorted. -/
def renderJson : Value → String
  | .null => "null"
  | .bool true => "true"
  | .bool false => "false"
  | .int n => toString n
  | .float (.finite q) => toString q.num ++ ".0"
  | .float _ => "NaN"
  | .str s => "\"" ++ s ++ "\""
  | .list items => "[" ++ renderItems items ++ "]"
  | .dict fields => "\x7b" ++ renderMembers fields ++ "\x7d"
  | .foreign _ => ""

/-- The items of a list. -/
def renderItems : List Value → String
  | [] => ""
  | [v] => renderJson v
  | v :: rest => renderJson v ++ "," ++ renderItems rest

/-- The members of an object. -/
def renderMembers : List (String × Value) → String
  | [] => ""
  | [(k, v)] => "\"" ++ k ++ "\":" ++ renderJson v
  | (k, v) :: rest => "\"" ++ k ++ "\":" ++ renderJson v ++ "," ++ renderMembers rest

end

/-- A keyed digest for examples. -/
def plainMac (secret text : String) : String := secret ++ "|" ++ text

/-- `sign_request`: the fields, in order, with their signature. -/
def signFields (secret : String) (fields : Fields) : Fields :=
  fields ++ [("sig", .str (plainMac secret (renderJson (.dict fields))))]

/-- A codec that knows the given envelopes. -/
def tableCodec (envelopes : List Fields) : Codec where
  loads text :=
    match envelopes.find? fun e => renderJson (.dict e) = text with
    | some e => .ok (.dict e)
    | none => .error ⟨.value, "Expecting value"⟩
  canonical := renderJson
  compactLength v := (renderJson v).length
  hmac := plainMac
  isAlnum c := c.isAlphanum
  isSpace c := c = ' '

/-- The node under test. -/
def sampleNode : NodeId := .named "worker"

/-- Its peer. -/
def samplePeer : NodeId := .named "coord"

/-- A self-revocation of the peer, signed at time 100. -/
def sampleEnvelope : Fields :=
  signFields "secret" [("caller_node_id", .str "coord"), ("node_id", .str "worker"),
    ("nonce", .str "n1"), ("op", .str "revoke_self"), ("params", .dict []),
    ("request_id", .str "r1"), ("ts", .int 100), ("v", .str "1")]

/-- A service whose callables count how often they ran. -/
def sampleConfig (envelopes : List Fields) : ServiceConfig ℕ where
  codec := tableCodec envelopes
  str _ := ""
  nodeId := sampleNode
  secret := "own"
  capabilities := {.readState, .remoteManagement}
  permissions := ∅
  expectedCallerId := none
  freshnessSeconds := 60
  replayTtl := 300
  replayMaxEntries := 4096
  idempotencyTtl := 300
  idempotencyMaxEntries := 4096
  sessions := ⟨600, 1024, 64, fun n => String.ofList (List.replicate (n + 1) 'a')⟩
  isOnline := true
  requireDashboardShare := false
  identityFingerprint := "fp"
  transportFingerprint := none
  rootPublicKey := none
  transportGeneration := none
  transportProof := none
  appVersion := "1"
  roleHandler := some fun _ => .step (.act (· + 1)) fun _ => .ret [("ok", .bool true)]
  trustRevokeHandler := some fun _ => .step (.act (· + 1)) fun _ => .ret [("ok", .bool true)]
  trustRevokeCommit := none
  capabilityShare := none
  surfaceAuthorize := none
  surfaceDispatch _ _ := .ret .null
  dashboardSnapshot := .ret .null
  componentSummary _ := .ret .null
  processCandidates := .ret .null
  storageCandidates := .ret .null
  processManager := none

/-- The sample service at time 100, with one Pair grant. -/
def sampleState (permissions : Finset NodePermission) : ServiceState ℕ where
  auth := ⟨true, Dict.empty.insert samplePeer ⟨samplePeer, "secret", permissions, none⟩, [], 0,
    ⟨none, none, none⟩⟩
  clock := 100
  sessionClock := 0
  replay := .empty
  sessions := .empty
  idempotency := ⟨Dict.empty, [], []⟩
  storeFault := none
  dashboardShares := Dict.empty
  host := 0

/-- Whether an event is delivery `i` entering a call. -/
def entersCall {σ H κ : Type} (i : ℕ) : Event σ (Instr H) κ → Bool
  | .own j (.enter _) _ => j = i
  | _ => false

/-- An event that enters a call is a thread's own.  Kind: L -/
theorem eq_own_of_entersCall {σ H κ : Type} {i : ℕ} {e : Event σ (Instr H) κ}
    (h : entersCall i e = true) : ∃ call s, e = .own i (.enter call) s := by
  cases e with
  | own j l s =>
      cases l with
      | enter call => exact ⟨call, s, by simpa [entersCall] using h⟩
      | _ => exact absurd h (by simp [entersCall])
  | env e s => exact absurd h (by simp [entersCall])

/-- The machine of the sample service, with an unrestricted environment. -/
def sampleMachine (envelopes : List Fields) :
    Machine (ServiceState ℕ) (Instr ℕ) (EnvMove ℕ) :=
  serviceMachine (sampleConfig envelopes) fun _ _ => True

/-- A cluster grant of the peer that expired at time 50, and did not permit to read. -/
def sampleExpiredGrant : CapabilityGrant :=
  ⟨samplePeer, sampleNode, {.cleanup}, 0, 50, Finset.singleton_ne_empty _, by norm_num⟩

/-- A cluster grant of the peer that permits to read until time 1000. -/
def sampleClusterGrant : CapabilityGrant :=
  ⟨samplePeer, sampleNode, {.readState}, 0, 1000, Finset.singleton_ne_empty _, by norm_num⟩

/-- The sample service with both cluster grants installed. -/
def clusterState : ServiceState ℕ :=
  { sampleState {.readState, .cleanup} with
    auth := (sampleState {.readState, .cleanup}).auth.updateClusterCapabilityGrants
      [sampleExpiredGrant, sampleClusterGrant] }

/-- The peer's self-revocation reaches its handler, mediated, under the second cluster grant. -/
theorem complete_mediation_revoke :
    ∃ tr₁ call s tr₂ c, Run (sampleMachine [sampleEnvelope])
        (servicePool (sampleConfig [sampleEnvelope])
          (fun _ => (renderJson (.dict sampleEnvelope), none)) clusterState)
        (tr₁ ++ Event.own 0 (.enter call) s :: tr₂) c ∧
      ∃ request grant op g, Mediated (sampleConfig [sampleEnvelope])
        (renderJson (.dict sampleEnvelope)) request grant (history 0 tr₁) ∧
        ClusterGrantSeen (sampleConfig [sampleEnvelope]) request g (history 0 tr₁) ∧
        Call.Serves (sampleConfig [sampleEnvelope]) request g op call := by
  have hexec : (Pool.exec (sampleMachine [sampleEnvelope]) (fun _ _ => true)
      (List.replicate 16 (.thread 0)) (servicePool (sampleConfig [sampleEnvelope])
        (fun _ => (renderJson (.dict sampleEnvelope), none)) clusterState)).any
      (fun out => out.1.any (entersCall 0)) = true := by decide +kernel
  obtain ⟨tr, c, hrun, htest⟩ := Run.of_exec (fun _ _ _ => trivial) hexec
  obtain ⟨e, he, henter⟩ := List.any_eq_true.mp htest
  obtain ⟨call, s, rfl⟩ := eq_own_of_entersCall henter
  obtain ⟨tr₁, tr₂, rfl⟩ := List.append_of_mem he
  obtain ⟨request, grant, hmediated, hcall, -⟩ :=
    (complete_mediation rfl hrun 0).1 tr₁ _ s tr₂ rfl (.inl ⟨call, rfl⟩)
  obtain ⟨op, g, -, hgrant, hserves⟩ := hcall call rfl
  exact ⟨tr₁, call, s, tr₂, c, hrun, request, grant, op, g, hmediated, hgrant, hserves⟩

end ExpraConnect
