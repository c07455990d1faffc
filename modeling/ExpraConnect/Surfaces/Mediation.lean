import ExpraConnect.Remote.Mediation
import ExpraConnect.Remote.RoleOperations
import ExpraConnect.Surfaces.Registry

/-!
# Surfaces behind a service

`surfaces/provider.py`: a service whose surface requests go to a surface registry.

* `requestedHandler`, `dispatchSurface`: what the service asks of the registry;
* `ServesSurfaces`: the service is wired to a registry that is part of the host's state;
* `surface_call_is_granted`: no surface is dispatched to unless the registry held a grant for the
  authenticated caller while that very request was being handled.
-/

namespace ExpraConnect

open ExpraConnect.Lib

/-- Source: `surfaces/protocol.py`, `SURFACE_ACCESS_BY_OPERATION`.  Kind: D -/
def Op.surfaceAccess : Op → SurfaceAccess
  | .surfaceReview => .review
  | .surfaceAction => .action
  | _ => .read

section provider

variable {H η σ : Type} [DecidableEq σ]

/-- The cluster sources of a request.
Source: `surfaces/provider.py`, `dispatch_surface_request`.  Kind: D -/
def clusterSources (caller : NodeId) (clusterGrant : Option CapabilityGrant) :
    List (SurfaceSource σ) :=
  if clusterGrant.isSome then [.node caller] else []

/-- The handler of a request, if the caller may use it.
Source: `surfaces/provider.py`, `dispatch_surface_request`; `remote/service.py`,
`_authorize_request`.  Kind: D -/
def SurfaceRegistry.requestedHandler (s : SurfaceRegistry η σ) (request : RemoteRequest)
    (clusterGrant : Option CapabilityGrant) (now : ℚ) : Except PyError η :=
  match Op.ofString? request.op, request.callerNodeId with
  | some op, some caller => do
      let surfaceId ← strParam "surface_id" request.params
      s.authorizedHandler caller surfaceId op.surfaceAccess.value
        ((getField "action" request.params).getD .null) (clusterSources caller clusterGrant) now
  | none, _ => .error ⟨.key, request.op⟩
  | _, none => .error ⟨.type, "peer id must be a NodeId"⟩

/-- `registry.dispatch(...)`: the host's handler, or what it raised.
Source: `surfaces/registry.py`, `SurfaceRegistry.dispatch`.  Kind: D -/
def dispatchSurface (registry : H → SurfaceRegistry η σ)
    (call : η → RemoteRequest → Handler H Value) (request : RemoteRequest)
    (clusterGrant : Option CapabilityGrant) : Handler H Value :=
  .step (.act id) fun v =>
    match (registry v.host).requestedHandler request clusterGrant v.clock with
    | .error e => .fail e
    | .ok handler => do
        match ← (call handler request).attempt with
        | .ok result => return result
        | .error _ => throw ⟨.runtime, "surface handler failed"⟩

/-- The surface requests of a service go to a registry.
Source: `runtime/core.py`, `_start_components`.  Kind: D -/
structure ServesSurfaces (cfg : ServiceConfig H) (registry : H → SurfaceRegistry η σ)
    (call : η → RemoteRequest → Handler H Value) : Prop where
  /-- `_surface_registry.authorize` -/
  authorize : cfg.surfaceAuthorize = some fun request clusterGrant v => do
    let _ ← (registry v.host).requestedHandler request clusterGrant v.clock
    return
  /-- `_surface_registry.dispatch` -/
  dispatch : cfg.surfaceDispatch = dispatchSurface registry call

/-- The registry holds a grant under which the request may reach its surface.  Kind: D -/
def SurfaceGranted (s : SurfaceRegistry η σ) (request : RemoteRequest)
    (clusterGrant : Option CapabilityGrant) (now : ℚ) : Prop :=
  ∃ op caller surfaceId, Op.ofString? request.op = some op ∧
    request.callerNodeId = some caller ∧
      getField "surface_id" request.params = some (.str surfaceId) ∧
        (s.findGrant caller surfaceId op.surfaceAccess (clusterSources caller clusterGrant)
          now).isSome = true

/-- A handler is given out on a grant for the request.  Kind: L -/
theorem surfaceGranted_of_requestedHandler {s : SurfaceRegistry η σ} {request : RemoteRequest}
    {g : Option CapabilityGrant} {now : ℚ} {handler : η}
    (h : s.requestedHandler request g now = .ok handler) : SurfaceGranted s request g now := by
  unfold SurfaceRegistry.requestedHandler at h
  cases hop : Op.ofString? request.op with
  | none => simp [hop] at h
  | some op =>
      cases hcaller : request.callerNodeId with
      | none => simp [hop, hcaller] at h
      | some caller =>
          simp only [hop, hcaller, Except.bind_eq_ok] at h
          obtain ⟨surfaceId, hid, h⟩ := h
          simp only [SurfaceRegistry.authorizedHandler, Except.bind_eq_ok, Except.raiseIf_eq_ok,
            SurfaceAccess.new_value, Except.ok.injEq, exists_eq_left'] at h
          obtain ⟨_, hfound, _⟩ := h
          refine ⟨op, caller, surfaceId, hop, hcaller, ?_, ?_⟩
          · unfold strParam at hid
            split at hid
            · cases hid
              assumption
            · cases hid
            · cases hid
          · simpa [Option.isSome_iff_ne_none] using hfound

end provider

/-! ## Where a surface call comes from -/

section calls

variable {H : Type} {cfg : ServiceConfig H} {request r : RemoteRequest}
  {g g' : Option CapabilityGrant} {h : SvcHistory H}

/-- A surface call is for the request and the cluster grant that were authorized.  Kind: L -/
theorem Call.Serves.surface_cases {op : Op} (h : Call.Serves cfg request g op (.surface r g')) :
    op.isSurface = true ∧ r = request ∧ g' = g := by
  cases h with
  | surface hop => exact ⟨hop, rfl, rfl⟩

/-- What the surface part of `_authorize_request` saw.  Kind: L -/
theorem authorizeSurface_ends {op : Op} (hsurface : op.isSurface = true)
    (hends : Prog.Ends (authorizeSurface cfg op request g) h (.ok ())) :
    ∃ authorize s, cfg.surfaceAuthorize = some authorize ∧ (.read .surfaceCheck, s) ∈ h ∧
      authorize request g s.view = .ok () := by
  unfold authorizeSurface at hends
  rw [if_pos hsurface] at hends
  obtain ⟨_, h₁, _, rfl, _, hends⟩ := Prog.ends_bind_ok.mp hends
  obtain ⟨_, hends⟩ := ends_raiseIf_bind.mp hends
  unfold surfaceCheck at hends
  cases hcfg : cfg.surfaceAuthorize with
  | none => simp [hcfg] at hends
  | some authorize =>
      simp only [hcfg] at hends
      obtain ⟨s, rfl, hs⟩ := Prog.ends_call.mp hends
      refine ⟨authorize, s, rfl, by simp, ?_⟩
      cases hcheck : authorize request g s.view with
      | ok u => rfl
      | error e => simp [hcheck] at hs

/-- What `_authorize_request` saw of a surface request.  Kind: L -/
theorem authorizeRequest_ends_surface {op : Op} {grant : Option PeerGrant}
    (hop : Op.ofString? request.op = some op) (hsurface : op.isSurface = true)
    (hends : Prog.Ends (authorizeRequest cfg request grant) h (.ok g)) :
    ∃ authorize s, cfg.surfaceAuthorize = some authorize ∧ (.read .surfaceCheck, s) ∈ h ∧
      authorize request g s.view = .ok () := by
  unfold authorizeRequest at hends
  simp only [hop] at hends
  obtain ⟨-, hends⟩ := ends_raiseIf_bind.mp hends
  obtain ⟨_, _, g', rfl, -, hends⟩ := Prog.ends_bind_ok.mp hends
  obtain ⟨-, hends⟩ := ends_raiseIf_bind.mp hends
  obtain ⟨-, hends⟩ := ends_raiseIf_bind.mp hends
  obtain ⟨h₃, h₄, _, rfl, hcheck, hends⟩ := Prog.ends_bind_ok.mp hends
  obtain ⟨rfl, hg⟩ := Prog.ends_pure.mp hends
  cases hg
  obtain ⟨authorize, s, hcfg, hs, hok⟩ := authorizeSurface_ends hsurface hcheck
  exact ⟨authorize, s, hcfg, by simp [hs], hok⟩

/-- `_solve` calls a surface for the request it serves, right behind its own authorization.
Kind: L -/
theorem solveRequest_reaches_surface {grant : Option PeerGrant}
    (hl : Prog.Reaches (solveRequest cfg request grant) h (.enter (.surface r g))) :
    r = request ∧ Authorized cfg request grant g h ∧
      ∃ authorize s, cfg.surfaceAuthorize = some authorize ∧ (.read .surfaceCheck, s) ∈ h ∧
        authorize request g s.view = .ok () := by
  rcases Prog.reaches_bind.mp hl with hl | ⟨h₁, h₂, g', rfl, hauth, hl⟩
  · exact absurd rfl ((authorizeRequest_only _ _ _ _ hl).notEnter _)
  · rcases Prog.reaches_bind.mp hl with hl | ⟨h₃, h₄, _, rfl, -, hl⟩
    · exact (Prog.reaches_ofExcept.mp hl).elim
    · cases hop : Op.ofString? request.op with
      | none =>
          simp only [hop] at hl
          exact (Prog.reaches_throw.mp hl).elim
      | some op =>
          simp only [hop] at hl
          obtain ⟨hsurface, hr, rfl⟩ := (dispatch_serves op request g' _ _ hl _ rfl).surface_cases
          obtain ⟨authorize, s, hcfg, hs, hok⟩ := authorizeRequest_ends_surface hop hsurface hauth
          exact ⟨hr, (authorizeRequest_ends hauth).mono (List.prefix_append _ _).isInfix, authorize,
            s, hcfg, by simp [hs], hok⟩

/-- A surface call comes from an authorized request.  Kind: L -/
theorem solve_reaches_surface {snapshot : GrantSnapshot} {sessionId : String}
    {generation : Generation}
    (hl : Prog.Reaches (solve cfg request snapshot sessionId generation) h
      (.enter (.surface r g))) :
    r = request ∧ Authorized cfg request snapshot.grant g h ∧
      ∃ authorize s, cfg.surfaceAuthorize = some authorize ∧ (.read .surfaceCheck, s) ∈ h ∧
        authorize request g s.view = .ok () := by
  rcases Prog.reaches_bind.mp hl with hl | ⟨h₁, h₂, _, rfl, -, hl⟩
  · exact absurd rfl (assertGrantSnapshotCurrent_notEnter _ _ _ hl _)
  · rcases Prog.reaches_bind.mp hl with hl | ⟨h₃, h₄, _, rfl, -, hl⟩
    · obtain ⟨hr, hauth, authorize, s, hcfg, hs, hok⟩ := solveRequest_reaches_surface hl
      exact ⟨hr, hauth.mono (List.suffix_append _ _).isInfix, authorize, s, hcfg, by simp [hs], hok⟩
    · exact absurd rfl (postchecks_notEnter _ _ _ _ _ _ hl _)

end calls

/-! ## Every run -/

section runs

variable {H η σ : Type} [DecidableEq σ] {cfg : ServiceConfig H}
  {registry : H → SurfaceRegistry η σ} {call : η → RemoteRequest → Handler H Value}
  {deliveries : ℕ → String × Generation} {s₀ : ServiceState H}
  {tr₁ tr₂ : List (Event (ServiceState H) (Instr H) (EnvMove H))}
  {c : Pool (ServiceState H) (Instr H) PyError SignedResponse}

/-- The first thing a dispatched surface request does is look its handler up again; it runs no other
code unless the registry still held a grant.  Kind: L -/
theorem dispatchSurface_reaches {request : RemoteRequest} {g : Option CapabilityGrant}
    {h : Prog.History (HostView H) (HostAct H)} {l : HostAct H}
    (hl : Prog.Reaches (dispatchSurface registry call request g) h l) :
    h = [] ∧ l = .act id ∨ ∃ v handler h', h = (.act id, v) :: h' ∧
      (registry v.host).requestedHandler request g v.clock = .ok handler ∧
        Prog.Reaches (call handler request) h' l := by
  rcases Prog.reaches_step.mp hl with hl | ⟨v, h', rfl, hnext⟩
  · exact .inl hl
  · right
    clear hl
    cases hlook : (registry v.host).requestedHandler request g v.clock with
    | error e =>
        simp only [hlook] at hnext
        exact (Prog.reaches_fail.mp hnext).elim
    | ok handler =>
        simp only [hlook] at hnext
        refine ⟨v, handler, h', rfl, hlook, ?_⟩
        rcases Prog.reaches_bind.mp hnext with hnext | ⟨_, _, r, rfl, -, hnext⟩
        · exact Prog.reaches_attempt.mp hnext
        · cases r with
          | ok a => exact (Prog.reaches_pure.mp hnext).elim
          | error e => exact (Prog.reaches_throw.mp hnext).elim

/-- **A surface is called under a grant.**  In every run of a service in grant mode whose surface
requests go to a registry: when a delivery calls a surface, its own history shows that the request
was mediated and that the registry, as one of its own checks saw it, held a grant of that surface
and access to the caller or, where a cluster grant applies, to its node; and the call looks at the
registry again before it does anything else, and goes on only under a grant.
Source: `remote/service.py`, `handle`, `_authorize_request`; `surfaces/provider.py`,
`dispatch_surface_request`.  Kind: P -/
theorem surface_call_is_granted (hwired : ServesSurfaces cfg registry call)
    (hmode : s₀.auth.grantMode = true) (i : ℕ) {request : RemoteRequest}
    {g : Option CapabilityGrant} {s : ServiceState H}
    (hrun : Run (serviceMachine cfg fun _ _ => True) (servicePool cfg deliveries s₀)
      (tr₁ ++ Event.own i (.enter (.surface request g)) s :: tr₂) c) :
    (∃ grant, Mediated cfg (deliveries i).1 request grant (history i tr₁)) ∧
      ClusterGrantSeen cfg request g (history i tr₁) ∧
        (∃ t, (.read .surfaceCheck, t) ∈ history i tr₁ ∧
          SurfaceGranted (registry t.host) request g t.clock) ∧
        ∀ h l, Prog.Reaches (cfg.surfaceDispatch request g) h l → h = [] ∧ l = .act id ∨
          ∃ v h', h = (.act id, v) :: h' ∧ SurfaceGranted (registry v.host) request g v.clock := by
  have hreach : Prog.Reaches (handle cfg (deliveries i).1 (deliveries i).2) (history i tr₁)
      (.enter (.surface request g)) := hrun.reaches
  obtain ⟨a, h₁, h₂, hh, ha, hl⟩ := handle_reaches_inner (l := .enter (.surface request g)) trivial
    hreach
  obtain ⟨h₃, h₄, _, rfl, -, -, hl⟩ :=
    execute_reaches_inner (l := .enter (.surface request g)) trivial hl
  obtain ⟨h₅, hpart₅, hl⟩ := runOperation_reaches_enter hl
  obtain ⟨rfl, hauth, authorize, t, hcfg, ht, hok⟩ := solve_reaches_surface hl
  -- everything seen so far is in the history of the delivery
  have hsub₁ : h₁ ⊆ history i tr₁ := by
    rw [hh]
    exact List.subset_append_left _ _
  have hpart : h₅ <:+: history i tr₁ := by
    rw [hh]
    exact (hpart₅.trans ((List.suffix_append _ _).trans (List.suffix_append _ _))).isInfix
  refine ⟨?_, (hauth.mono hpart).clusterGrant, ⟨t, hpart.subset ht, ?_⟩, fun h l hl => ?_⟩
  · obtain ⟨c₁, hrun₁, -⟩ := hrun.split
    refine mediated_of_admitted ha (fun s hs => ?_) (hauth.mono hpart) hsub₁
    obtain ⟨tr₀, c₀, hrun₀, rfl⟩ := hrun₁.state_of_mem_history (hsub₁ hs)
    exact grantMode_of_run hrun₀ hmode
  · rw [hwired.authorize, Option.some.injEq] at hcfg
    subst hcfg
    obtain ⟨handler, hhandler, -⟩ := Except.bind_eq_ok.mp hok
    exact surfaceGranted_of_requestedHandler hhandler
  · rw [hwired.dispatch] at hl
    rcases dispatchSurface_reaches hl with hl | ⟨v, handler, h', rfl, hlook, -⟩
    · exact .inl hl
    · exact .inr ⟨v, h', rfl, surfaceGranted_of_requestedHandler hlook⟩

end runs

/-! ## A small service -/

/-- A read of surface `s`, signed at time 100. -/
def sampleSurfaceEnvelope : Fields :=
  signFields "secret" [("caller_node_id", .str "coord"), ("node_id", .str "worker"),
    ("nonce", .str "n1"), ("op", .str "surface_read"),
    ("params", .dict [("surface_id", .str "s")]), ("request_id", .str "r1"), ("ts", .int 100),
    ("v", .str "1")]

/-- A registry with one surface, granted to the peer. -/
def sampleRegistry : SurfaceRegistry ℕ String :=
  SurfaceRegistry.run [.register "s" (some 0) none [], .grantPeer samplePeer "s" "read" .null]

/-- A surface handler that counts. -/
def sampleSurface (_ : ℕ) (_ : RemoteRequest) : Handler ℕ Value :=
  .step (.act (· + 1)) fun _ => .ret .null

/-- The sample service, with the registry behind it. -/
def sampleSurfaceConfig : ServiceConfig ℕ :=
  { sampleConfig [sampleSurfaceEnvelope] with
    surfaceAuthorize := some fun request clusterGrant v => do
      let _ ← sampleRegistry.requestedHandler request clusterGrant v.clock
      return
    surfaceDispatch := dispatchSurface (fun _ => sampleRegistry) sampleSurface }

/-- Whether an event is delivery `i` calling a surface. -/
def callsSurface {σ H κ : Type} (i : ℕ) : Event σ (Instr H) κ → Bool
  | .own j (.enter (.surface _ _)) _ => j = i
  | _ => false

/-- An event that calls a surface is a thread's own.  Kind: L -/
theorem eq_own_of_callsSurface {σ H κ : Type} {i : ℕ} {e : Event σ (Instr H) κ}
    (h : callsSurface i e = true) : ∃ request g s, e = .own i (.enter (.surface request g)) s := by
  obtain ⟨call, s, rfl⟩ := eq_own_of_entersCall (i := i) (e := e) (by
    revert h
    unfold callsSurface entersCall
    split
    · exact id
    · exact fun h => absurd h (by simp))
  cases call with
  | surface request g => exact ⟨request, g, s, rfl⟩
  | _ => exact absurd h (by simp [callsSurface])

/-- The granted read reaches its surface, mediated. -/
theorem surface_call_is_granted_read :
    ∃ tr₁ request g s tr₂ c, Run (serviceMachine sampleSurfaceConfig fun _ _ => True)
        (servicePool sampleSurfaceConfig
          (fun _ => (renderJson (.dict sampleSurfaceEnvelope), none)) (sampleState {.readState}))
        (tr₁ ++ Event.own 0 (.enter (.surface request g)) s :: tr₂) c ∧
      ∃ t, (.read .surfaceCheck, t) ∈ history 0 tr₁ ∧
        SurfaceGranted sampleRegistry request g t.clock := by
  have hexec : (Pool.exec (serviceMachine sampleSurfaceConfig fun _ _ => True)
      (fun _ _ => true) (List.replicate 20 (.thread 0)) (servicePool sampleSurfaceConfig
        (fun _ => (renderJson (.dict sampleSurfaceEnvelope), none))
        (sampleState {.readState}))).any (fun out => out.1.any (callsSurface 0)) = true := by
    decide +kernel
  obtain ⟨tr, c, hrun, htest⟩ := Run.of_exec (fun _ _ _ => trivial) hexec
  obtain ⟨e, he, hcalls⟩ := List.any_eq_true.mp htest
  obtain ⟨request, g, s, rfl⟩ := eq_own_of_callsSurface hcalls
  obtain ⟨tr₁, tr₂, rfl⟩ := List.append_of_mem he
  have hwired : ServesSurfaces sampleSurfaceConfig (fun _ => sampleRegistry) sampleSurface :=
    ⟨rfl, rfl⟩
  exact ⟨tr₁, request, g, s, tr₂, c, hrun,
    (surface_call_is_granted hwired rfl 0 hrun).2.2.1⟩

end ExpraConnect
