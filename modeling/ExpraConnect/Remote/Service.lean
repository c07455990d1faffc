import ExpraConnect.Cluster.Models
import ExpraConnect.Lib.Prog
import ExpraConnect.Remote.Session

/-!
# The authenticated request boundary

`remote/service.py`.  `handle` is a thread (`Lib.Prog`) whose atomic instructions are the critical
sections and the reads of shared data of the source: between any two of them other requests, grant
updates, fence updates and the clocks may move.

* `Auth`: the ACL (Pair grants, cluster grants, their version) and the fence, with
  `updateGrants`, `updateClusterCapabilityGrants`, `updateClusterFence`.
* `HostAct`, `Handler`: the code behind the service (role handler, providers, process manager,
  registries) is an arbitrary thread over the service's public update methods and its own state.
* `Instr`: the instruction set; `serviceMachine` gives its effects.
* `authorizeRequest`, `verifyRoleFence`, `solve`, `idempotencyRun`, `handle`.

`observation_scope` and logging have no effect on requests and are left out.
-/

namespace ExpraConnect

open ExpraConnect.Lib

/-! ## Access control state -/

/-- The fence of role operations.  Source: `remote/service.py`, `RemoteService`.  Kind: D -/
structure Fence where
  /-- `_cluster_id` -/
  clusterId : Option String
  /-- `_coordinator_epoch` -/
  coordinatorEpoch : Option ℤ
  /-- `_fencing_token` -/
  fencingToken : Option String
  deriving DecidableEq

/-- What `_grant_lock` and `_fence_lock` protect.
Source: `remote/service.py`, `RemoteService`.  Kind: D -/
structure Auth where
  /-- `_grant_mode` -/
  grantMode : Bool
  /-- `_grants` -/
  grants : Dict NodeId PeerGrant
  /-- `_cluster_capability_grants` -/
  clusterCapabilityGrants : List CapabilityGrant
  /-- `_grant_version` -/
  grantVersion : ℕ
  /-- The installed fence. -/
  fence : Fence
  deriving DecidableEq

/-- Source: `remote/service.py`, `RemoteService._validate_secret`: 64 hexadecimal digits.
Kind: D -/
def validSecret (secret : String) : Bool :=
  decide (secret.length = 64) && secret.toList.all fun c =>
    ('0' ≤ c && c ≤ '9') || ('a' ≤ c && c ≤ 'f') || ('A' ≤ c && c ≤ 'F')

namespace Auth

/-- Source: `remote/service.py`, `update_grants`.  Kind: D -/
def updateGrants (grants : Dict NodeId PeerGrant) (a : Auth) : Except PyError Auth :=
  if grants.values.all fun g => validSecret g.secret then
    .ok { a with grantMode := true, grants := grants, grantVersion := a.grantVersion + 1 }
  else .error ⟨.value, "peer credentials must be 256-bit hex text"⟩

/-- Source: `remote/service.py`, `update_cluster_capability_grants`.  Kind: D -/
def updateClusterCapabilityGrants (grants : List CapabilityGrant) (a : Auth) : Auth :=
  { a with clusterCapabilityGrants := grants, grantVersion := a.grantVersion + 1 }

/-- Source: `remote/service.py`, `update_cluster_fence`.  Kind: D -/
def updateClusterFence (clusterId : String) (epoch : ℤ) (fencingToken : String) (a : Auth) :
    Except PyError Auth :=
  let installed : Auth := { a with fence := ⟨some clusterId, some epoch, some fencingToken⟩ }
  match a.fence.coordinatorEpoch with
  | none => .ok installed
  | some current =>
      if a.fence.clusterId ≠ some clusterId then .ok installed
      else if epoch < current then
        .error ⟨.remoteAuthorization, "cannot install an older coordinator epoch"⟩
      else if epoch = current then
        match a.fence.fencingToken with
        | none => .error ⟨.remoteAuthorization, "coordinator fencing token conflicts"⟩
        | some token => do
            let same ← compareDigest fencingToken token
            raiseIf (!same) ⟨.remoteAuthorization, "coordinator fencing token conflicts"⟩
            return a
      else .ok installed

end Auth

/-! ## The code behind the service -/

variable {H : Type}

/-- What the code behind the service sees. -/
structure HostView (H : Type) where
  /-- The access control state. -/
  auth : Auth
  /-- The wall clock. -/
  clock : ℚ
  /-- Its own state. -/
  host : H

/-- One atomic action of the code behind the service: a public update of the service, or a step
on its own state. -/
inductive HostAct (H : Type) where
  /-- `update_grants(grants)` -/
  | updateGrants (grants : Dict NodeId PeerGrant)
  /-- `update_cluster_capability_grants(grants)` -/
  | updateClusterCapabilityGrants (grants : List CapabilityGrant)
  /-- `update_cluster_fence(...)` -/
  | updateClusterFence (clusterId : String) (epoch : ℤ) (fencingToken : String)
  /-- A step on its own state. -/
  | act (f : H → H)

/-- The effect of an action; an update that raises changes nothing. -/
def HostAct.apply (act : HostAct H) (v : HostView H) : HostView H :=
  match act with
  | .updateGrants grants =>
      match v.auth.updateGrants grants with
      | .ok auth => { v with auth := auth }
      | .error _ => v
  | .updateClusterCapabilityGrants grants =>
      { v with auth := v.auth.updateClusterCapabilityGrants grants }
  | .updateClusterFence clusterId epoch fencingToken =>
      match v.auth.updateClusterFence clusterId epoch fencingToken with
      | .ok auth => { v with auth := auth }
      | .error _ => v
  | .act f => { v with host := f v.host }

/-- A host-owned callable. -/
abbrev Handler (H α : Type) := Prog (HostView H) (HostAct H) PyError α

/-- Source: `remote/models.py`, `ProcessActionKind`, as far as the wire allows it.  Kind: D -/
inductive ProcessActionKind where
  | requestQuit | forceQuit
  deriving DecidableEq

/-- Source: `remote/models.py`, `ProcessTerminationRequest`.  Kind: D -/
structure ProcessTerminationRequest where
  /-- `target_node_id` -/
  targetNodeId : NodeId
  /-- The pid and creation time of each process. -/
  processes : List (ℤ × ℚ)
  /-- `action` -/
  action : ProcessActionKind

/-- One call out of the service. -/
inductive Call where
  /-- `_role_handler(request)` -/
  | role (request : RemoteRequest)
  /-- `_trust_revoke_handler(caller)` -/
  | trustRevoke (caller : NodeId)
  /-- `_capability_share.request(caller, capability, params)` -/
  | capability (caller : NodeId) (capability : String) (params : Fields)
  /-- `_surface_registry.dispatch(...)` -/
  | surface (request : RemoteRequest) (clusterGrant : Option CapabilityGrant)
  /-- `_provider.dashboard_snapshot()` -/
  | dashboardSnapshot
  /-- `_provider.component_summary(key)` -/
  | componentSummary (key : String)
  /-- `_provider.process_candidates()` -/
  | processCandidates
  /-- `_provider.storage_candidates()` -/
  | storageCandidates
  /-- `_process_manager.terminate(request)` or its `request_quit`/`force_quit` -/
  | processAction (request : ProcessTerminationRequest)

/-- Source: `remote/service.py`, `RemoteService.__init__`.  Kind: D -/
structure ServiceConfig (H : Type) where
  /-- The standard library. -/
  codec : Codec
  /-- Text of a value that is not a string: `str(value)`. -/
  str : Value → String
  /-- `_node_id` -/
  nodeId : NodeId
  /-- `_secret` -/
  secret : String
  /-- `_capabilities` -/
  capabilities : Finset NodeCapability
  /-- `_permissions`, of a service without grants. -/
  permissions : Finset NodePermission
  /-- `_expected_caller_id` -/
  expectedCallerId : Option NodeId
  /-- `_freshness_seconds` -/
  freshnessSeconds : ℚ
  /-- The lifetime of replay entries. -/
  replayTtl : ℚ
  /-- The bound of the replay cache. -/
  replayMaxEntries : ℕ
  /-- The lifetime of idempotency entries. -/
  idempotencyTtl : ℚ
  /-- The bound of the idempotency cache. -/
  idempotencyMaxEntries : ℕ
  /-- The session registry's bounds. -/
  sessions : SessionConfig
  /-- `_status is NodeStatus.ONLINE` -/
  isOnline : Bool
  /-- `_require_dashboard_share` -/
  requireDashboardShare : Bool
  /-- `_identity_fingerprint` -/
  identityFingerprint : String
  /-- `_transport_fingerprint` -/
  transportFingerprint : Option String
  /-- `_root_public_key` -/
  rootPublicKey : Option String
  /-- `_transport_generation` -/
  transportGeneration : Option ℤ
  /-- `_transport_proof` -/
  transportProof : Option String
  /-- `_app_version` -/
  appVersion : String
  /-- `_role_handler` -/
  roleHandler : Option (RemoteRequest → Handler H Fields)
  /-- `_trust_revoke_handler` -/
  trustRevokeHandler : Option (NodeId → Handler H Fields)
  /-- `_trust_revoke_commit` -/
  trustRevokeCommit : Option (Handler H Unit)
  /-- `_capability_share.request` -/
  capabilityShare : Option (NodeId → String → Fields → Handler H Value)
  /-- `_surface_registry.authorize`, of the request and the cluster grant it came with. -/
  surfaceAuthorize : Option (RemoteRequest → Option CapabilityGrant → HostView H →
    Except PyError Unit)
  /-- `_surface_registry.dispatch` -/
  surfaceDispatch : RemoteRequest → Option CapabilityGrant → Handler H Value
  /-- `_provider.dashboard_snapshot`, encoded. -/
  dashboardSnapshot : Handler H Value
  /-- `_provider.component_summary`, encoded. -/
  componentSummary : String → Handler H Value
  /-- `_provider.process_candidates`, encoded. -/
  processCandidates : Handler H Value
  /-- `_provider.storage_candidates`, encoded. -/
  storageCandidates : Handler H Value
  /-- The process manager's action, encoded. -/
  processManager : Option (ProcessTerminationRequest → Handler H Fields)

/-! ## Shared state and instructions -/

/-- Everything the threads of a service share.
Source: `remote/service.py`, `RemoteService`.  Kind: D -/
structure ServiceState (H : Type) where
  /-- Grants and fence. -/
  auth : Auth
  /-- What the wall clock shows. -/
  clock : ℚ
  /-- What the session clock shows. -/
  sessionClock : ℚ
  /-- `_replay_cache` -/
  replay : ReplayCache
  /-- `_sessions` -/
  sessions : LogicalSessionRegistry
  /-- `_idempotency` -/
  idempotency : IdempotencyCache
  /-- What a save of the idempotency store would raise. -/
  storeFault : Option PyError
  /-- `_dashboard_shares` -/
  dashboardShares : Dict NodeId ℚ
  /-- The state of the code behind the service. -/
  host : H

/-- The part the code behind the service sees. -/
def ServiceState.view (s : ServiceState H) : HostView H := ⟨s.auth, s.clock, s.host⟩

/-- The reads of shared data. -/
inductive Read where
  /-- `_clock()` -/
  | clock
  /-- The session registry's clock. -/
  | sessionClock
  /-- The grant snapshot at the start of `handle`. -/
  | grantSnapshot
  /-- `_assert_grant_snapshot_current` -/
  | grantCheck
  /-- `_cluster_capability_grants` -/
  | clusterGrants
  /-- The fence of `_verify_role_fence`. -/
  | fence
  /-- `_surface_registry.authorize` -/
  | surfaceCheck
  /-- `_dashboard_shares` -/
  | dashboardShares
  deriving DecidableEq

/-- The atomic instructions of `handle`. -/
inductive Instr (H : Type) where
  /-- Read shared data. -/
  | read (what : Read)
  /-- `_replay_cache.check_and_record` -/
  | replay (key : ReplayKey) (now : ℚ)
  /-- `_sessions.authenticate` -/
  | authenticate (request : RemoteRequest) (generation : Generation) (now : ℚ)
  /-- `_sessions.assert_current` -/
  | assertCurrent (sessionId : String) (generation : Generation) (now : ℚ)
  /-- The first critical section of `_idempotency.run`. -/
  | idemEnter (key : IdemKey) (fingerprint : String) (now : ℚ)
  /-- `entry.event.wait()`, and reading the entry. -/
  | idemAwait (id : ℕ)
  /-- The critical section of a failed operation. -/
  | idemFail (id : ℕ) (e : PyError)
  /-- The critical section of an operation that returned. -/
  | idemComplete (id : ℕ) (result : Fields)
  /-- `_dashboard_shares.pop(caller, None)` -/
  | dropDashboardShare (caller : NodeId)
  /-- Enter a call out of the service. -/
  | enter (call : Call)
  /-- One action of the code that was called. -/
  | host (act : HostAct H)

/-- What the other parties do: update the ACL or the fence, act on their own state, move the
clocks, break or mend the idempotency store. -/
inductive EnvMove (H : Type) where
  /-- An action of the code behind the service, outside any request. -/
  | host (act : HostAct H)
  /-- The clocks move. -/
  | tick (clock sessionClock : ℚ)
  /-- What a save would raise changes. -/
  | store (fault : Option PyError)

section machine

variable (cfg : ServiceConfig H)

/-- The effect of an action on the shared state. -/
def HostAct.onState (act : HostAct H) (s : ServiceState H) : ServiceState H :=
  { s with auth := (act.apply s.view).auth, host := (act.apply s.view).host }

/-- The effect of an instruction. -/
def Instr.apply (l : Instr H) (s : ServiceState H) : ServiceState H :=
  match l with
  | .read _ => s
  | .replay key now =>
      { s with replay :=
          (s.replay.checkAndRecord cfg.replayTtl cfg.replayMaxEntries key now).2 }
  | .authenticate request generation now =>
      { s with sessions := (s.sessions.authenticate cfg.sessions request generation now).2 }
  | .assertCurrent sessionId generation now =>
      { s with sessions := (s.sessions.assertCurrent sessionId generation now).2 }
  | .idemEnter key fingerprint now =>
      { s with idempotency := (s.idempotency.enter cfg.idempotencyTtl cfg.idempotencyMaxEntries
          key fingerprint now).2 }
  | .idemAwait _ => s
  | .idemFail id e => { s with idempotency := s.idempotency.fail id e }
  | .idemComplete id result =>
      { s with idempotency := s.idempotency.complete id result s.clock s.storeFault }
  | .dropDashboardShare caller =>
      { s with dashboardShares := s.dashboardShares.erase caller }
  | .enter _ => s
  | .host act => act.onState s

/-- Only a waiter blocks, until the event is set. -/
def Instr.ready (l : Instr H) (s : ServiceState H) : Bool :=
  match l with
  | .idemAwait id => (s.idempotency.object id).any IdempotencyEntry.signalled
  | _ => true

/-- The effect of an environment move. -/
def EnvMove.apply (e : EnvMove H) (s : ServiceState H) : ServiceState H :=
  match e with
  | .host act => act.onState s
  | .tick clock sessionClock => { s with clock := clock, sessionClock := sessionClock }
  | .store fault => { s with storeFault := fault }

/-- The machine of a service, with the environment moves that are possible. -/
def serviceMachine (allowed : EnvMove H → ServiceState H → Prop) :
    Machine (ServiceState H) (Instr H) (EnvMove H) where
  upd := Instr.apply cfg
  ready := Instr.ready
  env := EnvMove.apply
  allowed := allowed

end machine

/-- A thread of the service. -/
abbrev Svc (H α : Type) := Prog (ServiceState H) (Instr H) PyError α

/-- Run a callable of the host inside a request. -/
def Svc.callHost {α : Type} : Handler H α → Svc H α
  | .ret a => .ret a
  | .fail e => .fail e
  | .step act next => .step (.host act) fun s => callHost (next s.view)

/-- One read of shared data. -/
def Svc.read {α : Type} (what : Read) (f : ServiceState H → Except PyError α) : Svc H α :=
  Prog.call (.read what) f

/-- `self._clock()`. -/
def Svc.clock : Svc H ℚ := Svc.read .clock fun s => .ok s.clock

/-! ## The request -/

/-- `needle in text`. -/
def containsText (needle text : String) : Bool := decide (needle.toList <:+: text.toList)

/-- A signed response.  Source: `remote/wire_protocol.py`, `sign_response`.  Kind: D -/
structure SignedResponse where
  /-- `node_id` -/
  nodeId : String
  /-- `request_id` -/
  requestId : String
  /-- `status`, `true` for `"ok"` -/
  ok : Bool
  /-- `payload` -/
  payload : Option Fields
  /-- `error` -/
  error : Option String
  /-- `ts` -/
  timestamp : ℚ
  /-- `session_id` -/
  sessionId : String
  /-- `connection_generation` -/
  connectionGeneration : Generation
  /-- `sig` -/
  sig : String

section service

variable (cfg : ServiceConfig H)

/-- The fields `sign_response` signs.  Source: `remote/wire_protocol.py`, `sign_response`.
Kind: D -/
def responseFields (nodeId requestId : String) (ok : Bool) (payload : Option Fields)
    (error : Option String) (timestamp : ℚ) (sessionId : String) (generation : Generation) :
    Fields :=
  [("v", .str "1"), ("node_id", .str nodeId), ("request_id", .str requestId),
    ("status", .str (if ok then "ok" else "error")),
    ("payload", payload.elim .null .dict), ("error", error.elim .null .str),
    ("ts", .float (.finite timestamp)), ("session_id", .str sessionId)] ++
  (match generation with
    | some g => [("connection_generation", .str g)]
    | none => [])

/-- Source: `remote/wire_protocol.py`, `sign_response`, with the clock reading of its caller.
Kind: D -/
def signResponse (request : RemoteRequest) (secret sessionId : String) (generation : Generation)
    (ok : Bool) (payload : Option Fields) (error : Option String) : Svc H SignedResponse := do
  let now ← Svc.clock
  let sig ← Prog.ofExcept (cfg.codec.signature secret (responseFields cfg.nodeId.value
    request.requestId ok payload error now sessionId generation))
  return ⟨cfg.nodeId.value, request.requestId, ok, payload, error, now, sessionId, generation, sig⟩

/-- Source: `remote/service.py`, `_caller_from_json`.  Kind: D -/
def callerFromJson (envelope : Value) : Option NodeId :=
  match envelope with
  | .dict fields =>
      match getField "caller_node_id" fields with
      | some (.str caller) => (NodeId.new caller).toOption
      | _ => none
  | _ => none

/-- What `handle` remembers of the ACL at its start. -/
structure GrantSnapshot where
  /-- The caller's grant, in grant mode. -/
  grant : Option PeerGrant
  /-- The version of the ACL. -/
  version : ℕ

/-- The first critical section of `handle`.  Source: `remote/service.py`, `handle`.  Kind: D -/
def grantSnapshot (caller : Option NodeId) : Svc H GrantSnapshot :=
  Svc.read .grantSnapshot fun s =>
    if s.auth.grantMode then
      match caller with
      | none => .error (authError "request caller identity is required")
      | some caller =>
          match s.auth.grants.get? caller with
          | none => .error (authError "request caller identity is unknown")
          | some grant =>
              if grant.expired s.clock then
                .error (authError "request caller grant has expired")
              else .ok ⟨some grant, s.auth.grantVersion⟩
    else .ok ⟨none, s.auth.grantVersion⟩

/-- Source: `remote/service.py`, `_assert_grant_snapshot_current`.  Kind: D -/
def assertGrantSnapshotCurrent (snapshot : GrantSnapshot) : Svc H Unit :=
  Svc.read .grantCheck fun s =>
    if snapshot.version ≠ s.auth.grantVersion then
      .error ⟨.remoteAuthorization, "caller permission changed"⟩
    else if snapshot.grant.any fun g => g.expired s.clock then
      .error ⟨.remoteAuthorization, "caller grant has expired"⟩
    else .ok ()

/-- The scan for the caller's cluster grant on this node; every candidate's expiry is compared
with a clock reading of its own.
Source: `remote/service.py`, `_authorize_request`.  Kind: D -/
def findClusterGrant (caller : NodeId) : List CapabilityGrant → Svc H (Option CapabilityGrant)
  | [] => return none
  | item :: rest =>
      if item.subject = caller ∧ item.target = cfg.nodeId then do
        let now ← Svc.clock
        if now < item.expiresAt then return some item
        else findClusterGrant caller rest
      else findClusterGrant caller rest

/-- The permissions that count: a cluster grant only narrows. -/
def effectivePermissions (base : Finset NodePermission) (clusterGrant : Option CapabilityGrant) :
    Finset NodePermission :=
  match clusterGrant with
  | none => base
  | some g => base ∩ g.permissions

/-- The caller's cluster grant on this node, if any; only a named caller has one. -/
def clusterGrantOf (request : RemoteRequest) : Svc H (Option CapabilityGrant) :=
  match request.callerNodeId with
  | none => return none
  | some caller => do
      let grants ← Svc.read .clusterGrants fun s => .ok s.auth.clusterCapabilityGrants
      findClusterGrant cfg caller grants

/-- `_surface_registry.authorize(...)`, with its `PermissionError` as an authorization error.
Source: `remote/service.py`, `_authorize_request`.  Kind: D -/
def surfaceCheck (request : RemoteRequest) (clusterGrant : Option CapabilityGrant) :
    Svc H Unit :=
  match cfg.surfaceAuthorize with
  | none => throw ⟨.remoteUnavailable, "surface sharing is unavailable"⟩
  | some authorize =>
      Svc.read .surfaceCheck fun s =>
        match authorize request clusterGrant s.view with
        | .error e =>
            .error (if e.kind = .permission then ⟨.remoteAuthorization, e.message⟩ else e)
        | .ok () => .ok ()

/-- The surface part of `_authorize_request`.
Source: `remote/service.py`, `_authorize_request`.  Kind: D -/
def authorizeSurface (op : Op) (request : RemoteRequest) (clusterGrant : Option CapabilityGrant) :
    Svc H Unit :=
  if op.isSurface then do
    Prog.ofExcept (cfg.codec.validateOperationParams request.op request.params)
    raiseIf request.callerNodeId.isNone
      ⟨.remoteAuthorization, "caller identity required for surface requests"⟩
    surfaceCheck cfg request clusterGrant
  else return

/-- Source: `remote/service.py`, `_authorize_request`.  Kind: D -/
def authorizeRequest (request : RemoteRequest) (grant : Option PeerGrant) :
    Svc H (Option CapabilityGrant) := do
  match Op.ofString? request.op with
  | none => throw (protocolError ("unknown operation: " ++ request.op))
  | some op =>
      raiseIf (op.capability ∉ cfg.capabilities)
        ⟨.remoteAuthorization, "node is not authorised for " ++ request.op⟩
      let clusterGrant ← clusterGrantOf cfg request
      let base := grant.elim cfg.permissions PeerGrant.permissions
      let permissions := effectivePermissions base clusterGrant
      raiseIf (clusterGrant.isSome ∧ permissions = ∅)
        ⟨.remoteAuthorization, "cluster capability grant has no Pair permission overlap"⟩
      raiseIf (op.permission ∉ permissions)
        ⟨.remoteAuthorization, "caller lacks permission for " ++ request.op⟩
      authorizeSurface cfg op request clusterGrant
      return clusterGrant

/-- `str(value)` of an optional field. -/
def textOf (value : Option Value) : String :=
  match value with
  | none => "None"
  | some (.str s) => s
  | some v => cfg.str v

/-- The comparisons of `_verify_role_fence` with an installed fence.
Source: `remote/service.py`, `_verify_role_fence`.  Kind: D -/
def checkRoleFence (request : RemoteRequest) (fence : Fence) : Except PyError Unit := do
  raiseIf (fence.clusterId.any fun id =>
      (getField "cluster_id" request.params).bind Value.asStr? ≠ some id)
    ⟨.remoteAuthorization, "cluster identity is invalid"⟩
  raiseIf (fence.coordinatorEpoch.any fun epoch =>
      !(getField "epoch" request.params).any (Value.equalsInt epoch))
    ⟨.remoteAuthorization, "coordinator epoch is stale"⟩
  match fence.fencingToken with
  | none => return
  | some token =>
      let same ← compareDigest (textOf cfg (getField "fencing_token" request.params)) token
      raiseIf (!same) ⟨.remoteAuthorization, "coordinator fencing token is stale"⟩

/-- Source: `remote/service.py`, `_verify_role_fence`.  Kind: D -/
def verifyRoleFence (request : RemoteRequest) : Svc H Unit :=
  Svc.read .fence fun s => checkRoleFence cfg request s.auth.fence

/-- `_verify_role_fence(request)` of role operations. -/
def verifyFenceOfRole (request : RemoteRequest) : Svc H Unit :=
  if isRoleOp request.op then verifyRoleFence cfg request else return

/-- Source: `remote/session.py`, `assert_current`, with its clock reading.  Kind: D -/
def assertSessionCurrent (sessionId : String) (generation : Generation) : Svc H Unit := do
  let now ← Svc.read .sessionClock fun s => .ok s.sessionClock
  Prog.call (.assertCurrent sessionId generation now) fun s =>
    (s.sessions.assertCurrent sessionId generation now).1

/-! ## Dispatch -/

/-- Enter a call and run the callable behind it. -/
def invoke {α : Type} (call : Call) (handler : Handler H α) : Svc H α := do
  Prog.call (.enter call) fun _ => .ok ()
  Svc.callHost handler

/-- `except PermissionError as error: raise RemoteAuthorizationError(str(error))`. -/
def permissionAsAuthorization {α : Type} (p : Svc H α) : Svc H α := do
  match ← p.attempt with
  | .ok a => return a
  | .error e =>
      throw (if e.kind = .permission then ⟨.remoteAuthorization, e.message⟩ else e)

/-- The processes of a validated process action. -/
def processRefs (params : Fields) : List (ℤ × ℚ) :=
  match getField "processes" params with
  | some (.list items) => items.filterMap fun item =>
      match item with
      | .dict fields =>
          match (getField "pid" fields).bind Value.asInt?,
            ((getField "create_time" fields).getD .null).finite? with
          | some pid, .ok (some t) => some (pid, t)
          | _, _ => none
      | _ => none
  | _ => []

/-- The caller has a dashboard share, when one is required.
Source: `remote/service.py`, `_solve`.  Kind: D -/
def requireDashboardShare (request : RemoteRequest) : Svc H Unit :=
  if cfg.requireDashboardShare then
    Svc.read .dashboardShares fun s =>
      if request.callerNodeId.any s.dashboardShares.contains then .ok ()
      else .error ⟨.remoteAuthorization, "dashboard share is not active"⟩
  else return

/-- An expired dashboard share is dropped.  Source: `remote/service.py`, `_solve`.  Kind: D -/
def expireDashboardShare (caller : NodeId) : Svc H Unit := do
  let expiry ← Svc.read .dashboardShares fun s => .ok (s.dashboardShares.get? caller)
  match expiry with
  | none => return
  | some expiry =>
      let now ← Svc.clock
      if expiry ≤ now then
        Prog.call (.dropDashboardShare caller) fun _ => .ok ()
        throw ⟨.remoteAuthorization, "dashboard share has expired"⟩
      else return

/-- The `dashboard_snapshot` branch of `_solve`.  Source: `remote/service.py`, `_solve`.  Kind: D -/
def solveDashboard (request : RemoteRequest) : Svc H Fields := do
  requireDashboardShare cfg request
  match request.callerNodeId with
  | none => pure ()
  | some caller => expireDashboardShare caller
  let snapshot ← invoke .dashboardSnapshot cfg.dashboardSnapshot
  return [("snapshot", snapshot)]

/-- The surface branch of `_solve`.
Source: `surfaces/provider.py`, `dispatch_surface_request`.  Kind: D -/
def solveSurface (op : Op) (request : RemoteRequest) (clusterGrant : Option CapabilityGrant) :
    Svc H Fields := do
  match request.callerNodeId with
  | none => throw ⟨.remoteAuthorization, "caller identity required for surface requests"⟩
  | some caller =>
      raiseIf cfg.surfaceAuthorize.isNone ⟨.remoteUnavailable, "surface sharing is unavailable"⟩
      Prog.ofExcept (cfg.codec.validateSurfaceOperationParams op request.params)
      raiseIf (clusterGrant.any fun g => g.subject ≠ caller || g.target ≠ request.nodeId)
        ⟨.remoteAuthorization, "cluster authorization context is invalid"⟩
      let result ← invoke (.surface request clusterGrant) (cfg.surfaceDispatch request clusterGrant)
      return [("result", result)]

/-- The process branch of `_solve`.  Source: `remote/service.py`, `_solve`.  Kind: D -/
def solveProcess (request : RemoteRequest) (action : ProcessActionKind) : Svc H Fields := do
  raiseIf (!cfg.isOnline) ⟨.remoteUnavailable, "target is offline"⟩
  match cfg.processManager with
  | none => throw ⟨.remoteExecution, "process actions are unavailable"⟩
  | some manager =>
      let termination : ProcessTerminationRequest :=
        ⟨cfg.nodeId, processRefs request.params, action⟩
      invoke (.processAction termination) (manager termination)

/-- `sorted(capability.value for capability in self._capabilities)`. -/
def capabilityNames : List Value :=
  (if .readState ∈ cfg.capabilities then [.str "read_state"] else []) ++
    (if .remoteManagement ∈ cfg.capabilities then [.str "remote_management"] else [])

/-- The `hello` branch of `_solve`.  Source: `remote/service.py`, `_solve`.  Kind: D -/
def helloPayload : Fields :=
  [("ok", .bool true), ("node_id", .str cfg.nodeId.value),
    ("identity_fingerprint", .str cfg.identityFingerprint),
    ("transport_fingerprint", cfg.transportFingerprint.elim .null .str),
    ("root_public_key", cfg.rootPublicKey.elim .null .str),
    ("transport_generation", cfg.transportGeneration.elim .null .int),
    ("transport_proof", cfg.transportProof.elim .null .str),
    ("protocol_version", .str "1"), ("app_version", .str cfg.appVersion),
    ("capabilities", .list (capabilityNames cfg))]

/-- The dispatch of `_solve`, after authorization and parameter checks.
Source: `remote/service.py`, `_solve`.  Kind: D -/
def dispatch (op : Op) (request : RemoteRequest) (clusterGrant : Option CapabilityGrant) :
    Svc H Fields := do
  if op.isRole then
    match cfg.roleHandler with
    | none => throw ⟨.remoteUnavailable, "role operations are unavailable"⟩
    | some handler => invoke (.role request) (handler request)
  else if op.isSurface then solveSurface cfg op request clusterGrant
  else
    match op with
    | .revokeSelf =>
        match request.callerNodeId, cfg.trustRevokeHandler with
        | none, _ =>
            throw ⟨.remoteAuthorization, "caller identity required for self-revocation"⟩
        | some _, none => throw ⟨.remoteUnavailable, "trust revocation is unavailable"⟩
        | some caller, some handler => invoke (.trustRevoke caller) (handler caller)
    | .capabilityRequest =>
        match request.callerNodeId, cfg.capabilityShare with
        | none, _ =>
            throw ⟨.remoteAuthorization, "caller identity required for capability requests"⟩
        | some _, none => throw ⟨.remoteUnavailable, "capability sharing is unavailable"⟩
        | some caller, some share =>
            let capability := textOf cfg (getField "capability" request.params)
            let params := match getField "params" request.params with
              | some (.dict fields) => fields
              | _ => []
            let result ← permissionAsAuthorization
              (invoke (.capability caller capability params) (share caller capability params))
            return [("result", result)]
    | .hello => return helloPayload cfg
    | .dashboardSnapshot => solveDashboard cfg request
    | .componentSummary =>
        let key := textOf cfg (getField "key" request.params)
        let resource ← invoke (.componentSummary key) (cfg.componentSummary key)
        return [("node_id", .str cfg.nodeId.value), ("resource", resource)]
    | .processCandidates =>
        let processes ← invoke .processCandidates cfg.processCandidates
        return [("processes", processes)]
    | .processRequestQuit => solveProcess cfg request .requestQuit
    | .processForceQuit => solveProcess cfg request .forceQuit
    | .storageCandidates =>
        let files ← invoke .storageCandidates cfg.storageCandidates
        return [("files", files)]
    | _ => throw (protocolError ("unknown operation: " ++ request.op))

/-- Source: `remote/service.py`, `_solve`.  Kind: D -/
def solveRequest (request : RemoteRequest) (grant : Option PeerGrant) : Svc H Fields := do
  let clusterGrant ← authorizeRequest cfg request grant
  Prog.ofExcept (cfg.codec.validateOperationParams request.op request.params)
  match Op.ofString? request.op with
  | none => throw (protocolError ("unknown operation: " ++ request.op))
  | some op => dispatch cfg op request clusterGrant

/-- The closure `solve` of `handle`.  Source: `remote/service.py`, `handle`.  Kind: D -/
def solve (request : RemoteRequest) (snapshot : GrantSnapshot) (sessionId : String)
    (generation : Generation) : Svc H Fields := do
  assertGrantSnapshotCurrent snapshot
  let result ← solveRequest cfg request snapshot.grant
  assertSessionCurrent sessionId generation
  assertGrantSnapshotCurrent snapshot
  return result

/-- The second half of `IdempotencyCache.run`: execute as owner, or take what the owner got.
Source: `remote/wire_protocol.py`, `IdempotencyCache.run`.  Kind: D -/
def idempotencyTurn (operation : Svc H Fields) : IdemTurn → Svc H Fields
  | .refused e => throw e
  | .waiter id =>
      Prog.call (.idemAwait id) fun s =>
        match s.idempotency.object id with
        | some entry => IdempotencyCache.outcome entry
        | none => .error ⟨.remoteExecution, "idempotency result is unavailable"⟩
  | .owner id => do
      match ← operation.attempt with
      | .error e =>
          Prog.call (.idemFail id e) fun _ => .ok ()
          throw e
      | .ok result =>
          Prog.call (.idemComplete id result) fun s =>
            match s.storeFault with
            | some e => .error e
            | none => .ok result

/-- Source: `remote/wire_protocol.py`, `IdempotencyCache.run`.  Kind: D -/
def idempotencyRun (key : IdemKey) (fingerprint : String) (operation : Svc H Fields) :
    Svc H Fields := do
  let now ← Svc.clock
  let turn ← Prog.call (.idemEnter key fingerprint now) fun s =>
    .ok (s.idempotency.enter cfg.idempotencyTtl cfg.idempotencyMaxEntries key fingerprint now).1
  idempotencyTurn operation turn

/-! ## The boundary -/

/-- `(caller, request_id)` of a request. -/
def cacheKey (request : RemoteRequest) : IdemKey := (request.owner, request.requestId)

/-- `json.dumps({"op": ..., "params": ...}, sort_keys=True, ...)`. -/
def fingerprint (request : RemoteRequest) : String :=
  cfg.codec.canonical (.dict [("op", .str request.op), ("params", .dict request.params)])

/-- `replay_cache.check_and_record(...)` on the service's cache, or on a new one with the default
bounds.  Source: `remote/service.py`, `handle`.  Kind: D -/
def checkReplay (newCache : Bool) (key : ReplayKey) (now : ℚ) : Svc H Bool :=
  if newCache then return (ReplayCache.empty.checkAndRecord 300 4096 key now).1
  else Prog.call (.replay key now) fun s =>
    .ok (s.replay.checkAndRecord cfg.replayTtl cfg.replayMaxEntries key now).1

/-- Source: `remote/wire_protocol.py`, `verify_request`, with the service's replay cache or, on the
retry path, a new one.  Kind: D -/
def verifyRequest (envelope : Value) (secret : String) (newCache : Bool) :
    Svc H RemoteRequest := do
  let checked ← Prog.ofExcept (cfg.codec.checkEnvelope envelope secret)
  let now ← Svc.clock
  Prog.ofExcept (checked.checkFreshness now cfg.freshnessSeconds)
  let request ← Prog.ofExcept checked.checkIdentity
  let key : ReplayKey := toLex (checked.nodeId, toLex (checked.requestId, checked.nonce))
  let accepted ← checkReplay cfg newCache key now
  raiseIf (!accepted) (authError "request has been replayed")
  return request

/-- `envelope.get("op")` names an operation with a known safety. -/
def knownOperation (envelope : Value) : Bool :=
  match envelope with
  | .dict fields =>
      ((getField "op" fields).bind Value.asStr?).any fun op => (Op.ofString? op).isSome
  | _ => false

/-- `verify_request` with the retry of a replayed envelope: what protects an operation from a
second execution is the idempotency cache.
Source: `remote/service.py`, `handle`.  Kind: D -/
def verifyOrRetry (envelope : Value) (secret : String) : Svc H RemoteRequest := do
  match ← (verifyRequest cfg envelope secret false).attempt with
  | .ok request => return request
  | .error e =>
      if e.kind.isRemoteAuth && containsText "replayed" e.message && knownOperation envelope then
        verifyRequest cfg envelope secret true
      else throw e

/-- Everything but a read goes through the idempotency cache.
Source: `remote/service.py`, `handle`.  Kind: D -/
def runOperation (request : RemoteRequest) (operation : Svc H Fields) : Svc H Fields :=
  if isIdempotentOp request.op then
    idempotencyRun cfg (cacheKey request) (fingerprint cfg request) operation
  else operation

/-- The body of `handle`'s `try`.  Source: `remote/service.py`, `handle`.  Kind: D -/
def execute (request : RemoteRequest) (snapshot : GrantSnapshot) (sessionId : String)
    (generation : Generation) : Svc H Fields := do
  assertGrantSnapshotCurrent snapshot
  let _ ← authorizeRequest cfg request snapshot.grant
  let payload ← runOperation cfg request (solve cfg request snapshot sessionId generation)
  verifyFenceOfRole cfg request
  assertSessionCurrent sessionId generation
  assertGrantSnapshotCurrent snapshot
  let _ ← authorizeRequest cfg request snapshot.grant
  return payload

/-- The stable text of an error that is answered; `none` for one that is raised.
Source: `remote/service.py`, the `except` clauses of `handle`.  Kind: D -/
def errorText (e : PyError) : Option String :=
  if e.kind = .remoteAuthorization ∨ e.kind = .permission ∨ e.kind = .roleAuthorization then
    some (if containsText "not authorised" e.message then "capability_unavailable"
      else "permission_denied")
  else if e.kind = .remoteUnavailable then some "target_offline"
  else if e.kind.isRemoteProtocol then none
  else some "execution_failed"

/-- `trust_revoke_commit` of a self-revocation.  Source: `remote/service.py`, `handle`.  Kind: D -/
def commitRevocation (request : RemoteRequest) : Svc H Unit :=
  match cfg.trustRevokeCommit with
  | some commit => if request.op = "revoke_self" then Svc.callHost commit else return
  | none => return

/-- The rest of `handle` once the operation is over.  Source: `remote/service.py`, `handle`.
Kind: D -/
def respond (request : RemoteRequest) (secret sessionId : String) (generation : Generation)
    (outcome : Except PyError Fields) : Svc H SignedResponse := do
  match outcome with
  | .error e =>
      match errorText e with
      | none => throw e
      | some text => signResponse cfg request secret sessionId generation false none (some text)
  | .ok payload =>
      commitRevocation cfg request
      if Value.encodableFields payload then
        signResponse cfg request secret sessionId generation true (some payload) none
      else
        signResponse cfg request secret sessionId generation false none (some "execution_failed")

/-- What `handle` knows once a request is authenticated. -/
structure Admission where
  /-- The verified request. -/
  request : RemoteRequest
  /-- The ACL at the start of the call. -/
  snapshot : GrantSnapshot
  /-- The credential of the exchange. -/
  secret : String
  /-- The logical session. -/
  sessionId : String

/-- Source: `remote/session.py`, `authenticate`, with its clock reading.  Kind: D -/
def authenticateSession (request : RemoteRequest) (generation : Generation) : Svc H String := do
  let now ← Svc.read .sessionClock fun s => .ok s.sessionClock
  Prog.call (.authenticate request generation now) fun s =>
    (s.sessions.authenticate cfg.sessions request generation now).1

/-- `handle` up to the operation.  Source: `remote/service.py`, `RemoteService.handle`.  Kind: D -/
def admitRequest (text : String) (generation : Generation) : Svc H Admission := do
  match cfg.codec.loads text with
  | .error e =>
      throw (if e.kind.isValueError || e.kind = .type
        then protocolError "envelope is not valid JSON" else e)
  | .ok envelope =>
      let snapshot ← grantSnapshot (callerFromJson envelope)
      let secret := snapshot.grant.elim cfg.secret PeerGrant.secret
      let request ← verifyOrRetry cfg envelope secret
      raiseIf (cfg.expectedCallerId.any fun expected => request.callerNodeId ≠ some expected)
        (authError "request caller identity is invalid")
      raiseIf (request.nodeId ≠ cfg.nodeId) (authError "request target identity is invalid")
      let sessionId ← authenticateSession cfg request generation
      verifyFenceOfRole cfg request
      return ⟨request, snapshot, secret, sessionId⟩

/-- Source: `remote/service.py`, `RemoteService.handle`.  Kind: D -/
def handle (text : String) (generation : Generation) : Svc H SignedResponse := do
  let a ← admitRequest cfg text generation
  let outcome ← (execute cfg a.request a.snapshot a.sessionId generation).attempt
  respond cfg a.request a.secret a.sessionId generation outcome

end service

end ExpraConnect
