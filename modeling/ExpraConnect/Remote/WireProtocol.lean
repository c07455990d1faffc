import ExpraConnect.Base
import ExpraConnect.Lib.Dict
import Mathlib.Data.List.Sort
import Mathlib.Data.Prod.Lex
import Mathlib.Data.String.Basic

/-!
# Envelopes, operations and the two request caches

`remote/wire_protocol.py` and `surfaces/protocol.py`.

* `Op`: the operation names of `OP_REQUIRED_CAPABILITY`, with the tables `capability`, `safety`,
  `isRole`, `isSurface`, `takesNoParams`; an operation on the wire is an arbitrary text and the
  tables are consulted through `Op.ofString?`.
* `Codec`: the parts of the standard library that only their contracts matter of (JSON texts,
  HMAC, Unicode classes).
* `Codec.checkEnvelope`, `checkFreshness`, `checkIdentity`: the checks of `verify_request`, in the
  order of the source, between which it reads the clock and asks the replay cache.
* `validateOperationParams`.
* `ReplayCache` and `IdempotencyCache`, each operation being what one critical section of its
  lock does.
-/

namespace ExpraConnect

open ExpraConnect.Lib

/-! ## Operations -/

/-- The operations with a required capability.
Source: `remote/wire_protocol.py`, `OP_REQUIRED_CAPABILITY`.  Kind: D -/
inductive Op where
  | hello | ping | echo | demoReadState | dashboardSnapshot | componentSummary
  | processCandidates | storageCandidates | processRequestQuit | processForceQuit | revokeSelf
  | consumeInvite | assignRole | renewCoordinatorLease | revokeMember | pauseWorker
  | resumeWorker | revokeWorker | removeJob | removeConnection | grantCapabilities
  | revokeCapabilities | syncCapabilityGrant | workerSnapshot | standbyBatch
  | capabilityRequest | surfaceRead | surfaceReview | surfaceAction
  deriving DecidableEq

namespace Op

/-- The name of an operation on the wire. -/
def value : Op → String
  | hello => "hello"
  | ping => "ping"
  | echo => "echo"
  | demoReadState => "demo.read_state"
  | dashboardSnapshot => "dashboard_snapshot"
  | componentSummary => "component_summary"
  | processCandidates => "process_candidates"
  | storageCandidates => "storage_candidates"
  | processRequestQuit => "process_request_quit"
  | processForceQuit => "process_force_quit"
  | revokeSelf => "revoke_self"
  | consumeInvite => "consume_invite"
  | assignRole => "assign_role"
  | renewCoordinatorLease => "renew_coordinator_lease"
  | revokeMember => "revoke_member"
  | pauseWorker => "pause_worker"
  | resumeWorker => "resume_worker"
  | revokeWorker => "revoke_worker"
  | removeJob => "remove_job"
  | removeConnection => "remove_connection"
  | grantCapabilities => "grant_capabilities"
  | revokeCapabilities => "revoke_capabilities"
  | syncCapabilityGrant => "sync_capability_grant"
  | workerSnapshot => "worker_snapshot"
  | standbyBatch => "standby_batch"
  | capabilityRequest => "capability_request"
  | surfaceRead => "surface_read"
  | surfaceReview => "surface_review"
  | surfaceAction => "surface_action"

/-- Every operation. -/
def all : List Op :=
  [hello, ping, echo, demoReadState, dashboardSnapshot, componentSummary, processCandidates,
    storageCandidates, processRequestQuit, processForceQuit, revokeSelf, consumeInvite,
    assignRole, renewCoordinatorLease, revokeMember, pauseWorker, resumeWorker, revokeWorker,
    removeJob, removeConnection, grantCapabilities, revokeCapabilities, syncCapabilityGrant,
    workerSnapshot, standbyBatch, capabilityRequest, surfaceRead, surfaceReview, surfaceAction]

/-- The operation a text names. -/
def ofString? (text : String) : Option Op := all.find? fun op => op.value = text

/-- The text of an operation names it.  Kind: L -/
theorem ofString?_value (op : Op) : ofString? op.value = some op := by
  cases op <;> decide +kernel

/-- Source: `remote/wire_protocol.py`, `OP_REQUIRED_CAPABILITY`.  Kind: D -/
def capability : Op → NodeCapability
  | hello | ping | echo | demoReadState | dashboardSnapshot | componentSummary
  | processCandidates | storageCandidates | revokeSelf | capabilityRequest | surfaceRead
  | surfaceReview => .readState
  | _ => .remoteManagement

/-- Source: `remote/wire_protocol.py`, `OP_REQUIRED_PERMISSION`.  Kind: D -/
def permission (op : Op) : NodePermission := op.capability.permission

/-- Source: `remote/wire_protocol.py`, `ROLE_OPERATIONS`.  Kind: D -/
def isRole : Op → Bool
  | consumeInvite | assignRole | renewCoordinatorLease | revokeMember | pauseWorker
  | resumeWorker | revokeWorker | removeJob | removeConnection | grantCapabilities
  | revokeCapabilities | syncCapabilityGrant | workerSnapshot | standbyBatch => true
  | _ => false

/-- Source: `surfaces/protocol.py`, `SURFACE_OPERATIONS`.  Kind: D -/
def isSurface : Op → Bool
  | surfaceRead | surfaceReview | surfaceAction => true
  | _ => false

/-- Source: `remote/wire_protocol.py`, `NO_PARAM_OPERATIONS`.  Kind: D -/
def takesNoParams : Op → Bool
  | hello | ping | echo | demoReadState | dashboardSnapshot | processCandidates
  | storageCandidates | revokeSelf => true
  | _ => false

end Op

/-- Source: `remote/wire_protocol.py`, the values of `OPERATION_SAFETY`.  Kind: D -/
inductive Safety where
  | read | retrySafe | unsafeOnce
  deriving DecidableEq

/-- Source: `remote/wire_protocol.py`, `OPERATION_SAFETY`.  Kind: D -/
def Op.safety (op : Op) : Safety :=
  match op with
  | .processForceQuit | .surfaceAction => .unsafeOnce
  | .processRequestQuit | .revokeSelf => .retrySafe
  | op => if op.isRole then .retrySafe else .read

/-- `request.op in ROLE_OPERATIONS`. -/
def isRoleOp (op : String) : Bool := (Op.ofString? op).any Op.isRole

/-- `OPERATION_SAFETY.get(op) != "read"`: an unknown operation is not a read either. -/
def isIdempotentOp (op : String) : Bool := !((Op.ofString? op).any fun o => o.safety = .read)

/-! ## Requests -/

/-- Target-owned authorization grant for one authenticated caller.
Source: `remote/wire_protocol.py`, `PeerGrant`.  Kind: D -/
structure PeerGrant where
  /-- The caller. -/
  callerNodeId : NodeId
  /-- The credential it signs with. -/
  secret : String
  /-- What it may do. -/
  permissions : Finset NodePermission
  /-- When the grant ends, if it does. -/
  expiresAt : Option ℚ
  deriving DecidableEq

/-- `grant.expires_at is not None and now >= grant.expires_at`. -/
def PeerGrant.expired (g : PeerGrant) (now : ℚ) : Bool := g.expiresAt.any (· ≤ now)

/-- One verified request.  Source: `remote/wire_protocol.py`, `RemoteRequest`.  Kind: D -/
structure RemoteRequest where
  /-- The node it is addressed to. -/
  nodeId : NodeId
  /-- The node that sent it. -/
  callerNodeId : Option NodeId
  /-- The operation. -/
  op : String
  /-- Its parameters. -/
  params : Fields
  /-- The caller's id of the request. -/
  requestId : String
  /-- The nonce of this delivery. -/
  nonce : String
  /-- When it was signed. -/
  timestamp : ℚ
  /-- The logical session it continues. -/
  sessionId : Option String
  /-- Whether it moves the session to its connection. -/
  resume : Bool
  /-- The connection generation that was signed along. -/
  connectionGeneration : Option String

/-- The text the session registry and the caches know the sender by. -/
def RemoteRequest.owner (r : RemoteRequest) : String :=
  match r.callerNodeId with
  | some caller => caller.value
  | none => r.nodeId.value

/-- What the code uses of the standard library's text functions. -/
structure Codec where
  /-- `json.loads(text)`. -/
  loads : String → Except PyError Value
  /-- `json.dumps(value, sort_keys=True, separators=(",", ":"))`. -/
  canonical : Value → String
  /-- `len(json.dumps(value, separators=(",", ":")))`. -/
  compactLength : Value → ℕ
  /-- `hmac.new(secret, text, sha256).hexdigest()`. -/
  hmac : String → String → String
  /-- `character.isalnum()`. -/
  isAlnum : Char → Bool
  /-- `character.isspace()`. -/
  isSpace : Char → Bool

/-- `MAX_IDENTIFIER_LENGTH`. -/
def maxIdentifierLength : ℕ := 128

/-- `MAX_ENVELOPE_BYTES`. -/
def maxEnvelopeBytes : ℕ := 8 * 1024 * 1024

/-- The fields an envelope may have. -/
def requestFields : List String :=
  ["v", "node_id", "caller_node_id", "op", "params", "request_id", "nonce", "ts", "sig",
    "session_id", "resume", "connection_generation"]

/-- An envelope whose fields have their types, before freshness, identities and replay. -/
structure CheckedEnvelope where
  /-- `node_id` -/
  nodeId : String
  /-- `caller_node_id` -/
  callerNodeId : Option String
  /-- `op` -/
  op : String
  /-- `params` -/
  params : Fields
  /-- `request_id` -/
  requestId : String
  /-- `nonce` -/
  nonce : String
  /-- `session_id` -/
  sessionId : Option String
  /-- `resume` -/
  resume : Bool
  /-- `connection_generation` -/
  connectionGeneration : Option String
  /-- `ts` -/
  timestamp : ℚ

namespace Codec

variable (C : Codec)

/-- Source: `remote/wire_protocol.py`, `_valid_identifier`.  Kind: D -/
def validIdentifier (text : String) : Bool :=
  decide (1 ≤ text.length ∧ text.length ≤ maxIdentifierLength) &&
    text.toList.all fun c => C.isAlnum c || c == '.' || c == '_' || c == ':' || c == '-'

/-- Source: `remote/wire_protocol.py`, `_signature`.  Kind: D -/
def signature (secret : String) (fields : Fields) : Except PyError String :=
  if Value.encodableFields fields then .ok (C.hmac secret (C.canonical (.dict fields)))
  else .error ⟨.value, "Out of range float values are not JSON compliant"⟩

/-- Source: `remote/wire_protocol.py`, `_verify_signature`.  Kind: D -/
def verifySignature (signature secret : String) (fields : Fields) (kind : String) :
    Except PyError Unit := do
  match C.signature secret fields with
  | .error _ => throw ⟨.remoteProtocol, kind ++ " contains invalid JSON values"⟩
  | .ok expected =>
      let same ← compareDigest signature expected
      raiseIf (!same) ⟨.remoteAuth, kind ++ " signature is invalid"⟩

/-- `isinstance(value, str)` and a further test on the text, else the error. -/
def requireStr (value : Option Value) (test : String → Bool) (e : PyError) :
    Except PyError String :=
  match value with
  | some (.str s) => if test s then .ok s else .error e
  | _ => .error e

/-- An optional field: absent or `null`, or a text that passes the test. -/
def optionalStr (value : Option Value) (test : String → Bool) (e : PyError) :
    Except PyError (Option String) :=
  match value with
  | none => .ok none
  | some .null => .ok none
  | some (.str s) => if test s then .ok (some s) else .error e
  | some _ => .error e

/-- `not isinstance(params, dict)`. -/
def requireDict (value : Option Value) (e : PyError) : Except PyError Fields :=
  match value with
  | some (.dict fields) => .ok fields
  | _ => .error e

/-- `envelope.get("resume", False)`, a Boolean. -/
def requireResume (value : Option Value) (sessionId : Option String) : Except PyError Bool :=
  match value with
  | none => .ok false
  | some (.bool false) => .ok false
  | some (.bool true) =>
      if sessionId.isNone then .error ⟨.remoteAuth, "request resume is invalid"⟩ else .ok true
  | some _ => .error ⟨.remoteAuth, "request resume is invalid"⟩

/-- `verify_request` up to the clock reading.
Source: `remote/wire_protocol.py`, `verify_request`.  Kind: D -/
def checkEnvelope (envelope : Value) (secret : String) : Except PyError CheckedEnvelope := do
  match envelope with
  | .dict fields =>
      raiseIf ((getField "v" fields).bind Value.asStr? ≠ some "1")
        ⟨.remoteProtocol, "unsupported remote protocol version"⟩
      raiseIf (!(fields.all fun p => p.1 ∈ requestFields) ∨ (getField "sig" fields).isNone)
        ⟨.remoteProtocol, "request envelope fields are invalid"⟩
      let signature ← requireStr (getField "sig" fields) (fun _ => true)
        ⟨.remoteAuth, "request is missing its signature"⟩
      C.verifySignature signature secret (fields.filter fun p => p.1 ≠ "sig") "request"
      let nodeId ← requireStr (getField "node_id" fields) (· ≠ "")
        ⟨.remoteAuth, "request node_id is invalid"⟩
      let callerNodeId ← optionalStr (getField "caller_node_id" fields) (· ≠ "")
        ⟨.remoteAuth, "request caller_node_id is invalid"⟩
      let op ← requireStr (getField "op" fields) (fun _ => true)
        ⟨.remoteProtocol, "request op must be a string"⟩
      let params ← requireDict (getField "params" fields)
        ⟨.remoteProtocol, "request params must be an object"⟩
      let requestId ← requireStr (getField "request_id" fields) C.validIdentifier
        ⟨.remoteAuth, "request_id is invalid"⟩
      let nonce ← requireStr (getField "nonce" fields) C.validIdentifier
        ⟨.remoteAuth, "request nonce is invalid"⟩
      let sessionId ← optionalStr (getField "session_id" fields) C.validIdentifier
        ⟨.remoteAuth, "session_id is invalid"⟩
      let resume ← requireResume (getField "resume" fields) sessionId
      let connectionGeneration ← optionalStr (getField "connection_generation" fields)
        C.validIdentifier ⟨.remoteAuth, "connection generation is invalid"⟩
      match ← ((getField "ts" fields).getD .null).finite? with
      | none => throw ⟨.remoteAuth, "request timestamp is invalid"⟩
      | some timestamp =>
          return ⟨nodeId, callerNodeId, op, params, requestId, nonce, sessionId, resume,
            connectionGeneration, timestamp⟩
  | _ => throw ⟨.remoteProtocol, "request envelope must be an object"⟩

end Codec

/-- A required text is a text.  Kind: L -/
theorem requireStr_eq_ok {v : Option Value} {test : String → Bool} {e : PyError} {s : String}
    (h : Codec.requireStr v test e = .ok s) : v = some (.str s) := by
  unfold Codec.requireStr at h
  split at h
  · split at h
    · cases h
      rfl
    · cases h
  · cases h

/-- The freshness window of `verify_request`.
Source: `remote/wire_protocol.py`, `verify_request`.  Kind: D -/
def CheckedEnvelope.checkFreshness (e : CheckedEnvelope) (now freshnessSeconds : ℚ) :
    Except PyError Unit :=
  raiseIf (freshnessSeconds < now - e.timestamp ∨ now - e.timestamp < -freshnessSeconds)
    ⟨.remoteAuth, "request timestamp is outside the freshness window"⟩

/-- The identities of `verify_request`, as the request it returns.
Source: `remote/wire_protocol.py`, `verify_request`.  Kind: D -/
def CheckedEnvelope.checkIdentity (e : CheckedEnvelope) : Except PyError RemoteRequest :=
  let invalid : PyError := ⟨.remoteAuth, "request identity is invalid"⟩
  match NodeId.new e.nodeId, e.callerNodeId.mapM NodeId.new with
  | .ok nodeId, .ok caller =>
      .ok ⟨nodeId, caller, e.op, e.params, e.requestId, e.nonce, e.timestamp, e.sessionId,
        e.resume, e.connectionGeneration⟩
  | _, _ => .error invalid

/-! ## Operation parameters -/

/-- Source: `surfaces/protocol.py`, `MAX_SURFACE_PARAM_DEPTH`.  Kind: D -/
def maxSurfaceParamDepth : ℕ := 32

mutual

/-- Source: `surfaces/protocol.py`, `_json_safe`, at a nesting depth.  Kind: D -/
def jsonSafe (depth : ℕ) : Value → Bool
  | .null | .str _ | .bool _ | .int _ => decide (depth ≤ maxSurfaceParamDepth)
  | .float (.finite _) => decide (depth ≤ maxSurfaceParamDepth)
  | .float _ => false
  | .foreign _ => false
  | .list items => decide (depth ≤ maxSurfaceParamDepth) && jsonSafeList (depth + 1) items
  | .dict fields => decide (depth ≤ maxSurfaceParamDepth) && jsonSafeFields (depth + 1) fields

/-- `jsonSafe` of every item. -/
def jsonSafeList (depth : ℕ) : List Value → Bool
  | [] => true
  | v :: rest => jsonSafe depth v && jsonSafeList depth rest

/-- `jsonSafe` of every field. -/
def jsonSafeFields (depth : ℕ) : List (String × Value) → Bool
  | [] => true
  | (_, v) :: rest => jsonSafe depth v && jsonSafeFields depth rest

end

/-- A `RemoteProtocolError`. -/
def protocolError (message : String) : PyError := ⟨.remoteProtocol, message⟩

namespace Codec

variable (C : Codec)

/-- A text of at most 128 characters that is not only white space. -/
def validLabel (value : Option Value) : Bool :=
  match value with
  | some (.str s) => !(s.toList.all C.isSpace) && decide (s.length ≤ 128)
  | _ => false

/-- Source: `surfaces/protocol.py`, `validate_surface_operation_params`.  Kind: D -/
def validateSurfaceOperationParams (op : Op) (params : Fields) : Except PyError Unit := do
  let required := if op = .surfaceAction then ["surface_id", "action"] else ["surface_id"]
  raiseIf (!(params.all fun p => p.1 ∈ "params" :: required) ∨
      !(required.all fun k => hasField k params))
    (protocolError (op.value ++ " has unexpected or missing parameters"))
  raiseIf (hasField "surface_id" params ∧ !C.validLabel (getField "surface_id" params))
    (protocolError (op.value ++ " surface_id is invalid"))
  raiseIf (hasField "action" params ∧ !C.validLabel (getField "action" params))
    (protocolError (op.value ++ " action is invalid"))
  match (getField "params" params).getD (.dict []) with
  | .dict sectionParams =>
      raiseIf (!jsonSafe 0 (.dict sectionParams))
        (protocolError (op.value ++ " params must be JSON-safe"))
  | _ => throw (protocolError (op.value ++ " params must be JSON-safe"))

/-- A process reference: a natural `pid` and a finite, non-negative `create_time`.
Source: `remote/wire_protocol.py`, `validate_operation_params`.  Kind: D -/
def validateProcess (item : Value) : Except PyError Unit := do
  match item with
  | .dict fields =>
      raiseIf (!((getField "pid" fields).bind Value.asInt?).any (0 ≤ ·))
        (protocolError "process reference pid is invalid")
      match ← ((getField "create_time" fields).getD .null).finite? with
      | some t => raiseIf (t < 0) (protocolError "process reference create_time is required")
      | none => throw (protocolError "process reference create_time is required")
  | _ => throw (protocolError "process reference must be an object")

/-- The parameters of the two process actions.
Source: `remote/wire_protocol.py`, `validate_operation_params`.  Kind: D -/
def validateProcessParams (op : Op) (params : Fields) : Except PyError Unit := do
  match getField "processes" params with
  | some (.list (item :: rest)) =>
      let _ ← (item :: rest).mapM validateProcess
      let expected := if op = .processRequestQuit then "request_quit" else "force_quit"
      raiseIf ((getField "action" params).bind Value.asStr? ≠ some expected)
        (protocolError "process action is not allowlisted")
      raiseIf (!hasExactly ["processes", "action"] params)
        (protocolError (op.value ++ " has unexpected parameters"))
  | _ => throw (protocolError (op.value ++ " requires process references"))

/-- `_KNOWN_PERMISSION_VALUES`. -/
def isKnownPermission (value : Value) : Bool :=
  match value with
  | .str s => (NodePermission.new s).toBool
  | _ => false

/-- The parameters of the capability-grant operations.
Source: `remote/wire_protocol.py`, `validate_operation_params`.  Kind: D -/
def validateGrantParams (op : Op) (params : Fields) : Except PyError Unit := do
  let fence := ["cluster_id", "epoch", "fencing_token", "subject_node_id", "target_node_id"]
  let expected := if op = .revokeCapabilities then fence
    else fence ++ ["permissions", "expires_at"]
  raiseIf (!hasExactly expected params) (protocolError (op.value ++ " has unexpected parameters"))
  let _ ← requireStr (getField "subject_node_id" params) (· ≠ "")
    (protocolError (op.value ++ " target identity is invalid"))
  let _ ← requireStr (getField "target_node_id" params) (· ≠ "")
    (protocolError (op.value ++ " target identity is invalid"))
  if op = .revokeCapabilities then return
  else
    let invalid := protocolError (if op = .grantCapabilities
      then "capability grant permissions are invalid" else op.value ++ " permissions are invalid")
    match getField "permissions" params with
    | some (.list permissions) =>
        raiseIf ((op = .grantCapabilities ∧ permissions.isEmpty) ∨
          !(permissions.all isKnownPermission)) invalid
        let expiry ← ((getField "expires_at" params).getD .null).finite?
        raiseIf expiry.isNone (protocolError (op.value ++ " expiry is invalid"))
    | _ => throw invalid

/-- The parameters of a role operation.
Source: `remote/wire_protocol.py`, `validate_operation_params`.  Kind: D -/
def validateRoleParams (op : Op) (params : Fields) : Except PyError Unit := do
  raiseIf (!(["cluster_id", "epoch", "fencing_token"].all fun k => hasField k params))
    (protocolError (op.value ++ " requires cluster fencing fields"))
  let _ ← requireStr (getField "cluster_id" params) (· ≠ "")
    (protocolError "cluster_id is invalid")
  raiseIf (!((getField "epoch" params).bind Value.asInt?).any (0 ≤ ·))
    (protocolError "cluster epoch is invalid")
  let _ ← requireStr (getField "fencing_token" params) (· ≠ "")
    (protocolError "fencing token is invalid")
  let target := getField "target_node_id" params
  match op with
  | .renewCoordinatorLease => return
  | .consumeInvite =>
      let _ ← requireStr (getField "token" params) (fun _ => true)
        (protocolError "invite token is invalid")
  | .assignRole =>
      let _ ← requireStr target (fun _ => true) (protocolError "role target is invalid")
      match getField "roles" params with
      | some (.list (role :: rest)) =>
          raiseIf (!((role :: rest).all fun r => r.asStr?.isSome))
            (protocolError "role list is invalid")
      | _ => throw (protocolError "role list is invalid")
  | .pauseWorker | .resumeWorker | .revokeWorker | .revokeMember =>
      let _ ← requireStr target (fun _ => true) (protocolError "role target is invalid")
  | .removeConnection | .removeJob =>
      let _ ← requireStr target (· ≠ "") (protocolError "role target is invalid")
  | .grantCapabilities | .revokeCapabilities | .syncCapabilityGrant =>
      validateGrantParams op params
  | _ =>
      match getField "payload" params with
      | some (.dict payload) =>
          raiseIf (!Value.encodableFields payload)
            (protocolError "snapshot payload is not JSON-safe")
          raiseIf (maxEnvelopeBytes / 2 < C.compactLength (.dict payload))
            (protocolError "snapshot payload is too large")
      | _ => throw (protocolError "snapshot payload is invalid")

/-- Source: `remote/wire_protocol.py`, `validate_operation_params`.  Kind: D -/
def validateOperationParams (opText : String) (params : Fields) : Except PyError Unit := do
  match Op.ofString? opText with
  | none => throw (protocolError ("unknown operation: " ++ opText))
  | some op =>
      if op.takesNoParams then
        raiseIf (!params.isEmpty) (protocolError (op.value ++ " accepts no parameters"))
      else if op.isSurface then C.validateSurfaceOperationParams op params
      else if op.isRole then C.validateRoleParams op params
      else
        match op with
        | .capabilityRequest =>
            raiseIf (!C.validLabel (getField "capability" params))
              (protocolError "capability_request requires a capability")
            let _ ← requireDict ((getField "params" params).getD (.dict []))
              (protocolError "capability_request params must be an object")
            raiseIf (!hasExactly ["capability", "params"] params)
              (protocolError "capability_request has unexpected parameters")
        | .componentSummary =>
            let _ ← requireStr (getField "key" params) (· ≠ "")
              (protocolError "component_summary requires a key")
        | _ => validateProcessParams op params

end Codec

/-! ## The replay cache -/

/-- What identifies one delivery: `(node_id, request_id, nonce)`. -/
abbrev ReplayKey := String ×ₗ String ×ₗ String

/-- Bounded, expiry-pruned record of seen requests; `expirations` is the heap of
`(seen_at, key)`, smallest first.
Source: `remote/wire_protocol.py`, `ReplayCache`, without the request-id table that
`RemoteService` never fills.  Kind: D -/
structure ReplayCache where
  /-- When each key was seen. -/
  seen : Dict ReplayKey ℚ
  /-- The heap of the seen keys by time. -/
  expirations : List (ℚ ×ₗ ReplayKey)

namespace ReplayCache

/-- `ReplayCache()`. -/
def empty : ReplayCache := ⟨Dict.empty, []⟩

/-- The loop of `_prune`. -/
def pruneLoop (ttl now : ℚ) : List (ℚ ×ₗ ReplayKey) → Dict ReplayKey ℚ → ReplayCache
  | [], seen => ⟨seen, []⟩
  | item :: rest, seen =>
      if ttl < now - (ofLex item).1 then pruneLoop ttl now rest (seen.erase (ofLex item).2)
      else ⟨seen, item :: rest⟩

/-- Source: `remote/wire_protocol.py`, `ReplayCache._prune`.  Kind: D -/
def prune (ttl now : ℚ) (c : ReplayCache) : ReplayCache := pruneLoop ttl now c.expirations c.seen

/-- Source: `remote/wire_protocol.py`, `ReplayCache.check_and_record`.  Kind: D -/
def checkAndRecord (ttl : ℚ) (maxEntries : ℕ) (key : ReplayKey) (seenAt : ℚ) (c : ReplayCache) :
    Bool × ReplayCache :=
  let c := c.prune ttl seenAt
  if c.seen.contains key then (false, c)
  else if maxEntries ≤ c.seen.size then (false, c)
  else (true, ⟨c.seen.insert key seenAt,
    c.expirations.orderedInsert (· ≤ ·) (toLex (seenAt, key))⟩)

end ReplayCache

/-! ## The idempotency cache -/

/-- `(caller, request_id)`. -/
abbrev IdemKey := String × String

/-- One request id's execution.  Source: `remote/wire_protocol.py`, `_IdempotencyEntry`.  Kind: D -/
structure IdempotencyEntry where
  /-- The operation and parameters it stands for. -/
  fingerprint : String
  /-- When it may be forgotten. -/
  expiresAt : ℚ
  /-- The event is set. -/
  signalled : Bool
  /-- What the operation returned. -/
  result : Option Fields
  /-- What it raised. -/
  error : Option PyError
  /-- The operation has ended. -/
  complete : Bool

/-- A new entry, whose operation is still to run. -/
def IdempotencyEntry.pending (fingerprint : String) (expiresAt : ℚ) : IdempotencyEntry :=
  ⟨fingerprint, expiresAt, false, none, none, false⟩

/-- One item of the stored document.  Source: `remote/wire_protocol.py`,
`IdempotencyCache._save_state`.  Kind: D -/
structure StoredEntry where
  /-- `key` -/
  key : IdemKey
  /-- `fingerprint` -/
  fingerprint : String
  /-- `result` -/
  result : Fields
  /-- `remaining` -/
  remaining : ℚ

/-- The entries of one service process.  An entry object lives as long as somebody refers to it, so
a waiter keeps its entry after the table forgot it: `table` maps keys to positions in `objects`,
which only grows.  A cache without a state store is one whose `store` nobody reads.
Source: `remote/wire_protocol.py`, `IdempotencyCache`.  Kind: D -/
structure IdempotencyCache where
  /-- `_entries` -/
  table : Dict IdemKey ℕ
  /-- Every entry object ever made. -/
  objects : List IdempotencyEntry
  /-- The document of the state store. -/
  store : List StoredEntry

/-- What `run` finds on entry. -/
inductive IdemTurn where
  /-- Nobody executed the request yet: execute it. -/
  | owner (id : ℕ)
  /-- Somebody does or did: wait for it. -/
  | waiter (id : ℕ)
  /-- The request cannot be served. -/
  | refused (e : PyError)
  deriving DecidableEq

namespace IdempotencyCache

/-- The entry that a position refers to. -/
def object (c : IdempotencyCache) (id : ℕ) : Option IdempotencyEntry := c.objects[id]?

/-- Source: `remote/wire_protocol.py`, `IdempotencyCache._prune`.  Kind: D -/
def prune (now : ℚ) (c : IdempotencyCache) : IdempotencyCache :=
  { c with table := c.table.filterEntries fun p =>
      !((c.object p.2).any fun e => e.complete && decide (e.expiresAt ≤ now)) }

/-- The first critical section of `run`.
Source: `remote/wire_protocol.py`, `IdempotencyCache.run`.  Kind: D -/
def enter (ttl : ℚ) (maxEntries : ℕ) (key : IdemKey) (fingerprint : String) (now : ℚ)
    (c : IdempotencyCache) : IdemTurn × IdempotencyCache :=
  let c := c.prune now
  match c.table.get? key with
  | none =>
      if maxEntries ≤ c.table.size then (.refused ⟨.remoteAuth, "idempotency cache is full"⟩, c)
      else (.owner c.objects.length, { c with
        table := c.table.insert key c.objects.length
        objects := c.objects ++ [.pending fingerprint (now + ttl)] })
  | some id =>
      if (c.object id).any fun e => e.fingerprint ≠ fingerprint then
        (.refused ⟨.idempotencyCollision, "request ID was reused"⟩, c)
      else (.waiter id, c)

/-- What a waiter gets once the event is set.
Source: `remote/wire_protocol.py`, `IdempotencyCache.run`.  Kind: D -/
def outcome (e : IdempotencyEntry) : Except PyError Fields :=
  match e.error with
  | some err => .error err
  | none =>
      match e.result with
      | some result => .ok result
      | none => .error ⟨.remoteExecution, "idempotency result is unavailable"⟩

/-- Write to one entry object. -/
def modifyObject (id : ℕ) (f : IdempotencyEntry → IdempotencyEntry) (c : IdempotencyCache) :
    IdempotencyCache :=
  { c with objects := c.objects.modify id f }

/-- The critical section of a failed operation.
Source: `remote/wire_protocol.py`, `IdempotencyCache.run`.  Kind: D -/
def fail (id : ℕ) (e : PyError) (c : IdempotencyCache) : IdempotencyCache :=
  c.modifyObject id fun o => { o with error := some e, complete := true, signalled := true }

/-- The document that `_save_state` writes.
Source: `remote/wire_protocol.py`, `IdempotencyCache._save_state`.  Kind: D -/
def savedState (now : ℚ) (c : IdempotencyCache) : List StoredEntry :=
  c.table.entries.filterMap fun p =>
    match c.object p.2 with
    | none => none
    | some e =>
        match e.result with
        | none => none
        | some result =>
            if e.complete ∧ now < e.expiresAt then
              some ⟨p.1, e.fingerprint, result, e.expiresAt - now⟩
            else none

/-- The critical section of an operation that returned; `fault` is what `state_store.save` raises,
if it does.
Source: `remote/wire_protocol.py`, `IdempotencyCache.run`.  Kind: D -/
def complete (id : ℕ) (result : Fields) (now : ℚ) (fault : Option PyError)
    (c : IdempotencyCache) : IdempotencyCache :=
  let c := c.modifyObject id fun o => { o with result := some result, complete := true }
  match fault with
  | some e => c.modifyObject id fun o => { o with error := some e, signalled := true }
  | none =>
      { c with store := c.savedState now }.modifyObject id fun o => { o with signalled := true }

/-- The loop of `_load_state` over the stored items; every loaded item reads the clock.
Source: `remote/wire_protocol.py`, `IdempotencyCache._load_state`.  Kind: D -/
def loadLoop (maxEntries : ℕ) (readings : ℕ → ℚ) :
    List StoredEntry → IdempotencyCache → IdempotencyCache
  | [], c => c
  | item :: rest, c =>
      if item.remaining ≤ 0 then loadLoop maxEntries readings rest c
      else if maxEntries ≤ c.table.size then c
      else loadLoop maxEntries readings rest { c with
        table := c.table.insert item.key c.objects.length
        objects := c.objects ++ [⟨item.fingerprint,
          readings c.objects.length + item.remaining, true, some item.result, none, true⟩] }

/-- `IdempotencyCache(state_store=...)` over a stored document.
Source: `remote/wire_protocol.py`, `IdempotencyCache.__init__`.  Kind: D -/
def load (maxEntries : ℕ) (readings : ℕ → ℚ) (store : List StoredEntry) : IdempotencyCache :=
  loadLoop maxEntries readings store ⟨Dict.empty, [], store⟩

end IdempotencyCache

end ExpraConnect
