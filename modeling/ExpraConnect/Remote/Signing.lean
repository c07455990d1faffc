import ExpraConnect.Remote.CanonicalJson
import ExpraConnect.Remote.ServiceFacts

/-!
# Signed envelopes

`sign_request`, `sign_response` and the two verifiers of `remote/wire_protocol.py`, over JSON texts.

* `Codec.signRequest`, `Codec.signResponse`: the fields in the order of the source, an optional one
  only if it is given;
* `Codec.verifyRequest`, `Codec.verifyResponse`; `verifyRequest_of_ends`: what the service verifies
  between its other calls is verified so;
* `signFields_roundTrip`: what is signed is read from its JSON text as it was, and its signature
  verifies;
* `verifyRequest_signed`, `verifyResponse_signed`: and it is returned field by field;
* `verifyRequest_eq_ok`, `verifyResponse_eq_ok`, `not_both`: what is accepted is authentic, and as
  one of the two.
-/

namespace ExpraConnect

open ExpraConnect.Lib

/-! ## Signing -/

/-- A field that is there if it has a value. -/
def optionalField (key : String) (o : Option Value) : Fields := o.elim [] fun v => [(key, v)]

/-- What `sign_request` signs.  Source: `remote/wire_protocol.py`, `sign_request`.  Kind: D -/
structure RequestArgs where
  /-- `node_id` -/
  nodeId : String
  /-- `op` -/
  op : String
  /-- `params` -/
  params : Fields
  /-- `request_id` -/
  requestId : String
  /-- `nonce` -/
  nonce : String
  /-- `timestamp` -/
  timestamp : ℚ
  /-- `caller_node_id` -/
  callerNodeId : Option String
  /-- `session_id` -/
  sessionId : Option String
  /-- `resume` -/
  resume : Bool
  /-- `connection_generation` -/
  connectionGeneration : Option String

/-- The fields of a request, without the signature; only a session has a `resume`.
Source: `remote/wire_protocol.py`, `sign_request`.  Kind: D -/
def RequestArgs.fields (a : RequestArgs) : Fields :=
  [("v", .str "1"), ("node_id", .str a.nodeId), ("op", .str a.op), ("params", .dict a.params),
    ("request_id", .str a.requestId), ("nonce", .str a.nonce),
    ("ts", .float (.finite a.timestamp))] ++
  (optionalField "caller_node_id" (a.callerNodeId.map .str) ++
  (optionalField "session_id" (a.sessionId.map .str) ++
  (optionalField "resume" (a.sessionId.map fun _ => .bool a.resume) ++
  optionalField "connection_generation" (a.connectionGeneration.map .str))))

/-- What `sign_response` signs.  Source: `remote/wire_protocol.py`, `sign_response`.  Kind: D -/
structure ResponseArgs where
  /-- `node_id` -/
  nodeId : String
  /-- `request_id` -/
  requestId : String
  /-- `status` -/
  status : String
  /-- `timestamp` -/
  timestamp : ℚ
  /-- `payload` -/
  payload : Option Fields
  /-- `error` -/
  error : Option String
  /-- `session_id` -/
  sessionId : Option String
  /-- `connection_generation` -/
  connectionGeneration : Option String

/-- The fields of a response, without the signature.
Source: `remote/wire_protocol.py`, `sign_response`.  Kind: D -/
def ResponseArgs.fields (a : ResponseArgs) : Fields :=
  [("v", .str "1"), ("node_id", .str a.nodeId), ("request_id", .str a.requestId),
    ("status", .str a.status), ("payload", a.payload.elim .null .dict),
    ("error", a.error.elim .null .str), ("ts", .float (.finite a.timestamp))] ++
  (optionalField "session_id" (a.sessionId.map .str) ++
  optionalField "connection_generation" (a.connectionGeneration.map .str))

namespace Codec

variable (C : Codec)

/-- The envelope of some fields: the signature is appended. -/
def signFields (secret : String) (fields : Fields) : Except PyError Fields := do
  let sig ← C.signature secret fields
  return fields ++ [("sig", .str sig)]

/-- Source: `remote/wire_protocol.py`, `sign_request`.  Kind: D -/
def signRequest (secret : String) (a : RequestArgs) : Except PyError Fields :=
  C.signFields secret a.fields

/-- Source: `remote/wire_protocol.py`, `sign_response`.  Kind: D -/
def signResponse (secret : String) (a : ResponseArgs) : Except PyError Fields :=
  C.signFields secret a.fields

end Codec

/-! ## Verifying -/

/-- What the verifiers are called with beside the envelope. -/
structure Verifier where
  /-- `secret` -/
  secret : String
  /-- What `clock` reads. -/
  now : ℚ
  /-- `freshness_seconds` -/
  freshnessSeconds : ℚ
  /-- `ttl_seconds` of the replay cache. -/
  replayTtl : ℚ
  /-- `max_entries` of the replay cache. -/
  replayMaxEntries : ℕ

/-- One verified response.  Source: `remote/wire_protocol.py`, `RemoteResponse`.  Kind: D -/
structure RemoteResponse where
  /-- The node that sent it. -/
  nodeId : NodeId
  /-- The request it answers. -/
  requestId : String
  /-- `"ok"` or `"error"`. -/
  status : String
  /-- The result. -/
  payload : Option Fields
  /-- The text of the error. -/
  error : Option String
  /-- When it was signed. -/
  timestamp : ℚ
  /-- The logical session. -/
  sessionId : Option String
  /-- The connection generation that was signed along. -/
  connectionGeneration : Option String

/-- The fields a response may have. -/
def responseFieldNames : List String :=
  ["v", "node_id", "request_id", "status", "payload", "error", "ts", "sig", "session_id",
    "connection_generation"]

namespace Codec

variable (C : Codec)

/-- An optional field: absent or `null`, or a dictionary. -/
def optionalDict (value : Option Value) (e : PyError) : Except PyError (Option Fields) :=
  match value with
  | none => .ok none
  | some .null => .ok none
  | some (.dict fields) => .ok (some fields)
  | some _ => .error e

/-- Source: `remote/wire_protocol.py`, `verify_request`.  Kind: D -/
def verifyRequest (V : Verifier) (envelope : Value) : PyM ReplayCache RemoteRequest := do
  let checked ← PyM.ofExcept (C.checkEnvelope envelope V.secret)
  PyM.ofExcept (checked.checkFreshness V.now V.freshnessSeconds)
  let request ← PyM.ofExcept checked.checkIdentity
  let key : ReplayKey := toLex (checked.nodeId, toLex (checked.requestId, checked.nonce))
  let accepted := ((← get).checkAndRecord V.replayTtl V.replayMaxEntries key V.now).1
  modify fun c => (c.checkAndRecord V.replayTtl V.replayMaxEntries key V.now).2
  raiseIf (!accepted) ⟨.remoteAuth, "request has been replayed"⟩
  return request

/-- Source: `remote/wire_protocol.py`, `verify_response`.  Kind: D -/
def verifyResponse (V : Verifier) (envelope : Value) : Except PyError RemoteResponse := do
  match envelope with
  | .dict fields =>
      raiseIf ((getField "v" fields).bind Value.asStr? ≠ some "1")
        ⟨.remoteProtocol, "unsupported remote protocol version"⟩
      raiseIf (!(fields.all fun p => p.1 ∈ responseFieldNames) ∨ (getField "sig" fields).isNone)
        ⟨.remoteProtocol, "response envelope fields are invalid"⟩
      let signature ← requireStr (getField "sig" fields) (fun _ => true)
        ⟨.remoteAuth, "response is missing its signature"⟩
      C.verifySignature signature V.secret (fields.filter fun p => p.1 ≠ "sig") "response"
      let nodeId ← requireStr (getField "node_id" fields) (· ≠ "")
        ⟨.remoteAuth, "response identity fields are invalid"⟩
      let requestId ← requireStr (getField "request_id" fields) (· ≠ "")
        ⟨.remoteAuth, "response identity fields are invalid"⟩
      let status ← requireStr (getField "status" fields) (fun s => s = "ok" ∨ s = "error")
        ⟨.remoteProtocol, "response status is invalid"⟩
      let payload ← optionalDict (getField "payload" fields)
        ⟨.remoteProtocol, "response payload must be an object or null"⟩
      let error ← optionalStr (getField "error" fields) (fun _ => true)
        ⟨.remoteProtocol, "response error must be a string or null"⟩
      let sessionId ← optionalStr (getField "session_id" fields) C.validIdentifier
        ⟨.remoteAuth, "response session_id is invalid"⟩
      let connectionGeneration ← optionalStr (getField "connection_generation" fields)
        C.validIdentifier ⟨.remoteAuth, "response connection generation is invalid"⟩
      match ← ((getField "ts" fields).getD .null).finite? with
      | none => throw ⟨.remoteAuth, "response timestamp is invalid"⟩
      | some timestamp =>
          raiseIf (V.freshnessSeconds < V.now - timestamp ∨
              V.now - timestamp < -V.freshnessSeconds)
            ⟨.remoteAuth, "response timestamp is outside the freshness window"⟩
          match NodeId.new nodeId with
          | .ok nodeId =>
              return ⟨nodeId, requestId, status, payload, error, timestamp, sessionId,
                connectionGeneration⟩
          | .error _ => throw ⟨.remoteAuth, "response identity is invalid"⟩
  | _ => throw ⟨.remoteProtocol, "response envelope must be an object"⟩

end Codec

/-! ## Admissible arguments -/

/-- Arguments of `sign_request` that the receiver accepts.  Kind: D -/
structure RequestArgs.Admissible (C : Codec) (limit : Option ℕ) (a : RequestArgs) : Prop where
  /-- `node_id` is a node id. -/
  nodeId : NodeId.Valid a.nodeId
  /-- So is `caller_node_id`, if there is one. -/
  callerNodeId : ∀ caller ∈ a.callerNodeId, NodeId.Valid caller
  /-- `params` is a JSON tree. -/
  params : (Value.dict a.params).JsonTree limit
  /-- `request_id` is an identifier. -/
  requestId : C.validIdentifier a.requestId = true
  /-- `nonce` is an identifier. -/
  nonce : C.validIdentifier a.nonce = true
  /-- So is `session_id`, if there is one. -/
  sessionId : ∀ session ∈ a.sessionId, C.validIdentifier session = true
  /-- Only a session is resumed. -/
  resume : a.resume = true → a.sessionId.isSome = true
  /-- `connection_generation` is an identifier, if there is one. -/
  connectionGeneration : ∀ generation ∈ a.connectionGeneration,
    C.validIdentifier generation = true

/-- Arguments of `sign_response` that the receiver accepts.  Kind: D -/
structure ResponseArgs.Admissible (C : Codec) (limit : Option ℕ) (a : ResponseArgs) : Prop where
  /-- `node_id` is a node id. -/
  nodeId : NodeId.Valid a.nodeId
  /-- `request_id` is something. -/
  requestId : a.requestId ≠ ""
  /-- `status` is one of the two. -/
  status : a.status = "ok" ∨ a.status = "error"
  /-- `payload` is a JSON tree, if there is one. -/
  payload : ∀ payload ∈ a.payload, (Value.dict payload).JsonTree limit
  /-- `session_id` is an identifier, if there is one. -/
  sessionId : ∀ session ∈ a.sessionId, C.validIdentifier session = true
  /-- So is `connection_generation`. -/
  connectionGeneration : ∀ generation ∈ a.connectionGeneration,
    C.validIdentifier generation = true

/-- What the replay cache knows the delivery by. -/
def RequestArgs.replayKey (a : RequestArgs) : ReplayKey :=
  toLex (a.nodeId, toLex (a.requestId, a.nonce))

/-- The request has exactly the signed fields. -/
structure RemoteRequest.Carries (r : RemoteRequest) (a : RequestArgs) : Prop where
  /-- `node_id` -/
  nodeId : r.nodeId.value = a.nodeId
  /-- `caller_node_id` -/
  callerNodeId : r.callerNodeId.map NodeId.value = a.callerNodeId
  /-- `op` -/
  op : r.op = a.op
  /-- `params` -/
  params : r.params = a.params
  /-- `request_id` -/
  requestId : r.requestId = a.requestId
  /-- `nonce` -/
  nonce : r.nonce = a.nonce
  /-- `timestamp` -/
  timestamp : r.timestamp = a.timestamp
  /-- `session_id` -/
  sessionId : r.sessionId = a.sessionId
  /-- `resume` -/
  resume : r.resume = a.resume
  /-- `connection_generation` -/
  connectionGeneration : r.connectionGeneration = a.connectionGeneration

/-- The response has exactly the signed fields. -/
structure RemoteResponse.Carries (r : RemoteResponse) (a : ResponseArgs) : Prop where
  /-- `node_id` -/
  nodeId : r.nodeId.value = a.nodeId
  /-- `request_id` -/
  requestId : r.requestId = a.requestId
  /-- `status` -/
  status : r.status = a.status
  /-- `payload` -/
  payload : r.payload = a.payload
  /-- `error` -/
  error : r.error = a.error
  /-- `timestamp` -/
  timestamp : r.timestamp = a.timestamp
  /-- `session_id` -/
  sessionId : r.sessionId = a.sessionId
  /-- `connection_generation` -/
  connectionGeneration : r.connectionGeneration = a.connectionGeneration

namespace Verifier

/-- The timestamp is inside of the freshness window. -/
def Fresh (V : Verifier) (timestamp : ℚ) : Prop :=
  V.now - timestamp ≤ V.freshnessSeconds ∧ -V.freshnessSeconds ≤ V.now - timestamp

/-- The replay cache does not know the delivery and has room for it. -/
def Takes (V : Verifier) (cache : ReplayCache) (key : ReplayKey) : Prop :=
  (cache.prune V.replayTtl V.now).seen.contains key = false ∧
    (cache.prune V.replayTtl V.now).seen.size < V.replayMaxEntries

end Verifier

/-! ## The signed fields -/

/-- An optional field is there if and only if it is given.  Kind: L -/
theorem getField_optionalField (key k : String) (o : Option Value) :
    getField key (optionalField k o) = if k = key then o else none := by
  cases o with
  | none =>
      show none = _
      rw [ite_self]
  | some v => rfl

/-- An optional field has one key.  Kind: L -/
theorem keys_optionalField (k : String) (o : Option Value) :
    ((optionalField k o).map Prod.fst).Sublist [k] := by
  cases o with
  | none => exact List.nil_sublist _
  | some v => exact List.Sublist.refl _

/-- An optional field of a JSON tree is one.  Kind: L -/
theorem jsonTree_optionalField {k : String} {limit : Option ℕ} {o : Option Value}
    (h : ∀ v ∈ o, v.JsonTree limit) :
    ∀ p ∈ optionalField k o, p.2.JsonTree limit := by
  cases o with
  | none => exact nofun
  | some v =>
      intro p hp
      rw [List.mem_singleton.mp hp]
      exact h v rfl

/-- An optional text is a JSON tree.  Kind: L -/
theorem jsonTree_optionalText {k : String} {limit : Option ℕ} {o : Option String} :
    ∀ p ∈ optionalField k (o.map .str), p.2.JsonTree limit := by
  refine jsonTree_optionalField fun v hv => ?_
  obtain ⟨s, -, rfl⟩ := Option.map_eq_some_iff.mp hv
  exact Value.jsonTree_str s

/-- The fields of a request, one by one.  Kind: L -/
theorem RequestArgs.getField_fields (a : RequestArgs) :
    getField "v" a.fields = some (.str "1") ∧
      getField "node_id" a.fields = some (.str a.nodeId) ∧
      getField "caller_node_id" a.fields = a.callerNodeId.map .str ∧
      getField "op" a.fields = some (.str a.op) ∧
      getField "params" a.fields = some (.dict a.params) ∧
      getField "request_id" a.fields = some (.str a.requestId) ∧
      getField "nonce" a.fields = some (.str a.nonce) ∧
      getField "session_id" a.fields = a.sessionId.map .str ∧
      getField "resume" a.fields = a.sessionId.map (fun _ => .bool a.resume) ∧
      getField "connection_generation" a.fields = a.connectionGeneration.map .str ∧
      getField "ts" a.fields = some (.float (.finite a.timestamp)) := by
  simp [RequestArgs.fields, getField_append, getField_optionalField, getField]

/-- The fields of a response, one by one.  Kind: L -/
theorem ResponseArgs.getField_fields (a : ResponseArgs) :
    getField "v" a.fields = some (.str "1") ∧
      getField "node_id" a.fields = some (.str a.nodeId) ∧
      getField "request_id" a.fields = some (.str a.requestId) ∧
      getField "status" a.fields = some (.str a.status) ∧
      getField "payload" a.fields = some (a.payload.elim .null .dict) ∧
      getField "error" a.fields = some (a.error.elim .null .str) ∧
      getField "session_id" a.fields = a.sessionId.map .str ∧
      getField "connection_generation" a.fields = a.connectionGeneration.map .str ∧
      getField "ts" a.fields = some (.float (.finite a.timestamp)) := by
  simp [ResponseArgs.fields, getField_append, getField_optionalField, getField]

/-- The keys of a request are those of an envelope but the signature, in one fixed order.
Kind: L -/
theorem RequestArgs.keys_fields (a : RequestArgs) :
    (a.fields.map Prod.fst).Sublist ["v", "node_id", "op", "params", "request_id", "nonce", "ts",
      "caller_node_id", "session_id", "resume", "connection_generation"] := by
  unfold RequestArgs.fields
  simp only [List.map_append]
  exact (List.Sublist.refl ["v", "node_id", "op", "params", "request_id", "nonce", "ts"]).append
    ((keys_optionalField _ _).append ((keys_optionalField _ _).append
      ((keys_optionalField _ _).append (keys_optionalField _ _))))

/-- The fields of a response, in the order they are written.  Kind: L -/
theorem ResponseArgs.keys_fields (a : ResponseArgs) :
    (a.fields.map Prod.fst).Sublist ["v", "node_id", "request_id", "status", "payload", "error",
      "ts", "session_id", "connection_generation"] := by
  unfold ResponseArgs.fields
  simp only [List.map_append]
  exact (List.Sublist.refl ["v", "node_id", "request_id", "status", "payload", "error",
    "ts"]).append ((keys_optionalField _ _).append (keys_optionalField _ _))

/-- A request has every field once.  Kind: L -/
theorem RequestArgs.keys_nodup (a : RequestArgs) : (a.fields.map Prod.fst).Nodup :=
  a.keys_fields.nodup (by decide)

/-- What is signed of a request has no signature.  Kind: L -/
theorem RequestArgs.sig_not_mem_keys (a : RequestArgs) : "sig" ∉ a.fields.map Prod.fst :=
  fun hmem => absurd (a.keys_fields.subset hmem) (by decide)

/-- A response has every field once.  Kind: L -/
theorem ResponseArgs.keys_nodup (a : ResponseArgs) : (a.fields.map Prod.fst).Nodup :=
  a.keys_fields.nodup (by decide)

/-- What is signed of a response has no signature.  Kind: L -/
theorem ResponseArgs.sig_not_mem_keys (a : ResponseArgs) : "sig" ∉ a.fields.map Prod.fst :=
  fun hmem => absurd (a.keys_fields.subset hmem) (by decide)

/-- The fields of an admissible request are JSON trees.  Kind: L -/
theorem RequestArgs.Admissible.jsonTree {C : Codec} {limit : Option ℕ} {a : RequestArgs}
    (h : a.Admissible C limit) :
    ∀ p ∈ a.fields, p.2.JsonTree limit := by
  intro p hp
  simp only [RequestArgs.fields, List.mem_append, List.mem_cons, List.not_mem_nil, or_false] at hp
  rcases hp with (rfl | rfl | rfl | rfl | rfl | rfl | rfl) | hp | hp | hp | hp
  · exact Value.jsonTree_str _
  · exact Value.jsonTree_str _
  · exact Value.jsonTree_str _
  · exact h.params
  · exact Value.jsonTree_str _
  · exact Value.jsonTree_str _
  · exact Value.jsonTree_finite _
  · exact jsonTree_optionalText p hp
  · exact jsonTree_optionalText p hp
  · refine jsonTree_optionalField ?_ p hp
    intro v hv
    obtain ⟨s, -, rfl⟩ := Option.map_eq_some_iff.mp hv
    exact Value.jsonTree_bool _
  · exact jsonTree_optionalText p hp

/-- The fields of an admissible response are JSON trees.  Kind: L -/
theorem ResponseArgs.Admissible.jsonTree {C : Codec} {limit : Option ℕ} {a : ResponseArgs}
    (h : a.Admissible C limit) :
    ∀ p ∈ a.fields, p.2.JsonTree limit := by
  intro p hp
  simp only [ResponseArgs.fields, List.mem_append, List.mem_cons, List.not_mem_nil, or_false] at hp
  rcases hp with (rfl | rfl | rfl | rfl | rfl | rfl | rfl) | hp | hp
  · exact Value.jsonTree_str _
  · exact Value.jsonTree_str _
  · exact Value.jsonTree_str _
  · exact Value.jsonTree_str _
  · cases hpayload : a.payload with
    | none => exact Value.jsonTree_null
    | some payload => exact h.payload payload hpayload
  · cases a.error with
    | none => exact Value.jsonTree_null
    | some text => exact Value.jsonTree_str text
  · exact Value.jsonTree_finite _
  · exact jsonTree_optionalText p hp
  · exact jsonTree_optionalText p hp

/-! ## A signed envelope -/

section signed

variable {C : Codec} {limit : Option ℕ} {secret : String} {fields : Fields} {sig : Value}

/-- The signature is added without touching the other fields.  Kind: L -/
theorem getField_signed {key : String} (h : "sig" ≠ key) :
    getField key (fields ++ [("sig", sig)]) = getField key fields := by
  rw [getField_append, getField_cons_of_ne h]
  exact Option.or_none

/-- The signature is read from where it was added.  Kind: L -/
theorem getField_sig (h : "sig" ∉ fields.map Prod.fst) :
    getField "sig" (fields ++ [("sig", sig)]) = some sig := by
  have hnone : getField "sig" fields = none :=
    getField_eq_none_of_not_mem fun p hp heq => h (heq ▸ List.mem_map_of_mem hp)
  rw [getField_append, hnone, Option.none_or, getField_cons_self]

/-- Without the signature, what was signed is left.  Kind: L -/
theorem filter_signed (h : "sig" ∉ fields.map Prod.fst) :
    ((fields ++ [("sig", sig)]).filter fun p => p.1 ≠ "sig") = fields := by
  have hfields : (fields.filter fun p => p.1 ≠ "sig") = fields := by
    refine List.filter_eq_self.mpr fun p hp => ?_
    have hne : p.1 ≠ "sig" := fun heq => h (heq ▸ List.mem_map_of_mem hp)
    simpa using hne
  rw [List.filter_append, hfields]
  exact List.append_nil fields

/-- A signed envelope has the allowed fields only.  Kind: L -/
theorem all_signed {names : List String} (hsub : ∀ k ∈ fields.map Prod.fst, k ∈ names)
    (hsig : "sig" ∈ names) :
    ((fields ++ [("sig", sig)]).all fun p => decide (p.1 ∈ names)) = true := by
  rw [List.all_eq_true]
  intro p hp
  rw [decide_eq_true_eq]
  rcases List.mem_append.mp hp with hmem | hmem
  · exact hsub _ (List.mem_map_of_mem hmem)
  · rw [List.mem_singleton.mp hmem]
    exact hsig

/-- Signed trees are a tree.  Kind: L -/
theorem jsonTree_signed {text : String} (h : ∀ p ∈ fields, p.2.JsonTree limit)
    (hkeys : (fields.map Prod.fst).Nodup) (hsig : "sig" ∉ fields.map Prod.fst) :
    (Value.dict (fields ++ [("sig", .str text)])).JsonTree limit := by
  refine Value.jsonTree_dict ?_ fun p hp => ?_
  · rw [List.map_append, List.nodup_append]
    refine ⟨hkeys, List.nodup_singleton _, ?_⟩
    rintro k hk k' hk' rfl
    rw [List.mem_singleton.mp hk'] at hk
    exact hsig hk
  · rcases List.mem_append.mp hp with hmem | hmem
    · exact h p hmem
    · rw [List.mem_singleton.mp hmem]
      exact Value.jsonTree_str text

/-- What is encodable is signed.  Kind: L -/
theorem signFields_eq_ok (h : Value.encodableFields fields = true) :
    C.signFields secret fields =
      .ok (fields ++ [("sig", .str (C.hmac secret (C.canonical (.dict fields))))]) := by
  unfold Codec.signFields Codec.signature
  rw [if_pos h]
  rfl

/-- The signature verifies with the same secret.  Kind: L -/
theorem verifySignature_signed (hascii : ∀ secret text, isAscii (C.hmac secret text) = true)
    (h : Value.encodableFields fields = true) (kind : String) :
    C.verifySignature (C.hmac secret (C.canonical (.dict fields))) secret fields kind = .ok () := by
  unfold Codec.verifySignature Codec.signature compareDigest
  rw [if_pos h]
  dsimp only
  rw [hascii, Bool.and_self, if_pos rfl, decide_eq_true rfl]
  rfl

/-- What is signed can be sent: it is read as it was written, and the signature verifies.
Kind: L -/
theorem signFields_roundTrip {N : FloatFormat PyFloat} {hmac : String → String → String}
    {isAlnum isSpace : Char → Bool} (hascii : ∀ secret text, isAscii (hmac secret text) = true)
    (h : ∀ p ∈ fields, p.2.JsonTree limit) (hkeys : (fields.map Prod.fst).Nodup)
    (hsig : "sig" ∉ fields.map Prod.fst) (secret : String) (spaced : Bool) :
    ∃ sig text, (jsonCodec N limit hmac isAlnum isSpace).signFields secret fields =
        .ok (fields ++ [("sig", .str sig)]) ∧
      dumps N limit spaced (.dict (fields ++ [("sig", .str sig)])) = .ok text ∧
      (jsonCodec N limit hmac isAlnum isSpace).loads text =
        .ok (.dict (fields ++ [("sig", .str sig)])) ∧
      ∀ kind, (jsonCodec N limit hmac isAlnum isSpace).verifySignature sig secret fields kind =
        .ok () := by
  have henc := (Value.jsonTree_dict hkeys h).encodable
  rw [Value.encodable] at henc
  obtain ⟨text, hdumps, hloads⟩ := loads_dumps (jsonTree_signed h hkeys hsig) spaced
  exact ⟨_, text, signFields_eq_ok henc, hdumps, hloads, verifySignature_signed hascii henc⟩

end signed

/-! ## What was signed is verified -/

section roundTrip

variable {C : Codec} {limit : Option ℕ} {V : Verifier} {sig : String}

/-- A text that passes its test.  Kind: L -/
theorem requireStr_str {test : String → Bool} {s : String} (h : test s = true) (e : PyError) :
    Codec.requireStr (some (.str s)) test e = .ok s := by
  show (if test s then Except.ok s else .error e) = .ok s
  rw [if_pos h]

/-- An optional text that passes its test.  Kind: L -/
theorem optionalStr_map {test : String → Bool} {o : Option String}
    (h : ∀ s ∈ o, test s = true) (e : PyError) :
    Codec.optionalStr (o.map .str) test e = .ok o := by
  cases o with
  | none => rfl
  | some s =>
      show (if test s then Except.ok (some s) else .error e) = .ok (some s)
      rw [if_pos (h s rfl)]

/-- An optional text that is written as `null` if it is missing.  Kind: L -/
theorem optionalStr_elim (o : Option String) (e : PyError) :
    Codec.optionalStr (some (o.elim .null .str)) (fun _ => true) e = .ok o := by
  cases o <;> rfl

/-- An optional object reads back.  Kind: L -/
theorem optionalDict_elim (o : Option Fields) (e : PyError) :
    Codec.optionalDict (some (o.elim .null .dict)) e = .ok o := by
  cases o <;> rfl

/-- A valid node id is not empty.  Kind: L -/
theorem NodeId.Valid.ne_empty {value : String} (h : NodeId.Valid value) :
    decide (value ≠ "") = true := decide_eq_true h.1

/-- The resume flag reads back where a session id goes with it.  Kind: L -/
theorem requireResume_signed {sessionId : Option String} {resume : Bool}
    (h : resume = true → sessionId.isSome = true) :
    Codec.requireResume (sessionId.map fun _ => .bool resume) sessionId = .ok resume := by
  cases sessionId with
  | none =>
      cases resume with
      | false => rfl
      | true => cases h rfl
  | some s => cases resume <;> rfl

/-- What the checks of the envelope leave of a signed request. -/
def RequestArgs.checked (a : RequestArgs) : CheckedEnvelope :=
  ⟨a.nodeId, a.callerNodeId, a.op, a.params, a.requestId, a.nonce, a.sessionId, a.resume,
    a.connectionGeneration, a.timestamp⟩

/-- A signed request passes the checks of its envelope.  Kind: L -/
theorem checkEnvelope_signed {a : RequestArgs} (ha : a.Admissible C limit)
    (hverify : C.verifySignature sig V.secret a.fields "request" = .ok ()) :
    C.checkEnvelope (.dict (a.fields ++ [("sig", .str sig)])) V.secret =
      .ok a.checked := by
  have hsig := a.sig_not_mem_keys
  have hnames : ∀ k ∈ a.fields.map Prod.fst, k ∈ requestFields := fun k hk =>
    (show _ ⊆ requestFields by decide) (a.keys_fields.subset hk)
  have hallowed := @all_signed a.fields (.str sig) _ hnames (by decide)
  have hget : ∀ {key}, "sig" ≠ key →
      getField key (a.fields ++ [("sig", .str sig)]) = getField key a.fields := getField_signed
  obtain ⟨hv, hnode, hcaller, hop, hparams, hrequest, hnonce, hsession, hresume, hgeneration,
    hts⟩ := a.getField_fields
  unfold Codec.checkEnvelope
  simp only [Except.bind_eq_ok, Except.raiseIf_eq_ok]
  refine ⟨(), ?_, (), ?_, sig, ?_, (), ?_, a.nodeId, ?_, a.callerNodeId, ?_, a.op, ?_, a.params, ?_,
    a.requestId, ?_, a.nonce, ?_, a.sessionId, ?_, a.resume, ?_, a.connectionGeneration, ?_,
    some a.timestamp, ?_, rfl⟩
  · rw [hget (by decide), hv]
    exact not_not.mpr rfl
  · rw [hallowed, getField_sig hsig]
    simp
  · rw [getField_sig hsig]
    exact requireStr_str rfl _
  · rw [filter_signed hsig]
    exact hverify
  · rw [hget (by decide), hnode]
    exact requireStr_str ha.nodeId.ne_empty _
  · rw [hget (by decide), hcaller]
    exact optionalStr_map (fun caller h => (ha.callerNodeId caller h).ne_empty) _
  · rw [hget (by decide), hop]
    exact requireStr_str rfl _
  · rw [hget (by decide), hparams]
    rfl
  · rw [hget (by decide), hrequest]
    exact requireStr_str ha.requestId _
  · rw [hget (by decide), hnonce]
    exact requireStr_str ha.nonce _
  · rw [hget (by decide), hsession]
    exact optionalStr_map ha.sessionId _
  · rw [hget (by decide), hresume]
    exact requireResume_signed ha.resume
  · rw [hget (by decide), hgeneration]
    exact optionalStr_map ha.connectionGeneration _
  · rw [hget (by decide), hts]
    rfl

/-- An optional valid id is accepted.  Kind: L -/
theorem mapM_nodeId {o : Option String} (h : ∀ value ∈ o, NodeId.Valid value) :
    ∃ n : Option NodeId, o.mapM NodeId.new = .ok n ∧ n.map NodeId.value = o := by
  cases o with
  | none => exact ⟨none, rfl, rfl⟩
  | some value =>
      refine ⟨some ⟨value, h value rfl⟩, ?_, rfl⟩
      show (NodeId.new value >>= fun n => pure (some n)) = _
      rw [NodeId.new, dif_pos (h value rfl)]
      rfl

/-- A delivery that the cache takes is accepted.  Kind: L -/
theorem checkAndRecord_of_takes {cache : ReplayCache} {key : ReplayKey} (h : V.Takes cache key) :
    (cache.checkAndRecord V.replayTtl V.replayMaxEntries key V.now).1 = true := by
  unfold ReplayCache.checkAndRecord
  dsimp only
  rw [h.1, if_neg Bool.false_ne_true, if_neg (Nat.not_le.mpr h.2)]

/-- The identity check accepts what was built, and returns it.  Kind: L -/
theorem checkIdentity_signed {a : RequestArgs} (ha : a.Admissible C limit) :
    ∃ r, a.checked.checkIdentity = .ok r ∧ r.Carries a := by
  obtain ⟨caller, hcaller, hvalue⟩ := mapM_nodeId ha.callerNodeId
  refine ⟨⟨⟨a.nodeId, ha.nodeId⟩, caller, a.op, a.params, a.requestId, a.nonce, a.timestamp,
    a.sessionId, a.resume, a.connectionGeneration⟩, ?_,
    ⟨rfl, hvalue, rfl, rfl, rfl, rfl, rfl, rfl, rfl, rfl⟩⟩
  unfold CheckedEnvelope.checkIdentity RequestArgs.checked
  dsimp only
  rw [NodeId.new, dif_pos ha.nodeId, hcaller]

/-- A request that passes every check is returned.  Kind: L -/
theorem verifyRequest_of_checks {envelope : Value} {checked : CheckedEnvelope}
    {request : RemoteRequest} {cache : ReplayCache}
    (hchecked : C.checkEnvelope envelope V.secret = .ok checked)
    (hfresh : checked.checkFreshness V.now V.freshnessSeconds = .ok ())
    (hid : checked.checkIdentity = .ok request)
    (htaken : (cache.checkAndRecord V.replayTtl V.replayMaxEntries
      (toLex (checked.nodeId, toLex (checked.requestId, checked.nonce))) V.now).1 = true) :
    ∃ cache', C.verifyRequest V envelope cache = .ok request cache' := by
  refine ⟨(cache.checkAndRecord V.replayTtl V.replayMaxEntries
    (toLex (checked.nodeId, toLex (checked.requestId, checked.nonce))) V.now).2, ?_⟩
  unfold Codec.verifyRequest
  simp only [PyM.ofExcept_bind_eq_ok, PyM.get_bind_eq_ok, PyM.modify_bind_eq_ok,
    PyM.raiseIf_bind_eq_ok, PyM.pure_eq_ok]
  refine ⟨checked, hchecked, (), hfresh, request, hid, ?_, rfl, rfl⟩
  rw [htaken]
  decide

/-- A signed request that is fresh is verified as what was signed.  Kind: L -/
theorem verifyRequest_signed {a : RequestArgs} (ha : a.Admissible C limit)
    (hverify : C.verifySignature sig V.secret a.fields "request" = .ok ())
    (hfresh : V.Fresh a.timestamp) {cache : ReplayCache} (hcache : V.Takes cache a.replayKey) :
    ∃ r cache', C.verifyRequest V (.dict (a.fields ++ [("sig", .str sig)])) cache = .ok r cache' ∧
      r.Carries a := by
  obtain ⟨r, hr, hcarries⟩ := checkIdentity_signed ha
  have hfreshness : a.checked.checkFreshness V.now V.freshnessSeconds = .ok () := by
    unfold CheckedEnvelope.checkFreshness
    rw [Except.raiseIf_eq_ok, not_or, not_lt, not_lt]
    exact hfresh
  obtain ⟨cache', hok⟩ := verifyRequest_of_checks (checkEnvelope_signed ha hverify) hfreshness hr
    (checkAndRecord_of_takes hcache)
  exact ⟨r, cache', hok, hcarries⟩

/-- A signed response that is fresh is verified as what was signed.  Kind: L -/
theorem verifyResponse_signed {a : ResponseArgs} (ha : a.Admissible C limit)
    (hverify : C.verifySignature sig V.secret a.fields "response" = .ok ())
    (hfresh : V.Fresh a.timestamp) :
    ∃ r, C.verifyResponse V (.dict (a.fields ++ [("sig", .str sig)])) = .ok r ∧ r.Carries a := by
  have hsig := a.sig_not_mem_keys
  have hnames : ∀ k ∈ a.fields.map Prod.fst, k ∈ responseFieldNames := fun k hk =>
    (show _ ⊆ responseFieldNames by decide) (a.keys_fields.subset hk)
  have hallowed := @all_signed a.fields (.str sig) _ hnames (by decide)
  have hget : ∀ {key}, "sig" ≠ key →
      getField key (a.fields ++ [("sig", .str sig)]) = getField key a.fields := getField_signed
  obtain ⟨hv, hnode, hrequest, hstatus, hpayload, herror, hsession, hgeneration, hts⟩ :=
    a.getField_fields
  refine ⟨⟨⟨a.nodeId, ha.nodeId⟩, a.requestId, a.status, a.payload, a.error, a.timestamp,
    a.sessionId, a.connectionGeneration⟩, ?_, ⟨rfl, rfl, rfl, rfl, rfl, rfl, rfl, rfl⟩⟩
  unfold Codec.verifyResponse
  simp only [Except.bind_eq_ok, Except.raiseIf_eq_ok]
  refine ⟨(), ?_, (), ?_, sig, ?_, (), ?_, a.nodeId, ?_, a.requestId, ?_, a.status, ?_, a.payload,
    ?_, a.error, ?_, a.sessionId, ?_, a.connectionGeneration, ?_, some a.timestamp, ?_, ?_⟩
  · rw [hget (by decide), hv]
    exact not_not.mpr rfl
  · rw [hallowed, getField_sig hsig]
    simp
  · rw [getField_sig hsig]
    exact requireStr_str rfl _
  · rw [filter_signed hsig]
    exact hverify
  · rw [hget (by decide), hnode]
    exact requireStr_str ha.nodeId.ne_empty _
  · rw [hget (by decide), hrequest]
    exact requireStr_str (decide_eq_true ha.requestId) _
  · rw [hget (by decide), hstatus]
    exact requireStr_str (decide_eq_true ha.status) _
  · rw [hget (by decide), hpayload]
    exact optionalDict_elim a.payload _
  · rw [hget (by decide), herror]
    exact optionalStr_elim a.error _
  · rw [hget (by decide), hsession]
    exact optionalStr_map ha.sessionId _
  · rw [hget (by decide), hgeneration]
    exact optionalStr_map ha.connectionGeneration _
  · rw [hget (by decide), hts]
    rfl
  · simp only [Except.bind_eq_ok, Except.raiseIf_eq_ok, not_or, not_lt]
    refine ⟨(), hfresh, ?_⟩
    rw [NodeId.new, dif_pos ha.nodeId]
    rfl

end roundTrip

/-! ## What an accepted signature fixes -/

section accepted

variable {C : Codec} {V : Verifier}

/-- The signature is that of all other fields.  Kind: D -/
structure Authentic (C : Codec) (secret : String) (fields : Fields) : Prop where
  /-- The other fields can be encoded. -/
  encodable : Value.encodableFields (fields.filter fun p => p.1 ≠ "sig") = true
  /-- It is their digest. -/
  sig : getField "sig" fields =
    some (.str (C.hmac secret (C.canonical (.dict (fields.filter fun p => p.1 ≠ "sig")))))

/-- An accepted signature was made of the rest of the envelope.  Kind: L -/
theorem authentic_of_verifySignature {fields : Fields} {secret sig kind : String} {u : Unit}
    (hsig : getField "sig" fields = some (.str sig))
    (h : C.verifySignature sig secret (fields.filter fun p => p.1 ≠ "sig") kind = .ok u) :
    Authentic C secret fields := by
  unfold Codec.verifySignature Codec.signature at h
  by_cases henc : Value.encodableFields (fields.filter fun p => p.1 ≠ "sig") = true
  · rw [if_pos henc] at h
    simp only [Except.bind_eq_ok, Except.raiseIf_eq_ok] at h
    obtain ⟨same, hsame, hno⟩ := h
    have htrue : same = true := by simpa using hno
    rw [htrue] at hsame
    exact ⟨henc, compareDigest_eq_true hsame ▸ hsig⟩
  · rw [if_neg henc] at h
    simp at h

/-- An accepted request is authentic and names an operation.  Kind: L -/
theorem verifyRequest_eq_ok {envelope : Value} {cache cache' : ReplayCache} {r : RemoteRequest}
    (h : C.verifyRequest V envelope cache = .ok r cache') :
    ∃ fields, envelope = .dict fields ∧ Authentic C V.secret fields ∧
      getField "op" fields ≠ none := by
  unfold Codec.verifyRequest at h
  simp only [PyM.ofExcept_bind_eq_ok] at h
  obtain ⟨checked, hchecked, -⟩ := h
  unfold Codec.checkEnvelope at hchecked
  split at hchecked
  · rename_i fields
    simp only [Except.bind_eq_ok, Except.raiseIf_eq_ok] at hchecked
    obtain ⟨_, -, _, -, sig, hsig, _, hverify, _, -, _, -, op, hop, -⟩ := hchecked
    refine ⟨fields, rfl, authentic_of_verifySignature (requireStr_eq_ok hsig) hverify, ?_⟩
    rw [requireStr_eq_ok hop]
    exact Option.some_ne_none _
  · cases hchecked

/-- An accepted response is authentic and has the fields of a response only.  Kind: L -/
theorem verifyResponse_eq_ok {envelope : Value} {r : RemoteResponse}
    (h : C.verifyResponse V envelope = .ok r) :
    ∃ fields, envelope = .dict fields ∧ Authentic C V.secret fields ∧
      ∀ p ∈ fields, p.1 ∈ responseFieldNames := by
  unfold Codec.verifyResponse at h
  split at h
  · rename_i fields
    simp only [Except.bind_eq_ok, Except.raiseIf_eq_ok] at h
    obtain ⟨_, -, _, hallowed, sig, hsig, _, hverify, -⟩ := h
    refine ⟨fields, rfl, authentic_of_verifySignature (requireStr_eq_ok hsig) hverify, ?_⟩
    have hall : (fields.all fun p => decide (p.1 ∈ responseFieldNames)) = true := by
      simpa using (not_or.mp hallowed).1
    intro p hp
    exact of_decide_eq_true (List.all_eq_true.mp hall p hp)
  · cases h

/-- No envelope is accepted as both.  Kind: L -/
theorem not_both {V' : Verifier} {envelope : Value} {cache cache' : ReplayCache}
    {request : RemoteRequest} {response : RemoteResponse}
    (h : C.verifyRequest V envelope cache = .ok request cache')
    (h' : C.verifyResponse V' envelope = .ok response) : False := by
  obtain ⟨fields, rfl, -, hop⟩ := verifyRequest_eq_ok h
  obtain ⟨fields', heq, -, hnames⟩ := verifyResponse_eq_ok h'
  cases heq
  refine hop (getField_eq_none_of_not_mem fun p hp heq => ?_)
  have hmem := hnames p hp
  rw [heq] at hmem
  exact absurd hmem (by decide)

end accepted

/-- What the service verifies, whatever happens between its steps, `verify_request` accepts at the
time that was read, with the replay cache that was asked.  Kind: L -/
theorem verifyRequest_of_ends {H : Type} {cfg : ServiceConfig H} {envelope : Value}
    {secret : String} {newCache : Bool} {request : RemoteRequest} {h : SvcHistory H}
    (hends : Prog.Ends (verifyRequest cfg envelope secret newCache) h (.ok request)) :
    ∃ V cache cache', V.secret = secret ∧ V.freshnessSeconds = cfg.freshnessSeconds ∧
      cfg.codec.verifyRequest V envelope cache = .ok request cache' := by
  obtain ⟨checked, hchecked, hclock⟩ := ends_ofExcept_bind.mp hends
  obtain ⟨s, h', rfl, hrest⟩ := ends_clock_bind.mp hclock
  obtain ⟨_, hfresh, hrest⟩ := ends_ofExcept_bind.mp hrest
  obtain ⟨request', hid, hrest⟩ := ends_ofExcept_bind.mp hrest
  obtain ⟨h₁, h₂, accepted, rfl, hreplay, hlast⟩ := Prog.ends_bind_ok.mp hrest
  obtain ⟨hno, hlast⟩ := ends_raiseIf_bind.mp hlast
  obtain ⟨-, hr⟩ := Prog.ends_pure.mp hlast
  cases hr
  have htrue : accepted = true := by simpa using hno
  subst htrue
  unfold checkReplay at hreplay
  cases newCache with
  | true =>
      obtain ⟨-, heq⟩ := Prog.ends_pure.mp hreplay
      obtain ⟨cache', hok⟩ := verifyRequest_of_checks
        (V := ⟨secret, s.clock, cfg.freshnessSeconds, 300, 4096⟩) hchecked hfresh hid
        (Except.ok.inj heq).symm
      exact ⟨_, ReplayCache.empty, cache', rfl, rfl, hok⟩
  | false =>
      obtain ⟨u, -, heq⟩ := Prog.ends_call.mp hreplay
      obtain ⟨cache', hok⟩ := verifyRequest_of_checks
        (V := ⟨secret, s.clock, cfg.freshnessSeconds, cfg.replayTtl, cfg.replayMaxEntries⟩)
        hchecked hfresh hid (Except.ok.inj heq).symm
      exact ⟨_, u.replay, cache', rfl, rfl, hok⟩

end ExpraConnect
