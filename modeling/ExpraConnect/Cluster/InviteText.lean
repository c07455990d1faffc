import ExpraConnect.Cluster.InviteBlob
import ExpraConnect.Lib.Base64
import ExpraConnect.Remote.CanonicalJson
import Mathlib.Data.List.DropRight

/-!
# Invites as texts

`cluster/invites.py` and the two creators of invites in `cluster/operations.py`.

* `PyNumber`: a time, which is an integer or a float;
* `IssuedInvite`, `InviteWorld.createInvite`: an invite, and how it is created;
* `ClusterState.createInvite`, `Cluster.issueInvite`: the creators;
* `PyInvite`, `PyEpoch`: an invite and a term whose texts are any texts of the interpreter, which may
  hold halves of surrogate pairs; those of a state are Unicode;
* `InviteWorld.encodeInviteBlob`, `InviteWorld.decodeInviteBlob`: the text of an invite, JSON in
  base64, and its reader.

Parameters are the digest of a token, how floats are written, read and added, the number of digits
that an integer may have in a text, and the text of bytes that are not UTF-8.
-/

namespace ExpraConnect

open ExpraConnect.Lib

/-- A number. -/
inductive PyNumber where
  | int (n : ℤ)
  | float (x : PyFloat)
  deriving DecidableEq

/-- A number as a value. -/
def PyNumber.toValue : PyNumber → Value
  | .int n => .int n
  | .float x => .float x

/-- A number as a JSON value. -/
def PyNumber.toJson {S : Type} : PyNumber → Json S PyFloat
  | .int n => .int n
  | .float x => .float x

/-- `float(number)`. -/
def PyNumber.toFloat : PyNumber → Except PyError PyFloat
  | .int n => do
      let _ ← (Value.int n).finite?
      return .finite (Doubles.roundInt n)
  | .float x => .ok x

/-- The functions of the interpreter and its library that invites are made with. -/
structure InviteWorld where
  /-- `hash_invite` -/
  hash : InviteHash
  /-- How floats are written and read in JSON. -/
  floats : FloatFormat PyFloat
  /-- The sum of floats. -/
  plus : PyFloat → PyFloat → PyFloat
  /-- `sys.get_int_max_str_digits()`, if there is a limit. -/
  limit : Option ℕ
  /-- A limit is not smaller than this. -/
  limit_ge : ∀ digits ∈ limit, 640 ≤ digits
  /-- The text of bytes whose beginning says that they are not plain UTF-8. -/
  otherText : List UInt8 → Option CodePoints

/-- An invite that may hold halves of surrogate pairs, as Python's texts do.
Source: `cluster/models.py`, `InviteRecord`.  Kind: D -/
structure PyInvite where
  /-- `hash_invite(token)`. -/
  tokenHash : String
  /-- The node it invites. -/
  targetNodeId : CodePoints
  /-- When it ends. -/
  expiresAt : ℚ
  /-- The one-time token. -/
  token : CodePoints
  /-- The cluster it invites into. -/
  clusterId : CodePoints
  /-- The coordinator that issued it. -/
  coordinatorId : CodePoints
  /-- The term it was issued in. -/
  epoch : ℕ
  /-- The fence of that term. -/
  fencingToken : CodePoints
  /-- The digest is not empty. -/
  hash_ne : tokenHash ≠ ""

/-- A new invite, whose time is a finite number. -/
structure IssuedInvite where
  /-- The invite, with the value of the number. -/
  record : PyInvite
  /-- `expires_at` -/
  expiresAt : PyNumber
  /-- `math.isfinite(expires_at)` -/
  finite : expiresAt.toValue.finite? = .ok (some record.expiresAt)

/-- `InviteRecord(...)`.  Source: `cluster/models.py`, `InviteRecord.__post_init__`.  Kind: D -/
def IssuedInvite.new (tokenHash : String) (targetNodeId : CodePoints) (expiresAt : PyNumber)
    (token clusterId coordinatorId : CodePoints) (epoch : ℕ) (fencingToken : CodePoints) :
    Except PyError IssuedInvite :=
  if hash_ne : tokenHash ≠ "" then
    match finite : expiresAt.toValue.finite? with
    | .error e => .error e
    | .ok none => .error ⟨.value, "invalid invite"⟩
    | .ok (some time) =>
        .ok ⟨⟨tokenHash, targetNodeId, time, token, clusterId, coordinatorId, epoch, fencingToken,
          hash_ne⟩, expiresAt, finite⟩
  else .error ⟨.value, "invalid invite"⟩

/-- A coordinator term that may hold halves of surrogate pairs.
Source: `cluster/models.py`, `CoordinatorEpoch`.  Kind: D -/
structure PyEpoch where
  /-- `epoch` -/
  epoch : ℕ
  /-- `coordinator_id.value` -/
  coordinatorId : CodePoints
  /-- `fencing_token` -/
  fencingToken : CodePoints
  /-- A node id is not empty. -/
  id_ne : coordinatorId ≠ []
  /-- Nor is the token. -/
  token_ne : fencingToken ≠ []

/-- A string with code points is not empty.  Kind: L -/
theorem points_ne_nil {text : String} : points text ≠ [] ↔ text ≠ "" := by
  rw [← points_injective.ne_iff]
  rfl

/-- A term whose texts are Unicode. -/
def CoordinatorEpoch.toPy (e : CoordinatorEpoch) : PyEpoch where
  epoch := e.epoch
  coordinatorId := points e.coordinatorId.value
  fencingToken := points e.fencingToken
  id_ne := points_ne_nil.mpr e.coordinatorId.valid.1
  token_ne := points_ne_nil.mpr e.token_ne

/-- An invite whose texts are Unicode. -/
def InviteRecord.toPy (r : InviteRecord) : PyInvite :=
  ⟨r.tokenHash, points r.targetNodeId, r.expiresAt, points r.token, points r.clusterId,
    points r.coordinatorId, r.epoch, points r.fencingToken, r.hash_ne⟩

/-- The invite as a state keeps it, whose texts are Unicode. -/
def IssuedInvite.toRecord (i : IssuedInvite) (targetNodeId token clusterId : String)
    (epoch : CoordinatorEpoch) : InviteRecord :=
  ⟨i.record.tokenHash, targetNodeId, i.record.expiresAt, token, clusterId,
    epoch.coordinatorId.value, epoch.epoch, epoch.fencingToken, i.record.hash_ne⟩

/-- `hash_invite(token)`, where a half of a surrogate pair cannot be encoded.
Source: `cluster/roles.py`, `hash_invite`.  Kind: D -/
def hashInvite (H : InviteHash) (token : CodePoints) :
    Except PyError {hash : String // hash ≠ ""} :=
  match toString? token with
  | some text => .ok ⟨H.hash text, H.hash_ne text⟩
  | none => .error ⟨.value, "surrogates not allowed"⟩

/-- `secrets.token_urlsafe(32)`, of the bytes that are drawn. -/
def tokenUrlsafe (draw : Vector UInt8 32) : String :=
  String.ofList ((Base64.encode draw.toList).rdropWhile (· = '='))

namespace InviteWorld

variable (W : InviteWorld)

/-- `now + ttl_seconds`. -/
def sum : PyNumber → PyNumber → Except PyError PyNumber
  | .int m, .int n => .ok (.int (m + n))
  | a, b => do
      let x ← a.toFloat
      let y ← b.toFloat
      return .float (W.plus x y)

/-- Source: `cluster/invites.py`, `create_invite`.  Kind: D -/
def createInvite (clusterId targetNodeId : CodePoints) (epoch : PyEpoch)
    (draw : Vector UInt8 32) (now ttl : PyNumber) : Except PyError IssuedInvite := do
  match ← ttl.toValue.finite? with
  | none => throw ⟨.value, "invite TTL must be positive"⟩
  | some seconds =>
      raiseIf (seconds ≤ 0) ⟨.value, "invite TTL must be positive"⟩
      let expiresAt ← W.sum now ttl
      IssuedInvite.new (W.hash.hash (tokenUrlsafe draw)) targetNodeId expiresAt
        (points (tokenUrlsafe draw)) clusterId epoch.coordinatorId epoch.epoch epoch.fencingToken

/-- The payload of a blob.  Source: `cluster/invites.py`, `encode_invite_blob`.  Kind: D -/
def payload (r : PyInvite) (expiresAt : PyNumber) : Json CodePoints PyFloat :=
  .dict [(points "token", .str r.token), (points "cluster_id", .str r.clusterId),
    (points "coordinator_id", .str r.coordinatorId), (points "epoch", .int r.epoch),
    (points "fencing_token", .str r.fencingToken), (points "target_node_id", .str r.targetNodeId),
    (points "expires_at", expiresAt.toJson)]

/-- `base64.urlsafe_b64encode(json.dumps(payload, sort_keys=True).encode()).decode()`, where an
integer may be too long to be written.
Source: `cluster/invites.py`, `encode_invite_blob`.  Kind: D -/
def encodeInviteBlob (r : PyInvite) (expiresAt : PyNumber) : Except PyError String :=
  if (payload r expiresAt).intsWithin W.limit then
    let text := String.ofList ((payload r expiresAt).sorted.write W.floats true)
    .ok (String.ofList (Base64.encode text.toByteArray.data.toList))
  else .error ⟨.value, "Exceeds the limit for integer string conversion"⟩

/-- `json.detect_encoding(bytes) == "utf-8"`: there is no byte order mark and no zero among the
first bytes. -/
def detectsUtf8 (bytes : List UInt8) : Bool :=
  !([[0xff, 0xfe], [0xfe, 0xff], [0xef, 0xbb, 0xbf]].any fun mark => mark.isPrefixOf bytes) &&
    match bytes with
    | [a, b] => a ≠ 0 && b ≠ 0
    | a :: b :: _ :: _ :: _ => a ≠ 0 && b ≠ 0
    | _ => true

/-- The text that `json.loads` reads: bytes are decoded with `surrogatepass`. -/
def textOf (bytes : List UInt8) : Option CodePoints :=
  if detectsUtf8 bytes then decodeUtf8 bytes else W.otherText bytes

/-- `json.loads(base64.urlsafe_b64decode(blob.encode("ascii")))`; nothing is a `ValueError`. -/
def readBlob (blob : String) : Option (Json CodePoints PyFloat) :=
  if isAscii blob then do
    let bytes ← Base64.decode blob.toList
    let text ← W.textOf bytes
    Json.loads W.floats W.limit text
  else none

/-- `value[key]` -/
def payloadField (key : String) (fields : List (CodePoints × Json CodePoints PyFloat)) :
    Except PyError (Json CodePoints PyFloat) :=
  match Json.lookup (points key) fields with
  | some v => .ok v
  | none => .error ⟨.key, key⟩

/-- `isinstance(x, str) and x` -/
def payloadText : Json CodePoints PyFloat → Except PyError CodePoints
  | .str text => if text = [] then .error ⟨.value, ""⟩ else .ok text
  | _ => .error ⟨.value, ""⟩

/-- `type(epoch) is not int or epoch < 0` -/
def payloadEpoch : Json CodePoints PyFloat → Except PyError ℕ
  | .int n => if n < 0 then .error ⟨.value, ""⟩ else .ok n.toNat
  | _ => .error ⟨.value, ""⟩

/-- A finite number, as the nearest float. -/
def payloadTime : Json CodePoints PyFloat → Except PyError ℚ
  | .int n => do
      let _ ← (Value.int n).finite?
      return Doubles.roundInt n
  | .float (.finite q) => .ok q
  | _ => .error ⟨.value, ""⟩

/-- The `try` body of `decode_invite_blob`, once the payload is an object.
Source: `cluster/invites.py`, `decode_invite_blob`.  Kind: D -/
def decodeFields (fields : List (CodePoints × Json CodePoints PyFloat)) :
    Except PyError PyInvite := do
  let token ← payloadField "token" fields
  let cluster ← payloadField "cluster_id" fields
  let coordinator ← payloadField "coordinator_id" fields
  let fence ← payloadField "fencing_token" fields
  let target ← payloadField "target_node_id" fields
  let epoch ← payloadField "epoch" fields
  let expiry ← payloadField "expires_at" fields
  let token ← payloadText token
  let cluster ← payloadText cluster
  let coordinator ← payloadText coordinator
  let fence ← payloadText fence
  let target ← payloadText target
  let epoch ← payloadEpoch epoch
  let time ← payloadTime expiry
  let hash ← hashInvite W.hash token
  return ⟨hash.val, target, time, token, cluster, coordinator, epoch, fence, hash.property⟩

/-- The `try` body of `decode_invite_blob`.
Source: `cluster/invites.py`, `decode_invite_blob`.  Kind: D -/
def decodeText (blob : String) : Except PyError PyInvite :=
  match W.readBlob blob with
  | some (.dict fields) => W.decodeFields fields
  | some _ => .error ⟨.type, "invite payload is not an object"⟩
  | none => .error ⟨.value, "Expecting value"⟩

/-- Source: `cluster/invites.py`, `decode_invite_blob`.  Kind: D -/
def decodeInviteBlob (blob : String) : Except PyError PyInvite :=
  match W.decodeText blob with
  | .ok invite => .ok invite
  | .error e =>
      if malformedInvite e then .error ⟨.clusterData, "invite is not a valid pairing invite"⟩
      else .error e

end InviteWorld

/-- The default of `next` is built in any case.
Source: `cluster/operations.py`, `ClusterState.local_assignment`.  Kind: D -/
def ClusterState.localAssignment (s : ClusterState) : Except PyError RoleAssignment := do
  let localNode ← NodeId.new s.localNodeId
  return (s.roles.assignments.find? fun a => a.nodeId.any fun n => n.value = s.localNodeId).getD
    (RoleAssignment.worker localNode)

/-- Source: `cluster/operations.py`, `ClusterState.create_invite`.  Kind: D -/
def ClusterState.createInvite (W : InviteWorld) (targetNodeId : String) (draw : Vector UInt8 32)
    (now ttl : PyNumber) : PyM ClusterState IssuedInvite := do
  let s ← get
  let a ← PyM.ofExcept s.localAssignment
  match s.roles.epoch with
  | none => throw ⟨.permission, "only an active local Coordinator may create invites"⟩
  | some epoch =>
      raiseIf (a.revoked ∨ a.paused ∨ .coordinator ∉ a.roles ∨
          epoch.coordinatorId.value ≠ s.localNodeId)
        ⟨.permission, "only an active local Coordinator may create invites"⟩
      let invite ← PyM.ofExcept
        (W.createInvite (points s.clusterId) (points targetNodeId) epoch.toPy draw now ttl)
      let record := invite.toRecord targetNodeId (tokenUrlsafe draw) s.clusterId epoch
      set { s with activeInvites := s.activeInvites ++ [record] }
      return invite

/-- `create_invite(target_id, now=now)`, with the numbers of the interpreter.
Source: `cluster/operations.py`, `Cluster.create_invite`.  Kind: D -/
def Cluster.issueInvite (W : InviteWorld) (target : NodeId) (draw : Vector UInt8 32)
    (now : PyNumber) : PyM Cluster IssuedInvite := do
  let c ← get
  raiseIf (!c.isActiveCoordinator)
    ⟨.permission, "only an active local Coordinator may create invites"⟩
  let invite ← PyM.ofExcept
    (W.createInvite (points c.clusterId) (points target.value) c.epoch.toPy draw now
      (.float (.finite inviteTtlSeconds)))
  let record := invite.toRecord target.value (tokenUrlsafe draw) c.clusterId c.epoch
  set { c with invites := c.invites.insert record.token record }
  return invite

end ExpraConnect
