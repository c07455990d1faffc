import ExpraConnect.Cluster.Operations
import ExpraConnect.Lib.Doubles
import ExpraConnect.Lib.Meets

/-!
# The invite blob

`cluster/invites.py`, `decode_invite_blob`: the text that a user pastes to join a cluster.

* `BlobCodec`: what the standard library makes of the text, a JSON value or a `ValueError`;
* `decodeInvite`, `decodeInviteBlob`: the checks of the decoder, and the `except` clause around
  them;
* `decodeInviteBlob_raises_iff`: the decoder raises nothing but `ClusterDataError` exactly when the
  payload is no well-formed invite whose expiry is an integer that no float can hold.  The
  `OverflowError` of `float(expiry)` is an `ArithmeticError`, which the `except` clause leaves out.
-/

namespace ExpraConnect

open ExpraConnect.Lib

/-- What the code uses of `base64` and `json`. -/
structure BlobCodec where
  /-- `json.loads(base64.urlsafe_b64decode(blob.encode("ascii")))` -/
  loads : String → Except PyError Value
  /-- `UnicodeError`, `binascii.Error` and `JSONDecodeError` are `ValueError`s. -/
  loads_raises : ∀ blob, Raises (fun e => e.kind.isValueError = true) (loads blob)

/-- `isinstance(x, str) and x`. -/
def nonemptyText (value : Value) : Except PyError String :=
  match value with
  | .str s => if s = "" then .error ⟨.value, ""⟩ else .ok s
  | _ => .error ⟨.value, ""⟩

/-- `type(epoch) is not int or epoch < 0`. -/
def naturalEpoch (value : Value) : Except PyError ℕ :=
  match value with
  | .int n => if n < 0 then .error ⟨.value, ""⟩ else .ok n.toNat
  | _ => .error ⟨.value, ""⟩

/-- `float(expiry)`, of a finite number.  Source: `cluster/invites.py`, `decode_invite_blob`.
Kind: D -/
def Value.asFloat : Value → ℚ
  | .int n => Doubles.roundInt n
  | .float (.finite q) => q
  | _ => 0

/-- The fields of an invite that are texts, in the order they are read. -/
def inviteTexts : List String :=
  ["token", "cluster_id", "coordinator_id", "fencing_token", "target_node_id"]

/-- The `try` body of `decode_invite_blob`, once the payload is an object.
Source: `cluster/invites.py`, `decode_invite_blob`.  Kind: D -/
def decodeInvite (H : InviteHash) (fields : Fields) : Except PyError InviteRecord := do
  let token ← requiredField "token" fields
  let cluster ← requiredField "cluster_id" fields
  let coordinator ← requiredField "coordinator_id" fields
  let fence ← requiredField "fencing_token" fields
  let target ← requiredField "target_node_id" fields
  let epoch ← requiredField "epoch" fields
  let expiry ← requiredField "expires_at" fields
  let token ← nonemptyText token
  let cluster ← nonemptyText cluster
  let coordinator ← nonemptyText coordinator
  let fence ← nonemptyText fence
  let target ← nonemptyText target
  let epoch ← naturalEpoch epoch
  match ← expiry.finite? with
  | none => throw ⟨.value, ""⟩
  | some _ =>
      InviteRecord.new (H.hash token) target expiry.asFloat token cluster coordinator epoch fence

/-- The `try` body of `decode_invite_blob`.
Source: `cluster/invites.py`, `decode_invite_blob`.  Kind: D -/
def decodePayload (B : BlobCodec) (H : InviteHash) (blob : String) :
    Except PyError InviteRecord := do
  match ← B.loads blob with
  | .dict fields => decodeInvite H fields
  | _ => throw ⟨.type, "invite payload is not an object"⟩

/-- The exceptions that `decode_invite_blob` turns into a `ClusterDataError`. -/
def malformedInvite (e : PyError) : Bool := e.kind = .key || e.kind = .type || e.kind.isValueError

/-- Source: `cluster/invites.py`, `decode_invite_blob`.  Kind: D -/
def decodeInviteBlob (B : BlobCodec) (H : InviteHash) (blob : String) :
    Except PyError InviteRecord :=
  match decodePayload B H blob with
  | .ok invite => .ok invite
  | .error e =>
      if malformedInvite e then .error ⟨.clusterData, "invite is not a valid pairing invite"⟩
      else .error e

/-! ## What it raises -/

/-- A well-formed invite but for its expiry, an integer that no float can hold. -/
structure OversizedInvite (fields : Fields) : Prop where
  /-- The texts are there, and not empty. -/
  texts : ∀ k ∈ inviteTexts, ∃ s, getField k fields = some (.str s) ∧ s ≠ ""
  /-- `epoch` is a natural number. -/
  epoch : ∃ n, getField "epoch" fields = some (.int n) ∧ 0 ≤ n
  /-- `expires_at` overflows. -/
  expiry : ∃ v, getField "expires_at" fields = some v ∧ v.Oversized

section raises

variable {fields : Fields} {v : Value} {key : String}

/-- A required field is read if and only if it is there.  Kind: L -/
theorem requiredField_eq_ok_iff :
    requiredField key fields = .ok v ↔ getField key fields = some v := by
  unfold requiredField
  cases getField key fields <;> simp

/-- When a text is accepted.  Kind: L -/
theorem nonemptyText_eq_ok_iff {s : String} : nonemptyText v = .ok s ↔ v = .str s ∧ s ≠ "" := by
  unfold nonemptyText
  split
  · rename_i t
    by_cases ht : t = ""
    · simp only [ht, if_true, reduceCtorEq, Value.str.injEq, false_iff, not_and, not_not]
      exact fun h => h.symm
    · simp only [ht, if_false, Except.ok.injEq, Value.str.injEq]
      constructor
      · rintro rfl
        exact ⟨rfl, ht⟩
      · exact fun h => h.1
  · rename_i hne
    simp only [reduceCtorEq, false_iff, not_and]
    rintro rfl
    exact absurd rfl (hne s)

/-- When an epoch is accepted.  Kind: L -/
theorem naturalEpoch_eq_ok_iff {n : ℕ} :
    naturalEpoch v = .ok n ↔ ∃ m : ℤ, v = .int m ∧ 0 ≤ m ∧ m.toNat = n := by
  unfold naturalEpoch
  split
  · rename_i m
    by_cases hm : m < 0
    · simp only [hm, if_true, reduceCtorEq, Value.int.injEq, false_iff, not_exists, not_and]
      rintro m' rfl hm'
      omega
    · simp only [hm, if_false, Except.ok.injEq, Value.int.injEq, exists_eq_left']
      have : 0 ≤ m := by omega
      simp [this]
  · rename_i hne
    simp only [reduceCtorEq, false_iff, not_exists, not_and]
    rintro m rfl
    exact absurd rfl (hne m)

/-- What the checks in front of the expiry raise becomes a `ClusterDataError`.  Kind: L -/
theorem malformedInvite_requiredField :
    Raises (fun e => malformedInvite e = true) (requiredField key fields) := by
  unfold requiredField
  cases getField key fields with
  | none => simp [malformedInvite]
  | some w => exact raises_ok

/-- A refused text is a malformed invite.  Kind: L -/
theorem malformedInvite_nonemptyText :
    Raises (fun e => malformedInvite e = true) (nonemptyText v) := by
  unfold nonemptyText
  split
  · split
    · simp [malformedInvite, ErrorKind.isValueError]
    · exact raises_ok
  · simp [malformedInvite, ErrorKind.isValueError]

/-- A refused epoch is a malformed invite.  Kind: L -/
theorem malformedInvite_naturalEpoch :
    Raises (fun e => malformedInvite e = true) (naturalEpoch v) := by
  unfold naturalEpoch
  split
  · split
    · simp [malformedInvite, ErrorKind.isValueError]
    · exact raises_ok
  · simp [malformedInvite, ErrorKind.isValueError]

/-- A refused record is a malformed invite.  Kind: L -/
theorem malformedInvite_new {hash target token cluster coordinator fence : String} {expiresAt : ℚ}
    {epoch : ℕ} : Raises (fun e => malformedInvite e = true)
      (InviteRecord.new hash target expiresAt token cluster coordinator epoch fence) := by
  unfold InviteRecord.new
  split
  · exact raises_ok
  · simp [malformedInvite, ErrorKind.isValueError]

/-- The decoder of an object raises something else exactly on an oversized invite.  Kind: L -/
theorem decodeInvite_raises_iff (H : InviteHash) :
    Raises (fun e => malformedInvite e = true) (decodeInvite H fields) ↔
      ¬OversizedInvite fields := by
  simp only [decodeInvite, raises_bind_iff, malformedInvite_requiredField, true_and,
    malformedInvite_nonemptyText, malformedInvite_naturalEpoch, requiredField_eq_ok_iff,
    nonemptyText_eq_ok_iff, naturalEpoch_eq_ok_iff]
  constructor
  · intro h hover
    obtain ⟨htexts, ⟨n, hn, hpos⟩, v, hv, hbig⟩ := hover
    simp only [inviteTexts, List.forall_mem_cons, List.not_mem_nil, false_implies, implies_true,
      and_true] at htexts
    obtain ⟨⟨token, htoken, htoken'⟩, ⟨cluster, hcluster, hcluster'⟩,
      ⟨coordinator, hcoord, hcoord'⟩, ⟨fence, hfence, hfence'⟩, target, htarget, htarget'⟩ := htexts
    have hraise := (h _ htoken _ hcluster _ hcoord _ hfence _ htarget _ hn _ hv token
      ⟨rfl, htoken'⟩ cluster ⟨rfl, hcluster'⟩ coordinator ⟨rfl, hcoord'⟩ fence ⟨rfl, hfence'⟩ target
      ⟨rfl, htarget'⟩ n.toNat ⟨n, rfl, hpos, rfl⟩).1 _ (Value.finite?_eq_error_iff.mpr ⟨hbig, rfl⟩)
    simp [malformedInvite, ErrorKind.isValueError] at hraise
  · intro hover _ htoken _ hcluster _ hcoord _ hfence _ htarget _ hn v hv token htoken' cluster
      hcluster' coordinator hcoord' fence hfence' target htarget' epoch hepoch
    obtain ⟨rfl, htoken'⟩ := htoken'
    obtain ⟨rfl, hcluster'⟩ := hcluster'
    obtain ⟨rfl, hcoord'⟩ := hcoord'
    obtain ⟨rfl, hfence'⟩ := hfence'
    obtain ⟨rfl, htarget'⟩ := htarget'
    obtain ⟨n, rfl, hpos, -⟩ := hepoch
    refine ⟨fun e he => ?_, fun expiresAt _ => ?_⟩
    · -- the only other exception is that of an oversized expiry
      obtain ⟨hbig, -⟩ := Value.finite?_eq_error_iff.mp he
      refine (hover ⟨?_, ⟨n, hn, hpos⟩, v, hv, hbig⟩).elim
      simp only [inviteTexts, List.forall_mem_cons, List.not_mem_nil, false_implies, implies_true,
        and_true]
      exact ⟨⟨_, htoken, htoken'⟩, ⟨_, hcluster, hcluster'⟩, ⟨_, hcoord, hcoord'⟩,
        ⟨_, hfence, hfence'⟩, _, htarget, htarget'⟩
    · split
      · simp [malformedInvite, ErrorKind.isValueError]
      · exact malformedInvite_new

/-- A payload raises the declared error if and only if it has no oversized number.  Kind: L -/
theorem decodePayload_raises_iff (B : BlobCodec) (H : InviteHash) (blob : String) :
    Raises (fun e => malformedInvite e = true) (decodePayload B H blob) ↔
      ∀ fields, B.loads blob = .ok (.dict fields) → ¬OversizedInvite fields := by
  have hloads : Raises (fun e => malformedInvite e = true) (B.loads blob) := by
    intro e he
    have hvalue := B.loads_raises blob e he
    simp only [malformedInvite, hvalue, Bool.or_true]
  simp only [decodePayload, raises_bind_iff, hloads, true_and]
  constructor
  · intro h fields hfields
    exact (decodeInvite_raises_iff H).mp (h _ hfields)
  · intro h value hvalue
    split
    · exact (decodeInvite_raises_iff H).mpr (h _ hvalue)
    · simp [malformedInvite]

/-- A `ClusterDataError`. -/
def IsClusterData (e : PyError) : Prop := e.kind = .clusterData

/-- The decoder raises only `ClusterDataError` exactly when the payload is no oversized invite.
Kind: L -/
theorem decodeInviteBlob_raises_iff (B : BlobCodec) (H : InviteHash) (blob : String) :
    Raises IsClusterData (decodeInviteBlob B H blob) ↔
      ∀ fields, B.loads blob = .ok (.dict fields) → ¬OversizedInvite fields := by
  rw [← decodePayload_raises_iff B H blob]
  unfold decodeInviteBlob
  cases decodePayload B H blob with
  | ok invite => simp
  | error e =>
      simp only [raises_error]
      by_cases he : malformedInvite e = true
      · rw [if_pos he, raises_error]
        exact iff_of_true rfl he
      · rw [if_neg he, raises_error]
        refine iff_of_false (fun hdata => he ?_) he
        -- a `ClusterDataError` is a `ValueError`
        rw [IsClusterData] at hdata
        simp [malformedInvite, hdata, ErrorKind.isValueError]

end raises

end ExpraConnect
