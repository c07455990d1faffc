import ExpraConnect.Cluster.InvitePreimage
import ExpraConnect.Cluster.InviteText
import ExpraConnect.Remote.EnvelopeBinding

/-!
# Invites there and back

* `readBlob_encodeInviteBlob`: base64, UTF-8 and JSON give back the payload of an invite, with the
  halves of surrogate pairs joined that meet;
* `decodeFields_eq_ok_iff`: what the decoder asks of a payload;
* `decodeFields_unicode`: over texts that are Unicode it is the decoder of `InviteBlob`;
* `roundTrips_iff`: an invite is decoded from its blob exactly when it meets these conditions;
* `invite_round_trip_iff`: when the creators issue such an invite, and when one was decoded.
  `ClusterState.create_invite` has an empty target by default, which the decoder rejects.
-/

namespace ExpraConnect

open ExpraConnect.Lib

/-! ## The text of a payload -/

section payload

variable (W : InviteWorld) (r : PyInvite) (expiresAt : PyNumber)

/-- Sorting keys does not change a number.  Kind: L -/
theorem PyNumber.sorted_toJson (n : PyNumber) :
    (n.toJson : Json CodePoints PyFloat).sorted = n.toJson := by
  cases n <;> rw [PyNumber.toJson, Json.sorted] <;> (intro _ h; cases h)

/-- Joining halves does not change a number.  Kind: L -/
theorem PyNumber.joined_toJson (n : PyNumber) :
    (n.toJson : Json CodePoints PyFloat).joined = n.toJson := by
  cases n <;> rw [PyNumber.toJson, Json.joined] <;> (intro _ h; cases h)

/-- A number has no repeated keys.  Kind: L -/
theorem PyNumber.distinct_toJson (n : PyNumber) :
    (n.toJson : Json CodePoints PyFloat).Distinct := by
  cases n <;> exact trivial

/-- The invite with the halves joined that meet in its texts. -/
def PyInvite.joined : PyInvite :=
  { r with
    targetNodeId := joinHalves r.targetNodeId
    token := joinHalves r.token
    clusterId := joinHalves r.clusterId
    coordinatorId := joinHalves r.coordinatorId
    fencingToken := joinHalves r.fencingToken }

namespace InviteWorld

/-- The fields of the payload in the order of their keys. -/
def sortedFields : List (CodePoints × Json CodePoints PyFloat) :=
  [(points "cluster_id", .str r.clusterId), (points "coordinator_id", .str r.coordinatorId),
    (points "epoch", .int r.epoch), (points "expires_at", expiresAt.toJson),
    (points "fencing_token", .str r.fencingToken),
    (points "target_node_id", .str r.targetNodeId), (points "token", .str r.token)]

/-- Keys are ordered by their code points.  Kind: L -/
theorem keyLE_points {k k' : String} {v v' : Json CodePoints PyFloat} :
    Json.keyLE (points k, v) (points k', v') ↔
      (points k).map CodePoint.toNat ≤ (points k').map CodePoint.toNat := Iff.rfl

/-- Sorting puts the fields of the payload in the order of their keys.  Kind: L -/
theorem sorted_payload : (payload r expiresAt).sorted = .dict (sortedFields r expiresAt) := by
  have hstr : ∀ s : CodePoints, (Json.str s : Json CodePoints PyFloat).sorted = .str s :=
    fun s => by rw [Json.sorted] <;> (intro _ h; cases h)
  have hint : ∀ n : ℤ, (Json.int n : Json CodePoints PyFloat).sorted = .int n := fun n => by
    rw [Json.sorted] <;> (intro _ h; cases h)
  rw [payload, Json.sorted]
  simp only [Json.sortedFields, PyNumber.sorted_toJson, hstr, hint]
  simp +decide only [Json.sortKeys, List.insertionSort_cons, List.insertionSort_nil,
    List.orderedInsert, keyLE_points, if_true, if_false, sortedFields]

/-- Its keys are ASCII, so that only its texts are joined.  Kind: L -/
theorem joined_sortedFields :
    (Json.dict (sortedFields r expiresAt)).joined = .dict (sortedFields r.joined expiresAt) := by
  have hkey : ∀ k : String, (JsonString.joined (points k) : CodePoints) = points k :=
    joinHalves_points
  simp only [sortedFields, Json.joined, Json.joinedFields, hkey, PyNumber.joined_toJson]
  rfl

/-- The payload has every field once.  Kind: L -/
theorem distinct_sortedFields : (Json.dict (sortedFields r expiresAt)).Distinct := by
  have hkeys : (["cluster_id", "coordinator_id", "epoch", "expires_at", "fencing_token",
      "target_node_id", "token"].map points).Nodup :=
    (List.nodup_map_iff points_injective).mpr (by decide)
  rw [Json.Distinct]
  refine ⟨hkeys, ?_⟩
  simp only [sortedFields, Json.DistinctFields, Json.Distinct, and_true, true_and]
  exact expiresAt.distinct_toJson

/-- A finite number has few digits.  Kind: L -/
theorem intsWithin_expiresAt {q : ℚ} (hfinite : expiresAt.toValue.finite? = .ok (some q)) :
    (expiresAt.toJson : Json CodePoints PyFloat).intsWithin W.limit = true := by
  cases expiresAt with
  | float x => rfl
  | int n =>
      rw [PyNumber.toValue, Value.finite?] at hfinite
      split at hfinite
      · cases hfinite
      · rename_i hsmall
        rw [PyNumber.toJson, Json.intsWithin, Json.withinDigits, Option.all_eq_true]
        intro digits hdigits
        have hlimit := W.limit_ge digits hdigits
        have hfloat : 2 ^ 1024 ≤ 2 ^ (3 * digits) :=
          pow_le_pow_right₀ (by decide) (by omega)
        have hten : 2 ^ (3 * digits) ≤ 10 ^ digits := by
          rw [pow_mul]
          exact Nat.pow_le_pow_left (by decide) digits
        have hn : n.natAbs < 10 ^ digits := by omega
        exact decide_eq_true hn

variable {r expiresAt}

/-- The only long integer of a payload can be the epoch.  Kind: L -/
theorem intsWithin_payload {q : ℚ} (hfinite : expiresAt.toValue.finite? = .ok (some q)) :
    (payload r expiresAt).intsWithin W.limit = Json.withinDigits W.limit r.epoch := by
  simp only [payload, Json.intsWithin, Json.intsWithinFields, W.intsWithin_expiresAt _ hfinite,
    Bool.and_true, Bool.true_and]

/-- So it is with the sorted payload.  Kind: L -/
theorem intsWithin_sortedFields {q : ℚ} (hfinite : expiresAt.toValue.finite? = .ok (some q)) :
    (Json.dict (sortedFields r expiresAt)).intsWithin W.limit =
      Json.withinDigits W.limit r.epoch := by
  simp only [sortedFields, Json.intsWithin, Json.intsWithinFields,
    W.intsWithin_expiresAt _ hfinite, Bool.and_true, Bool.true_and]

/-- The text of an object with a field is taken for UTF-8.  Kind: L -/
theorem textOf_write {k : CodePoints} {v : Json CodePoints PyFloat}
    {rest : List (CodePoints × Json CodePoints PyFloat)} :
    let text := String.ofList ((Json.dict ((k, v) :: rest)).write W.floats true)
    W.textOf text.toByteArray.data.toList = some (points text) := by
  intro text
  have hbytes : ∃ bytes, text.toByteArray.data.toList = 123 :: 34 :: bytes := by
    have htext : ∃ cs, (Json.dict ((k, v) :: rest)).write W.floats true = '{' :: '"' :: cs := by
      rw [Json.write, Json.writeDict, Json.writeString, List.cons_append]
      exact ⟨_, rfl⟩
    obtain ⟨cs, hcs⟩ := htext
    refine ⟨cs.utf8Encode.data.toList, ?_⟩
    show (String.ofList ((Json.dict ((k, v) :: rest)).write W.floats true)).toByteArray.data.toList
      = _
    rw [hcs, String.toByteArray_ofList, List.utf8Encode_cons, List.utf8Encode_cons (l := cs)]
    simp only [ByteArray.data_append, Array.toList_append]
    rfl
  obtain ⟨bytes, hbytes⟩ := hbytes
  have hdetect : detectsUtf8 text.toByteArray.data.toList = true := by
    rw [hbytes]
    rcases bytes with _ | ⟨c, _ | ⟨d, bytes⟩⟩ <;> rfl
  rw [textOf, if_pos hdetect, decodeUtf8_points]

/-- A blob that each layer reads.  Kind: L -/
theorem readBlob_of {blob : String} {bytes : List UInt8} {text : CodePoints}
    (hascii : isAscii blob = true) (hbytes : Base64.decode blob.toList = some bytes)
    (htext : W.textOf bytes = some text) :
    W.readBlob blob = Json.loads W.floats W.limit text := by
  rw [readBlob, if_pos hascii, hbytes, Option.bind_eq_bind, Option.bind_some, htext,
    Option.bind_eq_bind, Option.bind_some]

/-- Base64 is ASCII.  Kind: L -/
theorem isAscii_encode (bytes : List UInt8) :
    isAscii (String.ofList (Base64.encode bytes)) = true := by
  rw [isAscii, String.toList_ofList, List.all_eq_true]
  exact fun c hc => decide_eq_true (Base64.toNat_lt_of_mem_encode hc)

/-- Base64 reads back.  Kind: L -/
theorem decode_ofList_encode (bytes : List UInt8) :
    Base64.decode (String.ofList (Base64.encode bytes)).toList = some bytes := by
  rw [String.toList_ofList, Base64.decode_encode]

/-- What is read where the payload was written.  Kind: L -/
theorem readBlob_encodeInviteBlob {blob : String} {q : ℚ}
    (hfinite : expiresAt.toValue.finite? = .ok (some q))
    (h : W.encodeInviteBlob r expiresAt = .ok blob) :
    W.readBlob blob = some (.dict (sortedFields r.joined expiresAt)) := by
  unfold encodeInviteBlob at h
  split at h
  · rename_i hwithin
    rw [sorted_payload] at h
    have hblob := Except.ok.inj h
    set text := String.ofList ((Json.dict (sortedFields r expiresAt)).write W.floats true)
      with hwritten
    have htext : W.textOf text.toByteArray.data.toList = some (points text) := textOf_write W
    have hvalue : Json.parse W.floats (points text) =
        some (Json.dict (sortedFields r.joined expiresAt)) := by
      rw [hwritten, points_ofList, Json.parse_write, joined_sortedFields]
    have hints : (Json.dict (sortedFields r.joined expiresAt)).intsWithin W.limit = true := by
      rw [intsWithin_sortedFields W hfinite]
      exact (intsWithin_payload W hfinite).symm.trans hwithin
    rw [← hblob, readBlob_of W (isAscii_encode _) (decode_ofList_encode _) htext,
      Json.loads_of_parse hvalue hints,
      Json.lastWins_of_distinct _ (distinct_sortedFields r.joined expiresAt)]
  · cases h

end InviteWorld

end payload

/-! ## The payload that is decoded -/

/-- Source: `cluster/invites.py`, `decode_invite_blob`, the checks of the payload.  Kind: D -/
structure PayloadOf (H : InviteHash) (fields : Fields) (r : InviteRecord) : Prop where
  token : getField "token" fields = some (.str r.token) ∧ r.token ≠ ""
  cluster : getField "cluster_id" fields = some (.str r.clusterId) ∧ r.clusterId ≠ ""
  coordinator :
    getField "coordinator_id" fields = some (.str r.coordinatorId) ∧ r.coordinatorId ≠ ""
  fence : getField "fencing_token" fields = some (.str r.fencingToken) ∧ r.fencingToken ≠ ""
  target : getField "target_node_id" fields = some (.str r.targetNodeId) ∧ r.targetNodeId ≠ ""
  epoch : getField "epoch" fields = some (.int r.epoch)
  /-- The time is a finite number, the nearest float is kept. -/
  expiry : ∃ v q, getField "expires_at" fields = some v ∧ v.finite? = .ok (some q) ∧
    r.expiresAt = v.asFloat
  hash : r.tokenHash = H.hash r.token

section decoded

variable {H : InviteHash} {fields : Fields} {r : InviteRecord}

/-- What is decoded is the invite of the payload.  Kind: L -/
theorem decodeInvite_eq_ok_iff : decodeInvite H fields = .ok r ↔ PayloadOf H fields r := by
  simp only [decodeInvite, Except.bind_eq_ok, requiredField_eq_ok_iff, nonemptyText_eq_ok_iff,
    naturalEpoch_eq_ok_iff]
  constructor
  · rintro ⟨_, htoken, _, hcluster, _, hcoord, _, hfence, _, htarget, _, hepoch, v, hexpiry, token,
      ⟨rfl, htoken'⟩, cluster, ⟨rfl, hcluster'⟩, coordinator, ⟨rfl, hcoord'⟩, fence,
      ⟨rfl, hfence'⟩, target, ⟨rfl, htarget'⟩, epoch, ⟨n, rfl, hn, rfl⟩, q, hfinite, hnew⟩
    cases q with
    | none => cases hnew
    | some q =>
        dsimp only at hnew
        rw [InviteRecord.new, dif_pos (H.hash_ne token)] at hnew
        cases hnew
        refine ⟨⟨htoken, htoken'⟩, ⟨hcluster, hcluster'⟩, ⟨hcoord, hcoord'⟩, ⟨hfence, hfence'⟩,
          ⟨htarget, htarget'⟩, ?_, ⟨v, q, hexpiry, hfinite, rfl⟩, rfl⟩
        rw [hepoch, Int.toNat_of_nonneg hn]
  · intro h
    obtain ⟨v, q, hexpiry, hfinite, htime⟩ := h.expiry
    refine ⟨_, h.token.1, _, h.cluster.1, _, h.coordinator.1, _, h.fence.1, _, h.target.1, _,
      h.epoch, v, hexpiry, _, ⟨rfl, h.token.2⟩, _, ⟨rfl, h.cluster.2⟩, _,
      ⟨rfl, h.coordinator.2⟩, _, ⟨rfl, h.fence.2⟩, _, ⟨rfl, h.target.2⟩, _,
      ⟨_, rfl, Int.natCast_nonneg _, rfl⟩, some q, hfinite, ?_⟩
    dsimp only
    rw [InviteRecord.new, dif_pos (H.hash_ne r.token)]
    simp only [← htime, ← h.hash, Int.toNat_natCast]

end decoded

/-- The same of a payload with any texts.
Source: `cluster/invites.py`, `decode_invite_blob`, the checks of the payload.  Kind: D -/
structure PyPayloadOf (H : InviteHash) (fields : List (CodePoints × Json CodePoints PyFloat))
    (r : PyInvite) : Prop where
  token : Json.lookup (points "token") fields = some (.str r.token) ∧ r.token ≠ []
  cluster : Json.lookup (points "cluster_id") fields = some (.str r.clusterId) ∧ r.clusterId ≠ []
  coordinator :
    Json.lookup (points "coordinator_id") fields = some (.str r.coordinatorId) ∧
      r.coordinatorId ≠ []
  fence :
    Json.lookup (points "fencing_token") fields = some (.str r.fencingToken) ∧ r.fencingToken ≠ []
  target :
    Json.lookup (points "target_node_id") fields = some (.str r.targetNodeId) ∧ r.targetNodeId ≠ []
  epoch : Json.lookup (points "epoch") fields = some (.int r.epoch)
  /-- The time is a finite number, the nearest float is kept. -/
  expiry : ∃ v, Json.lookup (points "expires_at") fields = some v ∧
    InviteWorld.payloadTime v = .ok r.expiresAt
  /-- The token is Unicode. -/
  hash : hashInvite H r.token = .ok ⟨r.tokenHash, r.hash_ne⟩

namespace InviteWorld

section decoded

variable {W : InviteWorld} {fields : List (CodePoints × Json CodePoints PyFloat)}
  {v : Json CodePoints PyFloat} {r : PyInvite} {blob : String}

/-- A payload field is read if and only if it is there.  Kind: L -/
theorem payloadField_eq_ok_iff {key : String} :
    payloadField key fields = .ok v ↔ Json.lookup (points key) fields = some v := by
  unfold payloadField
  cases Json.lookup (points key) fields <;> simp

/-- When a payload text is accepted.  Kind: L -/
theorem payloadText_eq_ok_iff {text : CodePoints} :
    payloadText v = .ok text ↔ v = .str text ∧ text ≠ [] := by
  cases v with
  | str s =>
      rw [payloadText]
      by_cases hs : s = []
      · simp only [hs, if_true, reduceCtorEq, Json.str.injEq, false_iff, not_and, not_not]
        exact fun h => h.symm
      · simp only [hs, if_false, Except.ok.injEq, Json.str.injEq]
        constructor
        · rintro rfl
          exact ⟨rfl, hs⟩
        · exact fun h => h.1
  | _ => simp [payloadText]

/-- When a payload epoch is accepted.  Kind: L -/
theorem payloadEpoch_eq_ok_iff {n : ℕ} :
    payloadEpoch v = .ok n ↔ ∃ m : ℤ, v = .int m ∧ 0 ≤ m ∧ m.toNat = n := by
  cases v with
  | int m =>
      rw [payloadEpoch]
      by_cases hm : m < 0
      · simp only [hm, if_true, reduceCtorEq, Json.int.injEq, false_iff, not_exists, not_and]
        rintro m' rfl hm'
        omega
      · simp only [hm, if_false, Except.ok.injEq, Json.int.injEq, exists_eq_left']
        have hpos : 0 ≤ m := by omega
        simp [hpos]
  | _ => simp [payloadEpoch]

/-- What is decoded is the invite of the payload.  Kind: L -/
theorem decodeFields_eq_ok_iff :
    W.decodeFields fields = .ok r ↔ PyPayloadOf W.hash fields r := by
  simp only [decodeFields, Except.bind_eq_ok, payloadField_eq_ok_iff, payloadText_eq_ok_iff,
    payloadEpoch_eq_ok_iff, Except.pure_eq_ok]
  constructor
  · rintro ⟨_, htoken, _, hcluster, _, hcoord, _, hfence, _, htarget, _, hepoch, v, hexpiry, token,
      ⟨rfl, htoken'⟩, cluster, ⟨rfl, hcluster'⟩, coordinator, ⟨rfl, hcoord'⟩, fence,
      ⟨rfl, hfence'⟩, target, ⟨rfl, htarget'⟩, epoch, ⟨n, rfl, hn, rfl⟩, q, htime, hash, hhash, rfl⟩
    refine ⟨⟨htoken, htoken'⟩, ⟨hcluster, hcluster'⟩, ⟨hcoord, hcoord'⟩, ⟨hfence, hfence'⟩,
      ⟨htarget, htarget'⟩, ?_, ⟨v, hexpiry, htime⟩, hhash⟩
    rw [hepoch, Int.toNat_of_nonneg hn]
  · intro h
    obtain ⟨v, hexpiry, htime⟩ := h.expiry
    exact ⟨_, h.token.1, _, h.cluster.1, _, h.coordinator.1, _, h.fence.1, _, h.target.1, _,
      h.epoch, v, hexpiry, _, ⟨rfl, h.token.2⟩, _, ⟨rfl, h.cluster.2⟩, _,
      ⟨rfl, h.coordinator.2⟩, _, ⟨rfl, h.fence.2⟩, _, ⟨rfl, h.target.2⟩, _,
      ⟨_, rfl, Int.natCast_nonneg _, rfl⟩, _, htime, _, h.hash, rfl⟩

/-- A blob is decoded when its payload is.  Kind: L -/
theorem decodeInviteBlob_eq_ok_iff :
    W.decodeInviteBlob blob = .ok r ↔
      ∃ fields, W.readBlob blob = some (.dict fields) ∧ PyPayloadOf W.hash fields r := by
  have htext : W.decodeInviteBlob blob = .ok r ↔ W.decodeText blob = .ok r := by
    unfold decodeInviteBlob
    cases W.decodeText blob with
    | ok i => rfl
    | error e =>
        dsimp only
        split <;> simp
  rw [htext]
  unfold decodeText
  constructor
  · intro h
    split at h
    · rename_i fields hread
      exact ⟨fields, hread, decodeFields_eq_ok_iff.mp h⟩
    · cases h
    · cases h
  · rintro ⟨fields, hread, hfields⟩
    rw [hread]
    exact decodeFields_eq_ok_iff.mpr hfields

end decoded

/-! ## Texts that are Unicode -/

section unicode

variable {W : InviteWorld} {fields : List (String × Json String PyFloat)} {r : InviteRecord}

/-- A field of JSON read as a value.  Kind: L -/
theorem getField_ofJsonFields (key : String) (fields : List (String × Json String PyFloat)) :
    getField key (Value.ofJsonFields fields) = (Json.lookup key fields).map Value.ofJson := by
  induction fields with
  | nil => rw [Value.ofJsonFields]; rfl
  | cons p rest ih =>
      rw [Value.ofJsonFields, getField, Json.lookup, ih]
      split_ifs <;> rfl

/-- A text of a payload, in either reading.  Kind: L -/
theorem lookup_text_iff {key text : String} :
    Json.lookup (points key) (Json.mapFields points fields) = some (.str (points text)) ↔
      getField key (Value.ofJsonFields fields) = some (.str text) := by
  rw [Json.lookup_mapFields points_injective, getField_ofJsonFields]
  rcases Json.lookup key fields with _ | v
  · simp
  · cases v <;> simp [Json.mapStrings, Value.ofJson, points_injective.eq_iff]

/-- An integer reads the same over code points and over characters.  Kind: L -/
theorem lookup_int_iff {key : String} {n : ℤ} :
    Json.lookup (points key) (Json.mapFields points fields) = some (.int n) ↔
      getField key (Value.ofJsonFields fields) = some (.int n) := by
  rw [Json.lookup_mapFields points_injective, getField_ofJsonFields]
  rcases Json.lookup key fields with _ | v
  · simp
  · cases v <;> simp [Json.mapStrings, Value.ofJson]

/-- A time of a payload, in either reading.  Kind: L -/
theorem payloadTime_mapStrings {v : Json String PyFloat} {q : ℚ} :
    payloadTime (v.mapStrings points) = .ok q ↔
      ∃ q', (Value.ofJson v).finite? = .ok (some q') ∧ q = (Value.ofJson v).asFloat := by
  cases v with
  | int n =>
      rw [Json.mapStrings, payloadTime, Value.ofJson, Value.asFloat, Value.finite?]
      split
      · simp [bind, Except.bind]
      · simp [bind, Except.bind, pure, Except.pure, eq_comm]
  | float x =>
      cases x <;> simp [Json.mapStrings, payloadTime, Value.ofJson, Value.asFloat, Value.finite?,
        eq_comm]
  | _ => simp [Json.mapStrings, payloadTime, Value.ofJson, Value.finite?]

/-- Over texts that are Unicode, the decoder is that of values.  Kind: L -/
theorem decodeFields_unicode :
    W.decodeFields (Json.mapFields points fields) = .ok r.toPy ↔
      decodeInvite W.hash (Value.ofJsonFields fields) = .ok r := by
  have hhash : hashInvite W.hash (points r.token) = .ok ⟨r.tokenHash, r.hash_ne⟩ ↔
      r.tokenHash = W.hash.hash r.token := by
    rw [hashInvite, toString?_points, Except.ok.injEq, Subtype.mk.injEq]
    exact eq_comm
  have hexpiry : (∃ v, Json.lookup (points "expires_at") (Json.mapFields points fields) = some v ∧
      payloadTime v = .ok r.expiresAt) ↔
      ∃ v q, getField "expires_at" (Value.ofJsonFields fields) = some v ∧
        v.finite? = .ok (some q) ∧ r.expiresAt = v.asFloat := by
    rw [Json.lookup_mapFields points_injective, getField_ofJsonFields]
    rcases Json.lookup "expires_at" fields with _ | v
    · simp
    · simp [payloadTime_mapStrings]
  rw [decodeFields_eq_ok_iff, decodeInvite_eq_ok_iff]
  constructor
  · rintro ⟨htoken, hcluster, hcoord, hfence, htarget, hepoch, htime, hdigest⟩
    exact ⟨⟨lookup_text_iff.mp htoken.1, points_ne_nil.mp htoken.2⟩,
      ⟨lookup_text_iff.mp hcluster.1, points_ne_nil.mp hcluster.2⟩,
      ⟨lookup_text_iff.mp hcoord.1, points_ne_nil.mp hcoord.2⟩,
      ⟨lookup_text_iff.mp hfence.1, points_ne_nil.mp hfence.2⟩,
      ⟨lookup_text_iff.mp htarget.1, points_ne_nil.mp htarget.2⟩, lookup_int_iff.mp hepoch,
      hexpiry.mp htime, hhash.mp hdigest⟩
  · rintro ⟨htoken, hcluster, hcoord, hfence, htarget, hepoch, htime, hdigest⟩
    exact ⟨⟨lookup_text_iff.mpr htoken.1, points_ne_nil.mpr htoken.2⟩,
      ⟨lookup_text_iff.mpr hcluster.1, points_ne_nil.mpr hcluster.2⟩,
      ⟨lookup_text_iff.mpr hcoord.1, points_ne_nil.mpr hcoord.2⟩,
      ⟨lookup_text_iff.mpr hfence.1, points_ne_nil.mpr hfence.2⟩,
      ⟨lookup_text_iff.mpr htarget.1, points_ne_nil.mpr htarget.2⟩, lookup_int_iff.mpr hepoch,
      hexpiry.mpr htime, hhash.mpr hdigest⟩

end unicode

end InviteWorld

/-! ## There and back -/

/-- `decode_invite_blob(encode_invite_blob(invite)) == invite`.  Kind: D -/
def RoundTrips (W : InviteWorld) (r : PyInvite) (expiresAt : PyNumber) : Prop :=
  ∃ blob, W.encodeInviteBlob r expiresAt = .ok blob ∧ W.decodeInviteBlob blob = .ok r

/-- The texts of an invite. -/
def PyInvite.texts (r : PyInvite) : List CodePoints :=
  [r.token, r.clusterId, r.coordinatorId, r.fencingToken, r.targetNodeId]

section roundTrips

variable {W : InviteWorld} {r : PyInvite} {expiresAt : PyNumber}

/-- The number is kept as the nearest float.  Kind: L -/
theorem payloadTime_toJson {q : ℚ} (hfinite : expiresAt.toValue.finite? = .ok (some q)) :
    InviteWorld.payloadTime expiresAt.toJson = .ok expiresAt.toValue.asFloat := by
  cases expiresAt with
  | int n =>
      rw [PyNumber.toValue] at hfinite
      rw [PyNumber.toJson, InviteWorld.payloadTime, hfinite]
      rfl
  | float x =>
      cases x with
      | finite y => rfl
      | _ => cases hfinite

/-- The payload of an invite, as it comes back, is that of the invite if its texts come back.
Kind: L -/
theorem pyPayloadOf_sortedFields {q : ℚ} (hfinite : expiresAt.toValue.finite? = .ok (some q)) :
    PyPayloadOf W.hash (InviteWorld.sortedFields r.joined expiresAt) r ↔
      (∀ text ∈ r.texts, text ≠ [] ∧ splitFree text = true) ∧
        r.expiresAt = expiresAt.toValue.asFloat ∧
        hashInvite W.hash r.token = .ok ⟨r.tokenHash, r.hash_ne⟩ := by
  have hlookup : ∀ key, Json.lookup (points key) (InviteWorld.sortedFields r.joined expiresAt) =
      if "cluster_id" = key then some (.str (joinHalves r.clusterId))
      else if "coordinator_id" = key then some (.str (joinHalves r.coordinatorId))
      else if "epoch" = key then some (.int r.epoch)
      else if "expires_at" = key then some expiresAt.toJson
      else if "fencing_token" = key then some (.str (joinHalves r.fencingToken))
      else if "target_node_id" = key then some (.str (joinHalves r.targetNodeId))
      else if "token" = key then some (.str (joinHalves r.token)) else none := by
    intro key
    simp only [InviteWorld.sortedFields, Json.lookup, points_injective.eq_iff]
    rfl
  have htext : ∀ text : CodePoints,
      (some (Json.str (joinHalves text) : Json CodePoints PyFloat) = some (.str text) ∧
        text ≠ []) ↔ text ≠ [] ∧ splitFree text = true := by
    intro text
    rw [Option.some.injEq, Json.str.injEq, joinHalves_eq_self_iff, and_comm]
  simp only [PyInvite.texts, List.forall_mem_cons, List.not_mem_nil, false_implies, implies_true,
    and_true, ← htext]
  constructor
  · intro h
    obtain ⟨v, hv, htime⟩ := h.expiry
    have hv' : some (expiresAt.toJson : Json CodePoints PyFloat) = some v :=
      (hlookup "expires_at").symm.trans hv
    rw [Option.some.injEq] at hv'
    rw [← hv', payloadTime_toJson hfinite, Except.ok.injEq] at htime
    exact ⟨⟨⟨(hlookup "token").symm.trans h.token.1, h.token.2⟩,
      ⟨(hlookup "cluster_id").symm.trans h.cluster.1, h.cluster.2⟩,
      ⟨(hlookup "coordinator_id").symm.trans h.coordinator.1, h.coordinator.2⟩,
      ⟨(hlookup "fencing_token").symm.trans h.fence.1, h.fence.2⟩,
      (hlookup "target_node_id").symm.trans h.target.1, h.target.2⟩, htime.symm, h.hash⟩
  · rintro ⟨⟨htoken, hcluster, hcoord, hfence, htarget⟩, htime, hhash⟩
    exact ⟨⟨(hlookup "token").trans htoken.1, htoken.2⟩,
      ⟨(hlookup "cluster_id").trans hcluster.1, hcluster.2⟩,
      ⟨(hlookup "coordinator_id").trans hcoord.1, hcoord.2⟩,
      ⟨(hlookup "fencing_token").trans hfence.1, hfence.2⟩,
      ⟨(hlookup "target_node_id").trans htarget.1, htarget.2⟩, hlookup "epoch",
      ⟨_, hlookup "expires_at", htime ▸ payloadTime_toJson hfinite⟩, hhash⟩

/-- An invite is decoded from its blob exactly when it has no empty text and none with a high half
in front of a low one, its term can be written, its time is a float, and it has the digest of its
token.  Kind: L -/
theorem roundTrips_iff {q : ℚ} (hfinite : expiresAt.toValue.finite? = .ok (some q)) :
    RoundTrips W r expiresAt ↔
      Json.withinDigits W.limit r.epoch = true ∧
        (∀ text ∈ r.texts, text ≠ [] ∧ splitFree text = true) ∧
        r.expiresAt = expiresAt.toValue.asFloat ∧
        hashInvite W.hash r.token = .ok ⟨r.tokenHash, r.hash_ne⟩ := by
  rw [← pyPayloadOf_sortedFields hfinite, ← W.intsWithin_payload hfinite]
  constructor
  · rintro ⟨blob, hencode, hdecode⟩
    obtain ⟨fields, hread, hfields⟩ := InviteWorld.decodeInviteBlob_eq_ok_iff.mp hdecode
    rw [W.readBlob_encodeInviteBlob hfinite hencode, Option.some.injEq, Json.dict.injEq] at hread
    rw [← hread] at hfields
    refine ⟨?_, hfields⟩
    unfold InviteWorld.encodeInviteBlob at hencode
    split at hencode
    · assumption
    · cases hencode
  · rintro ⟨hwithin, hfields⟩
    have hencode : ∃ blob, W.encodeInviteBlob r expiresAt = .ok blob :=
      ⟨_, by rw [InviteWorld.encodeInviteBlob, if_pos hwithin]⟩
    obtain ⟨blob, hencode⟩ := hencode
    exact ⟨blob, hencode, InviteWorld.decodeInviteBlob_eq_ok_iff.mpr
      ⟨_, W.readBlob_encodeInviteBlob hfinite hencode, hfields⟩⟩

end roundTrips

/-! ## The creators -/

/-- Two integers whose sum is rounded would not come back.  Kind: D -/
def ExactSum (now ttl : PyNumber) : Prop :=
  ∀ m n, now = .int m → ttl = .int n → Doubles.roundInt (m + n) = m + n

section creators

variable {W : InviteWorld} {i : IssuedInvite} {draw : Vector UInt8 32} {now ttl : PyNumber}

/-- A drawn token is not empty.  Kind: L -/
theorem tokenUrlsafe_ne (draw : Vector UInt8 32) : tokenUrlsafe draw ≠ "" := by
  obtain ⟨⟨l⟩, hl⟩ := draw
  -- the first character of the text is no padding
  obtain ⟨v, rest, hv, htext⟩ : ∃ v rest, v < 64 ∧ Base64.encode l = Base64.digit v :: rest := by
    match l, hl with
    | a :: b :: c :: rest, _ =>
        have ha := a.toNat_lt
        exact ⟨a.toNat / 4, _, by omega, by rw [Base64.encode]⟩
  intro hempty
  have hnil : (Base64.encode l).rdropWhile (· = '=') = [] := by
    simpa [tokenUrlsafe] using hempty
  rw [List.rdropWhile_eq_nil_iff] at hnil
  have hpad := hnil (Base64.digit v) (htext ▸ List.mem_cons_self)
  exact Base64.digit_ne_pad v hv (of_decide_eq_true hpad)

/-- An integer is finite as itself.  Kind: L -/
theorem Value.finite?_asFloat {v : Value} {q : ℚ} (h : v.finite? = .ok (some q)) :
    q = v.asFloat ↔ ∀ n, v = .int n → Doubles.roundInt n = n := by
  unfold Value.finite? at h
  split at h
  · rename_i n
    split at h
    · cases h
    · cases h
      rw [Value.asFloat]
      constructor
      · rintro heq m hm
        cases hm
        exact_mod_cast heq.symm
      · exact fun hround => by exact_mod_cast (hround n rfl).symm
  · rename_i q'
    cases h
    refine ⟨fun _ n hn => ?_, fun _ => rfl⟩
    cases hn
  · cases h

/-- The data of a new invite.  Kind: L -/
theorem createInvite_record {clusterId target : CodePoints} {epoch : PyEpoch}
    (h : W.createInvite clusterId target epoch draw now ttl = .ok i) :
    i.record.token = points (tokenUrlsafe draw) ∧ i.record.clusterId = clusterId ∧
      i.record.coordinatorId = epoch.coordinatorId ∧
      i.record.fencingToken = epoch.fencingToken ∧ i.record.targetNodeId = target ∧
      i.record.epoch = epoch.epoch ∧ i.record.tokenHash = W.hash.hash (tokenUrlsafe draw) ∧
      W.sum now ttl = .ok i.expiresAt := by
  rw [InviteWorld.createInvite, Except.bind_eq_ok] at h
  obtain ⟨seconds, -, h⟩ := h
  cases seconds with
  | none => cases h
  | some seconds =>
      simp only [Except.bind_eq_ok, Except.raiseIf_eq_ok] at h
      obtain ⟨_, -, expiresAt, hsum, hnew⟩ := h
      unfold IssuedInvite.new at hnew
      split at hnew
      · split at hnew
        · cases hnew
        · cases hnew
        · cases hnew
          exact ⟨rfl, rfl, rfl, rfl, rfl, rfl, rfl, hsum⟩
      · cases hnew

/-- The sum is an integer only of integers.  Kind: L -/
theorem sum_eq_int {n : ℤ} : W.sum now ttl = .ok (.int n) ↔
    ∃ a b, now = .int a ∧ ttl = .int b ∧ a + b = n := by
  unfold InviteWorld.sum
  constructor
  · intro h
    split at h
    · rename_i a b
      cases h
      exact ⟨a, b, rfl, rfl, rfl⟩
    · simp only [Except.bind_eq_ok, Except.pure_eq_ok, reduceCtorEq, and_false, exists_false] at h
  · rintro ⟨a, b, rfl, rfl, rfl⟩
    rfl

/-- When a new invite is decoded from its blob.  Kind: L -/
theorem roundTrips_createInvite_iff {clusterId target : CodePoints} {epoch : PyEpoch}
    (h : W.createInvite clusterId target epoch draw now ttl = .ok i) :
    RoundTrips W i.record i.expiresAt ↔ (target ≠ [] ∧ clusterId ≠ [] ∧
      Json.withinDigits W.limit epoch.epoch = true ∧ ExactSum now ttl) ∧
        ∀ text ∈ [target, clusterId, epoch.coordinatorId, epoch.fencingToken],
          splitFree text = true := by
  obtain ⟨htoken, hcluster, hcoord, hfence, htarget, hepoch, hhash, hsum⟩ := createInvite_record h
  have htime : i.record.expiresAt = i.expiresAt.toValue.asFloat ↔ ExactSum now ttl := by
    rw [Value.finite?_asFloat i.finite]
    constructor
    · rintro hexact a b rfl rfl
      rw [InviteWorld.sum, Except.ok.injEq] at hsum
      exact_mod_cast hexact (a + b) (by rw [← hsum, PyNumber.toValue])
    · intro hexact n hn
      have hint : i.expiresAt = .int n := by
        cases hi : i.expiresAt <;> rw [hi, PyNumber.toValue] at hn <;> cases hn
        rfl
      obtain ⟨a, b, ha, hb, rfl⟩ := sum_eq_int.mp (hint ▸ hsum)
      exact_mod_cast hexact a b ha hb
  have hdigest : hashInvite W.hash i.record.token = .ok ⟨i.record.tokenHash, i.record.hash_ne⟩ := by
    simp only [hashInvite, htoken, toString?_points, hhash]
  have htexts : (∀ text ∈ i.record.texts, text ≠ [] ∧ splitFree text = true) ↔
      (clusterId ≠ [] ∧ target ≠ []) ∧
        ∀ text ∈ [target, clusterId, epoch.coordinatorId, epoch.fencingToken],
          splitFree text = true := by
    simp only [PyInvite.texts, List.forall_mem_cons, List.not_mem_nil, false_implies, implies_true,
      and_true, htoken, hcluster, hcoord, hfence, htarget]
    constructor
    · rintro ⟨-, ⟨hne, hc⟩, ⟨-, hid⟩, ⟨-, hf⟩, hne', ht⟩
      exact ⟨⟨hne, hne'⟩, ht, hc, hid, hf⟩
    · rintro ⟨⟨hne, hne'⟩, ht, hc, hid, hf⟩
      exact ⟨⟨points_ne_nil.mpr (tokenUrlsafe_ne draw), splitFree_points _⟩, ⟨hne, hc⟩,
        ⟨epoch.id_ne, hid⟩, ⟨epoch.token_ne, hf⟩, hne', ht⟩
  rw [roundTrips_iff i.finite, htexts, htime, hepoch]
  constructor
  · rintro ⟨hdigits, ⟨⟨hcluster', htarget'⟩, hsplit⟩, hexact, -⟩
    exact ⟨⟨htarget', hcluster', hdigits, hexact⟩, hsplit⟩
  · rintro ⟨⟨htarget', hcluster', hdigits, hexact⟩, hsplit⟩
    exact ⟨hdigits, ⟨⟨hcluster', htarget'⟩, hsplit⟩, hexact, hdigest⟩

/-- Texts that are Unicode have no halves.  Kind: L -/
theorem roundTrips_createInvite_points_iff {clusterId target : String} {epoch : CoordinatorEpoch}
    (h : W.createInvite (points clusterId) (points target) epoch.toPy draw now ttl = .ok i) :
    RoundTrips W i.record i.expiresAt ↔ target ≠ "" ∧ clusterId ≠ "" ∧
      Json.withinDigits W.limit epoch.epoch = true ∧ ExactSum now ttl := by
  have hsplit : ∀ text ∈ [points target, points clusterId, epoch.toPy.coordinatorId,
      epoch.toPy.fencingToken], splitFree text = true := by
    simp only [List.forall_mem_cons, List.not_mem_nil, false_implies, implies_true, and_true,
      CoordinatorEpoch.toPy, splitFree_points]
  rw [roundTrips_createInvite_iff h, and_iff_left hsplit, points_ne_nil, points_ne_nil]
  rfl

/-- Source: `cluster/operations.py`, `ClusterState.create_invite`.  Kind: P -/
theorem clusterState_createInvite_eq_ok {s s' : ClusterState} {target : String}
    (h : ClusterState.createInvite W target draw now ttl s = .ok i s') :
    ∃ epoch, s.roles.epoch = some epoch ∧
      W.createInvite (points s.clusterId) (points target) epoch.toPy draw now ttl = .ok i := by
  rw [ClusterState.createInvite, PyM.get_bind_eq_ok, PyM.ofExcept_bind_eq_ok] at h
  obtain ⟨a, -, h⟩ := h
  cases hepoch : s.roles.epoch with
  | none =>
      rw [hepoch] at h
      cases h
  | some epoch =>
      rw [hepoch] at h
      simp only [PyM.raiseIf_bind_eq_ok, PyM.ofExcept_bind_eq_ok, PyM.set_bind_eq_ok,
        PyM.pure_eq_ok] at h
      obtain ⟨-, invite, hnew, rfl, -⟩ := h
      exact ⟨epoch, rfl, hnew⟩

/-- What an issued invite is made of.  Kind: L -/
theorem issueInvite_eq_ok {c c' : Cluster} {target : NodeId}
    (h : Cluster.issueInvite W target draw now c = .ok i c') :
    c.isActiveCoordinator = true ∧
      W.createInvite (points c.clusterId) (points target.value) c.epoch.toPy draw now
        (.float (.finite Cluster.inviteTtlSeconds)) = .ok i ∧
      c' = { c with
        invites := c.invites.insert (tokenUrlsafe draw)
          (i.toRecord target.value (tokenUrlsafe draw) c.clusterId c.epoch) } := by
  simp only [Cluster.issueInvite, PyM.get_bind_eq_ok, PyM.raiseIf_bind_eq_ok,
    PyM.ofExcept_bind_eq_ok, PyM.set_bind_eq_ok, PyM.pure_eq_ok] at h
  obtain ⟨hlead, invite, hnew, rfl, rfl⟩ := h
  exact ⟨by simpa using hlead, hnew, rfl⟩

/-- Where the sum of floats is exact, this is the creator over rational times, and what is kept is what
is returned.  Kind: L -/
theorem createInvite_of_issueInvite {c c' : Cluster} {target : NodeId} {time : ℚ}
    (hplus : W.plus (.finite time) (.finite Cluster.inviteTtlSeconds) =
      .finite (time + Cluster.inviteTtlSeconds))
    (h : Cluster.issueInvite W target draw (.float (.finite time)) c = .ok i c') :
    Cluster.createInvite W.hash target (tokenUrlsafe draw) time c =
        .ok (i.toRecord target.value (tokenUrlsafe draw) c.clusterId c.epoch) c' ∧
      (i.toRecord target.value (tokenUrlsafe draw) c.clusterId c.epoch).toPy = i.record := by
  obtain ⟨hlead, hnew, rfl⟩ := issueInvite_eq_ok h
  obtain ⟨htoken, hcluster, hcoord, hfence, htarget, hepoch, hhash, hsum⟩ :=
    createInvite_record hnew
  have htime : i.record.expiresAt = time + Cluster.inviteTtlSeconds := by
    have hfinite := i.finite
    have hfloat : i.expiresAt = .float (.finite (time + Cluster.inviteTtlSeconds)) := by
      rw [← hplus]
      exact (Except.ok.inj hsum).symm
    rw [hfloat, PyNumber.toValue, Value.finite?, Except.ok.injEq, Option.some.injEq] at hfinite
    exact hfinite.symm
  have hrecord : InviteRecord.new (W.hash.hash (tokenUrlsafe draw)) target.value
      (time + Cluster.inviteTtlSeconds) (tokenUrlsafe draw) c.clusterId c.epoch.coordinatorId.value
      c.epoch.epoch c.epoch.fencingToken =
        .ok (i.toRecord target.value (tokenUrlsafe draw) c.clusterId c.epoch) := by
    rw [InviteRecord.new, dif_pos (W.hash.hash_ne _), IssuedInvite.toRecord]
    simp only [hhash, htime]
  simp only [Cluster.createInvite, PyM.get_bind_eq_ok, PyM.raiseIf_bind_eq_ok,
    PyM.ofExcept_bind_eq_ok, PyM.set_bind_eq_ok, PyM.pure_eq_ok]
  refine ⟨⟨by simpa using hlead, _, hrecord, rfl, rfl⟩, ?_⟩
  obtain ⟨⟨tokenHash, target', expiresAt, token, clusterId, coordinatorId, epoch, fence, hash_ne⟩,
    number, finite⟩ := i
  cases htoken
  cases hcluster
  cases hcoord
  cases hfence
  cases htarget
  cases hepoch
  rfl

end creators

/-! ## What was decoded -/

/-- No text of the payload has a high half of a surrogate pair in front of a low one.  Kind: D -/
def InviteWorld.SplitFree (W : InviteWorld) (blob : String) : Prop :=
  ∀ fields, W.readBlob blob = some (.dict fields) → ∀ key ∈ inviteTexts, ∀ text,
    Json.lookup (points key) fields = some (.str text) → splitFree text = true

section decoded

variable {W : InviteWorld} {blob : String} {r : PyInvite}
  {fields : List (CodePoints × Json CodePoints PyFloat)}

/-- An integer in a field of a payload was short enough to be read.  Kind: L -/
theorem withinDigits_of_readBlob {key : CodePoints} {n : ℤ}
    (hread : W.readBlob blob = some (.dict fields))
    (hfield : Json.lookup key fields = some (.int n)) : Json.withinDigits W.limit n = true := by
  unfold InviteWorld.readBlob at hread
  split at hread
  · simp only [Option.bind_eq_bind, Option.bind_eq_some_iff] at hread
    obtain ⟨_, -, _, -, hread⟩ := hread
    exact Json.withinDigits_of_loads hread (Json.mem_of_lookup hfield)
  · cases hread

/-- The texts of what was decoded are those of the payload.  Kind: L -/
theorem splitFree_iff (hread : W.readBlob blob = some (.dict fields))
    (h : PyPayloadOf W.hash fields r) :
    W.SplitFree blob ↔ ∀ text ∈ r.texts, splitFree text = true := by
  have hone : W.SplitFree blob ↔ ∀ key ∈ inviteTexts, ∀ text,
      Json.lookup (points key) fields = some (.str text) → splitFree text = true := by
    constructor
    · exact fun hsplit => hsplit fields hread
    · intro hsplit fields' hread'
      rw [hread, Option.some.injEq, Json.dict.injEq] at hread'
      exact hread' ▸ hsplit
  rw [hone]
  simp only [inviteTexts, PyInvite.texts, List.forall_mem_cons, List.not_mem_nil, false_implies,
    implies_true, and_true, h.token.1, h.cluster.1, h.coordinator.1, h.fence.1, h.target.1,
    Option.some.injEq, Json.str.injEq, forall_eq']

/-- What was decoded is decoded again from its own blob, unless halves meet in a text of it.
Kind: L -/
theorem roundTrips_decoded_iff (h : W.decodeInviteBlob blob = .ok r) :
    RoundTrips W r (.float (.finite r.expiresAt)) ↔ W.SplitFree blob := by
  obtain ⟨fields, hread, hfields⟩ := InviteWorld.decodeInviteBlob_eq_ok_iff.mp h
  have hne : ∀ text ∈ r.texts, text ≠ [] := by
    simp only [PyInvite.texts, List.forall_mem_cons, List.not_mem_nil, false_implies, implies_true,
      and_true]
    exact ⟨hfields.token.2, hfields.cluster.2, hfields.coordinator.2, hfields.fence.2,
      hfields.target.2⟩
  rw [splitFree_iff hread hfields, roundTrips_iff (q := r.expiresAt) rfl]
  constructor
  · exact fun hall text htext => (hall.2.1 text htext).2
  · exact fun hsplit => ⟨withinDigits_of_readBlob hread hfields.epoch,
      fun text htext => ⟨hne text htext, hsplit text htext⟩, rfl, hfields.hash⟩

end decoded

/-- A new invite is decoded from its blob exactly when it has a target and a cluster, its term is
short enough to be written, its time, if it is an integer, is a float, and no text of it has a high
half of a surrogate pair in front of a low one.  A decoded invite has the digest of its token, and
is decoded again from its own blob exactly when no text of the payload has such halves.  Kind: P -/
theorem invite_round_trip_iff (W : InviteWorld) :
    (∀ (s s' : ClusterState) (target : String) (draw : Vector UInt8 32) (now ttl : PyNumber)
        (i : IssuedInvite), ClusterState.createInvite W target draw now ttl s = .ok i s' →
        (RoundTrips W i.record i.expiresAt ↔ target ≠ "" ∧ s.clusterId ≠ "" ∧
          (∀ epoch ∈ s.roles.epoch, Json.withinDigits W.limit epoch.epoch = true) ∧
          ExactSum now ttl)) ∧
      (∀ (c c' : Cluster) (target : NodeId) (draw : Vector UInt8 32) (now : PyNumber)
        (i : IssuedInvite), Cluster.issueInvite W target draw now c = .ok i c' →
        (RoundTrips W i.record i.expiresAt ↔ c.clusterId ≠ "" ∧
          Json.withinDigits W.limit c.epoch.epoch = true)) ∧
      (∀ (clusterId target : CodePoints) (epoch : PyEpoch) (draw : Vector UInt8 32)
        (now ttl : PyNumber) (i : IssuedInvite),
        W.createInvite clusterId target epoch draw now ttl = .ok i →
        (RoundTrips W i.record i.expiresAt ↔ (target ≠ [] ∧ clusterId ≠ [] ∧
          Json.withinDigits W.limit epoch.epoch = true ∧ ExactSum now ttl) ∧
            ∀ text ∈ [target, clusterId, epoch.coordinatorId, epoch.fencingToken],
              splitFree text = true)) ∧
      ∀ (blob : String) (r : PyInvite), W.decodeInviteBlob blob = .ok r →
        hashInvite W.hash r.token = .ok ⟨r.tokenHash, r.hash_ne⟩ ∧
          (RoundTrips W r (.float (.finite r.expiresAt)) ↔ W.SplitFree blob) := by
  refine ⟨fun s s' target draw now ttl i h => ?_, fun c c' target draw now i h => ?_,
    fun _ _ _ _ _ _ _ => roundTrips_createInvite_iff,
    fun blob r h => ⟨?_, roundTrips_decoded_iff h⟩⟩
  · obtain ⟨epoch, hepoch, hnew⟩ := clusterState_createInvite_eq_ok h
    rw [roundTrips_createInvite_points_iff hnew, hepoch]
    simp only [Option.mem_some_iff, forall_eq']
  · obtain ⟨-, hnew, -⟩ := issueInvite_eq_ok h
    have hexact : ExactSum now (.float (.finite Cluster.inviteTtlSeconds)) := fun _ _ _ => nofun
    rw [roundTrips_createInvite_points_iff hnew]
    constructor
    · exact fun hall => ⟨hall.2.1, hall.2.2.1⟩
    · exact fun hall => ⟨target.valid.1, hall.1, hall.2, hexact⟩
  · obtain ⟨fields, -, hfields⟩ := InviteWorld.decodeInviteBlob_eq_ok_iff.mp h
    exact hfields.hash

/-- Exact sums, and the interpreter's own limit. -/
def plainInvites : InviteWorld where
  hash := Cluster.markHash
  floats := plainFloats
  plus
    | .finite x, .finite y => .finite (x + y)
    | _, _ => .nan
  limit := some 4300
  limit_ge := by simp
  otherText _ := none

/-- The node that leads its own cluster. -/
def founder : NodeId := ⟨"founder", by decide⟩

/-- What `ClusterState.create_local` returns. -/
def foundedState : ClusterState where
  localNodeId := "founder"
  clusterId := "cluster"
  roles :=
    { assignments := [RoleAssignment.coordinator founder]
      epoch := some ⟨1, founder, "fence", 0, 120, by decide, by norm_num⟩
      promotionEpochs := ∅
      capabilityGrants := []
      valid := ⟨by decide, by decide, by decide, by decide⟩ }
  activeInvites := []
  joinAdmissions := []
  usedInvites := ∅

/-- The invite of `foundedState.create_invite()`. -/
def untargetedInvite : EStateM.Result PyError ClusterState IssuedInvite :=
  ClusterState.createInvite plainInvites "" (Vector.replicate 32 0) (.float (.finite 10))
    (.float (.finite 300)) foundedState

/-- An invite that is created with the default target is not decoded from its blob. -/
theorem untargeted_invite_not_decoded :
    ∃ i s', untargetedInvite = .ok i s' ∧
      ¬RoundTrips plainInvites i.record i.expiresAt := by
  have hok : (match untargetedInvite with | .ok _ _ => true | .error _ _ => false) = true := by
    decide +kernel
  cases hrun : untargetedInvite with
  | error e s' =>
      rw [hrun] at hok
      cases hok
  | ok i s' =>
      obtain ⟨epoch, -, hnew⟩ := clusterState_createInvite_eq_ok hrun
      refine ⟨i, s', rfl, fun htrip => ?_⟩
      exact ((roundTrips_createInvite_points_iff hnew).mp htrip).1 rfl

/-- A blob whose target is the bytes of two halves. -/
def splitBlob : String :=
  let before := "\x7b\"token\":\"t\",\"cluster_id\":\"c\",\"coordinator_id\":\"n\"," ++
    "\"target_node_id\":\""
  let after := "\",\"fencing_token\":\"f\",\"epoch\":1,\"expires_at\":310.0\x7d"
  String.ofList (Base64.encode (before.toByteArray.data.toList ++
    [0xed, 0xa0, 0xbd, 0xed, 0xb8, 0x80] ++ after.toByteArray.data.toList))

/-- The invite of `foundedState.create_invite("worker")`. -/
def targetedInvite : EStateM.Result PyError ClusterState IssuedInvite :=
  ClusterState.createInvite plainInvites "worker" (Vector.replicate 32 0) (.float (.finite 10))
    (.float (.finite 300)) foundedState

/-- An invite for a worker is decoded from its blob; one whose target is decoded to two halves has
the digest of its token, and does not come back. -/
theorem invite_round_trip_iff_worker :
    (∃ i s', targetedInvite = .ok i s' ∧ RoundTrips plainInvites i.record i.expiresAt) ∧
      ∃ r, plainInvites.decodeInviteBlob splitBlob = .ok r ∧
        hashInvite plainInvites.hash r.token = .ok ⟨r.tokenHash, r.hash_ne⟩ ∧
        ¬RoundTrips plainInvites r (.float (.finite r.expiresAt)) := by
  have hround := invite_round_trip_iff plainInvites
  constructor
  · have hok : (match targetedInvite with | .ok _ _ => true | .error _ _ => false) = true := by
      decide +kernel
    cases hrun : targetedInvite with
    | error e s' =>
        rw [hrun] at hok
        cases hok
    | ok i s' =>
        refine ⟨i, s', rfl, (hround.1 _ _ _ _ _ _ _ hrun).mpr ⟨by decide, by decide, ?_, ?_⟩⟩
        · intro epoch hepoch
          cases hepoch
          decide +kernel
        · exact fun _ _ hnow => nomatch hnow
  · have htarget : ((plainInvites.decodeInviteBlob splitBlob).toOption.any fun r =>
        decide (r.targetNodeId = [.high 0x3d, .low 0x200])) = true := by
      decide +kernel
    obtain ⟨r, hdecode, hhalves⟩ := Except.exists_of_any htarget
    obtain ⟨hhash, hagain⟩ := hround.2.2.2 splitBlob r hdecode
    refine ⟨r, hdecode, hhash, fun htrip => ?_⟩
    obtain ⟨fields, hread, hfields⟩ := InviteWorld.decodeInviteBlob_eq_ok_iff.mp hdecode
    have hfree := (splitFree_iff hread hfields).mp (hagain.mp htrip) r.targetNodeId
      (by simp [PyInvite.texts])
    rw [of_decide_eq_true hhalves] at hfree
    cases hfree

end ExpraConnect
