import ExpraConnect.Pairing.Manager
import ExpraConnect.Remote.Service

/-!
# The trust document

`runtime/persistence.py`: how the pairing records are written to `trust.yaml` and read back.

* `peerGrantToJson`, `trustedPeerToJson`, `pendingPairingToJson` and the decoders `…FromJson`, with
  the checks and the errors of the source;
* `Material.Storable`, `KnownTexts`, `Reloadable`: what the decoder asks of what the encoder wrote;
* `…FromJson_toJson`: the round trip of each record, as an equivalence;
* `trustedPeerFromJson_members`: what the pairing flow stores is never read back, because an enum
  member is printed with its class.

`str(value)` is `PyStr`; of a value that is not a text only its type is fixed.
-/

namespace ExpraConnect

open ExpraConnect.Lib

/-- `str(value)` on decoded values, which leaves a text alone. -/
structure PyStr where
  /-- The text. -/
  text : Value → String
  /-- A text is its own. -/
  text_str : ∀ s, text (.str s) = s

/-- Of a decoded value that is not a text, `str(value)` is `repr(value)`. -/
def PyStr.ofRepr (repr : Value → String) : PyStr where
  text
    | .str s => s
    | v => repr v
  text_str _ := rfl

/-! ## Fields -/

/-- `sorted(str(p) for p in permissions)`. -/
def permissionsToJson (permissions : Finset PermissionItem) : Value :=
  .list (((permissions.val.map PermissionItem.str).sort (· ≤ ·)).map .str)

/-- Source: `runtime/persistence.py`, `optional_text`.  Kind: D -/
def optionalText (P : PyStr) : Option Value → Option String
  | none | some .null => none
  | some v => some (P.text v)

/-- Source: `runtime/persistence.py`, `optional_generation`.  Kind: D -/
def optionalGeneration : Option Value → Except PyError (Option ℤ)
  | none | some .null => .ok none
  | some (.int n) =>
      if n < 1 then .error ⟨.type, "persisted transport generation is invalid"⟩
      else .ok (some n)
  | some _ => .error ⟨.type, "persisted transport generation is invalid"⟩

/-- Source: `runtime/persistence.py`, `permissions_from_json`.  Kind: D -/
def permissionsFromJson (value : Option Value) : Except PyError (Finset PermissionItem) :=
  match value.bind Value.asTexts? with
  | none => .error ⟨.type, "persisted permissions are invalid"⟩
  | some items =>
      if items.toFinset ⊆ knownPermissions then .ok (items.toFinset.image .text)
      else .error ⟨.value, "persisted permissions contain an unknown value"⟩

/-- Source: `runtime/persistence.py`, `validate_secret`: `bytes.fromhex` skips blanks, hence the
second length check.  Kind: D -/
def validatedSecret (value : Option Value) : Except PyError String :=
  match value with
  | some (.str s) =>
      if validSecret s then .ok s else .error ⟨.value, "persisted peer secret is invalid"⟩
  | _ => .error ⟨.value, "persisted peer secret is invalid"⟩

/-- The fields of the material, in the order in which the encoders write them. -/
def materialToJson (m : Material) : Fields :=
  [("identity_fingerprint", optionalValue Fingerprint.toValue m.identityFingerprint),
    ("transport_fingerprint", optionalValue Fingerprint.toValue m.transportFingerprint),
    ("root_public_key", optionalValue .str m.rootPublicKey),
    ("transport_generation", optionalValue .int m.transportGeneration),
    ("transport_proof", optionalValue .str m.transportProof)]

/-- The arguments `identity_fingerprint` to `transport_proof` of the decoders. -/
def materialFromJson (P : PyStr) (fields : Fields) : Except PyError Material := do
  let generation ← optionalGeneration (getField "transport_generation" fields)
  return {
    identityFingerprint :=
      (optionalText P (getField "identity_fingerprint" fields)).map .text
    transportFingerprint :=
      (optionalText P (getField "transport_fingerprint" fields)).map .text
    rootPublicKey := optionalText P (getField "root_public_key" fields)
    transportGeneration := generation
    transportProof := optionalText P (getField "transport_proof" fields) }

/-! ## Records -/

/-- The body of `peer_grant_to_json` and `trusted_peer_to_json`, which differ in the key of the
node id. -/
def relationToJson (idKey : String) (id : NodeId) (secret : String)
    (permissions : Finset PermissionItem) (m : Material) : Value :=
  .dict ([(idKey, .str id.value), ("secret", .str secret),
    ("permissions", permissionsToJson permissions)] ++ materialToJson m)

/-- The body of `peer_grant_from_json` and `trusted_peer_from_json`, which differ in the key of the
node id and in the record. -/
def relationFromJson {α : Type} (P : PyStr) (idKey : String)
    (record : NodeId → String → Finset PermissionItem → Material → α) (fields : Fields) :
    Except PyError α := do
  let permissions ← permissionsFromJson (getField "permissions" fields)
  let secret ← validatedSecret (getField "secret" fields)
  let raw ← requiredField idKey fields
  let id ← NodeId.new (P.text raw)
  let material ← materialFromJson P fields
  return record id secret permissions material

/-- Source: `runtime/persistence.py`, `peer_grant_to_json`.  Kind: D -/
def peerGrantToJson (g : PairingManager.PeerGrant) : Value :=
  relationToJson "caller_id" g.callerId g.secret g.permissions g.toMaterial

/-- Source: `runtime/persistence.py`, `peer_grant_from_json`.  Kind: D -/
def peerGrantFromJson (P : PyStr) : Value → Except PyError PairingManager.PeerGrant
  | .dict fields =>
      relationFromJson P "caller_id"
        (fun callerId secret permissions m => { m with callerId, secret, permissions }) fields
  | _ => .error ⟨.type, "persisted grant must be an object"⟩

/-- Source: `runtime/persistence.py`, `trusted_peer_to_json`.  Kind: D -/
def trustedPeerToJson (t : TrustedPeer) : Value :=
  relationToJson "peer_id" t.peerId t.secret t.permissions t.toMaterial

/-- Source: `runtime/persistence.py`, `trusted_peer_from_json`.  Kind: D -/
def trustedPeerFromJson (P : PyStr) : Value → Except PyError TrustedPeer
  | .dict fields =>
      relationFromJson P "peer_id"
        (fun peerId secret permissions m => { m with peerId, secret, permissions }) fields
  | _ => .error ⟨.type, "persisted trusted peer must be an object"⟩

/-- Source: `runtime/persistence.py`, `pending_pairing_to_json`.  Kind: D -/
def pendingPairingToJson (t : PendingPairing) (permissions : Finset PermissionItem) : Value :=
  .dict ([("transaction_id", .str t.transactionId), ("peer_id", .str t.peerId.value),
    ("secret", .str t.secret), ("expires_at", .float (.finite t.expiresAt))] ++
    materialToJson t.toMaterial ++
    [("direction", .str t.direction.value), ("intent", .str t.intent.value),
      ("permissions", permissionsToJson permissions)])

/-- `direction`, which defaults to outbound. -/
def directionFromJson : Option Value → Except PyError Direction
  | none => .ok .outbound
  | some (.str s) =>
      if s = "outbound" then .ok .outbound
      else if s = "inbound" then .ok .inbound
      else .error ⟨.type, "persisted pending pairing direction is invalid"⟩
  | some _ => .error ⟨.type, "persisted pending pairing direction is invalid"⟩

/-- `intent`, which defaults to pair. -/
def intentFromJson : Option Value → Except PyError Intent
  | none => .ok .pair
  | some (.str s) =>
      if s = "pair" then .ok .pair
      else if s = "repair" then .ok .repair
      else .error ⟨.type, "persisted pending pairing intent is invalid"⟩
  | some _ => .error ⟨.type, "persisted pending pairing intent is invalid"⟩

/-- `expires_at`, which has to be a finite number. -/
def expiryFromJson (v : Value) : Except PyError ℚ := do
  match ← v.finite? with
  | some q => return q
  | none => throw ⟨.type, "persisted pending pairing expiry is invalid"⟩

/-- Source: `runtime/persistence.py`, `pending_pairing_from_json`.  Kind: D -/
def pendingPairingFromJson (P : PyStr) :
    Value → Except PyError (PendingPairing × Finset PermissionItem)
  | .dict fields => do
      let expiresAt ← expiryFromJson (← requiredField "expires_at" fields)
      let secret ← validatedSecret (getField "secret" fields)
      let items := (getField "permissions" fields).getD (.list [])
      raiseIf items.asTexts?.isNone
        ⟨.type, "persisted pending pairing permissions are invalid"⟩
      let direction ← directionFromJson (getField "direction" fields)
      let intent ← intentFromJson (getField "intent" fields)
      let transaction ← requiredField "transaction_id" fields
      let peer ← requiredField "peer_id" fields
      let peerId ← NodeId.new (P.text peer)
      let material ← materialFromJson P fields
      let permissions ← permissionsFromJson (some items)
      return ({ material with
        transactionId := P.text transaction, peerId, secret, expiresAt, direction, intent },
        permissions)
  | _ => .error ⟨.type, "persisted pending pairing must be an object"⟩

/-! ## What the decoder asks of what was written -/

/-- The fingerprints are texts and the generation is positive. -/
structure Material.Storable (m : Material) : Prop where
  /-- `identity_fingerprint` is a text, if any. -/
  identity : ∀ f ∈ m.identityFingerprint, ∃ s, f = .text s
  /-- `transport_fingerprint` is a text, if any. -/
  transport : ∀ f ∈ m.transportFingerprint, ∃ s, f = .text s
  /-- `transport_generation` is positive, if any. -/
  generation : ∀ g ∈ m.transportGeneration, 1 ≤ g

/-- The permissions are plain texts that name permissions. -/
def KnownTexts (permissions : Finset PermissionItem) : Prop :=
  ∀ p ∈ permissions, ∃ s ∈ knownPermissions, p = .text s

/-- What is printed of an enum member does not name a permission.  Kind: L -/
theorem str_mem_known_iff {p : PermissionItem} :
    p.str ∈ knownPermissions ↔ ∃ s ∈ knownPermissions, p = .text s := by
  cases p with
  | text s => simp [PermissionItem.str]
  | member q =>
      have hno : PermissionItem.str (.member q) ∉ knownPermissions := by
        cases q <;> decide
      simp [hno]

/-- Written permissions read as their sorted texts.  Kind: L -/
theorem asTexts?_permissionsToJson (permissions : Finset PermissionItem) :
    (permissionsToJson permissions).asTexts? =
      some ((permissions.val.map PermissionItem.str).sort (· ≤ ·)) :=
  Value.asTexts?_list _

/-- The permissions come back as the texts that were printed, if these name permissions.  Kind: L -/
theorem permissionsFromJson_toJson {permissions back : Finset PermissionItem} :
    permissionsFromJson (some (permissionsToJson permissions)) = .ok back ↔
      KnownTexts permissions ∧ back = permissions := by
  have hset : ((permissions.val.map PermissionItem.str).sort (· ≤ ·)).toFinset =
      permissions.image PermissionItem.str := by
    ext s
    simp
  have hknown : permissions.image PermissionItem.str ⊆ knownPermissions ↔
      KnownTexts permissions := by
    rw [Finset.image_subset_iff]
    exact forall₂_congr fun p _ => str_mem_known_iff
  simp only [permissionsFromJson, Option.bind_some, asTexts?_permissionsToJson, hset]
  by_cases h : KnownTexts permissions
  · have hback : (permissions.image PermissionItem.str).image PermissionItem.text =
        permissions := by
      rw [Finset.image_image]
      refine (Finset.image_congr fun p hp => ?_).trans Finset.image_id
      obtain ⟨s, -, rfl⟩ := h p hp
      rfl
    rw [if_pos (hknown.mpr h), hback]
    simp [h, eq_comm]
  · rw [if_neg (mt hknown.mp h)]
    simp [h]

/-- A fingerprint reads back if and only if it is a text.  Kind: L -/
theorem optionalText_fingerprint (P : PyStr) {f : Option Fingerprint} :
    (optionalText P (some (optionalValue Fingerprint.toValue f))).map Fingerprint.text = f ↔
      ∀ x ∈ f, ∃ s, x = .text s := by
  rcases f with _ | s | tag
  · simp [optionalValue, optionalText]
  · simp [optionalValue, optionalText, Fingerprint.toValue, P.text_str]
  · simp [optionalValue, optionalText, Fingerprint.toValue]

/-- An optional text reads back.  Kind: L -/
theorem optionalText_str (P : PyStr) (o : Option String) :
    optionalText P (some (optionalValue .str o)) = o := by
  cases o with
  | none => rfl
  | some s => simp [optionalValue, optionalText, P.text_str]

/-- A generation reads back if and only if it is positive.  Kind: L -/
theorem optionalGeneration_int {o back : Option ℤ} :
    optionalGeneration (some (optionalValue .int o)) = .ok back ↔
      (∀ g ∈ o, 1 ≤ g) ∧ back = o := by
  cases o with
  | none => simp [optionalValue, optionalGeneration, eq_comm]
  | some n =>
      by_cases hn : n < 1
      · simp [optionalValue, optionalGeneration, hn]
      · simp [optionalValue, optionalGeneration, hn, not_lt.mp hn, eq_comm]

/-- A secret reads back if and only if it is valid.  Kind: L -/
theorem validatedSecret_str {s back : String} :
    validatedSecret (some (.str s)) = .ok back ↔ validSecret s = true ∧ back = s := by
  by_cases h : validSecret s = true
  · simp [validatedSecret, h, eq_comm]
  · simp [validatedSecret, h]

/-- The decoder reads back the material it is given, or what it prints as.  Kind: L -/
theorem materialFromJson_toJson (P : PyStr) {m : Material} {fields : Fields}
    (hread : ∀ key ∈ (materialToJson m).map Prod.fst,
      getField key fields = getField key (materialToJson m)) :
    materialFromJson P fields = .ok m ↔ m.Storable := by
  have hi := hread "identity_fingerprint" (by simp [materialToJson])
  have ht := hread "transport_fingerprint" (by simp [materialToJson])
  have hr := hread "root_public_key" (by simp [materialToJson])
  have hg := hread "transport_generation" (by simp [materialToJson])
  have hp := hread "transport_proof" (by simp [materialToJson])
  simp only [materialToJson, getField_cons_self, getField_cons_of_ne, ne_eq, String.reduceEq,
    not_false_eq_true] at hi ht hr hg hp
  simp only [materialFromJson, hi, ht, hr, hg, hp, optionalText_str]
  constructor
  · intro h
    obtain ⟨generation, hgen, h⟩ := Except.bind_eq_ok.mp h
    obtain ⟨hpos, rfl⟩ := optionalGeneration_int.mp hgen
    have hm := Except.ok.inj h
    exact ⟨(optionalText_fingerprint P).mp (congrArg Material.identityFingerprint hm),
      (optionalText_fingerprint P).mp (congrArg Material.transportFingerprint hm), hpos⟩
  · intro h
    rw [optionalGeneration_int.mpr ⟨h.generation, rfl⟩,
      (optionalText_fingerprint P).mpr h.identity, (optionalText_fingerprint P).mpr h.transport]
    rfl

/-! ## The round trips -/

/-- What the decoders of grants and trusted peers ask of a record, and that of pending
transactions besides what it always finds. -/
structure Reloadable (permissions : Finset PermissionItem) (secret : String) (m : Material) :
    Prop where
  /-- Plain texts that name permissions. -/
  permissions : KnownTexts permissions
  /-- 64 hexadecimal digits. -/
  secret : validSecret secret = true
  /-- Fingerprints that are texts, and a positive generation. -/
  material : m.Storable

/-- Other fields around the material do not hide it.  Kind: L -/
theorem getField_around_material (front rest : Fields) (m : Material)
    (hfront : ∀ key ∈ (materialToJson m).map Prod.fst, getField key front = none) :
    ∀ key ∈ (materialToJson m).map Prod.fst,
      getField key (front ++ materialToJson m ++ rest) = getField key (materialToJson m) := by
  intro key hkey
  have hsome : (getField key (materialToJson m)).isSome := by
    simp only [materialToJson, List.map_cons, List.map_nil, List.mem_cons, List.not_mem_nil,
      or_false] at hkey
    rcases hkey with rfl | rfl | rfl | rfl | rfl <;> rfl
  rw [getField_append, getField_append, hfront key hkey, Option.none_or]
  exact Option.or_of_isSome hsome

/-- A relation is read back as what it was exactly if it is reloadable.  Kind: L -/
theorem relationFromJson_toJson {α : Type} (P : PyStr) {idKey : String}
    (hkey : idKey ∉ ["secret", "permissions", "identity_fingerprint", "transport_fingerprint",
      "root_public_key", "transport_generation", "transport_proof"])
    {record : NodeId → String → Finset PermissionItem → Material → α} {id : NodeId}
    {secret : String} {permissions : Finset PermissionItem} {m : Material}
    (hrecord : ∀ m', record id secret permissions m' = record id secret permissions m → m' = m) :
    relationFromJson P idKey record ([(idKey, .str id.value), ("secret", .str secret),
        ("permissions", permissionsToJson permissions)] ++ materialToJson m) =
        .ok (record id secret permissions m) ↔
      Reloadable permissions secret m := by
  simp only [List.mem_cons, List.not_mem_nil, or_false, not_or] at hkey
  obtain ⟨hks, hkp, hki, hkt, hkr, hkg, hkf⟩ := hkey
  have hread := getField_around_material [(idKey, .str id.value), ("secret", .str secret),
      ("permissions", permissionsToJson permissions)] [] m <| by
    intro key hkey
    simp only [materialToJson, List.map_cons, List.map_nil, List.mem_cons, List.not_mem_nil,
      or_false] at hkey
    have hne : idKey ≠ key := by
      rcases hkey with rfl | rfl | rfl | rfl | rfl <;> assumption
    rw [getField_cons_of_ne hne]
    rcases hkey with rfl | rfl | rfl | rfl | rfl <;> rfl
  rw [List.append_nil] at hread
  have hmaterial := materialFromJson_toJson P hread
  have hsecret : getField "secret" ([(idKey, .str id.value), ("secret", .str secret),
      ("permissions", permissionsToJson permissions)] ++ materialToJson m) =
      some (.str secret) := by
    rw [List.cons_append, getField_cons_of_ne hks]
    rfl
  have hpermissions : getField "permissions" ([(idKey, .str id.value), ("secret", .str secret),
      ("permissions", permissionsToJson permissions)] ++ materialToJson m) =
      some (permissionsToJson permissions) := by
    rw [List.cons_append, getField_cons_of_ne hkp]
    rfl
  have hid : requiredField idKey ([(idKey, .str id.value), ("secret", .str secret),
      ("permissions", permissionsToJson permissions)] ++ materialToJson m) =
      .ok (.str id.value) := by
    rw [requiredField, List.cons_append, getField_cons_self]
  simp only [relationFromJson, hid, hsecret, hpermissions, Except.bind_eq_ok]
  constructor
  · rintro ⟨permissions', hp, secret', hs, raw, hraw, id', hid', m', hm', h⟩
    obtain ⟨hknown, rfl⟩ := permissionsFromJson_toJson.mp hp
    obtain ⟨hvalid, rfl⟩ := validatedSecret_str.mp hs
    obtain rfl := Except.ok.inj hraw
    rw [P.text_str, NodeId.new_value] at hid'
    obtain rfl := Except.ok.inj hid'
    obtain rfl := hrecord m' (Except.ok.inj h)
    exact ⟨hknown, hvalid, hmaterial.mp hm'⟩
  · rintro ⟨hp, hs, hm⟩
    exact ⟨_, permissionsFromJson_toJson.mpr ⟨hp, rfl⟩, _, validatedSecret_str.mpr ⟨hs, rfl⟩, _,
      rfl, _, by rw [P.text_str, NodeId.new_value], _, hmaterial.mpr hm, rfl⟩

/-- An inbound grant reads back if and only if it is reloadable.  Kind: L -/
theorem peerGrantFromJson_toJson (P : PyStr) (g : PairingManager.PeerGrant) :
    peerGrantFromJson P (peerGrantToJson g) = .ok g ↔
      Reloadable g.permissions g.secret g.toMaterial :=
  relationFromJson_toJson P (by decide) fun _ => congrArg PairingManager.PeerGrant.toMaterial

/-- A trusted peer reads back if and only if it is reloadable.  Kind: L -/
theorem trustedPeerFromJson_toJson (P : PyStr) (t : TrustedPeer) :
    trustedPeerFromJson P (trustedPeerToJson t) = .ok t ↔
      Reloadable t.permissions t.secret t.toMaterial :=
  relationFromJson_toJson P (by decide) fun _ => congrArg TrustedPeer.toMaterial

/-- A direction reads back.  Kind: L -/
theorem directionFromJson_value (d : Direction) :
    directionFromJson (some (.str d.value)) = .ok d := by
  cases d <;> rfl

/-- An intent reads back.  Kind: L -/
theorem intentFromJson_value (i : Intent) : intentFromJson (some (.str i.value)) = .ok i := by
  cases i <;> rfl

/-- A pending transaction is read back with its permissions, exactly if both are reloadable.
Kind: L -/
theorem pendingPairingFromJson_toJson (P : PyStr) (t : PendingPairing)
    (permissions : Finset PermissionItem) :
    pendingPairingFromJson P (pendingPairingToJson t permissions) = .ok (t, permissions) ↔
      Reloadable permissions t.secret t.toMaterial := by
  have hread := getField_around_material
      [("transaction_id", Value.str t.transactionId), ("peer_id", .str t.peerId.value),
        ("secret", .str t.secret), ("expires_at", .float (.finite t.expiresAt))]
      [("direction", .str t.direction.value), ("intent", .str t.intent.value),
        ("permissions", permissionsToJson permissions)] t.toMaterial <| by
    intro key hkey
    simp only [materialToJson, List.map_cons, List.map_nil, List.mem_cons, List.not_mem_nil,
      or_false] at hkey
    rcases hkey with rfl | rfl | rfl | rfl | rfl <;> rfl
  have hmaterial := materialFromJson_toJson P hread
  simp only [pendingPairingFromJson, pendingPairingToJson]
  generalize hfields : [("transaction_id", Value.str t.transactionId),
    ("peer_id", .str t.peerId.value), ("secret", .str t.secret),
    ("expires_at", .float (.finite t.expiresAt))] ++ materialToJson t.toMaterial ++
    [("direction", .str t.direction.value), ("intent", .str t.intent.value),
      ("permissions", permissionsToJson permissions)] = fields at hmaterial
  have hexpires : requiredField "expires_at" fields = .ok (.float (.finite t.expiresAt)) := by
    rw [← hfields]
    rfl
  have hsecret : getField "secret" fields = some (.str t.secret) := by
    rw [← hfields]
    rfl
  have hpermissions : getField "permissions" fields = some (permissionsToJson permissions) := by
    rw [← hfields]
    rfl
  have hdirection : getField "direction" fields = some (.str t.direction.value) := by
    rw [← hfields]
    rfl
  have hintent : getField "intent" fields = some (.str t.intent.value) := by
    rw [← hfields]
    rfl
  have htransaction : requiredField "transaction_id" fields = .ok (.str t.transactionId) := by
    rw [← hfields]
    rfl
  have hpeer : requiredField "peer_id" fields = .ok (.str t.peerId.value) := by
    rw [← hfields]
    rfl
  simp only [hexpires, hsecret, hpermissions, hdirection, hintent, htransaction, hpeer,
    directionFromJson_value, intentFromJson_value, Option.getD_some, Except.bind_eq_ok,
    Except.raiseIf_eq_ok]
  constructor
  · rintro ⟨_, -, expires, -, secret, hs, _, -, _, -, _, -, _, -, _, -, id, -, m, hm,
      permissions', hps, h⟩
    obtain ⟨hvalid, rfl⟩ := validatedSecret_str.mp hs
    obtain ⟨hknown, rfl⟩ := permissionsFromJson_toJson.mp hps
    have hback := congrArg (fun r => r.1.toMaterial) (Except.ok.inj h)
    obtain rfl : m = t.toMaterial := hback
    exact ⟨hknown, hvalid, hmaterial.mp hm⟩
  · rintro ⟨hp, hs, hm⟩
    refine ⟨_, rfl, t.expiresAt, rfl, _, validatedSecret_str.mpr ⟨hs, rfl⟩, (), ?_, _, rfl, _, rfl,
      _, rfl, _, rfl, _, by rw [P.text_str, NodeId.new_value], _, hmaterial.mpr hm, _,
      permissionsFromJson_toJson.mpr ⟨hp, rfl⟩, ?_⟩
    · rw [asTexts?_permissionsToJson]
      exact Bool.false_ne_true
    · rw [P.text_str]
      rfl

/-! ## Where the records come from -/

/-- A generation that was read is positive.  Kind: L -/
theorem optionalGeneration_pos {v : Option Value} {back : Option ℤ}
    (h : optionalGeneration v = .ok back) : ∀ g ∈ back, 1 ≤ g := by
  unfold optionalGeneration at h
  split at h
  · cases h
    simp
  · cases h
    simp
  · split at h
    · cases h
    · cases h
      simp_all
  · cases h

/-- What was read from the document can be written and read again.  Kind: L -/
theorem materialFromJson_storable {P : PyStr} {fields : Fields} {m : Material}
    (h : materialFromJson P fields = .ok m) : m.Storable := by
  obtain ⟨generation, hgen, h⟩ := Except.bind_eq_ok.mp h
  cases h
  exact ⟨by simp, by simp, optionalGeneration_pos hgen⟩

/-- Permissions that were read are known.  Kind: L -/
theorem permissionsFromJson_known {v : Option Value} {back : Finset PermissionItem}
    (h : permissionsFromJson v = .ok back) : KnownTexts back := by
  unfold permissionsFromJson at h
  split at h
  · cases h
  · split at h
    · next items _ hknown =>
        cases h
        intro p hp
        obtain ⟨s, hs, rfl⟩ := Finset.mem_image.mp hp
        exact ⟨s, hknown hs, rfl⟩
    · cases h

/-- A secret that was read is valid.  Kind: L -/
theorem validatedSecret_valid {v : Option Value} {back : String}
    (h : validatedSecret v = .ok back) : validSecret back = true := by
  unfold validatedSecret at h
  split at h
  · split at h
    · cases h
      assumption
    · cases h
  · cases h

/-- A relation that was read from the document can be written and read again.  Kind: L -/
theorem reloadable_of_relationFromJson {α : Type} {P : PyStr} {idKey : String}
    {record : NodeId → String → Finset PermissionItem → Material → α} {fields : Fields} {r : α}
    (h : relationFromJson P idKey record fields = .ok r) :
    ∃ id secret permissions m, r = record id secret permissions m ∧
      Reloadable permissions secret m := by
  simp only [relationFromJson, Except.bind_eq_ok] at h
  obtain ⟨permissions, hp, secret, hs, raw, -, id, -, m, hm, h⟩ := h
  exact ⟨id, secret, permissions, m, (Except.ok.inj h).symm, permissionsFromJson_known hp,
    validatedSecret_valid hs, materialFromJson_storable hm⟩

/-- A set that holds an enum member is not read back at all.  Kind: L -/
theorem permissionsFromJson_member {permissions : Finset PermissionItem} {p : NodePermission}
    (hp : .member p ∈ permissions) :
    permissionsFromJson (some (permissionsToJson permissions)) =
      .error ⟨.value, "persisted permissions contain an unknown value"⟩ := by
  have hno : ¬KnownTexts permissions := by
    intro h
    obtain ⟨s, -, hs⟩ := h _ hp
    cases hs
  rcases h : permissionsFromJson (some (permissionsToJson permissions)) with e | back
  · simp only [permissionsFromJson, Option.bind_some, asTexts?_permissionsToJson] at h
    split at h
    · cases h
    · exact h.symm
  · exact absurd (permissionsFromJson_toJson.mp h).1 hno

/-- Every trusted peer that a flow stores with its accepted permissions as enum members makes the
document unreadable.  Kind: L -/
theorem trustedPeerFromJson_members (P : PyStr) {t : TrustedPeer}
    {accepted : Finset NodePermission} (ht : t.permissions = permissionMembers accepted)
    (hne : accepted.Nonempty) :
    trustedPeerFromJson P (trustedPeerToJson t) =
      .error ⟨.value, "persisted permissions contain an unknown value"⟩ := by
  obtain ⟨p, hp⟩ := hne
  have hmember : PermissionItem.member p ∈ t.permissions := by
    rw [ht]
    exact Finset.mem_image_of_mem _ hp
  have hread : getField "permissions" ([("peer_id", Value.str t.peerId.value),
      ("secret", .str t.secret), ("permissions", permissionsToJson t.permissions)] ++
      materialToJson t.toMaterial) = some (permissionsToJson t.permissions) := rfl
  simp only [trustedPeerFromJson, trustedPeerToJson, relationToJson, relationFromJson, hread,
    permissionsFromJson_member hmember]
  rfl

/-! ## Saving and loading -/

/-- Each of the three codecs gives a record back exactly if its permissions are plain texts that
name permissions, its secret is 64 hexadecimal digits, its fingerprints are texts and its
generation is positive; the encoder asks nothing of this.  Kind: P -/
theorem trust_codec_round_trip_iff (P : PyStr) :
    (∀ t : TrustedPeer, trustedPeerFromJson P (trustedPeerToJson t) = .ok t ↔
      Reloadable t.permissions t.secret t.toMaterial) ∧
    (∀ g : PairingManager.PeerGrant, peerGrantFromJson P (peerGrantToJson g) = .ok g ↔
      Reloadable g.permissions g.secret g.toMaterial) ∧
    ∀ (t : PendingPairing) (permissions : Finset PermissionItem),
      pendingPairingFromJson P (pendingPairingToJson t permissions) = .ok (t, permissions) ↔
        Reloadable permissions t.secret t.toMaterial :=
  ⟨trustedPeerFromJson_toJson P, peerGrantFromJson_toJson P, pendingPairingFromJson_toJson P⟩

/-- A fingerprint that was written as a number comes back as a text. -/
example : (materialFromJson (.ofRepr fun _ => "7") [("identity_fingerprint", .int 7)]).map
    Material.identityFingerprint = .ok (some (Fingerprint.text "7")) := rfl

/-- The material both sides of the sample pairing present. -/
def pairedMaterial (fingerprint : String) : Material :=
  ⟨some (.text "identity"), some (.text fingerprint), some "root", some 1, some "proof"⟩

/-- The manager of the initiator with its transaction begun. -/
def pairingBegun : PairingManager :=
  let local_ : NodeId := .named "initiator"
  let t : PendingPairing := (PairingManager.new local_).newTransaction 0 "transaction"
    "00112233445566778899aabbccddeeff00112233445566778899aabbccddeeff" (.named "target") none
    (pairedMaterial "initiator transport") .outbound .pair
  { PairingManager.new local_ with pending := Dict.empty.insert "transaction" t }

/-- What the flow hands to `accept_grant`: the accepted permissions are `NodePermission(item)`. -/
def acceptedGrant : PairingManager.PeerGrant :=
  { pairedMaterial "initiator transport" with
    callerId := .named "initiator"
    secret := "00112233445566778899aabbccddeeff00112233445566778899aabbccddeeff"
    permissions := permissionMembers {.readState} }

/-- The trust that comes of it. -/
def acceptedTrust : TrustedPeer :=
  { pairedMaterial "target transport" with
    peerId := .named "target"
    secret := "00112233445566778899aabbccddeeff00112233445566778899aabbccddeeff"
    permissions := permissionMembers {.readState} }

/-- A pairing succeeds, and the trust it stored cannot be loaded again. -/
theorem accepted_trust_not_reloaded :
    (∃ m, pairingBegun.acceptGrant 1 "transaction" ⟨"target", by decide⟩ acceptedGrant
        (pairedMaterial "target transport") = .ok (acceptedTrust, m) ∧
      m.trusted.get? ⟨"target", by decide⟩ = some acceptedTrust) ∧
    ∀ P, trustedPeerFromJson P (trustedPeerToJson acceptedTrust) =
      .error ⟨.value, "persisted permissions contain an unknown value"⟩ := by
  have hrun : ((pairingBegun.acceptGrant 1 "transaction" ⟨"target", by decide⟩ acceptedGrant
      (pairedMaterial "target transport")).toOption.map fun r =>
        (r.1, r.2.trusted.get? ⟨"target", by decide⟩)) =
      some (acceptedTrust, some acceptedTrust) := by
    decide +kernel
  have hmember : NodePermission.readState ∈ ({.readState} : Finset NodePermission) := by decide
  obtain ⟨⟨t, m⟩, hok, hr⟩ := Option.map_eq_some_iff.mp hrun
  obtain ⟨rfl, hget⟩ := Prod.mk.inj hr
  exact ⟨⟨m, Except.eq_ok_of_toOption hok, hget⟩,
    fun P => trustedPeerFromJson_members P rfl ⟨_, hmember⟩⟩

end ExpraConnect
