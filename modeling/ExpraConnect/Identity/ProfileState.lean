import ExpraConnect.Pairing.Target

/-!
# The identity files of a profile

`identity/profile_state.py`, `identity/__init__.py`, `identity/device_identity.py`.

A profile holds two identities, the node's and the device's, each split over a MessagePack bundle
with the secrets and a text file with the metadata; older profiles hold one JSON text instead.

* `KeyCodec`: hex, base64, Ed25519 and PyYAML, as far as the loaders use them;
* `TextFile`: a text as the YAML and the JSON parser read it; `SplitFiles`: the files of an
  identity;
* `ProfileDisk`: the files, with the states they went through: one for every atomic replacement;
* `SplitFormat`: what the two identities have in common, with `save` and `load`;
* `NodeIdentity`, `DeviceIdentity`: the identities, their documents and the strict readers;
* `loadProfileIdentity`: load, migrate or create the pair.

The status of the hardware hint, which only operators look at, is left out.
-/

namespace ExpraConnect.Profile

open ExpraConnect.Lib

/-! ## Keys and texts -/

mutual

/-- `json.dumps(value)` does not raise: no value that JSON does not have. -/
def plain : Value → Bool
  | .foreign _ => false
  | .list items => plainList items
  | .dict fields => plainFields fields
  | _ => true

/-- `plain` of every item. -/
def plainList : List Value → Bool
  | [] => true
  | v :: rest => plain v && plainList rest

/-- `plain` of every field. -/
def plainFields : List (String × Value) → Bool
  | [] => true
  | (_, v) :: rest => plain v && plainFields rest

end

/-- An object that `json.loads` returns.  Kind: D -/
structure JsonObject where
  /-- Its fields. -/
  fields : Fields
  /-- JSON has no dates. -/
  isPlain : plainFields fields = true

/-- Text that YAML reads in double quotes as JSON does: printable ASCII. -/
def asciiText (text : String) : Bool := text.toList.all fun c => ' ' ≤ c && c ≤ '~'

/-- A value that YAML reads as JSON does: no real number and no text beyond ASCII. -/
def asciiValue : Value → Bool
  | .null | .bool _ | .int _ => true
  | .str text => asciiText text
  | .list items => items.all fun item => (item.asStr?).any asciiText
  | _ => false

/-- What the code uses of `bytes.fromhex`, `base64`, Ed25519 and PyYAML, which also reads texts that
`json.dumps` wrote; `K` are the strings of 32 bytes.  Kind: D -/
structure KeyCodec (K : Type) where
  /-- `key.hex()` -/
  hex : K → String
  /-- `bytes.fromhex(text)`, if it yields 32 bytes. -/
  unhex : String → Option K
  /-- `base64.b64encode(key).decode("ascii")` -/
  base64 : K → String
  /-- `base64.b64decode(text, validate=True)`, if it yields 32 bytes. -/
  unbase64 : String → Option K
  /-- The public key of a private key. -/
  publicKey : K → K
  /-- `_secret_fingerprint` -/
  secretFingerprint : K → String
  /-- `fingerprint_for_public_key` -/
  keyFingerprint : K → String
  /-- `yaml.safe_load(json.dumps(document))`; `none` where it raises. -/
  yamlOfJson : JsonObject → Option Fields
  /-- Hexadecimal text reads back. -/
  unhex_hex : ∀ k, unhex (hex k) = some k
  /-- It is 64 digits long. -/
  hex_valid : ∀ k, validWireSecret (hex k) = true
  /-- Base64 text reads back. -/
  unbase64_base64 : ∀ k, unbase64 (base64 k) = some k
  /-- Keys and digests are written in ASCII. -/
  ascii : ∀ k, asciiText (base64 k) = true ∧ asciiText (secretFingerprint k) = true ∧
    asciiText (keyFingerprint k) = true
  /-- YAML reads an ASCII value of an ASCII name as JSON does. -/
  yaml_ascii : ∀ {document fields key v}, yamlOfJson document = some fields →
    asciiText key = true → getField key document.fields = some v → asciiValue v = true →
      getField key fields = some v
  /-- It adds no ASCII name. -/
  yaml_missing : ∀ {document fields key}, yamlOfJson document = some fields →
    asciiText key = true → getField key document.fields = none → getField key fields = none
  /-- It reads a real number as that number, or takes it for a text, such as `1e+16`. -/
  yaml_number : ∀ {document fields key x}, yamlOfJson document = some fields →
    asciiText key = true → getField key document.fields = some (.float x) →
      getField key fields = some (.float x) ∨ ∃ text, getField key fields = some (.str text)
  /-- It reads nothing that JSON does not have. -/
  yaml_plain : ∀ {document fields}, yamlOfJson document = some fields → plainFields fields = true

/-- A text file, as `yaml.safe_load` and `json.loads` read it; `none` where they raise or return
something that is not a `dict`, which no loader accepts.  Kind: D -/
structure TextFile where
  /-- `yaml.safe_load(text)` -/
  yaml : Option Fields
  /-- `json.loads(text)` -/
  json : Option JsonObject

/-- A document written as YAML, which PyYAML reads as it wrote it. -/
def TextFile.ofYaml (document : Fields) : TextFile := ⟨some document, none⟩

/-- A document written as JSON, and what YAML reads of it. -/
def TextFile.ofJson (yamlOfJson : JsonObject → Option Fields) (document : JsonObject) : TextFile :=
  ⟨yamlOfJson document, some document⟩

/-- YAML reads the named fields of a JSON text as JSON does. -/
def TextFile.Keeps (names : List String) (text : TextFile) : Prop :=
  ∃ fields document, text.yaml = some fields ∧ text.json = some document ∧
    ∀ key ∈ names, getField key fields = getField key document.fields

/-- The extension of a metadata file. -/
inductive Suffix where
  | yaml | json
  deriving DecidableEq

/-- The files of one identity; a bundle that is not of its shape is `some none`. -/
structure SplitFiles (B : Type) where
  /-- The `.yaml` file. -/
  yaml : Option TextFile
  /-- The `.json` file. -/
  json : Option TextFile
  /-- The `.msgpack` file. -/
  msgpack : Option (Option B)

section files

variable {B : Type}

/-- The metadata file with an extension. -/
def SplitFiles.text (s : SplitFiles B) : Suffix → Option TextFile
  | .yaml => s.yaml
  | .json => s.json

/-- Replace a metadata file. -/
def SplitFiles.setText (s : SplitFiles B) (text : TextFile) : Suffix → SplitFiles B
  | .yaml => { s with yaml := some text }
  | .json => { s with json := some text }

/-- Replace the bundle. -/
def SplitFiles.setBundle (s : SplitFiles B) (bundle : Option B) : SplitFiles B :=
  { s with msgpack := some bundle }

end files

/-- The secrets of a node.  Source: `identity/__init__.py`, `_secret_document`.  Kind: D -/
structure SecretBundle (K : Type) where
  /-- `node_id` -/
  nodeId : String
  /-- `secret` -/
  secret : K
  /-- `root_private_key` -/
  root : K

/-- The secrets of a device.  Source: `identity/device_identity.py`, `save`.  Kind: D -/
structure DeviceBundle (K : Type) where
  /-- `node_id` -/
  nodeId : String
  /-- `fingerprint` -/
  fingerprint : String
  /-- `private_key` -/
  privateKey : K

/-- The files of a profile that the loader looks at.  Kind: D -/
structure ProfileFiles (K : Type) where
  /-- `identity.*` -/
  identity : SplitFiles (SecretBundle K)
  /-- `device_identity.*` -/
  device : SplitFiles (DeviceBundle K)
  /-- Any other file of `dependent_names`, a generation or a certificate. -/
  dependents : Bool

/-- The files, and the states they went through so far, one for every replacement.  A crash leaves
one of these.  Kind: D -/
structure ProfileDisk (K : Type) where
  /-- The files. -/
  files : ProfileFiles K
  /-- The states so far, this one included. -/
  visited : List (ProfileFiles K)

/-- Code that works on the profile. -/
abbrev ProfileM (K : Type) := PyM (ProfileDisk K)

/-- The digests and the sources a hint may have.
Source: `identity/device_hardware.py`, `DeviceHardwareHint.__post_init__`.  Kind: D -/
def Hint.Valid (digest : String) (sources : List String) : Prop :=
  (digest.length = 64 ∧ ∀ c ∈ digest.toList, ('0' ≤ c ∧ c ≤ '9') ∨ ('a' ≤ c ∧ c ≤ 'f')) ∧
    (∀ s ∈ sources, s ≠ "" ∧
      ∀ c ∈ s.toList, ('a' ≤ c ∧ c ≤ 'z') ∨ ('0' ≤ c ∧ c ≤ '9') ∨ c = '-') ∧
    sources.Pairwise (· < ·)

instance (digest : String) (sources : List String) : Decidable (Hint.Valid digest sources) :=
  inferInstanceAs (Decidable ((_ ∧ _) ∧ _ ∧ _))

/-- What is known of the hardware.
Source: `identity/device_hardware.py`, `DeviceHardwareHint`.  Kind: D -/
structure Hint where
  /-- `digest` -/
  digest : String
  /-- `sources_present` -/
  sources : List String
  /-- It passed the constructor's checks. -/
  valid : Hint.Valid digest sources
  /-- A hint that is collected or read has a source. -/
  nonempty : sources ≠ []

/-- What a process draws or reads from outside: fresh identities, the clock, the hardware.
Kind: D -/
structure Fresh (K : Type) where
  /-- `secrets.token_hex(16)` -/
  nodeId : NodeId
  /-- `secrets.token_hex(32)`, decoded. -/
  secret : K
  /-- `Ed25519PrivateKey.generate()` -/
  root : K
  /-- `time.time()` -/
  now : ℚ
  /-- It is after 1970. -/
  now_pos : 0 < now
  /-- `collect_hardware_hint(provider)` -/
  hint : Option Hint

/-! ## Saving and loading -/

/-- `os.replace`: one atomic replacement. -/
def replaceFile {K : Type} (f : ProfileFiles K → ProfileFiles K) : ProfileM K Unit :=
  modify fun d => ⟨f d.files, d.visited ++ [f d.files]⟩

/-- `_save_text_document`: a `.json` path is written as strict JSON.
Source: `persistence.py`, `_save_text_document`.  Kind: D -/
def writeText (yamlOfJson : JsonObject → Option Fields) (suffix : Suffix) (document : Fields) :
    Except PyError TextFile :=
  match suffix with
  | .yaml => .ok (.ofYaml document)
  | .json =>
      if h : Value.encodableFields document = true ∧ plainFields document = true then
        .ok (.ofJson yamlOfJson ⟨document, h.2⟩)
      else .error ⟨.value, "state cannot be encoded as JSON"⟩

/-- What `NodeIdentity` and `DeviceIdentity` do alike, with what they differ in. -/
structure SplitFormat (K α B : Type) where
  /-- The files of the identity. -/
  files : ProfileFiles K → SplitFiles B
  /-- Replace them. -/
  setFiles : ProfileFiles K → SplitFiles B → ProfileFiles K
  /-- `yaml.safe_load` of a JSON text. -/
  yamlOfJson : JsonObject → Option Fields
  /-- The schema version of split metadata. -/
  version : ℤ
  /-- The bundle, if it reads back. -/
  bundle : α → Option B
  /-- The metadata. -/
  metadata : α → Except PyError Fields
  /-- `_from_profile` -/
  fromProfile : Fields → Option (Option B) → Except PyError α
  /-- `from_json` -/
  fromJson : Option JsonObject → Except PyError α

namespace SplitFormat

variable {K α B : Type} (F : SplitFormat K α B)

/-- The bundle is replaced first, the metadata second.
Source: `identity/__init__.py`, `save`; `identity/device_identity.py`, `save`.  Kind: D -/
def save (suffix : Suffix) (a : α) : ProfileM K Unit := do
  replaceFile fun p => F.setFiles p ((F.files p).setBundle (F.bundle a))
  let metadata ← PyM.ofExcept (F.metadata a)
  let text ← PyM.ofExcept (writeText F.yamlOfJson suffix metadata)
  replaceFile fun p => F.setFiles p ((F.files p).setText text suffix)

/-- The metadata is of the split kind. -/
def isSplit (document : Fields) : Bool :=
  (getField "schema_version" document).any (Value.equalsInt F.version)

/-- A split record is read, an older one is read and saved again as a split one.
Source: `identity/__init__.py`, `load`; `identity/device_identity.py`, `load`.  Kind: D -/
def load (suffix : Suffix) : ProfileM K α := do
  let files := F.files (← get).files
  match (files.text suffix).bind TextFile.yaml with
  | some document =>
      if F.isSplit document then PyM.ofExcept (F.fromProfile document files.msgpack)
      else
        let a ← PyM.ofExcept (F.fromJson ((files.text suffix).bind TextFile.json))
        F.save suffix a
        return a
  | none => throw ⟨.value, "identity document is malformed"⟩

end SplitFormat

/-- The fields of a document that are not the identity's own. -/
def extensionsOf (names : List String) (document : Fields) : Fields :=
  document.filter fun p => p.1 ∉ names

/-- No extension has a known name.  Kind: L -/
theorem not_mem_of_mem_extensionsOf {names : List String} {document : Fields} :
    ∀ p ∈ extensionsOf names document, p.1 ∉ names := by
  intro p hp
  simpa using (List.mem_filter.mp hp).2

/-! ## The node's identity -/

/-- Source: `identity/__init__.py`, `_IDENTITY_JSON_FIELDS`.  Kind: D -/
def identityJsonFields : List String :=
  ["version", "schema_version", "node_id", "secret", "root_private_key",
    "device_identity_expected", "root_public_key", "secret_fingerprint"]

/-- Source: `identity/__init__.py`, `NodeIdentity`.  Kind: D -/
structure NodeIdentity (K : Type) where
  /-- `node_id` -/
  nodeId : NodeId
  /-- `secret` -/
  secret : String
  /-- `root_private_key`, decoded. -/
  root : K
  /-- `device_identity_expected` -/
  expected : Bool
  /-- `_extensions` -/
  extensions : Fields
  /-- 64 characters of hexadecimal text. -/
  secret_valid : validWireSecret secret = true
  /-- The extensions are not the identity's own fields. -/
  names_valid : ∀ p ∈ extensions, p.1 ∉ identityJsonFields

namespace NodeIdentity

variable {K : Type} (C : KeyCodec K) (ρ : Fresh K)

/-- `cls(node_id, secret, root_private_key, device_identity_expected, extensions)`; without a root
key one is drawn.  Source: `identity/__init__.py`, `NodeIdentity.__post_init__`.  Kind: D -/
def build (nodeId : NodeId) (secret : String) (root : Option String) (expected : Bool)
    (document : Fields) : Except PyError (NodeIdentity K) := do
  if hsecret : validWireSecret secret = true then
    match (match root with
      | none => some ρ.root
      | some text => C.unbase64 text) with
    | some root =>
        return ⟨nodeId, secret, root, expected, extensionsOf identityJsonFields document, hsecret,
          not_mem_of_mem_extensionsOf⟩
    | none => throw ⟨.value, "invalid root signing key"⟩
  else throw ⟨.value, "identity secret must be 256-bit hex text"⟩

/-- A version field of an older document. -/
def legacyVersion (name : String) (document : Fields) : Except PyError (Option ℤ) :=
  match getField name document with
  | none => .ok none
  | some (.int n) =>
      if n = 1 ∨ n = 2 then .ok (some n)
      else .error ⟨.value, "identity schema version is invalid"⟩
  | some _ => .error ⟨.value, "identity schema version is invalid"⟩

/-- The root key text of an older document, if it has one. -/
def legacyRoot (document : Fields) : Except PyError (Option String) :=
  match getField "root_private_key" document with
  | none => .ok none
  | some (.str text) =>
      if text = "" then .error ⟨.value, "identity document is malformed"⟩ else .ok (some text)
  | some _ => .error ⟨.value, "identity document is malformed"⟩

/-- Source: `identity/__init__.py`, `from_json`.  Kind: D -/
def fromJson : Option JsonObject → Except PyError (NodeIdentity K)
  | some ⟨document, _⟩ => do
      let version ← legacyVersion "version" document
      let schemaVersion ← legacyVersion "schema_version" document
      raiseIf (version.isSome ∧ schemaVersion.isSome ∧ version ≠ schemaVersion)
        ⟨.value, "identity schema versions conflict"⟩
      match getField "node_id" document, getField "secret" document with
      | some (.str nodeId), some (.str secret) =>
          let root ← legacyRoot document
          match (getField "device_identity_expected" document).getD (.bool false) with
          | .bool expected =>
              let nodeId ← NodeId.new nodeId
              build C ρ nodeId secret root expected document
          | _ => throw ⟨.value, "identity document is malformed"⟩
      | _, _ => throw ⟨.value, "identity document is malformed"⟩
  | none => throw ⟨.value, "identity document is malformed"⟩

/-- The bundle and the metadata have to match.
Source: `identity/__init__.py`, `_from_profile`.  Kind: D -/
def fromProfile (metadata : Fields) (msgpack : Option (Option (SecretBundle K))) :
    Except PyError (NodeIdentity K) :=
  match getField "node_id" metadata, getField "root_public_key" metadata,
    getField "secret_fingerprint" metadata,
    (getField "device_identity_expected" metadata).getD (.bool false) with
  | some (.str nodeId), some (.str rootPublicKey), some (.str secretFingerprint), .bool expected =>
      match msgpack with
      | none => throw ⟨.value, "identity secrets are missing"⟩
      | some none => throw ⟨.value, "identity secret bundle is malformed or mismatched"⟩
      | some (some bundle) => do
          raiseIf (bundle.nodeId ≠ nodeId)
            ⟨.value, "identity secret bundle is malformed or mismatched"⟩
          raiseIf (C.base64 (C.publicKey bundle.root) ≠ rootPublicKey ∨
              C.secretFingerprint bundle.secret ≠ secretFingerprint)
            ⟨.value, "identity secret bundle does not match its metadata"⟩
          let nodeId ← NodeId.new nodeId
          return ⟨nodeId, C.hex bundle.secret, bundle.root, expected,
            extensionsOf identityJsonFields metadata, C.hex_valid _, not_mem_of_mem_extensionsOf⟩
  | _, _, _, _ => throw ⟨.value, "identity metadata is malformed"⟩

/-- Source: `identity/__init__.py`, `create`.  Kind: D -/
def create : NodeIdentity K :=
  ⟨ρ.nodeId, C.hex ρ.secret, ρ.root, false, [], C.hex_valid _, by simp⟩

/-- A secret with blanks in it is short of 32 bytes.
Source: `identity/__init__.py`, `_secret_document`.  Kind: D -/
def secretDocument (i : NodeIdentity K) : Option (SecretBundle K) :=
  (C.unhex i.secret).map fun secret => ⟨i.nodeId.value, secret, i.root⟩

/-- Source: `identity/__init__.py`, `_profile_metadata`.  Kind: D -/
def profileMetadata (i : NodeIdentity K) : Except PyError Fields :=
  match C.unhex i.secret with
  | some secret =>
      .ok (i.extensions ++
        [("schema_version", .int 3),
          ("node_id", .str i.nodeId.value),
          ("root_public_key", .str (C.base64 (C.publicKey i.root))),
          ("secret_fingerprint", .str (C.secretFingerprint secret))] ++
        if i.expected then [("device_identity_expected", .bool true)] else [])
  | none => .error ⟨.value, "identity secret must be 256-bit binary data"⟩

end NodeIdentity

/-- The node's identity as a split one.  Source: `identity/__init__.py`.  Kind: D -/
def nodeFormat {K : Type} (C : KeyCodec K) (ρ : Fresh K) :
    SplitFormat K (NodeIdentity K) (SecretBundle K) where
  files := ProfileFiles.identity
  setFiles p x := { p with identity := x }
  yamlOfJson := C.yamlOfJson
  version := 3
  bundle := NodeIdentity.secretDocument C
  metadata := NodeIdentity.profileMetadata C
  fromProfile := NodeIdentity.fromProfile C
  fromJson := NodeIdentity.fromJson C ρ

/-! ## The device's identity -/

/-- Source: `identity/device_identity.py`, `_DEVICE_IDENTITY_JSON_FIELDS`.  Kind: D -/
def deviceIdentityJsonFields : List String :=
  ["schema_version", "node_id", "public_key", "private_key", "fingerprint", "created_at",
    "hardware_hint_digest", "hardware_hint_sources"]

/-- The public key and the fingerprint are those of the private key, which the constructor checks.
Source: `identity/device_identity.py`, `DeviceIdentity`.  Kind: D -/
structure DeviceIdentity (K : Type) where
  /-- `node_id` -/
  nodeId : NodeId
  /-- `_private_key_bytes` -/
  privateKey : K
  /-- `created_at` -/
  createdAt : ℚ
  /-- `hardware_hint` -/
  hardwareHint : Option Hint
  /-- `_extensions` -/
  extensions : Fields
  /-- The creation time is positive. -/
  created_valid : 0 < createdAt
  /-- The extensions are not the identity's own fields. -/
  names_valid : ∀ p ∈ extensions, p.1 ∉ deviceIdentityJsonFields
  /-- The extensions went through JSON. -/
  extensions_plain : plainFields extensions = true

/-- Extensions of plain fields are plain.  Kind: L -/
theorem plainFields_filter {names : List String} {document : Fields}
    (h : plainFields document = true) : plainFields (extensionsOf names document) = true := by
  induction document with
  | nil => rfl
  | cons p rest ih =>
      obtain ⟨k, v⟩ := p
      simp only [plainFields, Bool.and_eq_true] at h
      have hrest := ih h.2
      simp only [extensionsOf, List.filter_cons] at hrest ⊢
      split
      · simp only [plainFields, h.1, Bool.true_and]
        exact hrest
      · exact hrest

namespace DeviceIdentity

variable {K : Type} (C : KeyCodec K)

/-- `public_key` -/
def publicKey (a : DeviceIdentity K) : K := C.publicKey a.privateKey

/-- `fingerprint` -/
def fingerprint (a : DeviceIdentity K) : String := C.keyFingerprint (a.publicKey C)

/-- The hint of a document, if it has one.
Source: `identity/device_identity.py`, `_from_document`.  Kind: D -/
def hintOf (document : Fields) : Except PyError (Option Hint) :=
  match ((getField "hardware_hint_sources" document).getD (.list [])).asTexts? with
  | none => .error ⟨.value, "device identity is malformed"⟩
  | some sources =>
      match getField "hardware_hint_digest" document with
      | none | some .null => .ok none
      | some (.str digest) =>
          if h : Hint.Valid digest sources ∧ sources ≠ [] then
            .ok (some ⟨digest, sources, h.1, h.2⟩)
          else .error ⟨.value, "device identity is malformed"⟩
      | some _ => .error ⟨.value, "device identity is malformed"⟩

/-- `_decode_bytes`.  Source: `identity/device_identity.py`.  Kind: D -/
def decodeBytes : Option Value → Except PyError K
  | some (.str text) =>
      match C.unbase64 text with
      | some key => .ok key
      | none => .error ⟨.value, "device identity is malformed"⟩
  | _ => .error ⟨.value, "device identity is malformed"⟩

/-- Source: `identity/device_identity.py`, `_from_document`, `__post_init__`.  Kind: D -/
def fromDocument [DecidableEq K] (document : Fields) (hplain : plainFields document = true) :
    Except PyError (DeviceIdentity K) := do
  raiseIf (¬(getField "schema_version" document).any (Value.equalsInt 1))
    ⟨.value, "unsupported device identity schema"⟩
  match getField "node_id" document with
  | some (.str nodeId) =>
      let nodeId ← NodeId.new nodeId
      let publicKey ← decodeBytes C (getField "public_key" document)
      let privateKey ← decodeBytes C (getField "private_key" document)
      let hint ← hintOf document
      match getField "fingerprint" document, getField "created_at" document with
      | some (.str fingerprint), some createdAt =>
          match createdAt.finite? with
          | .ok (some createdAt) =>
              if hcreated : 0 < createdAt then
                raiseIf (fingerprint ≠ C.keyFingerprint publicKey ∨
                    C.publicKey privateKey ≠ publicKey)
                  ⟨.value, "device identity is malformed"⟩
                return ⟨nodeId, privateKey, createdAt, hint,
                  extensionsOf deviceIdentityJsonFields document, hcreated,
                  not_mem_of_mem_extensionsOf, plainFields_filter hplain⟩
              else throw ⟨.value, "device identity is malformed"⟩
          | _ => throw ⟨.value, "device identity is malformed"⟩
      | _, _ => throw ⟨.value, "device identity is malformed"⟩
  | _ => throw ⟨.value, "device identity is malformed"⟩

/-- Source: `identity/device_identity.py`, `from_json`.  Kind: D -/
def fromJson [DecidableEq K] (expectedNodeId : NodeId) :
    Option JsonObject → Except PyError (DeviceIdentity K)
  | some ⟨document, hplain⟩ => do
      let a ← fromDocument C document hplain
      raiseIf (a.nodeId ≠ expectedNodeId)
        ⟨.value, "device identity NodeId does not match local NodeId"⟩
      return a
  | none => throw ⟨.value, "device identity is malformed"⟩

/-- The legacy document that split metadata stands for, with the private key of the bundle.
Source: `identity/device_identity.py`, `_from_profile`.  Kind: D -/
def legacyDocument (metadata : Fields) (privateKey : K) : Fields :=
  extensionsOf ["schema_version", "private_key"] metadata ++
    [("schema_version", .int 1), ("private_key", .str (C.base64 privateKey))]

/-- `isinstance(value, (int, float)) and not isinstance(value, bool)` -/
def isNumber : Value → Bool
  | .int _ | .float _ => true
  | _ => false

/-- The bundle and the metadata have to match; `json.dumps` may raise on what YAML has and JSON has
not.  Source: `identity/device_identity.py`, `_from_profile`.  Kind: D -/
def fromProfile [DecidableEq K] (expectedNodeId : NodeId) (metadata : Fields)
    (msgpack : Option (Option (DeviceBundle K))) : Except PyError (DeviceIdentity K) :=
  match getField "node_id" metadata, getField "public_key" metadata,
    getField "fingerprint" metadata, getField "created_at" metadata with
  | some (.str nodeId), some (.str publicKey), some (.str fingerprint), some createdAt => do
      raiseIf (¬isNumber createdAt) ⟨.value, "device identity metadata is malformed"⟩
      let nodeId ← NodeId.new nodeId
      raiseIf (nodeId ≠ expectedNodeId)
        ⟨.value, "device identity NodeId does not match local NodeId"⟩
      match msgpack with
      | none => throw ⟨.value, "device identity private key is missing"⟩
      | some none => throw ⟨.value, "device identity private key bundle is invalid"⟩
      | some (some bundle) => do
          let publicKey ← decodeBytes C (some (.str publicKey))
          raiseIf (bundle.nodeId ≠ nodeId.value ∨ bundle.fingerprint ≠ fingerprint)
            ⟨.value, "device identity private key bundle is invalid"⟩
          raiseIf (C.publicKey bundle.privateKey ≠ publicKey ∨
              fingerprint ≠ C.keyFingerprint publicKey)
            ⟨.value, "device identity private key bundle is invalid"⟩
          if hplain : plainFields (legacyDocument C metadata bundle.privateKey) = true then
            fromJson C expectedNodeId (some ⟨_, hplain⟩)
          else throw ⟨.type, "Object is not JSON serializable"⟩
  | _, _, _, _ => throw ⟨.value, "device identity metadata is malformed"⟩

/-- Source: `identity/device_identity.py`, `save`.  Kind: D -/
def secretBundle (a : DeviceIdentity K) : DeviceBundle K :=
  ⟨a.nodeId.value, a.fingerprint C, a.privateKey⟩

/-- The two fields of a hint. -/
def hintFields : Option Hint → Fields
  | none => []
  | some hint =>
      [("hardware_hint_digest", .str hint.digest),
        ("hardware_hint_sources", .list (hint.sources.map .str))]

/-- Source: `identity/device_identity.py`, `save`.  Kind: D -/
def profileMetadata (a : DeviceIdentity K) : Fields :=
  a.extensions ++
    [("schema_version", .int 2),
      ("node_id", .str a.nodeId.value),
      ("public_key", .str (C.base64 (a.publicKey C))),
      ("fingerprint", .str (a.fingerprint C)),
      ("created_at", .float (.finite a.createdAt))] ++
    hintFields a.hardwareHint

/-- The root of the node as the identity of the device; what an earlier one recorded besides the
key is kept.  Source: `identity/device_identity.py`, `from_node_identity`.  Kind: D -/
def fromNodeIdentity (ρ : Fresh K) (i : NodeIdentity K) : Option (DeviceIdentity K) →
    Except PyError (DeviceIdentity K)
  | none => .ok ⟨i.nodeId, i.root, ρ.now, ρ.hint, [], ρ.now_pos, by simp, rfl⟩
  | some existing =>
      if existing.nodeId = i.nodeId then
        .ok { existing with nodeId := i.nodeId, privateKey := i.root }
      else .error ⟨.value, "device identity NodeId does not match local NodeId"⟩

end DeviceIdentity

/-- The device's identity as a split one.  Source: `identity/device_identity.py`.  Kind: D -/
def deviceFormat {K : Type} [DecidableEq K] (C : KeyCodec K) (expectedNodeId : NodeId) :
    SplitFormat K (DeviceIdentity K) (DeviceBundle K) where
  files := ProfileFiles.device
  setFiles p x := { p with device := x }
  yamlOfJson := C.yamlOfJson
  version := 2
  bundle a := some (a.secretBundle C)
  metadata a := .ok (a.profileMetadata C)
  fromProfile := DeviceIdentity.fromProfile C expectedNodeId
  fromJson := DeviceIdentity.fromJson C expectedNodeId

/-! ## The profile -/

section profile

variable {K : Type} [DecidableEq K] (C : KeyCodec K) (ρ : Fresh K)

/-- An identity is only created where nothing depends on one.
Source: `identity/profile_state.py`, `_load_or_create_node_identity`.  Kind: D -/
def loadOrCreateNodeIdentity : ProfileM K (NodeIdentity K) := do
  let p := (← get).files
  if p.identity.yaml.isSome then (nodeFormat C ρ).load .yaml
  else if p.identity.json.isSome then do
    let i ← (nodeFormat C ρ).load .json
    (nodeFormat C ρ).save .yaml i
    return i
  else do
    raiseIf p.identity.msgpack.isSome ⟨.value, "identity metadata is missing"⟩
    raiseIf (p.device.yaml.isSome ∨ p.device.json.isSome ∨ p.device.msgpack.isSome ∨ p.dependents)
      ⟨.value, "profile state exists but the network identity is missing"⟩
    let i := NodeIdentity.create C ρ
    (nodeFormat C ρ).save .yaml i
    return i

/-- Source: `identity/device_identity.py`, `load_device_identity`.  Kind: D -/
def loadDeviceIdentity (i : NodeIdentity K) : ProfileM K (DeviceIdentity K) := do
  let p := (← get).files
  if ¬p.device.yaml.isSome ∧ p.device.json.isSome then do
    let existing ← (deviceFormat C i.nodeId).load .json
    let a ← PyM.ofExcept (DeviceIdentity.fromNodeIdentity ρ i (some existing))
    (deviceFormat C i.nodeId).save .yaml a
    return a
  else if p.device.yaml.isSome then do
    let existing ← (deviceFormat C i.nodeId).load .yaml
    let a ← PyM.ofExcept (DeviceIdentity.fromNodeIdentity ρ i (some existing))
    if a.publicKey C ≠ existing.publicKey C then (deviceFormat C i.nodeId).save .yaml a
    return a
  else do
    let a ← PyM.ofExcept (DeviceIdentity.fromNodeIdentity ρ i none)
    (deviceFormat C i.nodeId).save .yaml a
    return a

/-- Load, migrate or create the pair, and mark the node's identity as one that has a device's.
Source: `identity/profile_state.py`, `load_profile_identity`.  Kind: D -/
def loadProfileIdentity : ProfileM K (NodeIdentity K × DeviceIdentity K) := do
  let i ← loadOrCreateNodeIdentity C ρ
  let p := (← get).files
  raiseIf (i.expected = true ∧ ¬(p.device.yaml.isSome ∨ p.device.json.isSome))
    ⟨.value, "expected device identity is missing"⟩
  let a ← loadDeviceIdentity C ρ i
  if i.expected then return (i, a)
  else do
    let i := { i with expected := true }
    (nodeFormat C ρ).save .yaml i
    return (i, a)

end profile

end ExpraConnect.Profile
