import ExpraConnect.Identity.ProfileState
import ExpraConnect.Runtime.Persistence

/-!
# What the identity files of a profile hold

* **Saving** (`SplitFormat.save_eq_ok`) goes through two states; **loading**
  (`SplitFormat.load_eq_ok`) reads a split record or reads an older one and saves it.
* **Reading back** (`nodeFormat_split_saved`, `deviceFormat_split_saved`): what was saved is read
  as it was, the node's secret as lower-case text (`NodeIdentity.stored`).
* **Matching** (`NodeIdentity.bundle_of_fromProfile`, `DeviceIdentity.publicKey_of_fromProfile`):
  split metadata only goes with a bundle of its identity.
* **Other draws** (`nodeFormat_loads_redraw`): what a process draws shows in nothing but the root
  key of an older record without one.
-/

namespace ExpraConnect.Profile

open ExpraConnect.Lib

/-! ## Documents -/

theorem extensionsOf_append {names : List String} {own rest : Fields}
    (hown : ∀ p ∈ own, p.1 ∉ names) (hrest : ∀ p ∈ rest, p.1 ∈ names) :
    extensionsOf names (own ++ rest) = own := by
  unfold extensionsOf
  rw [List.filter_append, List.filter_eq_self.mpr fun p hp => by simpa using hown p hp,
    List.filter_eq_nil_iff.mpr fun p hp => by simpa using hrest p hp, List.append_nil]

/-- The extensions of a document do not hide its own fields.  Kind: L -/
theorem getField_own_append {names : List String} {own rest : Fields} {key : String}
    (hown : ∀ p ∈ own, p.1 ∉ names) (hkey : key ∈ names) :
    getField key (own ++ rest) = getField key rest := by
  have hnone : getField key own = none :=
    getField_eq_none_of_not_mem fun p hp heq => hown p hp (heq ▸ hkey)
  rw [getField_append, hnone, Option.none_or]

/-- An unknown field reads the same among the extensions.  Kind: L -/
theorem getField_extensionsOf {names : List String} {fields : Fields} {key : String}
    (hkey : key ∉ names) : getField key (extensionsOf names fields) = getField key fields :=
  getField_filter (q := fun k => k ∉ names) (by simpa using hkey) fields

theorem plainFields_append {a b : Fields} :
    plainFields (a ++ b) = (plainFields a && plainFields b) := by
  induction a with
  | nil => simp [plainFields]
  | cons p rest ih =>
      obtain ⟨k, v⟩ := p
      simp only [List.cons_append, plainFields, ih, Bool.and_assoc]

/-- A list of texts is plain.  Kind: L -/
theorem plainList_texts (l : List String) : plainList (l.map Value.str) = true := by
  induction l with
  | nil => rfl
  | cons s l ih => simpa [plainList, plain] using ih

/-! ## Saving and loading -/

namespace SplitFormat

variable {K α B : Type} (F : SplitFormat K α B)

/-- The text that `save` writes. -/
def textOf (suffix : Suffix) (a : α) : Except PyError TextFile := do
  let metadata ← F.metadata a
  writeText F.yamlOfJson suffix metadata

/-- The profile with the bundle of an identity. -/
def withBundle (a : α) (p : ProfileFiles K) : ProfileFiles K :=
  F.setFiles p ((F.files p).setBundle (F.bundle a))

/-- The profile with a metadata text. -/
def withText (suffix : Suffix) (text : TextFile) (p : ProfileFiles K) : ProfileFiles K :=
  F.setFiles p ((F.files p).setText text suffix)

/-- The states that `save` goes through. -/
def savedStates (suffix : Suffix) (a : α) (text : TextFile) (p : ProfileFiles K) :
    List (ProfileFiles K) :=
  [F.withBundle a p, F.withText suffix text (F.withBundle a p)]

/-- What `save` leaves. -/
def saved (suffix : Suffix) (a : α) (text : TextFile) (d : ProfileDisk K) : ProfileDisk K :=
  ⟨F.withText suffix text (F.withBundle a d.files),
    d.visited ++ F.savedStates suffix a text d.files⟩

/-- A split record of the identity. -/
def Split (suffix : Suffix) (x : SplitFiles B) (a : α) : Prop :=
  ∃ document, (x.text suffix).bind TextFile.yaml = some document ∧
    F.isSplit document = true ∧ F.fromProfile document x.msgpack = .ok a

/-- An older record of the identity. -/
def Older (suffix : Suffix) (x : SplitFiles B) (a : α) : Prop :=
  ∃ document, (x.text suffix).bind TextFile.yaml = some document ∧
    F.isSplit document = false ∧ F.fromJson ((x.text suffix).bind TextFile.json) = .ok a

/-- `load` accepts the files. -/
def Loads (suffix : Suffix) (x : SplitFiles B) (a : α) : Prop :=
  F.Split suffix x a ∨ F.Older suffix x a ∧ ∃ text, F.textOf suffix a = .ok text

variable {F} {suffix : Suffix} {a : α} {d d' : ProfileDisk K} {x : SplitFiles B}

/-- A save returns if and only if there is a text, and leaves the saved files.  Kind: L -/
theorem save_eq_ok {u : Unit} :
    F.save suffix a d = .ok u d' ↔
      ∃ text, F.textOf suffix a = .ok text ∧ d' = F.saved suffix a text d := by
  unfold save replaceFile textOf
  simp only [PyM.modify_bind_eq_ok, PyM.ofExcept_bind_eq_ok, PyM.modify_eq_ok,
    Except.bind_eq_ok]
  constructor
  · rintro ⟨metadata, hmetadata, text, htext, rfl⟩
    refine ⟨text, ⟨metadata, hmetadata, htext⟩, ?_⟩
    simp [saved, savedStates, withBundle, withText]
  · rintro ⟨text, ⟨metadata, hmetadata, htext⟩, rfl⟩
    refine ⟨metadata, hmetadata, text, htext, ?_⟩
    simp [saved, savedStates, withBundle, withText]

/-- A load returns from the split files, or migrates older ones.  Kind: L -/
theorem load_eq_ok :
    F.load suffix d = .ok a d' ↔
      F.Split suffix (F.files d.files) a ∧ d' = d ∨
        F.Older suffix (F.files d.files) a ∧
          ∃ text, F.textOf suffix a = .ok text ∧ d' = F.saved suffix a text d := by
  unfold load
  rw [PyM.get_bind_eq_ok]
  unfold Split Older
  rcases ((F.files d.files).text suffix).bind TextFile.yaml with _ | document
  · simp
  · simp only [Option.some.injEq, exists_eq_left']
    cases hsplit : F.isSplit document with
    | true => simp [PyM.ofExcept_eq_ok]
    | false =>
        simp only [Bool.false_eq_true, if_false, false_and, true_and, false_or]
        rw [PyM.ofExcept_bind_eq_ok]
        simp only [PyM.bind_eq_ok, PyM.pure_eq_ok, save_eq_ok]
        constructor
        · rintro ⟨b, hb, _, _, ⟨text, htext, rfl⟩, rfl, rfl⟩
          exact ⟨hb, text, htext, rfl⟩
        · rintro ⟨hread, text, htext, rfl⟩
          exact ⟨a, hread, (), _, ⟨text, htext, rfl⟩, rfl, rfl⟩

/-- The saved files are one of the states a crash may leave.  Kind: L -/
theorem files_mem_savedStates {text : TextFile} :
    (F.saved suffix a text d).files ∈ F.savedStates suffix a text d.files :=
  List.mem_cons_of_mem _ List.mem_cons_self

/-- A load returns if and only if the files load.  Kind: L -/
theorem exists_load_eq_ok_iff :
    (∃ d', F.load suffix d = .ok a d') ↔ F.Loads suffix (F.files d.files) a := by
  simp only [load_eq_ok, Loads]
  constructor
  · rintro ⟨d', ⟨h, -⟩ | ⟨h, text, htext, -⟩⟩
    · exact .inl h
    · exact .inr ⟨h, text, htext⟩
  · rintro (h | ⟨h, text, htext⟩)
    · exact ⟨d, .inl ⟨h, rfl⟩⟩
    · exact ⟨_, .inr ⟨h, text, htext, rfl⟩⟩

/-- The files hold one identity.  Kind: L -/
theorem Loads.unique {b : α} (ha : F.Loads suffix x a) (hb : F.Loads suffix x b) : a = b := by
  rcases ha with ⟨m, hm, hsplit, ha⟩ | ⟨⟨m, hm, hsplit, ha⟩, -⟩ <;>
    rcases hb with ⟨m', hm', hsplit', hb⟩ | ⟨⟨m', hm', hsplit', hb⟩, -⟩ <;>
    cases hm.symm.trans hm'
  · exact Except.ok.inj (ha.symm.trans hb)
  · exact absurd hsplit (by simp [hsplit'])
  · exact absurd hsplit (by simp [hsplit'])
  · exact Except.ok.inj (ha.symm.trans hb)

/-- An older record does not look at the bundle.  Kind: L -/
theorem Older.setBundle (h : F.Older suffix x a) (b : Option B) :
    F.Older suffix (x.setBundle b) a := by
  obtain ⟨m, hm, hsplit, ha⟩ := h
  cases suffix <;> exact ⟨m, hm, hsplit, ha⟩

/-- A YAML text is read as the metadata it was written from.  Kind: L -/
theorem yaml_of_textOf {metadata : Fields} {text : TextFile} (hmetadata : F.metadata a = .ok metadata)
    (htext : F.textOf .yaml a = .ok text) : text.yaml = some metadata := by
  unfold textOf at htext
  rw [hmetadata] at htext
  cases htext
  rfl

/-- A JSON text holds the metadata it was written from, and YAML reads it in its own way.
Kind: L -/
theorem json_of_textOf {metadata : Fields} {text : TextFile} (hmetadata : F.metadata a = .ok metadata)
    (htext : F.textOf .json a = .ok text) :
    ∃ document : JsonObject, document.fields = metadata ∧ text = .ofJson F.yamlOfJson document := by
  unfold textOf at htext
  rw [hmetadata] at htext
  obtain ⟨m, hm, htext⟩ := Except.bind_eq_ok.mp htext
  cases hm
  simp only [writeText] at htext
  split at htext
  · rename_i hfits
    cases htext
    exact ⟨⟨metadata, hfits.2⟩, rfl, rfl⟩
  · cases htext

/-- A saved identity is split metadata with its bundle.  Kind: L -/
theorem split_saved {metadata : Fields} {text : TextFile} {b : α}
    (hmetadata : F.metadata a = .ok metadata) (htext : F.textOf .yaml a = .ok text)
    (hsplit : F.isSplit metadata = true)
    (hread : F.fromProfile metadata (some (F.bundle a)) = .ok b) :
    F.Split .yaml ((x.setBundle (F.bundle a)).setText text .yaml) b :=
  ⟨metadata, yaml_of_textOf hmetadata htext, hsplit, hread⟩

end SplitFormat

theorem encodableFields_append {a b : Fields} :
    Value.encodableFields (a ++ b) = (Value.encodableFields a && Value.encodableFields b) := by
  induction a with
  | nil => simp [Value.encodableFields]
  | cons p rest ih =>
      obtain ⟨k, v⟩ := p
      simp only [List.cons_append, Value.encodableFields, ih, Bool.and_assoc]

/-! ## The node's identity -/

namespace NodeIdentity

variable {K : Type} {C : KeyCodec K} {ρ ρ' : Fresh K} {i : NodeIdentity K}

/-- What is read of an identity that was saved: the secret is lower-case text then. -/
def stored (C : KeyCodec K) (i : NodeIdentity K) : NodeIdentity K :=
  match C.unhex i.secret with
  | some secret => { i with secret := C.hex secret, secret_valid := C.hex_valid _ }
  | none => i

/-- The secret's text is what its bytes are written as. -/
def Canonical (C : KeyCodec K) (i : NodeIdentity K) : Prop :=
  (C.unhex i.secret).map C.hex = some i.secret

/-- Storing keeps the node id.  Kind: L -/
@[simp] theorem stored_nodeId : (i.stored C).nodeId = i.nodeId := by
  unfold stored
  split <;> rfl

/-- Storing keeps the root key.  Kind: L -/
@[simp] theorem stored_root : (i.stored C).root = i.root := by
  unfold stored
  split <;> rfl

/-- Storing keeps the expected device.  Kind: L -/
@[simp] theorem stored_expected : (i.stored C).expected = i.expected := by
  unfold stored
  split <;> rfl

/-- Storing keeps the extensions.  Kind: L -/
@[simp] theorem stored_extensions : (i.stored C).extensions = i.extensions := by
  unfold stored
  split <;> rfl

/-- Storing writes the secret in lower-case digits.  Kind: L -/
theorem stored_secret {secret : K} (h : C.unhex i.secret = some secret) :
    (i.stored C).secret = C.hex secret := by
  unfold stored
  rw [h]

/-- A canonical identity is stored as it is.  Kind: L -/
theorem stored_of_canonical (h : i.Canonical C) : i.stored C = i := by
  unfold Canonical at h
  unfold stored
  cases hsecret : C.unhex i.secret with
  | none => rfl
  | some secret =>
      rw [hsecret, Option.map_some, Option.some.injEq] at h
      obtain ⟨nodeId, text, root, expected, extensions, hvalid, hnames⟩ := i
      cases h
      rfl

/-- Split metadata and a bundle are accepted exactly if they are those of one identity.  Kind: L -/
theorem fromProfile_eq_ok {metadata : Fields} {msgpack : Option (Option (SecretBundle K))} :
    fromProfile C metadata msgpack = .ok i ↔
      ∃ secret, msgpack = some (some ⟨i.nodeId.value, secret, i.root⟩) ∧ i.secret = C.hex secret ∧
        getField "node_id" metadata = some (.str i.nodeId.value) ∧
        getField "root_public_key" metadata = some (.str (C.base64 (C.publicKey i.root))) ∧
        getField "secret_fingerprint" metadata = some (.str (C.secretFingerprint secret)) ∧
        (getField "device_identity_expected" metadata).getD (.bool false) = .bool i.expected ∧
        i.extensions = extensionsOf identityJsonFields metadata := by
  constructor
  · intro h
    unfold fromProfile at h
    split at h
    · rename_i nodeId publicKey fingerprint expected hnode hpublic hfingerprint hexpected
      split at h
      · cases h
      · cases h
      · rename_i bundle
        simp only [Except.bind_eq_ok, Except.raiseIf_eq_ok, Except.pure_eq_ok] at h
        obtain ⟨_, hid, _, hmatch, node, hnew, rfl⟩ := h
        obtain ⟨hroot, hsecret⟩ : C.base64 (C.publicKey bundle.root) = publicKey ∧
            C.secretFingerprint bundle.secret = fingerprint := by
          simpa only [ne_eq, not_or, not_not] using hmatch
        have hvalue : nodeId = node.value := NodeId.value_of_new hnew
        have hbundle : bundle.nodeId = node.value := (not_not.mp hid).trans hvalue
        refine ⟨bundle.secret, ?_, rfl, ?_, ?_, ?_, hexpected, rfl⟩
        · rw [← hbundle]
        · rw [hnode, hvalue]
        · rw [hpublic, ← hroot]
        · rw [hfingerprint, hsecret]
    · cases h
  · rintro ⟨secret, rfl, hsecret, hnode, hpublic, hfingerprint, hexpected, hextensions⟩
    unfold fromProfile
    rw [hnode, hpublic, hfingerprint, hexpected]
    simp only [Except.bind_eq_ok, Except.raiseIf_eq_ok, Except.pure_eq_ok]
    refine ⟨(), by simp, (), by simp, i.nodeId, NodeId.new_value _, ?_⟩
    obtain ⟨nodeId, text, root, expected, extensions, hvalid, hnames⟩ := i
    cases hsecret
    cases hextensions
    rfl

/-- The bundle of split metadata is the identity's own.  Kind: L -/
theorem bundle_of_fromProfile {metadata : Fields} {msgpack : Option (Option (SecretBundle K))}
    (h : fromProfile C metadata msgpack = .ok i) : msgpack = some (secretDocument C i) := by
  obtain ⟨secret, rfl, hsecret, -⟩ := fromProfile_eq_ok.mp h
  unfold secretDocument
  rw [hsecret, C.unhex_hex]
  rfl

/-- An identity read from a profile is canonical.  Kind: L -/
theorem canonical_of_fromProfile {metadata : Fields}
    {msgpack : Option (Option (SecretBundle K))} (h : fromProfile C metadata msgpack = .ok i) :
    i.Canonical C := by
  obtain ⟨secret, -, hsecret, -⟩ := fromProfile_eq_ok.mp h
  unfold Canonical
  rw [hsecret, C.unhex_hex]
  rfl

/-- The metadata of a profile are its fields behind its extensions.  Kind: L -/
theorem profileMetadata_eq_ok {metadata : Fields} :
    profileMetadata C i = .ok metadata ↔
      ∃ secret, C.unhex i.secret = some secret ∧ metadata = i.extensions ++
        ([("schema_version", .int 3),
          ("node_id", .str i.nodeId.value),
          ("root_public_key", .str (C.base64 (C.publicKey i.root))),
          ("secret_fingerprint", .str (C.secretFingerprint secret))] ++
        if i.expected then [("device_identity_expected", .bool true)] else []) := by
  unfold profileMetadata
  cases C.unhex i.secret with
  | none => simp
  | some secret =>
      simp only [Except.ok.injEq, Option.some.injEq, exists_eq_left', List.append_assoc]
      exact eq_comm

end NodeIdentity

/-- The two are one identity, but for what it says besides. -/
structure NodeIdentity.Alike {K : Type} (i j : NodeIdentity K) : Prop where
  nodeId : i.nodeId = j.nodeId
  secret : i.secret = j.secret
  root : i.root = j.root
  expected : i.expected = j.expected

theorem NodeIdentity.Alike.refl {K : Type} (i : NodeIdentity K) : i.Alike i := ⟨rfl, rfl, rfl, rfl⟩

section saved

variable {K : Type} {C : KeyCodec K} {ρ ρ' : Fresh K} {i j : NodeIdentity K} {text : TextFile}
  {x : SplitFiles (SecretBundle K)}

/-- The own fields of metadata, behind the extensions.  Kind: L -/
theorem NodeIdentity.getField_profileMetadata {secret : K} {metadata : Fields}
    (hmetadata : metadata = i.extensions ++
      ([("schema_version", .int 3), ("node_id", .str i.nodeId.value),
          ("root_public_key", .str (C.base64 (C.publicKey i.root))),
          ("secret_fingerprint", .str (C.secretFingerprint secret))] ++
        if i.expected then [("device_identity_expected", .bool true)] else [])) :
    getField "schema_version" metadata = some (.int 3) ∧
      getField "node_id" metadata = some (.str i.nodeId.value) ∧
      getField "root_public_key" metadata = some (.str (C.base64 (C.publicKey i.root))) ∧
      getField "secret_fingerprint" metadata = some (.str (C.secretFingerprint secret)) ∧
      getField "device_identity_expected" metadata =
        if i.expected then some (.bool true) else none := by
  subst hmetadata
  have hown : ∀ key ∈ identityJsonFields, ∀ rest : Fields,
      getField key (i.extensions ++ rest) = getField key rest := fun key hkey rest =>
    getField_own_append i.names_valid hkey
  rw [hown _ (by decide), hown _ (by decide), hown _ (by decide), hown _ (by decide),
    hown _ (by decide)]
  cases i.expected <;> simp [getField]

/-- A saved identity is read as it was, but for the case of its secret.  Kind: L -/
theorem nodeFormat_split_saved (h : (nodeFormat C ρ).textOf .yaml i = .ok text) :
    (nodeFormat C ρ).Split .yaml
      ((x.setBundle (NodeIdentity.secretDocument C i)).setText text .yaml) (i.stored C) := by
  have hmetadata := h
  unfold SplitFormat.textOf at hmetadata
  obtain ⟨metadata, hmetadata, -⟩ := Except.bind_eq_ok.mp hmetadata
  obtain ⟨secret, hsecret, heq⟩ := NodeIdentity.profileMetadata_eq_ok.mp hmetadata
  obtain ⟨hversion, hnode, hroot, hfingerprint, hexpected⟩ :=
    NodeIdentity.getField_profileMetadata heq
  refine SplitFormat.split_saved hmetadata h ?_ ?_
  · unfold SplitFormat.isSplit
    rw [hversion]
    rfl
  · refine NodeIdentity.fromProfile_eq_ok.mpr ⟨secret, ?_, NodeIdentity.stored_secret hsecret, ?_⟩
    · simp [nodeFormat, NodeIdentity.secretDocument, hsecret]
    · rw [hnode, hroot, hfingerprint, hexpected, heq, extensionsOf_append i.names_valid]
      · cases hmark : i.expected <;> simp [hmark]
      · cases hmark : i.expected <;> simp [identityJsonFields]

/-- A JSON text that YAML reads with the node id is read as the identity.  Kind: L -/
theorem nodeFormat_split_json (h : (nodeFormat C ρ).textOf .json i = .ok text)
    (hkeeps : text.Keeps ["node_id"]) :
    ∃ j, j.Alike (i.stored C) ∧ (nodeFormat C ρ').Split .json
      ((x.setBundle (NodeIdentity.secretDocument C i)).setText text .json) j := by
  have hmetadata := h
  unfold SplitFormat.textOf at hmetadata
  obtain ⟨metadata, hmetadata, -⟩ := Except.bind_eq_ok.mp hmetadata
  obtain ⟨secret, hsecret, heq⟩ := NodeIdentity.profileMetadata_eq_ok.mp hmetadata
  obtain ⟨hversion, hnode, hroot, hfingerprint, hexpected⟩ :=
    NodeIdentity.getField_profileMetadata heq
  obtain ⟨document, rfl, rfl⟩ := SplitFormat.json_of_textOf hmetadata h
  obtain ⟨fields, document', hyaml, hjson, hsame⟩ := hkeeps
  cases hjson
  have hread : C.yamlOfJson document = some fields := hyaml
  -- what YAML reads of the other own fields
  have hversion' := C.yaml_ascii hread (by decide) hversion rfl
  have hroot' := C.yaml_ascii hread (by decide) hroot (C.ascii _).1
  have hfingerprint' := C.yaml_ascii hread (by decide) hfingerprint (C.ascii _).2.1
  have hnode' : getField "node_id" fields = some (.str i.nodeId.value) := by
    rw [hsame "node_id" (by decide), hnode]
  have hexpected' : (getField "device_identity_expected" fields).getD (.bool false) =
      .bool i.expected := by
    cases hmark : i.expected with
    | true =>
        rw [hmark, if_pos rfl] at hexpected
        rw [C.yaml_ascii hread (by decide) hexpected rfl]
        rfl
    | false =>
        rw [hmark, if_neg (by decide)] at hexpected
        rw [C.yaml_missing hread (by decide) hexpected]
        rfl
  refine ⟨{ i.stored C with
    extensions := extensionsOf identityJsonFields fields
    names_valid := not_mem_of_mem_extensionsOf }, ⟨rfl, rfl, rfl, rfl⟩, fields, hread, ?_, ?_⟩
  · unfold SplitFormat.isSplit
    rw [hversion']
    rfl
  · refine NodeIdentity.fromProfile_eq_ok.mpr ⟨secret, ?_, NodeIdentity.stored_secret hsecret, ?_⟩
    · simp [SplitFiles.setText, SplitFiles.setBundle, NodeIdentity.secretDocument, hsecret]
    · rw [hnode', hroot', hfingerprint', hexpected']
      simp

/-- The loader accepts a JSON text over the identity's bundle only if YAML reads the node id.
Kind: L -/
theorem nodeFormat_keeps_of_loads (h : (nodeFormat C ρ).textOf .json i = .ok text)
    (hloads : (nodeFormat C ρ').Loads .json
      ((x.setBundle (NodeIdentity.secretDocument C i)).setText text .json) j) :
    text.Keeps ["node_id"] := by
  have hmetadata := h
  unfold SplitFormat.textOf at hmetadata
  obtain ⟨metadata, hmetadata, -⟩ := Except.bind_eq_ok.mp hmetadata
  obtain ⟨secret, hsecret, heq⟩ := NodeIdentity.profileMetadata_eq_ok.mp hmetadata
  obtain ⟨hversion, hnode, -⟩ := NodeIdentity.getField_profileMetadata heq
  obtain ⟨document, rfl, rfl⟩ := SplitFormat.json_of_textOf hmetadata h
  rcases hloads with ⟨fields, hyaml, -, hread⟩ | ⟨⟨fields, hyaml, holder, -⟩, -⟩
  · refine ⟨fields, document, hyaml, rfl, ?_⟩
    obtain ⟨_, hbundle, -, hnode', -⟩ := NodeIdentity.fromProfile_eq_ok.mp hread
    have hid : i.nodeId.value = j.nodeId.value := by
      have hsame : some (NodeIdentity.secretDocument C i) =
          some (some ⟨j.nodeId.value, _, j.root⟩) := hbundle
      unfold NodeIdentity.secretDocument at hsame
      rw [hsecret] at hsame
      exact congrArg SecretBundle.nodeId (Option.some.inj (Option.some.inj hsame))
    intro key hkey
    rw [List.mem_singleton.mp hkey, hnode, hnode', hid]
  · have hversion' := C.yaml_ascii hyaml (by decide) hversion rfl
    unfold SplitFormat.isSplit at holder
    rw [hversion'] at holder
    cases holder

end saved

/-- A text can be written if and only if JSON, where asked for, can hold the document.  Kind: L -/
theorem exists_writeText_iff {yamlOfJson : JsonObject → Option Fields} {suffix : Suffix}
    {document : Fields} :
    (∃ text, writeText yamlOfJson suffix document = .ok text) ↔
      (suffix = .json →
        Value.encodableFields document = true ∧ plainFields document = true) := by
  cases suffix with
  | yaml => simp [writeText]
  | json =>
      by_cases h : Value.encodableFields document = true ∧ plainFields document = true <;>
        simp [writeText, h]

section redraw

variable {K : Type} {C : KeyCodec K} {ρ ρ' : Fresh K} {i : NodeIdentity K} {suffix : Suffix}

/-- The identity can be saved; its own fields are texts and fit any file.  Kind: L -/
theorem nodeFormat_savable_iff :
    (∃ text, (nodeFormat C ρ).textOf suffix i = .ok text) ↔
      (∃ secret, C.unhex i.secret = some secret) ∧
        (suffix = .json →
          Value.encodableFields i.extensions = true ∧ plainFields i.extensions = true) := by
  have hown : ∀ metadata, NodeIdentity.profileMetadata C i = .ok metadata →
      Value.encodableFields metadata = Value.encodableFields i.extensions ∧
        plainFields metadata = plainFields i.extensions := by
    intro metadata h
    obtain ⟨secret, -, rfl⟩ := NodeIdentity.profileMetadata_eq_ok.mp h
    rw [encodableFields_append, plainFields_append]
    cases i.expected <;>
      simp [Value.encodableFields, Value.encodable, plainFields, plain]
  constructor
  · rintro ⟨text, htext⟩
    obtain ⟨metadata, hmetadata, hwrite⟩ := Except.bind_eq_ok.mp htext
    obtain ⟨secret, hsecret, -⟩ := NodeIdentity.profileMetadata_eq_ok.mp hmetadata
    have hfits := exists_writeText_iff.mp ⟨text, hwrite⟩
    rw [(hown metadata hmetadata).1, (hown metadata hmetadata).2] at hfits
    exact ⟨⟨secret, hsecret⟩, hfits⟩
  · rintro ⟨⟨secret, hsecret⟩, hfits⟩
    have hmetadata := NodeIdentity.profileMetadata_eq_ok.mpr ⟨secret, hsecret, rfl⟩
    rw [← (hown _ hmetadata).1, ← (hown _ hmetadata).2] at hfits
    obtain ⟨text, hwrite⟩ := exists_writeText_iff.mpr hfits
    exact ⟨text, Except.bind_eq_ok.mpr ⟨_, hmetadata, hwrite⟩⟩

/-- An identity that was read from split metadata can be saved as YAML.  Kind: L -/
theorem nodeFormat_savable_of_canonical (h : i.Canonical C) :
    ∃ text, (nodeFormat C ρ).textOf .yaml i = .ok text := by
  obtain ⟨secret, hsecret, -⟩ := Option.map_eq_some_iff.mp h
  exact nodeFormat_savable_iff.mpr ⟨⟨secret, hsecret⟩, fun hjson => by cases hjson⟩

/-- A fresh root key is all that an older record may leave open.  Kind: L -/
theorem NodeIdentity.fromJson_redraw {text : Option JsonObject}
    (h : NodeIdentity.fromJson C ρ text = .ok i) :
    ∃ root, NodeIdentity.fromJson C ρ' text = .ok { i with root := root } := by
  unfold fromJson at h ⊢
  split at h
  · rename_i document hplain
    simp only [Except.bind_eq_ok, Except.raiseIf_eq_ok] at h ⊢
    obtain ⟨version, hversion, schema, hschema, u, hconflict, h⟩ := h
    split at h
    · rename_i nodeId secret hnode hsecret
      rw [Except.bind_eq_ok] at h
      obtain ⟨root, hroot, h⟩ := h
      split at h
      · rename_i expected hexpected
        rw [Except.bind_eq_ok] at h
        obtain ⟨node, hnew, h⟩ := h
        obtain ⟨k, hk⟩ : ∃ k, build C ρ' node secret root expected document =
            .ok { i with root := k } := by
          unfold build at h ⊢
          split at h
          · rename_i hvalid
            rw [dif_pos hvalid]
            cases root with
            | none =>
                cases h
                exact ⟨ρ'.root, rfl⟩
            | some encoded =>
                split at h
                · rename_i key hkey
                  cases h
                  refine ⟨key, ?_⟩
                  dsimp only at hkey ⊢
                  rw [hkey]
                  rfl
                · cases h
          · cases h
        refine ⟨k, version, hversion, schema, hschema, u, hconflict, ?_⟩
        simp only [Except.bind_eq_ok]
        exact ⟨root, hroot, node, hnew, hk⟩
      · cases h
    · cases h
  · cases h

/-- Whatever another process draws, it reads the same identity, but perhaps for the root key.
Kind: L -/
theorem nodeFormat_loads_redraw {x : SplitFiles (SecretBundle K)}
    (h : (nodeFormat C ρ).Loads suffix x i) :
    ∃ root, (nodeFormat C ρ').Loads suffix x { i with root := root } := by
  rcases h with ⟨document, hyaml, hsplit, hread⟩ | ⟨⟨document, hyaml, hsplit, hread⟩, htext⟩
  · exact ⟨i.root, .inl ⟨document, hyaml, hsplit, hread⟩⟩
  · obtain ⟨root, hroot⟩ : ∃ root, NodeIdentity.fromJson C ρ' ((x.text suffix).bind TextFile.json) =
        .ok { i with root := root } := NodeIdentity.fromJson_redraw hread
    have hfits := nodeFormat_savable_iff.mp htext
    exact ⟨root, .inr ⟨⟨document, hyaml, hsplit, hroot⟩, nodeFormat_savable_iff.mpr hfits⟩⟩

end redraw

/-! ## The device's identity -/

namespace DeviceIdentity

variable {K : Type} {C : KeyCodec K} {a : DeviceIdentity K} {n : NodeId}

/-- Bytes are read from a text that is base64.  Kind: L -/
theorem decodeBytes_eq_ok {v : Option Value} {key : K} :
    decodeBytes C v = .ok key ↔ ∃ text, v = some (.str text) ∧ C.unbase64 text = some key := by
  unfold decodeBytes
  split
  · rename_i text
    cases h : C.unbase64 text with
    | none => simp [h]
    | some k => simp [h]
  · rename_i hother
    constructor
    · intro h
      cases h
    · rintro ⟨text, rfl, -⟩
      exact absurd rfl (hother text)

/-- A legacy document has the fields of its metadata.  Kind: L -/
theorem getField_legacyDocument {metadata : Fields} {k : K} {key : String}
    (hkey : key ∉ ["schema_version", "private_key"]) :
    getField key (legacyDocument C metadata k) = getField key metadata := by
  have hown : getField key [("schema_version", .int 1),
      ("private_key", .str (C.base64 k))] = none := by
    simp only [List.mem_cons, List.not_mem_nil, or_false, not_or] at hkey
    rw [getField_cons_of_ne (Ne.symm hkey.1), getField_cons_of_ne (Ne.symm hkey.2)]
    rfl
  unfold legacyDocument
  rw [getField_append, getField_extensionsOf hkey, hown, Option.or_none]

/-- A legacy document has its own version and key.  Kind: L -/
theorem getField_own_legacyDocument {metadata : Fields} {k : K} {key : String}
    (hkey : key ∈ ["schema_version", "private_key"]) :
    getField key (legacyDocument C metadata k) =
      getField key [("schema_version", .int 1), ("private_key", .str (C.base64 k))] :=
  getField_own_append not_mem_of_mem_extensionsOf hkey

/-- A legacy document has the extensions of its metadata.  Kind: L -/
theorem extensionsOf_legacyDocument {metadata : Fields} {k : K} :
    extensionsOf deviceIdentityJsonFields (legacyDocument C metadata k) =
      extensionsOf deviceIdentityJsonFields metadata := by
  have hown : extensionsOf deviceIdentityJsonFields
      [("schema_version", .int 1), ("private_key", .str (C.base64 k))] = [] := rfl
  have hfront : extensionsOf deviceIdentityJsonFields
      (extensionsOf ["schema_version", "private_key"] metadata) =
        extensionsOf deviceIdentityJsonFields metadata := by
    unfold extensionsOf
    rw [List.filter_filter]
    refine List.filter_congr fun p _ => ?_
    simp only [deviceIdentityJsonFields, List.mem_cons, List.not_mem_nil, or_false]
    grind
  unfold legacyDocument
  rw [← hfront, ← List.append_nil (extensionsOf _ (extensionsOf _ _)), ← hown]
  exact List.filter_append ..

/-- The private key does not matter to JSON.  Kind: L -/
theorem plainFields_legacyDocument {metadata : Fields} {k : K} :
    plainFields (legacyDocument C metadata k) =
      plainFields (extensionsOf ["schema_version", "private_key"] metadata) := by
  unfold legacyDocument
  rw [plainFields_append]
  simp [plainFields, plain]

/-- A legacy document has the hint of its metadata.  Kind: L -/
theorem hintOf_legacyDocument {metadata : Fields} {k : K} :
    hintOf (legacyDocument C metadata k) = hintOf metadata := by
  unfold hintOf
  rw [getField_legacyDocument (by decide), getField_legacyDocument (by decide)]

variable [DecidableEq K]

/-- A document is accepted exactly if its fields are those of the identity.  Kind: L -/
theorem fromDocument_eq_ok {document : Fields} {hplain : plainFields document = true} :
    fromDocument C document hplain = .ok a ↔
      (getField "schema_version" document).any (Value.equalsInt 1) = true ∧
        getField "node_id" document = some (.str a.nodeId.value) ∧
        decodeBytes C (getField "public_key" document) = .ok (a.publicKey C) ∧
        decodeBytes C (getField "private_key" document) = .ok a.privateKey ∧
        hintOf document = .ok a.hardwareHint ∧
        getField "fingerprint" document = some (.str (a.fingerprint C)) ∧
        (∃ v, getField "created_at" document = some v ∧ v.finite? = .ok (some a.createdAt)) ∧
        a.extensions = extensionsOf deviceIdentityJsonFields document := by
  constructor
  · intro h
    unfold fromDocument at h
    simp only [Except.bind_eq_ok, Except.raiseIf_eq_ok, not_not] at h
    obtain ⟨_, hversion, h⟩ := h
    split at h
    · rename_i nodeId hnode
      simp only [Except.bind_eq_ok] at h
      obtain ⟨node, hnew, publicKey, hpublic, privateKey, hprivate, hint, hhint, h⟩ := h
      split at h
      · rename_i fingerprint created hfingerprint hcreated
        split at h
        · rename_i time htime
          split at h
          · simp only [Except.bind_eq_ok, Except.raiseIf_eq_ok, Except.pure_eq_ok] at h
            obtain ⟨_, hmatch, rfl⟩ := h
            obtain ⟨hfp, hkey⟩ : fingerprint = C.keyFingerprint publicKey ∧
                C.publicKey privateKey = publicKey := by
              simpa only [ne_eq, not_or, not_not] using hmatch
            refine ⟨hversion, ?_, ?_, hprivate, hhint, ?_, ⟨created, hcreated, htime⟩, rfl⟩
            · rw [hnode, NodeId.value_of_new hnew]
            · rw [hpublic, ← hkey]
              rfl
            · rw [hfingerprint, hfp, ← hkey]
              rfl
          · cases h
        · cases h
      · cases h
    · cases h
  · rintro ⟨hversion, hnode, hpublic, hprivate, hhint, hfingerprint, ⟨created, hcreated, htime⟩,
      hextensions⟩
    unfold fromDocument
    simp only [Except.bind_eq_ok, Except.raiseIf_eq_ok, not_not]
    refine ⟨(), hversion, ?_⟩
    rw [hnode]
    simp only [Except.bind_eq_ok]
    refine ⟨a.nodeId, NodeId.new_value _, _, hpublic, _, hprivate, _, hhint, ?_⟩
    rw [hfingerprint, hcreated]
    dsimp only
    rw [htime]
    dsimp only
    rw [dif_pos a.created_valid]
    simp only [Except.bind_eq_ok, Except.raiseIf_eq_ok, Except.pure_eq_ok]
    refine ⟨(), by simp [fingerprint, publicKey], ?_⟩
    obtain ⟨nodeId, privateKey, createdAt, hint, extensions, hc, hn, hp⟩ := a
    cases hextensions
    rfl

/-- A legacy document reads as the split metadata it was made of.  Kind: L -/
theorem fromDocument_legacyDocument {metadata : Fields} {k : K}
    {hplain : plainFields (legacyDocument C metadata k) = true} :
    fromDocument C (legacyDocument C metadata k) hplain = .ok a ↔
      getField "node_id" metadata = some (.str a.nodeId.value) ∧
        decodeBytes C (getField "public_key" metadata) = .ok (a.publicKey C) ∧
        a.privateKey = k ∧ hintOf metadata = .ok a.hardwareHint ∧
        getField "fingerprint" metadata = some (.str (a.fingerprint C)) ∧
        (∃ v, getField "created_at" metadata = some v ∧ v.finite? = .ok (some a.createdAt)) ∧
        a.extensions = extensionsOf deviceIdentityJsonFields metadata := by
  have hversion : (getField "schema_version" (legacyDocument C metadata k)).any
      (Value.equalsInt 1) = true := by
    rw [getField_own_legacyDocument (by decide)]
    rfl
  have hprivate : decodeBytes C (getField "private_key" (legacyDocument C metadata k)) = .ok k := by
    rw [getField_own_legacyDocument (by decide)]
    exact decodeBytes_eq_ok.mpr ⟨_, rfl, C.unbase64_base64 k⟩
  have hother : ∀ key ∉ ["schema_version", "private_key"],
      getField key (legacyDocument C metadata k) = getField key metadata := fun key hkey =>
    getField_legacyDocument hkey
  rw [fromDocument_eq_ok, hprivate, hother "node_id" (by decide), hother "public_key" (by decide),
    hother "fingerprint" (by decide), hother "created_at" (by decide), hintOf_legacyDocument,
    extensionsOf_legacyDocument, Except.ok.injEq, eq_comm (a := k)]
  exact ⟨fun h => h.2, fun h => ⟨hversion, h⟩⟩

/-- A device read for a node is that node's.  Kind: L -/
theorem nodeId_of_fromJson {text : Option JsonObject} (h : fromJson C n text = .ok a) :
    a.nodeId = n := by
  unfold fromJson at h
  split at h
  · simp only [Except.bind_eq_ok, Except.raiseIf_eq_ok, Except.pure_eq_ok] at h
    obtain ⟨b, -, _, hnode, rfl⟩ := h
    exact not_not.mp hnode
  · cases h

/-- What is a finite number is a number.  Kind: L -/
theorem isNumber_of_finite? {v : Value} {q : ℚ} (h : v.finite? = .ok (some q)) :
    isNumber v = true := by
  unfold Value.finite? at h
  split at h
  · rfl
  · rfl
  · cases h

/-- Split metadata and a bundle are accepted exactly if they are those of one identity.  Kind: L -/
theorem fromProfile_eq_ok {metadata : Fields} {msgpack : Option (Option (DeviceBundle K))} :
    fromProfile C n metadata msgpack = .ok a ↔
      a.nodeId = n ∧ msgpack = some (some (a.secretBundle C)) ∧
        getField "node_id" metadata = some (.str a.nodeId.value) ∧
        decodeBytes C (getField "public_key" metadata) = .ok (a.publicKey C) ∧
        hintOf metadata = .ok a.hardwareHint ∧
        getField "fingerprint" metadata = some (.str (a.fingerprint C)) ∧
        (∃ v, getField "created_at" metadata = some v ∧ v.finite? = .ok (some a.createdAt)) ∧
        a.extensions = extensionsOf deviceIdentityJsonFields metadata ∧
        plainFields (extensionsOf ["schema_version", "private_key"] metadata) = true := by
  constructor
  · intro h
    unfold fromProfile at h
    split at h
    · rename_i nodeId publicKey fingerprint created hnode hpublic hfingerprint hcreated
      simp only [Except.bind_eq_ok, Except.raiseIf_eq_ok] at h
      obtain ⟨_, -, node, hnew, _, hexpected, h⟩ := h
      split at h
      · cases h
      · cases h
      · rename_i bundle
        simp only [Except.bind_eq_ok, Except.raiseIf_eq_ok] at h
        obtain ⟨key, hkey, _, hbundle, _, hmatch, h⟩ := h
        split at h
        · rename_i hplain
          have hid := nodeId_of_fromJson h
          unfold fromJson at h
          simp only [Except.bind_eq_ok, Except.raiseIf_eq_ok, Except.pure_eq_ok] at h
          obtain ⟨b, hdocument, _, -, rfl⟩ := h
          obtain ⟨hn, hpub, hpriv, hhint, hfp, htime, hext⟩ :=
            fromDocument_legacyDocument.mp hdocument
          rw [plainFields_legacyDocument] at hplain
          refine ⟨hid, ?_, hn, hpub, hhint, hfp, htime, hext, hplain⟩
          obtain ⟨hnodeId, hfpr⟩ :
              bundle.nodeId = node.value ∧ bundle.fingerprint = fingerprint := by
            simpa only [ne_eq, not_or, not_not] using hbundle
          rw [hfingerprint, Option.some.injEq, Value.str.injEq] at hfp
          rw [hnode, Option.some.injEq, Value.str.injEq, NodeId.value_of_new hnew] at hn
          obtain ⟨bid, bfp, bkey⟩ := bundle
          simp only at hnodeId hfpr hpriv
          rw [hnodeId, hfpr, ← hpriv, hn, hfp]
          rfl
        · cases h
    · cases h
  · rintro ⟨rfl, rfl, hn, hpub, hhint, hfp, ⟨v, htime, hfinite⟩, hext, hplain⟩
    obtain ⟨text, htext, hdecode⟩ := decodeBytes_eq_ok.mp hpub
    unfold fromProfile
    rw [hn, htext, hfp, htime]
    simp only [Except.bind_eq_ok, Except.raiseIf_eq_ok]
    refine ⟨(), by simp [isNumber_of_finite? hfinite], a.nodeId, NodeId.new_value _, (), by simp,
      a.publicKey C, decodeBytes_eq_ok.mpr ⟨text, rfl, hdecode⟩, (), by simp [secretBundle], (),
      by simp [secretBundle, fingerprint, publicKey], ?_⟩
    rw [dif_pos (by rw [plainFields_legacyDocument]; exact hplain)]
    unfold fromJson
    simp only [Except.bind_eq_ok, Except.raiseIf_eq_ok, Except.pure_eq_ok]
    refine ⟨a, fromDocument_legacyDocument.mpr ?_, (), by simp, rfl⟩
    exact ⟨hn, hpub, rfl, hhint, hfp, ⟨v, htime, hfinite⟩, hext⟩

/-- The key of split metadata is the one of any bundle it goes with.  Kind: L -/
theorem publicKey_of_fromProfile {metadata : Fields} {m m' : Option (Option (DeviceBundle K))}
    {b : DeviceIdentity K} (ha : fromProfile C n metadata m = .ok a)
    (hb : fromProfile C n metadata m' = .ok b) : a.publicKey C = b.publicKey C := by
  obtain ⟨-, -, -, hkey, -⟩ := fromProfile_eq_ok.mp ha
  obtain ⟨-, -, -, hkey', -⟩ := fromProfile_eq_ok.mp hb
  exact Except.ok.inj (hkey.symm.trans hkey')

/-- Split metadata goes with any private key of its public key.  Kind: L -/
theorem fromProfile_swap {metadata : Fields} {m : Option (Option (DeviceBundle K))} {k : K}
    (h : fromProfile C n metadata m = .ok a) (hk : C.publicKey k = a.publicKey C) :
    fromProfile C n metadata
        (some (some (({ a with privateKey := k } : DeviceIdentity K).secretBundle C))) =
      .ok { a with privateKey := k } := by
  obtain ⟨hnode, -, hn, hpub, hhint, hfp, htime, hext, hplain⟩ := fromProfile_eq_ok.mp h
  have hpublic : ({ a with privateKey := k } : DeviceIdentity K).publicKey C = a.publicKey C := hk
  refine fromProfile_eq_ok.mpr ⟨hnode, rfl, hn, ?_, hhint, ?_, htime, hext, hplain⟩
  · rw [hpublic, hpub]
  · unfold fingerprint
    rw [hpublic, hfp]
    rfl

omit [DecidableEq K] in
/-- The hint stands behind the extensions.  Kind: L -/
theorem getField_hint_profileMetadata {key : String}
    (hkey : key ∈ ["hardware_hint_digest", "hardware_hint_sources"]) :
    getField key (profileMetadata C a) = getField key (hintFields a.hardwareHint) := by
  have hown : ∀ key ∈ deviceIdentityJsonFields, ∀ rest : Fields,
      getField key (a.extensions ++ rest) = getField key rest := fun key hkey rest =>
    getField_own_append a.names_valid hkey
  unfold profileMetadata
  simp only [List.mem_cons, List.not_mem_nil, or_false] at hkey
  rcases hkey with rfl | rfl <;> rw [List.append_assoc, hown _ (by decide)] <;> rfl

omit [DecidableEq K] in

/-- The hardware hint reads back.  Kind: L -/
theorem hintOf_profileMetadata : hintOf (profileMetadata C a) = .ok a.hardwareHint := by
  unfold hintOf
  rw [getField_hint_profileMetadata (by decide), getField_hint_profileMetadata (by decide)]
  cases hhint : a.hardwareHint with
  | none => rfl
  | some hint =>
      have hsources : (Value.list (hint.sources.map Value.str)).asTexts? = some hint.sources :=
        Value.asTexts?_list hint.sources
      have hread : getField "hardware_hint_sources" (hintFields (some hint)) =
          some (.list (hint.sources.map .str)) := rfl
      have hdigest : getField "hardware_hint_digest" (hintFields (some hint)) =
          some (.str hint.digest) := rfl
      rw [hread, Option.getD_some, hsources, hdigest]
      exact dif_pos ⟨hint.valid, hint.nonempty⟩

/-- Lower-case hexadecimal digits and the dash are printable ASCII.  Kind: L -/
theorem ascii_of_lower {c : Char} (h : ('0' ≤ c ∧ c ≤ '9') ∨ ('a' ≤ c ∧ c ≤ 'z') ∨ c = '-') :
    ' ' ≤ c ∧ c ≤ '~' := by
  rcases h with ⟨h₁, h₂⟩ | ⟨h₁, h₂⟩ | rfl
  · exact ⟨le_trans (by decide) h₁, le_trans h₂ (by decide)⟩
  · exact ⟨le_trans (by decide) h₁, le_trans h₂ (by decide)⟩
  · decide

/-- Digests and source names are ASCII.  Kind: L -/
theorem asciiValue_hintFields {hint : Option Hint} {key : String} {v : Value}
    (h : getField key (hintFields hint) = some v) : asciiValue v = true := by
  cases hint with
  | none => cases h
  | some hint =>
      obtain ⟨⟨-, hdigest⟩, hsources, -⟩ := hint.valid
      have hmem := mem_of_getField h
      simp only [hintFields, List.mem_cons, Prod.mk.injEq, List.not_mem_nil, or_false] at hmem
      rcases hmem with ⟨-, rfl⟩ | ⟨-, rfl⟩
      · refine List.all_eq_true.mpr fun c hc => ?_
        have hlower := ascii_of_lower ((hdigest c hc).imp_right fun h => .inl ⟨h.1, le_trans h.2
          (by decide)⟩)
        simpa using hlower
      · refine List.all_eq_true.mpr fun item hitem => ?_
        obtain ⟨text, htext, rfl⟩ := List.mem_map.mp hitem
        refine List.all_eq_true.mpr fun c hc => ?_
        have hlower := ascii_of_lower (c := c) (by
          rcases (hsources text htext).2 c hc with h | h | h
          · exact .inr (.inl h)
          · exact .inl h
          · exact .inr (.inr h))
        simpa using hlower

end DeviceIdentity

section saved

variable {K : Type} {C : KeyCodec K} {a b : DeviceIdentity K} {text : TextFile}

/-- The own fields of metadata, behind the extensions.  Kind: L -/
theorem DeviceIdentity.getField_profileMetadata :
    getField "schema_version" (a.profileMetadata C) = some (.int 2) ∧
      getField "node_id" (a.profileMetadata C) = some (.str a.nodeId.value) ∧
      getField "public_key" (a.profileMetadata C) = some (.str (C.base64 (a.publicKey C))) ∧
      getField "fingerprint" (a.profileMetadata C) = some (.str (a.fingerprint C)) ∧
      getField "created_at" (a.profileMetadata C) = some (.float (.finite a.createdAt)) := by
  have hown : ∀ key ∈ deviceIdentityJsonFields, ∀ rest : Fields,
      getField key (a.extensions ++ rest) = getField key rest := fun key hkey rest =>
    getField_own_append a.names_valid hkey
  unfold DeviceIdentity.profileMetadata
  rw [List.append_assoc, hown _ (by decide), hown _ (by decide), hown _ (by decide),
    hown _ (by decide), hown _ (by decide)]
  exact ⟨rfl, rfl, rfl, rfl, rfl⟩

/-- The extensions of a device read back.  Kind: L -/
theorem DeviceIdentity.extensionsOf_profileMetadata :
    extensionsOf deviceIdentityJsonFields (a.profileMetadata C) = a.extensions := by
  unfold DeviceIdentity.profileMetadata
  rw [List.append_assoc, extensionsOf_append a.names_valid]
  cases a.hardwareHint <;> simp [DeviceIdentity.hintFields, deviceIdentityJsonFields]

variable [DecidableEq K]

/-- A saved identity is read as it was.  Kind: L -/
theorem deviceFormat_split_saved {x : SplitFiles (DeviceBundle K)}
    (h : (deviceFormat C a.nodeId).textOf .yaml a = .ok text) :
    (deviceFormat C a.nodeId).Split .yaml
      ((x.setBundle (some (a.secretBundle C))).setText text .yaml) a := by
  have hmetadata : (deviceFormat C a.nodeId).metadata a = .ok (a.profileMetadata C) := rfl
  obtain ⟨hversion, hnode, hpublic, hfingerprint, hcreated⟩ :=
    DeviceIdentity.getField_profileMetadata (C := C) (a := a)
  refine SplitFormat.split_saved hmetadata h ?_ ?_
  · unfold SplitFormat.isSplit
    rw [hversion]
    rfl
  · refine DeviceIdentity.fromProfile_eq_ok.mpr
      ⟨rfl, rfl, hnode, ?_, DeviceIdentity.hintOf_profileMetadata, hfingerprint, ⟨_, hcreated, rfl⟩,
        DeviceIdentity.extensionsOf_profileMetadata.symm, ?_⟩
    · rw [hpublic]
      exact DeviceIdentity.decodeBytes_eq_ok.mpr ⟨_, rfl, C.unbase64_base64 _⟩
    · refine plainFields_filter ?_
      unfold DeviceIdentity.profileMetadata
      rw [plainFields_append, plainFields_append, a.extensions_plain]
      cases a.hardwareHint <;>
        simp [DeviceIdentity.hintFields, plainFields, plain, plainList_texts]

/-- The fields of a device's metadata that may not be ASCII. -/
def deviceTextNames : List String := ["node_id", "created_at"]

omit [DecidableEq K] in
/-- YAML reads the hint of a JSON text as JSON does: its texts are ASCII.  Kind: L -/
theorem DeviceIdentity.hintOf_yaml {document : JsonObject} {fields : Fields}
    (hdocument : document.fields = a.profileMetadata C)
    (hread : C.yamlOfJson document = some fields) : hintOf fields = .ok a.hardwareHint := by
  have hfields : ∀ key ∈ ["hardware_hint_digest", "hardware_hint_sources"],
      getField key fields = getField key document.fields := by
    intro key hkey
    have hascii : asciiText key = true := by
      simp only [List.mem_cons, List.not_mem_nil, or_false] at hkey
      rcases hkey with rfl | rfl <;> decide
    rcases hfield : getField key document.fields with _ | v
    · exact C.yaml_missing hread hascii hfield
    · refine C.yaml_ascii hread hascii hfield ?_
      rw [hdocument, getField_hint_profileMetadata hkey] at hfield
      exact asciiValue_hintFields hfield
  rw [← hintOf_profileMetadata (C := C), ← hdocument]
  unfold hintOf
  rw [hfields _ (by decide), hfields _ (by decide)]

/-- A JSON text that YAML reads with the node id and the creation time is read as the identity, but
for what it says besides.  Kind: L -/
theorem deviceFormat_split_json {x : SplitFiles (DeviceBundle K)}
    (h : (deviceFormat C a.nodeId).textOf .json a = .ok text)
    (hkeeps : text.Keeps deviceTextNames) :
    ∃ b, b.nodeId = a.nodeId ∧ b.privateKey = a.privateKey ∧ (deviceFormat C a.nodeId).Split .json
      ((x.setBundle (some (a.secretBundle C))).setText text .json) b := by
  obtain ⟨document, hdocument, rfl⟩ :=
    SplitFormat.json_of_textOf (F := deviceFormat C a.nodeId) (a := a) rfl h
  obtain ⟨hversion, hnode, hpublic, hfingerprint, hcreated⟩ :=
    DeviceIdentity.getField_profileMetadata (C := C) (a := a)
  rw [← hdocument] at hversion hnode hpublic hfingerprint hcreated
  obtain ⟨fields, document', hyaml, hjson, hsame⟩ := hkeeps
  cases hjson
  have hread : C.yamlOfJson document = some fields := hyaml
  have hversion' := C.yaml_ascii hread (by decide) hversion rfl
  have hpublic' := C.yaml_ascii hread (by decide) hpublic (C.ascii _).1
  have hfingerprint' := C.yaml_ascii hread (by decide) hfingerprint (C.ascii _).2.2
  let b : DeviceIdentity K := { a with
    extensions := extensionsOf deviceIdentityJsonFields fields
    names_valid := not_mem_of_mem_extensionsOf
    extensions_plain := plainFields_filter (C.yaml_plain hread) }
  refine ⟨b, rfl, rfl, fields, hread, ?_, ?_⟩
  · unfold SplitFormat.isSplit
    rw [hversion']
    rfl
  · refine (DeviceIdentity.fromProfile_eq_ok (a := b)).mpr
      ⟨rfl, rfl, ?_, ?_, DeviceIdentity.hintOf_yaml (a := a) hdocument hread, hfingerprint',
        ⟨.float (.finite a.createdAt), ?_, rfl⟩, rfl, plainFields_filter (C.yaml_plain hread)⟩
    · rw [hsame "node_id" (by decide), hnode]
    · rw [hpublic']
      exact DeviceIdentity.decodeBytes_eq_ok.mpr ⟨_, rfl, C.unbase64_base64 _⟩
    · rw [hsame "created_at" (by decide), hcreated]

/-- The loader accepts a JSON text only if YAML reads the node id and the creation time.
Kind: L -/
theorem deviceFormat_keeps_of_loads {x : SplitFiles (DeviceBundle K)}
    (h : (deviceFormat C a.nodeId).textOf .json a = .ok text)
    (hloads : (deviceFormat C a.nodeId).Loads .json (x.setText text .json) b) :
    text.Keeps deviceTextNames := by
  obtain ⟨document, hdocument, rfl⟩ :=
    SplitFormat.json_of_textOf (F := deviceFormat C a.nodeId) (a := a) rfl h
  obtain ⟨hversion, hnode, -, -, hcreated⟩ :=
    DeviceIdentity.getField_profileMetadata (C := C) (a := a)
  rw [← hdocument] at hversion hnode hcreated
  rcases hloads with ⟨fields, hyaml, -, hread⟩ | ⟨⟨fields, hyaml, holder, -⟩, -⟩
  · refine ⟨fields, document, hyaml, rfl, ?_⟩
    obtain ⟨hid, -, hnode', -, -, -, ⟨v, hv, hfinite⟩, -⟩ :=
      DeviceIdentity.fromProfile_eq_ok.mp hread
    intro key hkey
    rcases List.mem_pair.mp hkey with rfl | rfl
    · rw [hnode, hnode', hid]
    · rcases C.yaml_number hyaml (by decide) hcreated with hsame | ⟨word, hword⟩
      · rw [hsame, hcreated]
      · -- a text is no creation time
        rw [hword] at hv
        cases hv
        cases hfinite
  · have hversion' := C.yaml_ascii hyaml (by decide) hversion rfl
    unfold SplitFormat.isSplit at holder
    rw [hversion'] at holder
    cases holder

end saved

end ExpraConnect.Profile
