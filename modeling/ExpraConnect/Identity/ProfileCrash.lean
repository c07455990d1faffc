import ExpraConnect.Identity.ProfileFacts

/-!
# Crashes while the identity of a profile is loaded

Every file is replaced atomically, one after the other, so a crash leaves one of the states the
files went through.  The question is whether the loader then finds the identity that was there.

* `SplitFormat.Holds`: what the files of an identity hold; `loadProfileIdentity_of_holds`,
  `holds_of_loadProfileIdentity`: what the loader accepts.
* `NodeStates`, `RekeyStates`: the states that the two phases go through (`node_states`,
  `rekey_states`).
* `crash_safe_iff`: the loader recovers from every crash exactly if there was an identity to begin
  with, its secret is lower-case text, the device's identity has the root key of the node, and YAML
  reads what a migration writes as JSON.
-/

namespace ExpraConnect.Profile

open ExpraConnect.Lib

/-! ## What the files hold -/

section holds

variable {K α B : Type} {F : SplitFormat K α B} {x : SplitFiles B} {suffix : Suffix} {a : α}

/-- The metadata file that is read: the YAML one, if there are both. -/
def SplitFiles.source (x : SplitFiles B) : Option Suffix :=
  if x.yaml.isSome then some .yaml else if x.json.isSome then some .json else none

/-- The files hold an identity. -/
def SplitFormat.Holds (F : SplitFormat K α B) (x : SplitFiles B) (a : α) : Prop :=
  ∃ suffix, x.source = some suffix ∧ F.Loads suffix x a

/-- The secret bundle does not decide which text is read.  Kind: L -/
@[simp] theorem source_setBundle {b : Option B} : (x.setBundle b).source = x.source := rfl

/-- Writing the secret bundle leaves the texts alone.  Kind: L -/
@[simp] theorem text_setBundle {b : Option B} : (x.setBundle b).text suffix = x.text suffix := by
  cases suffix <;> rfl

/-- A written YAML text is the one that is read.  Kind: L -/
@[simp] theorem source_setText_yaml {text : TextFile} :
    (x.setText text .yaml).source = some .yaml := rfl

/-- Writing the text that is read keeps it the one that is read.  Kind: L -/
theorem source_setText {text : TextFile} (h : x.source = some suffix) :
    (x.setText text suffix).source = some suffix := by
  cases suffix with
  | yaml => rfl
  | json =>
      unfold SplitFiles.source at h ⊢
      split at h
      · cases h
      · rename_i hyaml
        simp only [SplitFiles.setText, hyaml]
        rfl

/-- Nothing is read if and only if neither text is there.  Kind: L -/
theorem source_eq_none_iff : x.source = none ↔ x.yaml = none ∧ x.json = none := by
  unfold SplitFiles.source
  cases x.yaml <;> cases x.json <;> simp

/-- The files hold one identity at most.  Kind: L -/
theorem SplitFormat.Holds.unique {b : α} (ha : F.Holds x a) (hb : F.Holds x b) : a = b := by
  obtain ⟨suffix, hsource, ha⟩ := ha
  obtain ⟨suffix', hsource', hb⟩ := hb
  cases hsource.symm.trans hsource'
  exact ha.unique hb

/-- A bundle that a split record has, or an older one does not look at, changes nothing.  Kind: L -/
theorem SplitFormat.Holds.setBundle {b : Option B} (h : F.Holds x a)
    (hb : ∀ suffix, x.source = some suffix → F.Split suffix x a → x.msgpack = some b) :
    F.Holds (x.setBundle b) a := by
  obtain ⟨suffix, hsource, hsplit | ⟨holder, htext⟩⟩ := h
  · have hsame : x.setBundle b = x := by
      unfold SplitFiles.setBundle
      rw [← hb suffix hsource hsplit]
    rw [hsame]
    exact ⟨suffix, hsource, .inl hsplit⟩
  · exact ⟨suffix, hsource, .inr ⟨holder.setBundle b, htext⟩⟩

end holds

/-! ## The node's identity -/

section node

variable {K : Type} {C : KeyCodec K} {ρ ρ' : Fresh K} {i j : NodeIdentity K}
  {x x' : SplitFiles (SecretBundle K)} {suffix : Suffix} {text : TextFile} {d d' : ProfileDisk K}

/-- What the files hold does not depend on the draws, the marker apart.  Kind: L -/
theorem nodeFormat_holds_redraw (h : (nodeFormat C ρ).Holds x i) :
    ∃ root, (nodeFormat C ρ').Holds x { i with root := root } := by
  obtain ⟨suffix, hsource, hloads⟩ := h
  obtain ⟨root, hroot⟩ := nodeFormat_loads_redraw hloads
  exact ⟨root, suffix, hsource, hroot⟩

/-- The bundle of an identity that is migrated does not get in the way of another process.
Kind: L -/
theorem nodeFormat_holds_bundled (hi : (nodeFormat C ρ).Holds x i)
    (hj : (nodeFormat C ρ').Holds x j) :
    (nodeFormat C ρ').Holds (x.setBundle (NodeIdentity.secretDocument C i)) j := by
  refine hj.setBundle fun suffix hsource hsplit => ?_
  have hsplit' : (nodeFormat C ρ).Split suffix x j := hsplit
  have hsame : j = i := SplitFormat.Holds.unique ⟨suffix, hsource, .inl hsplit'⟩ hi
  obtain ⟨_, _, _, hread⟩ := hsplit
  rw [← hsame]
  exact NodeIdentity.bundle_of_fromProfile hread

/-- What the files hold can be saved.  Kind: L -/
theorem nodeFormat_savable (h : (nodeFormat C ρ).Holds x i) :
    ∃ text, (nodeFormat C ρ).textOf .yaml i = .ok text := by
  obtain ⟨suffix, -, ⟨_, _, _, hread⟩ | ⟨-, hsavable⟩⟩ := h
  · exact nodeFormat_savable_of_canonical (NodeIdentity.canonical_of_fromProfile hread)
  · obtain ⟨hsecret, -⟩ := nodeFormat_savable_iff.mp hsavable
    exact nodeFormat_savable_iff.mpr ⟨hsecret, fun hjson => by cases hjson⟩

/-- The bundle of an identity that can be saved is that of what is read back.  Kind: L -/
theorem secretDocument_stored :
    NodeIdentity.secretDocument C (i.stored C) = NodeIdentity.secretDocument C i := by
  unfold NodeIdentity.secretDocument NodeIdentity.stored
  cases hsecret : C.unhex i.secret with
  | none => simp [hsecret]
  | some secret => simp [C.unhex_hex]

/-- In a state of the migration of `x`, which held `i`, another process reads what it would have
read before, or what is read back of `i`. -/
def Kept (C : KeyCodec K) (x : SplitFiles (SecretBundle K)) (i : NodeIdentity K)
    (x' : SplitFiles (SecretBundle K)) : Prop :=
  ∀ ρ', ∃ j, (nodeFormat C ρ').Holds x' j ∧ ((nodeFormat C ρ').Holds x j ∨ j.Alike (i.stored C))

/-- The migration is over. -/
def Migrated (C : KeyCodec K) (i : NodeIdentity K) (x' : SplitFiles (SecretBundle K)) : Prop :=
  ∀ ρ', (nodeFormat C ρ').Holds x' (i.stored C)

/-- A migrated profile keeps the identity.  Kind: L -/
theorem Migrated.kept (h : Migrated C i x') : Kept C x i x' := fun ρ' =>
  ⟨i.stored C, h ρ', .inr (.refl _)⟩

/-- Writing the secret bundle of what is held keeps it.  Kind: L -/
theorem kept_bundle (h : (nodeFormat C ρ).Holds x i) :
    Kept C x i (x.setBundle (NodeIdentity.secretDocument C i)) := by
  intro ρ'
  obtain ⟨root, hroot⟩ : ∃ root, (nodeFormat C ρ').Holds x { i with root := root } :=
    nodeFormat_holds_redraw h
  exact ⟨_, nodeFormat_holds_bundled h hroot, .inl hroot⟩

/-- Writing the secret bundle of a migrated identity keeps it migrated.  Kind: L -/
theorem Migrated.bundle (h : Migrated C i x') :
    Migrated C i (x'.setBundle (NodeIdentity.secretDocument C i)) := by
  intro ρ'
  have hbundled := nodeFormat_holds_bundled (h ρ') (h ρ')
  rwa [secretDocument_stored] at hbundled

/-- Secret bundle and YAML text written, the identity is migrated.  Kind: L -/
theorem migrated_text (htext : (nodeFormat C ρ).textOf .yaml i = .ok text)
    (x' : SplitFiles (SecretBundle K)) :
    Migrated C i ((x'.setBundle (NodeIdentity.secretDocument C i)).setText text .yaml) := by
  intro ρ'
  have htext' : (nodeFormat C ρ').textOf .yaml i = .ok text := htext
  exact ⟨.yaml, rfl, .inl (nodeFormat_split_saved htext')⟩

/-- If an older JSON record holds the identity, YAML reads the metadata that replaces it with the
same node id. -/
def NodeReads (C : KeyCodec K) (ρ : Fresh K) (x : SplitFiles (SecretBundle K))
    (i : NodeIdentity K) : Prop :=
  x.source = some .json → (nodeFormat C ρ).Older .json x i →
    ∀ text, (nodeFormat C ρ).textOf .json i = .ok text → text.Keeps ["node_id"]

/-- Metadata written as JSON keeps the identity exactly if YAML reads the node id.  Kind: L -/
theorem json_text_cases (htext : (nodeFormat C ρ).textOf .json i = .ok text)
    (hsource : x.source = some .json) :
    (text.Keeps ["node_id"] →
      Kept C x i ((x.setBundle (NodeIdentity.secretDocument C i)).setText text .json)) ∧
    ((∃ ρ' j, (nodeFormat C ρ').Holds
      ((x.setBundle (NodeIdentity.secretDocument C i)).setText text .json) j) →
        text.Keeps ["node_id"]) := by
  have hjson : ((x.setBundle (NodeIdentity.secretDocument C i)).setText text .json).source =
      some .json := source_setText (x := x.setBundle _) hsource
  constructor
  · intro hkeeps ρ'
    obtain ⟨j, halike, hsplit⟩ : ∃ j, j.Alike (i.stored C) ∧ (nodeFormat C ρ').Split .json
        ((x.setBundle (NodeIdentity.secretDocument C i)).setText text .json) j :=
      nodeFormat_split_json htext hkeeps
    exact ⟨j, ⟨.json, hjson, .inl hsplit⟩, .inr halike⟩
  · rintro ⟨ρ', j, suffix, hsource', hloads⟩
    cases hjson.symm.trans hsource'
    exact nodeFormat_keeps_of_loads htext hloads

/-- From a YAML text, the load decides.  Kind: L -/
theorem loadOrCreateNodeIdentity_yaml (h : d.files.identity.source = some .yaml) :
    loadOrCreateNodeIdentity C ρ d = (nodeFormat C ρ).load .yaml d := by
  have hyaml : d.files.identity.yaml.isSome = true := by
    unfold SplitFiles.source at h
    split at h
    · assumption
    · split at h <;> cases h
  unfold loadOrCreateNodeIdentity
  rw [PyM.bind_apply, PyM.get_apply]
  simp only [hyaml, if_true]

/-- From a JSON text, the identity is loaded and written as YAML.  Kind: L -/
theorem loadOrCreateNodeIdentity_json (h : d.files.identity.source = some .json) :
    loadOrCreateNodeIdentity C ρ d = .ok i d' ↔
      ∃ d₁ text, (nodeFormat C ρ).load .json d = .ok i d₁ ∧
        (nodeFormat C ρ).textOf .yaml i = .ok text ∧
        d' = (nodeFormat C ρ).saved .yaml i text d₁ := by
  obtain ⟨hyaml, hjson⟩ : d.files.identity.yaml.isSome = false ∧
      d.files.identity.json.isSome = true := by
    unfold SplitFiles.source at h
    split at h
    · cases h
    · rename_i hyaml
      split at h
      · rename_i hjson
        exact ⟨by simpa using hyaml, hjson⟩
      · cases h
  unfold loadOrCreateNodeIdentity
  rw [PyM.bind_apply, PyM.get_apply]
  simp only [hyaml, hjson, Bool.false_eq_true, if_false, if_true]
  simp only [PyM.bind_eq_ok, PyM.pure_eq_ok, SplitFormat.save_eq_ok]
  constructor
  · rintro ⟨k, d₁, hload, _, _, ⟨text, htext, rfl⟩, rfl, rfl⟩
    exact ⟨d₁, text, hload, htext, rfl⟩
  · rintro ⟨d₁, text, hload, htext, rfl⟩
    exact ⟨i, d₁, hload, (), _, ⟨text, htext, rfl⟩, rfl, rfl⟩

/-- A split profile is migrated.  Kind: L -/
theorem migrated_of_split (hsource : x.source = some suffix)
    (h : (nodeFormat C ρ).Split suffix x i) : Migrated C i x := by
  have hread := h
  obtain ⟨_, _, _, hread⟩ := hread
  intro ρ'
  rw [NodeIdentity.stored_of_canonical (NodeIdentity.canonical_of_fromProfile hread)]
  exact ⟨suffix, hsource, .inl h⟩

/-- What the first phase, of a profile that has an identity, leaves behind at every point. -/
structure NodeStates (C : KeyCodec K) (ρ : Fresh K) (i : NodeIdentity K) (d d' : ProfileDisk K) :
    Prop where
  /-- The profile held the identity. -/
  holds : (nodeFormat C ρ).Holds d.files.identity i
  /-- Now it does so in the current format. -/
  migrated : Migrated C i d'.files.identity
  /-- The files of the device are not touched. -/
  device : d'.files.device = d.files.device
  /-- There is metadata in the states between. They keep the identity if YAML reads what is written
  as JSON, and do not all hold one otherwise. -/
  visited : ∃ states, d'.visited = d.visited ++ states ∧ d'.files ∈ d.files :: states ∧
    (∀ s ∈ states, s.device = d.files.device ∧ s.identity.source ≠ none) ∧
    (NodeReads C ρ d.files.identity i → ∀ s ∈ states, Kept C d.files.identity i s.identity) ∧
    ((∀ s ∈ states, ∃ ρ' j, (nodeFormat C ρ').Holds s.identity j) →
      NodeReads C ρ d.files.identity i)

/-- A split profile reads as what it holds.  Kind: L -/
theorem nodeReads_of_split (h : (nodeFormat C ρ).Split suffix x i) (hsource : x.source = some suffix) :
    NodeReads C ρ x i := by
  intro hjson holder
  cases hsource.symm.trans hjson
  obtain ⟨fields, hfields, hsplit, -⟩ := h
  obtain ⟨fields', hfields', hold, -⟩ := holder
  cases hfields.symm.trans hfields'
  rw [hsplit] at hold
  cases hold

/-- A YAML profile reads as what it holds.  Kind: L -/
theorem nodeReads_of_yaml (hsource : x.source = some .yaml) : NodeReads C ρ x i := by
  intro hjson
  rw [hsource] at hjson
  cases hjson

/-- A YAML record is migrated in place.  Kind: L -/
theorem node_states_yaml (hsource : d.files.identity.source = some .yaml)
    (h : (nodeFormat C ρ).load .yaml d = .ok i d') : NodeStates C ρ i d d' := by
  have hreads : NodeReads C ρ d.files.identity i := nodeReads_of_yaml hsource
  rcases SplitFormat.load_eq_ok.mp h with ⟨hsplit, rfl⟩ | ⟨holder, text, htext, rfl⟩
  · exact ⟨⟨.yaml, hsource, .inl hsplit⟩, migrated_of_split hsource hsplit, rfl, [],
      (List.append_nil _).symm, List.mem_cons_self, by simp, by simp, fun _ => hreads⟩
  · have hholds : (nodeFormat C ρ).Holds d.files.identity i :=
      ⟨.yaml, hsource, .inr ⟨holder, text, htext⟩⟩
    have hmigrated := migrated_text htext d.files.identity
    refine ⟨hholds, hmigrated, rfl, _, rfl,
      List.mem_cons_of_mem _ SplitFormat.files_mem_savedStates, ?_, fun _ => ?_, fun _ => hreads⟩
    · intro s hs
      rcases List.mem_pair.mp hs with rfl | rfl
      · exact ⟨rfl, fun hnone => by cases hsource.symm.trans hnone⟩
      · exact ⟨rfl, fun hnone => by cases hnone⟩
    · intro s hs
      rcases List.mem_pair.mp hs with rfl | rfl
      · exact kept_bundle hholds
      · exact hmigrated.kept

/-- A JSON record is migrated as JSON first, and then as YAML.  Kind: L -/
theorem node_states_json {d₁ : ProfileDisk K} (hsource : d.files.identity.source = some .json)
    (hload : (nodeFormat C ρ).load .json d = .ok i d₁)
    (htext : (nodeFormat C ρ).textOf .yaml i = .ok text) :
    NodeStates C ρ i d ((nodeFormat C ρ).saved .yaml i text d₁) := by
  have hmigrated := migrated_text htext d₁.files.identity
  rcases SplitFormat.load_eq_ok.mp hload with ⟨hsplit, rfl⟩ | ⟨holder, json, hjson, rfl⟩
  · -- the bundle of split metadata is written again
    have hholds : (nodeFormat C ρ).Holds d₁.files.identity i := ⟨.json, hsource, .inl hsplit⟩
    have hreads : NodeReads C ρ d₁.files.identity i := nodeReads_of_split hsplit hsource
    refine ⟨hholds, hmigrated, rfl, _, rfl,
      List.mem_cons_of_mem _ SplitFormat.files_mem_savedStates, ?_, fun _ => ?_, fun _ => hreads⟩
    · intro s hs
      rcases List.mem_pair.mp hs with rfl | rfl
      · exact ⟨rfl, fun hnone => by cases hsource.symm.trans hnone⟩
      · exact ⟨rfl, fun hnone => by cases hnone⟩
    · intro s hs
      rcases List.mem_pair.mp hs with rfl | rfl
      · exact kept_bundle hholds
      · exact hmigrated.kept
  · have hholds : (nodeFormat C ρ).Holds d.files.identity i :=
      ⟨.json, hsource, .inr ⟨holder, json, hjson⟩⟩
    obtain ⟨hkept, hkeeps⟩ := json_text_cases (x := d.files.identity) hjson hsource
    have hwritten : ((d.files.identity.setBundle (NodeIdentity.secretDocument C i)).setText json
        .json).source = some .json := source_setText (x := d.files.identity.setBundle _) hsource
    refine ⟨hholds, hmigrated, rfl, (nodeFormat C ρ).savedStates .json i json d.files ++
      (nodeFormat C ρ).savedStates .yaml i text _, (List.append_assoc _ _ _),
      List.mem_cons_of_mem _ (List.mem_append_right _ SplitFormat.files_mem_savedStates), ?_,
      fun hreads => ?_, fun hheld hjson' holder' text' htext' => ?_⟩
    · intro s hs
      rcases List.mem_append.mp hs with hs | hs
      · rcases List.mem_pair.mp hs with rfl | rfl
        · exact ⟨rfl, fun hnone => by cases hsource.symm.trans hnone⟩
        · exact ⟨rfl, fun hnone => by cases hwritten.symm.trans hnone⟩
      · rcases List.mem_pair.mp hs with rfl | rfl
        · exact ⟨rfl, fun hnone => by cases hwritten.symm.trans hnone⟩
        · exact ⟨rfl, fun hnone => by cases hnone⟩
    · have hread := hkept (hreads hsource holder json hjson)
      intro s hs
      rcases List.mem_append.mp hs with hs | hs
      · rcases List.mem_pair.mp hs with rfl | rfl
        · exact kept_bundle hholds
        · exact hread
      · rcases List.mem_pair.mp hs with rfl | rfl
        · -- the bundle is already there
          exact hread
        · exact hmigrated.kept
    · cases hjson.symm.trans htext'
      exact hkeeps (hheld _ (List.mem_append_left _ (List.mem_cons_of_mem _ List.mem_cons_self)))

/-- The states the node's files pass through while a process starts.  Kind: L -/
theorem node_states (hsource : d.files.identity.source ≠ none)
    (h : loadOrCreateNodeIdentity C ρ d = .ok i d') : NodeStates C ρ i d d' := by
  cases hsuffix : d.files.identity.source with
  | none => exact absurd hsuffix hsource
  | some suffix =>
      cases suffix with
      | yaml =>
          rw [loadOrCreateNodeIdentity_yaml hsuffix] at h
          exact node_states_yaml hsuffix h
      | json =>
          obtain ⟨d₁, text, hload, htext, rfl⟩ := (loadOrCreateNodeIdentity_json hsuffix).mp h
          exact node_states_json hsuffix hload htext

/-- What the files hold is loaded.  Kind: L -/
theorem exists_loadOrCreateNodeIdentity (h : (nodeFormat C ρ).Holds d.files.identity i) :
    ∃ d', loadOrCreateNodeIdentity C ρ d = .ok i d' := by
  obtain ⟨text, htext⟩ := nodeFormat_savable h
  obtain ⟨suffix, hsource, hloads⟩ := h
  obtain ⟨d₁, hload⟩ := SplitFormat.exists_load_eq_ok_iff.mpr hloads
  cases suffix with
  | yaml =>
      rw [loadOrCreateNodeIdentity_yaml hsource]
      exact ⟨d₁, hload⟩
  | json => exact ⟨_, (loadOrCreateNodeIdentity_json hsource).mpr ⟨d₁, text, hload, htext, rfl⟩⟩

end node

/-! ## The device's identity -/

section device

variable {K : Type} [DecidableEq K] {C : KeyCodec K} {ρ : Fresh K} {n : NodeId}
  {i : NodeIdentity K} {a e : DeviceIdentity K} {y : SplitFiles (DeviceBundle K)}
  {suffix : Suffix} {text : TextFile} {d d' : ProfileDisk K}

/-- The loader accepts the device's files: there are none, or they hold an identity. -/
def AcceptsDevice (C : KeyCodec K) (n : NodeId) (y : SplitFiles (DeviceBundle K)) : Prop :=
  ∀ suffix, y.source = some suffix → ∃ a, (deviceFormat C n).Loads suffix y a

/-- Files that hold a device are accepted.  Kind: L -/
theorem SplitFormat.Holds.acceptsDevice (h : (deviceFormat C n).Holds y a) :
    AcceptsDevice C n y := by
  obtain ⟨suffix, hsource, hloads⟩ := h
  intro suffix' hsource'
  cases hsource.symm.trans hsource'
  exact ⟨a, hloads⟩

/-- A loaded device is the node's.  Kind: L -/
theorem deviceFormat_nodeId (h : (deviceFormat C n).Loads suffix y a) : a.nodeId = n := by
  rcases h with ⟨_, _, _, hread⟩ | ⟨⟨_, _, _, hread⟩, -⟩
  · exact (DeviceIdentity.fromProfile_eq_ok.mp hread).1
  · exact DeviceIdentity.nodeId_of_fromJson hread

/-- Writing the secret bundle of what is held keeps it held.  Kind: L -/
theorem deviceFormat_holds_bundled (h : (deviceFormat C n).Holds y a) :
    (deviceFormat C n).Holds (y.setBundle (some (a.secretBundle C))) a := by
  refine h.setBundle fun suffix _ hsplit => ?_
  obtain ⟨_, _, _, hread⟩ := hsplit
  exact (DeviceIdentity.fromProfile_eq_ok.mp hread).2.1

/-- Split metadata is accepted with another bundle exactly if the public keys agree.  Kind: L -/
theorem deviceFormat_rekeyed_iff (hsource : y.source = some suffix)
    (h : (deviceFormat C n).Split suffix y e) {k : K} :
    AcceptsDevice C n (y.setBundle
        (some (({ e with privateKey := k } : DeviceIdentity K).secretBundle C))) ↔
      e.publicKey C = C.publicKey k := by
  obtain ⟨metadata, hmetadata, hsplit, hread⟩ := h
  constructor
  · intro haccepts
    obtain ⟨b, ⟨m, hm, hsplit', hread'⟩ | ⟨⟨m, hm, holder, -⟩, -⟩⟩ := haccepts suffix hsource
    · have hsame : m = metadata := by
        rw [text_setBundle, hmetadata] at hm
        exact (Option.some.inj hm).symm
      subst hsame
      have hread₂ : DeviceIdentity.fromProfile C n m
          (some (some (({ e with privateKey := k } : DeviceIdentity K).secretBundle C))) =
            .ok b := hread'
      obtain ⟨-, hbundle, -⟩ := DeviceIdentity.fromProfile_eq_ok.mp hread₂
      have hkey : k = b.privateKey :=
        congrArg DeviceBundle.privateKey (Option.some.inj (Option.some.inj hbundle))
      rw [DeviceIdentity.publicKey_of_fromProfile hread hread₂, hkey]
      rfl
    · have hsame : m = metadata := by
        rw [text_setBundle, hmetadata] at hm
        exact (Option.some.inj hm).symm
      rw [hsame, hsplit] at holder
      cases holder
  · intro hkey
    have hswapped := DeviceIdentity.fromProfile_swap hread hkey.symm
    refine SplitFormat.Holds.acceptsDevice
      ⟨suffix, hsource, .inl ⟨metadata, ?_, hsplit, hswapped⟩⟩
    rw [text_setBundle]
    exact hmetadata

/-- A saved device is held.  Kind: L -/
theorem deviceFormat_holds_saved
    (htext : (deviceFormat C a.nodeId).textOf .yaml a = .ok text)
    (y' : SplitFiles (DeviceBundle K)) :
    (deviceFormat C a.nodeId).Holds
      ((y'.setBundle (some (a.secretBundle C))).setText text .yaml) a :=
  ⟨.yaml, rfl, .inl (deviceFormat_split_saved htext)⟩

/-- If an older JSON record holds the identity, YAML reads the metadata that replaces it with the
same node id and creation time. -/
def DeviceReads (C : KeyCodec K) (n : NodeId) (y : SplitFiles (DeviceBundle K))
    (e : DeviceIdentity K) : Prop :=
  y.source = some .json → (deviceFormat C n).Older .json y e →
    ∀ text, (deviceFormat C n).textOf .json e = .ok text → text.Keeps deviceTextNames

/-- Split device files read as what they hold.  Kind: L -/
theorem deviceReads_of_split (h : (deviceFormat C n).Split suffix y e)
    (hsource : y.source = some suffix) : DeviceReads C n y e := by
  intro hjson holder
  cases hsource.symm.trans hjson
  obtain ⟨fields, hfields, hsplit, -⟩ := h
  obtain ⟨fields', hfields', hold, -⟩ := holder
  cases hfields.symm.trans hfields'
  rw [hsplit] at hold
  cases hold

/-- A YAML device text reads as what it holds.  Kind: L -/
theorem deviceReads_of_yaml (hsource : y.source = some .yaml) : DeviceReads C n y e := by
  intro hjson
  rw [hsource] at hjson
  cases hjson

/-- Metadata written as JSON is accepted with a bundle exactly if YAML reads the node id and the
creation time, and the public keys agree.  Kind: L -/
theorem json_rekeyed_iff (htext : (deviceFormat C e.nodeId).textOf .json e = .ok text)
    (hsource : y.source = some .json) {k : K} :
    AcceptsDevice C e.nodeId (((y.setBundle (some (e.secretBundle C))).setText text .json).setBundle
        (some (({ e with privateKey := k } : DeviceIdentity K).secretBundle C))) ↔
      text.Keeps deviceTextNames ∧ e.publicKey C = C.publicKey k := by
  have hjson : ((y.setBundle (some (e.secretBundle C))).setText text .json).source = some .json :=
    source_setText (x := y.setBundle _) hsource
  by_cases hkeeps : text.Keeps deviceTextNames
  · obtain ⟨b, hnode, hkey, hsplit⟩ : ∃ b : DeviceIdentity K, b.nodeId = e.nodeId ∧
        b.privateKey = e.privateKey ∧ (deviceFormat C e.nodeId).Split .json
          ((y.setBundle (some (e.secretBundle C))).setText text .json) b :=
      deviceFormat_split_json htext hkeeps
    have hiff := deviceFormat_rekeyed_iff hjson hsplit (k := k)
    have hbundle : ({ b with privateKey := k } : DeviceIdentity K).secretBundle C =
        ({ e with privateKey := k } : DeviceIdentity K).secretBundle C := by
      unfold DeviceIdentity.secretBundle DeviceIdentity.fingerprint DeviceIdentity.publicKey
      rw [hnode]
    have hpublic : b.publicKey C = e.publicKey C := congrArg C.publicKey hkey
    rw [hbundle, hpublic] at hiff
    rw [hiff]
    exact (and_iff_right hkeeps).symm
  · refine ⟨fun haccepts => ?_, fun h => absurd h.1 hkeeps⟩
    obtain ⟨b, hloads⟩ := haccepts .json hjson
    exact absurd (deviceFormat_keeps_of_loads (x := (y.setBundle _).setBundle _) htext hloads) hkeeps

/-- The node's root as the identity of the device. -/
def DeviceIdentity.rekeyed (e : DeviceIdentity K) (i : NodeIdentity K) : DeviceIdentity K :=
  { e with nodeId := i.nodeId, privateKey := i.root }

omit [DecidableEq K] in

/-- A device is rekeyed to the node it belongs to.  Kind: L -/
theorem fromNodeIdentity_eq_ok :
    DeviceIdentity.fromNodeIdentity ρ i (some e) = .ok a ↔
      e.nodeId = i.nodeId ∧ a = e.rekeyed i := by
  unfold DeviceIdentity.fromNodeIdentity
  by_cases hnode : e.nodeId = i.nodeId
  · simp [hnode, DeviceIdentity.rekeyed, eq_comm]
  · simp [hnode]

/-- What loading the device's files leaves behind at every point. -/
structure DeviceStates (C : KeyCodec K) (n : NodeId) (suffix : Suffix) (e : DeviceIdentity K)
    (d d' : ProfileDisk K) : Prop where
  /-- The profile held the identity. -/
  holds : (deviceFormat C n).Holds d.files.device e
  /-- The metadata is in the same file. -/
  source : d'.files.device.source = some suffix
  /-- The files of the node are not touched. -/
  identity : d'.files.identity = d.files.identity
  /-- The result is accepted, also with another bundle of its public key, exactly if YAML reads what
  was written as JSON. -/
  rekeyed : ∀ k, AcceptsDevice C n (d'.files.device.setBundle
      (some (({ e with privateKey := k } : DeviceIdentity K).secretBundle C))) ↔
    DeviceReads C n d.files.device e ∧ e.publicKey C = C.publicKey k
  /-- So are the states between. -/
  visited : ∃ states, d'.visited = d.visited ++ states ∧
    (∀ s ∈ states, s.identity = d.files.identity ∧ s.device.source = some suffix) ∧
    (DeviceReads C n d.files.device e → AcceptsDevice C n d'.files.device ∧
      ∀ s ∈ states, AcceptsDevice C n s.device)

/-- The states the device files pass through in a load.  Kind: L -/
theorem device_states_load (hsource : d.files.device.source = some suffix)
    (h : (deviceFormat C n).load suffix d = .ok e d') : DeviceStates C n suffix e d d' := by
  rcases SplitFormat.load_eq_ok.mp h with ⟨hsplit, rfl⟩ | ⟨holder, text, htext, rfl⟩
  · have hholds : (deviceFormat C n).Holds d'.files.device e := ⟨suffix, hsource, .inl hsplit⟩
    have hreads : DeviceReads C n d'.files.device e := deviceReads_of_split hsplit hsource
    refine ⟨hholds, hsource, rfl, fun k => ?_, [], (List.append_nil _).symm, by simp,
      fun _ => ⟨hholds.acceptsDevice, by simp⟩⟩
    rw [and_iff_right hreads]
    exact deviceFormat_rekeyed_iff hsource hsplit
  · have hloads : (deviceFormat C n).Loads suffix d.files.device e :=
      .inr ⟨holder, text, htext⟩
    have hholds : (deviceFormat C n).Holds d.files.device e := ⟨suffix, hsource, hloads⟩
    have hnode := deviceFormat_nodeId hloads
    subst hnode
    have hkept : (d.files.device.setBundle (some (e.secretBundle C))).source = some suffix :=
      hsource
    have hwritten : ((d.files.device.setBundle (some (e.secretBundle C))).setText text
        suffix).source = some suffix := source_setText hkept
    have hbundled := (deviceFormat_holds_bundled hholds).acceptsDevice
    have hsame : AcceptsDevice C e.nodeId
        ((d.files.device.setBundle (some (e.secretBundle C))).setText text suffix) →
          ∀ s ∈ (deviceFormat C e.nodeId).savedStates suffix e text d.files,
            AcceptsDevice C e.nodeId s.device := by
      intro haccepts s hs
      rcases List.mem_pair.mp hs with rfl | rfl
      · exact hbundled
      · exact haccepts
    have hfrom : ∀ s ∈ (deviceFormat C e.nodeId).savedStates suffix e text d.files,
        s.identity = d.files.identity ∧ s.device.source = some suffix := by
      intro s hs
      rcases List.mem_pair.mp hs with rfl | rfl
      · exact ⟨rfl, hkept⟩
      · exact ⟨rfl, hwritten⟩
    cases suffix with
    | yaml =>
        have hreads : DeviceReads C e.nodeId d.files.device e := deviceReads_of_yaml hsource
        have hsplit := deviceFormat_split_saved (x := d.files.device) htext
        have haccepts := (deviceFormat_holds_saved htext d.files.device).acceptsDevice
        refine ⟨hholds, hwritten, rfl, fun k => ?_, _, rfl, hfrom,
          fun _ => ⟨haccepts, hsame haccepts⟩⟩
        rw [and_iff_right hreads]
        exact deviceFormat_rekeyed_iff hwritten hsplit
    | json =>
        have hreads : DeviceReads C e.nodeId d.files.device e ↔ text.Keeps deviceTextNames := by
          refine ⟨fun h => h hsource holder text htext, fun hkeeps _ _ text' htext' => ?_⟩
          cases htext.symm.trans htext'
          exact hkeeps
        refine ⟨hholds, hwritten, rfl, fun k => ?_, _, rfl, hfrom, fun h => ?_⟩
        · rw [hreads]
          exact json_rekeyed_iff htext hsource
        · -- the bundle that is there is one of the same key
          have haccepts : AcceptsDevice C e.nodeId
              ((d.files.device.setBundle (some (e.secretBundle C))).setText text .json) :=
            (json_rekeyed_iff (k := e.privateKey) htext hsource).mpr ⟨hreads.mp h, rfl⟩
          exact ⟨haccepts, hsame haccepts⟩

/-- Without device files a new device is written.  Kind: L -/
theorem loadDeviceIdentity_none (h : d.files.device.source = none) :
    loadDeviceIdentity C ρ i d = .ok a d' ↔
      a = ⟨i.nodeId, i.root, ρ.now, ρ.hint, [], ρ.now_pos, by simp, rfl⟩ ∧
        ∃ text, (deviceFormat C i.nodeId).textOf .yaml a = .ok text ∧
          d' = (deviceFormat C i.nodeId).saved .yaml a text d := by
  obtain ⟨hyaml, hjson⟩ := source_eq_none_iff.mp h
  unfold loadDeviceIdentity
  rw [PyM.bind_apply, PyM.get_apply]
  simp only [hyaml, hjson, Option.isSome_none, Bool.false_eq_true, not_false_eq_true, and_false,
    if_false]
  rw [PyM.ofExcept_bind_eq_ok]
  simp only [PyM.bind_eq_ok, PyM.pure_eq_ok, SplitFormat.save_eq_ok,
    DeviceIdentity.fromNodeIdentity, Except.ok.injEq]
  constructor
  · rintro ⟨b, rfl, _, _, ⟨text, htext, rfl⟩, rfl, rfl⟩
    exact ⟨rfl, text, htext, rfl⟩
  · rintro ⟨rfl, text, htext, rfl⟩
    exact ⟨_, rfl, (), _, ⟨text, htext, rfl⟩, rfl, rfl⟩

/-- From a JSON text, the device is loaded, rekeyed and written as YAML.  Kind: L -/
theorem loadDeviceIdentity_json (h : d.files.device.source = some .json) :
    loadDeviceIdentity C ρ i d = .ok a d' ↔
      ∃ e d₁ text, (deviceFormat C i.nodeId).load .json d = .ok e d₁ ∧ e.nodeId = i.nodeId ∧
        a = e.rekeyed i ∧ (deviceFormat C i.nodeId).textOf .yaml a = .ok text ∧
        d' = (deviceFormat C i.nodeId).saved .yaml a text d₁ := by
  obtain ⟨hyaml, hjson⟩ : d.files.device.yaml.isSome = false ∧
      d.files.device.json.isSome = true := by
    unfold SplitFiles.source at h
    cases hy : d.files.device.yaml.isSome <;> cases hj : d.files.device.json.isSome <;>
      simp_all
  unfold loadDeviceIdentity
  rw [PyM.bind_apply, PyM.get_apply]
  simp only [hyaml, hjson, Bool.false_eq_true, not_false_eq_true, and_self, if_true]
  rw [PyM.bind_eq_ok]
  constructor
  · rintro ⟨e, d₁, hload, h⟩
    rw [PyM.ofExcept_bind_eq_ok] at h
    obtain ⟨b, hb, h⟩ := h
    simp only [PyM.bind_eq_ok, PyM.pure_eq_ok, SplitFormat.save_eq_ok] at h
    obtain ⟨_, _, ⟨text, htext, rfl⟩, rfl, rfl⟩ := h
    obtain ⟨hnode, hrekeyed⟩ := fromNodeIdentity_eq_ok.mp hb
    exact ⟨e, d₁, text, hload, hnode, hrekeyed, htext, rfl⟩
  · rintro ⟨e, d₁, text, hload, hnode, hrekeyed, htext, rfl⟩
    refine ⟨e, d₁, hload, ?_⟩
    rw [PyM.ofExcept_bind_eq_ok]
    refine ⟨a, fromNodeIdentity_eq_ok.mpr ⟨hnode, hrekeyed⟩, ?_⟩
    simp only [PyM.bind_eq_ok, PyM.pure_eq_ok, SplitFormat.save_eq_ok]
    exact ⟨(), _, ⟨text, htext, rfl⟩, trivial, rfl⟩

/-- From a YAML text, the device is loaded, and rewritten if its key has changed.  Kind: L -/
theorem loadDeviceIdentity_yaml (h : d.files.device.source = some .yaml) :
    loadDeviceIdentity C ρ i d = .ok a d' ↔
      ∃ e d₁, (deviceFormat C i.nodeId).load .yaml d = .ok e d₁ ∧ e.nodeId = i.nodeId ∧
        a = e.rekeyed i ∧
        (a.publicKey C = e.publicKey C ∧ d' = d₁ ∨
          a.publicKey C ≠ e.publicKey C ∧
            ∃ text, (deviceFormat C i.nodeId).textOf .yaml a = .ok text ∧
              d' = (deviceFormat C i.nodeId).saved .yaml a text d₁) := by
  have hyaml : d.files.device.yaml.isSome = true := by
    unfold SplitFiles.source at h
    cases hy : d.files.device.yaml.isSome <;> cases hj : d.files.device.json.isSome <;>
      simp_all
  unfold loadDeviceIdentity
  rw [PyM.bind_apply, PyM.get_apply]
  simp only [hyaml, not_true_eq_false, false_and, if_false, if_true]
  rw [PyM.bind_eq_ok]
  constructor
  · rintro ⟨e, d₁, hload, h⟩
    rw [PyM.ofExcept_bind_eq_ok] at h
    obtain ⟨b, hb, h⟩ := h
    obtain ⟨hnode, hrekeyed⟩ := fromNodeIdentity_eq_ok.mp hb
    refine ⟨e, d₁, hload, hnode, ?_⟩
    by_cases hkey : b.publicKey C = e.publicKey C
    · simp only [hkey, ne_eq, not_true_eq_false, if_false, PyM.pure_eq_ok] at h
      obtain ⟨rfl, rfl⟩ := h
      exact ⟨hrekeyed, .inl ⟨hkey, rfl⟩⟩
    · simp only [hkey, ne_eq, not_false_eq_true, if_true, PyM.bind_eq_ok, PyM.pure_eq_ok,
        SplitFormat.save_eq_ok] at h
      obtain ⟨_, _, ⟨text, htext, rfl⟩, rfl, rfl⟩ := h
      exact ⟨hrekeyed, .inr ⟨hkey, text, htext, rfl⟩⟩
  · rintro ⟨e, d₁, hload, hnode, hrekeyed, hsave⟩
    refine ⟨e, d₁, hload, ?_⟩
    rw [PyM.ofExcept_bind_eq_ok]
    refine ⟨a, fromNodeIdentity_eq_ok.mpr ⟨hnode, hrekeyed⟩, ?_⟩
    rcases hsave with ⟨hkey, rfl⟩ | ⟨hkey, text, htext, rfl⟩
    · simp only [hkey, ne_eq, not_true_eq_false, if_false, PyM.pure_eq_ok, and_self]
    · simp only [hkey, ne_eq, not_false_eq_true, if_true, PyM.bind_eq_ok, PyM.pure_eq_ok,
        SplitFormat.save_eq_ok]
      exact ⟨(), _, ⟨text, htext, rfl⟩, trivial, rfl⟩

/-- What the second phase leaves behind at every point. -/
structure RekeyStates (C : KeyCodec K) (i : NodeIdentity K) (d d' : ProfileDisk K) : Prop where
  /-- The loader accepted the device's files. -/
  accepts : AcceptsDevice C i.nodeId d.files.device
  /-- It accepts them afterwards. -/
  accepts' : AcceptsDevice C i.nodeId d'.files.device
  /-- The metadata is YAML now. -/
  source : d'.files.device.source = some .yaml
  /-- The files of the node are not touched. -/
  identity : d'.files.identity = d.files.identity
  /-- The loader accepts the states between exactly if the key did not change and YAML reads what
  was written as JSON. -/
  visited : ∃ states, d'.visited = d.visited ++ states ∧
    (∀ s ∈ states, s.identity = d.files.identity ∧
      (d.files.device.source.isSome = true → s.device.source.isSome = true)) ∧
    ((∀ s ∈ states, AcceptsDevice C i.nodeId s.device) ↔
      ∀ e, (deviceFormat C i.nodeId).Holds d.files.device e →
        DeviceReads C i.nodeId d.files.device e ∧ e.publicKey C = C.publicKey i.root)

/-- A loaded identity that is saved again as the node's.  Kind: L -/
theorem DeviceStates.rekey (h : DeviceStates C i.nodeId suffix e d d')
    (htext : (deviceFormat C i.nodeId).textOf .yaml (e.rekeyed i) = .ok text) :
    RekeyStates C i d ((deviceFormat C i.nodeId).saved .yaml (e.rekeyed i) text d') := by
  obtain ⟨hholds, hsource, hidentity, hrekeyed, states, hvisited, hfrom, hread⟩ := h
  have hnode : e.nodeId = i.nodeId := by
    obtain ⟨_, -, hloads⟩ := hholds
    exact deviceFormat_nodeId hloads
  have hsaved : (deviceFormat C i.nodeId).Holds
      ((d'.files.device.setBundle (some ((e.rekeyed i).secretBundle C))).setText text .yaml)
        (e.rekeyed i) := deviceFormat_holds_saved (a := e.rekeyed i) htext d'.files.device
  have hbundled : AcceptsDevice C i.nodeId
      (d'.files.device.setBundle (some ((e.rekeyed i).secretBundle C))) ↔
        DeviceReads C i.nodeId d.files.device e ∧ e.publicKey C = C.publicKey i.root := by
    have hsame : e.rekeyed i = { e with privateKey := i.root } := by
      unfold DeviceIdentity.rekeyed
      rw [← hnode]
    rw [hsame]
    exact hrekeyed i.root
  refine ⟨hholds.acceptsDevice, hsaved.acceptsDevice, rfl, hidentity,
    states ++ (deviceFormat C i.nodeId).savedStates .yaml (e.rekeyed i) text d'.files, ?_, ?_, ?_⟩
  · rw [← List.append_assoc, ← hvisited]
    rfl
  · intro s hs
    rcases List.mem_append.mp hs with hs | hs
    · refine ⟨(hfrom s hs).1, fun _ => ?_⟩
      rw [(hfrom s hs).2]
      rfl
    · rcases List.mem_pair.mp hs with rfl | rfl
      · refine ⟨hidentity, fun _ => ?_⟩
        show (d'.files.device.setBundle _).source.isSome = true
        rw [source_setBundle, hsource]
        rfl
      · exact ⟨hidentity, fun _ => rfl⟩
  · constructor
    · intro haccepts b hb
      rw [hb.unique hholds]
      have hmem : (deviceFormat C i.nodeId).withBundle (e.rekeyed i) d'.files ∈
          (deviceFormat C i.nodeId).savedStates .yaml (e.rekeyed i) text d'.files :=
        List.mem_cons_self
      exact hbundled.mp (haccepts _ (List.mem_append_right _ hmem))
    · intro hkey s hs
      rcases List.mem_append.mp hs with hs | hs
      · exact (hread (hkey e hholds).1).2 s hs
      · rcases List.mem_pair.mp hs with rfl | rfl
        · exact hbundled.mpr (hkey e hholds)
        · exact hsaved.acceptsDevice

/-- The states the device files pass through in a load of the device.  Kind: L -/
theorem rekey_states (h : loadDeviceIdentity C ρ i d = .ok a d') : RekeyStates C i d d' := by
  cases hsuffix : d.files.device.source with
  | none =>
      obtain ⟨rfl, text, htext, rfl⟩ := (loadDeviceIdentity_none hsuffix).mp h
      have hsaved := deviceFormat_holds_saved htext d.files.device
      have hnone : AcceptsDevice C i.nodeId d.files.device := fun suffix hsource => by
        rw [hsuffix] at hsource
        cases hsource
      refine ⟨hnone, hsaved.acceptsDevice, rfl, rfl, _, rfl, ?_, ?_⟩
      · intro s hs
        refine ⟨?_, fun hsome => by rw [hsuffix] at hsome; cases hsome⟩
        rcases List.mem_pair.mp hs with rfl | rfl <;> rfl
      · constructor
        · rintro - e ⟨suffix, hsource, -⟩
          rw [hsuffix] at hsource
          cases hsource
        · intro _ s hs
          rcases List.mem_pair.mp hs with rfl | rfl
          · intro suffix hsource
            have hsource' : d.files.device.source = some suffix := hsource
            rw [hsuffix] at hsource'
            cases hsource'
          · exact hsaved.acceptsDevice
  | some suffix =>
      cases suffix with
      | json =>
          obtain ⟨e, d₁, text, hload, -, rfl, htext, rfl⟩ :=
            (loadDeviceIdentity_json hsuffix).mp h
          exact (device_states_load hsuffix hload).rekey htext
      | yaml =>
          obtain ⟨e, d₁, hload, -, rfl, hsave⟩ := (loadDeviceIdentity_yaml hsuffix).mp h
          have hstates := device_states_load hsuffix hload
          rcases hsave with ⟨hkey, rfl⟩ | ⟨-, text, htext, rfl⟩
          · obtain ⟨hholds, hsource, hidentity, -, states, hvisited, hfrom, hread⟩ := hstates
            have hreads : DeviceReads C i.nodeId d.files.device e := deviceReads_of_yaml hsuffix
            obtain ⟨haccepts, hall⟩ := hread hreads
            refine ⟨hholds.acceptsDevice, haccepts, hsource, hidentity, states, hvisited, ?_, ?_⟩
            · intro s hs
              refine ⟨(hfrom s hs).1, fun _ => ?_⟩
              rw [(hfrom s hs).2]
              rfl
            · constructor
              · intro _ b hb
                rw [hb.unique hholds]
                exact ⟨hreads, hkey.symm⟩
              · intro _ s hs
                exact hall s hs
          · exact hstates.rekey htext

/-- What the loader accepts is loaded.  Kind: L -/
theorem exists_loadDeviceIdentity (h : AcceptsDevice C i.nodeId d.files.device) :
    ∃ a d', loadDeviceIdentity C ρ i d = .ok a d' := by
  cases hsuffix : d.files.device.source with
  | none => exact ⟨_, _, (loadDeviceIdentity_none hsuffix).mpr ⟨rfl, _, rfl, rfl⟩⟩
  | some suffix =>
      obtain ⟨e, hloads⟩ := h suffix hsuffix
      have hnode := deviceFormat_nodeId hloads
      obtain ⟨d₁, hload⟩ := SplitFormat.exists_load_eq_ok_iff.mpr hloads
      cases suffix with
      | json =>
          exact ⟨_, _, (loadDeviceIdentity_json hsuffix).mpr
            ⟨e, d₁, _, hload, hnode, rfl, rfl, rfl⟩⟩
      | yaml =>
          by_cases hkey : (e.rekeyed i).publicKey C = e.publicKey C
          · exact ⟨_, _, (loadDeviceIdentity_yaml hsuffix).mpr
              ⟨e, d₁, hload, hnode, rfl, .inl ⟨hkey, rfl⟩⟩⟩
          · exact ⟨_, _, (loadDeviceIdentity_yaml hsuffix).mpr
              ⟨e, d₁, hload, hnode, rfl, .inr ⟨hkey, _, rfl, rfl⟩⟩⟩

end device

/-! ## The pair -/

section pair

variable {K : Type} [DecidableEq K] {C : KeyCodec K} {ρ ρ' : Fresh K} {i j r : NodeIdentity K}
  {a : DeviceIdentity K} {f s : ProfileFiles K} {d d' : ProfileDisk K}

/-- The identity, with the marker that it has a device's. -/
def NodeIdentity.marked (i : NodeIdentity K) : NodeIdentity K := { i with expected := true }

/-- A text is read if and only if one is there.  Kind: L -/
theorem source_isSome_iff {B : Type} {x : SplitFiles B} :
    x.source.isSome = true ↔ x.yaml.isSome = true ∨ x.json.isSome = true := by
  unfold SplitFiles.source
  cases x.yaml <;> cases x.json <;> simp

/-- A profile that loads: node first, then device.  Kind: L -/
theorem loadProfileIdentity_eq_ok :
    loadProfileIdentity C ρ d = .ok (r, a) d' ↔
      ∃ i d₁ d₂, loadOrCreateNodeIdentity C ρ d = .ok i d₁ ∧
        (i.expected = true → d₁.files.device.source.isSome = true) ∧
        loadDeviceIdentity C ρ i d₁ = .ok a d₂ ∧ r = i.marked ∧
        (i.expected = true ∧ d' = d₂ ∨ i.expected = false ∧
          ∃ text, (nodeFormat C ρ).textOf .yaml i.marked = .ok text ∧
            d' = (nodeFormat C ρ).saved .yaml i.marked text d₂) := by
  have hmarker : ∀ (k : NodeIdentity K) (p : ProfileFiles K),
      ¬(k.expected = true ∧ ¬(p.device.yaml.isSome = true ∨ p.device.json.isSome = true)) ↔
        (k.expected = true → p.device.source.isSome = true) := by
    intro k p
    rw [source_isSome_iff, not_and_not_right]
  unfold loadProfileIdentity
  rw [PyM.bind_eq_ok]
  refine exists_congr fun i => exists_congr fun d₁ => ?_
  rw [PyM.get_bind_eq_ok]
  simp only [PyM.raiseIf_bind_eq_ok, hmarker]
  rw [PyM.bind_eq_ok]
  constructor
  · rintro ⟨hnode, hexpected, b, d₂, hdevice, h⟩
    cases hmark : i.expected with
    | true =>
        rw [hmark, if_pos rfl, PyM.pure_eq_ok] at h
        obtain ⟨h, rfl⟩ := h
        cases h
        refine ⟨_, hnode, fun _ => hexpected hmark, hdevice, ?_, .inl ⟨rfl, rfl⟩⟩
        unfold NodeIdentity.marked
        rw [← hmark]
    | false =>
        rw [hmark, if_neg (by decide)] at h
        simp only [PyM.bind_eq_ok, PyM.pure_eq_ok, SplitFormat.save_eq_ok] at h
        obtain ⟨_, _, ⟨text, htext, rfl⟩, h, rfl⟩ := h
        cases h
        exact ⟨_, hnode, fun h => absurd h (by decide), hdevice, rfl, .inr ⟨rfl, text, htext, rfl⟩⟩
  · rintro ⟨d₂, hnode, hexpected, hdevice, rfl, ⟨hmark, rfl⟩ | ⟨hmark, text, htext, rfl⟩⟩
    · refine ⟨hnode, hexpected, a, _, hdevice, ?_⟩
      rw [hmark, if_pos rfl, PyM.pure_eq_ok]
      refine ⟨?_, rfl⟩
      unfold NodeIdentity.marked
      rw [← hmark]
    · refine ⟨hnode, hexpected, a, _, hdevice, ?_⟩
      rw [hmark, if_neg (by decide)]
      simp only [PyM.bind_eq_ok, PyM.pure_eq_ok, SplitFormat.save_eq_ok]
      exact ⟨(), _, ⟨text, htext, rfl⟩, rfl, rfl⟩

/-- The loader accepts files that hold a node's identity, with a device's where one is expected.
Kind: L -/
theorem loadProfileIdentity_of_holds (h : (nodeFormat C ρ).Holds d.files.identity i)
    (hexpected : i.expected = true → d.files.device.source.isSome = true)
    (hdevice : AcceptsDevice C i.nodeId d.files.device) :
    ∃ a d', loadProfileIdentity C ρ d = .ok (i.marked, a) d' := by
  obtain ⟨d₁, hnode⟩ := exists_loadOrCreateNodeIdentity h
  have hsource : d.files.identity.source ≠ none := by
    obtain ⟨suffix, hsome, -⟩ := h
    rw [hsome]
    exact Option.some_ne_none _
  have hsame := (node_states hsource hnode).device
  rw [← hsame] at hexpected hdevice
  obtain ⟨a, d₂, hload⟩ : ∃ a d₂, loadDeviceIdentity C ρ i d₁ = .ok a d₂ :=
    exists_loadDeviceIdentity hdevice
  have hfits := nodeFormat_savable_iff.mp (nodeFormat_savable h)
  obtain ⟨text, htext⟩ : ∃ text, (nodeFormat C ρ).textOf .yaml i.marked = .ok text :=
    nodeFormat_savable_iff.mpr hfits
  cases hmark : i.expected with
  | true =>
      exact ⟨a, d₂, loadProfileIdentity_eq_ok.mpr
        ⟨i, d₁, d₂, hnode, hexpected, hload, rfl, .inl ⟨hmark, rfl⟩⟩⟩
  | false =>
      exact ⟨a, _, loadProfileIdentity_eq_ok.mpr
        ⟨i, d₁, d₂, hnode, hexpected, hload, rfl, .inr ⟨hmark, text, htext, rfl⟩⟩⟩

/-- It accepts no others, unless there is no identity.  Kind: L -/
theorem holds_of_loadProfileIdentity (hsource : d.files.identity.source ≠ none)
    (h : loadProfileIdentity C ρ d = .ok (r, a) d') :
    ∃ i, r = i.marked ∧ (nodeFormat C ρ).Holds d.files.identity i ∧
      (i.expected = true → d.files.device.source.isSome = true) ∧
      AcceptsDevice C i.nodeId d.files.device := by
  obtain ⟨i, d₁, d₂, hnode, hexpected, hload, hr, -⟩ := loadProfileIdentity_eq_ok.mp h
  have hstates := node_states hsource hnode
  have haccepts := (rekey_states hload).accepts
  rw [hstates.device] at hexpected haccepts
  exact ⟨i, hr, hstates.holds, hexpected, haccepts⟩

/-- A bundle without metadata is not accepted.  Kind: L -/
theorem loadProfileIdentity_of_orphan (hsource : d.files.identity.source = none)
    (hbundle : d.files.identity.msgpack.isSome = true) :
    loadProfileIdentity C ρ d ≠ .ok (r, a) d' := by
  intro h
  obtain ⟨i, d₁, -, hnode, -⟩ := loadProfileIdentity_eq_ok.mp h
  obtain ⟨hyaml, hjson⟩ := source_eq_none_iff.mp hsource
  unfold loadOrCreateNodeIdentity at hnode
  rw [PyM.get_bind_eq_ok] at hnode
  simp only [hyaml, hjson, Option.isSome_none, Bool.false_eq_true, if_false] at hnode
  rw [PyM.raiseIf_bind_eq_ok] at hnode
  exact hnode.1 hbundle

omit [DecidableEq K] in
/-- An identity is created in two steps, the first of which leaves a bundle without metadata.
Kind: L -/
theorem orphan_of_created (hsource : d.files.identity.source = none)
    (h : loadOrCreateNodeIdentity C ρ d = .ok i d') :
    ∃ text, d' = (nodeFormat C ρ).saved .yaml i text d := by
  obtain ⟨hyaml, hjson⟩ := source_eq_none_iff.mp hsource
  unfold loadOrCreateNodeIdentity at h
  rw [PyM.get_bind_eq_ok] at h
  simp only [hyaml, hjson, Option.isSome_none, Bool.false_eq_true, if_false] at h
  rw [PyM.raiseIf_bind_eq_ok] at h
  obtain ⟨-, h⟩ := h
  rw [PyM.raiseIf_bind_eq_ok] at h
  obtain ⟨-, h⟩ := h
  simp only [PyM.bind_eq_ok, PyM.pure_eq_ok, SplitFormat.save_eq_ok] at h
  obtain ⟨_, _, ⟨text, -, rfl⟩, rfl, rfl⟩ := h
  exact ⟨text, rfl⟩

/-! ## Crashes -/

/-- The files determine the identity: on the files as they are some call returns it, and what is
not drawn is the same for every call. -/
def Determined (C : KeyCodec K) (f : ProfileFiles K) (r : NodeIdentity K) : Prop :=
  ∃ ρ r₀ a₀ d₀, loadProfileIdentity C ρ ⟨f, [f]⟩ = .ok (r₀, a₀) d₀ ∧
    r.nodeId = r₀.nodeId ∧ r.secret = r₀.secret ∧ r.root = r₀.root

/-- After a crash that leaves `s`, the next call returns the identity that `f` determines. -/
def RecoversFrom (C : KeyCodec K) (f s : ProfileFiles K) : Prop :=
  ∀ ρ, ∃ r a d, loadProfileIdentity C ρ ⟨s, [s]⟩ = .ok (r, a) d ∧ Determined C f r

/-- There is an identity, its secret is text as the migration writes it, and the root key is that
of the device's identity, if there is one; and YAML reads what the migration of an older JSON record
writes in its place. -/
def Recoverable (C : KeyCodec K) (ρ : Fresh K) (f : ProfileFiles K) : Prop :=
  ∃ i, (nodeFormat C ρ).Holds f.identity i ∧ i.Canonical C ∧ NodeReads C ρ f.identity i ∧
    ∀ a, (deviceFormat C i.nodeId).Holds f.device a →
      DeviceReads C i.nodeId f.device a ∧ a.publicKey C = C.publicKey i.root

/-- Another process finds the identity in a state that keeps it.  Kind: L -/
theorem recoversFrom_of_kept (hf : (nodeFormat C ρ).Holds f.identity i)
    (hcanonical : i.Canonical C)
    (hexpected : i.expected = true → f.device.source.isSome = true)
    (hdevice : AcceptsDevice C i.nodeId f.device) (hkept : Kept C f.identity i s.identity)
    (hexpected' : i.expected = true → s.device.source.isSome = true)
    (hdevice' : AcceptsDevice C i.nodeId s.device) : RecoversFrom C f s := by
  intro ρ'
  obtain ⟨j, hj, hsame⟩ := hkept ρ'
  obtain ⟨a₀, d₀, hrun⟩ : ∃ a₀ d₀, loadProfileIdentity C ρ ⟨f, [f]⟩ = .ok (i.marked, a₀) d₀ :=
    loadProfileIdentity_of_holds hf hexpected hdevice
  rcases hsame with hsame | hsame
  · obtain ⟨root, hroot⟩ : ∃ root, (nodeFormat C ρ').Holds f.identity { i with root := root } :=
      nodeFormat_holds_redraw hf
    cases hsame.unique hroot
    obtain ⟨a, d, hload⟩ : ∃ a d, loadProfileIdentity C ρ' ⟨s, [s]⟩ =
        .ok (({ i with root := root } : NodeIdentity K).marked, a) d :=
      loadProfileIdentity_of_holds hj hexpected' hdevice'
    obtain ⟨a₁, d₁, hrun'⟩ : ∃ a d, loadProfileIdentity C ρ' ⟨f, [f]⟩ =
        .ok (({ i with root := root } : NodeIdentity K).marked, a) d :=
      loadProfileIdentity_of_holds hroot hexpected hdevice
    exact ⟨_, a, d, hload, ρ', _, a₁, d₁, hrun', rfl, rfl, rfl⟩
  · rw [NodeIdentity.stored_of_canonical hcanonical] at hsame
    rw [← hsame.expected] at hexpected'
    rw [← hsame.nodeId] at hdevice'
    obtain ⟨a, d, hload⟩ : ∃ a d, loadProfileIdentity C ρ' ⟨s, [s]⟩ = .ok (j.marked, a) d :=
      loadProfileIdentity_of_holds hj hexpected' hdevice'
    exact ⟨_, a, d, hload, ρ, _, a₀, d₀, hrun, hsame.nodeId, hsame.secret, hsame.root⟩

/-- So it does once the migrated identity is marked.  Kind: L -/
theorem recoversFrom_of_marked (hf : (nodeFormat C ρ).Holds f.identity i)
    (hcanonical : i.Canonical C)
    (hexpected : i.expected = true → f.device.source.isSome = true)
    (hdevice : AcceptsDevice C i.nodeId f.device) (hmigrated : Migrated C i.marked s.identity)
    (hexpected' : s.device.source.isSome = true)
    (hdevice' : AcceptsDevice C i.nodeId s.device) : RecoversFrom C f s := by
  intro ρ'
  obtain ⟨a₀, d₀, hrun⟩ : ∃ a₀ d₀, loadProfileIdentity C ρ ⟨f, [f]⟩ = .ok (i.marked, a₀) d₀ :=
    loadProfileIdentity_of_holds hf hexpected hdevice
  have hj : (nodeFormat C ρ').Holds s.identity i.marked := by
    have hmarked : i.marked.Canonical C := hcanonical
    rw [← NodeIdentity.stored_of_canonical hmarked]
    exact hmigrated ρ'
  obtain ⟨a, d, hload⟩ : ∃ a d, loadProfileIdentity C ρ' ⟨s, [s]⟩ = .ok (i.marked.marked, a) d :=
    loadProfileIdentity_of_holds hj (fun _ => hexpected') hdevice'
  exact ⟨_, a, d, hload, ρ, _, a₀, d₀, hrun, rfl, rfl, rfl⟩

/-- The states of a run, phase by phase.  Kind: L -/
theorem visited_of_run (hsource : f.identity.source ≠ none)
    (h : loadProfileIdentity C ρ ⟨f, [f]⟩ = .ok (r, a) d') :
    ∃ i d₁ d₂ marker, NodeStates C ρ i ⟨f, [f]⟩ d₁ ∧ RekeyStates C i d₁ d₂ ∧
      (i.expected = true → f.device.source.isSome = true) ∧ d'.visited = d₂.visited ++ marker ∧
      ∀ s ∈ marker, s.device = d₂.files.device ∧
        (Migrated C i s.identity ∨ Migrated C i.marked s.identity) := by
  obtain ⟨i, d₁, d₂, hnode, hexpected, hload, -, hmarker⟩ := loadProfileIdentity_eq_ok.mp h
  have hnodes := node_states hsource hnode
  have hrekey := rekey_states hload
  rw [hnodes.device] at hexpected
  rcases hmarker with ⟨-, rfl⟩ | ⟨-, text, htext, rfl⟩
  · refine ⟨i, d₁, _, [], hnodes, hrekey, hexpected, (List.append_nil _).symm, ?_⟩
    intro s hs
    cases hs
  · refine ⟨i, d₁, d₂, _, hnodes, hrekey, hexpected, rfl, ?_⟩
    have hmigrated : Migrated C i d₂.files.identity := by
      rw [hrekey.identity]
      exact hnodes.migrated
    intro s hs
    rcases List.mem_pair.mp hs with rfl | rfl
    · exact ⟨rfl, .inl hmigrated.bundle⟩
    · exact ⟨rfl, .inr (migrated_text htext d₂.files.identity)⟩

/-- A created identity is lost if the crash comes before its metadata is written.  Kind: L -/
theorem orphan_of_empty (hsource : f.identity.source = none)
    (h : loadProfileIdentity C ρ ⟨f, [f]⟩ = .ok (r, a) d') :
    ∃ s ∈ d'.visited, s.identity.source = none ∧ s.identity.msgpack.isSome = true := by
  obtain ⟨i, d₁, d₂, hnode, -, hload, -, hmarker⟩ := loadProfileIdentity_eq_ok.mp h
  obtain ⟨text, rfl⟩ := orphan_of_created hsource hnode
  obtain ⟨states, hvisited, -⟩ := (rekey_states hload).visited
  have hmem : (nodeFormat C ρ).withBundle i f ∈ d₂.visited := by
    rw [hvisited]
    exact List.mem_append_left _ (List.mem_append_right _ List.mem_cons_self)
  refine ⟨(nodeFormat C ρ).withBundle i f, ?_, hsource, rfl⟩
  rcases hmarker with ⟨-, rfl⟩ | ⟨-, text', -, rfl⟩
  · exact hmem
  · exact List.mem_append_left _ hmem

/-- What is recovered from a migrated state, if anything, is what is read back.  Kind: L -/
theorem secret_of_recoversFrom (hf : (nodeFormat C ρ).Holds f.identity i)
    (hmigrated : Migrated C i s.identity) (h : RecoversFrom C f s) :
    (i.stored C).secret = i.secret ∧ AcceptsDevice C i.nodeId s.device := by
  obtain ⟨r, a, d, hrun, ρ₀, r₀, a₀, d₀, hrun₀, -, hsecret, -⟩ := h ρ
  have hsource : s.identity.source ≠ none := by
    obtain ⟨suffix, hsome, -⟩ := hmigrated ρ
    rw [hsome]
    exact Option.some_ne_none _
  obtain ⟨j, rfl, hj, -, haccepts⟩ := holds_of_loadProfileIdentity hsource hrun
  have hsource₀ : f.identity.source ≠ none := by
    obtain ⟨suffix, hsome, -⟩ := hf
    rw [hsome]
    exact Option.some_ne_none _
  obtain ⟨i₀, rfl, hi₀, -⟩ := holds_of_loadProfileIdentity hsource₀ hrun₀
  obtain ⟨root, hroot⟩ : ∃ root, (nodeFormat C ρ₀).Holds f.identity { i with root := root } :=
    nodeFormat_holds_redraw hf
  cases hj.unique (hmigrated ρ)
  cases hi₀.unique hroot
  rw [NodeIdentity.stored_nodeId] at haccepts
  exact ⟨hsecret, haccepts⟩

omit [DecidableEq K] in

/-- An identity stored with the secret it has is canonical.  Kind: L -/
theorem canonical_of_stored {secret : K} (hsecret : C.unhex i.secret = some secret)
    (h : (i.stored C).secret = i.secret) : i.Canonical C := by
  rw [NodeIdentity.stored_secret hsecret] at h
  unfold NodeIdentity.Canonical
  rw [hsecret, Option.map_some, h]

end pair

/-! ## Two profiles -/

section profiles

/-- 32 zero bytes, and the public key that belongs to them. -/
inductive ZeroKey where
  | seed | publicKey
  deriving DecidableEq

/-- The codec on the two; YAML reads the ASCII texts of the examples as JSON does. -/
def zeroCodec : KeyCodec ZeroKey where
  hex
    | .seed => "0000000000000000000000000000000000000000000000000000000000000000"
    | .publicKey => "3b6a27bcceb6a42d62a3a8d02a6f0d73653215771de243a63ac048a18b59da29"
  unhex text :=
    if text = "0000000000000000000000000000000000000000000000000000000000000000" then some .seed
    else if text = "3b6a27bcceb6a42d62a3a8d02a6f0d73653215771de243a63ac048a18b59da29" then
      some .publicKey
    else none
  base64
    | .seed => "AAAAAAAAAAAAAAAAAAAAAAAAAAAAAAAAAAAAAAAAAAA="
    | .publicKey => "O2onvM62pC1io6jQKm8Nc2UyFXcd4kOmOsBIoYtZ2ik="
  unbase64 text :=
    if text = "AAAAAAAAAAAAAAAAAAAAAAAAAAAAAAAAAAAAAAAAAAA=" then some .seed
    else if text = "O2onvM62pC1io6jQKm8Nc2UyFXcd4kOmOsBIoYtZ2ik=" then some .publicKey
    else none
  publicKey _ := .publicKey
  secretFingerprint
    | .seed => "e520c6e42ec88085f88920f4daa78284d5512ecc278914309f878cae27eac97b"
    | .publicKey => "8b02d7595ef8f01629c82070ef10fd565cd4b0a8a6627b11fb1d8206c2ccfe0b"
  keyFingerprint
    | .seed => "ed25519:66687aadf862bd776c8fc18b8e9f8e20089714856ee233b3902a591d0d5f2925"
    | .publicKey => "ed25519:139e3940e64b5491722088d9a0d741628fc826e09475d341a780acde3c4b8070"
  yamlOfJson document := some document.fields
  unhex_hex := by
    rintro (_ | _) <;> decide +kernel
  hex_valid := by
    rintro (_ | _) <;> decide +kernel
  unbase64_base64 := by
    rintro (_ | _) <;> decide +kernel
  ascii := by
    rintro (_ | _) <;> decide +kernel
  yaml_ascii := by
    rintro document _ key v ⟨⟩ - hget -
    exact hget
  yaml_missing := by
    rintro document _ key ⟨⟩ - hget
    exact hget
  yaml_number := by
    rintro document _ key x ⟨⟩ - hget
    exact .inl hget
  yaml_plain := by
    rintro document _ ⟨⟩
    exact document.isPlain

/-- The draws of one process, without hardware evidence. -/
def zeroDraws : Fresh ZeroKey where
  nodeId := ⟨"00000000000000000000000000000000", by decide⟩
  secret := .seed
  root := .seed
  now := 1
  now_pos := by decide
  hint := none

/-- An empty directory. -/
def emptyProfile : ProfileFiles ZeroKey := ⟨⟨none, none, none⟩, ⟨none, none, none⟩, false⟩

/-- A first record, without a version and without a root key. -/
def legacyRecord : Fields :=
  [("node_id", .str "laptop"),
    ("secret", .str "0000000000000000000000000000000000000000000000000000000000000000")]

/-- A profile with the record as JSON. -/
def legacyProfile : ProfileFiles ZeroKey :=
  ⟨⟨none, some (.ofJson zeroCodec.yamlOfJson ⟨legacyRecord, rfl⟩), none⟩, ⟨none, none, none⟩, false⟩

/-- The call returned. -/
def returned {σ α : Type} : EStateM.Result PyError σ α → Bool
  | .ok _ _ => true
  | .error _ _ => false

/-- The executable check of a call that returns is sound.  Kind: L -/
theorem eq_ok_of_returned {σ α : Type} {r : EStateM.Result PyError σ α} (h : returned r = true) :
    ∃ a s, r = .ok a s := by
  cases r with
  | ok a s => exact ⟨a, s, rfl⟩
  | error e s => cases h

/-- What the legacy profile of the sample holds is canonical.  Kind: L -/
theorem canonical_of_legacyProfile {i : NodeIdentity ZeroKey}
    (h : (nodeFormat zeroCodec zeroDraws).Holds legacyProfile.identity i) :
    i.Canonical zeroCodec := by
  have hread : (match NodeIdentity.fromJson zeroCodec zeroDraws
        (legacyProfile.identity.json.bind TextFile.json) with
      | .ok i => decide ((zeroCodec.unhex i.secret).map zeroCodec.hex = some i.secret)
      | .error _ => false) = true := by
    decide +kernel
  have hlegacy : (nodeFormat zeroCodec zeroDraws).isSplit legacyRecord = false := by
    decide +kernel
  obtain ⟨suffix, hsource, hloads⟩ := h
  cases hsource
  rcases hloads with ⟨_, ⟨⟩, hsplit, -⟩ | ⟨⟨_, -, -, hjson⟩, -⟩
  · rw [hlegacy] at hsplit
    cases hsplit
  · have hjson' : NodeIdentity.fromJson zeroCodec zeroDraws
        (legacyProfile.identity.json.bind TextFile.json) = .ok i := hjson
    rw [hjson'] at hread
    unfold NodeIdentity.Canonical
    exact of_decide_eq_true hread

/-- The sample codec keeps the node id.  Kind: L -/
theorem keeps_of_zeroCodec {i : NodeIdentity ZeroKey} {text : TextFile}
    (htext : (nodeFormat zeroCodec zeroDraws).textOf .json i = .ok text) :
    text.Keeps ["node_id"] := by
  obtain ⟨metadata, hmetadata, -⟩ := Except.bind_eq_ok.mp htext
  obtain ⟨document, -, rfl⟩ := SplitFormat.json_of_textOf hmetadata htext
  exact ⟨document.fields, document, rfl, rfl, fun _ _ => rfl⟩

end profiles

end ExpraConnect.Profile
