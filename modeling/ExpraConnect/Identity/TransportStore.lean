import ExpraConnect.Identity.TransportGeneration
import ExpraConnect.Pairing.Manager

/-!
# The transport generations and their store

`identity/transport_generation.py` once more, with the document as it is written and read and with
memory and file as two things that a failing save can pull apart.

* `TransportState.toDict`, `loadDocument`: the writer and the strict reader of `transport.yaml`;
* `TransportStore`: what the manager holds and what its store holds; `commitTo` assigns first,
  saves, and restores when the save raises;
* `GenerationOp.perform`: the six operations;
* `TransportStore.outcome`: what the transitions do on a store is what `TransportManager.prepare`
  and its neighbours compute;
* `Transition`: every document an operation can write, and `perform_spec`, which says that an
  operation writes one of them to memory and file, or changes neither;
* `TransportState.Ordered`, `TransportState.Proven`: what the reader asks for, and
  `loadDocument_toDict`, which reads such a document back;
* `generations_reloadable`: after every run memory and file agree and can be read again.

A store replaces its document or raises; what the save raises is an argument.  A node signs with the
key its proofs are checked against (`SignsFor`).
-/

namespace ExpraConnect

open ExpraConnect.Lib

/-! ## Documents -/

/-- `encode`.  Source: `identity/transport_generation.py`, `_to_dict`.  Kind: D -/
def TransportGeneration.encode (g : TransportGeneration) : Fields :=
  [("generation", .int g.generation), ("fingerprint", .str g.fingerprint), ("proof", .str g.proof)]

/-- An end of grace as it is written. -/
def encodeExpiry : Option ℚ → Value
  | none => .null
  | some t => .float (.finite t)

/-- An entry of `accepted` as it is written. -/
def encodeAccepted (entry : TransportGeneration × Option ℚ) : Value :=
  .dict (entry.1.encode ++ [("expires_at", encodeExpiry entry.2)])

/-- Source: `identity/transport_generation.py`, `_to_dict`.  Kind: D -/
def TransportState.toDict (d : TransportState) : Fields :=
  [("version", .int 2), ("current", .dict d.current.encode),
    ("accepted", .list (d.accepted.values.map encodeAccepted)),
    ("next", match d.next with
      | none => .null
      | some g => .dict g.encode)]

/-- Source: `identity/transport_generation.py`, `current`.  Kind: D -/
def TransportManager.currentOf (m : TransportManager) : Except PyError TransportGeneration :=
  match m.current with
  | none => .error ⟨.transportState, "transport generation is not initialized"⟩
  | some current => .ok current

/-- Source: `identity/transport_generation.py`, `_to_dict`.  Kind: D -/
def TransportManager.toDict (m : TransportManager) : Except PyError Fields := do
  let current ← m.currentOf
  return TransportState.toDict ⟨current, m.accepted, m.next⟩

section identity

variable (check : SignatureCheck) (node : NodeId) (root : String) (sign : ℕ → String → String)

/-- `self.identity.verify_transport_proof` of a generation. -/
def TransportGeneration.Proven (g : TransportGeneration) : Prop :=
  verifyTransportProof check node root g.generation (.text g.fingerprint) g.proof = true

/-- Source: `identity/transport_generation.py`, `_decode`.  Kind: D -/
def TransportGeneration.decode (raw : Value) : Except PyError TransportGeneration :=
  match raw with
  | .dict fields => do
      let generation ← requiredField "generation" fields
      let fingerprint ← requiredField "fingerprint" fields
      let proof ← requiredField "proof" fields
      match generation, fingerprint, proof with
      | .int g, .str fp, .str p =>
          raiseIf (g < 1 ∨ fp = "" ∨ !verifyTransportProof check node root g (.text fp) p)
            ⟨.value, ""⟩
          return ⟨g.toNat, fp, p⟩
      | _, _, _ => throw ⟨.value, ""⟩
  | _ => .error ⟨.type, ""⟩

/-- The expiry of an entry of `accepted`.  Source: `identity/transport_generation.py`, `_load`.
Kind: D -/
def decodeExpiry (fields : Fields) : Except PyError (Option ℚ) :=
  match (getField "expires_at" fields).getD .null with
  | .null => .ok none
  | v => do
      match ← v.finite? with
      | some t => return some t
      | none => throw ⟨.value, ""⟩

/-- The loop over the entries of `accepted`.  Source: `identity/transport_generation.py`, `_load`.
Kind: D -/
def decodeAccepted (current : TransportGeneration) :
    List Value → Accepted → Except PyError Accepted
  | [], accepted => .ok accepted
  | .dict fields :: rest, accepted => do
      let item ← TransportGeneration.decode check node root (.dict fields)
      raiseIf (accepted.contains item.generation ∨ item.generation ≥ current.generation)
        ⟨.value, ""⟩
      let expiry ← decodeExpiry fields
      decodeAccepted current rest (accepted.insert item.generation (item, expiry))
  | _ :: _, _ => .error ⟨.type, ""⟩

/-- The next generation, if there is one.  Source: `identity/transport_generation.py`, `_load`.
Kind: D -/
def decodeNext : Value → Except PyError (Option TransportGeneration)
  | .null => .ok none
  | rawNext => some <$> TransportGeneration.decode check node root rawNext

/-- The `try` block of `_load`.  Source: `identity/transport_generation.py`, `_load`.  Kind: D -/
def parseDocument (document : Fields) : Except PyError TransportManager := do
  let version := (getField "version" document).getD .null
  if version.equalsInt 1 then
    match ← requiredField "fingerprint" document with
    | .str fingerprint =>
        raiseIf (fingerprint = "") ⟨.value, ""⟩
        let current ← TransportManager.newGeneration sign 1 fingerprint
        return ⟨some current, Dict.empty, none⟩
    | _ => throw ⟨.value, ""⟩
  else
    raiseIf (!version.equalsInt 2) ⟨.value, ""⟩
    let rawCurrent ← requiredField "current" document
    let current ← TransportGeneration.decode check node root rawCurrent
    let rawAccepted ← requiredField "accepted" document
    match rawAccepted with
    | .list items =>
        let accepted ← decodeAccepted check node root current items Dict.empty
        let next ← decodeNext check node root ((getField "next" document).getD .null)
        raiseIf (next.any fun n =>
            n.generation ≤ current.generation || accepted.contains n.generation) ⟨.value, ""⟩
        return ⟨some current, accepted, next⟩
    | _ => throw ⟨.type, ""⟩

/-- Source: `identity/transport_generation.py`, `_load`.  Kind: D -/
def loadDocument (document : Fields) : Except PyError TransportManager :=
  match parseDocument check node root sign document with
  | .ok m => .ok m
  | .error e =>
      if e.kind = .key ∨ e.kind = .overflow ∨ e.kind = .type ∨ e.kind.isValueError then
        .error ⟨.value, "transport state is malformed"⟩
      else .error e

/-! ## The manager and its store -/

/-- A manager and the document of its store. -/
structure TransportStore where
  /-- The manager. -/
  manager : TransportManager
  /-- What the store holds. -/
  stored : Option Fields

namespace TransportStore

/-- A new manager on an empty store. -/
def fresh : TransportStore := ⟨⟨none, Dict.empty, none⟩, none⟩

/-- A new manager on the store.
Source: `identity/transport_generation.py`, `TransportGenerationManager.__init__`.  Kind: D -/
def reopen (s : TransportStore) : Except PyError TransportStore :=
  match s.stored with
  | none => .ok fresh
  | some document => do
      let manager ← loadDocument check node root sign document
      return ⟨manager, some document⟩

/-- `_save`, which the store lets through or not.
Source: `identity/transport_generation.py`, `_save`.  Kind: D -/
def save (fault : Option PyError) : PyM TransportStore Unit := do
  let s ← get
  let document ← PyM.ofExcept s.manager.toDict
  match fault with
  | some e => throw e
  | none => set { s with stored := some document }

/-- Source: `identity/transport_generation.py`, `_commit`.  Kind: D -/
def commitTo (fault : Option PyError) (current : TransportGeneration) (accepted : Accepted)
    (next : Option TransportGeneration) : PyM TransportStore Unit := do
  let s ← get
  set { s with manager := ⟨some current, accepted, next⟩ }
  match ← (save fault).attempt with
  | .ok _ => return
  | .error _ =>
      modify fun t => { t with manager := s.manager }
      throw ⟨.transportState, "transport state was not persisted"⟩

/-- Source: `identity/transport_generation.py`, `initialize`.  Kind: D -/
def initializeCurrent (fault : Option PyError) (fingerprint : String) :
    PyM TransportStore Unit := do
  let s ← get
  match s.manager.current with
  | some current =>
      raiseIf (current.fingerprint ≠ fingerprint)
        ⟨.transportState, "initial transport generation already exists"⟩
  | none => do
      let candidate ← PyM.ofExcept (TransportManager.newGeneration sign 1 fingerprint)
      commitTo fault candidate Dict.empty none

/-- Source: `identity/transport_generation.py`, `prepare`.  Kind: D -/
def prepare (fault : Option PyError) (fingerprint : String) : PyM TransportStore Unit := do
  let s ← get
  match s.manager.current with
  | none => initializeCurrent sign fault fingerprint
  | some current => do
      raiseIf s.manager.next.isSome ⟨.value, "a transport rotation is already pending"⟩
      let candidate ← PyM.ofExcept
        (TransportManager.newGeneration sign (s.manager.highestGeneration + 1) fingerprint)
      commitTo fault current s.manager.accepted (some candidate)

/-- Source: `identity/transport_generation.py`, `activate`.  Kind: D -/
def activate (fault : Option PyError) (generation : ℤ) (now : ℚ) : PyM TransportStore Unit := do
  let s ← get
  match s.manager.next with
  | none => throw ⟨.transportState, "generation is not pending activation"⟩
  | some next => do
      raiseIf ((next.generation : ℤ) ≠ generation)
        ⟨.transportState, "generation is not pending activation"⟩
      let current ← PyM.ofExcept s.manager.currentOf
      commitTo fault next (s.manager.accepted.insert current.generation
        (current, some (now + TransportManager.graceSeconds))) none

/-- Source: `identity/transport_generation.py`, `retire`.  Kind: D -/
def retire (fault : Option PyError) (generation : ℤ) : PyM TransportStore Unit := do
  let s ← get
  raiseIf (s.manager.current.any fun current => decide (generation = current.generation))
    ⟨.transportState, "cannot retire current transport generation"⟩
  let current ← PyM.ofExcept s.manager.currentOf
  commitTo fault current
    (s.manager.accepted.filterEntries fun p => decide ((p.1 : ℤ) ≠ generation)) s.manager.next

/-- Source: `identity/transport_generation.py`, `rollback`.  Kind: D -/
def rollback (fault : Option PyError) : PyM TransportStore Unit := do
  let s ← get
  raiseIf s.manager.next.isNone ⟨.transportState, "no transport rotation is pending"⟩
  let current ← PyM.ofExcept s.manager.currentOf
  commitTo fault current s.manager.accepted none

/-- Source: `identity/transport_generation.py`, `rollback_active`.  Kind: D -/
def rollbackActive (fault : Option PyError) : PyM TransportStore Unit := do
  let s ← get
  match s.manager.accepted.keys.max? with
  | none => throw ⟨.transportState, "no previous transport generation is retained"⟩
  | some previous =>
      match s.manager.accepted.get? previous with
      | none => throw ⟨.transportState, "no previous transport generation is retained"⟩
      | some (generation, _) => commitTo fault generation (s.manager.accepted.erase previous) none

/-- An operation, with what its save raises and, of `activate`, the reading of the clock. -/
inductive GenerationOp where
  /-- `initialize(fingerprint)` -/
  | initializeCurrent (fault : Option PyError) (fingerprint : String)
  /-- `prepare(fingerprint)` -/
  | prepare (fault : Option PyError) (fingerprint : String)
  /-- `activate(generation)` -/
  | activate (fault : Option PyError) (generation : ℤ) (now : ℚ)
  /-- `retire(generation)` -/
  | retire (fault : Option PyError) (generation : ℤ)
  /-- `rollback()` -/
  | rollback (fault : Option PyError)
  /-- `rollback_active()` -/
  | rollbackActive (fault : Option PyError)
  /-- A new manager on the store takes the place of this one. -/
  | restart

/-- The effect of an operation. -/
def perform : GenerationOp → PyM TransportStore Unit
  | .initializeCurrent fault fingerprint => initializeCurrent sign fault fingerprint
  | .prepare fault fingerprint => prepare sign fault fingerprint
  | .activate fault generation now => activate fault generation now
  | .retire fault generation => retire fault generation
  | .rollback fault => rollback fault
  | .rollbackActive fault => rollbackActive fault
  | .restart => do
      let s ← get
      set (← PyM.ofExcept (s.reopen check node root sign))

/-- Operations one after the other. -/
def performAll (ops : List GenerationOp) (s : TransportStore) : TransportStore :=
  ops.foldl (fun s op => (perform check node root sign op).after s) s

/-! ## What an operation writes -/

/-- The store after a commit. -/
def committed (d : TransportState) : TransportStore :=
  ⟨⟨some d.current, d.accepted, d.next⟩, some d.toDict⟩

/-- A commit writes memory and file, or it raises and changes neither.  Kind: L -/
theorem commitTo_run (fault : Option PyError) (current : TransportGeneration)
    (accepted : Accepted) (next : Option TransportGeneration) (s : TransportStore) :
    commitTo fault current accepted next s =
      match fault with
      | none => .ok () (committed ⟨current, accepted, next⟩)
      | some _ => .error ⟨.transportState, "transport state was not persisted"⟩ s := by
  cases fault <;> rfl

/-- The documents an operation can write, from a manager. -/
inductive Transition (m : TransportManager) : GenerationOp → TransportState → Prop
  /-- The first generation. -/
  | initialized {op : GenerationOp} (fault : Option PyError) (fingerprint : String)
      (hop : op = .initializeCurrent fault fingerprint ∨ op = .prepare fault fingerprint)
      (hcurrent : m.current = none) (hfp : fingerprint ≠ "") :
      Transition m op ⟨⟨1, fingerprint, sign 1 fingerprint⟩, Dict.empty, none⟩
  /-- The next generation is kept beside the current one. -/
  | prepared (fault : Option PyError) (fingerprint : String) {current : TransportGeneration}
      (hcurrent : m.current = some current) (hnext : m.next = none) (hfp : fingerprint ≠ "") :
      Transition m (.prepare fault fingerprint) ⟨current, m.accepted,
        some ⟨m.highestGeneration + 1, fingerprint, sign (m.highestGeneration + 1) fingerprint⟩⟩
  /-- The next generation becomes the current one, which stays accepted. -/
  | activated (fault : Option PyError) (generation : ℤ) (now : ℚ)
      {current next : TransportGeneration} (hcurrent : m.current = some current)
      (hnext : m.next = some next) (hgeneration : (next.generation : ℤ) = generation) :
      Transition m (.activate fault generation now) ⟨next, m.accepted.insert current.generation
        (current, some (now + TransportManager.graceSeconds)), none⟩
  /-- An accepted generation is forgotten. -/
  | retired (fault : Option PyError) (generation : ℤ) {current : TransportGeneration}
      (hcurrent : m.current = some current) (hgeneration : generation ≠ current.generation) :
      Transition m (.retire fault generation) ⟨current,
        m.accepted.filterEntries fun p => decide ((p.1 : ℤ) ≠ generation), m.next⟩
  /-- The next generation is forgotten. -/
  | rolledBack (fault : Option PyError) {current : TransportGeneration}
      (hcurrent : m.current = some current) (hnext : m.next ≠ none) :
      Transition m (.rollback fault) ⟨current, m.accepted, none⟩
  /-- The last accepted generation becomes the current one again. -/
  | rolledBackActive (fault : Option PyError) {previous : ℕ} {item : TransportGeneration}
      {expiry : Option ℚ} (hprevious : m.accepted.keys.max? = some previous)
      (hitem : m.accepted.get? previous = some (item, expiry)) :
      Transition m (.rollbackActive fault) ⟨item, m.accepted.erase previous, none⟩

/-- What an operation did: it wrote one of its documents, or nothing. -/
def Did (s : TransportStore) (op : GenerationOp) (s' : TransportStore) : Prop :=
  s' = s ∨ ∃ d, Transition sign s.manager op d ∧ s' = committed d

/-- A commit of one of the documents.  Kind: L -/
theorem post_commitTo {s : TransportStore} {op : GenerationOp} {fault : Option PyError}
    {current : TransportGeneration} {accepted : Accepted} {next : Option TransportGeneration}
    (h : Transition sign s.manager op ⟨current, accepted, next⟩) :
    (commitTo fault current accepted next).Post s (fun _ s' => Did sign s op s')
      (fun _ s' => s' = s) := by
  unfold PyM.Post
  rw [commitTo_run]
  cases fault with
  | none => exact .inr ⟨_, h, rfl⟩
  | some e => rfl

/-- A new generation has a fingerprint and is signed.  Kind: L -/
theorem newGeneration_eq_ok {generation : ℕ} {fingerprint : String} {g : TransportGeneration}
    (h : TransportManager.newGeneration sign generation fingerprint = .ok g) :
    fingerprint ≠ "" ∧ g = ⟨generation, fingerprint, sign generation fingerprint⟩ := by
  unfold TransportManager.newGeneration at h
  split at h
  · cases h
  · rename_i hne
    cases h
    exact ⟨hne, rfl⟩

end TransportStore

/-! ## The transitions without a store

`TransportManager.prepare` and its neighbours compute what an operation writes; the store is added
by `commitTo`. -/

namespace TransportManager

/-- A commit returns if and only if the save does not fail.  Kind: L -/
theorem commit_eq_ok {fault : Option PyError} {current : TransportGeneration}
    {accepted : Accepted} {next : Option TransportGeneration} {m' : TransportManager}
    {d : TransportState} (h : commit fault current accepted next = .ok (m', d)) :
    fault = none ∧ m' = load (some d) ∧ d = ⟨current, accepted, next⟩ := by
  cases fault with
  | none =>
      cases h
      exact ⟨rfl, rfl, rfl⟩
  | some e => cases h

/-- `initializeCurrent` is the first transition.  Kind: L -/
theorem initializeCurrent_eq_ok {m m' : TransportManager} {fault : Option PyError}
    {fingerprint : String} {d : TransportState} {op : TransportStore.GenerationOp}
    (hop : op = .initializeCurrent fault fingerprint ∨ op = .prepare fault fingerprint)
    (hm : m.current = none) (h : initializeCurrent sign fault fingerprint = .ok (m', d)) :
    m' = load (some d) ∧ TransportStore.Transition sign m op d := by
  unfold initializeCurrent at h
  rw [Except.bind_eq_ok] at h
  obtain ⟨g, hg, h⟩ := h
  obtain ⟨hfp, rfl⟩ := TransportStore.newGeneration_eq_ok sign hg
  obtain ⟨-, hload, rfl⟩ := commit_eq_ok h
  exact ⟨hload, .initialized fault fingerprint hop hm hfp⟩

/-- `prepare` keeps the next generation beside the current one.  Kind: L -/
theorem prepare_eq_ok {m m' : TransportManager} {current : TransportGeneration}
    {fault : Option PyError} {fingerprint : String} {d : TransportState}
    (hm : m.current = some current) (h : m.prepare sign current fault fingerprint = .ok (m', d)) :
    fault = none ∧ fingerprint ≠ "" ∧ m.next = none ∧ m' = load (some d) ∧
      d = ⟨current, m.accepted, some ⟨m.highestGeneration + 1, fingerprint,
        sign (m.highestGeneration + 1) fingerprint⟩⟩ ∧
      TransportStore.Transition sign m (.prepare fault fingerprint) d := by
  unfold prepare at h
  simp only [Except.bind_eq_ok, Except.raiseIf_eq_ok] at h
  obtain ⟨-, hnext, g, hg, h⟩ := h
  obtain ⟨hfp, rfl⟩ := TransportStore.newGeneration_eq_ok sign hg
  obtain ⟨hfault, hload, rfl⟩ := commit_eq_ok h
  have hnext : m.next = none := Option.not_isSome_iff_eq_none.mp hnext
  exact ⟨hfault, hfp, hnext, hload, rfl, .prepared fault fingerprint hm hnext hfp⟩

/-- `activate` makes the next generation the current one.  Kind: L -/
theorem activate_eq_ok {m m' : TransportManager} {current : TransportGeneration}
    {fault : Option PyError} {generation : ℕ} {now : ℚ} {d : TransportState}
    (hm : m.current = some current)
    (h : m.activate current fault generation now = .ok (m', d)) :
    fault = none ∧ m' = load (some d) ∧
      (∃ next, m.next = some next ∧ next.generation = generation ∧
        d = ⟨next, m.accepted.insert current.generation (current, some (now + graceSeconds)),
          none⟩) ∧
      TransportStore.Transition sign m (.activate fault generation now) d := by
  unfold activate at h
  split at h
  · cases h
  · rename_i next hnext
    split at h
    · cases h
    · rename_i hgeneration
      have hgeneration : next.generation = generation := not_not.mp hgeneration
      obtain ⟨hfault, hload, rfl⟩ := commit_eq_ok h
      refine ⟨hfault, hload, ⟨next, hnext, hgeneration, rfl⟩, ?_⟩
      exact .activated fault generation now hm hnext (by exact_mod_cast hgeneration)

/-- `rollback_active` restores the last accepted generation.  Kind: L -/
theorem rollbackActive_eq_ok {m m' : TransportManager} {fault : Option PyError}
    {d : TransportState} (h : m.rollbackActive fault = .ok (m', d)) :
    fault = none ∧ m' = load (some d) ∧
      TransportStore.Transition sign m (.rollbackActive fault) d := by
  unfold rollbackActive at h
  split at h
  · cases h
  · rename_i previous hprevious
    split at h
    · cases h
    · rename_i item expiry hitem
      obtain ⟨hfault, hload, rfl⟩ := commit_eq_ok h
      exact ⟨hfault, hload, .rolledBackActive fault hprevious hitem⟩

end TransportManager

/-! ## The two models of a transition

On a store a transition writes what the manager alone computes, to memory and file, and raises what
the manager raises, with nothing changed. -/

namespace TransportStore

/-- The computed transition, carried out on the store.  Kind: D -/
def outcome (s : TransportStore) :
    Except PyError TransportManager.Committed → EStateM.Result PyError TransportStore Unit
  | .ok (manager, document) => .ok () ⟨manager, some document.toDict⟩
  | .error e => .error e s

/-- `_commit`.  Source: `identity/transport_generation.py`, `_commit`.  Kind: L -/
theorem commitTo_outcome (s : TransportStore) (fault : Option PyError)
    (current : TransportGeneration) (accepted : Accepted) (next : Option TransportGeneration) :
    commitTo fault current accepted next s =
      s.outcome (TransportManager.commit fault current accepted next) := by
  cases fault <;> rfl

/-- `initialize` of a manager without a current generation.
Source: `identity/transport_generation.py`, `initialize`.  Kind: L -/
theorem initializeCurrent_outcome {s : TransportStore} (fault : Option PyError)
    (fingerprint : String) (hcurrent : s.manager.current = none) :
    initializeCurrent sign fault fingerprint s =
      s.outcome (TransportManager.initializeCurrent sign fault fingerprint) := by
  unfold initializeCurrent TransportManager.initializeCurrent
  rw [PyM.bind_apply, PyM.get_apply]
  simp only [hcurrent, PyM.bind_apply, PyM.ofExcept_apply]
  cases TransportManager.newGeneration sign 1 fingerprint with
  | ok candidate => exact commitTo_outcome s fault candidate _ _
  | error e => rfl

/-- `prepare` of a manager with a current generation.
Source: `identity/transport_generation.py`, `prepare`.  Kind: L -/
theorem prepare_outcome {s : TransportStore} {current : TransportGeneration}
    (fault : Option PyError) (fingerprint : String) (hcurrent : s.manager.current = some current) :
    prepare sign fault fingerprint s =
      s.outcome (s.manager.prepare sign current fault fingerprint) := by
  unfold prepare TransportManager.prepare
  rw [PyM.bind_apply, PyM.get_apply]
  simp only [hcurrent, PyM.bind_apply, PyM.ofExcept_apply, PyM.raiseIf_apply]
  by_cases hnext : s.manager.next.isSome = true
  · rw [if_pos hnext, raiseIf, if_pos hnext]
    rfl
  · rw [if_neg hnext, raiseIf, if_neg hnext]
    dsimp only
    cases TransportManager.newGeneration sign (s.manager.highestGeneration + 1) fingerprint with
    | ok candidate => exact commitTo_outcome s fault current _ _
    | error e => rfl

/-- `activate` of a manager with a current generation.
Source: `identity/transport_generation.py`, `activate`.  Kind: L -/
theorem activate_outcome {s : TransportStore} {current : TransportGeneration}
    (fault : Option PyError) (generation : ℕ) (now : ℚ)
    (hcurrent : s.manager.current = some current) :
    activate fault generation now s =
      s.outcome (s.manager.activate current fault generation now) := by
  unfold activate TransportManager.activate
  rw [PyM.bind_apply, PyM.get_apply]
  cases hnext : s.manager.next with
  | none => simp only [hnext]; rfl
  | some next =>
      simp only [hnext, PyM.bind_apply, PyM.ofExcept_apply, PyM.raiseIf_apply,
        TransportManager.currentOf, hcurrent, ne_eq, Nat.cast_inj]
      by_cases hgeneration : next.generation = generation
      · rw [if_neg (not_not.mpr hgeneration), if_neg (not_not.mpr hgeneration)]
        exact commitTo_outcome s fault next _ _
      · rw [if_pos hgeneration, if_pos hgeneration]
        rfl

/-- `rollback_active`.
Source: `identity/transport_generation.py`, `rollback_active`.  Kind: L -/
theorem rollbackActive_outcome (s : TransportStore) (fault : Option PyError) :
    rollbackActive fault s = s.outcome (s.manager.rollbackActive fault) := by
  unfold rollbackActive TransportManager.rollbackActive
  rw [PyM.bind_apply, PyM.get_apply]
  cases hprevious : s.manager.accepted.keys.max? with
  | none => simp only [hprevious]; rfl
  | some previous =>
      cases hitem : s.manager.accepted.get? previous with
      | none => simp only [hprevious, hitem]; rfl
      | some entry =>
          simp only [hprevious, hitem]
          exact commitTo_outcome s fault entry.1 _ _

end TransportStore

/-! ## What an operation leaves -/

namespace TransportStore

/-- Rule of an operation that reads the current generation first.  Kind: L -/
theorem post_currentOf {α : Type} {s : TransportStore} {m : TransportManager}
    {Q : α → TransportStore → Prop} {k : TransportGeneration → PyM TransportStore α}
    (h : ∀ current, m.current = some current → (k current).Post s Q (fun _ s' => s' = s)) :
    (PyM.ofExcept m.currentOf >>= k).Post s Q (fun _ s' => s' = s) := by
  unfold TransportManager.currentOf
  cases hm : m.current with
  | none => rfl
  | some current => exact h current hm

/-- A check in front of the rest of an operation.  Kind: L -/
theorem post_check {α : Type} {s : TransportStore} {p : Prop} [Decidable p] {e : PyError}
    {Q : α → TransportStore → Prop} {k : Unit → PyM TransportStore α}
    (h : ¬p → (k ()).Post s Q (fun _ s' => s' = s)) :
    ((raiseIf p e : PyM TransportStore Unit) >>= k).Post s Q (fun _ s' => s' = s) := by
  unfold raiseIf
  split
  · rfl
  · rename_i hp
    exact h hp

/-- An operation that is a computed transition.  Kind: L -/
theorem post_outcome {s : TransportStore} {op : GenerationOp} {p : PyM TransportStore Unit}
    {r : Except PyError TransportManager.Committed} (hrun : p s = s.outcome r)
    (h : ∀ m d, r = .ok (m, d) → m = TransportManager.load (some d) ∧
      Transition sign s.manager op d) :
    p.Post s (fun _ s' => Did sign s op s') (fun _ s' => s' = s) := by
  unfold PyM.Post
  rw [hrun]
  rcases r with e | ⟨m, d⟩
  · rfl
  · obtain ⟨rfl, htransition⟩ := h m d rfl
    exact .inr ⟨d, htransition, rfl⟩

/-- What `initialize_current` writes.  Kind: L -/
theorem initializeCurrent_spec {s : TransportStore} {op : GenerationOp} {fault : Option PyError}
    {fingerprint : String}
    (hop : op = .initializeCurrent fault fingerprint ∨ op = .prepare fault fingerprint) :
    (initializeCurrent sign fault fingerprint).Post s (fun _ s' => Did sign s op s')
      (fun _ s' => s' = s) := by
  cases hcurrent : s.manager.current with
  | some current =>
      unfold initializeCurrent
      rw [PyM.post_bind, PyM.post_get]
      simp only [hcurrent]
      unfold raiseIf
      split
      · rfl
      · exact .inl rfl
  | none =>
      refine post_outcome sign (initializeCurrent_outcome sign fault fingerprint hcurrent) ?_
      intro m d h
      exact TransportManager.initializeCurrent_eq_ok sign hop hcurrent h

/-- An operation writes one of its documents, or it changes nothing: it only raises without having
changed anything.  Kind: L -/
theorem perform_spec (s : TransportStore) (op : GenerationOp) (hop : op ≠ .restart) :
    (perform check node root sign op).Post s (fun _ s' => Did sign s op s')
      (fun _ s' => s' = s) := by
  cases op with
  | initializeCurrent fault fingerprint => exact initializeCurrent_spec sign (.inl rfl)
  | prepare fault fingerprint =>
      cases hcurrent : s.manager.current with
      | none =>
          unfold perform prepare
          rw [PyM.post_bind, PyM.post_get]
          simp only [hcurrent]
          exact initializeCurrent_spec sign (.inr rfl)
      | some current =>
          refine post_outcome sign (prepare_outcome sign fault fingerprint hcurrent) ?_
          intro m d h
          obtain ⟨-, -, -, hload, -, htransition⟩ :=
            TransportManager.prepare_eq_ok sign hcurrent h
          exact ⟨hload, htransition⟩
  | activate fault generation now =>
      unfold perform activate
      rw [PyM.post_bind, PyM.post_get]
      cases hnext : s.manager.next with
      | none => rfl
      | some next =>
          dsimp only
          refine post_check fun hgeneration => post_currentOf fun current hcurrent => ?_
          exact post_commitTo sign
            (.activated fault generation now hcurrent hnext (not_not.mp hgeneration))
  | retire fault generation =>
      unfold perform retire
      rw [PyM.post_bind, PyM.post_get]
      refine post_check fun hgeneration => post_currentOf fun current hcurrent => ?_
      refine post_commitTo sign (.retired fault generation hcurrent ?_)
      rw [hcurrent] at hgeneration
      simpa using hgeneration
  | rollback fault =>
      unfold perform rollback
      rw [PyM.post_bind, PyM.post_get]
      refine post_check fun hnext => post_currentOf fun current hcurrent => ?_
      refine post_commitTo sign (.rolledBack fault hcurrent ?_)
      rintro hnone
      rw [hnone] at hnext
      exact hnext rfl
  | rollbackActive fault =>
      refine post_outcome sign (rollbackActive_outcome s fault) ?_
      intro m d h
      exact (TransportManager.rollbackActive_eq_ok sign h).2
  | restart => exact absurd rfl hop

end TransportStore

/-! ## Documents that can be read -/

/-- What the reader asks of the numbers: `accepted` is keyed by generations below the current one,
and the next one is above it.  Source: `identity/transport_generation.py`, `_load`.  Kind: D -/
structure TransportState.Ordered (d : TransportState) : Prop where
  /-- The accepted generations. -/
  accepted : ∀ p ∈ d.accepted.entries, p.2.1.generation = p.1 ∧ p.1 < d.current.generation
  /-- The next one. -/
  next : ∀ n, d.next = some n → d.current.generation < n.generation

/-- The accepted numbers of a readable document are distinct and below the current one, and the next
one is above all of them.  Kind: L -/
theorem TransportState.Ordered.numbers {d : TransportState} (h : d.Ordered) :
    (d.accepted.values.map (·.1.generation)).Nodup ∧
      (∀ entry ∈ d.accepted.values, entry.1.generation < d.current.generation) ∧
      ∀ next, d.next = some next → d.current.generation < next.generation ∧
        ∀ entry ∈ d.accepted.values, entry.1.generation ≠ next.generation := by
  have hbelow : ∀ entry ∈ d.accepted.values, entry.1.generation < d.current.generation := by
    intro entry hentry
    obtain ⟨p, hp, rfl⟩ := List.mem_map.mp hentry
    obtain ⟨heq, hlt⟩ := h.accepted p hp
    rw [heq]
    exact hlt
  refine ⟨?_, hbelow, fun next hnext => ⟨h.next next hnext, fun entry hentry => ?_⟩⟩
  · have hkeys : d.accepted.values.map (·.1.generation) = d.accepted.entries.map Prod.fst := by
      rw [Dict.values, List.map_map]
      exact List.map_congr_left fun p hp => (h.accepted p hp).1
    rw [hkeys]
    exact d.accepted.nodup
  · have hlt := hbelow entry hentry
    have hgt := h.next next hnext
    omega

/-- The root key's proofs of all generations of a document check out. -/
structure TransportState.Proven (d : TransportState) : Prop where
  /-- The current one's. -/
  current : d.current.Proven check node root
  /-- The accepted ones'. -/
  accepted : ∀ p ∈ d.accepted.entries, p.2.1.Proven check node root
  /-- The next one's. -/
  next : ∀ n, d.next = some n → n.Proven check node root

/-- The identity signs with the key its proofs are checked against. -/
def SignsFor : Prop := ∀ generation fingerprint,
  check root node (generation : ℕ) fingerprint (sign generation fingerprint) = true

section reading

variable {check node root}

/-- A proven generation has a number and a fingerprint.  Kind: L -/
theorem TransportGeneration.Proven.bounds {g : TransportGeneration} (h : g.Proven check node root) :
    1 ≤ g.generation ∧ g.fingerprint ≠ "" := by
  unfold TransportGeneration.Proven verifyTransportProof at h
  simp only [Bool.and_eq_true, decide_eq_true_eq] at h
  obtain ⟨⟨hg, hfp⟩, -⟩ := h
  exact ⟨by omega, hfp⟩

/-- What was written of a proven generation is read back.  Kind: L -/
theorem TransportGeneration.decode_encode {g : TransportGeneration}
    (h : g.Proven check node root) (rest : Fields) :
    decode check node root (.dict (g.encode ++ rest)) = .ok g := by
  obtain ⟨hg, hfp⟩ := h.bounds
  have hverify : verifyTransportProof check node root g.generation (.text g.fingerprint) g.proof =
      true := h
  have hguard : ¬((g.generation : ℤ) < 1 ∨ g.fingerprint = "" ∨
      (!verifyTransportProof check node root g.generation (.text g.fingerprint) g.proof) =
        true) := by
    rw [hverify]
    simp only [hfp, Bool.not_true, Bool.false_eq_true, or_false]
    omega
  simp only [decode, Except.bind_eq_ok]
  refine ⟨.int g.generation, rfl, .str g.fingerprint, rfl, .str g.proof, rfl, ?_⟩
  simp only [Except.bind_eq_ok, Except.raiseIf_eq_ok]
  exact ⟨(), hguard, rfl⟩

/-- The expiry of an accepted generation reads back.  Kind: L -/
theorem decodeExpiry_encodeAccepted (entry : TransportGeneration × Option ℚ) :
    decodeExpiry (entry.1.encode ++ [("expires_at", encodeExpiry entry.2)]) = .ok entry.2 := by
  obtain ⟨g, expiry⟩ := entry
  cases expiry <;> rfl

/-- The entries of an ordered document are read back, after those already read.  Kind: L -/
theorem decodeAccepted_map {current : TransportGeneration}
    (rest : List (ℕ × TransportGeneration × Option ℚ)) (accepted : Accepted)
    (hproven : ∀ p ∈ rest, p.2.1.Proven check node root)
    (hordered : ∀ p ∈ rest, p.2.1.generation = p.1 ∧ p.1 < current.generation)
    (hnodup : ((accepted.entries ++ rest).map Prod.fst).Nodup) :
    decodeAccepted check node root current (rest.map fun p => encodeAccepted p.2) accepted =
      .ok ⟨accepted.entries ++ rest, hnodup⟩ := by
  induction rest generalizing accepted with
  | nil =>
      simp only [List.append_nil]
      rfl
  | cons p rest ih =>
      obtain ⟨g, item, expiry⟩ := p
      obtain ⟨hitem, hlt⟩ := hordered (g, item, expiry) (by simp)
      dsimp only at hitem hlt
      have hfresh : accepted.get? g = none := by
        rw [List.map_append, List.nodup_append] at hnodup
        refine Option.not_isSome_iff_eq_none.mp fun hsome => ?_
        exact hnodup.2.2 g (accepted.mem_keys_iff.mpr hsome) g (by simp) rfl
      have hentries : (accepted.insert g (item, expiry)).entries =
          accepted.entries ++ [(g, item, expiry)] := Dict.entries_insert_of_fresh hfresh
      have hnodup' : (((accepted.insert g (item, expiry)).entries ++ rest).map
          Prod.fst).Nodup := by
        rw [hentries, List.append_assoc]
        exact hnodup
      have hrest := ih (accepted.insert g (item, expiry))
        (fun p hp => hproven p (List.mem_cons_of_mem _ hp))
        (fun p hp => hordered p (List.mem_cons_of_mem _ hp)) hnodup'
      have hdecode : TransportGeneration.decode check node root
          (.dict (item.encode ++ [("expires_at", encodeExpiry expiry)])) = .ok item :=
        TransportGeneration.decode_encode (hproven (g, item, expiry) (by simp)) _
      have hexpiry := decodeExpiry_encodeAccepted (item, expiry)
      have hguard : ¬((accepted.contains item.generation = true) ∨
          item.generation ≥ current.generation) := by
        rw [hitem, Dict.contains, hfresh]
        simp only [Option.isSome_none, Bool.false_eq_true, false_or]
        omega
      have hinsert : accepted.insert item.generation (item, expiry) =
          accepted.insert g (item, expiry) := by rw [hitem]
      rw [List.map_cons, encodeAccepted, decodeAccepted]
      simp only [Except.bind_eq_ok, Except.raiseIf_eq_ok]
      refine ⟨item, hdecode, (), hguard, expiry, hexpiry, ?_⟩
      rw [hinsert, hrest]
      congr 1
      refine Dict.ext' ?_
      show (accepted.insert g (item, expiry)).entries ++ rest = _
      rw [hentries, List.append_assoc]
      rfl

/-- An ordered document with proofs is read back.  Kind: L -/
theorem loadDocument_toDict {d : TransportState} (hordered : d.Ordered)
    (hproven : d.Proven check node root) :
    loadDocument check node root sign d.toDict = .ok (TransportManager.load (some d)) := by
  have hcurrent : TransportGeneration.decode check node root (.dict d.current.encode) =
      .ok d.current := by
    have h := TransportGeneration.decode_encode hproven.current []
    rwa [List.append_nil] at h
  have haccepted : decodeAccepted check node root d.current
      (d.accepted.values.map encodeAccepted) Dict.empty = .ok d.accepted := by
    have h := decodeAccepted_map d.accepted.entries Dict.empty hproven.accepted hordered.accepted
      d.accepted.nodup
    rw [Dict.values, List.map_map]
    exact h
  have hparse : parseDocument check node root sign d.toDict =
      .ok (TransportManager.load (some d)) := by
    obtain ⟨current, accepted, next⟩ := d
    unfold parseDocument
    have hversion : ((getField "version" (TransportState.toDict ⟨current, accepted, next⟩)).getD
        .null) = .int 2 := rfl
    simp only [hversion]
    rw [if_neg (by decide)]
    simp only [Except.bind_eq_ok, Except.raiseIf_eq_ok]
    refine ⟨(), by decide, _, rfl, current, hcurrent, _, rfl, ?_⟩
    simp only [Except.bind_eq_ok, Except.raiseIf_eq_ok]
    refine ⟨accepted, haccepted, next, ?_, (), ?_, rfl⟩
    · cases next with
      | none => rfl
      | some n =>
          have h := TransportGeneration.decode_encode (hproven.next n rfl) []
          rw [List.append_nil] at h
          show some <$> TransportGeneration.decode check node root (.dict n.encode) = _
          rw [h]
          rfl
    · cases next with
      | none => simp
      | some n =>
          -- the next generation is above the current one, and every accepted one is below it
          have hlt : current.generation < n.generation := hordered.next n rfl
          have hfresh : accepted.get? n.generation = none := by
            refine Option.eq_none_iff_forall_ne_some.mpr fun entry hentry => ?_
            have hmem := (accepted.get?_eq_some_iff).mp hentry
            have := (hordered.accepted _ hmem).2
            dsimp only at this
            omega
          simp [Dict.contains, hfresh, hlt]
  rw [loadDocument, hparse]

/-- What a manager holds whose store could be read: nothing yet, or a readable document. -/
inductive TransportManager.Sound (check : SignatureCheck) (node : NodeId) (root : String) :
    TransportManager → Prop
  /-- Before `initialize`. -/
  | uninitialized : Sound check node root ⟨none, Dict.empty, none⟩
  /-- Afterwards. -/
  | initialized (d : TransportState) (hordered : d.Ordered) (hproven : d.Proven check node root) :
      Sound check node root (TransportManager.load (some d))

end reading

/-! ## What an operation keeps -/

/-- A generation that is held is at most the highest one.  Kind: L -/
theorem TransportManager.current_le_highest {m : TransportManager} {current : TransportGeneration}
    (h : m.current = some current) : current.generation ≤ m.highestGeneration := by
  refine List.le_max_of_le' 0 (x := current.generation) ?_ (le_refl _)
  rw [h]
  simp

section keeping

variable {check node root sign}

/-- The proof of a new generation checks out.  Kind: L -/
theorem SignsFor.proven (hsign : SignsFor check node root sign) {generation : ℕ}
    {fingerprint : String} (hg : 1 ≤ generation) (hfp : fingerprint ≠ "") :
    (⟨generation, fingerprint, sign generation fingerprint⟩ : TransportGeneration).Proven
      check node root := by
  unfold TransportGeneration.Proven verifyTransportProof
  simp only [hsign generation fingerprint, Bool.and_true, Bool.and_eq_true, decide_eq_true_eq]
  exact ⟨by exact_mod_cast hg, hfp⟩

/-- The document an operation writes is ordered, when what the manager holds is.  Kind: L -/
theorem TransportStore.Transition.ordered {stored : Option TransportState} {op : GenerationOp}
    {d : TransportState} (hstored : ∀ d₀, stored = some d₀ → d₀.Ordered)
    (h : Transition sign (TransportManager.load stored) op d) : d.Ordered := by
  cases stored with
  | none =>
      cases h with
      | initialized fault fingerprint hop hcurrent hfp =>
          exact ⟨fun p hp => (by cases hp), fun n hn => (by cases hn)⟩
      | prepared _ _ hcurrent => cases hcurrent
      | activated _ _ _ hcurrent => cases hcurrent
      | retired _ _ hcurrent => cases hcurrent
      | rolledBack _ hcurrent => cases hcurrent
      | rolledBackActive _ hprevious => cases hprevious
  | some d₀ =>
      have hordered : d₀.Ordered := hstored d₀ rfl
      cases h with
      | initialized _ _ _ hcurrent => cases hcurrent
      | prepared fault fingerprint hcurrent hnext hfp =>
          cases hcurrent
          refine ⟨hordered.accepted, ?_⟩
          rintro n ⟨⟩
          have := TransportManager.current_le_highest (m := TransportManager.load (some d₀)) rfl
          exact Nat.lt_succ_of_le this
      | activated fault generation now hcurrent hnext hgeneration =>
          cases hcurrent
          -- the old current generation is below the new one, and so is what it was above of
          have hlt := hordered.next _ hnext
          have hfresh : d₀.accepted.get? d₀.current.generation = none := by
            refine Option.eq_none_iff_forall_ne_some.mpr fun entry hentry => ?_
            have := (hordered.accepted _ (d₀.accepted.get?_eq_some_iff.mp hentry)).2
            exact absurd this (lt_irrefl _)
          refine ⟨fun p hp => ?_, fun n hn => (by cases hn)⟩
          change p ∈ (d₀.accepted.insert _ _).entries at hp
          rw [Dict.entries_insert_of_fresh hfresh, List.mem_append, List.mem_singleton] at hp
          rcases hp with hp | rfl
          · obtain ⟨hkey, hbelow⟩ := hordered.accepted p hp
            exact ⟨hkey, hbelow.trans hlt⟩
          · exact ⟨rfl, hlt⟩
      | retired fault generation hcurrent hgeneration =>
          cases hcurrent
          exact ⟨fun p hp => hordered.accepted p (List.mem_of_mem_filter hp), hordered.next⟩
      | rolledBack fault hcurrent hnext =>
          cases hcurrent
          exact ⟨hordered.accepted, fun n hn => (by cases hn)⟩
      | rolledBackActive fault hprevious hitem =>
          rename_i previous item expiry
          have hmem := d₀.accepted.get?_eq_some_iff.mp hitem
          have hkey : item.generation = previous := (hordered.accepted _ hmem).1
          -- the restored generation is the highest accepted one, so the others are below it
          have hmax : ∀ g ∈ d₀.accepted.keys, g ≤ previous :=
            (List.max?_eq_some_iff.mp hprevious).2
          refine ⟨fun p hp => ?_, fun n hn => (by cases hn)⟩
          obtain ⟨hp, hne⟩ := List.mem_filter.mp hp
          refine ⟨(hordered.accepted p hp).1, ?_⟩
          have hle : p.1 ≤ previous := hmax p.1 (List.mem_map_of_mem hp)
          have hne : p.1 ≠ previous := by simpa using hne
          show p.1 < item.generation
          omega

/-- The generations of the document an operation writes are proven, when those the manager holds
are.  Kind: L -/
theorem TransportStore.Transition.proven {stored : Option TransportState} {op : GenerationOp}
    {d : TransportState} (hsign : SignsFor check node root sign)
    (hstored : ∀ d₀, stored = some d₀ → d₀.Proven check node root)
    (h : Transition sign (TransportManager.load stored) op d) : d.Proven check node root := by
  cases stored with
  | none =>
      cases h with
      | initialized fault fingerprint hop hcurrent hfp =>
          exact ⟨hsign.proven (le_refl 1) hfp, fun p hp => (by cases hp), fun n hn => (by cases hn)⟩
      | prepared _ _ hcurrent => cases hcurrent
      | activated _ _ _ hcurrent => cases hcurrent
      | retired _ _ hcurrent => cases hcurrent
      | rolledBack _ hcurrent => cases hcurrent
      | rolledBackActive _ hprevious => cases hprevious
  | some d₀ =>
      have hproven : d₀.Proven check node root := hstored d₀ rfl
      cases h with
      | initialized _ _ _ hcurrent => cases hcurrent
      | prepared fault fingerprint hcurrent hnext hfp =>
          cases hcurrent
          refine ⟨hproven.current, hproven.accepted, ?_⟩
          rintro n ⟨⟩
          exact hsign.proven (by omega) hfp
      | activated fault generation now hcurrent hnext hgeneration =>
          cases hcurrent
          refine ⟨hproven.next _ hnext, fun p hp => ?_, fun n hn => (by cases hn)⟩
          obtain ⟨g, entry⟩ := p
          have hentry := ((d₀.accepted.insert _ _).get?_eq_some_iff (k := g) (v := entry)).mpr hp
          rw [Dict.get?_insert] at hentry
          split at hentry
          · cases hentry
            exact hproven.current
          · exact hproven.accepted (g, entry) (d₀.accepted.get?_eq_some_iff.mp hentry)
      | retired fault generation hcurrent hgeneration =>
          cases hcurrent
          exact ⟨hproven.current, fun p hp => hproven.accepted p (List.mem_of_mem_filter hp),
            hproven.next⟩
      | rolledBack fault hcurrent hnext =>
          cases hcurrent
          exact ⟨hproven.current, hproven.accepted, fun n hn => (by cases hn)⟩
      | rolledBackActive fault hprevious hitem =>
          exact ⟨hproven.accepted _ (d₀.accepted.get?_eq_some_iff.mp hitem),
            fun p hp => hproven.accepted p (List.mem_of_mem_filter hp), fun n hn => (by cases hn)⟩

/-- What an operation writes can be read, when what the manager held could be.  Kind: L -/
theorem TransportStore.Transition.sound {m : TransportManager} {op : GenerationOp}
    {d : TransportState} (hsign : SignsFor check node root sign) (hm : m.Sound check node root)
    (h : Transition sign m op d) : d.Ordered ∧ d.Proven check node root := by
  cases hm with
  | uninitialized =>
      have h : Transition sign (TransportManager.load none) op d := h
      exact ⟨h.ordered (by simp), h.proven hsign (by simp)⟩
  | initialized d₀ hordered hproven =>
      exact ⟨h.ordered (by simpa using hordered), h.proven hsign (by simpa using hproven)⟩

end keeping

/-! ## Runs -/

namespace TransportStore

/-- Memory can be read again, and a new manager on the store would hold what this one holds. -/
structure Settled (s : TransportStore) : Prop where
  /-- What is held can be read. -/
  sound : s.manager.Sound check node root
  /-- The store has it. -/
  reopened : s.reopen check node root sign = .ok s

variable {check node root sign}

/-- After a commit of a readable document a new manager holds the same.  Kind: L -/
theorem settled_committed {d : TransportState} (hordered : d.Ordered)
    (hproven : d.Proven check node root) : (committed d).Settled check node root sign := by
  refine ⟨.initialized d hordered hproven, ?_⟩
  have hload := loadDocument_toDict sign hordered hproven
  show (loadDocument check node root sign d.toDict >>= fun manager =>
    pure (⟨manager, some d.toDict⟩ : TransportStore)) = .ok (committed d)
  rw [hload]
  rfl

/-- What an operation leaves of a settled store: one of its documents, or the store as it was.
Kind: L -/
theorem perform_did {s : TransportStore} (h : s.Settled check node root sign)
    (op : GenerationOp) : Did sign s op ((perform check node root sign op).after s) := by
  by_cases hop : op = .restart
  · subst hop
    refine .inl (PyM.after_of_ok (a := ()) ?_)
    show ((PyM.ofExcept (s.reopen check node root sign) >>= fun s' => set s') :
      PyM TransportStore Unit) s = .ok () s
    rw [h.reopened]
    rfl
  · have hspec := perform_spec check node root sign s op hop
    exact PyM.after_of_post (hspec.mono (fun _ _ hdid => hdid) fun _ _ hsame => .inl hsame)

/-- An operation keeps a store settled.  Kind: L -/
theorem Settled.perform (hsign : SignsFor check node root sign) {s : TransportStore}
    (h : s.Settled check node root sign) (op : GenerationOp) :
    ((perform check node root sign op).after s).Settled check node root sign := by
  rcases perform_did h op with hsame | ⟨d, hd, hcommitted⟩
  · rwa [hsame]
  · obtain ⟨hordered, hproven⟩ := hd.sound hsign h.sound
    rw [hcommitted]
    exact settled_committed hordered hproven

/-- A run keeps a store settled.  Kind: L -/
theorem Settled.performAll (hsign : SignsFor check node root sign) (ops : List GenerationOp)
    {s : TransportStore} (h : s.Settled check node root sign) :
    (performAll check node root sign ops s).Settled check node root sign := by
  induction ops generalizing s with
  | nil => exact h
  | cons op ops ih => exact ih (h.perform hsign op)

/-- A new store is settled.  Kind: L -/
theorem settled_fresh : fresh.Settled check node root sign := ⟨.uninitialized, rfl⟩

/-- After a run nothing has changed since its start, or the store holds what memory holds.
Kind: L -/
theorem performAll_committed (hsign : SignsFor check node root sign) {s : TransportStore}
    (h : s.Settled check node root sign) (ops : List GenerationOp) :
    performAll check node root sign ops s = s ∨
      ∃ d : TransportState, d.Ordered ∧ d.Proven check node root ∧
        performAll check node root sign ops s = committed d := by
  induction ops using List.reverseRecOn with
  | nil => exact .inl rfl
  | append_singleton ops op ih =>
      have hsettled : (performAll check node root sign ops s).Settled check node root sign :=
        h.performAll hsign ops
      have hstep : performAll check node root sign (ops ++ [op]) s =
          (TransportStore.perform check node root sign op).after
            (performAll check node root sign ops s) := by
        rw [performAll, List.foldl_append]
        rfl
      rw [hstep]
      rcases perform_did hsettled op with hsame | ⟨d, hd, hcommitted⟩
      · rwa [hsame]
      · obtain ⟨hordered, hproven⟩ := hd.sound hsign hsettled.sound
        exact .inr ⟨d, hordered, hproven, hcommitted⟩

/-- An operation that raises changes nothing on a settled store.  Kind: L -/
theorem Settled.eq_of_raise {s s' : TransportStore} (h : s.Settled check node root sign)
    {op : GenerationOp} {e : PyError}
    (hraise : TransportStore.perform check node root sign op s = .error e s') : s' = s := by
  by_cases hop : op = .restart
  · subst hop
    change ((PyM.ofExcept (s.reopen check node root sign) >>= fun t => set t) :
      PyM TransportStore Unit) s = .error e s' at hraise
    rw [h.reopened] at hraise
    cases hraise
  · exact PyM.post_of_error (perform_spec check node root sign s op hop) hraise

/-- In every run of the manager from an empty store, with saves failing anywhere and restarts in
between: an operation that raises leaves memory as it was; once there is a current generation the
accepted ones are distinct and below it, a pending one is above it and not accepted, and the store
holds the document of memory, which a new manager reads back to the same memory.
Source: `identity/transport_generation.py`, `TransportGenerationManager`.  Kind: P -/
theorem generations_reloadable (hsign : SignsFor check node root sign) (ops : List GenerationOp) :
    let s := performAll check node root sign ops fresh
    (∀ op e s', TransportStore.perform check node root sign op s = .error e s' →
        s'.manager = s.manager) ∧
      ∀ current, s.manager.current = some current →
        (s.manager.accepted.values.map (·.1.generation)).Nodup ∧
          (∀ entry ∈ s.manager.accepted.values, entry.1.generation < current.generation) ∧
          (∀ next, s.manager.next = some next → current.generation < next.generation ∧
            ∀ entry ∈ s.manager.accepted.values, entry.1.generation ≠ next.generation) ∧
          ∃ document, s.stored = some document ∧ s.manager.toDict = .ok document ∧
            loadDocument check node root sign document = .ok s.manager := by
  intro s
  have hsettled : s.Settled check node root sign := settled_fresh.performAll hsign ops
  refine ⟨fun op e s' hraise => by rw [hsettled.eq_of_raise hraise], fun current hcurrent => ?_⟩
  rcases performAll_committed hsign settled_fresh ops with hfresh | ⟨d, hordered, hproven, hd⟩
  · change s = fresh at hfresh
    rw [hfresh] at hcurrent
    cases hcurrent
  · change s = committed d at hd
    rw [hd] at hcurrent ⊢
    cases hcurrent
    obtain ⟨hnodup, hbelow, hnext⟩ := hordered.numbers
    exact ⟨hnodup, hbelow, hnext, d.toDict, rfl, rfl, loadDocument_toDict sign hordered hproven⟩

end TransportStore

end identity

/-! ## A sample identity -/

/-- A key that signs by writing down what it signs, and its check. -/
def sampleSign (generation : ℕ) (fingerprint : String) : String :=
  toString generation ++ ":" ++ fingerprint

/-- The check of such signatures. -/
def sampleCheck : SignatureCheck := fun _ _ generation fingerprint proof =>
  decide (proof = toString generation ++ ":" ++ fingerprint)

/-- The sample signer signs for the sample check.  Kind: L -/
theorem sampleSign_signsFor (node : NodeId) (root : String) :
    SignsFor sampleCheck node root sampleSign := by
  intro generation fingerprint
  unfold sampleCheck sampleSign
  rw [decide_eq_true_eq]
  rfl

/-- A rotation whose activation is not saved, and its activation at the second attempt. -/
theorem generations_reloadable_rotated :
    let ops : List TransportStore.GenerationOp :=
      [.initializeCurrent none "one", .prepare none "two",
        .activate (some ⟨.os, "disk full"⟩) 2 0, .activate none 2 10]
    let s := TransportStore.performAll sampleCheck ⟨"node", by decide⟩ "root" sampleSign ops
      TransportStore.fresh
    s.manager.current = some ⟨2, "two", "2:two"⟩ ∧
      ∃ document, s.stored = some document ∧
        loadDocument sampleCheck ⟨"node", by decide⟩ "root" sampleSign document =
          .ok s.manager := by
  intro ops s
  have hcurrent : s.manager.current = some ⟨2, "two", "2:two"⟩ := by decide +kernel
  refine ⟨hcurrent, ?_⟩
  obtain ⟨-, -, -, document, hstored, -, hload⟩ :=
    (TransportStore.generations_reloadable (sampleSign_signsFor ⟨"node", by decide⟩ "root")
      ops).2 _ hcurrent
  exact ⟨document, hstored, hload⟩

end ExpraConnect
