import ExpraConnect.Base
import ExpraConnect.Lib.Dict

/-!
# Transport generations

`identity/transport_generation.py`: the TLS generations of a node, their rotation and the overlap
during which an old one stays accepted.

* `TransportState`: what `transport.yaml` holds, `TransportManager` what the manager holds in
  memory (before `initializeCurrent` there is no current generation);
* `initializeCurrent`, `prepare`, `activate`, `rollbackActive`: each ends in `commit`, which writes
  memory
  and file, or neither.

The root key's signature is a parameter, the clock reading of `activate` and what a save raises are
arguments.  A malformed document makes the constructor raise and is part of what a load can raise.
-/

namespace ExpraConnect

open ExpraConnect.Lib

/-- Source: `identity/transport_generation.py`, `TransportGeneration`.  Kind: D -/
structure TransportGeneration where
  /-- The number of the generation. -/
  generation : ℕ
  /-- The fingerprint of its certificate. -/
  fingerprint : String
  /-- The root key's proof. -/
  proof : String
  deriving DecidableEq

/-- The generations that are still accepted, with the end of their grace. -/
abbrev Accepted := Dict ℕ (TransportGeneration × Option ℚ)

/-- The document of `transport.yaml`.
Source: `identity/transport_generation.py`, `_to_dict` and `_load`.  Kind: D -/
structure TransportState where
  /-- `current` -/
  current : TransportGeneration
  /-- `accepted` -/
  accepted : Accepted
  /-- `next` -/
  next : Option TransportGeneration
  deriving DecidableEq

/-- Source: `identity/transport_generation.py`, `TransportGenerationManager`.  Kind: D -/
structure TransportManager where
  /-- `_current` -/
  current : Option TransportGeneration
  /-- `_accepted` -/
  accepted : Accepted
  /-- `_next` -/
  next : Option TransportGeneration
  deriving DecidableEq

namespace TransportManager

/-- `TransportGenerationManager(identity, store=...)`.
Source: `identity/transport_generation.py`, `TransportGenerationManager.__init__`.  Kind: D -/
def load : Option TransportState → TransportManager
  | none => ⟨none, Dict.empty, none⟩
  | some document => ⟨some document.current, document.accepted, document.next⟩

/-- Source: `identity/transport_generation.py`, `_highest_generation`.  Kind: D -/
def highestGeneration (m : TransportManager) : ℕ :=
  (m.accepted.keys ++ m.current.toList.map TransportGeneration.generation ++
    m.next.toList.map TransportGeneration.generation).foldr max 0

/-- What a committed transition leaves in memory and in the file. -/
abbrev Committed := TransportManager × TransportState

/-- Write memory and file; a save that raises leaves both.
Source: `identity/transport_generation.py`, `_commit`.  Kind: D -/
def commit (fault : Option PyError) (current : TransportGeneration) (accepted : Accepted)
    (next : Option TransportGeneration) : Except PyError Committed :=
  match fault with
  | some _ => .error ⟨.transportState, "transport state was not persisted"⟩
  | none => .ok (⟨some current, accepted, next⟩, ⟨current, accepted, next⟩)

section signed

variable (sign : ℕ → String → String)

/-- Source: `identity/transport_generation.py`, `_generation`.  Kind: D -/
def newGeneration (generation : ℕ) (fingerprint : String) : Except PyError TransportGeneration :=
  if fingerprint = "" then .error ⟨.transportState, "transport fingerprint is required"⟩
  else .ok ⟨generation, fingerprint, sign generation fingerprint⟩

/-- `initialize` of a manager without a current generation.
Source: `identity/transport_generation.py`, `initialize`.  Kind: D -/
def initializeCurrent (fault : Option PyError) (fingerprint : String) :
    Except PyError Committed := do
  let candidate ← newGeneration sign 1 fingerprint
  commit fault candidate Dict.empty none

/-- `prepare` of a manager with a current generation.
Source: `identity/transport_generation.py`, `prepare`.  Kind: D -/
def prepare (m : TransportManager) (current : TransportGeneration) (fault : Option PyError)
    (fingerprint : String) : Except PyError Committed := do
  raiseIf (m.next.isSome) ⟨.value, "a transport rotation is already pending"⟩
  let candidate ← newGeneration sign (m.highestGeneration + 1) fingerprint
  commit fault current m.accepted (some candidate)

end signed

/-- `_grace_seconds`. -/
def graceSeconds : ℚ := 300

/-- Source: `identity/transport_generation.py`, `activate`.  Kind: D -/
def activate (m : TransportManager) (current : TransportGeneration) (fault : Option PyError)
    (generation : ℕ) (now : ℚ) : Except PyError Committed :=
  match m.next with
  | none => .error ⟨.transportState, "generation is not pending activation"⟩
  | some next =>
      if next.generation ≠ generation then
        .error ⟨.transportState, "generation is not pending activation"⟩
      else commit fault next
        (m.accepted.insert current.generation (current, some (now + graceSeconds))) none

/-- Source: `identity/transport_generation.py`, `rollback_active`.  Kind: D -/
def rollbackActive (m : TransportManager) (fault : Option PyError) : Except PyError Committed :=
  match m.accepted.keys.max? with
  | none => .error ⟨.transportState, "no previous transport generation is retained"⟩
  | some previous =>
      match m.accepted.get? previous with
      | none => .error ⟨.transportState, "no previous transport generation is retained"⟩
      | some (generation, _) => commit fault generation (m.accepted.erase previous) none

end TransportManager

end ExpraConnect
