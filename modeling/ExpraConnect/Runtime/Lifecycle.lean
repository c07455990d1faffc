import ExpraConnect.Identity.TransportGeneration

/-!
# The lifecycle of a runtime

`runtime/core.py`: `start`, `shutdown` and `rotate_transport`, with what they do to the discovery.
Two counters are called `generation` here: `_generation` counts lifecycle changes (every attempt to
start and every shutdown), `_transport_generations.current.generation` numbers the TLS material.

* `Lifecycle.start`, `Lifecycle.shutdown`, `Lifecycle.onDiscovery`, `Lifecycle.tick`;
* `Move`: the transitions that the lifecycle lock makes atomic, and `LifecycleOp.moves` the
  transitions of each public call (`rotate_transport` is several of them).

What a start meets on the way (the profile, TLS material, sockets, discovery) is an argument of it.
A worker's tick comes `REAP_TICK_SECONDS` after its start at the earliest, when the start is over.
Connections, sharing and the registry are left out.
-/

namespace ExpraConnect

open ExpraConnect.Lib

/-- Source: `runtime/config.py`, `RuntimeState`.  Kind: D -/
inductive RuntimeState where
  | stopped | starting | started | persistenceFailed | listenerUnavailable
  deriving DecidableEq

/-- A `NetworkDiscovery` whose `on_event` calls `_on_discovery(captured, kind, payload)`.
Source: `runtime/core.py`, `_start_components`.  Kind: D -/
structure Discovery where
  /-- The value of `_generation` that the start which created it began with. -/
  lifecycle : ℕ
  /-- The value of `generation` its callback holds. -/
  captured : ℕ
  deriving DecidableEq

/-- A thread of `_expiry_loop`.  Source: `runtime/core.py`, `_start_expiry_worker`.  Kind: D -/
structure ExpiryWorker where
  /-- The value of `_generation` that the start which created it began with. -/
  lifecycle : ℕ
  /-- Its argument `generation`. -/
  captured : ℕ
  /-- `stop` is set. -/
  stopped : Bool
  /-- The loop returned. -/
  returned : Bool
  deriving DecidableEq

/-- Source: `runtime/core.py`, `ConnectRuntime`.  Kind: D -/
structure Lifecycle where
  /-- `_generation` -/
  generation : ℕ
  /-- `_status.state` -/
  state : RuntimeState
  /-- `_transport_generations` -/
  transport : Option TransportManager
  /-- `transport.yaml` -/
  stored : Option TransportState
  /-- Every discovery that was created, oldest first. -/
  discoveries : List Discovery
  /-- Every expiry worker that was started, oldest first. -/
  workers : List ExpiryWorker
  /-- `_expiry_thread`, as its place in `workers`. -/
  worker : Option ℕ
  /-- The keys of `_peers`. -/
  peers : Finset String

/-- What a start meets on its way. -/
structure StartEnv where
  /-- What taking the profile lock or loading identity and state raises. -/
  load : Option PyError
  /-- The fingerprint of the TLS material of a generation. -/
  material : ℕ → Except PyError String
  /-- What saving the transport state raises. -/
  save : Option PyError
  /-- What building the service and its servers raises. -/
  service : Option PyError
  /-- What starting the listeners raises. -/
  listen : Option PyError
  /-- `discovery.start()`, or `none` when `NetworkDiscovery(...)` raises. -/
  discovery : Option Bool

namespace Lifecycle

/-- A runtime that was never started, on a profile with this transport state. -/
def init (stored : Option TransportState) : Lifecycle where
  generation := 0
  state := .stopped
  transport := none
  stored := stored
  discoveries := []
  workers := []
  worker := none
  peers := ∅

/-- Source: `runtime/core.py`, `started`.  Kind: D -/
def started (s : Lifecycle) : Bool := decide (s.state = .started)

/-- Source: `runtime/core.py`, `_stop_expiry_worker`.  Kind: D -/
def stopExpiryWorker (s : Lifecycle) : Lifecycle :=
  { s with
    worker := none
    workers := match s.worker with
      | none => s.workers
      | some i => s.workers.modify i fun w => { w with stopped := true } }

/-- Source: `runtime/core.py`, `_start_expiry_worker`.  Kind: D -/
def startExpiryWorker (lifecycle generation : ℕ) (s : Lifecycle) : Lifecycle :=
  { s with
    workers := s.workers ++ [⟨lifecycle, generation, false, false⟩]
    worker := some s.workers.length }

/-- `_clear_components`, with the state it is called in front of or after.
Source: `runtime/core.py`, `_clear_components`.  Kind: D -/
def clearComponents (state : RuntimeState) (s : Lifecycle) : Lifecycle :=
  { s.stopExpiryWorker with state := state }

/-- The `except` clauses of `_start_locked`.  Source: `runtime/core.py`, `_start_locked`.
Kind: D -/
def startFailed (e : PyError) (s : Lifecycle) : Lifecycle :=
  s.clearComponents <|
    if e.kind = .key ∨ e.kind = .os ∨ e.kind = .type ∨ e.kind.isValueError then .persistenceFailed
    else .stopped

/-- The transport part of `_start_components`: the value its local variable `generation` has
afterwards and the fingerprint of the TLS material.
Source: `runtime/core.py`, `_start_components`.  Kind: D -/
def startTransport (sign : ℕ → String → String) (env : StartEnv) (generation : ℕ)
    (m : TransportManager) (s : Lifecycle) : Except PyError (ℕ × Lifecycle) := do
  match m.current with
  | none =>
      let fingerprint ← env.material 1
      let (manager, document) ← TransportManager.initializeCurrent sign env.save fingerprint
      return (generation, { s with transport := some manager, stored := some document })
  | some current =>
      -- the parameter is assigned anew
      let generation := current.generation
      let legacy ← env.material 1
      let fingerprint ← if generation = 1 then pure legacy else env.material generation
      raiseIf (current.fingerprint ≠ fingerprint)
        ⟨.transportState, "TLS material does not match trusted generation"⟩
      return (generation, s)

/-- The discovery part of `_start_components`.  Source: `runtime/core.py`, `_start_components`.
Kind: D -/
def startDiscovery (discoveryEnabled : Bool) (env : StartEnv) (generation : ℕ) (s : Lifecycle) :
    Lifecycle :=
  if discoveryEnabled then
    match env.discovery with
    | none => { s with state := .started }
    | some running =>
        let s : Lifecycle :=
          { s with discoveries := s.discoveries ++ [⟨s.generation, generation⟩] }
        let s := if running then s.startExpiryWorker s.generation generation else s
        { s with state := .started }
  else { s with state := .started }

section start

variable (discoveryEnabled : Bool) (sign : ℕ → String → String)

/-- Source: `runtime/core.py`, `_start_components`.  Kind: D -/
def startComponents (env : StartEnv) (generation : ℕ) (m : TransportManager) (s : Lifecycle) :
    Lifecycle :=
  match s.startTransport sign env generation m with
  | .error e => s.startFailed e
  | .ok (generation, s) =>
      match env.service with
      | some e => s.startFailed e
      | none =>
          match env.listen with
          | some e =>
              if e.kind = .os then s.clearComponents .listenerUnavailable
              else (s.clearComponents .starting).startFailed e
          | none => s.startDiscovery discoveryEnabled env generation

/-- Source: `runtime/core.py`, `_start_locked`.  Kind: D -/
def start (env : StartEnv) (s : Lifecycle) : Lifecycle :=
  if s.state = .started then s
  else
    let s : Lifecycle := { s with generation := s.generation + 1, state := .starting }
    match env.load with
    | some e => s.startFailed e
    | none =>
        let manager := TransportManager.load s.stored
        startComponents discoveryEnabled sign env s.generation manager
          { s with transport := some manager }

end start

/-- Source: `runtime/core.py`, `_shutdown_locked`.  Kind: D -/
def shutdown (s : Lifecycle) : Lifecycle :=
  let s : Lifecycle := { s with generation := s.generation + 1 }
  { s.stopExpiryWorker with peers := ∅, state := .stopped }

/-! ## Discovery events and ticks -/

/-- The guard of `_on_discovery` and of each round of `_expiry_loop`.
Source: `runtime/core.py`, `_on_discovery` and `_expiry_loop`.  Kind: D -/
def isCurrent (generation : ℕ) (s : Lifecycle) : Bool :=
  decide (generation = s.generation) && s.started

/-- An event of a discovery; a candidate comes with the verdict of `_trusted_candidate_is_valid`. -/
inductive DiscoveryEvent where
  /-- `"candidate"` -/
  | candidate (stableId : String) (valid : Bool)
  /-- `"lost"` -/
  | lost (peerId : String)
  /-- Any other kind. -/
  | other

/-- Source: `runtime/core.py`, `_on_discovery`.  Kind: D -/
def onDiscovery (generation : ℕ) (event : DiscoveryEvent) (s : Lifecycle) : Lifecycle :=
  if s.isCurrent generation then
    match event with
    | .candidate stableId valid =>
        if valid then { s with peers := insert stableId s.peers } else s
    | .lost peerId => { s with peers := s.peers.erase peerId }
    | .other => s
  else s

/-- Whether a worker's next round does its work. -/
def ticks (w : ExpiryWorker) (s : Lifecycle) : Bool :=
  !w.stopped && !w.returned && s.isCurrent w.captured

/-- One round of the loop of worker `i`: it returns when it is not current.
Source: `runtime/core.py`, `_expiry_loop`.  Kind: D -/
def tick (i : ℕ) (s : Lifecycle) : Lifecycle :=
  { s with workers := s.workers.modify i fun w => { w with returned := !s.ticks w } }

/-! ## Rotation -/

/-- What a rotation meets on its way. -/
structure RotateEnv where
  /-- The fingerprint of the TLS material of the next generation. -/
  material : ℕ → Except PyError String
  /-- What the three saves of the transport state raise. -/
  saves : Option PyError × Option PyError × Option PyError
  /-- The manager's clock. -/
  now : ℚ
  /-- What the start with the new generation meets. -/
  restart : StartEnv
  /-- What the start after a rollback meets. -/
  fallback : StartEnv

/-- The part of `rotate_transport` before the restart.
Source: `runtime/core.py`, `rotate_transport`.  Kind: D -/
def prepareRotation (sign : ℕ → String → String) (env : RotateEnv) : PyM Lifecycle Unit := do
  let s ← get
  raiseIf (!s.started) ⟨.runtime, "runtime must be started before transport rotation"⟩
  match s.transport with
  | none => throw ⟨.runtime, "runtime must be started before transport rotation"⟩
  | some manager =>
      match manager.current with
      | none => throw ⟨.transportState, "transport generation is not initialized"⟩
      | some current =>
          let fingerprint ← PyM.ofExcept (env.material (current.generation + 1))
          let (manager, document) ←
            PyM.ofExcept (manager.prepare sign current env.saves.1 fingerprint)
          set { s with transport := some manager, stored := some document }
          let (manager, document) ← PyM.ofExcept
            (manager.activate current env.saves.2.1 (current.generation + 1) env.now)
          set { s with transport := some manager, stored := some document }

/-- `self._transport_generations.rollback_active()`. -/
def rollbackActive (fault : Option PyError) : PyM Lifecycle Unit := do
  let s ← get
  match s.transport with
  | none => throw ⟨.runtime, "runtime must be started before transport rotation"⟩
  | some manager =>
      let (manager, document) ← PyM.ofExcept (manager.rollbackActive fault)
      set { s with transport := some manager, stored := some document }

/-- One atomic transition of a runtime. -/
inductive Move where
  /-- `start` -/
  | start (env : StartEnv)
  /-- `shutdown` -/
  | shutdown
  /-- The part of `rotate_transport` before the restart. -/
  | prepareRotation (env : RotateEnv)
  /-- `rollback_active` -/
  | rollbackActive (fault : Option PyError)
  /-- An event of the `i`-th discovery. -/
  | event (i : ℕ) (event : DiscoveryEvent)
  /-- A round of the `i`-th expiry worker. -/
  | tick (i : ℕ)

section moves

variable (discoveryEnabled : Bool) (sign : ℕ → String → String)

/-- The effect of a transition. -/
def Move.apply : Move → Lifecycle → Lifecycle
  | start env, s => s.start discoveryEnabled sign env
  | shutdown, s => s.shutdown
  | prepareRotation env, s => (Lifecycle.prepareRotation sign env).after s
  | rollbackActive fault, s => (Lifecycle.rollbackActive fault).after s
  | event i ev, s =>
      match s.discoveries[i]? with
      | none => s
      | some d => s.onDiscovery d.captured ev
  | tick i, s => s.tick i

/-- Transitions one after the other. -/
def runMoves (ms : List Move) (s : Lifecycle) : Lifecycle :=
  ms.foldl (fun s m => m.apply discoveryEnabled sign s) s

/-- A public call, or what happens between two of them. -/
inductive LifecycleOp where
  /-- `start()` -/
  | start (env : StartEnv)
  /-- `shutdown()` -/
  | shutdown
  /-- `rotate_transport()` -/
  | rotateTransport (env : RotateEnv)
  /-- An event of the `i`-th discovery. -/
  | event (i : ℕ) (event : DiscoveryEvent)
  /-- A round of the `i`-th expiry worker. -/
  | tick (i : ℕ)

/-- The transitions of a call from a state.
Source: `runtime/core.py`, `start`, `shutdown` and `rotate_transport`.  Kind: D -/
def LifecycleOp.moves : LifecycleOp → Lifecycle → List Move
  | start env, _ => [.start env]
  | shutdown, _ => [.shutdown]
  | rotateTransport env, s =>
      match Lifecycle.prepareRotation sign env s with
      | .error _ _ => [.prepareRotation env]
      | .ok _ prepared =>
          let restarted := prepared.shutdown.start discoveryEnabled sign env.restart
          [.prepareRotation env, .shutdown, .start env.restart] ++
            -- a start that raises leaves the runtime stopped, and the call raises with it
            if restarted.state = .started ∨ restarted.state = .stopped then []
            else
              match Lifecycle.rollbackActive env.saves.2.2 restarted with
              | .error _ _ => [.rollbackActive env.saves.2.2]
              | .ok _ _ => [.rollbackActive env.saves.2.2, .start env.fallback]
  | event i ev, _ => [.event i ev]
  | tick i, _ => [.tick i]

/-- The transitions of a sequence of calls. -/
def opMoves : List LifecycleOp → Lifecycle → List Move
  | [], _ => []
  | op :: ops, s =>
      let ms := op.moves discoveryEnabled sign s
      ms ++ opMoves ops (runMoves discoveryEnabled sign ms s)

end moves

end Lifecycle

end ExpraConnect
