import ExpraConnect.Identity.TransportStore
import ExpraConnect.Runtime.Lifecycle

/-!
# How a rotation can end

`runtime/core.py`, `rotate_transport`: create TLS material, `prepare`, `activate`, restart the
listener, and go back with `rollback_active` when the restart fails.  The three changes of the
transport state are saved one by one, and the process may stop between any two of them.

* `Lifecycle.Synced`: the manager in memory is the one a restart would load, and its document is
  ordered; every transition keeps it (`Synced.runMoves`);
* `rotationWrites`: the documents a call saves, in order, and `stored_rotation`: the last of them is
  what the call leaves;
* `Ending`: the call completes, or the process stops after some of its saves and starts anew;
* `rotation_resolved_iff`: the rotation is over afterwards, except when it prepared a generation and
  then neither activated it nor took it back.

Only `prepare` is not undone on failure: `rotate_transport` calls `rollback_active`, never
`rollback`.
-/

namespace ExpraConnect

open ExpraConnect.Lib

namespace Lifecycle

/-! ## Memory and file -/

/-- The manager is what a restart would load, and the document is ordered. -/
structure Synced (s : Lifecycle) : Prop where
  /-- The manager. -/
  manager : ∀ m, s.transport = some m → m = TransportManager.load s.stored
  /-- The document. -/
  ordered : ∀ d, s.stored = some d → d.Ordered

/-- The transport state is the same. -/
def SameTransport (s s' : Lifecycle) : Prop :=
  s'.transport = s.transport ∧ s'.stored = s.stored

/-- Changes elsewhere keep memory and file in step.  Kind: L -/
theorem SameTransport.synced {s s' : Lifecycle} (h : SameTransport s s') (hs : s.Synced) :
    s'.Synced := by
  obtain ⟨htransport, hstored⟩ := h
  refine ⟨fun m hm => ?_, fun d hd => ?_⟩
  · rw [hstored]
    exact hs.manager m (htransport ▸ hm)
  · exact hs.ordered d (hstored ▸ hd)

/-- The state after a commit.  Kind: L -/
theorem synced_committed {s : Lifecycle} {d : TransportState} (hd : d.Ordered)
    (htransport : s.transport = some (TransportManager.load (some d)))
    (hstored : s.stored = some d) : s.Synced := by
  refine ⟨fun m hm => ?_, fun d' hd' => ?_⟩
  · rw [htransport] at hm
    rw [hstored, ← Option.some.inj hm]
  · rw [hstored] at hd'
    cases hd'
    exact hd

section transitions

variable {discoveryEnabled : Bool} {sign : ℕ → String → String}

/-- Starting the discovery leaves the transport alone.  Kind: L -/
theorem sameTransport_startDiscovery (env : StartEnv) (generation : ℕ) (s : Lifecycle) :
    SameTransport s (s.startDiscovery discoveryEnabled env generation) := by
  unfold startDiscovery
  split
  · split
    · exact ⟨rfl, rfl⟩
    · dsimp only
      split <;> exact ⟨rfl, rfl⟩
  · exact ⟨rfl, rfl⟩

/-- What the transport part of a start does to a manager that was just loaded: nothing, or the first
generation.  Kind: L -/
theorem startTransport_transport {env : StartEnv} {generation captured : ℕ} {s s' : Lifecycle}
    (h : s.startTransport sign env generation (TransportManager.load s.stored) =
      .ok (captured, s')) :
    SameTransport s s' ∨ (s.stored = none ∧ ∃ d : TransportState, d.Ordered ∧
      s'.transport = some (TransportManager.load (some d)) ∧ s'.stored = some d) := by
  unfold startTransport at h
  cases hstored : s.stored with
  | none =>
      rw [hstored] at h
      simp only [TransportManager.load, Except.bind_eq_ok] at h
      obtain ⟨fingerprint, -, ⟨m, d⟩, hinit, h⟩ := h
      cases h
      obtain ⟨rfl, htransition⟩ := TransportManager.initializeCurrent_eq_ok sign
        (m := TransportManager.load none) (.inl rfl) rfl hinit
      exact .inr ⟨rfl, d, htransition.ordered (by simp), rfl, rfl⟩
  | some document =>
      rw [hstored] at h
      simp only [TransportManager.load] at h
      rw [Except.bind_eq_ok] at h
      obtain ⟨legacy, -, h⟩ := h
      refine .inl ?_
      have hend : ∀ x : Except PyError String, (do
          let fingerprint ← x
          raiseIf (document.current.fingerprint ≠ fingerprint)
            ⟨.transportState, "TLS material does not match trusted generation"⟩
          return (document.current.generation, s)) = Except.ok (captured, s') → s = s' := by
        intro x hx
        simp only [Except.bind_eq_ok, Except.pure_eq_ok, Prod.mk.injEq] at hx
        obtain ⟨_, _, _, _, hx⟩ := hx
        exact hx.2
      split at h
      · rw [hend _ h]
        exact ⟨rfl, rfl⟩
      · rw [hend _ h]
        exact ⟨rfl, rfl⟩

/-- A start leaves the transport state, loads the manager anew, or makes the first generation.
Kind: L -/
theorem start_transport (discoveryEnabled : Bool) (sign : ℕ → String → String)
    (env : StartEnv) (s : Lifecycle) :
    ((s.start discoveryEnabled sign env).stored = s.stored ∧
      ((s.start discoveryEnabled sign env).transport = s.transport ∨
        (s.start discoveryEnabled sign env).transport =
          some (TransportManager.load s.stored))) ∨
      (s.stored = none ∧ ∃ d : TransportState, d.Ordered ∧
        (s.start discoveryEnabled sign env).transport = some (TransportManager.load (some d)) ∧
        (s.start discoveryEnabled sign env).stored = some d) := by
  unfold start
  split
  · exact .inl ⟨rfl, .inl rfl⟩
  · dsimp only
    split
    · exact .inl ⟨rfl, .inl rfl⟩
    · unfold startComponents
      split
      · exact .inl ⟨rfl, .inr rfl⟩
      · rename_i captured t ht
        -- whatever comes after the transport part leaves its result
        have hend : ∀ u : Lifecycle, SameTransport t u →
            (u.stored = s.stored ∧ (u.transport = s.transport ∨
                u.transport = some (TransportManager.load s.stored))) ∨
              (s.stored = none ∧ ∃ d : TransportState, d.Ordered ∧
                u.transport = some (TransportManager.load (some d)) ∧ u.stored = some d) := by
          rintro u ⟨htransport, hstored⟩
          rw [htransport, hstored]
          let loaded : Lifecycle := { s with
            generation := s.generation + 1
            state := .starting
            transport := some (TransportManager.load s.stored) }
          rcases startTransport_transport (s := loaded) ht with ⟨h₁, h₂⟩ | ⟨hnone, d, hd, h₁, h₂⟩
          · exact .inl ⟨h₂, .inr h₁⟩
          · exact .inr ⟨hnone, d, hd, h₁, h₂⟩
        split
        · exact hend _ ⟨rfl, rfl⟩
        · split
          · split
            · exact hend _ ⟨rfl, rfl⟩
            · exact hend _ ⟨rfl, rfl⟩
          · exact hend _ (sameTransport_startDiscovery _ _ _)

/-- `start` keeps memory and file in step.  Kind: L -/
theorem Synced.start {s : Lifecycle} (h : s.Synced) (env : StartEnv) :
    (s.start discoveryEnabled sign env).Synced := by
  rcases start_transport discoveryEnabled sign env s with
    ⟨hstored, htransport | htransport⟩ | ⟨-, d, hd, htransport, hstored⟩
  · exact SameTransport.synced ⟨htransport, hstored⟩ h
  · refine ⟨fun m hm => ?_, fun d hd => h.ordered d (hstored ▸ hd)⟩
    rw [htransport] at hm
    rw [hstored, ← Option.some.inj hm]
  · exact synced_committed hd htransport hstored

/-- Writing a document to memory and file. -/
def wrote (s : Lifecycle) (d : TransportState) : Lifecycle :=
  { s with transport := some (TransportManager.load (some d)), stored := some d }

/-- `wrote` keeps memory and file in step.  Kind: L -/
theorem Synced.wrote {s : Lifecycle} {d : TransportState} (hd : d.Ordered) : (s.wrote d).Synced :=
  synced_committed hd rfl rfl

/-- `prepareRotation` keeps memory and file in step.  Kind: L -/
theorem Synced.prepareRotation {s : Lifecycle} (h : s.Synced) (env : RotateEnv) :
    ((prepareRotation sign env).after s).Synced := by
  unfold Lifecycle.prepareRotation
  rw [PyM.after_get_bind]
  refine PyM.after_raiseIf_bind (P := Synced) h fun _ => ?_
  split
  · exact h
  · rename_i m hm
    split
    · exact h
    · rename_i c hc
      obtain rfl := h.manager m hm
      refine PyM.after_ofExcept_bind (P := Synced) h fun fingerprint _ => ?_
      refine PyM.after_ofExcept_bind (P := Synced) h fun saved hsaved => ?_
      obtain ⟨m₁, d₁⟩ := saved
      obtain ⟨-, -, -, rfl, hd₁_eq, htransition₁⟩ := TransportManager.prepare_eq_ok sign hc hsaved
      have hd₁ : d₁.Ordered := htransition₁.ordered h.ordered
      rw [PyM.after_set_bind]
      refine PyM.after_ofExcept_bind (P := Synced) (Synced.wrote hd₁) fun saved hsaved => ?_
      obtain ⟨m₂, d₂⟩ := saved
      have hc₁ : (TransportManager.load (some d₁)).current = some c := by rw [hd₁_eq]; rfl
      obtain ⟨-, rfl, -, htransition₂⟩ := TransportManager.activate_eq_ok sign hc₁ hsaved
      exact Synced.wrote (htransition₂.ordered (by simpa using hd₁))

/-- `rollbackActive` keeps memory and file in step.  Kind: L -/
theorem Synced.rollbackActive {s : Lifecycle} (h : s.Synced) (fault : Option PyError) :
    ((rollbackActive fault).after s).Synced := by
  unfold Lifecycle.rollbackActive
  rw [PyM.after_get_bind]
  split
  · exact h
  · rename_i m hm
    obtain rfl := h.manager m hm
    refine PyM.after_ofExcept_bind (P := Synced) h fun saved hsaved => ?_
    obtain ⟨m', d⟩ := saved
    obtain ⟨-, rfl, htransition⟩ := TransportManager.rollbackActive_eq_ok (fun _ _ => "") hsaved
    exact Synced.wrote (htransition.ordered h.ordered)

/-- Every transition keeps memory and file together.  Kind: L -/
theorem Synced.apply {s : Lifecycle} (h : s.Synced) (move : Move) :
    (move.apply discoveryEnabled sign s).Synced := by
  cases move with
  | start env => exact h.start env
  | shutdown => exact SameTransport.synced (s := s) ⟨rfl, rfl⟩ h
  | prepareRotation env => exact h.prepareRotation env
  | rollbackActive fault => exact h.rollbackActive fault
  | event i ev =>
      unfold Move.apply
      dsimp only
      split
      · exact h
      · refine SameTransport.synced ?_ h
        unfold onDiscovery
        split
        · split
          · split <;> exact ⟨rfl, rfl⟩
          · exact ⟨rfl, rfl⟩
          · exact ⟨rfl, rfl⟩
        · exact ⟨rfl, rfl⟩
  | tick i => exact SameTransport.synced (s := s) ⟨rfl, rfl⟩ h

/-- A run keeps them together.  Kind: L -/
theorem Synced.runMoves {s : Lifecycle} (h : s.Synced) (ms : List Move) :
    (runMoves discoveryEnabled sign ms s).Synced := by
  induction ms generalizing s with
  | nil => exact h
  | cons move ms ih => exact ih (h.apply move)

/-- A runtime starts with memory and file in step.  Kind: L -/
theorem synced_init {stored : Option TransportState}
    (h : ∀ d, stored = some d → d.Ordered) : (init stored).Synced :=
  ⟨fun m hm => (by cases hm), h⟩

end transitions

/-! ## One rotation -/

section rotation

variable (discoveryEnabled : Bool) (sign : ℕ → String → String)

/-- The documents that `rotate_transport` saves, in order.
Source: `runtime/core.py`, `rotate_transport`.  Kind: D -/
def rotationWrites (env : RotateEnv) (s : Lifecycle) : List TransportState :=
  match s.transport with
  | none => []
  | some manager =>
      match manager.current with
      | none => []
      | some current =>
          if !s.started then []
          else
            match env.material (current.generation + 1) with
            | .error _ => []
            | .ok fingerprint =>
                match manager.prepare sign current env.saves.1 fingerprint with
                | .error _ => []
                | .ok (manager, pending) =>
                    match manager.activate current env.saves.2.1 (current.generation + 1)
                        env.now with
                    | .error _ => [pending]
                    | .ok (_, active) =>
                        let restarted :=
                          (s.wrote active).shutdown.start discoveryEnabled sign env.restart
                        if restarted.state = .started ∨ restarted.state = .stopped then
                          [pending, active]
                        else
                          match restarted.transport with
                          | none => [pending, active]
                          | some manager =>
                              match manager.rollbackActive env.saves.2.2 with
                              | .error _ => [pending, active]
                              | .ok (_, restored) => [pending, active, restored]

/-- The state after `rotate_transport`. -/
def rotated (env : RotateEnv) (s : Lifecycle) : Lifecycle :=
  runMoves discoveryEnabled sign
    ((LifecycleOp.rotateTransport env).moves discoveryEnabled sign s) s

/-- How a rotation ends. -/
inductive Ending where
  /-- The call returns or raises. -/
  | completes
  /-- The process stops after this many of its saves, and the runtime is started anew. -/
  | crashes (saves : ℕ)

/-- The manager afterwards. -/
def Ending.manager (env : RotateEnv) (s : Lifecycle) : Ending → TransportManager
  | completes =>
      ((rotated discoveryEnabled sign env s).transport).getD
        (TransportManager.load (rotated discoveryEnabled sign env s).stored)
  | crashes saves => TransportManager.load
      (((rotationWrites discoveryEnabled sign env s).take saves).getLast?.or s.stored)

/-- The rotation is over: nothing is pending, and the generation before it or the one after it is
current. -/
def Resolved (before : TransportGeneration) (m : TransportManager) : Prop :=
  m.next = none ∧ ∃ current, m.current = some current ∧
    (current = before ∨ current.generation = before.generation + 1)

/-- The next generation gets saved. -/
def Prepares (env : RotateEnv) (s : Lifecycle) (before : TransportGeneration) : Prop :=
  s.started = true ∧ env.saves.1 = none ∧
    ∃ fingerprint, env.material (before.generation + 1) = .ok fingerprint ∧ fingerprint ≠ ""

/-- The next generation gets saved, but its activation does not. -/
def Interrupted (env : RotateEnv) (s : Lifecycle) (before : TransportGeneration) :
    Ending → Prop
  | .completes => Prepares env s before ∧ env.saves.2.1 ≠ none
  | .crashes saves => Prepares env s before ∧ (saves = 1 ∨ (1 < saves ∧ env.saves.2.1 ≠ none))

/-- The generation after `before`. -/
def successor (before : TransportGeneration) (fingerprint : String) : TransportGeneration :=
  ⟨before.generation + 1, fingerprint, sign (before.generation + 1) fingerprint⟩

variable {discoveryEnabled sign} {s : Lifecycle} {m : TransportManager}
  {before : TransportGeneration}

/-- The document of a runtime without a pending rotation.  Kind: L -/
theorem Synced.stored_of_current (hs : s.Synced) (hm : s.transport = some m)
    (hcurrent : m.current = some before) (hnext : m.next = none) :
    s.stored = some ⟨before, m.accepted, none⟩ := by
  have hload := hs.manager m hm
  cases hstored : s.stored with
  | none =>
      rw [hload, hstored] at hcurrent
      cases hcurrent
  | some d =>
      obtain ⟨current, accepted, next⟩ := d
      rw [hstored] at hload
      rw [hload] at hcurrent hnext ⊢
      cases hcurrent
      cases hnext
      rfl

/-- The highest number of an ordered document without a pending generation.  Kind: L -/
theorem highestGeneration_of_ordered {accepted : Accepted}
    (h : (⟨before, accepted, none⟩ : TransportState).Ordered) :
    (TransportManager.load (some ⟨before, accepted, none⟩)).highestGeneration =
      before.generation := by
  refine le_antisymm ?_ (TransportManager.current_le_highest rfl)
  refine List.max_le_of_forall_le _ before.generation fun g hg => ?_
  simp only [TransportManager.load, Option.toList_some, Option.toList_none, List.map_nil,
    List.append_nil, List.mem_append, List.map_cons, List.mem_singleton] at hg
  rcases hg with hg | rfl
  · obtain ⟨p, hp, rfl⟩ := List.mem_map.mp hg
    exact (h.accepted p hp).2.le
  · exact le_refl _

/-- `prepare` of a runtime without a pending rotation.  Kind: L -/
theorem prepare_run (sign : ℕ → String → String) {accepted : Accepted}
    (h : (⟨before, accepted, none⟩ : TransportState).Ordered) {fingerprint : String}
    (hfp : fingerprint ≠ "") :
    (TransportManager.load (some ⟨before, accepted, none⟩)).prepare sign before none fingerprint =
      .ok
        (TransportManager.load
          (some ⟨before, accepted, some (successor sign before fingerprint)⟩),
        ⟨before, accepted, some (successor sign before fingerprint)⟩) := by
  unfold TransportManager.prepare
  rw [highestGeneration_of_ordered h, TransportManager.newGeneration, if_neg hfp]
  rfl

/-- `activate` after it.  Kind: L -/
theorem activate_run (sign : ℕ → String → String) (before : TransportGeneration)
    (accepted : Accepted) (fingerprint : String) (now : ℚ) :
    (TransportManager.load (some ⟨before, accepted,
        some (successor sign before fingerprint)⟩)).activate before none
          (before.generation + 1) now =
      .ok (TransportManager.load (some ⟨successor sign before fingerprint,
          accepted.insert before.generation
            (before, some (now + TransportManager.graceSeconds)), none⟩),
        ⟨successor sign before fingerprint, accepted.insert before.generation
          (before, some (now + TransportManager.graceSeconds)), none⟩) := by
  unfold TransportManager.activate
  simp only [TransportManager.load]
  rw [if_neg (by simp [successor])]
  rfl

/-- `rollback_active` after that restores the document there was.  Kind: L -/
theorem rollbackActive_run {accepted : Accepted} {next : TransportGeneration} {expiry : Option ℚ}
    (h : (⟨before, accepted, none⟩ : TransportState).Ordered) :
    (TransportManager.load (some ⟨next, accepted.insert before.generation (before, expiry),
        none⟩)).rollbackActive none =
      .ok (TransportManager.load (some ⟨before, accepted, none⟩), ⟨before, accepted, none⟩) := by
  have hfresh : accepted.get? before.generation = none := by
    refine Option.eq_none_iff_forall_ne_some.mpr fun entry hentry => ?_
    have := (h.accepted _ (accepted.get?_eq_some_iff.mp hentry)).2
    exact absurd this (lt_irrefl _)
  have hkeys : (accepted.insert before.generation (before, expiry)).keys.max? =
      some before.generation := by
    refine List.max?_eq_some_iff.mpr ⟨?_, fun g hg => ?_⟩
    · exact (Dict.mem_keys_iff _).mpr (by rw [Dict.get?_insert, if_pos rfl]; rfl)
    · rw [Dict.keys, Dict.entries_insert_of_fresh hfresh, List.map_append, List.mem_append] at hg
      rcases hg with hg | hg
      · obtain ⟨p, hp, rfl⟩ := List.mem_map.mp hg
        exact (h.accepted p hp).2.le
      · rw [List.mem_singleton.mp hg]
  have hget : (accepted.insert before.generation (before, expiry)).get? before.generation =
      some (before, expiry) := by
    rw [Dict.get?_insert, if_pos rfl]
  unfold TransportManager.rollbackActive
  simp only [TransportManager.load]
  rw [hkeys]
  dsimp only
  rw [hget]
  dsimp only
  rw [Dict.erase_insert_of_fresh hfresh]
  rfl

/-- The first part of a rotation, with what it saves.  Kind: L -/
theorem prepareRotation_run (sign : ℕ → String → String) (hm : s.transport = some m)
    (hcurrent : m.current = some before) (env : RotateEnv) :
    prepareRotation sign env s =
      if s.started then
        match env.material (before.generation + 1) with
        | .error e => .error e s
        | .ok fingerprint =>
            match m.prepare sign before env.saves.1 fingerprint with
            | .error e => .error e s
            | .ok (m₁, pending) =>
                match m₁.activate before env.saves.2.1 (before.generation + 1) env.now with
                | .error e => .error e { s with transport := some m₁, stored := some pending }
                | .ok (m₂, active) =>
                    .ok () { s with transport := some m₂, stored := some active }
      else .error ⟨.runtime, "runtime must be started before transport rotation"⟩ s := by
  unfold prepareRotation
  rw [PyM.bind_apply]
  show (raiseIf (!s.started) _ >>= fun _ => _ : PyM Lifecycle Unit) s = _
  cases hstarted : s.started with
  | false => rfl
  | true =>
      rw [if_pos rfl, hm]
      show (match m.current with
        | none => _
        | some current => _ : PyM Lifecycle Unit) s = _
      rw [hcurrent]
      show (PyM.ofExcept (env.material (before.generation + 1)) >>= fun fingerprint => _ :
        PyM Lifecycle Unit) s = _
      cases env.material (before.generation + 1) with
      | error e => rfl
      | ok fingerprint =>
          dsimp only
          show (PyM.ofExcept (m.prepare sign before env.saves.1 fingerprint) >>= fun saved => _ :
            PyM Lifecycle Unit) s = _
          cases m.prepare sign before env.saves.1 fingerprint with
          | error e => rfl
          | ok saved =>
              obtain ⟨m₁, pending⟩ := saved
              dsimp only
              show (PyM.ofExcept (m₁.activate before env.saves.2.1 (before.generation + 1)
                env.now) >>= fun saved => _ : PyM Lifecycle Unit)
                  { s with transport := some m₁, stored := some pending } = _
              cases m₁.activate before env.saves.2.1 (before.generation + 1) env.now with
              | error e => rfl
              | ok saved => rfl

/-- A rotation whose first part raises ends there.  Kind: L -/
theorem rotated_of_error {env : RotateEnv} {s' : Lifecycle} {e : PyError}
    (h : prepareRotation sign env s = .error e s') :
    rotated discoveryEnabled sign env s = s' := by
  have hmoves : (LifecycleOp.rotateTransport env).moves discoveryEnabled sign s =
      [.prepareRotation env] := by
    simp only [LifecycleOp.moves, h]
  rw [rotated, hmoves]
  exact PyM.after_of_error h

/-- A rotation whose first part returns restarts the runtime, and goes back when the start returns
without having started it.  Kind: L -/
theorem rotated_of_ok (discoveryEnabled : Bool) {env : RotateEnv} {prepared : Lifecycle}
    (h : prepareRotation sign env s = .ok () prepared) :
    rotated discoveryEnabled sign env s =
      let restarted := prepared.shutdown.start discoveryEnabled sign env.restart
      if restarted.state = .started ∨ restarted.state = .stopped then restarted
      else
        match Lifecycle.rollbackActive env.saves.2.2 restarted with
        | .error _ s' => s'
        | .ok _ s' => s'.start discoveryEnabled sign env.fallback := by
  have hfirst : (Move.prepareRotation env).apply discoveryEnabled sign s = prepared :=
    PyM.after_of_ok h
  have hrestart : runMoves discoveryEnabled sign
      [.prepareRotation env, .shutdown, .start env.restart] s =
        prepared.shutdown.start discoveryEnabled sign env.restart := by
    show (((Move.prepareRotation env).apply discoveryEnabled sign s).shutdown).start _ _ _ = _
    rw [hfirst]
  unfold rotated
  simp only [LifecycleOp.moves, h]
  unfold runMoves at hrestart ⊢
  rw [List.foldl_append, hrestart]
  split
  · rfl
  · cases hback : Lifecycle.rollbackActive env.saves.2.2
      (prepared.shutdown.start discoveryEnabled sign env.restart) with
    | error e s' => exact PyM.after_of_error hback
    | ok u s' =>
        show ((Lifecycle.rollbackActive env.saves.2.2).after _).start _ _ _ = _
        rw [PyM.after_of_ok hback]

/-- A rotation that saves nothing changes nothing.  Kind: L -/
theorem rotation_of_not_prepares (discoveryEnabled : Bool) (sign : ℕ → String → String)
    (hm : s.transport = some m) (hcurrent : m.current = some before)
    {env : RotateEnv} (h : ¬Prepares env s before) :
    rotationWrites discoveryEnabled sign env s = [] ∧ rotated discoveryEnabled sign env s = s := by
  have hrun := prepareRotation_run sign hm hcurrent env
  have hnothing : rotationWrites discoveryEnabled sign env s = [] ∧
      ∃ e, prepareRotation sign env s = .error e s := by
    unfold rotationWrites
    rw [hm, hrun]
    dsimp only
    rw [hcurrent]
    dsimp only
    cases hstarted : s.started with
    | false => exact ⟨rfl, _, rfl⟩
    | true =>
        simp only [Bool.not_true, Bool.false_eq_true, if_false, if_true]
        cases hmaterial : env.material (before.generation + 1) with
        | error e => exact ⟨rfl, _, rfl⟩
        | ok fingerprint =>
            dsimp only
            cases hprepare : m.prepare sign before env.saves.1 fingerprint with
            | error e => exact ⟨rfl, _, rfl⟩
            | ok saved =>
                obtain ⟨m₁, pending⟩ := saved
                obtain ⟨hfault, hfp, -⟩ := TransportManager.prepare_eq_ok sign hcurrent hprepare
                exact absurd ⟨hstarted, hfault, fingerprint, hmaterial, hfp⟩ h
  obtain ⟨hwrites, e, herror⟩ := hnothing
  exact ⟨hwrites, rotated_of_error herror⟩

section prepared

variable {env : RotateEnv} {fingerprint : String} {accepted : Accepted}

/-- A rotation whose activation is not saved leaves the next generation pending.  Kind: L -/
theorem rotation_of_not_activated (discoveryEnabled : Bool) (sign : ℕ → String → String)
    (hs : s.Synced) (hstored : s.stored = some ⟨before, accepted, none⟩)
    (hm : s.transport = some (TransportManager.load (some ⟨before, accepted, none⟩)))
    (hstarted : s.started = true) (hfault : env.saves.1 = none)
    (hmaterial : env.material (before.generation + 1) = .ok fingerprint) (hfp : fingerprint ≠ "")
    {e : PyError} (hfault₂ : env.saves.2.1 = some e) :
    rotationWrites discoveryEnabled sign env s =
        [⟨before, accepted, some (successor sign before fingerprint)⟩] ∧
      rotated discoveryEnabled sign env s =
        s.wrote ⟨before, accepted, some (successor sign before fingerprint)⟩ := by
  have hordered := hs.ordered _ hstored
  have hprepare := prepare_run sign hordered hfp
  have hactivate : ∃ e', (TransportManager.load (some ⟨before, accepted,
      some (successor sign before fingerprint)⟩)).activate before (some e) (before.generation + 1)
        env.now = .error e' := by
    cases h : (TransportManager.load (some ⟨before, accepted,
      some (successor sign before fingerprint)⟩)).activate before (some e) (before.generation + 1)
        env.now with
    | error e' => exact ⟨e', rfl⟩
    | ok saved =>
        obtain ⟨m₂, d₂⟩ := saved
        obtain ⟨hnone, -⟩ := TransportManager.activate_eq_ok sign rfl h
        cases hnone
  obtain ⟨e', hactivate⟩ := hactivate
  have hrun := prepareRotation_run sign hm rfl env
  rw [hstarted, if_pos rfl, hmaterial] at hrun
  dsimp only at hrun
  rw [hfault, hprepare] at hrun
  dsimp only at hrun
  rw [hfault₂, hactivate] at hrun
  refine ⟨?_, rotated_of_error hrun⟩
  unfold rotationWrites
  rw [hm]
  simp only [TransportManager.load, hstarted, hmaterial, hfault, hfault₂, Bool.not_true,
    Bool.false_eq_true, if_false] at hprepare hactivate ⊢
  rw [hprepare]
  dsimp only
  rw [hactivate]

/-- A start on a document changes neither it nor, if the two agree, the manager.  Kind: L -/
theorem start_of_stored {d : TransportState} (startEnv : StartEnv)
    (hm : s.transport = some (TransportManager.load (some d))) (hstored : s.stored = some d) :
    (s.start discoveryEnabled sign startEnv).transport = some (TransportManager.load (some d)) ∧
      (s.start discoveryEnabled sign startEnv).stored = some d := by
  rcases start_transport discoveryEnabled sign startEnv s with
    ⟨hsame, htransport | htransport⟩ | ⟨hnone, -⟩
  · exact ⟨htransport.trans hm, hsame.trans hstored⟩
  · rw [hstored] at htransport
    exact ⟨htransport, hsame.trans hstored⟩
  · rw [hstored] at hnone
    cases hnone

/-- A rotation whose activation is saved leaves the next generation current, or the document there
was before.  Kind: L -/
theorem rotation_of_activated (discoveryEnabled : Bool) (sign : ℕ → String → String)
    (hs : s.Synced) (hstored : s.stored = some ⟨before, accepted, none⟩)
    (hm : s.transport = some (TransportManager.load (some ⟨before, accepted, none⟩)))
    (hstarted : s.started = true) (hfault : env.saves.1 = none)
    (hmaterial : env.material (before.generation + 1) = .ok fingerprint) (hfp : fingerprint ≠ "")
    (hfault₂ : env.saves.2.1 = none) :
    ∃ (active : TransportState) (rest : List TransportState),
      active.current = successor sign before fingerprint ∧ active.next = none ∧
      rotationWrites discoveryEnabled sign env s =
        ⟨before, accepted, some (successor sign before fingerprint)⟩ :: active :: rest ∧
      (∀ d ∈ rest, d = ⟨before, accepted, none⟩) ∧
      ((rotated discoveryEnabled sign env s).stored = some active ∨
        (rotated discoveryEnabled sign env s).stored = some ⟨before, accepted, none⟩) := by
  have hordered := hs.ordered _ hstored
  have hprepare := prepare_run sign hordered hfp
  have hactivate := activate_run sign before accepted fingerprint env.now
  have hrun := prepareRotation_run sign hm rfl env
  rw [hstarted, if_pos rfl, hmaterial] at hrun
  dsimp only at hrun
  rw [hfault, hprepare] at hrun
  dsimp only at hrun
  rw [hfault₂, hactivate] at hrun
  dsimp only at hrun
  set active : TransportState := ⟨successor sign before fingerprint,
    accepted.insert before.generation
      (before, some (env.now + TransportManager.graceSeconds)), none⟩ with hactive
  change prepareRotation sign env s = .ok () (s.wrote active) at hrun
  set restarted := (s.wrote active).shutdown.start discoveryEnabled sign env.restart with hrestarted
  obtain ⟨hrm, hrs⟩ : restarted.transport = some (TransportManager.load (some active)) ∧
      restarted.stored = some active := start_of_stored env.restart rfl rfl
  have hwrites : rotationWrites discoveryEnabled sign env s =
      if restarted.state = .started ∨ restarted.state = .stopped then
        [⟨before, accepted, some (successor sign before fingerprint)⟩, active]
      else
        match (TransportManager.load (some active)).rollbackActive env.saves.2.2 with
        | .error _ => [⟨before, accepted, some (successor sign before fingerprint)⟩, active]
        | .ok (_, restored) =>
            [⟨before, accepted, some (successor sign before fingerprint)⟩, active, restored] := by
    have hcurrent : (TransportManager.load (some ⟨before, accepted, none⟩)).current =
        some before := rfl
    unfold rotationWrites
    rw [hm]
    dsimp only
    rw [hcurrent]
    dsimp only
    rw [hstarted, if_neg (by decide), hmaterial]
    dsimp only
    rw [hfault, hprepare]
    dsimp only
    rw [hfault₂, hactivate]
    dsimp only
    rw [← hrestarted, hrm]
  have hend := rotated_of_ok discoveryEnabled hrun
  dsimp only at hend
  rw [← hrestarted] at hend
  by_cases hover : restarted.state = .started ∨ restarted.state = .stopped
  · rw [if_pos hover] at hwrites hend
    refine ⟨active, [], rfl, rfl, hwrites, by simp, .inl ?_⟩
    rw [hend, hrs]
  · rw [if_neg hover] at hwrites hend
    have hback : Lifecycle.rollbackActive env.saves.2.2 restarted =
        match (TransportManager.load (some active)).rollbackActive env.saves.2.2 with
        | .error e => .error e restarted
        | .ok (m, d) => .ok () { restarted with transport := some m, stored := some d } := by
      unfold Lifecycle.rollbackActive
      rw [PyM.bind_apply]
      show (match restarted.transport with
        | none => _
        | some manager => _ : PyM Lifecycle Unit) restarted = _
      rw [hrm]
      dsimp only
      cases (TransportManager.load (some active)).rollbackActive env.saves.2.2 with
      | error e => rfl
      | ok saved => rfl
    cases hfault₃ : env.saves.2.2 with
    | none =>
        rw [hfault₃, hactive, rollbackActive_run hordered] at hwrites hback
        dsimp only at hwrites hback
        rw [hfault₃, hback] at hend
        refine ⟨active, [⟨before, accepted, none⟩], rfl, rfl, hwrites, by simp, .inr ?_⟩
        rw [hend]
        exact (start_of_stored env.fallback rfl rfl).2
    | some e =>
        have hraise : ∃ e', (TransportManager.load (some active)).rollbackActive (some e) =
            .error e' := by
          cases h : (TransportManager.load (some active)).rollbackActive (some e) with
          | error e' => exact ⟨e', rfl⟩
          | ok saved =>
              obtain ⟨m, d⟩ := saved
              obtain ⟨hnone, -⟩ := TransportManager.rollbackActive_eq_ok sign h
              cases hnone
        obtain ⟨e', hraise⟩ := hraise
        rw [hfault₃, hraise] at hwrites hback
        dsimp only at hwrites hback
        rw [hfault₃, hback] at hend
        refine ⟨active, [], rfl, rfl, hwrites, by simp, .inl ?_⟩
        rw [hend, hrs]

end prepared

/-! ## When it is over -/

/-- Back at the generation before, the rotation is over.  Kind: L -/
theorem resolved_before {accepted : Accepted} :
    Resolved before (TransportManager.load (some ⟨before, accepted, none⟩)) :=
  ⟨rfl, before, rfl, .inl rfl⟩

/-- At the next generation with nothing pending, the rotation is over.  Kind: L -/
theorem resolved_active {active : TransportState} {fingerprint : String}
    (hcurrent : active.current = successor sign before fingerprint) (hnext : active.next = none) :
    Resolved before (TransportManager.load (some active)) :=
  ⟨hnext, active.current, rfl, .inr (by rw [hcurrent]; rfl)⟩

/-- With a generation pending, it is not.  Kind: L -/
theorem not_resolved_pending {accepted : Accepted} {next : TransportGeneration} :
    ¬Resolved before (TransportManager.load (some ⟨before, accepted, some next⟩)) :=
  fun h => nomatch h.1

/-- After the call memory holds what the file holds.  Kind: L -/
theorem manager_completes (hs : s.Synced) (env : RotateEnv) :
    Ending.completes.manager discoveryEnabled sign env s =
      TransportManager.load (rotated discoveryEnabled sign env s).stored := by
  have hsynced : (rotated discoveryEnabled sign env s).Synced := hs.runMoves _
  show ((rotated discoveryEnabled sign env s).transport).getD _ = _
  cases hm : (rotated discoveryEnabled sign env s).transport with
  | none => rfl
  | some m => exact hsynced.manager m hm

/-- A rotation of any runtime without a pending one is over afterwards, however it ends, if and only
if it was not stopped between the save of the next generation and the save of its activation.
Source: `runtime/core.py`, `rotate_transport`.  Kind: P -/
theorem rotation_resolved_iff {stored : Option TransportState}
    (hstored : ∀ d, stored = some d → d.Ordered) (moves : List Move)
    (hs : s = runMoves discoveryEnabled sign moves (init stored)) (hm : s.transport = some m)
    (hcurrent : m.current = some before) (hnext : m.next = none) (env : RotateEnv)
    (ending : Ending) :
    Resolved before (ending.manager discoveryEnabled sign env s) ↔
      ¬Interrupted env s before ending := by
  have hsynced : s.Synced := hs ▸ (synced_init hstored).runMoves moves
  have hdocument := hsynced.stored_of_current hm hcurrent hnext
  have hload : m = TransportManager.load (some ⟨before, m.accepted, none⟩) := by
    rw [← hdocument]
    exact hsynced.manager m hm
  by_cases hprepares : Prepares env s before
  · obtain ⟨hstarted, hfault, fingerprint, hmaterial, hfp⟩ := hprepares
    have hprepares : Prepares env s before := ⟨hstarted, hfault, fingerprint, hmaterial, hfp⟩
    rw [hload] at hm
    cases hfault₂ : env.saves.2.1 with
    | some e =>
        obtain ⟨hwrites, hrotated⟩ := rotation_of_not_activated
          discoveryEnabled sign hsynced hdocument hm hstarted
          hfault hmaterial hfp hfault₂
        cases ending with
        | completes =>
            rw [manager_completes hsynced, hrotated]
            refine iff_of_false not_resolved_pending (not_not.mpr ⟨hprepares, ?_⟩)
            rw [hfault₂]
            simp
        | crashes saves =>
            rw [Ending.manager, hwrites, hdocument]
            rcases saves with - | saves
            · refine iff_of_true resolved_before fun hinterrupted => ?_
              have := hinterrupted.2
              omega
            · rw [List.take_of_length_le (by simp)]
              refine iff_of_false not_resolved_pending (not_not.mpr ⟨hprepares, ?_⟩)
              rw [hfault₂]
              rcases saves with - | saves
              · exact .inl rfl
              · exact .inr ⟨by omega, by simp⟩
    | none =>
        obtain ⟨active, rest, hactive, hactivenext, hwrites, hrest, hend⟩ := rotation_of_activated
          discoveryEnabled sign hsynced hdocument hm hstarted
          hfault hmaterial hfp hfault₂
        cases ending with
        | completes =>
            rw [manager_completes hsynced]
            refine iff_of_true ?_ fun hinterrupted => hinterrupted.2 hfault₂
            rcases hend with hend | hend
            · rw [hend]
              exact resolved_active hactive hactivenext
            · rw [hend]
              exact resolved_before
        | crashes saves =>
            rw [Ending.manager, hwrites, hdocument]
            rcases saves with - | - | saves
            · refine iff_of_true resolved_before fun hinterrupted => ?_
              have := hinterrupted.2
              omega
            · exact iff_of_false not_resolved_pending (not_not.mpr ⟨hprepares, .inl rfl⟩)
            · refine iff_of_true ?_ fun hinterrupted => ?_
              · -- from the second save on the last document is the new one or the old one
                rw [List.take_succ_cons, List.take_succ_cons, List.getLast?_cons_cons,
                  List.getLast?_cons]
                cases hlast : (rest.take saves).getLast? with
                | none => exact resolved_active hactive hactivenext
                | some d =>
                    have hmem : d ∈ rest := List.mem_of_mem_take (List.mem_of_getLast? hlast)
                    rw [Option.getD_some, hrest d hmem]
                    exact resolved_before
              · rcases hinterrupted.2 with hone | ⟨-, hne⟩
                · omega
                · exact hne hfault₂
  · obtain ⟨hwrites, hrotated⟩ := rotation_of_not_prepares
      discoveryEnabled sign hm hcurrent hprepares
    have hresolved : Resolved before (TransportManager.load s.stored) := by
      rw [hdocument]
      exact resolved_before
    cases ending with
    | completes =>
        rw [manager_completes hsynced, hrotated]
        exact iff_of_true hresolved fun hinterrupted => hprepares hinterrupted.1
    | crashes saves =>
        rw [Ending.manager, hwrites, List.take_nil]
        exact iff_of_true hresolved fun hinterrupted => hprepares hinterrupted.1

/-- While a generation is pending every rotation is refused with `RotationConflict`.  Kind: L -/
theorem rotation_conflicts (hm : s.transport = some m) (hcurrent : m.current = some before)
    (hnext : m.next ≠ none) (hstarted : s.started = true) {env : RotateEnv} {fingerprint : String}
    (hmaterial : env.material (before.generation + 1) = .ok fingerprint) :
    prepareRotation sign env s =
      .error ⟨.value, "a transport rotation is already pending"⟩ s := by
  have hsome : m.next.isSome = true := Option.isSome_iff_ne_none.mpr hnext
  have hprepare : m.prepare sign before env.saves.1 fingerprint =
      .error ⟨.value, "a transport rotation is already pending"⟩ := by
    unfold TransportManager.prepare raiseIf
    rw [if_pos hsome]
    rfl
  rw [prepareRotation_run sign hm hcurrent, hstarted, if_pos rfl, hmaterial]
  dsimp only
  rw [hprepare]

end rotation

/-! ## Samples -/

/-- A start that finds TLS material for both generations and meets this at the listeners. -/
def sampleStart (listen : Option PyError) : StartEnv where
  load := none
  material := fun generation => .ok (if generation = 1 then "one" else "two")
  save := none
  service := none
  listen := listen
  discovery := none

/-- A rotation with these saves whose listener does not come up again at first. -/
def sampleRotation (saves : Option PyError × Option PyError × Option PyError) : RotateEnv where
  material := fun _ => .ok "two"
  saves := saves
  now := 0
  restart := sampleStart (some ⟨.os, "address in use"⟩)
  fallback := sampleStart none

/-- A runtime that was started once. -/
def sampleRuntime : Lifecycle := runMoves true sampleSign [.start (sampleStart none)] (init none)

/-- The transport of the sample.  Kind: L -/
theorem sampleRuntime_transport : sampleRuntime.transport =
    some ⟨some ⟨1, "one", "1:one"⟩, Dict.empty, none⟩ := by decide +kernel

/-- The listener does not come up with the new generation: the rotation goes back and is over. -/
theorem rotation_resolved_goes_back :
    Resolved ⟨1, "one", "1:one"⟩ (Ending.completes.manager true sampleSign
      (sampleRotation (none, none, none)) sampleRuntime) := by
  have hstored : ∀ d, (none : Option TransportState) = some d → d.Ordered := by simp
  refine (rotation_resolved_iff hstored [.start (sampleStart none)] rfl
    sampleRuntime_transport rfl rfl (sampleRotation (none, none, none)) .completes).mpr ?_
  rintro ⟨-, hne⟩
  exact hne rfl

/-- The activation of a prepared generation cannot be saved: the generation stays pending. -/
theorem rotation_stays_pending :
    ¬∀ (discoveryEnabled : Bool) (sign : ℕ → String → String) (stored : Option TransportState)
      (moves : List Move) (m : TransportManager) (before : TransportGeneration) (env : RotateEnv)
      (ending : Ending), (∀ d, stored = some d → d.Ordered) →
      (runMoves discoveryEnabled sign moves (init stored)).transport = some m →
      m.current = some before → m.next = none →
      Resolved before (ending.manager discoveryEnabled sign env
        (runMoves discoveryEnabled sign moves (init stored))) := by
  intro h
  have hresolved := h true sampleSign none [.start (sampleStart none)] _ _
    (sampleRotation (none, some ⟨.os, "disk full"⟩, none)) .completes (by simp)
    sampleRuntime_transport rfl rfl
  have hnext : (Ending.completes.manager true sampleSign
      (sampleRotation (none, some ⟨.os, "disk full"⟩, none)) sampleRuntime).next =
        some ⟨2, "two", "2:two"⟩ := by decide +kernel
  have hnone := hresolved.1
  change (Ending.completes.manager true sampleSign _ sampleRuntime).next = none at hnone
  rw [hnext] at hnone
  cases hnone

end Lifecycle

end ExpraConnect
