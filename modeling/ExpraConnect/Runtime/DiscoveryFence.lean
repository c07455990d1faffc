import ExpraConnect.Runtime.Lifecycle

/-!
# Which discovery events and ticks a runtime accepts

`_start_components` is called with the number of the lifecycle it belongs to, and hands `generation`
to the discovery's callback and to the expiry worker.  On a profile that has a transport state it
assigns the number of the transport generation to that variable first.

* `Fenced`: exactly the discovery and the worker of the current lifecycle are accepted;
* `start_cases`: everything a start can do to them;
* `fenced_iff_starts_aligned`: along a sequence of calls the fence holds in every state exactly when
  each start that creates a discovery finds no transport state, or one whose current generation
  happens to have the number of the new lifecycle;
* `restart_ignores_its_discovery`: after a restart the runtime ignores its own discovery.
-/

namespace ExpraConnect

open ExpraConnect.Lib

namespace Lifecycle

/-! ## What is to hold -/

/-- A discovery's events are processed exactly while the lifecycle that created it is the current
one and the runtime is started, and its worker keeps working exactly that long.
Source: `runtime/core.py`, `_on_discovery` and `_expiry_loop`.  Kind: D -/
structure Fenced (s : Lifecycle) : Prop where
  /-- The discoveries. -/
  events : ∀ d ∈ s.discoveries,
    s.isCurrent d.captured = true ↔ d.lifecycle = s.generation ∧ s.started = true
  /-- The expiry workers. -/
  workers : ∀ w ∈ s.workers,
    s.ticks w = true ↔ w.lifecycle = s.generation ∧ s.started = true

/-- What a start in state `s` hands to its discovery. -/
def startCaptures (s : Lifecycle) : ℕ :=
  match s.stored with
  | none => s.generation + 1
  | some document => document.current.generation

/-- There is no transport state, or its current generation has the number of the lifecycle that a
start would begin.  Kind: D -/
def StartAligned (s : Lifecycle) : Prop :=
  ∀ document, s.stored = some document → document.current.generation = s.generation + 1

/-- A start captures the next generation if and only if it is aligned.  Kind: L -/
theorem startCaptures_eq_iff {s : Lifecycle} :
    s.startCaptures = s.generation + 1 ↔ s.StartAligned := by
  unfold startCaptures StartAligned
  cases s.stored with
  | none => simp
  | some document => simp

/-! ## What the transitions do to discoveries and workers -/

/-- A member of a modified list comes from one of the list.  Kind: L -/
theorem exists_of_mem_modify {α : Type} {f : α → α} {l : List α} {i : ℕ} {b : α}
    (h : b ∈ l.modify i f) : ∃ a ∈ l, b = a ∨ b = f a := by
  obtain ⟨j, hj⟩ := List.mem_iff_getElem?.mp h
  rw [List.getElem?_modify] at hj
  cases ha : l[j]? with
  | none => simp [ha] at hj
  | some a =>
      refine ⟨a, List.mem_iff_getElem?.mpr ⟨j, ha⟩, ?_⟩
      simp only [ha, Option.map_eq_map, Option.map_some, Option.some.injEq] at hj
      split at hj
      · exact .inr hj.symm
      · exact .inl hj.symm

/-- Every worker of `ws'` is one of `ws`, perhaps stopped or returned by now. -/
def Inherited (ws ws' : List ExpiryWorker) : Prop :=
  ∀ w' ∈ ws', ∃ w ∈ ws, w'.lifecycle = w.lifecycle ∧ w'.captured = w.captured

theorem Inherited.refl (ws : List ExpiryWorker) : Inherited ws ws := fun w hw => ⟨w, hw, rfl, rfl⟩

/-- Stopping the expiry worker makes none.  Kind: L -/
theorem inherited_stopExpiryWorker (s : Lifecycle) :
    Inherited s.workers s.stopExpiryWorker.workers := by
  intro w' hw'
  unfold stopExpiryWorker at hw'
  cases hs : s.worker with
  | none =>
      simp only [hs] at hw'
      exact ⟨w', hw', rfl, rfl⟩
  | some i =>
      simp only [hs] at hw'
      obtain ⟨w, hw, rfl | rfl⟩ := exists_of_mem_modify hw'
      · exact ⟨_, hw, rfl, rfl⟩
      · exact ⟨_, hw, rfl, rfl⟩

section transitions

variable {discoveryEnabled : Bool} {sign : ℕ → String → String} {env : StartEnv} {s s' : Lifecycle}

/-- What a start does, unless the runtime is started already: it begins a lifecycle, and creates
nothing, or creates a discovery, perhaps with a worker, that hold what the start captured and is
over only once the runtime is started. -/
structure StartSpec (s s' : Lifecycle) : Prop where
  /-- A new lifecycle. -/
  generation : s'.generation = s.generation + 1
  /-- The discoveries afterwards. -/
  discoveries : s'.discoveries = s.discoveries ∨
    (s'.started = true ∧
      s'.discoveries = s.discoveries ++ [⟨s.generation + 1, s.startCaptures⟩])
  /-- The workers afterwards. -/
  workers : Inherited s.workers s'.workers ∨
    (s'.started = true ∧ s'.discoveries ≠ s.discoveries ∧
      s'.workers = s.workers ++ [⟨s.generation + 1, s.startCaptures, false, false⟩])

/-- A start that fails creates nothing.  Kind: L -/
theorem StartSpec.of_clearComponents {t : Lifecycle} (state : RuntimeState)
    (hg : t.generation = s.generation + 1) (hd : t.discoveries = s.discoveries)
    (hw : Inherited s.workers t.workers) : StartSpec s (t.clearComponents state) where
  generation := hg
  discoveries := .inl hd
  workers := by
    refine .inl fun w' hw' => ?_
    obtain ⟨w, hw₁, hl, hc⟩ := inherited_stopExpiryWorker t w' hw'
    obtain ⟨w₀, hw₀, hl₀, hc₀⟩ := hw w hw₁
    exact ⟨w₀, hw₀, hl.trans hl₀, hc.trans hc₀⟩

/-- The transport part captures what `startCaptures` says and changes the transport state only.
Kind: L -/
theorem startTransport_eq_ok {m : TransportManager} {t t' : Lifecycle} {generation captured : ℕ}
    (h : t.startTransport sign env generation m = .ok (captured, t')) :
    captured = (m.current.map TransportGeneration.generation).getD generation ∧
      t'.generation = t.generation ∧ t'.discoveries = t.discoveries ∧ t'.workers = t.workers := by
  unfold startTransport at h
  cases hm : m.current with
  | none =>
      simp only [hm, Except.bind_eq_ok, Except.pure_eq_ok, Prod.mk.injEq] at h
      obtain ⟨_, _, _, _, rfl, rfl⟩ := h
      exact ⟨rfl, rfl, rfl, rfl⟩
  | some current =>
      simp only [hm] at h
      obtain ⟨legacy, _, h⟩ := Except.bind_eq_ok.mp h
      have hend : ∀ x : Except PyError String, (do
          let fingerprint ← x
          raiseIf (current.fingerprint ≠ fingerprint)
            ⟨.transportState, "TLS material does not match trusted generation"⟩
          return (current.generation, t)) = Except.ok (captured, t') →
            current.generation = captured ∧ t = t' := by
        intro x hx
        simp only [Except.bind_eq_ok, Except.pure_eq_ok, Prod.mk.injEq] at hx
        obtain ⟨_, _, _, _, hx⟩ := hx
        exact hx
      split at h
      · obtain ⟨rfl, rfl⟩ := hend _ h
        exact ⟨rfl, rfl, rfl, rfl⟩
      · obtain ⟨rfl, rfl⟩ := hend _ h
        exact ⟨rfl, rfl, rfl, rfl⟩

/-- What `_start_discovery` makes of the records.  Kind: L -/
theorem startDiscovery_spec {t : Lifecycle} {captured : ℕ} (hg : t.generation = s.generation + 1)
    (hd : t.discoveries = s.discoveries) (hw : t.workers = s.workers)
    (hc : captured = s.startCaptures) :
    StartSpec s (t.startDiscovery discoveryEnabled env captured) := by
  subst hc
  unfold startDiscovery
  split
  · split
    · exact ⟨hg, .inl hd, .inl (hw ▸ Inherited.refl _)⟩
    · rename_i running _
      cases running with
      | true =>
          refine ⟨hg, .inr ⟨rfl, ?_⟩, .inr ⟨rfl, ?_, ?_⟩⟩
          · simp [startExpiryWorker, hg, hd]
          · simp [startExpiryWorker, hd]
          · simp [startExpiryWorker, hg, hw]
      | false =>
          refine ⟨hg, .inr ⟨rfl, ?_⟩, .inl ?_⟩
          · simp [hg, hd]
          · exact hw ▸ Inherited.refl _
  · exact ⟨hg, .inl hd, .inl (hw ▸ Inherited.refl _)⟩

/-- Everything a start can do.  Kind: L -/
theorem start_cases (discoveryEnabled : Bool) (sign : ℕ → String → String) (env : StartEnv)
    (s : Lifecycle) : (s.state = .started ∧ s.start discoveryEnabled sign env = s) ∨
    (s.state ≠ .started ∧ StartSpec s (s.start discoveryEnabled sign env)) := by
  unfold start
  split
  · rename_i hs
    exact .inl ⟨hs, rfl⟩
  · rename_i hs
    refine .inr ⟨hs, ?_⟩
    dsimp only
    split
    · exact StartSpec.of_clearComponents _ rfl rfl (Inherited.refl _)
    · unfold startComponents
      split
      · exact StartSpec.of_clearComponents _ rfl rfl (Inherited.refl _)
      · rename_i captured t ht
        obtain ⟨hc, hg, hd, hw⟩ := startTransport_eq_ok ht
        have hcap : captured = s.startCaptures := by
          rw [hc]
          unfold startCaptures TransportManager.load
          cases s.stored <;> rfl
        split
        · exact StartSpec.of_clearComponents _ hg hd (hw ▸ Inherited.refl _)
        · split
          · split
            · exact StartSpec.of_clearComponents _ hg hd (hw ▸ Inherited.refl _)
            · have hcleared := StartSpec.of_clearComponents (s := s) (t := t) .starting hg hd
                (hw ▸ Inherited.refl _)
              refine StartSpec.of_clearComponents _ hg hd ?_
              rcases hcleared.workers with hin | ⟨_, hne, _⟩
              · exact hin
              · exact absurd hd hne
          · exact startDiscovery_spec hg hd hw hcap

/-- `s'` differs from `s` in the transport state at most. -/
def TransportOnly (s s' : Lifecycle) : Prop :=
  ∃ transport stored, s' = { s with transport := transport, stored := stored }

/-- The parts of a rotation write the transport state only.  Kind: L -/
theorem after_prepareRotation (sign : ℕ → String → String) (env : RotateEnv) (s : Lifecycle) :
    TransportOnly s ((prepareRotation sign env).after s) := by
  unfold prepareRotation
  rw [PyM.after_get_bind]
  refine PyM.after_raiseIf_bind (P := TransportOnly s) ⟨_, _, rfl⟩ fun _ => ?_
  split
  · exact ⟨_, _, rfl⟩
  · split
    · exact ⟨_, _, rfl⟩
    · refine PyM.after_ofExcept_bind (P := TransportOnly s) ⟨_, _, rfl⟩ fun _ _ => ?_
      refine PyM.after_ofExcept_bind (P := TransportOnly s) ⟨_, _, rfl⟩ fun _ _ => ?_
      rw [PyM.after_set_bind]
      exact PyM.after_ofExcept_bind (P := TransportOnly s) ⟨_, _, rfl⟩ fun _ _ => ⟨_, _, rfl⟩

/-- `rollback_active` changes the transport alone.  Kind: L -/
theorem after_rollbackActive (fault : Option PyError) (s : Lifecycle) :
    TransportOnly s ((rollbackActive fault).after s) := by
  unfold rollbackActive
  rw [PyM.after_get_bind]
  split
  · exact ⟨_, _, rfl⟩
  · exact PyM.after_ofExcept_bind (P := TransportOnly s) ⟨_, _, rfl⟩ fun _ _ => ⟨_, _, rfl⟩

/-- A discovery event changes the peers alone.  Kind: L -/
theorem onDiscovery_eq (generation : ℕ) (event : DiscoveryEvent) (s : Lifecycle) :
    ∃ peers, s.onDiscovery generation event = { s with peers := peers } := by
  unfold onDiscovery
  split
  · split
    · split
      · exact ⟨_, rfl⟩
      · exact ⟨_, rfl⟩
    · exact ⟨_, rfl⟩
    · exact ⟨_, rfl⟩
  · exact ⟨_, rfl⟩

end transitions

/-! ## The invariant -/

/-- The worker of the current lifecycle is at work, if it captured its number. -/
def WorkerInv (s : Lifecycle) : Prop :=
  ∀ w ∈ s.workers, w.lifecycle ≤ s.generation ∧
    (w.lifecycle = s.generation → w.captured = w.lifecycle →
      s.started = true ∧ w.stopped = false ∧ w.returned = false)

/-- Every discovery and every worker captured the number of its lifecycle. -/
structure RecordsAligned (s : Lifecycle) : Prop where
  /-- The discoveries. -/
  discoveries : ∀ d ∈ s.discoveries, d.captured = d.lifecycle
  /-- The workers. -/
  workers : ∀ w ∈ s.workers, w.captured = w.lifecycle

/-- Aligned records are fenced.  Kind: L -/
theorem fenced_of_aligned {s : Lifecycle} (ha : RecordsAligned s) (hi : WorkerInv s) :
    Fenced s where
  events := by
    intro d hd
    simp [isCurrent, ha.discoveries d hd]
  workers := by
    intro w hw
    have hc := ha.workers w hw
    simp only [ticks, isCurrent, Bool.and_eq_true, decide_eq_true_eq, hc]
    constructor
    · exact fun h => h.2
    · intro h
      obtain ⟨_, hs, hr⟩ := (hi w hw).2 h.1 hc
      simp [hs, hr, h.1, h.2]

/-- Workers that are only inherited into a later lifecycle keep the invariant.  Kind: L -/
theorem WorkerInv.inherited {s s' : Lifecycle} (h : WorkerInv s)
    (hg : s'.generation = s.generation + 1) (hw : Inherited s.workers s'.workers) :
    WorkerInv s' := by
  intro w' hw'
  obtain ⟨w, hmem, hl, _⟩ := hw w' hw'
  have hle := (h w hmem).1
  refine ⟨by omega, fun heq _ => ?_⟩
  omega

section moves

variable {discoveryEnabled : Bool} {sign : ℕ → String → String} {s : Lifecycle}

/-- A start keeps the worker invariant.  Kind: L -/
theorem WorkerInv.start {env : StartEnv} (h : WorkerInv s) :
    WorkerInv (s.start discoveryEnabled sign env) := by
  rcases start_cases discoveryEnabled sign env s
    with ⟨_, heq⟩ | ⟨_, hspec⟩
  · rw [heq]
    exact h
  · rcases hspec.workers with hin | ⟨hstarted, _, hws⟩
    · exact h.inherited hspec.generation hin
    · intro w hw
      rw [hws] at hw
      rcases List.mem_append.mp hw with hw | hw
      · have hle := (h w hw).1
        have hg := hspec.generation
        refine ⟨by omega, fun heq _ => ?_⟩
        omega
      · rw [List.mem_singleton] at hw
        subst hw
        exact ⟨hspec.generation.ge, fun _ _ => ⟨hstarted, rfl, rfl⟩⟩

/-- A tick keeps the worker invariant.  Kind: L -/
theorem WorkerInv.tick (h : WorkerInv s) (i : ℕ) : WorkerInv (s.tick i) := by
  intro w' hw'
  obtain ⟨w, hw, rfl | rfl⟩ := exists_of_mem_modify hw'
  · exact h _ hw
  · refine ⟨(h w hw).1, fun hl hc => ?_⟩
    obtain ⟨hstarted, hs, hr⟩ := (h w hw).2 hl hc
    have hcap : w.captured = s.generation := hc.trans hl
    refine ⟨hstarted, hs, ?_⟩
    simp [ticks, isCurrent, hs, hr, hcap, hstarted]

/-- One transition keeps the invariant.  Kind: L -/
theorem WorkerInv.apply (h : WorkerInv s) (m : Move) :
    WorkerInv (m.apply discoveryEnabled sign s) := by
  cases m with
  | start env => exact h.start
  | shutdown => exact h.inherited rfl (inherited_stopExpiryWorker _)
  | prepareRotation env =>
      obtain ⟨_, _, heq⟩ := after_prepareRotation sign env s
      simp only [Move.apply, heq]
      exact h
  | rollbackActive fault =>
      obtain ⟨_, _, heq⟩ := after_rollbackActive fault s
      simp only [Move.apply, heq]
      exact h
  | event i ev =>
      simp only [Move.apply]
      split
      · exact h
      · rename_i d _
        obtain ⟨_, heq⟩ := onDiscovery_eq d.captured ev s
        rw [heq]
        exact h
  | tick i => exact h.tick i

/-- The start creates a discovery. -/
def Creates (discoveryEnabled : Bool) (sign : ℕ → String → String) (env : StartEnv)
    (s : Lifecycle) : Prop :=
  (s.start discoveryEnabled sign env).discoveries ≠ s.discoveries

/-- Inherited workers stay aligned.  Kind: L -/
theorem RecordsAligned.inherited_workers {ws : List ExpiryWorker} (h : RecordsAligned s)
    (hw : Inherited s.workers ws) : ∀ w ∈ ws, w.captured = w.lifecycle := by
  intro w' hw'
  obtain ⟨w, hmem, hl, hc⟩ := hw w' hw'
  rw [hl, hc]
  exact h.workers w hmem

/-- Records that are only inherited stay aligned.  Kind: L -/
theorem RecordsAligned.inherited {s' : Lifecycle} (h : RecordsAligned s)
    (hd : s'.discoveries = s.discoveries) (hw : Inherited s.workers s'.workers) :
    RecordsAligned s' :=
  ⟨hd ▸ h.discoveries, h.inherited_workers hw⟩

/-- An aligned start keeps the records aligned.  Kind: L -/
theorem RecordsAligned.start {env : StartEnv} (h : RecordsAligned s)
    (ha : Creates discoveryEnabled sign env s → s.StartAligned) :
    RecordsAligned (s.start discoveryEnabled sign env) := by
  rcases start_cases discoveryEnabled sign env s
    with ⟨_, heq⟩ | ⟨_, hspec⟩
  · rw [heq]
    exact h
  · refine ⟨?_, ?_⟩
    · rcases hspec.discoveries with hd | ⟨_, hd⟩
      · exact hd ▸ h.discoveries
      · intro d hmem
        rw [hd] at hmem
        rcases List.mem_append.mp hmem with hmem | hmem
        · exact h.discoveries d hmem
        · rw [List.mem_singleton] at hmem
          subst hmem
          exact startCaptures_eq_iff.mpr (ha (by simp [Creates, hd]))
    · rcases hspec.workers with hin | ⟨_, hne, hws⟩
      · exact h.inherited_workers hin
      · intro w hmem
        rw [hws] at hmem
        rcases List.mem_append.mp hmem with hmem | hmem
        · exact h.workers w hmem
        · rw [List.mem_singleton] at hmem
          subst hmem
          exact startCaptures_eq_iff.mpr (ha hne)

/-- One transition keeps the records aligned; a start that creates a discovery has to be aligned.
Kind: L -/
theorem RecordsAligned.apply (h : RecordsAligned s) (m : Move)
    (ha : ∀ env, m = .start env → Creates discoveryEnabled sign env s → s.StartAligned) :
    RecordsAligned (m.apply discoveryEnabled sign s) := by
  cases m with
  | start env => exact h.start (ha env rfl)
  | shutdown => exact h.inherited rfl (inherited_stopExpiryWorker _)
  | prepareRotation env =>
      obtain ⟨_, _, heq⟩ := after_prepareRotation sign env s
      simp only [Move.apply, heq]
      exact ⟨h.discoveries, h.workers⟩
  | rollbackActive fault =>
      obtain ⟨_, _, heq⟩ := after_rollbackActive fault s
      simp only [Move.apply, heq]
      exact ⟨h.discoveries, h.workers⟩
  | event i ev =>
      simp only [Move.apply]
      split
      · exact h
      · rename_i d _
        obtain ⟨_, heq⟩ := onDiscovery_eq d.captured ev s
        rw [heq]
        exact ⟨h.discoveries, h.workers⟩
  | tick i =>
      refine h.inherited rfl fun w' hw' => ?_
      obtain ⟨w, hw, rfl | rfl⟩ := exists_of_mem_modify hw'
      · exact ⟨_, hw, rfl, rfl⟩
      · exact ⟨_, hw, rfl, rfl⟩

/-! ## Every state of every run -/

/-- A run and one move more.  Kind: L -/
theorem runMoves_snoc (ms : List Move) (m : Move) :
    runMoves discoveryEnabled sign (ms ++ [m]) s =
      m.apply discoveryEnabled sign (runMoves discoveryEnabled sign ms s) := by
  simp [runMoves]

/-- Along a run whose discovery-creating starts are aligned, everything stays aligned.  Kind: L -/
theorem aligned_run {stored : Option TransportState} {all : List Move}
    (ha : ∀ ms env, ms ++ [.start env] <+: all →
      Creates discoveryEnabled sign env (runMoves discoveryEnabled sign ms (init stored)) →
        (runMoves discoveryEnabled sign ms (init stored)).StartAligned)
    (ms : List Move) (hms : ms <+: all) :
    RecordsAligned (runMoves discoveryEnabled sign ms (init stored)) ∧
      WorkerInv (runMoves discoveryEnabled sign ms (init stored)) := by
  induction ms using List.reverseRecOn with
  | nil =>
      simp only [runMoves, List.foldl_nil]
      exact ⟨⟨by simp [init], by simp [init]⟩, by simp [init, WorkerInv]⟩
  | append_singleton ms m ih =>
      obtain ⟨hal, hinv⟩ := ih ((List.prefix_append ms [m]).trans hms)
      rw [runMoves_snoc]
      refine ⟨hal.apply m ?_, hinv.apply m⟩
      rintro env rfl hcreates
      exact ha ms env hms hcreates

end moves

/-- For every sequence of `start`, `shutdown` and `rotate_transport` on any profile, with events and
ticks in between: in every state it goes through, exactly the current lifecycle's discovery and
worker are accepted, if and only if each start that creates a discovery finds no stored transport
state or one whose current generation has the number of the lifecycle it begins.
Source: `runtime/core.py`, `_start_components`, `_on_discovery` and `_expiry_loop`.  Kind: P -/
theorem fenced_iff_starts_aligned (discoveryEnabled : Bool) (sign : ℕ → String → String)
    (stored : Option TransportState) (ops : List LifecycleOp) :
    (∀ ms, ms <+: opMoves discoveryEnabled sign ops (init stored) →
        Fenced (runMoves discoveryEnabled sign ms (init stored))) ↔
      ∀ ms env, ms ++ [.start env] <+: opMoves discoveryEnabled sign ops (init stored) →
        Creates discoveryEnabled sign env (runMoves discoveryEnabled sign ms (init stored)) →
          (runMoves discoveryEnabled sign ms (init stored)).StartAligned := by
  constructor
  · intro h ms env hms hcreates
    -- right after the start its discovery is that of the current lifecycle
    have hf := h _ hms
    rw [runMoves_snoc] at hf
    generalize runMoves discoveryEnabled sign ms (init stored) = s at hf hcreates
    rcases start_cases discoveryEnabled sign env s
      with ⟨_, heq⟩ | ⟨_, hspec⟩
    · exact absurd (congrArg discoveries heq) hcreates
    · rcases hspec.discoveries with hd | ⟨hstarted, hd⟩
      · exact absurd hd hcreates
      · have hmem : (⟨s.generation + 1, s.startCaptures⟩ : Discovery) ∈
            (s.start discoveryEnabled sign env).discoveries := by
          rw [hd]
          simp
        have hcur := (hf.events _ hmem).mpr ⟨hspec.generation.symm, hstarted⟩
        simp only [isCurrent, Bool.and_eq_true, decide_eq_true_eq] at hcur
        exact startCaptures_eq_iff.mp (hcur.1.trans hspec.generation)
  · intro h ms hms
    obtain ⟨hal, hinv⟩ := aligned_run h ms hms
    exact fenced_of_aligned hal hinv

/-- Everything works, and the TLS material is the same each time. -/
def smoothStart : StartEnv := ⟨none, fun _ => .ok "fingerprint", none, none, none, some true⟩

/-- Start, shutdown, start: the second discovery captured the transport generation 1 and belongs to
lifecycle 3, so that its events are ignored. -/
theorem restart_ignores_its_discovery :
    ¬∀ (sign : ℕ → String → String) (stored : Option TransportState) (ops : List LifecycleOp)
        (ms : List Move), ms <+: opMoves true sign ops (init stored) →
      Fenced (runMoves true sign ms (init stored)) := by
  intro h
  have hf := h (fun _ fingerprint => fingerprint) none
    [.start smoothStart, .shutdown, .start smoothStart]
    [.start smoothStart, .shutdown, .start smoothStart] (List.prefix_refl _)
  have hcur := (hf.events ⟨3, 1⟩ (by decide)).mpr (by decide)
  revert hcur
  decide

end Lifecycle

end ExpraConnect
