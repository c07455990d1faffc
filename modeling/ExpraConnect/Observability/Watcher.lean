import ExpraConnect.Lib.Dict
import ExpraConnect.Lib.Text
import ExpraConnect.Observability.Samples

/-!
# The observability watcher

`observability.py`, `ObservabilityWatcher`: a table of metrics by target, a table of tokens for the
operations that are in flight, and the calls that keep them.

* `Metric`, `ObservationToken`, `ObservabilityWatcher`: the data, with the limits that the
  constructor checked;
* `begin`, `finish`, `record`, `recordEvent`, `snapshot`, `reset`: the calls, as stateful
  code; readings of the clocks are arguments;
* `finish_cases`, `record_cases`, `recordEvent_cases`, `begin_cases`: what a call leaves.

A token that a caller presents is an arbitrary one: the watcher compares it with the one it keeps.
-/

namespace ExpraConnect

open ExpraConnect.Lib

/-! ## Data -/

/-- Source: `observability.py`, `Outcome`.  Kind: D -/
inductive Outcome where
  | success | failure | cancelled
  deriving DecidableEq

/-- Source: `observability.py`, `ObservationToken`.  Kind: D -/
structure ObservationToken where
  /-- `target` -/
  target : String
  /-- `started` -/
  started : PyFloat
  /-- `identifier` -/
  identifier : ℤ
  /-- `watcher_id`, the identity of an object. -/
  watcherId : ℕ
  /-- `tracked` -/
  tracked : Bool
  deriving DecidableEq

/-- Source: `observability.py`, `_Metric`.  Kind: D -/
structure Metric where
  /-- `samples`, oldest first. -/
  samples : List ℚ
  /-- `count` -/
  count : ℕ
  /-- `successes` -/
  successes : ℕ
  /-- `failures` -/
  failures : ℕ
  /-- `cancellations` -/
  cancellations : ℕ
  /-- `in_flight` -/
  inFlight : ℤ
  /-- `peak_in_flight` -/
  peakInFlight : ℤ
  /-- `last_error` -/
  lastError : Option String
  /-- `coalesced` -/
  coalesced : ℕ
  /-- `stale` -/
  stale : ℕ
  /-- `rejected` -/
  rejected : ℕ
  /-- `events` -/
  events : Dict String ℕ
  deriving DecidableEq

/-- The arguments of the constructor that it checks.
Source: `observability.py`, `ObservabilityWatcher.__init__`.  Kind: D -/
structure WatcherLimits where
  /-- `sample_limit` -/
  sampleLimit : ℕ
  /-- `max_targets` -/
  maxTargets : ℕ
  /-- `max_active` -/
  maxActive : ℕ
  /-- They are positive. -/
  positive : 0 < sampleLimit ∧ 0 < maxTargets ∧ 0 < maxActive
  deriving DecidableEq

/-- Source: `observability.py`, `ObservabilityWatcher`.  Kind: D -/
structure ObservabilityWatcher where
  /-- `_sample_limit`, `_max_targets` and `_max_active` -/
  limits : WatcherLimits
  /-- `_session_started_at` -/
  sessionStartedAt : ℚ
  /-- `_metrics` -/
  metrics : Dict String Metric
  /-- `_active_tokens` -/
  activeTokens : Dict ℤ ObservationToken
  /-- `_next_token` -/
  nextToken : ℤ
  /-- `_watcher_id` -/
  watcherId : ℕ
  deriving DecidableEq

/-! ## Checks -/

/-- Source: `observability.py`, `_require_finite_clock`.  Kind: D -/
def requireFiniteClock (value : PyFloat) (name : String) : Except PyError ℚ :=
  match value with
  | .finite q => .ok q
  | _ => .error ⟨.value, name ++ " returned a non-finite value"⟩

/-- Source: `observability.py`, `_validate_target`, on a text.  Kind: D -/
def validateTarget (target : String) : Except PyError Unit := do
  raiseIf (Text.isBlank target) ⟨.value, "target must be non-empty"⟩
  raiseIf (160 < target.length) ⟨.value, "target must be at most 160 characters"⟩

/-- `math.isfinite(duration) and duration >= 0`, as the number.
Source: `observability.py`, `_validate_duration`.  Kind: D -/
def validateDuration (duration : Value) : Except PyError ℚ :=
  match duration with
  | .bool b => .ok (if b then 1 else 0)
  | .int _ | .float _ => do
      match ← duration.finite? with
      | some q =>
          raiseIf (q < 0) ⟨.value, "duration_seconds must be finite and non-negative"⟩
          return q
      | none => throw ⟨.value, "duration_seconds must be finite and non-negative"⟩
  | _ => .error ⟨.type, "must be real number"⟩

/-- Source: `observability.py`, `_validate_outcome`.  Kind: D -/
def validateOutcome (outcome : String) : Except PyError Outcome :=
  if outcome = "success" then .ok .success
  else if outcome = "failure" then .ok .failure
  else if outcome = "cancelled" then .ok .cancelled
  else .error ⟨.value, "invalid outcome: " ++ outcome⟩

/-- `_EVENT_KINDS`. -/
def eventKinds : List String :=
  ["request", "commit", "failure", "coalesced", "stale", "rejected", "cache_hit"]

/-- Source: `observability.py`, `_sanitize_detail`, of a text.  Kind: D -/
def sanitizeDetail (detail : Option String) : Option String :=
  match detail with
  | none => none
  | some text => if text = "" then none else some (String.ofList (text.toList.take 160))

/-- `a - b` of floats. -/
def PyFloat.sub : PyFloat → PyFloat → PyFloat
  | .finite a, .finite b => .finite (a - b)
  | .nan, _ | _, .nan | .posInf, .posInf | .negInf, .negInf => .nan
  | .posInf, _ | _, .negInf => .posInf
  | .negInf, _ | _, .posInf => .negInf

/-! ## Metrics -/

namespace Metric

/-- `_Metric(deque(maxlen=...))`. -/
def new : Metric := ⟨[], 0, 0, 0, 0, 0, 0, none, 0, 0, 0, Dict.empty⟩

/-- `samples.append(duration)` of a `deque` with a bound: the oldest items are dropped. -/
def appendSample (limit : ℕ) (samples : List ℚ) (duration : ℚ) : List ℚ :=
  (samples ++ [duration]).drop ((samples ++ [duration]).length - limit)

/-- Source: `observability.py`, `_record_locked`.  Kind: D -/
def recordLocked (limit : ℕ) (m : Metric) (duration : ℚ) (outcome : Outcome)
    (detailText : Option String) : Metric :=
  let m := { m with count := m.count + 1, samples := appendSample limit m.samples duration }
  match outcome with
  | .success => { m with successes := m.successes + 1 }
  | .failure =>
      { m with failures := m.failures + 1, lastError := some (detailText.getD "failure") }
  | .cancelled => { m with cancellations := m.cancellations + 1 }

/-- The part of `record_event` that changes a metric.
Source: `observability.py`, `record_event`.  Kind: D -/
def countEvent (m : Metric) (event : String) : Metric :=
  let m := { m with events := m.events.insert event ((m.events.get? event).getD 0 + 1) }
  if event = "coalesced" then { m with coalesced := m.coalesced + 1 }
  else if event = "stale" then { m with stale := m.stale + 1 }
  else if event = "rejected" then { m with rejected := m.rejected + 1 }
  else m

end Metric

/-! ## Calls -/

/-- Source: `observability.py`, `MetricSnapshot`.  Kind: D -/
structure MetricSnapshot where
  /-- `target` -/
  target : String
  /-- The counters of the metric, `in_flight`, `peak_in_flight`, `samples` and `last_error`. -/
  metric : Metric
  /-- `events`, in the order of their names. -/
  events : List (String × ℕ)
  /-- `distribution`, empty without samples. -/
  distribution : Option Distribution

/-- Source: `observability.py`, `ObservabilitySnapshot`.  Kind: D -/
structure ObservabilitySnapshot where
  /-- `session_started_at` -/
  sessionStartedAt : ℚ
  /-- `captured_at` -/
  capturedAt : ℚ
  /-- `duration_seconds` -/
  durationSeconds : ℚ
  /-- `metrics` -/
  metrics : List MetricSnapshot

namespace ObservabilityWatcher

/-- `ObservabilityWatcher(...)`; the wall clock reads `started`.
Source: `observability.py`, `ObservabilityWatcher.__init__`.  Kind: D -/
def new (limits : WatcherLimits) (watcherId : ℕ) (started : PyFloat) :
    Except PyError ObservabilityWatcher := do
  let started ← requireFiniteClock started "wall_clock"
  return ⟨limits, started, Dict.empty, Dict.empty, 0, watcherId⟩

/-- Source: `observability.py`, `_get_or_create_metric`.  Kind: D -/
def getOrCreateMetric (target : String) : PyM ObservabilityWatcher (Option Metric) := do
  let w ← get
  match w.metrics.get? target with
  | some metric => return some metric
  | none =>
      if w.limits.maxTargets ≤ w.metrics.size then return none
      else
        set { w with metrics := w.metrics.insert target Metric.new }
        return some Metric.new

/-- The metric of a target has changed. -/
def setMetric (target : String) (metric : Metric) : PyM ObservabilityWatcher Unit :=
  modify fun w => { w with metrics := w.metrics.insert target metric }

/-- `begin(target)`, when the clock reads `clock`.
Source: `observability.py`, `ObservabilityWatcher.begin`.  Kind: D -/
def begin (target : String) (clock : PyFloat) : PyM ObservabilityWatcher ObservationToken := do
  PyM.ofExcept (validateTarget target)
  let started ← PyM.ofExcept (requireFiniteClock clock "clock")
  let metric ← getOrCreateMetric target
  modify fun w => { w with nextToken := w.nextToken + 1 }
  let w ← get
  let tracked := decide (w.activeTokens.size < w.limits.maxActive)
  if tracked then
    match metric with
    | none => pure ()
    | some metric =>
        setMetric target { metric with
          inFlight := metric.inFlight + 1
          peakInFlight := max metric.peakInFlight (metric.inFlight + 1) }
  let token : ObservationToken := ⟨target, .finite started, w.nextToken, w.watcherId, tracked⟩
  if tracked then
    modify fun w => { w with activeTokens := w.activeTokens.insert token.identifier token }
  return token

/-- `finish(token, outcome=..., duration_seconds=..., detail=...)`, when the clock reads `clock`.
Source: `observability.py`, `ObservabilityWatcher.finish`.  Kind: D -/
def finish (token : ObservationToken) (clock : PyFloat) (outcome : String)
    (duration : Option Value) (detail : Option String) : PyM ObservabilityWatcher Unit := do
  let duration := duration.getD (.float (clock.sub token.started))
  let detailText := sanitizeDetail detail
  let w ← get
  if w.activeTokens.get? token.identifier ≠ some token then
    if !token.tracked then return
    else throw ⟨.value, "observation token was already finished"⟩
  else
    let duration ← PyM.ofExcept (validateDuration duration)
    let outcome ← PyM.ofExcept (validateOutcome outcome)
    modify fun w => { w with activeTokens := w.activeTokens.erase token.identifier }
    match ← getOrCreateMetric token.target with
    | none => return
    | some metric =>
        let metric := { metric with inFlight := metric.inFlight - 1 }
        setMetric token.target (metric.recordLocked w.limits.sampleLimit duration outcome detailText)

/-- `record(target, duration_seconds, outcome=..., detail=...)`.
Source: `observability.py`, `ObservabilityWatcher.record`.  Kind: D -/
def record (target : String) (duration : Value) (outcome : String) (detail : Option String) :
    PyM ObservabilityWatcher Unit := do
  PyM.ofExcept (validateTarget target)
  let duration ← PyM.ofExcept (validateDuration duration)
  let outcome ← PyM.ofExcept (validateOutcome outcome)
  let detailText := sanitizeDetail detail
  let w ← get
  match ← getOrCreateMetric target with
  | none => return
  | some metric =>
      setMetric target (metric.recordLocked w.limits.sampleLimit duration outcome detailText)

/-- `record_event(target, event)`.
Source: `observability.py`, `ObservabilityWatcher.record_event`.  Kind: D -/
def recordEvent (target event : String) : PyM ObservabilityWatcher Unit := do
  PyM.ofExcept (validateTarget target)
  raiseIf (event ∉ eventKinds) ⟨.value, "invalid event: " ++ event⟩
  match ← getOrCreateMetric target with
  | none => return
  | some metric => setMetric target (metric.countEvent event)

/-- Source: `observability.py`, `_snapshot_metric`.  Kind: D -/
def snapshotMetric (target : String) (metric : Metric) : Except PyError MetricSnapshot := do
  let distribution ←
    if metric.samples = [] then pure none
    else some <$> summarizeSamples (metric.samples.map .finite)
  return ⟨target, metric, metric.events.entries.insertionSort fun p q => p.1 ≤ q.1, distribution⟩

/-- `snapshot()`, when the wall clock reads `wallClock`.
Source: `observability.py`, `ObservabilityWatcher.snapshot`.  Kind: D -/
def snapshot (wallClock : PyFloat) : PyM ObservabilityWatcher ObservabilitySnapshot := do
  let w ← get
  let metrics ← PyM.ofExcept <|
    (w.metrics.entries.insertionSort fun p q => p.1 ≤ q.1).mapM fun p => snapshotMetric p.1 p.2
  let captured ← PyM.ofExcept (requireFiniteClock wallClock "wall_clock")
  return ⟨w.sessionStartedAt, captured, max (captured - w.sessionStartedAt) 0, metrics⟩

/-- `reset()`, when the wall clock reads `wallClock`.
Source: `observability.py`, `ObservabilityWatcher.reset`.  Kind: D -/
def reset (wallClock : PyFloat) : PyM ObservabilityWatcher Unit := do
  let started ← PyM.ofExcept (requireFiniteClock wallClock "wall_clock")
  modify fun w => { w with
    metrics := Dict.empty
    activeTokens := Dict.empty
    sessionStartedAt := started }

end ObservabilityWatcher

/-! ## What a call leaves -/

namespace ObservabilityWatcher

variable {w : ObservabilityWatcher} {target : String}

/-- The target has a metric, or there is room for one. -/
def hasRoom (w : ObservabilityWatcher) (target : String) : Prop :=
  (w.metrics.get? target).isSome = true ∨ w.metrics.size < w.limits.maxTargets

instance (w : ObservabilityWatcher) (target : String) : Decidable (w.hasRoom target) :=
  inferInstanceAs (Decidable (_ ∨ _))

/-- The metric of a target, a new one if it has none. -/
def metricOf (w : ObservabilityWatcher) (target : String) : Metric :=
  (w.metrics.get? target).getD Metric.new

/-- A change of the metric of a target, which is dropped without room. -/
def updateMetric (w : ObservabilityWatcher) (target : String) (f : Metric → Metric) :
    ObservabilityWatcher :=
  if w.hasRoom target then
    { w with metrics := w.metrics.insert target (f (w.metricOf target)) }
  else w

/-- The number of active tokens of a target. -/
def activeOf (w : ObservabilityWatcher) (target : String) : ℕ :=
  w.activeTokens.values.countP fun token => token.target = target

/-- The tokens have no part in it.  Kind: L -/
theorem updateMetric_tokens (w : ObservabilityWatcher) (target : String) (f : Metric → Metric)
    (next : ℤ) (tokens : Dict ℤ ObservationToken) :
    updateMetric { w with nextToken := next, activeTokens := tokens } target f =
      { w.updateMetric target f with nextToken := next, activeTokens := tokens } := by
  have hsame : hasRoom { w with nextToken := next, activeTokens := tokens } target =
      w.hasRoom target := rfl
  unfold updateMetric
  by_cases hroom : w.hasRoom target
  · rw [if_pos hroom, if_pos (hsame.symm ▸ hroom)]
    rfl
  · rw [if_neg hroom, if_neg (hsame.symm ▸ hroom)]

/-- A metric is returned if and only if there is room for it.  Kind: L -/
theorem getOrCreateMetric_apply (target : String) (w : ObservabilityWatcher) :
    getOrCreateMetric target w =
      if w.hasRoom target then .ok (some (w.metricOf target)) (w.updateMetric target id)
      else .ok none w := by
  unfold getOrCreateMetric updateMetric
  rw [PyM.bind_apply, PyM.get_apply]
  dsimp only
  cases hget : w.metrics.get? target with
  | some metric =>
      have hroom : w.hasRoom target := .inl (by rw [hget]; rfl)
      rw [if_pos hroom, if_pos hroom]
      simp [metricOf, hget, Dict.insert_of_get? hget, PyM.pure_apply]
  | none =>
      by_cases hfull : w.limits.maxTargets ≤ w.metrics.size
      · have hroom : ¬w.hasRoom target := by
          rintro (hsome | hlt)
          · rw [hget] at hsome
            cases hsome
          · omega
        rw [if_neg hroom]
        simp [hfull, PyM.pure_apply]
      · have hroom : w.hasRoom target := .inr (by omega)
        rw [if_pos hroom, if_pos hroom]
        simp [hfull, metricOf, hget, PyM.bind_apply, PyM.set_apply, PyM.pure_apply]

/-- Look a metric up and change it.  Kind: L -/
theorem changeMetric_apply (f : Metric → Metric) (target : String) (w : ObservabilityWatcher) :
    (getOrCreateMetric target >>= fun metric =>
      match metric with
      | none => pure ()
      | some metric => setMetric target (f metric)) w = .ok () (w.updateMetric target f) := by
  rw [PyM.bind_apply, getOrCreateMetric_apply]
  by_cases hroom : w.hasRoom target
  · rw [if_pos hroom]
    simp [setMetric, PyM.modify_apply, updateMetric, if_pos hroom]
  · rw [if_neg hroom]
    simp [PyM.pure_apply, updateMetric, if_neg hroom]

/-- What `finish` does to a metric. -/
def finished (limit : ℕ) (duration : ℚ) (outcome : Outcome) (detail : Option String) (m : Metric) :
    Metric :=
  { m with inFlight := m.inFlight - 1 }.recordLocked limit duration outcome (sanitizeDetail detail)

/-- `finish` of a token that is not active returns or raises, and does nothing else; of an active
token it raises before anything has changed, or deletes the token and counts it.  Kind: L -/
theorem finish_cases (token : ObservationToken) (clock : PyFloat) (outcome : String)
    (duration : Option Value) (detail : Option String) (w : ObservabilityWatcher) :
    (∃ e, finish token clock outcome duration detail w = .error e w) ∨
      (w.activeTokens.get? token.identifier ≠ some token ∧
        finish token clock outcome duration detail w = .ok () w) ∨
      ∃ d o, w.activeTokens.get? token.identifier = some token ∧
        validateDuration (duration.getD (.float (clock.sub token.started))) = .ok d ∧
        validateOutcome outcome = .ok o ∧
        finish token clock outcome duration detail w =
          .ok () (updateMetric { w with activeTokens := w.activeTokens.erase token.identifier }
            token.target (finished w.limits.sampleLimit d o detail)) := by
  unfold finish
  dsimp only
  rw [PyM.bind_apply, PyM.get_apply]
  dsimp only
  by_cases hactive : w.activeTokens.get? token.identifier = some token
  · rw [if_neg (not_not.mpr hactive)]
    cases hd : validateDuration (duration.getD (.float (clock.sub token.started))) with
    | error e =>
        refine .inl ⟨e, ?_⟩
        rw [PyM.bind_apply, PyM.ofExcept_apply]
    | ok d =>
        cases ho : validateOutcome outcome with
        | error e =>
            refine .inl ⟨e, ?_⟩
            rw [PyM.bind_apply, PyM.ofExcept_apply]
            dsimp only
            rw [PyM.bind_apply, PyM.ofExcept_apply]
        | ok o =>
            refine .inr (.inr ⟨d, o, hactive, rfl, rfl, ?_⟩)
            rw [PyM.bind_apply, PyM.ofExcept_apply]
            dsimp only
            rw [PyM.bind_apply, PyM.ofExcept_apply]
            dsimp only
            rw [PyM.bind_apply, PyM.modify_apply]
            exact changeMetric_apply _ _ _
  · rw [if_pos hactive]
    cases token.tracked with
    | true => exact .inl ⟨_, rfl⟩
    | false => exact .inr (.inl ⟨hactive, rfl⟩)

/-- `record` raises before anything has changed, or counts the duration.  Kind: L -/
theorem record_cases (target : String) (duration : Value) (outcome : String)
    (detail : Option String) (w : ObservabilityWatcher) :
    (∃ e, record target duration outcome detail w = .error e w) ∨
      ∃ u d o, validateTarget target = .ok u ∧ validateDuration duration = .ok d ∧
        validateOutcome outcome = .ok o ∧
        record target duration outcome detail w = .ok () (w.updateMetric target fun m =>
          m.recordLocked w.limits.sampleLimit d o (sanitizeDetail detail)) := by
  unfold record
  cases ht : validateTarget target with
  | error e =>
      refine .inl ⟨e, ?_⟩
      rw [PyM.bind_apply, PyM.ofExcept_apply]
  | ok u =>
      rw [PyM.bind_apply, PyM.ofExcept_apply]
      dsimp only
      cases hd : validateDuration duration with
      | error e =>
          refine .inl ⟨e, ?_⟩
          rw [PyM.bind_apply, PyM.ofExcept_apply]
      | ok d =>
          rw [PyM.bind_apply, PyM.ofExcept_apply]
          dsimp only
          cases ho : validateOutcome outcome with
          | error e =>
              refine .inl ⟨e, ?_⟩
              rw [PyM.bind_apply, PyM.ofExcept_apply]
          | ok o =>
              refine .inr ⟨u, d, o, rfl, rfl, rfl, ?_⟩
              rw [PyM.bind_apply, PyM.ofExcept_apply]
              dsimp only
              rw [PyM.bind_apply, PyM.get_apply]
              exact changeMetric_apply _ _ _

/-- `record_event` raises before anything has changed, or counts the event.  Kind: L -/
theorem recordEvent_cases (target event : String) (w : ObservabilityWatcher) :
    (∃ e, recordEvent target event w = .error e w) ∨
      recordEvent target event w =
        .ok () (w.updateMetric target fun m => m.countEvent event) := by
  unfold recordEvent
  cases ht : validateTarget target with
  | error e =>
      refine .inl ⟨e, ?_⟩
      rw [PyM.bind_apply, PyM.ofExcept_apply]
  | ok u =>
      rw [PyM.bind_apply, PyM.ofExcept_apply]
      dsimp only
      by_cases hevent : event ∉ eventKinds
      · refine .inl ⟨⟨.value, "invalid event: " ++ event⟩, ?_⟩
        rw [PyM.bind_apply, PyM.raiseIf_apply, if_pos hevent]
      · refine .inr ?_
        rw [PyM.bind_apply, PyM.raiseIf_apply, if_neg hevent]
        exact changeMetric_apply _ _ _

/-- What `begin` does to a metric. -/
def launched (tracked : Bool) (m : Metric) : Metric :=
  if tracked then
    { m with
      inFlight := m.inFlight + 1
      peakInFlight := max m.peakInFlight (m.inFlight + 1) }
  else m

/-- The token that `begin` returns. -/
def issued (w : ObservabilityWatcher) (target : String) (started : ℚ) : ObservationToken :=
  ⟨target, .finite started, w.nextToken + 1, w.watcherId,
    decide (w.activeTokens.size < w.limits.maxActive)⟩

/-- `begin` raises before anything has changed, or issues a token, which is active if it is
tracked, and counts it.  Kind: L -/
theorem begin_cases (target : String) (clock : PyFloat) (w : ObservabilityWatcher) :
    (∃ e, begin target clock w = .error e w) ∨
      ∃ started token, w.issued target started = token ∧
        begin target clock w = .ok token (updateMetric { w with
          nextToken := w.nextToken + 1
          activeTokens := if token.tracked then w.activeTokens.insert token.identifier token
            else w.activeTokens } target (launched token.tracked)) := by
  unfold begin
  cases ht : validateTarget target with
  | error e =>
      refine .inl ⟨e, ?_⟩
      rw [PyM.bind_apply, PyM.ofExcept_apply]
  | ok u =>
      rw [PyM.bind_apply, PyM.ofExcept_apply]
      dsimp only
      cases hclock : requireFiniteClock clock "clock" with
      | error e =>
          refine .inl ⟨e, ?_⟩
          rw [PyM.bind_apply, PyM.ofExcept_apply]
      | ok started =>
          refine .inr ⟨started, _, rfl, ?_⟩
          rw [PyM.bind_apply, PyM.ofExcept_apply]
          dsimp only
          rw [PyM.bind_apply, getOrCreateMetric_apply]
          have hissued : w.issued target started = ⟨target, .finite started, w.nextToken + 1,
              w.watcherId, decide (w.activeTokens.size < w.limits.maxActive)⟩ := rfl
          rw [updateMetric_tokens w target (launched _)]
          by_cases hroom : w.hasRoom target
          · rw [if_pos hroom, updateMetric, if_pos hroom, updateMetric, if_pos hroom]
            by_cases htracked : w.activeTokens.size < w.limits.maxActive
            · rw [decide_eq_true htracked] at hissued
              rw [hissued]
              simp [PyM.bind_apply, PyM.modify_apply, PyM.get_apply, setMetric, launched, htracked]
              rfl
            · rw [decide_eq_false htracked] at hissued
              rw [hissued]
              simp [PyM.bind_apply, PyM.modify_apply, PyM.get_apply, PyM.pure_apply,
                launched, htracked]
          · rw [if_neg hroom, updateMetric, if_neg hroom]
            by_cases htracked : w.activeTokens.size < w.limits.maxActive
            · rw [decide_eq_true htracked] at hissued
              rw [hissued]
              simp [PyM.bind_apply, PyM.modify_apply, PyM.get_apply, htracked]
              rfl
            · rw [decide_eq_false htracked] at hissued
              rw [hissued]
              simp [PyM.bind_apply, PyM.modify_apply, PyM.get_apply, PyM.pure_apply, htracked]

/-- `snapshot` only reads.  Kind: L -/
theorem snapshot_cases (wallClock : PyFloat) (w : ObservabilityWatcher) :
    (∃ e, snapshot wallClock w = .error e w) ∨ ∃ taken, snapshot wallClock w = .ok taken w := by
  unfold snapshot
  rw [PyM.bind_apply, PyM.get_apply]
  dsimp only
  rw [PyM.bind_apply, PyM.ofExcept_apply]
  rcases List.mapM _ _ with e | metrics
  · exact .inl ⟨e, rfl⟩
  · dsimp only
    rw [PyM.bind_apply, PyM.ofExcept_apply]
    rcases requireFiniteClock wallClock "wall_clock" with e | captured
    · exact .inl ⟨e, rfl⟩
    · exact .inr ⟨_, rfl⟩

/-- `reset` raises before anything has changed, or clears both tables.  Kind: L -/
theorem reset_cases (wallClock : PyFloat) (w : ObservabilityWatcher) :
    (∃ e, reset wallClock w = .error e w) ∨
      ∃ started, reset wallClock w =
        .ok () ⟨w.limits, started, Dict.empty, Dict.empty, w.nextToken, w.watcherId⟩ := by
  unfold reset
  rw [PyM.bind_apply, PyM.ofExcept_apply]
  rcases requireFiniteClock wallClock "wall_clock" with e | started
  · exact .inl ⟨e, rfl⟩
  · exact .inr ⟨started, rfl⟩

end ObservabilityWatcher

end ExpraConnect
