import Mathlib.Data.List.DropRight
import ExpraConnect.Observability.Watcher

/-!
# What a watcher counts

A run of calls of an `ObservabilityWatcher`, with the durations it recorded since the last reset.

* `Metric.Accounts`: a metric agrees with the number of active tokens of its target and with the
  durations recorded for it;
* `Observation.Conserved`: every target that has a metric, or could get one, is accounted for, and
  the tables keep their limits;
* `Observation.Conserved.step`, `Observation.Conserved.run`: one call keeps it, and so does a run;
* `WatcherCall.change`, `WatcherCall.get?_of_run`: which metric a call creates or changes.
-/

namespace ExpraConnect

open ExpraConnect.Lib

/-! ## Runs -/

/-- The calls of a watcher, with the readings of its clocks. -/
inductive WatcherCall where
  | begin (target : String) (clock : PyFloat)
  | finish (token : ObservationToken) (clock : PyFloat) (outcome : String)
      (duration : Option Value) (detail : Option String)
  | record (target : String) (duration : Value) (outcome : String) (detail : Option String)
  | recordEvent (target event : String)
  | snapshot (wallClock : PyFloat)
  | reset (wallClock : PyFloat)

namespace WatcherCall

/-- The call, without what it returns. -/
def run : WatcherCall → PyM ObservabilityWatcher Unit
  | .begin target clock => do let _ ← ObservabilityWatcher.begin target clock
  | .finish token clock outcome duration detail =>
      ObservabilityWatcher.finish token clock outcome duration detail
  | .record target duration outcome detail =>
      ObservabilityWatcher.record target duration outcome detail
  | .recordEvent target event => ObservabilityWatcher.recordEvent target event
  | .snapshot wallClock => do let _ ← ObservabilityWatcher.snapshot wallClock
  | .reset wallClock => ObservabilityWatcher.reset wallClock

/-- The duration that a call records for a target when it returns: the target has a metric or gets
one. -/
def recorded (w : ObservabilityWatcher) : WatcherCall → List (String × ℚ)
  | .finish token clock _ duration _ =>
      match validateDuration (duration.getD (.float (clock.sub token.started))) with
      | .ok d =>
          if w.activeTokens.get? token.identifier = some token ∧ w.hasRoom token.target then
            [(token.target, d)]
          else []
      | .error _ => []
  | .record target duration _ _ =>
      match validateDuration duration with
      | .ok d => if w.hasRoom target then [(target, d)] else []
      | .error _ => []
  | _ => []

/-- The target whose metric a call changes when it returns, and the change. -/
def change (w : ObservabilityWatcher) : WatcherCall → Option (String × (Metric → Metric))
  | .begin target _ =>
      some (target, ObservabilityWatcher.launched
        (decide (w.activeTokens.size < w.limits.maxActive)))
  | .finish token clock outcome duration detail =>
      if w.activeTokens.get? token.identifier = some token then
        match validateDuration (duration.getD (.float (clock.sub token.started))),
          validateOutcome outcome with
        | .ok d, .ok o =>
            some (token.target, ObservabilityWatcher.finished w.limits.sampleLimit d o detail)
        | _, _ => none
      else none
  | .record target duration outcome detail =>
      match validateDuration duration, validateOutcome outcome with
      | .ok d, .ok o =>
          some (target, fun m => m.recordLocked w.limits.sampleLimit d o (sanitizeDetail detail))
      | _, _ => none
  | .recordEvent target event => some (target, fun m => m.countEvent event)
  | _ => none

/-- What has been recorded in the session after the call has returned. -/
def logged (w : ObservabilityWatcher) (log : List (String × ℚ)) : WatcherCall → List (String × ℚ)
  | .reset _ => []
  | call => log ++ call.recorded w

end WatcherCall

/-- A watcher, and what it has recorded in the session, oldest first. -/
structure Observation where
  /-- The watcher. -/
  watcher : ObservabilityWatcher
  /-- The targets and durations. -/
  log : List (String × ℚ)

/-- The durations recorded for a target. -/
def durationsOf (target : String) (log : List (String × ℚ)) : List ℚ :=
  (log.filter fun p => p.1 = target).map Prod.snd

@[simp] theorem durationsOf_nil (target : String) : durationsOf target [] = [] := rfl

theorem durationsOf_append (target : String) (log more : List (String × ℚ)) :
    durationsOf target (log ++ more) = durationsOf target log ++ durationsOf target more := by
  simp [durationsOf]

/-- A record of the target is one of its durations.  Kind: L -/
@[simp] theorem durationsOf_self (target : String) (d : ℚ) :
    durationsOf target [(target, d)] = [d] := by
  simp [durationsOf]

/-- A record of another target is not.  Kind: L -/
theorem durationsOf_of_ne {target other : String} (h : other ≠ target) (d : ℚ) :
    durationsOf target [(other, d)] = [] := by
  simp [durationsOf, h]

namespace Observation

/-- A call. One that raises records nothing. -/
def step (o : Observation) (call : WatcherCall) : Observation :=
  match call.run o.watcher with
  | .ok _ w => ⟨w, call.logged o.watcher o.log⟩
  | .error _ w => { o with watcher := w }

/-- A sequence of calls. -/
def run (o : Observation) (calls : List WatcherCall) : Observation := calls.foldl step o

end Observation

/-! ## One metric -/

/-- The counters of a metric agree with each other, with the number of active tokens of its target
and with the durations recorded for it. -/
structure Metric.Accounts (m : Metric) (limit active : ℕ) (durations : List ℚ) : Prop where
  inFlight : m.inFlight = active
  peak : m.inFlight ≤ m.peakInFlight
  outcomes : m.count = m.successes + m.failures + m.cancellations
  count : m.count = durations.length
  samples : m.samples = durations.rtake (min m.count limit)

namespace Metric

variable {m : Metric} {limit active : ℕ} {durations : List ℚ}

/-- A new metric accounts for nothing.  Kind: L -/
theorem accounts_new (limit : ℕ) : new.Accounts limit 0 [] :=
  ⟨rfl, le_rfl, rfl, rfl, by simp [new]⟩

/-- Appending to the last `limit` items and keeping the last `limit` is keeping the last `limit`
of all of them.  Kind: L -/
theorem appendSample_rtake (limit : ℕ) (durations : List ℚ) (d : ℚ) :
    appendSample limit (durations.rtake (min durations.length limit)) d =
      (durations ++ [d]).rtake (min (durations.length + 1) limit) := by
  unfold appendSample List.rtake
  set k := durations.length - min durations.length limit with hk
  have hle : k ≤ durations.length := by omega
  rw [← List.drop_append_of_le_length hle, List.drop_drop]
  congr 1
  simp only [List.length_drop, List.length_append, List.length_singleton]
  omega

/-- Recording a duration accounts for it.  Kind: L -/
theorem Accounts.recordLocked (h : m.Accounts limit active durations) (d : ℚ) (o : Outcome)
    (detail : Option String) :
    (m.recordLocked limit d o detail).Accounts limit active (durations ++ [d]) := by
  have hsamples : appendSample limit m.samples d =
      (durations ++ [d]).rtake (min (m.count + 1) limit) := by
    rw [h.samples, h.count]
    exact appendSample_rtake limit durations d
  have hcount : m.count + 1 = (durations ++ [d]).length := by
    rw [h.count, List.length_append, List.length_singleton]
  have houtcomes := h.outcomes
  rcases o with _ | _ | _
  · have hone : m.count + 1 = m.successes + 1 + m.failures + m.cancellations := by omega
    exact ⟨h.inFlight, h.peak, hone, hcount, hsamples⟩
  · have hone : m.count + 1 = m.successes + (m.failures + 1) + m.cancellations := by omega
    exact ⟨h.inFlight, h.peak, hone, hcount, hsamples⟩
  · have hone : m.count + 1 = m.successes + m.failures + (m.cancellations + 1) := by omega
    exact ⟨h.inFlight, h.peak, hone, hcount, hsamples⟩

/-- Counting an event changes no account.  Kind: L -/
theorem Accounts.countEvent (h : m.Accounts limit active durations) (event : String) :
    (m.countEvent event).Accounts limit active durations := by
  unfold Metric.countEvent
  dsimp only
  split_ifs
  all_goals exact ⟨h.inFlight, h.peak, h.outcomes, h.count, h.samples⟩

/-- A tracked token is one more active token of its target.  Kind: L -/
theorem Accounts.launched (h : m.Accounts limit active durations) :
    (ObservabilityWatcher.launched true m).Accounts limit (active + 1) durations := by
  have hone : m.inFlight + 1 = ((active + 1 : ℕ) : ℤ) := by
    rw [h.inFlight]
    push_cast
    rfl
  exact ⟨hone, le_max_right _ _, h.outcomes, h.count, h.samples⟩

/-- A finished token is one less, with one more duration.  Kind: L -/
theorem Accounts.finished (h : m.Accounts limit (active + 1) durations) (d : ℚ) (o : Outcome)
    (detail : Option String) :
    (ObservabilityWatcher.finished limit d o detail m).Accounts limit active
      (durations ++ [d]) := by
  have hinFlight := h.inFlight
  have hpeak := h.peak
  have hone : m.inFlight - 1 = (active : ℤ) := by omega
  have hless : m.inFlight - 1 ≤ m.peakInFlight := by omega
  have hdone : Metric.Accounts { m with inFlight := m.inFlight - 1 } limit active durations :=
    ⟨hone, hless, h.outcomes, h.count, h.samples⟩
  exact hdone.recordLocked d o _

end Metric

/-! ## One update -/

namespace ObservabilityWatcher

variable {w : ObservabilityWatcher} {target t : String} {f : Metric → Metric}

/-- Field lemma: updating a metric leaves `limits` alone.  Kind: L -/
@[simp] theorem updateMetric_limits : (w.updateMetric target f).limits = w.limits := by
  unfold updateMetric
  split_ifs <;> rfl

/-- Field lemma: updating a metric leaves `activeTokens` alone.  Kind: L -/
@[simp] theorem updateMetric_activeTokens :
    (w.updateMetric target f).activeTokens = w.activeTokens := by
  unfold updateMetric
  split_ifs <;> rfl

/-- Field lemma: updating a metric leaves `nextToken` alone.  Kind: L -/
@[simp] theorem updateMetric_nextToken : (w.updateMetric target f).nextToken = w.nextToken := by
  unfold updateMetric
  split_ifs <;> rfl

/-- The metrics after one is updated.  Kind: L -/
theorem get?_updateMetric (t : String) :
    (w.updateMetric target f).metrics.get? t =
      if w.hasRoom target ∧ target = t then some (f (w.metricOf target))
      else w.metrics.get? t := by
  unfold updateMetric
  by_cases hroom : w.hasRoom target
  · by_cases ht : target = t
    · rw [if_pos hroom, if_pos ⟨hroom, ht⟩, Dict.get?_insert, if_pos ht]
    · rw [if_pos hroom, if_neg (fun h => ht h.2), Dict.get?_insert, if_neg ht]
  · rw [if_neg hroom, if_neg fun h => hroom h.1]

/-- Updating adds a metric exactly where there is room for a new one.  Kind: L -/
theorem size_updateMetric :
    (w.updateMetric target f).metrics.size =
      if w.hasRoom target ∧ w.metrics.get? target = none then w.metrics.size + 1
      else w.metrics.size := by
  unfold updateMetric
  by_cases hroom : w.hasRoom target
  · rw [if_pos hroom]
    rcases hget : w.metrics.get? target with _ | metric
    · rw [if_pos ⟨hroom, rfl⟩, Dict.size_insert, hget]
      rfl
    · rw [if_neg (fun h => by cases h.2), Dict.size_insert, hget]
      rfl
  · rw [if_neg hroom, if_neg fun h => hroom h.1]

/-- An update of a metric makes no room.  Kind: L -/
theorem hasRoom_of_updateMetric (h : (w.updateMetric target f).hasRoom t) : w.hasRoom t := by
  rcases h with hsome | hlt
  · rw [get?_updateMetric] at hsome
    by_cases ht : w.hasRoom target ∧ target = t
    · exact ht.2 ▸ ht.1
    · rw [if_neg ht] at hsome
      exact .inl hsome
  · rw [size_updateMetric, updateMetric_limits] at hlt
    split_ifs at hlt
    · exact .inr (by omega)
    · exact .inr hlt

/-- The tables of an update keep their limit.  Kind: L -/
theorem size_updateMetric_le (h : w.metrics.size ≤ w.limits.maxTargets) :
    (w.updateMetric target f).metrics.size ≤ w.limits.maxTargets := by
  rw [size_updateMetric]
  split_ifs with hnew
  · rcases hnew.1 with hsome | hlt
    · rw [hnew.2] at hsome
      cases hsome
    · omega
  · exact h

/-- What is read of the metrics after one is updated.  Kind: L -/
theorem metricOf_updateMetric (hroom : w.hasRoom target) :
    (w.updateMetric target f).metricOf t =
      if target = t then f (w.metricOf target) else w.metricOf t := by
  unfold metricOf
  rw [get?_updateMetric]
  by_cases ht : target = t
  · rw [if_pos ⟨hroom, ht⟩, if_pos ht]
    rfl
  · rw [if_neg (fun h => ht h.2), if_neg ht]

end ObservabilityWatcher

/-! ## Conservation -/

namespace Observation

/-- Every target that has a metric, or could get one, is accounted for; an active token is kept
under its own identifier; the tables keep their limits. -/
structure Conserved (limits : WatcherLimits) (o : Observation) : Prop where
  sameLimits : o.watcher.limits = limits
  accounts : ∀ t, o.watcher.hasRoom t → (o.watcher.metricOf t).Accounts limits.sampleLimit
    (o.watcher.activeOf t) (durationsOf t o.log)
  tokens : ∀ i token, o.watcher.activeTokens.get? i = some token → i ≤ o.watcher.nextToken
  metrics : o.watcher.metrics.size ≤ limits.maxTargets
  active : o.watcher.activeTokens.size ≤ limits.maxActive

variable {limits : WatcherLimits} {o : Observation} {w w' : ObservabilityWatcher}
  {log : List (String × ℚ)}

/-- A watcher without metrics and tokens.  Kind: L -/
theorem conserved_empty (limits : WatcherLimits) (started : ℚ) (next : ℤ) (watcherId : ℕ) :
    Conserved limits ⟨⟨limits, started, Dict.empty, Dict.empty, next, watcherId⟩, []⟩ where
  sameLimits := rfl
  accounts := fun _ _ => Metric.accounts_new limits.sampleLimit
  tokens := fun i token h => by rw [Dict.get?_empty] at h; cases h
  metrics := Nat.zero_le _
  active := Nat.zero_le _

/-- One update, with the tokens and durations that go with it: the metric of the target has to be
right again, and nothing may happen to the other targets.  Kind: L -/
theorem Conserved.update {target : String} {f : Metric → Metric} {more : List (String × ℚ)}
    (h : Conserved limits ⟨w, log⟩) (next : ℤ) (tokens : Dict ℤ ObservationToken)
    (hthis : w.hasRoom target →
      (w.metricOf target).Accounts limits.sampleLimit (w.activeOf target)
        (durationsOf target log) →
      (f (w.metricOf target)).Accounts limits.sampleLimit
        (tokens.values.countP fun token => token.target = target)
        (durationsOf target (log ++ more)))
    (hothers : ∀ t, target ≠ t →
      (tokens.values.countP fun token => token.target = t) = w.activeOf t ∧
        durationsOf t more = [])
    (htokens : ∀ i token, tokens.get? i = some token → i ≤ next)
    (hactive : tokens.size ≤ limits.maxActive) :
    Conserved limits
      ⟨ObservabilityWatcher.updateMetric { w with nextToken := next, activeTokens := tokens } target f,
        log ++ more⟩ where
  sameLimits := by
    rw [ObservabilityWatcher.updateMetric_limits]
    exact h.sameLimits
  accounts := by
    intro t ht
    have hroom : w.hasRoom t := ObservabilityWatcher.hasRoom_of_updateMetric
      (w := { w with nextToken := next, activeTokens := tokens }) ht
    have hcount : ObservabilityWatcher.activeOf (ObservabilityWatcher.updateMetric
        { w with nextToken := next, activeTokens := tokens } target f) t =
          tokens.values.countP fun token => token.target = t := by
      unfold ObservabilityWatcher.activeOf
      rw [ObservabilityWatcher.updateMetric_activeTokens]
    dsimp only
    rw [hcount]
    by_cases hsame : target = t
    · subst hsame
      rw [ObservabilityWatcher.metricOf_updateMetric
        (w := { w with nextToken := next, activeTokens := tokens }) hroom, if_pos rfl]
      exact hthis hroom (h.accounts target hroom)
    · have hother := hothers t hsame
      have hmetric : ObservabilityWatcher.metricOf (ObservabilityWatcher.updateMetric
          { w with nextToken := next, activeTokens := tokens } target f) t = w.metricOf t := by
        unfold ObservabilityWatcher.metricOf
        rw [ObservabilityWatcher.get?_updateMetric, if_neg fun hh => hsame hh.2]
      rw [hmetric, hother.1, durationsOf_append, hother.2, List.append_nil]
      exact h.accounts t hroom
  tokens := by
    intro i token hi
    rw [ObservabilityWatcher.updateMetric_activeTokens] at hi
    rw [ObservabilityWatcher.updateMetric_nextToken]
    exact htokens i token hi
  metrics := by
    have hmetrics := h.metrics
    rw [← h.sameLimits] at hmetrics ⊢
    exact ObservabilityWatcher.size_updateMetric_le
      (w := { w with nextToken := next, activeTokens := tokens }) hmetrics
  active := by
    rw [ObservabilityWatcher.updateMetric_activeTokens]
    exact hactive

/-- `begin`: the new token has a fresh identifier, and counts if it is tracked.  Kind: L -/
theorem Conserved.begin {target : String} {clock : PyFloat} {token : ObservationToken}
    (h : Conserved limits ⟨w, log⟩)
    (hrun : ObservabilityWatcher.begin target clock w = .ok token w') :
    Conserved limits ⟨w', log⟩ := by
  rcases ObservabilityWatcher.begin_cases target clock w with ⟨e, he⟩ | ⟨started, _, hissued, hok⟩
  · rw [he] at hrun
    cases hrun
  rw [hok] at hrun
  cases hrun
  rw [← List.append_nil log]
  have hfresh : w.activeTokens.get? token.identifier = none := by
    by_contra hsome
    obtain ⟨other, hother⟩ := Option.ne_none_iff_exists'.mp hsome
    rw [← hissued] at hother
    have hle : w.nextToken + 1 ≤ w.nextToken := h.tokens _ other hother
    omega
  have htarget : token.target = target := by rw [← hissued]; rfl
  have hidentifier : token.identifier = w.nextToken + 1 := by rw [← hissued]; rfl
  by_cases htracked : w.activeTokens.size < w.limits.maxActive
  · have hyes : token.tracked = true := by rw [← hissued]; exact decide_eq_true htracked
    rw [hyes]
    refine h.update _ _ ?_ ?_ ?_ ?_
    · intro _ hm
      simp only [if_true]
      rw [Dict.countP_values_insert hfresh, List.append_nil,
        if_pos (decide_eq_true htarget)]
      exact hm.launched
    · intro t ht
      simp only [if_true]
      rw [Dict.countP_values_insert hfresh,
        if_neg fun hsame => ht (htarget.symm.trans (of_decide_eq_true hsame))]
      exact ⟨rfl, rfl⟩
    · intro i other hi
      simp only [if_true] at hi
      rw [Dict.get?_insert] at hi
      split_ifs at hi with hself
      · omega
      · have hle : i ≤ w.nextToken := h.tokens i other hi
        omega
    · simp only [if_true]
      have hroom := htracked
      rw [show w.limits = limits from h.sameLimits] at hroom
      rw [Dict.size_insert, hfresh]
      exact hroom
  · have hno : token.tracked = false := by rw [← hissued]; exact decide_eq_false htracked
    rw [hno]
    refine h.update _ _ ?_ ?_ ?_ ?_
    · intro _ hm
      rw [List.append_nil]
      exact hm
    · intro t _
      exact ⟨rfl, rfl⟩
    · intro i other hi
      have hle : i ≤ w.nextToken := h.tokens i other hi
      omega
    · exact h.active

/-- `finish`: the token leaves the table, and its duration is recorded.  Kind: L -/
theorem Conserved.finish {token : ObservationToken} {clock : PyFloat} {outcome : String}
    {duration : Option Value} {detail : Option String} (h : Conserved limits ⟨w, log⟩)
    (hrun : ObservabilityWatcher.finish token clock outcome duration detail w = .ok () w') :
    Conserved limits
      ⟨w', log ++ (WatcherCall.finish token clock outcome duration detail).recorded w⟩ := by
  rcases ObservabilityWatcher.finish_cases token clock outcome duration detail w with
    ⟨e, he⟩ | ⟨hforeign, hok⟩ | ⟨d, o, hactive, hd, -, hok⟩
  · rw [he] at hrun
    cases hrun
  · have hnone : (WatcherCall.finish token clock outcome duration detail).recorded w = [] := by
      simp only [WatcherCall.recorded, hforeign, false_and, if_false]
      split <;> rfl
    rw [hok] at hrun
    cases hrun
    rw [hnone, List.append_nil]
    exact h
  rw [hok] at hrun
  cases hrun
  have hrecorded : (WatcherCall.finish token clock outcome duration detail).recorded w =
      if w.hasRoom token.target then [(token.target, d)] else [] := by
    simp only [WatcherCall.recorded, hd, hactive, true_and]
  have hcount (t : String) := Dict.countP_values_erase hactive fun other => other.target = t
  rw [hrecorded]
  refine h.update _ _ ?_ ?_ ?_ ?_
  · intro hroom hm
    have hone : w.activeOf token.target =
        ((w.activeTokens.erase token.identifier).values.countP fun other =>
          other.target = token.target) + 1 := by
      show w.activeTokens.values.countP _ = _
      rw [hcount token.target, if_pos (decide_eq_true rfl)]
    rw [hone] at hm
    rw [if_pos hroom, durationsOf_append, durationsOf_self]
    show Metric.Accounts _ limits.sampleLimit _ _
    rw [show w.limits = limits from h.sameLimits]
    exact hm.finished d o detail
  · intro t ht
    have hsame : w.activeOf t =
        (w.activeTokens.erase token.identifier).values.countP fun other => other.target = t := by
      show w.activeTokens.values.countP _ = _
      rw [hcount t, if_neg fun hyes => ht (of_decide_eq_true hyes), Nat.add_zero]
    refine ⟨hsame.symm, ?_⟩
    split_ifs
    · exact durationsOf_of_ne ht d
    · rfl
  · intro i other hi
    rw [Dict.get?_erase] at hi
    split_ifs at hi
    exact h.tokens i other hi
  · exact (Dict.size_erase_le _ _).trans h.active

/-- A change that leaves the tokens alone.  Kind: L -/
theorem Conserved.updateMetric {target : String} {f : Metric → Metric}
    {more : List (String × ℚ)} (h : Conserved limits ⟨w, log⟩)
    (hthis : ∀ m active durations, w.hasRoom target →
      Metric.Accounts m limits.sampleLimit active durations →
      (f m).Accounts limits.sampleLimit active (durations ++ durationsOf target more))
    (hothers : ∀ t, target ≠ t → durationsOf t more = []) :
    Conserved limits ⟨w.updateMetric target f, log ++ more⟩ := by
  refine h.update w.nextToken w.activeTokens ?_ ?_ h.tokens h.active
  · intro hroom hm
    rw [durationsOf_append]
    exact hthis _ _ _ hroom hm
  · intro t ht
    exact ⟨rfl, hothers t ht⟩

/-- `record`.  Kind: L -/
theorem Conserved.record {target : String} {duration : Value} {outcome : String}
    {detail : Option String} (h : Conserved limits ⟨w, log⟩)
    (hrun : ObservabilityWatcher.record target duration outcome detail w = .ok () w') :
    Conserved limits ⟨w', log ++ (WatcherCall.record target duration outcome detail).recorded w⟩ := by
  rcases ObservabilityWatcher.record_cases target duration outcome detail w with
    ⟨e, he⟩ | ⟨_, d, o, -, hd, -, hok⟩
  · rw [he] at hrun
    cases hrun
  rw [hok] at hrun
  cases hrun
  have hrecorded : (WatcherCall.record target duration outcome detail).recorded w =
      if w.hasRoom target then [(target, d)] else [] := by
    simp only [WatcherCall.recorded, hd]
  rw [hrecorded]
  apply h.updateMetric
  · intro m active durations hroom hm
    rw [if_pos hroom, durationsOf_self, show w.limits = limits from h.sameLimits]
    exact hm.recordLocked d o _
  · intro t ht
    split_ifs
    · exact durationsOf_of_ne ht d
    · rfl

/-- `record_event`, which records no duration.  Kind: L -/
theorem Conserved.recordEvent {target event : String} (h : Conserved limits ⟨w, log⟩)
    (hrun : ObservabilityWatcher.recordEvent target event w = .ok () w') :
    Conserved limits ⟨w', log⟩ := by
  rcases ObservabilityWatcher.recordEvent_cases target event w with ⟨e, he⟩ | hok
  · rw [he] at hrun
    cases hrun
  rw [hok] at hrun
  cases hrun
  rw [← List.append_nil log]
  apply h.updateMetric
  · intro m active durations _ hm
    rw [durationsOf_nil, List.append_nil]
    exact hm.countEvent event
  · intro t _
    rfl

/-- `reset`, which keeps the last identifier.  Kind: L -/
theorem Conserved.reset {wallClock : PyFloat} (h : Conserved limits ⟨w, log⟩)
    (hrun : ObservabilityWatcher.reset wallClock w = .ok () w') :
    Conserved limits ⟨w', []⟩ := by
  rcases ObservabilityWatcher.reset_cases wallClock w with ⟨e, he⟩ | ⟨started, hok⟩
  · rw [he] at hrun
    cases hrun
  rw [hok] at hrun
  cases hrun
  rw [show w.limits = limits from h.sameLimits]
  exact conserved_empty limits started w.nextToken w.watcherId

end Observation

/-- A call that raises changes nothing.  Kind: L -/
theorem WatcherCall.run_error {call : WatcherCall} {w w' : ObservabilityWatcher} {e : PyError}
    (hrun : call.run w = .error e w') : w' = w := by
  rcases call with ⟨target, clock⟩ | ⟨token, clock, outcome, duration, detail⟩ |
    ⟨target, duration, outcome, detail⟩ | ⟨target, event⟩ | wallClock | wallClock
  · rcases ObservabilityWatcher.begin_cases target clock w with ⟨_, he⟩ | ⟨_, _, -, hok⟩
    · simp only [run, PyM.bind_apply, he] at hrun
      cases hrun
      rfl
    · simp only [run, PyM.bind_apply, hok] at hrun
      cases hrun
  · rcases ObservabilityWatcher.finish_cases token clock outcome duration detail w with
      ⟨_, he⟩ | ⟨-, hok⟩ | ⟨_, _, -, -, -, hok⟩
    · simp only [run, he] at hrun
      cases hrun
      rfl
    · simp only [run, hok] at hrun
      cases hrun
    · simp only [run, hok] at hrun
      cases hrun
  · rcases ObservabilityWatcher.record_cases target duration outcome detail w with
      ⟨_, he⟩ | ⟨_, _, _, -, -, -, hok⟩
    · simp only [run, he] at hrun
      cases hrun
      rfl
    · simp only [run, hok] at hrun
      cases hrun
  · rcases ObservabilityWatcher.recordEvent_cases target event w with ⟨_, he⟩ | hok
    · simp only [run, he] at hrun
      cases hrun
      rfl
    · simp only [run, hok] at hrun
      cases hrun
  · rcases ObservabilityWatcher.snapshot_cases wallClock w with ⟨_, he⟩ | ⟨_, hok⟩
    · simp only [run, PyM.bind_apply, he] at hrun
      cases hrun
      rfl
    · simp only [run, PyM.bind_apply, hok] at hrun
      cases hrun
  · rcases ObservabilityWatcher.reset_cases wallClock w with ⟨_, he⟩ | ⟨_, hok⟩
    · simp only [run, he] at hrun
      cases hrun
      rfl
    · simp only [run, hok] at hrun
      cases hrun

/-- A call that returns changes the metric of its target, which it creates if there is none, unless
there is no room for it; it leaves the other metrics alone.  Kind: L -/
theorem WatcherCall.get?_of_run {call : WatcherCall} {w w' : ObservabilityWatcher}
    (hrun : call.run w = .ok () w') {target : String} {f : Metric → Metric}
    (hchange : call.change w = some (target, f)) (t : String) :
    w'.metrics.get? t =
      if w.hasRoom target ∧ target = t then some (f (w.metricOf target))
      else w.metrics.get? t := by
  rw [← ObservabilityWatcher.get?_updateMetric]
  rcases call with ⟨name, clock⟩ | ⟨token, clock, outcome, duration, detail⟩ |
    ⟨name, duration, outcome, detail⟩ | ⟨name, event⟩ | wallClock | wallClock
  · cases hchange
    rcases ObservabilityWatcher.begin_cases target clock w with ⟨_, he⟩ | ⟨_, _, hissued, hok⟩
    · simp only [run, PyM.bind_apply, he] at hrun
      cases hrun
    · simp only [run, PyM.bind_apply, hok] at hrun
      cases hrun
      rw [ObservabilityWatcher.updateMetric_tokens, ← hissued]
      rfl
  · rcases ObservabilityWatcher.finish_cases token clock outcome duration detail w with
      ⟨_, he⟩ | ⟨hforeign, -⟩ | ⟨d, o, hactive, hd, ho, hok⟩
    · simp only [run, he] at hrun
      cases hrun
    · simp only [change, if_neg hforeign] at hchange
      cases hchange
    · simp only [run, hok] at hrun
      simp only [change, if_pos hactive, hd, ho] at hchange
      cases hrun
      cases hchange
      rw [ObservabilityWatcher.updateMetric_tokens w token.target _ w.nextToken]
  · rcases ObservabilityWatcher.record_cases name duration outcome detail w with
      ⟨_, he⟩ | ⟨_, d, o, -, hd, ho, hok⟩
    · simp only [run, he] at hrun
      cases hrun
    · simp only [run, hok] at hrun
      simp only [change, hd, ho] at hchange
      cases hrun
      cases hchange
      rfl
  · cases hchange
    rcases ObservabilityWatcher.recordEvent_cases target event w with ⟨_, he⟩ | hok
    · simp only [run, he] at hrun
      cases hrun
    · simp only [run, hok] at hrun
      cases hrun
      rfl
  · cases hchange
  · cases hchange

namespace Observation

variable {limits : WatcherLimits} {o : Observation}

/-- A call keeps every metric accounted for.  Kind: L -/
theorem Conserved.step (h : Conserved limits o) (call : WatcherCall) :
    Conserved limits (o.step call) := by
  unfold Observation.step
  rcases hrun : call.run o.watcher with ⟨_, w'⟩ | ⟨e, w'⟩
  · rcases call with ⟨target, clock⟩ | ⟨token, clock, outcome, duration, detail⟩ |
      ⟨target, duration, outcome, detail⟩ | ⟨target, event⟩ | wallClock | wallClock
    · obtain ⟨token, s, hbegin, hret⟩ := PyM.bind_eq_ok.mp hrun
      cases hret
      show Conserved limits ⟨w', o.log ++ []⟩
      rw [List.append_nil]
      exact Conserved.begin h hbegin
    · exact Conserved.finish h hrun
    · exact Conserved.record h hrun
    · show Conserved limits ⟨w', o.log ++ []⟩
      rw [List.append_nil]
      exact Conserved.recordEvent h hrun
    · obtain ⟨taken, s, hsnapshot, hret⟩ := PyM.bind_eq_ok.mp hrun
      cases hret
      rcases ObservabilityWatcher.snapshot_cases wallClock o.watcher with ⟨_, he⟩ | ⟨_, hok⟩
      · rw [he] at hsnapshot
        cases hsnapshot
      · rw [hok] at hsnapshot
        cases hsnapshot
        show Conserved limits ⟨_, o.log ++ []⟩
        rw [List.append_nil]
        exact h
    · exact Conserved.reset h hrun
  · rw [WatcherCall.run_error hrun]
    exact h

/-- So does a sequence of calls.  Kind: L -/
theorem Conserved.run (h : Conserved limits o) (calls : List WatcherCall) :
    Conserved limits (o.run calls) := by
  unfold Observation.run
  induction calls generalizing o with
  | nil => exact h
  | cons call calls ih => exact ih (h.step call)

end Observation

/-- After any sequence of calls on a new watcher, each of its metrics has as many operations in
flight as its target has active tokens, has been in that many at most at its peak, splits its count
into the three outcomes, and holds the last durations; the tables keep their limits; a `finish`
that raises leaves the watcher as it is; and a call that returns creates or changes the metric of
its target, when there is room for it, and no other one.
Source: `observability.py`, `ObservabilityWatcher`.  Kind: P -/
theorem observability_conserved (limits : WatcherLimits) (watcherId : ℕ) (started : PyFloat)
    (w : ObservabilityWatcher) (hnew : ObservabilityWatcher.new limits watcherId started = .ok w)
    (calls : List WatcherCall) :
    let o := Observation.run ⟨w, []⟩ calls
    (∀ target m, o.watcher.metrics.get? target = some m →
      m.inFlight = o.watcher.activeOf target ∧ 0 ≤ m.inFlight ∧
      m.count = m.successes + m.failures + m.cancellations ∧ m.inFlight ≤ m.peakInFlight ∧
      m.count = (durationsOf target o.log).length ∧
      m.samples = (durationsOf target o.log).rtake (min m.count limits.sampleLimit)) ∧
    o.watcher.metrics.size ≤ limits.maxTargets ∧ o.watcher.activeTokens.size ≤ limits.maxActive ∧
    (∀ token clock outcome duration detail e w',
      ObservabilityWatcher.finish token clock outcome duration detail o.watcher = .error e w' →
        w' = o.watcher) ∧
    ∀ (call : WatcherCall) w', call.run o.watcher = .ok () w' →
      ∀ target f, call.change o.watcher = some (target, f) → ∀ t, w'.metrics.get? t =
        if o.watcher.hasRoom target ∧ target = t then some (f (o.watcher.metricOf target))
        else o.watcher.metrics.get? t := by
  intro o
  have hstart : Observation.Conserved limits ⟨w, []⟩ := by
    obtain ⟨q, -, hret⟩ := Except.bind_eq_ok.mp hnew
    cases hret
    exact Observation.conserved_empty limits q 0 watcherId
  have h : Observation.Conserved limits o := hstart.run calls
  refine ⟨?_, h.metrics, h.active, ?_, fun call w' hrun target f hchange t =>
    WatcherCall.get?_of_run hrun hchange t⟩
  · intro target m hm
    have hroom : o.watcher.hasRoom target := .inl (by rw [hm]; rfl)
    have hmetric : o.watcher.metricOf target = m := by
      unfold ObservabilityWatcher.metricOf
      rw [hm]
      rfl
    have haccounts := h.accounts target hroom
    rw [hmetric] at haccounts
    have hnonneg : 0 ≤ m.inFlight := by
      rw [haccounts.inFlight]
      exact Int.natCast_nonneg _
    exact ⟨haccounts.inFlight, hnonneg, haccounts.outcomes, haccounts.peak, haccounts.count,
      haccounts.samples⟩
  · intro token clock outcome duration detail e w' hrun
    have hcall : (WatcherCall.finish token clock outcome duration detail).run o.watcher =
        .error e w' := hrun
    exact WatcherCall.run_error hcall

/-- Room for one metric, two samples and two active tokens. -/
def smallLimits : WatcherLimits := ⟨2, 1, 2, by decide⟩

/-- A new watcher with these limits. -/
def smallWatcher : ObservabilityWatcher := ⟨smallLimits, 0, Dict.empty, Dict.empty, 0, 7⟩

/-- The first token for `dial`. -/
def dialToken : ObservationToken := ⟨"dial", .finite 1, 1, 7, true⟩

/-- Two operations of one target, of which one fails, and another target, for which there is no
room. -/
def smallCalls : List WatcherCall :=
  [.begin "dial" (.finite 1), .begin "dial" (.finite 2), .record "dial" (.int 3) "success" none,
    .record "dial" (.int 5) "success" none, .finish dialToken (.finite 5) "failure" none none,
    .recordEvent "sync" "stale"]

/-- One operation of `dial` is in flight, of its three durations the last two are kept, its token
cannot be finished again, and an event of `dial` is counted where one of `sync` has no metric. -/
theorem observability_conserved_small :
    ObservabilityWatcher.new smallLimits 7 (.finite 0) = .ok smallWatcher ∧
      ∃ o m, o = Observation.run ⟨smallWatcher, []⟩ smallCalls ∧
        o.watcher.metrics.get? "dial" = some m ∧
        m.inFlight = 1 ∧ m.inFlight = o.watcher.activeOf "dial" ∧
        m.count = 3 ∧ m.count = m.successes + m.failures + m.cancellations ∧
        m.samples = [5, 4] ∧
        m.samples = (durationsOf "dial" o.log).rtake (min m.count smallLimits.sampleLimit) ∧
        o.watcher.metrics.size ≤ 1 ∧ o.watcher.activeTokens.size ≤ 2 ∧
        (∀ e w', ObservabilityWatcher.finish dialToken (.finite 6) "success" none none
          o.watcher = .error e w' → w' = o.watcher) ∧
        (∀ w', (WatcherCall.recordEvent "dial" "stale").run o.watcher = .ok () w' →
          w'.metrics.get? "dial" = some (m.countEvent "stale")) ∧
        ∀ w', (WatcherCall.recordEvent "sync" "stale").run o.watcher = .ok () w' →
          w'.metrics.get? "sync" = none := by
  obtain ⟨o, ho⟩ : ∃ o, o = Observation.run ⟨smallWatcher, []⟩ smallCalls := ⟨_, rfl⟩
  have hconserved := observability_conserved smallLimits 7 (.finite 0) smallWatcher rfl smallCalls
  rw [← ho] at hconserved
  obtain ⟨hmetrics, hsize, hactive, hfinish, hchange⟩ := hconserved
  have hroom : o.watcher.hasRoom "dial" := by
    rw [ho]
    decide +kernel
  have hfull : ¬o.watcher.hasRoom "sync" := by
    rw [ho]
    decide +kernel
  have hdial : (o.watcher.metrics.get? "dial").map (fun m => (m.inFlight, m.count, m.samples)) =
      some (1, 3, [5, 4]) := by
    rw [ho]
    decide +kernel
  obtain ⟨m, hm, hfields⟩ := Option.map_eq_some_iff.mp hdial
  obtain ⟨hone, hthree, hsamples⟩ : m.inFlight = 1 ∧ m.count = 3 ∧ m.samples = [5, 4] := by
    simpa using hfields
  have hmetricOf : o.watcher.metricOf "dial" = m := by
    rw [ObservabilityWatcher.metricOf, hm]
    rfl
  obtain ⟨hinFlight, -, houtcomes, -, -, hkept⟩ := hmetrics "dial" m hm
  refine ⟨rfl, o, m, ho, hm, hone, hinFlight, hthree, houtcomes, hsamples, hkept, hsize, hactive,
    fun e w' => hfinish dialToken _ _ _ _ e w', fun w' hrun => ?_, fun w' hrun => ?_⟩
  · rw [hchange _ w' hrun "dial" _ rfl "dial", if_pos ⟨hroom, rfl⟩, hmetricOf]
  · rw [hchange _ w' hrun "sync" _ rfl "sync", if_neg fun h => hfull h.1, ho]
    decide +kernel

end ExpraConnect
