import ExpraConnect.Base
import ExpraConnect.Lib.Interpolate
import Mathlib.Data.List.Sort

/-!
# Statistics of duration samples

`observability.py`, `_percentile` and `summarize_samples`, over exact rationals.

* `percentile`: `_percentile`, with the exception of an index that is out of range;
* `percentile_eq`: on a sorted list it is the interpolation of the values at `(n - 1) * fraction`,
  and no index is out of range;
* `median`: `statistics.median`, another routine, and `percentile_half`: they agree;
* `percentile_sound`: bounds, monotonicity, the values at 0, 1/2 and 1, and what the fields of
  `summarize_samples` are and in which order.
-/

namespace ExpraConnect

open ExpraConnect.Lib

/-! ## The code -/

/-- `values[i]`; a negative index counts from the end. -/
def listItem (values : List ℚ) (i : ℤ) : Except PyError ℚ :=
  let i := if i < 0 then i + values.length else i
  match if i < 0 then none else values[i.toNat]? with
  | some x => .ok x
  | none => .error ⟨.other, "list index out of range"⟩

/-- `int(x)` truncates towards zero. -/
def truncate (x : ℚ) : ℤ := if 0 ≤ x then ⌊x⌋ else ⌈x⌉

/-- Source: `observability.py`, `_percentile`.  Kind: D -/
def percentile (values : List ℚ) (fraction : ℚ) : Except PyError ℚ :=
  if values.length = 1 then listItem values 0
  else do
    let position : ℚ := ((values.length : ℤ) - 1 : ℤ) * fraction
    let lower := truncate position
    let upper := min (lower + 1) ((values.length : ℤ) - 1)
    let low ← listItem values lower
    let high ← listItem values upper
    return low + (high - low) * (position - lower)

/-- `statistics.median(values)`, of a sorted list.
Source: `statistics.median` (standard library).  Kind: D -/
def median (values : List ℚ) : Except PyError ℚ :=
  let n := values.length
  if n = 0 then .error ⟨.value, "no median for empty data"⟩
  else if n % 2 = 1 then listItem values (n / 2 : ℕ)
  else do
    let low ← listItem values ((n / 2 : ℕ) - 1)
    let high ← listItem values (n / 2 : ℕ)
    return (low + high) / 2

/-- Source: `observability.py`, `summarize_samples`, the keys of its result.  Kind: D -/
structure Distribution where
  /-- `minimum` -/
  minimum : ℚ
  /-- `p25` -/
  p25 : ℚ
  /-- `p50` -/
  p50 : ℚ
  /-- `median` -/
  median : ℚ
  /-- `p75` -/
  p75 : ℚ
  /-- `p95` -/
  p95 : ℚ
  /-- `p99` -/
  p99 : ℚ
  /-- `maximum` -/
  maximum : ℚ
  /-- `spread` -/
  spread : ℚ
  /-- `outliers` -/
  outliers : ℕ
  deriving DecidableEq

/-- The number of a sample that is a finite real number.
Source: `observability.py`, `summarize_samples`.  Kind: D -/
def finiteSample : PyFloat → Except PyError ℚ
  | .finite q => .ok q
  | _ => .error ⟨.value, "samples must be finite real numbers"⟩

/-- `sorted(samples)`. -/
def sortSamples (samples : List ℚ) : List ℚ := samples.insertionSort (· ≤ ·)

/-- Source: `observability.py`, `summarize_samples`.  Kind: D -/
def summarizeSamples (samples : List PyFloat) : Except PyError Distribution := do
  raiseIf (samples = []) ⟨.value, "at least one sample is required"⟩
  let values ← samples.mapM finiteSample
  let ordered := sortSamples values
  let p25 ← percentile ordered (1 / 4)
  let p75 ← percentile ordered (3 / 4)
  let median ← median ordered
  let minimum ← listItem ordered 0
  let p95 ← percentile ordered (95 / 100)
  let p99 ← percentile ordered (99 / 100)
  let maximum ← listItem ordered (-1)
  return {
    minimum := minimum
    p25 := p25
    p50 := median
    median := median
    p75 := p75
    p95 := p95
    p99 := p99
    maximum := maximum
    spread := maximum - minimum
    outliers := ordered.countP fun value => p75 + 3 / 2 * (p75 - p25) < value }

/-! ## Indices -/

/-- An index in range.  Kind: L -/
theorem listItem_natCast {values : List ℚ} {i : ℕ} (h : i < values.length) :
    listItem values i = .ok values[i] := by
  unfold listItem
  simp only [Int.natCast_nonneg, not_lt.mpr, if_false, Int.toNat_natCast,
    List.getElem?_eq_getElem h]

/-- The index −1 is the last item.  Kind: L -/
theorem listItem_neg_one {values : List ℚ} (h : values ≠ []) :
    listItem values (-1) = .ok (values.getLast h) := by
  have hpos := List.length_pos_iff.mpr h
  have hindex : (-1 + (values.length : ℤ)).toNat = values.length - 1 := by omega
  have hnonneg : ¬(-1 + (values.length : ℤ) < 0) := by omega
  unfold listItem
  simp only [Int.reduceNeg, Int.reduceLT, if_true, hnonneg, if_false, hindex]
  rw [List.getElem?_eq_getElem (by omega), List.getLast_eq_getElem]

/-! ## Percentiles of a sorted list -/

/-- The values of a list as a sequence that stays at the last one. -/
def clamped (values : List ℚ) (h : values ≠ []) (i : ℕ) : ℚ :=
  values.get ⟨min i (values.length - 1), by
    have hpos := List.length_pos_iff.mpr h
    omega⟩

section sorted

variable {values : List ℚ} (h : values ≠ [])

/-- An index in range is not clamped.  Kind: L -/
theorem listItem_eq_clamped {i : ℕ} (hi : i < values.length) :
    listItem values i = .ok (clamped values h i) := by
  rw [listItem_natCast hi]
  have hmin : min i (values.length - 1) = i := by omega
  simp only [clamped, List.get_eq_getElem, hmin]

/-- The first sample.  Kind: L -/
theorem clamped_zero : clamped values h 0 = values.head h := by
  simp [clamped, List.head_eq_getElem]

/-- The last sample.  Kind: L -/
theorem clamped_last : clamped values h (values.length - 1) = values.getLast h := by
  simp [clamped, List.getLast_eq_getElem]

/-- Clamped indices keep the order of a sorted list.  Kind: L -/
theorem clamped_mono (hsorted : values.Pairwise (· ≤ ·)) : Monotone (clamped values h) := by
  intro i j hij
  have hle : min i (values.length - 1) ≤ min j (values.length - 1) := by omega
  exact hsorted.sortedLE.monotone_get hle

/-- The position that a fraction names lies between the first and the last index.  Kind: L -/
theorem position_bounds (values : List ℚ) {fraction : ℚ} (h0 : 0 ≤ fraction) (h1 : fraction ≤ 1) :
    0 ≤ ((values.length - 1 : ℕ) : ℚ) * fraction ∧
      ((values.length - 1 : ℕ) : ℚ) * fraction ≤ (values.length - 1 : ℕ) :=
  ⟨by positivity, mul_le_of_le_one_right (by positivity) h1⟩

/-- No index is out of range, and the result is the interpolation at the position.  Kind: L -/
theorem percentile_eq {fraction : ℚ} (h0 : 0 ≤ fraction) (h1 : fraction ≤ 1) :
    percentile values fraction =
      .ok (interpolate (clamped values h) (((values.length - 1 : ℕ) : ℚ) * fraction)) := by
  have hpos := List.length_pos_iff.mpr h
  obtain ⟨hnonneg, hbound⟩ := position_bounds values h0 h1
  unfold percentile
  by_cases hone : values.length = 1
  · rw [if_pos hone, show (0 : ℤ) = ((0 : ℕ) : ℤ) by rfl, listItem_eq_clamped h hpos]
    have hzero : ((values.length - 1 : ℕ) : ℚ) * fraction = ((0 : ℕ) : ℚ) := by simp [hone]
    rw [hzero, interpolate_natCast]
  · -- the two indices are `lower` and its successor, but for the last position
    rw [if_neg hone]
    have hcast : (((values.length : ℤ) - 1 : ℤ) : ℚ) = ((values.length - 1 : ℕ) : ℚ) := by
      push_cast [Nat.cast_sub hpos]
      ring
    rw [hcast]
    generalize hx : ((values.length - 1 : ℕ) : ℚ) * fraction = x at hnonneg hbound
    have hfloor : ⌊x⌋₊ ≤ values.length - 1 := Nat.floor_le_of_le hbound
    have hlower : truncate x = (⌊x⌋₊ : ℤ) := by
      rw [truncate, if_pos hnonneg, Int.natCast_floor_eq_floor hnonneg]
    have hupper : min ((⌊x⌋₊ : ℤ) + 1) ((values.length : ℤ) - 1) =
        ((min (⌊x⌋₊ + 1) (values.length - 1) : ℕ) : ℤ) := by omega
    have hclamp : clamped values h (min (⌊x⌋₊ + 1) (values.length - 1)) =
        clamped values h (⌊x⌋₊ + 1) := by
      simp [clamped]
    dsimp only
    rw [hlower, hupper, listItem_eq_clamped h (by omega), listItem_eq_clamped h (by omega), hclamp]
    rfl

include h in
/-- The interpolation half way through the list is `statistics.median`.  Kind: L -/
theorem percentile_half : percentile values (1 / 2) = median values := by
  have hpos := List.length_pos_iff.mpr h
  rw [percentile_eq h (by norm_num) (by norm_num)]
  unfold median
  dsimp only
  rw [if_neg (by omega)]
  by_cases hodd : values.length % 2 = 1
  · obtain ⟨m, hm⟩ : ∃ m, values.length = 2 * m + 1 := ⟨values.length / 2, by omega⟩
    have hposition : ((values.length - 1 : ℕ) : ℚ) * (1 / 2) = (m : ℕ) := by
      rw [hm, Nat.add_sub_cancel]
      push_cast
      ring
    have hhalf : values.length / 2 = m := by omega
    rw [if_pos hodd, hposition, interpolate_natCast, hhalf, listItem_eq_clamped h (by omega)]
  · obtain ⟨m, hm⟩ : ∃ m, values.length = 2 * m + 2 := ⟨values.length / 2 - 1, by omega⟩
    have hposition : ((values.length - 1 : ℕ) : ℚ) * (1 / 2) = (m : ℕ) + 1 / 2 := by
      rw [hm, show 2 * m + 2 - 1 = 2 * m + 1 by omega]
      push_cast
      ring
    have hhalf : values.length / 2 = m + 1 := by omega
    have hbefore : ((m + 1 : ℕ) : ℤ) - 1 = (m : ℕ) := by omega
    rw [if_neg hodd, hposition, interpolate_natCast_add_half, hhalf, hbefore,
      listItem_eq_clamped h (by omega), listItem_eq_clamped h (by omega)]
    rfl

end sorted

/-! ## Soundness -/

/-- Sorted samples are sorted.  Kind: L -/
theorem sortSamples_sorted (samples : List ℚ) : (sortSamples samples).Pairwise (· ≤ ·) :=
  List.pairwise_insertionSort _ _

theorem sortSamples_ne_nil {samples : List ℚ} (h : samples ≠ []) : sortSamples samples ≠ [] := by
  intro hnil
  have hlen := (List.perm_insertionSort (· ≤ ·) samples).length_eq
  rw [show samples.insertionSort (· ≤ ·) = [] from hnil, List.length_nil] at hlen
  exact h (List.length_eq_zero_iff.mp hlen.symm)

/-- Finite samples are kept.  Kind: L -/
theorem mapM_finiteSample (samples : List ℚ) :
    (samples.map PyFloat.finite).mapM finiteSample = .ok samples := by
  induction samples with
  | nil => rfl
  | cons q rest ih =>
      rw [List.map_cons, List.mapM_cons, ih]
      rfl

/-- `_percentile` of a list is sound: it returns for every fraction, between the first and the last
value, without falling, and with the values one expects at 0, 1/2 and 1.  Kind: D -/
structure SoundPercentiles (values : List ℚ) (h : values ≠ []) : Prop where
  /-- No index is out of range, and the result lies between the first value and the last. -/
  bounds : ∀ fraction, 0 ≤ fraction → fraction ≤ 1 →
    ∃ x, percentile values fraction = .ok x ∧ values.head h ≤ x ∧ x ≤ values.getLast h
  /-- A larger fraction has no smaller percentile. -/
  mono : ∀ f g x y, 0 ≤ f → f ≤ g → g ≤ 1 → percentile values f = .ok x →
    percentile values g = .ok y → x ≤ y
  /-- At 0 it is the first value, -/
  first : percentile values 0 = .ok (values.head h)
  /-- at 1 the last, -/
  last : percentile values 1 = .ok (values.getLast h)
  /-- and at 1/2 the median. -/
  middle : percentile values (1 / 2) = median values

/-- The quantiles of a summary are in order.  Kind: D -/
def Distribution.Ordered (d : Distribution) : Prop :=
  d.minimum ≤ d.p25 ∧ d.p25 ≤ d.p50 ∧ d.p50 ≤ d.p75 ∧ d.p75 ≤ d.p95 ∧ d.p95 ≤ d.p99 ∧
    d.p99 ≤ d.maximum

/-- The fields of a summary are percentiles and the median of `values`.  Kind: D -/
structure Distribution.Of (d : Distribution) (values : List ℚ) : Prop where
  /-- `minimum` -/
  first : percentile values 0 = .ok d.minimum
  /-- `p25` -/
  lower : percentile values (1 / 4) = .ok d.p25
  /-- `p50` -/
  half : percentile values (1 / 2) = .ok d.p50
  /-- `median` -/
  middle : ExpraConnect.median values = .ok d.median
  /-- `p75` -/
  upper : percentile values (3 / 4) = .ok d.p75
  /-- `p95` -/
  high : percentile values (95 / 100) = .ok d.p95
  /-- `p99` -/
  highest : percentile values (99 / 100) = .ok d.p99
  /-- `maximum` -/
  last : percentile values 1 = .ok d.maximum
  /-- `spread` -/
  width : d.spread = d.maximum - d.minimum
  /-- `outliers` -/
  beyond : d.outliers = values.countP fun value => d.p75 + 3 / 2 * (d.p75 - d.p25) < value

/-- The percentiles of a sorted list are sound.  Kind: L -/
theorem soundPercentiles_of_sorted {values : List ℚ} (h : values ≠ [])
    (hsorted : values.Pairwise (· ≤ ·)) : SoundPercentiles values h := by
  have hmono := clamped_mono h hsorted
  refine ⟨?_, ?_, ?_, ?_, percentile_half h⟩
  · intro fraction h0 h1
    obtain ⟨hnonneg, hbound⟩ := position_bounds values h0 h1
    refine ⟨_, percentile_eq h h0 h1, ?_, ?_⟩
    · rw [← clamped_zero h]
      exact le_interpolate hmono hnonneg
    · rw [← clamped_last h]
      exact interpolate_le hmono hnonneg hbound
  · intro f g x y h0 hfg h1 hx hy
    rw [percentile_eq h h0 (hfg.trans h1), Except.ok.injEq] at hx
    rw [percentile_eq h (h0.trans hfg) h1, Except.ok.injEq] at hy
    rw [← hx, ← hy]
    refine interpolate_mono hmono (position_bounds values h0 (hfg.trans h1)).1 ?_
    exact mul_le_mul_of_nonneg_left hfg (by positivity)
  · rw [percentile_eq h le_rfl zero_le_one, mul_zero, ← Nat.cast_zero, interpolate_natCast,
      clamped_zero]
  · rw [percentile_eq h zero_le_one le_rfl, mul_one, interpolate_natCast, clamped_last]

/-- The summary of finite samples exists; it is that of the sorted samples, and its quantiles are in
order.  Kind: L -/
theorem summarizeSamples_finite {samples : List ℚ} (hne : samples ≠ []) :
    ∃ d, summarizeSamples (samples.map .finite) = .ok d ∧ d.Of (sortSamples samples) ∧
      d.Ordered := by
  have h := sortSamples_ne_nil hne
  have hsound := soundPercentiles_of_sorted h (sortSamples_sorted samples)
  obtain ⟨p25, h25, hmin, -⟩ := hsound.bounds (1 / 4) (by norm_num) (by norm_num)
  obtain ⟨p50, h50, -, -⟩ := hsound.bounds (1 / 2) (by norm_num) (by norm_num)
  obtain ⟨p75, h75, -, -⟩ := hsound.bounds (3 / 4) (by norm_num) (by norm_num)
  obtain ⟨p95, h95, -, -⟩ := hsound.bounds (95 / 100) (by norm_num) (by norm_num)
  obtain ⟨p99, h99, -, hmax⟩ := hsound.bounds (99 / 100) (by norm_num) (by norm_num)
  have hmedian : median (sortSamples samples) = .ok p50 := hsound.middle.symm.trans h50
  have hfirst : listItem (sortSamples samples) 0 = .ok ((sortSamples samples).head h) := by
    rw [show (0 : ℤ) = ((0 : ℕ) : ℤ) by rfl,
      listItem_eq_clamped h (List.length_pos_iff.mpr h), clamped_zero]
  have hsome : samples.map PyFloat.finite ≠ [] := by simpa using hne
  refine ⟨⟨_, p25, p50, p50, p75, p95, p99, _, (sortSamples samples).getLast h -
    (sortSamples samples).head h, (sortSamples samples).countP fun value =>
      p75 + 3 / 2 * (p75 - p25) < value⟩, ?_,
    ⟨hsound.first, h25, h50, hmedian, h75, h95, h99, hsound.last, rfl, rfl⟩,
    hmin, ?_, ?_, ?_, ?_, hmax⟩
  · unfold summarizeSamples
    rw [mapM_finiteSample, raiseIf, if_neg hsome]
    dsimp only [bind, Except.bind, pure, Except.pure]
    rw [h25, h75, hmedian, hfirst, h95, h99, listItem_neg_one h]
    rfl
  · exact hsound.mono _ _ _ _ (by norm_num) (by norm_num) (by norm_num) h25 h50
  · exact hsound.mono _ _ _ _ (by norm_num) (by norm_num) (by norm_num) h50 h75
  · exact hsound.mono _ _ _ _ (by norm_num) (by norm_num) (by norm_num) h75 h95
  · exact hsound.mono _ _ _ _ (by norm_num) (by norm_num) (by norm_num) h95 h99

/-- **Percentiles over exact rationals.**  Of every sorted list that is not empty the percentiles
are sound; the summary of any samples gives those of the sorted samples, and its quantiles are in
order.
Source: `observability.py`, `_percentile` and `summarize_samples`.  Kind: P -/
theorem percentile_sound :
    (∀ (values : List ℚ) (h : values ≠ []), values.Pairwise (· ≤ ·) →
      SoundPercentiles values h) ∧
    ∀ samples : List ℚ, samples ≠ [] →
      ∃ d, summarizeSamples (samples.map .finite) = .ok d ∧ d.Of (sortSamples samples) ∧
        d.Ordered :=
  ⟨fun _ h hsorted => soundPercentiles_of_sorted h hsorted,
    fun _ hne => summarizeSamples_finite hne⟩

/-- Four samples, out of order. -/
theorem percentile_sound_four :
    SoundPercentiles [1, 2, 5, 9] (by simp) ∧
      ∃ d, summarizeSamples [.finite 5, .finite 1, .finite 9, .finite 2] = .ok d ∧
        d.Of (sortSamples [5, 1, 9, 2]) ∧ d.Ordered :=
  ⟨percentile_sound.1 [1, 2, 5, 9] (by simp) (by norm_num),
    percentile_sound.2 [5, 1, 9, 2] (by simp)⟩

end ExpraConnect
