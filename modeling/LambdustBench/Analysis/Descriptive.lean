import LambdustBench.Python.Runtime
import Mathlib.Data.List.Sort
import Mathlib.Algebra.Order.BigOperators.Group.List
import Mathlib.Data.List.GetD
import Mathlib.Tactic.IntervalCases
import Mathlib.Tactic.Linarith
import Mathlib.Tactic.Ring

/-!
# The two descriptive-statistics engines

The repository computes per-implementation statistics twice:

- `BenchmarkRunner.calculate_descriptive_stats` (run_comprehensive_benchmarks.py:409–432)
  sorts the timings and reads count, mean, median, sample standard deviation, min, max and
  the quartiles `values[n // 4]`, `values[3 * n // 4]` off the sorted list.
- `BenchmarkProcessor.generate_statistics` (scripts/process_results.py:98–161), after
  `organize_results` (lines 82–96) has grouped the successful raw records by test and
  implementation, calls CPython's `statistics.mean`, `median`, `stdev` and `quantiles`, and
  adds `duration_p25` / `duration_p75` only from four durations on.

Both are modelled over exact rationals; square roots are `Radical`s. `Statistics` holds the
CPython functions as the standard library computes them with exact arithmetic.

- `calculateDescriptiveStats_eq`, `generateStatistics_organizeResults`: one spec lemma per
  engine, stated in terms of the `Statistics` functions.
- `descriptive_stats_agree_with_generate_statistics`: the shared fields agree on every
  non-empty list of timings.
- `quartiles_differ_at_four_points`, `quartiles_agree_at_three_mod_four`: the quartiles do
  not: the runner takes order statistics where `statistics.quantiles` interpolates. They
  coincide at lengths `≡ 3 (mod 4)`, and the interpolated lower quartile never exceeds the
  runner's.
- `descriptive_stats_laws`: on every non-empty list, `calculate_descriptive_stats` returns a record
  whose order statistics are ordered and bracket the data, whose mean lies between min and max,
  whose median halves the data, and whose deviation is non-negative and zero exactly on constant
  data; the record depends only on the multiset of timings.
-/

namespace LambdustBench

instance ratLeAntisymm : Std.Antisymm (α := ℚ) (· ≤ ·) := ⟨fun h h' => le_antisymm h h'⟩

/-- Python's `sorted` on a list of floats. -/
def pySorted (xs : List ℚ) : List ℚ := xs.insertionSort (· ≤ ·)

theorem pySorted_perm (xs : List ℚ) : (pySorted xs).Perm xs := List.perm_insertionSort _ _

theorem pySorted_sorted (xs : List ℚ) : (pySorted xs).Sorted (· ≤ ·) :=
  List.sorted_insertionSort _ _

@[simp] theorem length_pySorted (xs : List ℚ) : (pySorted xs).length = xs.length :=
  (pySorted_perm xs).length_eq

theorem sum_map_pySorted (f : ℚ → ℚ) (xs : List ℚ) : ((pySorted xs).map f).sum = (xs.map f).sum :=
  ((pySorted_perm xs).map f).sum_eq

@[simp] theorem sum_pySorted (xs : List ℚ) : (pySorted xs).sum = xs.sum := by
  simpa using sum_map_pySorted id xs

@[simp] theorem pySorted_eq_nil (xs : List ℚ) : pySorted xs = [] ↔ xs = [] := by
  rw [← List.length_eq_zero, length_pySorted, List.length_eq_zero]

/-- Order statistics of a sorted list grow with the index. -/
theorem pySorted_getD_mono (xs : List ℚ) {i j : Nat} (hij : i ≤ j) (hj : j < xs.length) :
    (pySorted xs).getD i 0 ≤ (pySorted xs).getD j 0 := by
  have hj' : j < (pySorted xs).length := by simpa using hj
  rw [List.getD_eq_getElem _ _ (lt_of_le_of_lt hij hj'), List.getD_eq_getElem _ _ hj']
  exact (pySorted_sorted xs).rel_get_of_le (a := ⟨i, _⟩) (b := ⟨j, hj'⟩) hij

/-- Sorting forgets the order of its input. -/
theorem pySorted_eq_of_perm {xs ys : List ℚ} (h : xs.Perm ys) : pySorted xs = pySorted ys :=
  List.eq_of_perm_of_sorted ((pySorted_perm xs).trans (h.trans (pySorted_perm ys).symm))
    (pySorted_sorted xs) (pySorted_sorted ys)

/-- A sorted list around its `k`-th element. -/
theorem sorted_split {s : List ℚ} (hs : s.Sorted (· ≤ ·)) {k : ℕ} (hk : k < s.length) :
    s = s.take k ++ s.getD k 0 :: s.drop (k + 1) ∧ (∀ x ∈ s.take k, x ≤ s.getD k 0) ∧
      ∀ x ∈ s.drop (k + 1), s.getD k 0 ≤ x := by
  have hs' : s = s.take k ++ s.getD k 0 :: s.drop (k + 1) := by
    rw [List.getD_eq_getElem _ _ hk, ← List.drop_eq_getElem_cons hk, List.take_append_drop]
  refine ⟨hs', ?_⟩
  have hp := hs
  rw [hs', List.Sorted, List.pairwise_append, List.pairwise_cons] at hp
  exact ⟨fun x hx => hp.2.2 x hx _ (List.mem_cons_self _ _), hp.2.1.1⟩

/-- In a sorted list, at most `k` elements lie below a lower bound of the `k`-th. -/
theorem length_filter_lt_le {s : List ℚ} (hs : s.Sorted (· ≤ ·)) {k : ℕ} (hk : k < s.length)
    {m : ℚ} (hm : m ≤ s.getD k 0) : (s.filter (· < m)).length ≤ k := by
  obtain ⟨hs', -, hdrop⟩ := sorted_split hs hk
  have hnil : (s.getD k 0 :: s.drop (k + 1)).filter (· < m) = [] :=
    List.filter_eq_nil_iff.2 fun x hx => by
      rcases List.mem_cons.1 hx with rfl | hx
      · simpa using hm
      · simpa using hm.trans (hdrop x hx)
  rw [hs', List.filter_append, hnil, List.append_nil]
  exact (List.length_filter_le _ _).trans (List.length_take_le _ _)

/-- In a sorted list, at most `length - k - 1` elements lie above an upper bound of the
`k`-th. -/
theorem length_filter_gt_le {s : List ℚ} (hs : s.Sorted (· ≤ ·)) {k : ℕ} (hk : k < s.length)
    {m : ℚ} (hm : s.getD k 0 ≤ m) : (s.filter (m < ·)).length ≤ s.length - k - 1 := by
  obtain ⟨hs', htake, -⟩ := sorted_split hs hk
  have hnil : (s.take k).filter (m < ·) = [] :=
    List.filter_eq_nil_iff.2 fun x hx => by simpa using (htake x hx).trans hm
  have hk' : ¬ m < s.getD k 0 := not_lt.2 hm
  conv_lhs => rw [hs', List.filter_append, hnil, List.nil_append, List.filter_cons,
    if_neg (by simpa using hk')]
  exact (List.length_filter_le _ _).trans (by rw [List.length_drop]; omega)

/-- `min(xs)` is the first order statistic. -/
theorem min?_eq_pySorted (xs : List ℚ) (h : xs ≠ []) : xs.min? = some ((pySorted xs).getD 0 0) := by
  obtain ⟨a, s, hs⟩ := List.exists_cons_of_ne_nil (mt (pySorted_eq_nil xs).1 h)
  have hp := pySorted_perm xs
  have hsort := pySorted_sorted xs
  rw [hs] at hp hsort
  rw [hs, List.min?_eq_some_iff le_refl min_choice (fun _ _ _ => le_min_iff)]
  refine ⟨hp.subset (List.mem_cons_self _ _), fun b hb => ?_⟩
  rcases List.mem_cons.1 (hp.symm.subset hb) with rfl | hb'
  · exact le_rfl
  · exact List.rel_of_sorted_cons hsort b hb'

/-- `max(xs)` is the last order statistic. -/
theorem max?_eq_pySorted (xs : List ℚ) (h : xs ≠ []) :
    xs.max? = some ((pySorted xs).getLastD 0) := by
  have hne : pySorted xs ≠ [] := mt (pySorted_eq_nil xs).1 h
  have hp := pySorted_perm xs
  rw [List.max?_eq_some_iff le_refl max_choice (fun _ _ _ => max_le_iff)]
  refine ⟨hp.subset (by simp [List.getLastD_eq_getLast? , List.getLast?_eq_getLast _ hne,
    List.getLast_mem]), fun b hb => ?_⟩
  obtain ⟨k, hk, rfl⟩ := List.getElem_of_mem (hp.symm.subset hb)
  rw [List.getLastD_eq_getLast?, List.getLast?_eq_getLast _ hne, Option.getD_some,
    List.getLast_eq_getElem]
  exact (pySorted_sorted xs).rel_get_of_le (a := ⟨k, hk⟩) (b := ⟨_, Nat.sub_lt
    (List.length_pos.2 hne) Nat.one_pos⟩) (Nat.le_sub_one_of_lt hk)

/-- `min(xs)` is the least timing. -/
theorem min?_getD_least (xs : List ℚ) (h : xs ≠ []) :
    xs.min?.getD 0 ∈ xs ∧ ∀ x ∈ xs, xs.min?.getD 0 ≤ x := by
  rw [min?_eq_pySorted xs h, Option.getD_some]
  exact (List.min?_eq_some_iff le_refl min_choice (fun _ _ _ => le_min_iff)).1
    (min?_eq_pySorted xs h)

/-- `max(xs)` is the greatest timing. -/
theorem max?_getD_greatest (xs : List ℚ) (h : xs ≠ []) :
    xs.max?.getD 0 ∈ xs ∧ ∀ x ∈ xs, x ≤ xs.max?.getD 0 := by
  rw [max?_eq_pySorted xs h, Option.getD_some]
  exact (List.max?_eq_some_iff le_refl max_choice (fun _ _ _ => max_le_iff)).1
    (max?_eq_pySorted xs h)

/-- `values[-1]` is the order statistic at `n - 1`. -/
theorem pySorted_getLastD (xs : List ℚ) :
    (pySorted xs).getLastD 0 = (pySorted xs).getD (xs.length - 1) 0 := by
  rw [List.getLastD_eq_getLast?, List.getLast?_eq_getElem?, List.getD_eq_getElem?_getD,
    length_pySorted]

/-! ## CPython's `statistics` module -/

namespace Statistics

/-- `statistics.mean` on non-empty data: the exact sum over the count. -/
def mean (data : List ℚ) : ℚ := data.sum / data.length

/-- `statistics.median`: the middle order statistic, or the mean of the two middle ones. -/
def median (data : List ℚ) : ℚ :=
  let data := pySorted data
  let n := data.length
  if n % 2 = 1 then data.getD (n / 2) 0
  else (data.getD (n / 2 - 1) 0 + data.getD (n / 2) 0) / 2

/-- `statistics._ss`: squared deviations from the exact mean, less the rounding correction
`(Σ (x - c))² / n`. -/
def ss (data : List ℚ) : ℚ :=
  let c := mean data
  (data.map fun x => (x - c) ^ 2).sum - (data.map fun x => x - c).sum ^ 2 / data.length

/-- `statistics.stdev` on at least two points: the root of `ss / (n - 1)`. -/
def stdev (data : List ℚ) : Radical := Radical.sqrt (ss data / ((data.length : ℚ) - 1))

/-- `statistics.quantiles(data, n=n)` with the default `'exclusive'` method, on at least two
points: the `i`-th cut point sits at rank `i * (len + 1) / n`, interpolated between the two
order statistics around it. -/
def quantiles (data : List ℚ) (n : Nat) : List ℚ :=
  let data := pySorted data
  let ld := data.length
  (List.range (n - 1)).map fun k =>
    let i := k + 1
    let j := i * (ld + 1) / n
    let j := if j < 1 then 1 else if j > ld - 1 then ld - 1 else j
    let delta : Int := (i * (ld + 1) : Nat) - (j * n : Nat)
    (data.getD (j - 1) 0 * ((n : ℚ) - delta) + data.getD j 0 * delta) / n

theorem sum_sub_mean (data : List ℚ) (c : ℚ) :
    (data.map fun x => x - c).sum = data.sum - data.length * c := by
  induction data with
  | nil => simp
  | cons x data ih =>
    simp only [List.map_cons, List.sum_cons, ih, List.length_cons]; push_cast; ring

/-- Over exact arithmetic the correction term of `_ss` vanishes. -/
theorem ss_eq (data : List ℚ) (h : data ≠ []) :
    ss data = (data.map fun x => (x - mean data) ^ 2).sum := by
  have hn : (data.length : ℚ) ≠ 0 := by simpa using h
  simp [ss, sum_sub_mean, mean, mul_div_cancel₀ _ hn]

end Statistics

/-! ## `calculate_descriptive_stats` -/

/-- The dict `calculate_descriptive_stats` returns for non-empty input. -/
structure DescriptiveStats where
  count : Nat
  mean : ℚ
  median : ℚ
  stdDev : Radical
  min : ℚ
  max : ℚ
  q25 : ℚ
  q75 : ℚ
  deriving DecidableEq, Repr

/-- `BenchmarkRunner.calculate_descriptive_stats`; `none` is the `{}` of empty input. -/
def calculateDescriptiveStats (values : List ℚ) : Option DescriptiveStats :=
  if values.isEmpty then none else
  let values := pySorted values
  let n := values.length
  let mean := values.sum / n
  let variance : ℚ :=
    if n > 1 then (values.map fun x => (x - mean) ^ 2).sum / ((n : ℚ) - 1) else 0
  some { count := n, mean := mean,
         median := if n % 2 = 1 then values.getD (n / 2) 0
           else (values.getD (n / 2 - 1) 0 + values.getD (n / 2) 0) / 2,
         stdDev := Radical.sqrt variance,
         min := values.getD 0 0, max := values.getLastD 0,
         q25 := values.getD (n / 4) 0, q75 := values.getD (3 * n / 4) 0 }

/-- **Spec of `calculate_descriptive_stats`** in terms of the `statistics` functions. -/
theorem calculateDescriptiveStats_eq (xs : List ℚ) (h : xs ≠ []) :
    calculateDescriptiveStats xs = some
      { count := xs.length, mean := Statistics.mean xs, median := Statistics.median xs,
        stdDev := if xs.length > 1 then Statistics.stdev xs else Radical.ofRat 0,
        min := xs.min?.getD 0, max := xs.max?.getD 0,
        q25 := (pySorted xs).getD (xs.length / 4) 0,
        q75 := (pySorted xs).getD (3 * xs.length / 4) 0 } := by
  have hmean : (pySorted xs).sum / (xs.length : ℚ) = Statistics.mean xs := by
    simp [Statistics.mean]
  simp only [calculateDescriptiveStats, List.isEmpty_iff, h, if_false, length_pySorted, hmean,
    min?_eq_pySorted xs h, max?_eq_pySorted xs h, Option.getD_some, Statistics.median,
    Option.some.injEq, DescriptiveStats.mk.injEq, true_and, and_true]
  split
  · simp [Statistics.stdev, Statistics.ss_eq xs h, sum_map_pySorted]
  · simp

/-! ## The laws of `calculate_descriptive_stats` -/

/-- The record depends on the timings only through their sorted list. -/
theorem calculateDescriptiveStats_perm {xs ys : List ℚ} (h : xs.Perm ys) :
    calculateDescriptiveStats xs = calculateDescriptiveStats ys := by
  simp only [calculateDescriptiveStats, h.isEmpty_eq, pySorted_eq_of_perm h]

/-- The median lies between the two middle order statistics (one and the same for odd
lengths). -/
theorem median_between (xs : List ℚ) (h : xs ≠ []) :
    (pySorted xs).getD ((xs.length - 1) / 2) 0 ≤ Statistics.median xs ∧
      Statistics.median xs ≤ (pySorted xs).getD (xs.length / 2) 0 := by
  have hn : 0 < xs.length := List.length_pos.2 h
  simp only [Statistics.median, length_pySorted]
  split
  · rw [show (xs.length - 1) / 2 = xs.length / 2 by omega]
    exact ⟨le_rfl, le_rfl⟩
  · rw [show (xs.length - 1) / 2 = xs.length / 2 - 1 by omega]
    have := pySorted_getD_mono xs (i := xs.length / 2 - 1) (j := xs.length / 2) (by omega)
      (by omega)
    constructor <;> linarith

theorem sum_sq_sub_nonneg (xs : List ℚ) (c : ℚ) : 0 ≤ (xs.map fun x => (x - c) ^ 2).sum :=
  List.sum_nonneg fun y hy => by
    obtain ⟨z, -, rfl⟩ := List.mem_map.1 hy
    exact sq_nonneg _

/-- The squared deviations from `c` vanish exactly when every point is `c`. -/
theorem sum_sq_sub_eq_zero_iff (xs : List ℚ) (c : ℚ) :
    (xs.map fun x => (x - c) ^ 2).sum = 0 ↔ ∀ x ∈ xs, x = c := by
  induction xs with
  | nil => simp
  | cons x xs ih =>
    rw [List.map_cons, List.sum_cons, add_eq_zero_iff_of_nonneg (sq_nonneg _)
      (sum_sq_sub_nonneg xs c), ih, List.forall_mem_cons, sq_eq_zero_iff, sub_eq_zero]

/-- Every point is the mean exactly when all points are equal. -/
theorem forall_eq_mean_iff (xs : List ℚ) (h : xs ≠ []) :
    (∀ x ∈ xs, x = Statistics.mean xs) ↔ ∀ x ∈ xs, ∀ y ∈ xs, x = y := by
  refine ⟨fun hm x hx y hy => (hm x hx).trans (hm y hy).symm, fun hall x hx => ?_⟩
  have hn : (xs.length : ℚ) ≠ 0 := by simpa using h
  rw [Statistics.mean, List.sum_eq_card_nsmul xs x fun y hy => hall y hy x hx, nsmul_eq_mul,
    mul_div_cancel_left₀ _ hn]

/-- The mean lies between the least and the greatest point. -/
theorem mean_between (xs : List ℚ) (h : xs ≠ []) :
    xs.min?.getD 0 ≤ Statistics.mean xs ∧ Statistics.mean xs ≤ xs.max?.getD 0 := by
  have hn : (0 : ℚ) < xs.length := by exact_mod_cast List.length_pos.2 h
  have hlo := List.card_nsmul_le_sum xs _ (min?_getD_least xs h).2
  have hhi := List.sum_le_card_nsmul xs _ (max?_getD_greatest xs h).2
  rw [nsmul_eq_mul] at hlo hhi
  rw [Statistics.mean, le_div_iff₀ hn, div_le_iff₀ hn]
  constructor <;> linarith

/-- `statistics.stdev` is a non-negative root. -/
theorem stdev_nonneg (xs : List ℚ) (h : 1 < xs.length) : 0 ≤ Statistics.stdev xs := by
  have hn : (1 : ℚ) < xs.length := by exact_mod_cast h
  rw [Radical.le_def, Statistics.stdev, Radical.sqrt_signedSq, Radical.zero_signedSq,
    Statistics.ss_eq xs (List.ne_nil_of_length_pos (by omega))]
  exact div_nonneg (sum_sq_sub_nonneg xs _) (sub_nonneg.2 hn.le)

/-- `statistics.stdev` vanishes exactly on constant data. -/
theorem stdev_eq_zero_iff (xs : List ℚ) (h : 1 < xs.length) :
    Statistics.stdev xs = 0 ↔ ∀ x ∈ xs, ∀ y ∈ xs, x = y := by
  have hxs : xs ≠ [] := List.ne_nil_of_length_pos (by omega)
  have hn : (xs.length : ℚ) - 1 ≠ 0 := sub_ne_zero.2 (by exact_mod_cast h.ne')
  rw [Radical.eq_zero_iff, Statistics.stdev, Radical.sqrt_signedSq, Statistics.ss_eq xs hxs,
    div_eq_zero_iff, or_iff_left hn, sum_sq_sub_eq_zero_iff, forall_eq_mean_iff xs hxs]

/-- The laws a record of `calculate_descriptive_stats` for the timings `xs` obeys. -/
structure DescriptiveLaws (xs : List ℚ) (d : DescriptiveStats) : Prop where
  count_eq : d.count = xs.length
  min_least : d.min ∈ xs ∧ ∀ x ∈ xs, d.min ≤ x
  max_greatest : d.max ∈ xs ∧ ∀ x ∈ xs, x ≤ d.max
  min_le_q25 : d.min ≤ d.q25
  q25_le_median : d.q25 ≤ d.median
  median_le_q75 : d.median ≤ d.q75
  q75_le_max : d.q75 ≤ d.max
  mean_between : d.min ≤ d.mean ∧ d.mean ≤ d.max
  below_median : (xs.filter (· < d.median)).length ≤ xs.length / 2
  above_median : (xs.filter (d.median < ·)).length ≤ xs.length / 2
  stdDev_nonneg : 0 ≤ d.stdDev
  stdDev_eq_zero_iff : d.stdDev = 0 ↔ ∀ x ∈ xs, ∀ y ∈ xs, x = y

/-- **The laws of `calculate_descriptive_stats`**: on every non-empty list of timings the
count is the length and the minimum and maximum are the least and greatest timings; the
quartiles and the median are ordered between them, and so is the mean; at most half the
timings lie strictly below the median and at most half strictly above; the standard deviation
is non-negative and zero exactly on constant timings; and every permutation of the timings
gives the same record. -/
theorem descriptive_stats_laws (xs : List ℚ) (hxs : xs ≠ []) :
    ∃ d, calculateDescriptiveStats xs = some d ∧ DescriptiveLaws xs d ∧
      ∀ ys, ys.Perm xs → calculateDescriptiveStats ys = some d := by
  have hn : 0 < xs.length := List.length_pos.2 hxs
  have hmed := median_between xs hxs
  have hcount : ∀ p : ℚ → Bool, (xs.filter p).length = ((pySorted xs).filter p).length :=
    fun p => (((pySorted_perm xs).filter p).length_eq).symm
  refine ⟨_, calculateDescriptiveStats_eq xs hxs, ⟨rfl, min?_getD_least xs hxs,
    max?_getD_greatest xs hxs, ?min_le_q25, ?q25_le_median, ?median_le_q75, ?q75_le_max,
    mean_between xs hxs, ?below_median, ?above_median, ?stdDev_nonneg, ?stdDev_eq_zero_iff⟩,
    fun ys h => (calculateDescriptiveStats_perm h).trans (calculateDescriptiveStats_eq xs hxs)⟩
  case min_le_q25 =>
    rw [min?_eq_pySorted xs hxs, Option.getD_some]
    exact pySorted_getD_mono xs (Nat.zero_le _) (by omega)
  case q25_le_median => exact (pySorted_getD_mono xs (by omega) (by omega)).trans hmed.1
  case median_le_q75 => exact hmed.2.trans (pySorted_getD_mono xs (by omega) (by omega))
  case q75_le_max =>
    rw [max?_eq_pySorted xs hxs, Option.getD_some, pySorted_getLastD]
    exact pySorted_getD_mono xs (by omega) (by omega)
  case below_median =>
    rw [hcount]
    exact length_filter_lt_le (pySorted_sorted xs) (by simp; omega) hmed.2
  case above_median =>
    rw [hcount]
    refine (length_filter_gt_le (pySorted_sorted xs) (by simp; omega) hmed.1).trans ?_
    simp only [length_pySorted]; omega
  case stdDev_nonneg =>
    dsimp only
    split
    · exact stdev_nonneg xs ‹_›
    · simp [Radical.le_def]
  case stdDev_eq_zero_iff =>
    dsimp only
    split
    · exact stdev_eq_zero_iff xs ‹_›
    · obtain ⟨a, rfl⟩ : ∃ a, xs = [a] := List.length_eq_one.1 (by omega)
      simp

/-- The laws at three timings given out of order. -/
theorem descriptive_stats_laws_three_runs :
    ∃ d, calculateDescriptiveStats [3, 1, 2] = some d ∧ DescriptiveLaws [3, 1, 2] d ∧
      ∀ ys, ys.Perm [3, 1, 2] → calculateDescriptiveStats ys = some d :=
  descriptive_stats_laws [3, 1, 2] (by simp)

/-! ## `organize_results` and `generate_statistics` -/

/-- A raw result record of `process_results.py`: the keys it reads, `none` when absent. -/
structure RawResult where
  test : Option String
  implementation : Option String
  success : Bool
  duration : Option ℚ
  userTime : Option ℚ
  maxMemoryKb : Option ℚ
  deriving DecidableEq, Repr

namespace RawResult

/-- `result.get('test', 'unknown')`. -/
def testName (r : RawResult) : String := r.test.getD "unknown"

/-- `result.get('implementation', 'unknown')`. -/
def implName (r : RawResult) : String := r.implementation.getD "unknown"

/-- The successful records `organize_results` files under `organized[t][i]`. -/
def inGroup (t i : String) (r : RawResult) : Bool := r.success && r.testName == t && r.implName == i

end RawResult

/-- Results by test, then by implementation. -/
abbrev Organized := PyDict String (PyDict String (List RawResult))

/-- `d[t][i]`, as an option. -/
def lookup2 {β : Type} (d : PyDict String (PyDict String β)) (t i : String) : Option β :=
  (d.get? t).bind (·.get? i)

/-- `d[t][i] = v` on a dict of dicts, creating `d[t]` when absent, read back at `[t'][i']`. -/
theorem lookup2_set_set {β : Type} (d : PyDict String (PyDict String β)) (t i t' i' : String)
    (v : β) :
    lookup2 (d.set t (((d.get? t).getD ∅).set i v)) t' i' =
      if t = t' ∧ i = i' then some v else lookup2 d t' i' := by
  by_cases ht : t = t'
  · subst ht; cases h : d.get? t <;> by_cases hi : i = i' <;> simp [lookup2, h, hi]
  · simp [lookup2, ht]

/-- One pass of `organize_results`' loop (process_results.py:87–94):
`organized[test_name][impl_name].append(result)` for a successful record. -/
def organizeStep (o : Organized) (r : RawResult) : Organized :=
  if r.success then
    let inner := (o.get? r.testName).getD ∅
    o.set r.testName (inner.set r.implName ((inner.get? r.implName).getD [] ++ [r]))
  else o

/-- `organize_results` (process_results.py:82–96). -/
def organizeResults (raw : List RawResult) : Organized := raw.foldl organizeStep ∅

/-- The statistics `generate_statistics` stores for one implementation. -/
structure ImplStats where
  count : Nat
  durationMean : ℚ
  durationMedian : ℚ
  durationStdev : Radical
  durationMin : ℚ
  durationMax : ℚ
  /-- `duration_p25`, `duration_p75`, present from four durations on. -/
  quartiles : Option (ℚ × ℚ)
  /-- `duration_p90`, `duration_p95`, `duration_p99`, present from ten durations on. -/
  upperPercentiles : Option (ℚ × ℚ × ℚ)
  /-- `user_time_mean`, `user_time_median`, `user_time_stdev`. -/
  userTime : Option (ℚ × ℚ × Radical)
  /-- `memory_mean_kb`, `memory_median_kb`, `memory_max_kb`, `memory_min_kb`. -/
  memory : Option (ℚ × ℚ × ℚ × ℚ)
  deriving DecidableEq, Repr

/-- The body of `generate_statistics`' inner loop (process_results.py:107–159) for the records
of one implementation; `none` is the `continue` taken when no record has a duration. -/
def implStatsOf (rs : List RawResult) : Option ImplStats :=
  let durations := rs.filterMap RawResult.duration
  let userTimes := rs.filterMap RawResult.userTime
  let memoryUsage := rs.filterMap RawResult.maxMemoryKb
  if durations.isEmpty then none else some {
    count := durations.length
    durationMean := Statistics.mean durations
    durationMedian := Statistics.median durations
    durationStdev :=
      if durations.length > 1 then Statistics.stdev durations else Radical.ofRat 0
    durationMin := durations.min?.getD 0
    durationMax := durations.max?.getD 0
    quartiles := if durations.length ≥ 4 then
        some ((Statistics.quantiles durations 4).getD 0 0, (Statistics.quantiles durations 4).getD 2 0)
      else none
    upperPercentiles := if durations.length ≥ 10 then
        some ((Statistics.quantiles durations 10).getD 8 0, (Statistics.quantiles durations 20).getD 18 0,
          (Statistics.quantiles durations 100).getD 98 0)
      else none
    userTime := if userTimes.isEmpty then none else
      some (Statistics.mean userTimes, Statistics.median userTimes,
        if userTimes.length > 1 then Statistics.stdev userTimes else Radical.ofRat 0)
    memory := if memoryUsage.isEmpty then none else
      some (Statistics.mean memoryUsage, Statistics.median memoryUsage,
        memoryUsage.max?.getD 0, memoryUsage.min?.getD 0) }

/-- `generate_statistics` (process_results.py:98–161). -/
def generateStatistics (organized : Organized) : PyDict String (PyDict String ImplStats) :=
  organized.mapValues fun _ testResults => testResults.filterMapValues fun _ rs => implStatsOf rs

theorem lookup2_organizeStep (o : Organized) (r : RawResult) (t i : String) :
    lookup2 (organizeStep o r) t i =
      if r.inGroup t i then some ((lookup2 o t i).getD [] ++ [r]) else lookup2 o t i := by
  have hinner : ∀ t' i', ((o.get? t').getD ∅).get? i' = lookup2 o t' i' := fun t' i' => by
    simp only [lookup2]; cases o.get? t' <;> rfl
  unfold organizeStep
  by_cases hs : r.success
  · by_cases ht : r.testName = t
    · subst ht
      by_cases hi : r.implName = i
      · subst hi; simp [lookup2, RawResult.inGroup, hs, hinner]
      · simp [lookup2, RawResult.inGroup, hs, hi, hinner]
    · simp [lookup2, RawResult.inGroup, hs, ht]
  · simp [RawResult.inGroup, hs]

/-- **Spec of `organize_results`**: `organized[t][i]` holds the group's records, in order. -/
theorem lookup2_organizeResults (raw : List RawResult) (t i : String) :
    lookup2 (organizeResults raw) t i =
      if raw.filter (RawResult.inGroup t i) = [] then none
      else some (raw.filter (RawResult.inGroup t i)) := by
  induction raw using List.reverseRecOn with
  | nil => rfl
  | append_singleton l r ih =>
    rw [organizeResults, List.foldl_append, List.foldl_cons, List.foldl_nil, ← organizeResults,
      lookup2_organizeStep, ih, List.filter_append]
    by_cases hr : r.inGroup t i <;> by_cases hl : l.filter (RawResult.inGroup t i) = [] <;>
      simp [hr, hl]

/-- **Spec of `generate_statistics ∘ organize_results`**: the statistics of `(t, i)` are those
of the group's records. -/
theorem generateStatistics_organizeResults (raw : List RawResult) (t i : String) :
    lookup2 (generateStatistics (organizeResults raw)) t i =
      implStatsOf (raw.filter (RawResult.inGroup t i)) := by
  have hgen : lookup2 (generateStatistics (organizeResults raw)) t i =
      (lookup2 (organizeResults raw) t i).bind implStatsOf := by
    simp only [lookup2, generateStatistics, PyDict.get?_mapValues, Option.bind_map]
    cases (organizeResults raw).get? t <;> simp [Function.comp_def]
  rw [hgen, lookup2_organizeResults]
  split
  · rename_i h; rw [h]; rfl
  · rfl

/-- **The shared fields agree**: for every non-empty list of timings, `calculate_descriptive_stats`
and `generate_statistics` (after `organize_results`, for an implementation whose successful
records carry those durations) report the same count, mean, median, standard deviation,
minimum and maximum. -/
theorem descriptive_stats_agree_with_generate_statistics (raw : List RawResult) (t i : String)
    (xs : List ℚ) (hxs : xs ≠ [])
    (hdur : (raw.filter (RawResult.inGroup t i)).filterMap RawResult.duration = xs) :
    ∃ d s, calculateDescriptiveStats xs = some d ∧
      lookup2 (generateStatistics (organizeResults raw)) t i = some s ∧
      d.count = s.count ∧ d.mean = s.durationMean ∧ d.median = s.durationMedian ∧
      d.stdDev = s.durationStdev ∧ d.min = s.durationMin ∧ d.max = s.durationMax := by
  rw [generateStatistics_organizeResults, implStatsOf, hdur, calculateDescriptiveStats_eq xs hxs]
  simp [List.isEmpty_iff, hxs]

/-- The agreement at two runs of one implementation. -/
theorem descriptive_stats_agree_two_runs :
    ∃ d s, calculateDescriptiveStats [1, 3] = some d ∧
      lookup2 (generateStatistics (organizeResults
        [⟨some "fib", some "chez", true, some 1, none, none⟩,
         ⟨some "fib", some "chez", true, some 3, none, none⟩])) "fib" "chez" = some s ∧
      d.count = s.count ∧ d.mean = s.durationMean ∧ d.median = s.durationMedian ∧
      d.stdDev = s.durationStdev ∧ d.min = s.durationMin ∧ d.max = s.durationMax :=
  descriptive_stats_agree_with_generate_statistics _ "fib" "chez" [1, 3] (by simp) (by decide)

/-! ## Quartiles -/

/-- From four points on, the `k`-th cut point of `statistics.quantiles(data, n=4)` interpolates
between the order statistics around rank `(k + 1) * (len + 1) / 4` (the clamp is inactive). -/
theorem quantiles_four_getD (data : List ℚ) {k : ℕ} (hk : k < 3) (h4 : 4 ≤ data.length) :
    (Statistics.quantiles data 4).getD k 0 =
      ((pySorted data).getD ((k + 1) * (data.length + 1) / 4 - 1) 0 *
          (4 - ((k + 1) * (data.length + 1) % 4 : ℕ)) +
        (pySorted data).getD ((k + 1) * (data.length + 1) / 4) 0 *
          ((k + 1) * (data.length + 1) % 4 : ℕ)) / 4 := by
  rw [Statistics.quantiles,
    List.getD_eq_getElem _ _ (by rw [List.length_map, List.length_range]; omega)]
  simp only [List.getElem_map, List.getElem_range, length_pySorted]
  have h1 : ¬ ((k + 1) * (data.length + 1) / 4 < 1) := by interval_cases k <;> omega
  have h2 : ¬ ((k + 1) * (data.length + 1) / 4 > data.length - 1) := by
    interval_cases k <;> omega
  have hδ : (((k + 1) * (data.length + 1) : ℕ) : ℤ) -
      (((k + 1) * (data.length + 1) / 4 * 4 : ℕ) : ℤ) =
      (((k + 1) * (data.length + 1) % 4 : ℕ) : ℤ) := by
    generalize (k + 1) * (data.length + 1) = r; omega
  rw [if_neg h1, if_neg h2, hδ]
  simp only [Int.cast_natCast, Nat.cast_ofNat]

/-- At a rank that is a multiple of four the interpolation is the order statistic itself. -/
theorem quantiles_four_getD_of_dvd (data : List ℚ) {k : ℕ} (hk : k < 3) (h4 : 4 ≤ data.length)
    (hr : (k + 1) * (data.length + 1) % 4 = 0) :
    (Statistics.quantiles data 4).getD k 0 =
      (pySorted data).getD ((k + 1) * (data.length + 1) / 4 - 1) 0 := by
  rw [quantiles_four_getD data hk h4, hr]
  simp

/-- The interpolated lower quartile never exceeds the order statistic `sorted(xs)[n // 4]`. -/
theorem lower_quartile_le (xs : List ℚ) (h4 : 4 ≤ xs.length) :
    (Statistics.quantiles xs 4).getD 0 0 ≤ (pySorted xs).getD (xs.length / 4) 0 := by
  by_cases hr : (0 + 1) * (xs.length + 1) % 4 = 0
  · rw [quantiles_four_getD_of_dvd xs (by norm_num) h4 hr,
      show (0 + 1) * (xs.length + 1) / 4 - 1 = xs.length / 4 by omega]
  · have hj : (0 + 1) * (xs.length + 1) / 4 = xs.length / 4 := by omega
    have hmono := pySorted_getD_mono xs (i := (0 + 1) * (xs.length + 1) / 4 - 1)
      (j := xs.length / 4) (by omega) (by omega)
    have hδ : (((0 + 1) * (xs.length + 1) % 4 : ℕ) : ℚ) ≤ 4 := by
      exact_mod_cast (Nat.mod_lt _ (by norm_num)).le
    rw [hj] at hmono
    rw [quantiles_four_getD xs (by norm_num) h4, hj]
    linarith [mul_le_mul_of_nonneg_right hmono (sub_nonneg.2 hδ)]

/-- At lengths `≡ 3 (mod 4)` both quartiles of `statistics.quantiles` are the order statistics
the runner reads. -/
theorem quartiles_eq_of_three_mod_four (xs : List ℚ) (h4 : 4 ≤ xs.length) (h3 : xs.length % 4 = 3) :
    (Statistics.quantiles xs 4).getD 0 0 = (pySorted xs).getD (xs.length / 4) 0 ∧
      (Statistics.quantiles xs 4).getD 2 0 = (pySorted xs).getD (3 * xs.length / 4) 0 := by
  constructor
  · rw [quantiles_four_getD_of_dvd xs (by norm_num) h4 (by omega),
      show (0 + 1) * (xs.length + 1) / 4 - 1 = xs.length / 4 by omega]
  · rw [quantiles_four_getD_of_dvd xs (by norm_num) h4 (by omega),
      show (2 + 1) * (xs.length + 1) / 4 - 1 = 3 * xs.length / 4 by omega]

/-- The runner's quartiles are order statistics where `statistics.quantiles` interpolates: at
four runs `q25 = 2`, `q75 = 4` against `duration_p25 = 5/4`, `duration_p75 = 15/4`. -/
theorem quartiles_differ_at_four_points :
    ∃ d s, calculateDescriptiveStats [1, 2, 3, 4] = some d ∧
      lookup2 (generateStatistics (organizeResults
        ([1, 2, 3, 4].map fun x => ⟨some "fib", some "chez", true, some x, none, none⟩)))
        "fib" "chez" = some s ∧
      (d.q25, d.q75) = (2, 4) ∧ s.quartiles = some (5 / 4, 15 / 4) := by
  have hs : pySorted [1, 2, 3, 4] = [1, 2, 3, 4] := by decide
  have hq : (Statistics.quantiles [1, 2, 3, 4] 4).getD 0 0 = 5 / 4 ∧
      (Statistics.quantiles [1, 2, 3, 4] 4).getD 2 0 = 15 / 4 := by
    rw [quantiles_four_getD _ (by norm_num) (by decide),
      quantiles_four_getD _ (by norm_num) (by decide), hs]
    norm_num
  rw [generateStatistics_organizeResults]
  refine ⟨_, _, rfl, rfl, by decide, ?_⟩
  simpa [implStatsOf, RawResult.inGroup, RawResult.testName, RawResult.implName] using hq

/-- **Where the quartiles meet**: from four timings on both engines report quartiles. The
runner's are the order statistics `sorted(xs)[n // 4]` and `sorted(xs)[3 * n // 4]`; the
interpolated lower quartile of `statistics.quantiles` never exceeds the runner's, and at lengths
`n ≡ 3 (mod 4)` both quartiles coincide. -/
theorem quartiles_agree_at_three_mod_four (raw : List RawResult) (t i : String) (xs : List ℚ)
    (h4 : 4 ≤ xs.length)
    (hdur : (raw.filter (RawResult.inGroup t i)).filterMap RawResult.duration = xs) :
    ∃ d s p25 p75, calculateDescriptiveStats xs = some d ∧
      lookup2 (generateStatistics (organizeResults raw)) t i = some s ∧
      s.quartiles = some (p25, p75) ∧
      d.q25 = (pySorted xs).getD (xs.length / 4) 0 ∧
      d.q75 = (pySorted xs).getD (3 * xs.length / 4) 0 ∧
      p25 ≤ d.q25 ∧
      (xs.length % 4 = 3 → d.q25 = p25 ∧ d.q75 = p75) := by
  have hxs : xs ≠ [] := by rintro rfl; simp at h4
  rw [generateStatistics_organizeResults, implStatsOf, hdur, calculateDescriptiveStats_eq xs hxs]
  simp only [List.isEmpty_iff, hxs, if_false, ge_iff_le, h4, if_true]
  refine ⟨_, _, _, _, rfl, rfl, rfl, rfl, rfl, lower_quartile_le xs h4, fun h3 => ?_⟩
  exact (quartiles_eq_of_three_mod_four xs h4 h3).imp Eq.symm Eq.symm

/-- Seven runs, `7 % 4 = 3`: both engines report the same quartiles, the runner's at the
order statistics `sorted[7 // 4]` and `sorted[3 * 7 // 4]`. -/
theorem quartiles_agree_seven_runs :
    ∃ d s p25 p75, calculateDescriptiveStats [1, 2, 3, 4, 5, 6, 7] = some d ∧
      lookup2 (generateStatistics (organizeResults
        ([1, 2, 3, 4, 5, 6, 7].map fun x => ⟨some "fib", some "chez", true, some x, none, none⟩)))
        "fib" "chez" = some s ∧
      s.quartiles = some (p25, p75) ∧
      d.q25 = (pySorted [1, 2, 3, 4, 5, 6, 7]).getD (7 / 4) 0 ∧
      d.q75 = (pySorted [1, 2, 3, 4, 5, 6, 7]).getD (3 * 7 / 4) 0 ∧
      p25 ≤ d.q25 ∧ (7 % 4 = 3 → d.q25 = p25 ∧ d.q75 = p75) :=
  quartiles_agree_at_three_mod_four _ "fib" "chez" [1, 2, 3, 4, 5, 6, 7] (by decide) (by decide)

end LambdustBench
