import LambdustBench.Analysis.Descriptive
import LambdustBench.Runner.Sandbox

/-!
# `perform_statistical_analysis`

`BenchmarkRunner.perform_statistical_analysis` (run_comprehensive_benchmarks.py:360–407)
groups the successful records of `native_results` by the test key
`f"{category}_{test_name}"` and the implementation id, stores one dict of
`calculate_descriptive_stats` per group under `f"{test_key}_{impl_id}"`, and compares every
pair of implementations of a test key with `compare_implementations` (lines 434–472). An
exception of any comparison escapes the whole analysis.

- `lookup2_groupResults`: the group of a test key and an implementation holds the timings of
  the *last* successful record of that implementation with that key. Every earlier record,
  another parameter combination of the same test or a test whose key joins to the same
  string, is overwritten.
- `performStatisticalAnalysis_filterSuccess`: failed records never reach a group, so the
  analysis of a results map is that of its successful records.
- `compareImplementations_ok_iff`, `performStatisticalAnalysis_ok_iff`: a comparison raises
  `ZeroDivisionError` exactly when both timing lists are singletons (`nA + nB - 2 = 0`), and
  the analysis returns normally exactly when no test key has such a pair.
- `descriptive_stats_lose_samples`, `statistical_analysis_divides_by_zero`: the two failing
  inputs.
- `compareImplementations_swap`: swapping the arguments negates the effect size and keeps the
  significance and, when the means differ, the winner; on equal means each call names its
  `impl_b` (line 471), so `ties_go_to_impl_b` names different winners.
-/

namespace LambdustBench

/-- The `native_results` map: implementation id to the records of its sweep. -/
abbrev NativeResults := PyDict String (List ExecutionResult)

/-- `f"{result['category']}_{result['test_name']}"` (line 372). -/
def ExecutionResult.testKey (r : ExecutionResult) : String := r.category ++ "_" ++ r.testName

/-- `grouped_results`: test key, then implementation id, to timings. -/
abbrev Grouped := PyDict String (PyDict String (List ℚ))

/-! ## Grouping -/

/-- One record of the grouping loop (lines 368–376):
`grouped_results[test_key][impl_id] = result['timing_results']` for a successful record. -/
def groupStep (implId : String) (g : Grouped) (r : ExecutionResult) : Grouped :=
  if r.success then g.set r.testKey (((g.get? r.testKey).getD ∅).set implId r.timingResults)
  else g

/-- The grouping loop over every implementation's records (lines 365–376). -/
def groupResults (results : NativeResults) : Grouped :=
  results.items.foldl (fun g entry => entry.2.foldl (groupStep entry.1) g) ∅

/-- The timings of the last successful record of `rs` with test key `t`. -/
def lastTimings (rs : List ExecutionResult) (t : String) : Option (List ℚ) :=
  (rs.filter fun r => r.success && r.testKey == t).getLast?.map ExecutionResult.timingResults

theorem lastTimings_append_singleton (rs : List ExecutionResult) (r : ExecutionResult) (t : String) :
    lastTimings (rs ++ [r]) t =
      if r.success ∧ r.testKey = t then some r.timingResults else lastTimings rs t := by
  unfold lastTimings
  split_ifs with h
  · simp [List.filter_append, h]
  · have hf : (r.success && r.testKey == t) = false := by simpa using h
    simp [List.filter_append, List.filter_cons, hf]

theorem lookup2_groupStep (j : String) (g : Grouped) (r : ExecutionResult) (t i : String) :
    lookup2 (groupStep j g r) t i =
      if r.success ∧ r.testKey = t ∧ j = i then some r.timingResults else lookup2 g t i := by
  unfold groupStep
  by_cases hs : r.success <;> simp [hs, lookup2_set_set]

/-- The records of one implementation write only to its own groups, last record last. -/
theorem lookup2_foldl_groupStep (j : String) (rs : List ExecutionResult) (g : Grouped)
    (t i : String) :
    lookup2 (rs.foldl (groupStep j) g) t i =
      if j = i then (lastTimings rs t).or (lookup2 g t i) else lookup2 g t i := by
  induction rs using List.reverseRecOn with
  | nil => simp [lastTimings]
  | append_singleton rs r ih =>
    rw [List.foldl_append, List.foldl_cons, List.foldl_nil, lookup2_groupStep, ih,
      lastTimings_append_singleton]
    split_ifs <;> simp_all

/-- **Spec of the grouping loop**: `grouped_results[t][i]` holds the timings of the last
successful record of implementation `i` with test key `t`. -/
theorem lookup2_groupResults (results : NativeResults) (t i : String) :
    lookup2 (groupResults results) t i = (results.get? i).bind (lastTimings · t) := by
  suffices ∀ (l : List (String × List ExecutionResult)) (g : Grouped), (l.map Prod.fst).Nodup →
      lookup2 (l.foldl (fun g entry => entry.2.foldl (groupStep entry.1) g) g) t i =
        ((PyDict.lookup l i).bind (lastTimings · t)).or (lookup2 g t i) from
    (this results.items ∅ results.nodup).trans Option.or_none
  intro l
  induction l with
  | nil => simp [PyDict.lookup]
  | cons e l ih =>
    intro g hl
    obtain ⟨j, rs⟩ := e
    rw [List.map_cons, List.nodup_cons] at hl
    rw [List.foldl_cons, ih _ hl.2, lookup2_foldl_groupStep]
    by_cases hj : j = i
    · subst hj
      simp [PyDict.lookup, (PyDict.lookup_eq_none_iff l j).2 hl.1]
    · simp [PyDict.lookup, hj]

/-! ## Failed records -/

/-- `filterSuccess(r)`: the same implementations, each without its failed records. -/
def filterSuccess (results : NativeResults) : NativeResults :=
  results.mapValues fun _ rs => rs.filter ExecutionResult.success

theorem foldl_groupStep_filter (j : String) (rs : List ExecutionResult) (g : Grouped) :
    (rs.filter ExecutionResult.success).foldl (groupStep j) g = rs.foldl (groupStep j) g := by
  induction rs generalizing g with
  | nil => rfl
  | cons r rs ih => by_cases hs : r.success <;> simp [List.filter_cons, hs, groupStep, ih]

/-- The grouping loop skips failed records: it groups a map as it groups its successful
records. -/
theorem groupResults_filterSuccess (results : NativeResults) :
    groupResults (filterSuccess results) = groupResults results := by
  simp only [groupResults, filterSuccess, PyDict.mapValues_items, List.foldl_map,
    foldl_groupStep_filter]

/-! ## `compare_implementations` -/

/-- A `compare_implementations` record. `means` (`mean_a`, `mean_b`) and `winner` are absent
from the record of an empty input (lines 437–445). -/
structure Comparison where
  implA : String
  implB : String
  test : String
  means : Option (ℚ × ℚ)
  effectSize : Radical
  significant : Bool
  performanceRatio : ℚ
  winner : Option String
  deriving DecidableEq, Repr

/-- `compare_implementations` (lines 434–472). The pooled variance divides by
`len(data_a) + len(data_b) - 2`, an `int` that is zero for two singletons. -/
def compareImplementations (dataA dataB : List ℚ) (implA implB testKey : String) :
    Except PyError Comparison :=
  if dataA.isEmpty || dataB.isEmpty then .ok ⟨implA, implB, testKey, none, 0, false, 1, none⟩ else
  let meanA := dataA.sum / dataA.length
  let meanB := dataB.sum / dataB.length
  let dof : Int := dataA.length + dataB.length - 2
  if dof = 0 then .error .zeroDivision else
  let pooledStd := Radical.sqrt (((dataA.map fun x => (x - meanA) ^ 2).sum +
    (dataB.map fun x => (x - meanB) ^ 2).sum) / dof)
  let effectSize := if 0 < pooledStd then Radical.divBy (meanA - meanB) pooledStd else 0
  .ok { implA, implB, test := testKey, means := some (meanA, meanB), effectSize,
        significant := decide (Radical.ofRat (1 / 2) < effectSize.abs),
        performanceRatio := if meanA > 0 then meanB / meanA else 1,
        winner := some (if meanA < meanB then implA else implB) }

/-- **When `compare_implementations` returns**: on every pair of timing lists except two
singletons, where it raises `ZeroDivisionError`. -/
theorem compareImplementations_ok_iff (dataA dataB : List ℚ) (implA implB testKey : String) :
    (∃ c, compareImplementations dataA dataB implA implB testKey = .ok c) ↔
      ¬(dataA.length = 1 ∧ dataB.length = 1) := by
  unfold compareImplementations
  by_cases he : (dataA.isEmpty || dataB.isEmpty) = true
  · rw [if_pos he]
    have : dataA.length = 0 ∨ dataB.length = 0 := by simpa using he
    exact iff_of_true ⟨_, rfl⟩ (by omega)
  · rw [if_neg he]
    have : dataA.length ≠ 0 ∧ dataB.length ≠ 0 := by simpa using he
    by_cases hdof : (dataA.length : Int) + dataB.length - 2 = 0
    · rw [if_pos hdof]
      exact iff_of_false (fun ⟨_, h⟩ => nomatch h) (by omega)
    · rw [if_neg hdof]
      exact iff_of_true ⟨_, rfl⟩ (by omega)

/-- **The two orders of a comparison**: when `compare_implementations(a, b, x, y)` and
`compare_implementations(b, a, y, x)` both return on non-empty timings, the effect sizes are
opposite and the significance flags agree. When the means differ both name the same winner, the
implementation with the smaller mean; when they are equal the strict `mean_a < mean_b` hands
each call's win to its own `impl_b`. -/
theorem compareImplementations_swap (a b : List ℚ) (x y t : String) (ha : a ≠ []) (hb : b ≠ [])
    (c c' : Comparison) (h : compareImplementations a b x y t = .ok c)
    (h' : compareImplementations b a y x t = .ok c') :
    c'.effectSize = -c.effectSize ∧ c'.significant = c.significant ∧
      (Statistics.mean a ≠ Statistics.mean b → c.winner = c'.winner ∧
        c.winner = some (if Statistics.mean a < Statistics.mean b then x else y)) ∧
      (Statistics.mean a = Statistics.mean b → c.winner = some y ∧ c'.winner = some x) := by
  have hab : ¬ ((a.isEmpty || b.isEmpty) = true) := by simp [ha, hb]
  have hba : ¬ ((b.isEmpty || a.isEmpty) = true) := by simp [ha, hb]
  by_cases hdof : (a.length : Int) + b.length - 2 = 0
  · rw [compareImplementations, if_neg hab, if_pos hdof] at h; cases h
  have hdof' : (b.length : Int) + a.length - 2 = a.length + b.length - 2 := by omega
  rw [compareImplementations, if_neg hab, if_neg hdof] at h
  rw [compareImplementations, if_neg hba, hdof', if_neg hdof] at h'
  cases h; cases h'
  simp only [Statistics.mean]
  generalize a.sum / a.length = ma, b.sum / b.length = mb
  rw [add_comm ((b.map fun x => (x - mb) ^ 2).sum)]
  generalize Radical.sqrt (((a.map fun x => (x - ma) ^ 2).sum + (b.map fun x => (x - mb) ^ 2).sum) /
    ((a.length + b.length - 2 : Int) : ℚ)) = p
  have heff : (if 0 < p then Radical.divBy (mb - ma) p else 0) =
      -(if 0 < p then Radical.divBy (ma - mb) p else 0) := by
    split
    · exact Radical.divBy_sub_comm mb ma p
    · exact Radical.neg_zero.symm
  rw [heff, Radical.abs_neg]
  refine ⟨rfl, rfl, fun hne => ?_, fun heq => ?_⟩
  · rcases lt_or_gt_of_ne hne with h | h <;> simp only [if_pos h, if_neg (not_lt.2 h.le), and_true]
  · simp only [heq, lt_irrefl, if_false, and_self]

/-- Two runs each, means `3 / 2` and `4`, compared in both orders. -/
theorem swapped_comparison_of_two_runs :
    ∃ c c', compareImplementations [1, 2] [3, 5] "chez" "guile" "recursion_fib" = .ok c ∧
      compareImplementations [3, 5] [1, 2] "guile" "chez" "recursion_fib" = .ok c' ∧
      c'.effectSize = -c.effectSize ∧ c'.significant = c.significant ∧
      (Statistics.mean [1, 2] ≠ Statistics.mean [3, 5] → c.winner = c'.winner ∧
        c.winner = some (if Statistics.mean [1, 2] < Statistics.mean [3, 5] then "chez" else "guile")) ∧
      (Statistics.mean [1, 2] = Statistics.mean [3, 5] → c.winner = some "guile" ∧
        c'.winner = some "chez") :=
  ⟨_, _, rfl, rfl, compareImplementations_swap [1, 2] [3, 5] "chez" "guile" "recursion_fib"
    (by simp) (by simp) _ _ rfl rfl⟩

/-- Equal means (`2` and `2`): each order of the comparison names its own `impl_b`, so the two
calls disagree on the winner. -/
theorem ties_go_to_impl_b :
    ∃ c c', compareImplementations [1, 3] [2, 2] "chez" "guile" "recursion_fib" = .ok c ∧
      compareImplementations [2, 2] [1, 3] "guile" "chez" "recursion_fib" = .ok c' ∧
      c.winner = some "guile" ∧ c'.winner = some "chez" := by
  refine ⟨_, _, rfl, rfl, ?_, ?_⟩ <;> norm_num

/-! ## The analysis -/

/-- The pairs `(impl_ids[i], impl_ids[j])`, `i < j`, of lines 394–396, in loop order. -/
def pairs {α : Type} : List α → List (α × α)
  | [] => []
  | a :: rest => rest.map (a, ·) ++ pairs rest

/-- The comparisons of one test key (lines 393–405); both ids are always in `test_data`. -/
def compareTest (testKey : String) (testData : PyDict String (List ℚ)) :
    Except PyError (List Comparison) :=
  (pairs testData.items).mapM fun ab => compareImplementations ab.1.2 ab.2.2 ab.1.1 ab.2.1 testKey

/-- The descriptive statistics of one test key (lines 387–391): `none` from
`calculateDescriptiveStats` is the `if timings:` guard failing. -/
def describeTest (testKey : String) (testData : PyDict String (List ℚ))
    (stats : PyDict String DescriptiveStats) : PyDict String DescriptiveStats :=
  testData.items.foldl (fun st entry =>
    match calculateDescriptiveStats entry.2 with
    | some d => st.set (testKey ++ "_" ++ entry.1) d
    | none => st) stats

/-- The keys of `statistical_results` the analysis fills; `effect_sizes` and `outliers` stay
`{}`. -/
structure StatisticalResults where
  descriptiveStats : PyDict String DescriptiveStats
  pairwiseComparisons : List Comparison
  deriving DecidableEq, Repr

/-- One test key of the loop of lines 386–405. -/
def analyzeTest (acc : StatisticalResults) (test : String × PyDict String (List ℚ)) :
    Except PyError StatisticalResults := do
  let comparisons ← compareTest test.1 test.2
  pure ⟨describeTest test.1 test.2 acc.descriptiveStats, acc.pairwiseComparisons ++ comparisons⟩

/-- `perform_statistical_analysis` (lines 360–407). -/
def performStatisticalAnalysis (results : NativeResults) : Except PyError StatisticalResults :=
  (groupResults results).items.foldlM analyzeTest ⟨∅, []⟩

/-- **Failed records change nothing**: the analysis of a results map is that of its
successful records. -/
theorem performStatisticalAnalysis_filterSuccess (results : NativeResults) :
    performStatisticalAnalysis (filterSuccess results) = performStatisticalAnalysis results := by
  rw [performStatisticalAnalysis, groupResults_filterSuccess, performStatisticalAnalysis]

theorem mapM_ok_iff {α β ε : Type} (f : α → Except ε β) (l : List α) :
    (∃ ys, l.mapM f = .ok ys) ↔ ∀ x ∈ l, ∃ y, f x = .ok y := by
  induction l with
  | nil => exact iff_of_true ⟨[], rfl⟩ (by simp)
  | cons x l ih =>
    simp only [List.mapM_cons, List.mem_cons, forall_eq_or_imp, ← ih]
    cases f x <;> cases l.mapM f <;> simp [bind, Except.bind, pure, Except.pure]

theorem compareTest_ok_iff (testKey : String) (testData : PyDict String (List ℚ)) :
    (∃ cs, compareTest testKey testData = .ok cs) ↔
      ∀ ab ∈ pairs testData.items, ¬(ab.1.2.length = 1 ∧ ab.2.2.length = 1) := by
  simp only [compareTest, mapM_ok_iff, compareImplementations_ok_iff]

theorem foldlM_analyzeTest_ok_iff (l : List (String × PyDict String (List ℚ)))
    (acc : StatisticalResults) :
    (∃ R, l.foldlM analyzeTest acc = .ok R) ↔ ∀ t ∈ l, ∃ cs, compareTest t.1 t.2 = .ok cs := by
  induction l generalizing acc with
  | nil => simp [pure, Except.pure]
  | cons t l ih =>
    simp only [List.foldlM_cons, List.mem_cons, forall_eq_or_imp, analyzeTest]
    cases compareTest t.1 t.2 <;> simp only [bind, Except.bind, pure, Except.pure, ih, reduceCtorEq,
      exists_false, false_and, Except.ok.injEq, exists_eq', true_and]

/-- **When `perform_statistical_analysis` returns**: exactly when no test key has two
implementations whose groups hold one timing each. -/
theorem performStatisticalAnalysis_ok_iff (results : NativeResults) :
    (∃ R, performStatisticalAnalysis results = .ok R) ↔
      ∀ t ∈ (groupResults results).items, ∀ ab ∈ pairs t.2.items,
        ¬(ab.1.2.length = 1 ∧ ab.2.2.length = 1) := by
  simp only [performStatisticalAnalysis, foldlM_analyzeTest_ok_iff, compareTest_ok_iff]

/-! ## Failing inputs -/

/-- Two parameter combinations of `recursion/fib`, and two triples whose keys join to
`"a_b_c_d"`: five successful samples, of which the descriptive statistics count three, in
two entries for three `(category, test, implementation)` triples. -/
theorem descriptive_stats_lose_samples :
    let results : NativeResults := ⟨[
      ("chez", [.ofTimings "chez" "fib" "recursion" (.ofList [("n", .int 10)]) [1],
                .ofTimings "chez" "fib" "recursion" (.ofList [("n", .int 20)]) [2, 3]]),
      ("c_d", [.ofTimings "c_d" "b" "a" ∅ [4]]),
      ("d", [.ofTimings "d" "b_c" "a" ∅ [5]])], by decide⟩
    ∃ R, performStatisticalAnalysis results = .ok R ∧
      R.descriptiveStats.keys = ["recursion_fib_chez", "a_b_c_d"] ∧
      R.descriptiveStats.items.map (·.2.count) = [2, 1] ∧
      ((results.items.flatMap (·.2)).filter ExecutionResult.success |>.map
        (·.timingResults.length)).sum = 5 :=
  ⟨_, rfl, by decide, by decide, by decide⟩

/-- Two implementations with one timing each for the same test: the analysis raises. -/
theorem statistical_analysis_divides_by_zero :
    performStatisticalAnalysis ⟨[
      ("chez", [.ofTimings "chez" "fib" "recursion" ∅ [1]]),
      ("guile", [.ofTimings "guile" "fib" "recursion" ∅ [2]])], by decide⟩ =
      .error .zeroDivision := rfl

end LambdustBench
