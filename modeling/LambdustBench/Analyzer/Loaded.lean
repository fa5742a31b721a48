import LambdustBench.Analyzer.Runs
import LambdustBench.Python.Json

/-!
# The analyser on loaded values

`analyze_single_run` (`analyze-performance.py`, lines 42–84) reads whatever
`load_benchmark_results` returned, and `compare_benchmark_runs` (lines 86–181) computes with
what it read. Here both run on `Json` values, and raise where the code raises:

- an `AttributeError` when the document, its `overall_summary`, a category or its `summary`,
  or a test entry is not a dict (lines 50–82);
- a `TypeError` when `categories` or a category's `results` cannot be iterated or measured
  (`None`, a number or a boolean; lines 61, 66, 71), when a category's or a test's name cannot
  be hashed (lines 82, 134–135), and when a score, an execution time or an ops/sec is
  subtracted or compared with `0` while it is not a number (lines 100–101, 119–120,
  145–146).

`Loaded.TestAnalysis`, `Loaded.CategoryAnalysis` and `Loaded.RunAnalysis` are the records of
lines 48–80 with the values as loaded, under `Key`s. `RunAnalysis.toLoaded` embeds the
analyses of `Analyzer.Runs`, whose names are strings and whose values are numbers.

- `Loaded.compareAnalyses_toLoaded`: on such analyses the comparison of loaded values does not
  raise and computes `Analyzer.compareAnalyses`, so what `compare_benchmark_runs_changes` and
  `regression_reversed_iff` say of that function holds of `compare_benchmark_runs`.
- `compare_run_with_itself`: `compare_benchmark_runs(f, f)` returns `{}` exactly when `f`'s
  document is falsy; every comparison it returns lists no change and is `'stable'`; and it
  returns one whenever `f`'s analysis has string names and number values. Other values can
  make it raise: a `null` score does.
-/

namespace LambdustBench.Analyzer

namespace Loaded

/-! ## The analysis of a run -/

/-- `test_analysis` (lines 72–79). `statistical_metrics` is never read again and is left
out. -/
structure TestAnalysis where
  name : Json
  opsPerSecond : Json
  totalTimeMs : Json
  memoryUsageMb : Json
  iterations : Json
  deriving Repr

/-- `cat_analysis` (lines 62–68). -/
structure CategoryAnalysis where
  name : Json
  avgOpsPerSec : Json
  performanceGrade : Json
  testCount : Nat
  detailedResults : List TestAnalysis
  deriving Repr

/-- `analysis` (lines 48–58). `performance_characteristics`, `strengths` and
`recommendations` are only read by the report and are left out: reading them raises nothing
that reading the overall score has not raised first. -/
structure RunAnalysis where
  filePath : String
  timestamp : Json
  overallScore : Json
  totalTests : Json
  executionTime : Json
  categories : PyDict Key CategoryAnalysis
  deriving Repr

/-- The body of the test loop (lines 72–80). -/
def analyzeResult (result : Json) : Except PyError TestAnalysis := do
  let name ← result.get "test_name" (.string "Unknown")
  let opsPerSecond ← result.get "ops_per_second" (.number 0)
  let totalTimeMs ← result.get "total_time_ms" (.number 0)
  let memoryUsageMb ← result.get "memory_usage_mb" (.number 0)
  let iterations ← result.get "iterations" (.number 0)
  return ⟨name, opsPerSecond, totalTimeMs, memoryUsageMb, iterations⟩

/-- The body of the category loop (lines 62–82): the analysis and the key it is filed under,
`category.get('name', 'Unknown')`, hashed after the test loop. -/
def analyzeCategory (category : Json) : Except PyError (Key × CategoryAnalysis) := do
  let name ← category.get "name" (.string "Unknown")
  let avgOpsPerSec ← (← category.get "summary" (.object [])).get "avg_ops_per_second" (.number 0)
  let performanceGrade ←
    (← category.get "summary" (.object [])).get "performance_grade" (.string "Unknown")
  let testCount ← (← category.get "results" (.array [])).len
  let detailedResults ← (← (← category.get "results" (.array [])).iter).mapM analyzeResult
  let key ← name.key?
  return (key, ⟨name, avgOpsPerSec, performanceGrade, testCount, detailedResults⟩)

/-- One pass of the category loop: `analysis['categories'][name] = cat_analysis`; a later
category of an equal name replaces an earlier one. -/
def addCategory (categories : PyDict Key CategoryAnalysis) (category : Json) :
    Except PyError (PyDict Key CategoryAnalysis) := do
  let (key, analysis) ← analyzeCategory category
  return categories.set key analysis

/-- Lines 48–84, once `data` is known to be truthy. -/
def analyzeData (resultsFile : String) (data : Json) : Except PyError RunAnalysis := do
  let timestamp ← data.get "timestamp" (.string "unknown")
  let overallScore ←
    (← data.get "overall_summary" (.object [])).get "overall_performance_score" (.number 0)
  let totalTests ← (← data.get "overall_summary" (.object [])).get "total_tests" (.number 0)
  let executionTime ←
    (← data.get "overall_summary" (.object [])).get "total_execution_time_seconds" (.number 0)
  let categories ← (← (← data.get "categories" (.array [])).iter).foldlM addCategory ∅
  return ⟨resultsFile, timestamp, overallScore, totalTests, executionTime, categories⟩

end Loaded

/-- `analyze_single_run`. `loadBenchmarkResults` is `load_benchmark_results`: the document
`json.load` returns, and `{}` when opening or decoding the file raises. `none` stands for the
`{}` that `analyze_single_run` returns for a falsy document. -/
def analyzeSingleRun (loadBenchmarkResults : String → Json) (resultsFile : String) :
    Except PyError (Option Loaded.RunAnalysis) :=
  let data := loadBenchmarkResults resultsFile
  if !data.truthy then .ok none else some <$> Loaded.analyzeData resultsFile data

namespace Loaded

/-! ## Comparing two runs -/

/-- An entry of `comparison['regressions']` or `comparison['improvements']`. -/
structure Change where
  category : Key
  test : Key
  change : ℚ
  deriving DecidableEq, Repr

/-- An entry of `cat_comparison['test_comparisons']` (lines 150–155). -/
structure TestComparison where
  testName : Key
  baselineOpsPerSec : Json
  currentOpsPerSec : Json
  percentageChange : ℚ
  deriving Repr

/-- `cat_comparison` (lines 124–131). -/
structure CategoryComparison where
  baselineOpsPerSec : Json
  currentOpsPerSec : Json
  percentageChange : ℚ
  baselineGrade : Json
  currentGrade : Json
  testComparisons : List TestComparison
  deriving Repr

/-- `comparison` (lines 94–105). -/
structure RunComparison where
  baselineFile : String
  currentFile : String
  baselineTimestamp : Json
  currentTimestamp : Json
  overallScoreChange : ℚ
  executionTimeChange : ℚ
  categoryComparisons : PyDict Key CategoryComparison
  regressions : List Change
  improvements : List Change
  summary : ComparisonSummary
  deriving Repr

/-- `comparison['regressions']` and `comparison['improvements']` as the loops fill them. -/
structure Changes where
  regressions : List Change
  improvements : List Change
  deriving DecidableEq, Repr

/-- Lines 158–169: a change below `-10` is a regression, one above `10` an improvement. -/
def Changes.record (acc : Changes) (c : Change) : Changes :=
  if c.change < -10 then { acc with regressions := acc.regressions ++ [c] }
  else if c.change > 10 then { acc with improvements := acc.improvements ++ [c] }
  else acc

/-- `((y - x) / x) * 100` under `if x > 0:` (lines 119–120, 145–146, 259–260); `none` when
`x` is not positive. `x > 0` raises unless `x` is a number, and `y - x` unless `y` is one
too. -/
def relativeChange (x y : Json) : Except PyError (Option ℚ) :=
  match x.num? with
  | none => .error .typeError
  | some b => if 0 < b then (y.sub x).map fun d => some (d / b * 100) else .ok none

/-- `{t['name']: t for t in cat['detailed_results']}` (lines 134–135). -/
def testsByName (category : CategoryAnalysis) : Except PyError (PyDict Key TestAnalysis) :=
  category.detailedResults.foldlM (fun tests t => do return tests.set (← t.name.key?) t) ∅

/-- One pass of the test loop (lines 137–169). -/
def testStep (catName : Key) (baselineTests currentTests : PyDict Key TestAnalysis)
    (acc : List TestComparison × Changes) (testName : Key) :
    Except PyError (List TestComparison × Changes) :=
  match baselineTests.get? testName, currentTests.get? testName with
  | some b, some c => do
    let testChange := (← relativeChange b.opsPerSecond c.opsPerSecond).getD 0
    return (acc.1 ++ [⟨testName, b.opsPerSecond, c.opsPerSecond, testChange⟩],
      acc.2.record ⟨catName, testName, testChange⟩)
  | _, _ => .ok acc

/-- One pass of the category loop (lines 110–171); a category one run lacks is skipped. -/
def categoryStep (baseline current : RunAnalysis)
    (acc : PyDict Key CategoryComparison × Changes) (catName : Key) :
    Except PyError (PyDict Key CategoryComparison × Changes) :=
  match baseline.categories.get? catName, current.categories.get? catName with
  | some b, some c => do
    let percentageChange := (← relativeChange b.avgOpsPerSec c.avgOpsPerSec).getD 0
    let baselineTests ← testsByName b
    let currentTests ← testsByName c
    let tests ← (unionKeys baselineTests.keys currentTests.keys).foldlM
      (testStep catName baselineTests currentTests) ([], acc.2)
    return (acc.1.set catName
      { baselineOpsPerSec := b.avgOpsPerSec
        currentOpsPerSec := c.avgOpsPerSec
        percentageChange := percentageChange
        baselineGrade := b.performanceGrade
        currentGrade := c.performanceGrade
        testComparisons := tests.1 }, tests.2)
  | _, _ => .ok acc

/-- Lines 94–181 once both runs are analysed. -/
def compareAnalyses (baselineFile currentFile : String) (baseline current : RunAnalysis) :
    Except PyError RunComparison := do
  let scoreChange ← current.overallScore.sub baseline.overallScore
  let executionTimeChange ← current.executionTime.sub baseline.executionTime
  let loops ← (unionKeys baseline.categories.keys current.categories.keys).foldlM
    (categoryStep baseline current) (∅, ⟨[], []⟩)
  return {
      baselineFile := baselineFile
      currentFile := currentFile
      baselineTimestamp := baseline.timestamp
      currentTimestamp := current.timestamp
      overallScoreChange := scoreChange
      executionTimeChange := executionTimeChange
      categoryComparisons := loops.1
      regressions := loops.2.regressions
      improvements := loops.2.improvements
      summary :=
        { totalRegressions := loops.2.regressions.length
          totalImprovements := loops.2.improvements.length
          overallTrend := overallTrend scoreChange
          significantChanges := loops.2.regressions.length + loops.2.improvements.length } }

end Loaded

/-- `compare_benchmark_runs`: both files are analysed, and `none` stands for the `{}` it
returns when either document is falsy. -/
def compareBenchmarkRuns (loadBenchmarkResults : String → Json)
    (baselineFile currentFile : String) :
    Except PyError (Option Loaded.RunComparison) := do
  let baseline ← analyzeSingleRun loadBenchmarkResults baselineFile
  let current ← analyzeSingleRun loadBenchmarkResults currentFile
  match baseline, current with
  | some baseline, some current =>
    some <$> Loaded.compareAnalyses baselineFile currentFile baseline current
  | _, _ => return none

/-! ## Analyses with string names and number values -/

/-- A test analysis as loaded values. -/
def TestAnalysis.toLoaded (t : TestAnalysis) : Loaded.TestAnalysis :=
  ⟨.string t.name, .number t.opsPerSecond, .number t.totalTimeMs, .number t.memoryUsageMb,
    .number t.iterations⟩

/-- A category analysis as loaded values. -/
def CategoryAnalysis.toLoaded (c : CategoryAnalysis) : Loaded.CategoryAnalysis :=
  ⟨.string c.name, .number c.avgOpsPerSec, .string c.performanceGrade, c.testCount,
    c.detailedResults.map TestAnalysis.toLoaded⟩

/-- A run analysis as loaded values. -/
def RunAnalysis.toLoaded (r : RunAnalysis) : Loaded.RunAnalysis :=
  ⟨r.filePath, .string r.timestamp, .number r.overallScore, .number r.totalTests,
    .number r.executionTime, r.categories.mapKeys Key.string Key.string_injective
      CategoryAnalysis.toLoaded⟩

def Change.toLoaded (c : Change) : Loaded.Change := ⟨.string c.category, .string c.test, c.change⟩

def Changes.toLoaded (c : Changes) : Loaded.Changes :=
  ⟨c.regressions.map Change.toLoaded, c.improvements.map Change.toLoaded⟩

def TestComparison.toLoaded (t : TestComparison) : Loaded.TestComparison :=
  ⟨.string t.testName, .number t.baselineOpsPerSec, .number t.currentOpsPerSec,
    t.percentageChange⟩

def CategoryComparison.toLoaded (c : CategoryComparison) : Loaded.CategoryComparison :=
  ⟨.number c.baselineOpsPerSec, .number c.currentOpsPerSec, c.percentageChange,
    .string c.baselineGrade, .string c.currentGrade, c.testComparisons.map TestComparison.toLoaded⟩

def RunComparison.toLoaded (r : RunComparison) : Loaded.RunComparison :=
  ⟨r.baselineFile, r.currentFile, .string r.baselineTimestamp, .string r.currentTimestamp,
    r.overallScoreChange, r.executionTimeChange,
    r.categoryComparisons.mapKeys Key.string Key.string_injective CategoryComparison.toLoaded,
    r.regressions.map Change.toLoaded, r.improvements.map Change.toLoaded, r.summary⟩

namespace Loaded

theorem relativeChange_number (x y : ℚ) :
    relativeChange (.number x) (.number y) =
      .ok (if 0 < x then some (Analyzer.percentageChange x y) else none) := by
  by_cases hx : 0 < x <;> simp [relativeChange, Json.num?, Analyzer.percentageChange, hx,
    Except.map]

@[simp] theorem getD_relativeChange (x y : ℚ) :
    (if 0 < x then some (Analyzer.percentageChange x y) else none).getD 0 =
      Analyzer.percentageChange x y := by
  by_cases hx : 0 < x
  · simp [hx]
  · simp [hx, percentageChange_of_nonpos (not_lt.mp hx)]

theorem record_toLoaded (acc : Analyzer.Changes) (c : Analyzer.Change) :
    acc.toLoaded.record c.toLoaded = (acc.record c).toLoaded := by
  unfold Changes.record Analyzer.Changes.record
  split_ifs <;> simp_all [Analyzer.Changes.toLoaded, Analyzer.Change.toLoaded]

theorem testsByName_toLoaded (c : Analyzer.CategoryAnalysis) :
    testsByName c.toLoaded =
      .ok ((Analyzer.testsByName c).mapKeys Key.string Key.string_injective
        Analyzer.TestAnalysis.toLoaded) := by
  simp only [testsByName, Analyzer.CategoryAnalysis.toLoaded, Analyzer.testsByName,
    PyDict.ofList, List.foldl_map]
  exact foldlM_simulates (PyDict.mapKeys Key.string Key.string_injective _)
    (fun d t => by simp [Analyzer.TestAnalysis.toLoaded, PyDict.mapKeys_set, bind, Except.bind,
      pure, Except.pure]) _ ∅

/-- The test loop on string names and number values is that of `Analyzer.testStep`. -/
theorem testStep_toLoaded (cat : String) (bt ct : PyDict String Analyzer.TestAnalysis)
    (acc : List Analyzer.TestComparison × Analyzer.Changes) (t : String) :
    testStep (.string cat) (bt.mapKeys Key.string Key.string_injective Analyzer.TestAnalysis.toLoaded)
        (ct.mapKeys Key.string Key.string_injective Analyzer.TestAnalysis.toLoaded)
        (acc.1.map Analyzer.TestComparison.toLoaded, acc.2.toLoaded) (.string t) =
      .ok (((Analyzer.testStep cat bt ct acc t).1.map Analyzer.TestComparison.toLoaded),
        (Analyzer.testStep cat bt ct acc t).2.toLoaded) := by
  unfold testStep Analyzer.testStep
  simp only [PyDict.get?_mapKeys]
  cases bt.get? t <;> cases ct.get? t <;>
    simp [Analyzer.TestAnalysis.toLoaded, relativeChange_number, bind, Except.bind, pure,
      Except.pure, Analyzer.TestComparison.toLoaded, ← record_toLoaded, Analyzer.Change.toLoaded]

theorem foldlM_testStep_toLoaded (cat : String) (bt ct : PyDict String Analyzer.TestAnalysis)
    (names : List String) (acc : List Analyzer.TestComparison × Analyzer.Changes) :
    (names.map Key.string).foldlM
        (testStep (.string cat)
          (bt.mapKeys Key.string Key.string_injective Analyzer.TestAnalysis.toLoaded)
          (ct.mapKeys Key.string Key.string_injective Analyzer.TestAnalysis.toLoaded))
        (acc.1.map Analyzer.TestComparison.toLoaded, acc.2.toLoaded) =
      .ok ((names.foldl (Analyzer.testStep cat bt ct) acc).1.map Analyzer.TestComparison.toLoaded,
        (names.foldl (Analyzer.testStep cat bt ct) acc).2.toLoaded) :=
  foldlM_simulates (fun acc => (acc.1.map Analyzer.TestComparison.toLoaded, acc.2.toLoaded))
    (testStep_toLoaded cat bt ct) names acc

@[simp] theorem toLoaded_categories (r : Analyzer.RunAnalysis) :
    r.toLoaded.categories =
      r.categories.mapKeys Key.string Key.string_injective Analyzer.CategoryAnalysis.toLoaded := rfl

/-- The category loop on string names and number values is that of `Analyzer.categoryStep`. -/
theorem categoryStep_toLoaded (baseline current : Analyzer.RunAnalysis)
    (acc : PyDict String Analyzer.CategoryComparison × Analyzer.Changes) (cat : String) :
    categoryStep baseline.toLoaded current.toLoaded
        (acc.1.mapKeys Key.string Key.string_injective Analyzer.CategoryComparison.toLoaded,
          acc.2.toLoaded) (.string cat) =
      .ok ((Analyzer.categoryStep baseline current acc cat).1.mapKeys Key.string
          Key.string_injective Analyzer.CategoryComparison.toLoaded,
        (Analyzer.categoryStep baseline current acc cat).2.toLoaded) := by
  unfold categoryStep Analyzer.categoryStep
  simp only [toLoaded_categories, PyDict.get?_mapKeys]
  cases baseline.categories.get? cat <;> cases current.categories.get? cat
  all_goals try rfl
  rename_i b c
  have htests := foldlM_testStep_toLoaded cat (Analyzer.testsByName b) (Analyzer.testsByName c)
    (unionKeys (Analyzer.testsByName b).keys (Analyzer.testsByName c).keys) ([], acc.2)
  simp only [List.map_nil] at htests
  simp only [Option.map_some', testsByName_toLoaded]
  simp [Analyzer.CategoryAnalysis.toLoaded, relativeChange_number,
    unionKeys_map Key.string_injective, htests, bind, Except.bind, pure, Except.pure,
    PyDict.mapKeys_set, Analyzer.CategoryComparison.toLoaded]

/-- **The comparison of loaded values refines the numeric one**: on analyses whose names are
strings and whose values are numbers it does not raise, and it computes
`Analyzer.compareAnalyses`. -/
theorem compareAnalyses_toLoaded (bf cf : String) (baseline current : Analyzer.RunAnalysis) :
    compareAnalyses bf cf baseline.toLoaded current.toLoaded =
      .ok (Analyzer.compareAnalyses bf cf baseline current).toLoaded := by
  have hloops := foldlM_simulates
    (fun acc : PyDict String Analyzer.CategoryComparison × Analyzer.Changes =>
      (acc.1.mapKeys Key.string Key.string_injective Analyzer.CategoryComparison.toLoaded,
        acc.2.toLoaded))
    (categoryStep_toLoaded baseline current)
    (unionKeys baseline.categories.keys current.categories.keys) (∅, ⟨[], []⟩)
  simp only [PyDict.mapKeys_empty, Analyzer.Changes.toLoaded, List.map_nil] at hloops
  simp [compareAnalyses, Analyzer.compareAnalyses, Analyzer.RunAnalysis.toLoaded,
    Analyzer.RunComparison.toLoaded, unionKeys_map Key.string_injective, bind, Except.bind,
    pure, Except.pure, Analyzer.Changes.toLoaded] at hloops ⊢
  simp [hloops]

/-! ## A run compared with itself -/

/-- A change against the same value is `0`, whenever it does not raise. -/
theorem relativeChange_self {x : Json} {r : Option ℚ} (h : relativeChange x x = .ok r) :
    r.getD 0 = 0 := by
  unfold relativeChange at h
  cases hx : x.num? with
  | none => simp [hx] at h
  | some b =>
    simp only [hx] at h
    split_ifs at h
    · cases hd : x.sub x with
      | error e => simp [hd, Except.map] at h
      | ok d =>
        simp only [hd, Except.map, Except.ok.injEq] at h
        simp [← h, Json.sub_self_eq_zero hd]
    · cases h; rfl

theorem record_zero (acc : Changes) (cat test : Key) : acc.record ⟨cat, test, 0⟩ = acc := by
  norm_num [Changes.record]

theorem testStep_self {cat : Key} {tests : PyDict Key TestAnalysis}
    {acc acc' : List TestComparison × Changes} {t : Key}
    (h : testStep cat tests tests acc t = .ok acc') :
    acc'.2 = acc.2 := by
  unfold testStep at h
  cases hb : tests.get? t with
  | none => simp only [hb, Except.ok.injEq] at h; rw [h]
  | some b =>
    simp only [hb] at h
    obtain ⟨r, hr, h⟩ := bind_eq_ok.mp h
    simp only [pure, Except.pure, Except.ok.injEq] at h
    rw [← h, relativeChange_self hr, record_zero]

theorem categoryStep_self {run : RunAnalysis} {acc acc' : PyDict Key CategoryComparison × Changes}
    {cat : Key} (h : categoryStep run run acc cat = .ok acc') : acc'.2 = acc.2 := by
  unfold categoryStep at h
  cases hc : run.categories.get? cat with
  | none => simp only [hc, Except.ok.injEq] at h; rw [h]
  | some c =>
    simp only [hc] at h
    obtain ⟨r, -, h⟩ := bind_eq_ok.mp h
    obtain ⟨tests, htests, h⟩ := bind_eq_ok.mp h
    obtain ⟨tests', htests', h⟩ := bind_eq_ok.mp h
    cases htests.symm.trans htests'
    obtain ⟨loop, hloop, h⟩ := bind_eq_ok.mp h
    simp only [pure, Except.pure, Except.ok.injEq] at h
    rw [← h]
    exact foldlM_invariant (fun x => x.2 = acc.2) (fun _ _ _ hb hs => (testStep_self hs).trans hb)
      _ rfl hloop

/-- Comparing an analysis with itself lists no change and is `'stable'`, whenever it does not
raise. -/
theorem compareAnalyses_self {file : String} {run : RunAnalysis} {r : RunComparison}
    (h : compareAnalyses file file run run = .ok r) :
    r.regressions = [] ∧ r.improvements = [] ∧ r.summary.significantChanges = 0 ∧
      r.summary.overallTrend = "stable" := by
  unfold compareAnalyses at h
  obtain ⟨d, hd, h⟩ := bind_eq_ok.mp h
  obtain ⟨e, -, h⟩ := bind_eq_ok.mp h
  obtain ⟨loops, hloops, h⟩ := bind_eq_ok.mp h
  simp only [pure, Except.pure, Except.ok.injEq] at h
  have hnone : loops.2 = ⟨[], []⟩ := foldlM_invariant (fun x => x.2 = ⟨[], []⟩)
    (fun _ _ _ hb hs => (categoryStep_self hs).trans hb) _ rfl hloops
  simp [← h, hnone, Json.sub_self_eq_zero hd, overallTrend]

end Loaded

theorem map_some_ne_ok_none {ε α : Type} (x : Except ε α) : some <$> x ≠ .ok none := by
  cases x <;> simp [Functor.map, Except.map]

theorem analyzeSingleRun_eq_none_iff (loadBenchmarkResults : String → Json) (file : String) :
    analyzeSingleRun loadBenchmarkResults file = .ok none ↔
      (loadBenchmarkResults file).truthy = false := by
  cases h : (loadBenchmarkResults file).truthy <;> simp [analyzeSingleRun, h, map_some_ne_ok_none]

/-- **`compare_benchmark_runs` computes the numeric comparison**: when both files load to
analyses with string names and number values, it returns the comparison of
`Analyzer.compareAnalyses` on them. -/
theorem compareBenchmarkRuns_toLoaded (loadBenchmarkResults : String → Json) (bf cf : String)
    (baseline current : RunAnalysis)
    (hb : analyzeSingleRun loadBenchmarkResults bf = .ok (some baseline.toLoaded))
    (hc : analyzeSingleRun loadBenchmarkResults cf = .ok (some current.toLoaded)) :
    compareBenchmarkRuns loadBenchmarkResults bf cf =
      .ok (some (compareAnalyses bf cf baseline current).toLoaded) := by
  simp [compareBenchmarkRuns, hb, hc, bind, Except.bind, Loaded.compareAnalyses_toLoaded,
    Functor.map, Except.map]

/-- **A run compared with itself.** `compare_benchmark_runs(f, f)` returns `{}` exactly when
`f`'s document is falsy. Every comparison it returns lists no regression and no improvement,
and its overall trend is `'stable'`. It returns one whenever `f`'s analysis has string names
and number values. -/
theorem compare_run_with_itself (loadBenchmarkResults : String → Json) (file : String) :
    (compareBenchmarkRuns loadBenchmarkResults file file = .ok none ↔
      (loadBenchmarkResults file).truthy = false) ∧
    (∀ r, compareBenchmarkRuns loadBenchmarkResults file file = .ok (some r) →
      r.regressions = [] ∧ r.improvements = [] ∧ r.summary.significantChanges = 0 ∧
        r.summary.overallTrend = "stable") ∧
    (∀ run : RunAnalysis, analyzeSingleRun loadBenchmarkResults file = .ok (some run.toLoaded) →
      ∃ r, compareBenchmarkRuns loadBenchmarkResults file file = .ok (some r)) := by
  rw [← analyzeSingleRun_eq_none_iff]
  cases ha : analyzeSingleRun loadBenchmarkResults file with
  | error e => simp [compareBenchmarkRuns, ha, bind, Except.bind]
  | ok a =>
    cases a with
    | none => simp [compareBenchmarkRuns, ha, bind, Except.bind, pure, Except.pure]
    | some a =>
      refine ⟨by simp [compareBenchmarkRuns, ha, bind, Except.bind, map_some_ne_ok_none],
        fun r h => ?_, fun run h =>
          ⟨_, compareBenchmarkRuns_toLoaded _ _ _ run run (ha.trans h) (ha.trans h)⟩⟩
      cases hc : Loaded.compareAnalyses file file a a <;>
        simp [compareBenchmarkRuns, ha, hc, bind, Except.bind, Functor.map, Except.map] at h
      exact h ▸ Loaded.compareAnalyses_self hc

/-- A document whose overall score is `null` loads, and comparing it with itself raises the
`TypeError` of `None - None`; an array document raises an `AttributeError` at `data.get`. -/
example :
    compareBenchmarkRuns (fun _ => .object [("overall_summary",
        .object [("overall_performance_score", .null)])]) "run.json" "run.json" =
      .error .typeError ∧
    analyzeSingleRun (fun _ => .array [.null]) "run.json" = .error .attributeError := ⟨rfl, rfl⟩

end LambdustBench.Analyzer
