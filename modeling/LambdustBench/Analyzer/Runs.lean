import LambdustBench.Python.Runtime
import Mathlib.Algebra.Order.Field.Basic
import Mathlib.Tactic.Linarith

/-!
# Comparing two benchmark runs (`analyze-performance.py`)

`PerformanceAnalyzer` reads the JSON results files that benchmark runs leave behind.
`analyze_single_run` (lines 42–84) turns a file into an analysis: the run's timestamp,
overall score, test count and execution time, and per category its average ops/sec, grade
and test entries. `compare_benchmark_runs` (lines 86–181) computes, for every category both
runs have and every test both have in it, the percentage change of its ops/sec. A change
below `-10` % is listed as a regression, one above `10` % as an improvement.

This module is the comparison of analyses whose names are strings and whose values are
numbers (`compareAnalyses`). `Analyzer.Loaded` runs the code on whatever `json.load`
returned, with the exceptions it raises, and proves that on such analyses it computes
`compareAnalyses` and does not raise.

The loops run over `set(a) | set(b)`. CPython iterates a set of strings in hash order, which
changes with the process's hash seed; the model takes first-appearance order (`unionKeys`),
and everything proved below is about which tests are listed, not in which order. Floats are
exact rationals.

- `compare_benchmark_runs_changes`: the regressions are exactly the tests of a common
  category that both runs report and whose ops/sec fell by more than 10 %, the improvements
  exactly those whose ops/sec rose by more than 10 %, and no test is listed twice.
- `regression_reversed_iff`: comparing the runs the other way round lists a regression as an
  improvement exactly when its current ops/sec is positive; a test that fell to `0` ops/sec
  is a regression one way and nothing the other way.
-/

namespace LambdustBench.Analyzer

/-! ## The analysis of a run -/

/-- `test_analysis` (lines 72–79) when the values are numbers and the name a string. -/
structure TestAnalysis where
  name : String
  opsPerSecond : ℚ
  totalTimeMs : ℚ
  memoryUsageMb : ℚ
  iterations : ℚ
  deriving DecidableEq, Repr

/-- `cat_analysis` (lines 62–68) when the values are numbers and the names strings. -/
structure CategoryAnalysis where
  name : String
  avgOpsPerSec : ℚ
  performanceGrade : String
  testCount : Nat
  detailedResults : List TestAnalysis
  deriving DecidableEq, Repr

/-- `analysis` (lines 48–58) when the values are numbers and the names strings. -/
structure RunAnalysis where
  filePath : String
  timestamp : String
  overallScore : ℚ
  totalTests : ℚ
  executionTime : ℚ
  categories : PyDict String CategoryAnalysis
  deriving DecidableEq, Repr

/-! ## Comparing two runs -/

/-- `set(a) | set(b)` in the order the model iterates it: the names of `a`, then those of `b`
not in `a`. -/
def unionKeys {κ : Type} [DecidableEq κ] (a b : List κ) : List κ := a ++ b.filter (· ∉ a)

/-- `((current_ops - baseline_ops) / baseline_ops) * 100`, and `0` unless
`baseline_ops > 0` (lines 119–122 and 145–148). -/
def percentageChange (baselineOps currentOps : ℚ) : ℚ :=
  if baselineOps > 0 then (currentOps - baselineOps) / baselineOps * 100 else 0

/-- An entry of `comparison['regressions']` or `comparison['improvements']`. -/
structure Change where
  category : String
  test : String
  change : ℚ
  deriving DecidableEq, Repr

/-- An entry of `cat_comparison['test_comparisons']` (lines 150–155). -/
structure TestComparison where
  testName : String
  baselineOpsPerSec : ℚ
  currentOpsPerSec : ℚ
  percentageChange : ℚ
  deriving DecidableEq, Repr

/-- `cat_comparison` (lines 124–131). -/
structure CategoryComparison where
  baselineOpsPerSec : ℚ
  currentOpsPerSec : ℚ
  percentageChange : ℚ
  baselineGrade : String
  currentGrade : String
  testComparisons : List TestComparison
  deriving DecidableEq, Repr

/-- `comparison['summary']` (lines 174–179). -/
structure ComparisonSummary where
  totalRegressions : Nat
  totalImprovements : Nat
  overallTrend : String
  significantChanges : Nat
  deriving DecidableEq, Repr

/-- `comparison` (lines 94–105). -/
structure RunComparison where
  baselineFile : String
  currentFile : String
  baselineTimestamp : String
  currentTimestamp : String
  overallScoreChange : ℚ
  executionTimeChange : ℚ
  categoryComparisons : PyDict String CategoryComparison
  regressions : List Change
  improvements : List Change
  summary : ComparisonSummary
  deriving DecidableEq, Repr

/-- `comparison['regressions']` and `comparison['improvements']` as the loops fill them. -/
structure Changes where
  regressions : List Change
  improvements : List Change
  deriving DecidableEq, Repr

/-- Lines 158–169: a change below `-10` is a regression, one above `10` an improvement. -/
def Changes.record (acc : Changes) (c : Change) : Changes :=
  if c.change < -10 then { acc with regressions := acc.regressions ++ [c] }
  else if c.change > 10 then { acc with improvements := acc.improvements ++ [c] }
  else acc

/-- `{t['name']: t for t in cat['detailed_results']}` (lines 133–134): the last entry of a name
wins. -/
def testsByName (category : CategoryAnalysis) : PyDict String TestAnalysis :=
  PyDict.ofList (category.detailedResults.map fun t => (t.name, t))

/-- One pass of the test loop (lines 136–169). -/
def testStep (catName : String) (baselineTests currentTests : PyDict String TestAnalysis)
    (acc : List TestComparison × Changes) (testName : String) : List TestComparison × Changes :=
  match baselineTests.get? testName, currentTests.get? testName with
  | some b, some c =>
    let testChange := percentageChange b.opsPerSecond c.opsPerSecond
    (acc.1 ++ [⟨testName, b.opsPerSecond, c.opsPerSecond, testChange⟩],
      acc.2.record ⟨catName, testName, testChange⟩)
  | _, _ => acc

/-- One pass of the category loop (lines 110–171); a category one run lacks is skipped. -/
def categoryStep (baseline current : RunAnalysis)
    (acc : PyDict String CategoryComparison × Changes) (catName : String) :
    PyDict String CategoryComparison × Changes :=
  match baseline.categories.get? catName, current.categories.get? catName with
  | some b, some c =>
    let baselineTests := testsByName b
    let currentTests := testsByName c
    let tests := (unionKeys baselineTests.keys currentTests.keys).foldl
      (testStep catName baselineTests currentTests) ([], acc.2)
    (acc.1.set catName
      { baselineOpsPerSec := b.avgOpsPerSec
        currentOpsPerSec := c.avgOpsPerSec
        percentageChange := percentageChange b.avgOpsPerSec c.avgOpsPerSec
        baselineGrade := b.performanceGrade
        currentGrade := c.performanceGrade
        testComparisons := tests.1 }, tests.2)
  | _, _ => acc

/-- `'improvement'`, `'regression'` or `'stable'` by the sign of the score change (line 177). -/
def overallTrend (scoreChange : ℚ) : String :=
  if scoreChange > 0 then "improvement" else if scoreChange < 0 then "regression" else "stable"

/-- Lines 94–181 once both runs are analysed. -/
def compareAnalyses (baselineFile currentFile : String) (baseline current : RunAnalysis) :
    RunComparison :=
  let loops := (unionKeys baseline.categories.keys current.categories.keys).foldl
    (categoryStep baseline current) (∅, ⟨[], []⟩)
  let scoreChange := current.overallScore - baseline.overallScore
  { baselineFile := baselineFile
    currentFile := currentFile
    baselineTimestamp := baseline.timestamp
    currentTimestamp := current.timestamp
    overallScoreChange := scoreChange
    executionTimeChange := current.executionTime - baseline.executionTime
    categoryComparisons := loops.1
    regressions := loops.2.regressions
    improvements := loops.2.improvements
    summary :=
      { totalRegressions := loops.2.regressions.length
        totalImprovements := loops.2.improvements.length
        overallTrend := overallTrend scoreChange
        significantChanges := loops.2.regressions.length + loops.2.improvements.length } }

/-! ## What the loops record -/

/-- The ops/sec a run reports for a test of a category: that of the category's last entry of
the test's name. -/
def testOps (run : RunAnalysis) (cat test : String) : Option ℚ := do
  let c ← run.categories.get? cat
  let t ← (testsByName c).get? test
  pure t.opsPerSecond

/-- The percentage change of a test both runs report. -/
def testChange (baseline current : RunAnalysis) (cat test : String) : Option ℚ := do
  let b ← testOps baseline cat test
  let c ← testOps current cat test
  pure (percentageChange b c)

section UnionKeys

variable {κ : Type} [DecidableEq κ]

theorem mem_unionKeys {a b : List κ} {k : κ} : k ∈ unionKeys a b ↔ k ∈ a ∨ k ∈ b := by
  by_cases ha : k ∈ a <;> simp [unionKeys, ha]

theorem nodup_unionKeys {a b : List κ} (ha : a.Nodup) (hb : b.Nodup) :
    (unionKeys a b).Nodup :=
  ha.append (hb.filter _) fun _ hx hy => by simp_all

/-- Renaming the keys by an injective map commutes with the union. -/
theorem unionKeys_map {κ' : Type} [DecidableEq κ'] {f : κ → κ'} (hf : Function.Injective f)
    (a b : List κ) : unionKeys (a.map f) (b.map f) = (unionKeys a b).map f := by
  simp only [unionKeys, List.map_append, List.filter_map, Function.comp_def,
    List.mem_map_of_injective hf]

end UnionKeys

theorem mem_keys_of_get? {κ ν : Type} [DecidableEq κ] {d : PyDict κ ν} {k : κ} {v : ν}
    (h : d.get? k = some v) : k ∈ d.keys := by
  by_contra hk
  rw [← PyDict.get?_eq_none_iff] at hk
  simp [hk] at h

theorem percentageChange_of_nonpos {x : ℚ} (hx : x ≤ 0) (y : ℚ) : percentageChange x y = 0 :=
  if_neg (not_lt.mpr hx)

/-- A non-zero change has a positive baseline. -/
theorem pos_of_percentageChange_ne_zero {x y : ℚ} (h : percentageChange x y ≠ 0) : 0 < x :=
  lt_of_not_le fun hx => h (percentageChange_of_nonpos hx y)

/-- A fall of more than 10 %: the current value is below nine tenths of the baseline. -/
theorem percentageChange_lt_neg_ten {x y : ℚ} (hx : 0 < x) :
    percentageChange x y < -10 ↔ 10 * y < 9 * x := by
  rw [percentageChange, if_pos hx, div_mul_eq_mul_div, div_lt_iff₀ hx]
  constructor <;> intro h <;> linarith

/-- A rise of more than 10 %: the current value is above eleven tenths of the baseline. -/
theorem ten_lt_percentageChange {x y : ℚ} (hx : 0 < x) :
    10 < percentageChange x y ↔ 11 * x < 10 * y := by
  rw [percentageChange, if_pos hx, div_mul_eq_mul_div, lt_div_iff₀ hx]
  constructor <;> intro h <;> linarith

@[simp] theorem record_regressions (acc : Changes) (c : Change) :
    (acc.record c).regressions = acc.regressions ++ if c.change < -10 then [c] else [] := by
  unfold Changes.record
  split_ifs <;> simp

@[simp] theorem record_improvements (acc : Changes) (c : Change) :
    (acc.record c).improvements = acc.improvements ++ if 10 < c.change then [c] else [] := by
  by_cases h₁ : c.change < -10
  · have h₂ : ¬ 10 < c.change := by linarith
    simp [Changes.record, h₁, h₂]
  · simp only [Changes.record, if_neg h₁]
    split_ifs <;> simp

theorem foldl_record_regressions (l : List Change) (acc : Changes) :
    (l.foldl Changes.record acc).regressions = acc.regressions ++ l.filter (·.change < -10) := by
  induction l generalizing acc with
  | nil => simp
  | cons c l ih => by_cases h : c.change < -10 <;> simp [ih, h, List.filter_cons]

theorem foldl_record_improvements (l : List Change) (acc : Changes) :
    (l.foldl Changes.record acc).improvements = acc.improvements ++ l.filter (10 < ·.change) := by
  induction l generalizing acc with
  | nil => simp
  | cons c l ih => by_cases h : 10 < c.change <;> simp [ih, h, List.filter_cons]

/-- The change the test loop records for `testName`, when both runs have it. -/
def pairChange (catName : String) (baselineTests currentTests : PyDict String TestAnalysis)
    (testName : String) : Option Change :=
  match baselineTests.get? testName, currentTests.get? testName with
  | some b, some c => some ⟨catName, testName, percentageChange b.opsPerSecond c.opsPerSecond⟩
  | _, _ => none

/-- The test loop records the changes of the tests both runs have, in its order. -/
theorem foldl_testStep (catName : String) (bt ct : PyDict String TestAnalysis)
    (names : List String) (acc : List TestComparison × Changes) :
    (names.foldl (testStep catName bt ct) acc).2 =
      (names.filterMap (pairChange catName bt ct)).foldl Changes.record acc.2 := by
  induction names generalizing acc with
  | nil => rfl
  | cons t names ih =>
    rw [List.foldl_cons, ih, List.filterMap_cons]
    unfold testStep pairChange
    cases bt.get? t <;> cases ct.get? t <;> rfl

/-- The changes the test loop of category `cat` records; none when a run lacks `cat`. -/
def categoryChanges (baseline current : RunAnalysis) (cat : String) : List Change :=
  match baseline.categories.get? cat, current.categories.get? cat with
  | some b, some c =>
    (unionKeys (testsByName b).keys (testsByName c).keys).filterMap
      (pairChange cat (testsByName b) (testsByName c))
  | _, _ => []

/-- Every change the two loops record, in their order. -/
def allChanges (baseline current : RunAnalysis) : List Change :=
  (unionKeys baseline.categories.keys current.categories.keys).flatMap
    (categoryChanges baseline current)

theorem foldl_categoryStep (baseline current : RunAnalysis) (cats : List String)
    (acc : PyDict String CategoryComparison × Changes) :
    (cats.foldl (categoryStep baseline current) acc).2 =
      (cats.flatMap (categoryChanges baseline current)).foldl Changes.record acc.2 := by
  induction cats generalizing acc with
  | nil => rfl
  | cons cat cats ih =>
    rw [List.foldl_cons, ih, List.flatMap_cons, List.foldl_append]
    unfold categoryStep categoryChanges
    cases baseline.categories.get? cat <;> cases current.categories.get? cat <;>
      simp only [foldl_testStep, List.foldl_nil]

theorem compareAnalyses_regressions (bf cf : String) (baseline current : RunAnalysis) :
    (compareAnalyses bf cf baseline current).regressions =
      (allChanges baseline current).filter (·.change < -10) := by
  simp [compareAnalyses, foldl_categoryStep, foldl_record_regressions, allChanges]

theorem compareAnalyses_improvements (bf cf : String) (baseline current : RunAnalysis) :
    (compareAnalyses bf cf baseline current).improvements =
      (allChanges baseline current).filter (10 < ·.change) := by
  simp [compareAnalyses, foldl_categoryStep, foldl_record_improvements, allChanges]

theorem pairChange_eq_some {cat t : String} {bt ct : PyDict String TestAnalysis} {ch : Change} :
    pairChange cat bt ct t = some ch ↔ ch.category = cat ∧ ch.test = t ∧
      ∃ b c, bt.get? t = some b ∧ ct.get? t = some c ∧
        ch.change = percentageChange b.opsPerSecond c.opsPerSecond := by
  unfold pairChange
  cases hb : bt.get? t <;> cases hc : ct.get? t <;> simp
  constructor
  · rintro rfl; simp
  · rintro ⟨h₁, h₂, h₃⟩; cases ch; simp_all

theorem mem_categoryChanges {baseline current : RunAnalysis} {cat : String} {ch : Change} :
    ch ∈ categoryChanges baseline current cat ↔
      ch.category = cat ∧ testChange baseline current cat ch.test = some ch.change := by
  unfold categoryChanges testChange testOps
  cases hb : baseline.categories.get? cat with
  | none => simp
  | some b =>
    cases hc : current.categories.get? cat with
    | none => simp
    | some c =>
      simp only [List.mem_filterMap, pairChange_eq_some]
      constructor
      · rintro ⟨t, -, rfl, rfl, bt, ct, hbt, hct, hch⟩
        simp [hbt, hct, hch]
      · rintro ⟨rfl, h⟩
        cases hbt : (testsByName b).get? ch.test <;> cases hct : (testsByName c).get? ch.test <;>
          simp [hbt, hct] at h
        exact ⟨ch.test, mem_unionKeys.mpr (.inl (mem_keys_of_get? hbt)), rfl, rfl, _, _, hbt, hct,
          h.symm⟩

/-- The changes the loops record are those of the tests both runs report. -/
theorem mem_allChanges {baseline current : RunAnalysis} {ch : Change} :
    ch ∈ allChanges baseline current ↔
      testChange baseline current ch.category ch.test = some ch.change := by
  simp only [allChanges, List.mem_flatMap, mem_categoryChanges]
  constructor
  · rintro ⟨cat, -, rfl, h⟩; exact h
  · intro h
    refine ⟨ch.category, mem_unionKeys.mpr (.inl ?_), rfl, h⟩
    unfold testChange testOps at h
    cases hb : baseline.categories.get? ch.category
    · simp [hb] at h
    · exact mem_keys_of_get? hb

theorem mem_regressions_iff {bf cf : String} {baseline current : RunAnalysis} {ch : Change} :
    ch ∈ (compareAnalyses bf cf baseline current).regressions ↔
      testChange baseline current ch.category ch.test = some ch.change ∧ ch.change < -10 := by
  simp [compareAnalyses_regressions, mem_allChanges]

theorem mem_improvements_iff {bf cf : String} {baseline current : RunAnalysis} {ch : Change} :
    ch ∈ (compareAnalyses bf cf baseline current).improvements ↔
      testChange baseline current ch.category ch.test = some ch.change ∧ 10 < ch.change := by
  simp [compareAnalyses_improvements, mem_allChanges]

/-- A test is recorded at most once: category names are distinct, and so are the test names
of a category. -/
theorem nodup_allChanges (baseline current : RunAnalysis) :
    ((allChanges baseline current).map fun ch => (ch.category, ch.test)).Nodup := by
  unfold allChanges
  rw [List.map_flatMap]
  refine List.nodup_flatMap.mpr ⟨fun cat _ => ?_, ?_⟩
  · unfold categoryChanges
    cases baseline.categories.get? cat <;> cases current.categories.get? cat <;>
      simp only [List.map_nil, List.nodup_nil]
    rename_i b c
    rw [List.map_filterMap]
    refine (List.Nodup.filterMap ?_ (nodup_unionKeys (testsByName b).nodup
      (testsByName c).nodup))
    intro t t' p hp hp'
    simp only [Option.mem_def, Option.map_eq_some', pairChange_eq_some] at hp hp'
    obtain ⟨ch, ⟨-, rfl, -⟩, rfl⟩ := hp
    obtain ⟨ch', ⟨-, rfl, -⟩, h⟩ := hp'
    exact (Prod.ext_iff.mp h).2.symm
  · refine (nodup_unionKeys baseline.categories.nodup current.categories.nodup).pairwise_of_forall_ne ?_
    intro cat _ cat' _ hne p hp hp'
    simp only [List.mem_map, mem_categoryChanges] at hp hp'
    obtain ⟨ch, ⟨rfl, -⟩, rfl⟩ := hp
    obtain ⟨ch', ⟨rfl, -⟩, h⟩ := hp'
    exact hne (Prod.ext_iff.mp h).1.symm

theorem nodup_filter_append_filter {l : List Change} (hl : (l.map fun ch => (ch.category, ch.test)).Nodup)
    {p q : Change → Bool} (hpq : ∀ ch, p ch → ¬ q ch) :
    ((l.filter p ++ l.filter q).map fun ch => (ch.category, ch.test)).Nodup := by
  rw [List.map_append]
  refine List.Nodup.append (hl.sublist ((List.filter_sublist _).map _))
    (hl.sublist ((List.filter_sublist _).map _)) ?_
  rintro _ hx hy
  simp only [List.mem_map, List.mem_filter] at hx hy
  obtain ⟨a, ⟨ha, hpa⟩, rfl⟩ := hx
  obtain ⟨b, ⟨hb, hqb⟩, hab⟩ := hy
  have : b = a := List.inj_on_of_nodup_map hl hb ha hab
  subst this
  exact hpq b hpa hqb

theorem testChange_eq_some {baseline current : RunAnalysis} {cat test : String} {δ : ℚ} :
    testChange baseline current cat test = some δ ↔
      ∃ x y, testOps baseline cat test = some x ∧ testOps current cat test = some y ∧
        δ = percentageChange x y := by
  unfold testChange
  cases testOps baseline cat test <;> cases testOps current cat test <;> simp [eq_comm]

/-- **Comparing the other way round.** A regression of `baseline → current` is an improvement
of `current → baseline` exactly when its current ops/sec is positive. -/
theorem regression_reversed_iff (bf cf : String) (baseline current : RunAnalysis) (ch : Change)
    (h : ch ∈ (compareAnalyses bf cf baseline current).regressions) :
    (∃ δ, ⟨ch.category, ch.test, δ⟩ ∈ (compareAnalyses cf bf current baseline).improvements) ↔
      ∃ y, testOps current ch.category ch.test = some y ∧ 0 < y := by
  obtain ⟨hch, hlt⟩ := mem_regressions_iff.mp h
  obtain ⟨x, y, hx, hy, hδ⟩ := testChange_eq_some.mp hch
  rw [hδ] at hlt
  have hfall := (percentageChange_lt_neg_ten
    (pos_of_percentageChange_ne_zero (hlt.trans (by norm_num)).ne)).mp hlt
  simp [mem_improvements_iff, testChange_eq_some, hx, hy]
  constructor
  · exact fun hrise => pos_of_percentageChange_ne_zero ((by norm_num : (0 : ℚ) < 10).trans hrise).ne'
  · exact fun hypos => (ten_lt_percentageChange hypos).mpr (by linarith)

/-- A run whose one category `core` holds the one test `fib`, at `ops` ops/sec. -/
def oneTestRun (ops : ℚ) : RunAnalysis where
  filePath := "run.json"
  timestamp := "unknown"
  overallScore := 0
  totalTests := 1
  executionTime := 0
  categories := PyDict.ofList [("core", ⟨"core", ops, "Unknown", 1, [⟨"fib", ops, 0, 0, 0⟩]⟩)]

/-- A test that fell from 100 to 0 ops/sec is a regression, and comparing the runs the other
way round does not list it. -/
theorem stalled_test_not_reversed :
    (⟨"core", "fib", -100⟩ : Change) ∈
        (compareAnalyses "old.json" "new.json" (oneTestRun 100) (oneTestRun 0)).regressions ∧
      ¬ ∃ δ, (⟨"core", "fib", δ⟩ : Change) ∈
        (compareAnalyses "new.json" "old.json" (oneTestRun 0) (oneTestRun 100)).improvements := by
  have hchange : testChange (oneTestRun 100) (oneTestRun 0) "core" "fib" = some (-100) := by
    rw [show testChange (oneTestRun 100) (oneTestRun 0) "core" "fib" = some (percentageChange 100 0)
      from rfl]
    norm_num [percentageChange]
  have h : (⟨"core", "fib", -100⟩ : Change) ∈
      (compareAnalyses "old.json" "new.json" (oneTestRun 100) (oneTestRun 0)).regressions :=
    mem_regressions_iff.mpr ⟨hchange, by norm_num⟩
  refine ⟨h, fun hrev => ?_⟩
  obtain ⟨y, hy, hpos⟩ := (regression_reversed_iff _ _ _ _ _ h).mp hrev
  cases (show testOps (oneTestRun 0) "core" "fib" = some 0 from rfl).symm.trans hy
  exact lt_irrefl _ hpos

end LambdustBench.Analyzer
