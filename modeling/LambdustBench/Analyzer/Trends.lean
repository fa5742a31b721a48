import LambdustBench.Analyzer.Loaded
import Mathlib.Data.List.Infix
import Mathlib.Data.List.Sort
import Mathlib.Data.String.Basic
import Mathlib.Tactic.GCongr
import Mathlib.Tactic.Ring

/-!
# Trends across runs (`analyze_performance_trends`, `analyze_directory`)

`analyze_directory` (`analyze-performance.py`, lines 183–225) analyses every results file of
a directory whose name mentions `benchmark`, in path order. When at least two of them give
an analysis, it hands the analyses to `analyze_performance_trends` (lines 227–278). That
function lists each run's overall score and execution time, each category's average ops/sec
per run (`0` for a run without the category), and the periods between consecutive runs.
When the earlier run's score is positive, a period is a regression if the score fell by more
than 5 %, and an improvement if it rose by more than 5 %.

`analyzePerformanceTrends` is the function on analyses whose values are numbers;
`Loaded.analyzePerformanceTrends` runs it on loaded values, and raises a `TypeError` where a
score is not a number (lines 259–260). `analyzePerformanceTrends_toLoaded` says that on
numbers the two agree and the second does not raise.

- `periodLoop`: the loop `for i in range(1, len(results_list))`, one `periodStep` per pair of
  consecutive runs; `periodLoop_regression` and `periodLoop_improvement` say which pairs it
  reports.
- `trend_periods_bound_drift`: over a window of runs with positive scores, a fall of the
  score by more than 5 % per run, compounded, contains a regression period, and a rise by
  more than 5 % per run, compounded, contains an improvement period.
- `regressionPeriods_eq_nil_iff`: the bound is exact. No regression period is reported as
  long as no run falls below 95 % of a positive score before it: a score that falls by 5 %
  at every run is never reported, however far it falls.
- `analyze_directory_glob_order`: the analysis of a directory does not depend on the order in
  which `glob` lists its files.
-/

namespace LambdustBench.Analyzer

/-! ## The model -/

/-- An entry of `trends['regression_periods']` or `trends['improvement_periods']`
(lines 262–276). -/
structure Period where
  fromIndex : Nat
  toIndex : Nat
  changePercentage : ℚ
  fromTimestamp : String
  toTimestamp : String
  deriving DecidableEq, Repr

/-- `trends` (lines 229–235). -/
structure Trends where
  overallScoreTrend : List ℚ
  executionTimeTrend : List ℚ
  categoryTrends : PyDict String (List ℚ)
  regressionPeriods : List Period
  improvementPeriods : List Period
  deriving DecidableEq, Repr

/-- One pass of the period loop (lines 256–276), with `prev` and `curr` the runs
`results_list[i-1]` and `results_list[i]`. -/
def periodStep (acc : List Period × List Period) (i : Nat) (prev curr : RunAnalysis) :
    List Period × List Period :=
  if prev.overallScore > 0 then
    let change := (curr.overallScore - prev.overallScore) / prev.overallScore * 100
    let period : Period := ⟨i - 1, i, change, prev.timestamp, curr.timestamp⟩
    if change < -5 then (acc.1 ++ [period], acc.2)
    else if change > 5 then (acc.1, acc.2 ++ [period])
    else acc
  else acc

/-- `for i in range(1, len(results_list))` from `i` on, where `runs` is
`results_list[i-1:]`. -/
def periodLoop : Nat → List RunAnalysis → List Period × List Period → List Period × List Period
  | i, prev :: curr :: rest, acc => periodLoop (i + 1) (curr :: rest) (periodStep acc i prev curr)
  | _, _, acc => acc

/-- `all_categories` (lines 243–245): the category names of all runs, in first-appearance
order (see `unionKeys`). -/
def allCategories (resultsList : List RunAnalysis) : List String :=
  resultsList.foldl (fun acc result => unionKeys acc result.categories.keys) []

/-- `result.get('categories', {}).get(category, {}).get('avg_ops_per_sec', 0)` (lines 250–251). -/
def categoryOps (category : String) (result : RunAnalysis) : ℚ :=
  ((result.categories.get? category).map (·.avgOpsPerSec)).getD 0

/-- `analyze_performance_trends` on analyses whose values are numbers. -/
def analyzePerformanceTrends (resultsList : List RunAnalysis) : Trends :=
  let periods := periodLoop 1 resultsList ([], [])
  { overallScoreTrend := resultsList.map (·.overallScore)
    executionTimeTrend := resultsList.map (·.executionTime)
    categoryTrends := PyDict.ofList
      ((allCategories resultsList).map fun category => (category, resultsList.map (categoryOps category)))
    regressionPeriods := periods.1
    improvementPeriods := periods.2 }

/-! ## Which pairs of runs the loop reports -/

/-- The score of run `k`, as `overall_score_trend[k]`. -/
def scoreAt (resultsList : List RunAnalysis) (k : Nat) : ℚ :=
  (resultsList.map (·.overallScore)).getD k 0

@[simp] theorem scoreAt_cons_zero (r : RunAnalysis) (rs : List RunAnalysis) :
    scoreAt (r :: rs) 0 = r.overallScore := rfl

@[simp] theorem scoreAt_cons_succ (r : RunAnalysis) (rs : List RunAnalysis) (k : Nat) :
    scoreAt (r :: rs) (k + 1) = scoreAt rs k := rfl

/-- A fall of more than 5 % from a positive score. -/
theorem change_lt_neg_five {x y : ℚ} (hx : 0 < x) : (y - x) / x * 100 < -5 ↔ 20 * y < 19 * x := by
  rw [div_mul_eq_mul_div, div_lt_iff₀ hx]
  constructor <;> intro h <;> linarith

/-- A rise of more than 5 % from a positive score. -/
theorem five_lt_change {x y : ℚ} (hx : 0 < x) : 5 < (y - x) / x * 100 ↔ 21 * x < 20 * y := by
  rw [div_mul_eq_mul_div, lt_div_iff₀ hx]
  constructor <;> intro h <;> linarith

theorem periodStep_fst (acc : List Period × List Period) (i : Nat) (prev curr : RunAnalysis) :
    ∃ l, (periodStep acc i prev curr).1 = acc.1 ++ l := by
  simp only [periodStep]
  split_ifs <;> simp

theorem periodStep_snd (acc : List Period × List Period) (i : Nat) (prev curr : RunAnalysis) :
    ∃ l, (periodStep acc i prev curr).2 = acc.2 ++ l := by
  simp only [periodStep]
  split_ifs <;> simp

/-- The loop only appends periods. -/
theorem periodLoop_mono (i : Nat) (rs : List RunAnalysis) (acc : List Period × List Period) :
    (∃ l, (periodLoop i rs acc).1 = acc.1 ++ l) ∧ ∃ l, (periodLoop i rs acc).2 = acc.2 ++ l := by
  induction rs generalizing i acc with
  | nil => exact ⟨⟨[], by simp [periodLoop]⟩, ⟨[], by simp [periodLoop]⟩⟩
  | cons prev rest ih =>
    match rest, ih with
    | [], _ => exact ⟨⟨[], by simp [periodLoop]⟩, ⟨[], by simp [periodLoop]⟩⟩
    | curr :: rest, ih =>
      obtain ⟨⟨l₁, h₁⟩, ⟨l₂, h₂⟩⟩ := ih (i + 1) (periodStep acc i prev curr)
      obtain ⟨m₁, hm₁⟩ := periodStep_fst acc i prev curr
      obtain ⟨m₂, hm₂⟩ := periodStep_snd acc i prev curr
      exact ⟨⟨m₁ ++ l₁, by simp [periodLoop, h₁, hm₁]⟩, ⟨m₂ ++ l₂, by simp [periodLoop, h₂, hm₂]⟩⟩

/-- The pass on runs `k` and `k + 1` (the loop started at `i = n + 1` on `rs`): every period
it adds is in the loop's result. -/
theorem periodLoop_pass (n : Nat) (rs : List RunAnalysis) (acc : List Period × List Period)
    (k : Nat) (hk : k + 1 < rs.length) :
    ∃ acc' prev curr, prev.overallScore = scoreAt rs k ∧ curr.overallScore = scoreAt rs (k + 1) ∧
      (∀ p ∈ (periodStep acc' (n + k + 1) prev curr).1, p ∈ (periodLoop (n + 1) rs acc).1) ∧
      ∀ p ∈ (periodStep acc' (n + k + 1) prev curr).2, p ∈ (periodLoop (n + 1) rs acc).2 := by
  induction rs generalizing n acc k with
  | nil => simp at hk
  | cons prev rest ih =>
    match rest, ih, k with
    | [], _, k => simp at hk
    | curr :: rest, _, 0 =>
      obtain ⟨⟨l₁, h₁⟩, ⟨l₂, h₂⟩⟩ :=
        periodLoop_mono (n + 1 + 1) (curr :: rest) (periodStep acc (n + 1) prev curr)
      exact ⟨acc, prev, curr, rfl, rfl, fun p hp => by simp [periodLoop, h₁, hp],
        fun p hp => by simp [periodLoop, h₂, hp]⟩
    | curr :: rest, ih, k + 1 =>
      obtain ⟨acc', prev', curr', hprev, hcurr, h₁, h₂⟩ := ih (n + 1) _ k (by simpa using hk)
      rw [show n + 1 + k + 1 = n + (k + 1) + 1 by omega] at h₁ h₂
      exact ⟨acc', prev', curr', hprev, hcurr, h₁, h₂⟩

theorem periodStep_regression (acc : List Period × List Period) (i : Nat) {prev curr : RunAnalysis}
    (hpos : 0 < prev.overallScore) (hfall : 20 * curr.overallScore < 19 * prev.overallScore) :
    ∃ p ∈ (periodStep acc i prev curr).1, p.fromIndex = i - 1 ∧ p.toIndex = i := by
  have hlt := (change_lt_neg_five hpos).mpr hfall
  simp only [periodStep, gt_iff_lt, if_pos hpos, if_pos hlt]
  exact ⟨_, List.mem_append_right _ (List.mem_singleton_self _), rfl, rfl⟩

theorem periodStep_improvement (acc : List Period × List Period) (i : Nat) {prev curr : RunAnalysis}
    (hpos : 0 < prev.overallScore) (hrise : 21 * prev.overallScore < 20 * curr.overallScore) :
    ∃ p ∈ (periodStep acc i prev curr).2, p.fromIndex = i - 1 ∧ p.toIndex = i := by
  have hgt := (five_lt_change hpos).mpr hrise
  have hnlt : ¬ (curr.overallScore - prev.overallScore) / prev.overallScore * 100 < -5 := by
    linarith
  simp only [periodStep, gt_iff_lt, if_pos hpos, if_neg hnlt, if_pos hgt]
  exact ⟨_, List.mem_append_right _ (List.mem_singleton_self _), rfl, rfl⟩

/-- **Regression periods.** Runs `k` and `k + 1` (the loop started at `i = n + 1` on them)
give a regression period when the earlier score is positive and the later one is below 95 %
of it. -/
theorem periodLoop_regression (n : Nat) (rs : List RunAnalysis) (acc : List Period × List Period)
    (k : Nat) (hk : k + 1 < rs.length) (hpos : 0 < scoreAt rs k)
    (hfall : 20 * scoreAt rs (k + 1) < 19 * scoreAt rs k) :
    ∃ p ∈ (periodLoop (n + 1) rs acc).1, p.fromIndex = n + k ∧ p.toIndex = n + k + 1 := by
  obtain ⟨acc', prev, curr, hprev, hcurr, h, -⟩ := periodLoop_pass n rs acc k hk
  rw [← hprev, ← hcurr] at hfall
  obtain ⟨p, hp, hfrom, hto⟩ := periodStep_regression acc' (n + k + 1) (hprev ▸ hpos) hfall
  exact ⟨p, h p hp, by omega, hto⟩

/-- **Improvement periods.** Runs `k` and `k + 1` give an improvement period when the earlier
score is positive and the later one is above 105 % of it. -/
theorem periodLoop_improvement (n : Nat) (rs : List RunAnalysis) (acc : List Period × List Period)
    (k : Nat) (hk : k + 1 < rs.length) (hpos : 0 < scoreAt rs k)
    (hrise : 21 * scoreAt rs k < 20 * scoreAt rs (k + 1)) :
    ∃ p ∈ (periodLoop (n + 1) rs acc).2, p.fromIndex = n + k ∧ p.toIndex = n + k + 1 := by
  obtain ⟨acc', prev, curr, hprev, hcurr, -, h⟩ := periodLoop_pass n rs acc k hk
  rw [← hprev, ← hcurr] at hrise
  obtain ⟨p, hp, hfrom, hto⟩ := periodStep_improvement acc' (n + k + 1) (hprev ▸ hpos) hrise
  exact ⟨p, h p hp, by omega, hto⟩

/-- A regression period of one pass: `prev`'s score is positive and `curr`'s is below 95 % of it. -/
theorem mem_periodStep_fst {acc : List Period × List Period} {i : Nat} {prev curr : RunAnalysis}
    {p : Period} (h : p ∈ (periodStep acc i prev curr).1) :
    p ∈ acc.1 ∨ p.fromIndex = i - 1 ∧ 0 < prev.overallScore ∧
      20 * curr.overallScore < 19 * prev.overallScore := by
  simp only [periodStep] at h
  split_ifs at h with hpos hlt
  · rcases List.mem_append.mp h with h | h
    · exact .inl h
    · rw [List.mem_singleton.mp h]
      exact .inr ⟨rfl, hpos, (change_lt_neg_five hpos).mp hlt⟩
  all_goals exact .inl h

/-- Every regression period the loop adds lies between consecutive runs, the earlier with a
positive score and the later below 95 % of it. -/
theorem mem_periodLoop_fst (n : Nat) (rs : List RunAnalysis) (acc : List Period × List Period)
    (p : Period) (h : p ∈ (periodLoop (n + 1) rs acc).1) :
    p ∈ acc.1 ∨ ∃ k, k + 1 < rs.length ∧ p.fromIndex = n + k ∧ 0 < scoreAt rs k ∧
      20 * scoreAt rs (k + 1) < 19 * scoreAt rs k := by
  induction rs generalizing n acc with
  | nil => exact .inl h
  | cons prev rest ih =>
    match rest, ih with
    | [], _ => exact .inl h
    | curr :: rest, ih =>
      rcases ih (n + 1) _ h with h | ⟨k, hk, hfrom, hpos, hfall⟩
      · rcases mem_periodStep_fst h with h | ⟨hfrom, hpos, hfall⟩
        · exact .inl h
        · exact .inr ⟨0, by simp, hfrom, hpos, hfall⟩
      · exact .inr ⟨k + 1, by simpa using hk, by omega, hpos, hfall⟩

/-- No regression period is reported exactly when no run falls below 95 % of a positive score
before it, whatever the total fall. -/
theorem regressionPeriods_eq_nil_iff (resultsList : List RunAnalysis) :
    (analyzePerformanceTrends resultsList).regressionPeriods = [] ↔
      ∀ k, k + 1 < resultsList.length → 0 < scoreAt resultsList k →
        19 * scoreAt resultsList k ≤ 20 * scoreAt resultsList (k + 1) := by
  constructor
  · intro hnil k hk hpos
    by_contra hlt
    obtain ⟨p, hp, -⟩ := periodLoop_regression 0 resultsList ([], []) k hk hpos (by linarith)
    have hp' : p ∈ (analyzePerformanceTrends resultsList).regressionPeriods := hp
    simp [hnil] at hp'
  · intro hall
    refine List.eq_nil_iff_forall_not_mem.mpr fun p hp => ?_
    rcases mem_periodLoop_fst 0 resultsList ([], []) p hp with h | ⟨k, hk, -, hpos, hfall⟩
    · simp at h
    · exact absurd (hall k hk hpos) (not_le.mpr hfall)

/-! ## Drift over a window of runs -/

section Drift

variable (resultsList : List RunAnalysis) (i : Nat)

/-- Without a regression period inside a window of positive scores, every run keeps at least
95 % of the score before it. -/
theorem scoreAt_ge_of_no_regression (j : Nat) (hij : i ≤ j) (hj : j < resultsList.length)
    (hpos : ∀ k, i ≤ k → k < j → 0 < scoreAt resultsList k)
    (hnone : ∀ p ∈ (analyzePerformanceTrends resultsList).regressionPeriods,
      ¬ (i ≤ p.fromIndex ∧ p.toIndex ≤ j)) :
    (19 / 20) ^ (j - i) * scoreAt resultsList i ≤ scoreAt resultsList j := by
  induction j, hij using Nat.le_induction with
  | base => simp
  | succ j hij ih =>
    have hprev := ih (by omega) (fun k h₁ h₂ => hpos k h₁ (by omega))
      (fun p hp h => hnone p hp ⟨h.1, by omega⟩)
    have hstep : 19 * scoreAt resultsList j ≤ 20 * scoreAt resultsList (j + 1) := by
      by_contra hlt
      obtain ⟨p, hp, hfrom, hto⟩ :=
        periodLoop_regression 0 resultsList ([], []) j hj (hpos j hij (by omega)) (by linarith)
      exact hnone p hp ⟨by omega, by omega⟩
    calc (19 / 20) ^ (j + 1 - i) * scoreAt resultsList i
        = 19 / 20 * ((19 / 20) ^ (j - i) * scoreAt resultsList i) := by
          rw [show j + 1 - i = j - i + 1 by omega, pow_succ]; ring
      _ ≤ 19 / 20 * scoreAt resultsList j := by gcongr
      _ ≤ scoreAt resultsList (j + 1) := by linarith

/-- Without an improvement period inside a window of positive scores, no run exceeds 105 %
of the score before it. -/
theorem scoreAt_le_of_no_improvement (j : Nat) (hij : i ≤ j) (hj : j < resultsList.length)
    (hpos : ∀ k, i ≤ k → k < j → 0 < scoreAt resultsList k)
    (hnone : ∀ p ∈ (analyzePerformanceTrends resultsList).improvementPeriods,
      ¬ (i ≤ p.fromIndex ∧ p.toIndex ≤ j)) :
    scoreAt resultsList j ≤ (21 / 20) ^ (j - i) * scoreAt resultsList i := by
  induction j, hij using Nat.le_induction with
  | base => simp
  | succ j hij ih =>
    have hprev := ih (by omega) (fun k h₁ h₂ => hpos k h₁ (by omega))
      (fun p hp h => hnone p hp ⟨h.1, by omega⟩)
    have hstep : 20 * scoreAt resultsList (j + 1) ≤ 21 * scoreAt resultsList j := by
      by_contra hlt
      obtain ⟨p, hp, hfrom, hto⟩ :=
        periodLoop_improvement 0 resultsList ([], []) j hj (hpos j hij (by omega)) (by linarith)
      exact hnone p hp ⟨by omega, by omega⟩
    calc scoreAt resultsList (j + 1)
        ≤ 21 / 20 * scoreAt resultsList j := by linarith
      _ ≤ 21 / 20 * ((21 / 20) ^ (j - i) * scoreAt resultsList i) := by gcongr
      _ = (21 / 20) ^ (j + 1 - i) * scoreAt resultsList i := by
          rw [show j + 1 - i = j - i + 1 by omega, pow_succ]; ring

/-- A run with overall score `score` and no categories. -/
def scoredRun (score : ℚ) : RunAnalysis := ⟨"run.json", "unknown", score, 0, 0, ∅⟩

end Drift

/-! ## On loaded values -/

namespace Loaded

/-- An entry of `trends['regression_periods']` or `trends['improvement_periods']`
(lines 262–276). -/
structure Period where
  fromIndex : Nat
  toIndex : Nat
  changePercentage : ℚ
  fromTimestamp : Json
  toTimestamp : Json
  deriving Repr

/-- `trends` (lines 229–235). -/
structure Trends where
  overallScoreTrend : List Json
  executionTimeTrend : List Json
  categoryTrends : PyDict Key (List Json)
  regressionPeriods : List Period
  improvementPeriods : List Period
  deriving Repr

/-- One pass of the period loop (lines 256–276). -/
def periodStep (acc : List Period × List Period) (i : Nat) (prev curr : RunAnalysis) :
    Except PyError (List Period × List Period) := do
  match ← relativeChange prev.overallScore curr.overallScore with
  | some change =>
    let period : Period := ⟨i - 1, i, change, prev.timestamp, curr.timestamp⟩
    if change < -5 then return (acc.1 ++ [period], acc.2)
    else if change > 5 then return (acc.1, acc.2 ++ [period])
    else return acc
  | none => return acc

/-- `for i in range(1, len(results_list))` from `i` on. -/
def periodLoop : Nat → List RunAnalysis → List Period × List Period →
    Except PyError (List Period × List Period)
  | i, prev :: curr :: rest, acc => do
    periodLoop (i + 1) (curr :: rest) (← periodStep acc i prev curr)
  | _, _, acc => .ok acc

/-- `all_categories` (lines 243–245). -/
def allCategories (resultsList : List RunAnalysis) : List Key :=
  resultsList.foldl (fun acc result => unionKeys acc result.categories.keys) []

/-- `result.get('categories', {}).get(category, {}).get('avg_ops_per_sec', 0)` (lines 250–251). -/
def categoryOps (category : Key) (result : RunAnalysis) : Json :=
  ((result.categories.get? category).map (·.avgOpsPerSec)).getD (.number 0)

/-- `analyze_performance_trends`. -/
def analyzePerformanceTrends (resultsList : List RunAnalysis) : Except PyError Trends := do
  let categoryTrends := PyDict.ofList ((allCategories resultsList).map fun category =>
    (category, resultsList.map (categoryOps category)))
  let periods ← periodLoop 1 resultsList ([], [])
  return {
    overallScoreTrend := resultsList.map (·.overallScore)
    executionTimeTrend := resultsList.map (·.executionTime)
    categoryTrends := categoryTrends
    regressionPeriods := periods.1
    improvementPeriods := periods.2 }

end Loaded

/-- A period as loaded values. -/
def Period.toLoaded (p : Period) : Loaded.Period :=
  ⟨p.fromIndex, p.toIndex, p.changePercentage, .string p.fromTimestamp, .string p.toTimestamp⟩

/-- Trends as loaded values. -/
def Trends.toLoaded (t : Trends) : Loaded.Trends :=
  ⟨t.overallScoreTrend.map .number, t.executionTimeTrend.map .number,
    t.categoryTrends.mapKeys Key.string Key.string_injective (·.map .number),
    t.regressionPeriods.map Period.toLoaded, t.improvementPeriods.map Period.toLoaded⟩

namespace Loaded

theorem periodStep_toLoaded (acc : List Analyzer.Period × List Analyzer.Period) (i : Nat)
    (prev curr : Analyzer.RunAnalysis) :
    periodStep (acc.1.map Analyzer.Period.toLoaded, acc.2.map Analyzer.Period.toLoaded) i
        prev.toLoaded curr.toLoaded =
      .ok ((Analyzer.periodStep acc i prev curr).1.map Analyzer.Period.toLoaded,
        (Analyzer.periodStep acc i prev curr).2.map Analyzer.Period.toLoaded) := by
  unfold periodStep Analyzer.periodStep
  by_cases hpos : 0 < prev.overallScore
  · simp only [Analyzer.RunAnalysis.toLoaded, relativeChange_number, if_pos hpos,
      Analyzer.percentageChange, gt_iff_lt, bind, Except.bind, pure, Except.pure]
    split_ifs <;> simp [Analyzer.Period.toLoaded]
  · simp [Analyzer.RunAnalysis.toLoaded, relativeChange_number, hpos, bind, Except.bind, pure,
      Except.pure]

theorem periodLoop_toLoaded (i : Nat) (rs : List Analyzer.RunAnalysis)
    (acc : List Analyzer.Period × List Analyzer.Period) :
    periodLoop i (rs.map Analyzer.RunAnalysis.toLoaded)
        (acc.1.map Analyzer.Period.toLoaded, acc.2.map Analyzer.Period.toLoaded) =
      .ok ((Analyzer.periodLoop i rs acc).1.map Analyzer.Period.toLoaded,
        (Analyzer.periodLoop i rs acc).2.map Analyzer.Period.toLoaded) := by
  induction rs generalizing i acc with
  | nil => rfl
  | cons prev rest ih =>
    match rest, ih with
    | [], _ => rfl
    | curr :: rest, ih =>
      simp only [List.map_cons, periodLoop, Analyzer.periodLoop, periodStep_toLoaded, bind,
        Except.bind]
      simpa using ih (i + 1) (Analyzer.periodStep acc i prev curr)

theorem allCategories_toLoaded (rs : List Analyzer.RunAnalysis) :
    allCategories (rs.map Analyzer.RunAnalysis.toLoaded) =
      (Analyzer.allCategories rs).map Key.string := by
  simp only [allCategories, Analyzer.allCategories, List.foldl_map]
  exact List.foldl_hom (List.map Key.string) _ _ rs [] fun acc r => by
    simp [Analyzer.RunAnalysis.toLoaded, unionKeys_map Key.string_injective]

theorem categoryOps_toLoaded (category : String) (r : Analyzer.RunAnalysis) :
    categoryOps (.string category) r.toLoaded = .number (Analyzer.categoryOps category r) := by
  simp only [categoryOps, Analyzer.categoryOps, toLoaded_categories, PyDict.get?_mapKeys]
  cases r.categories.get? category <;> rfl

/-- **The trends of loaded values refine the numeric ones**: on analyses whose names are
strings and whose values are numbers, `analyze_performance_trends` does not raise and computes
`Analyzer.analyzePerformanceTrends`. -/
theorem analyzePerformanceTrends_toLoaded (rs : List Analyzer.RunAnalysis) :
    analyzePerformanceTrends (rs.map Analyzer.RunAnalysis.toLoaded) =
      .ok (Analyzer.analyzePerformanceTrends rs).toLoaded := by
  have hperiods := periodLoop_toLoaded 1 rs ([], [])
  simp only [List.map_nil] at hperiods
  simp only [analyzePerformanceTrends, Analyzer.analyzePerformanceTrends, hperiods,
    allCategories_toLoaded, bind, Except.bind, pure, Except.pure, Analyzer.Trends.toLoaded,
    List.map_map, Function.comp_def, ← PyDict.ofList_mapKeys, categoryOps_toLoaded]
  rfl

end Loaded

/-! ## The directory -/

/-- `c.lower()` as `"benchmark" in file_path.name.lower()` sees it. The only characters whose
lowercase form holds a letter of `benchmark` are `A`–`Z` and the Kelvin sign `K` (U+212A),
which lowercases to `k`; every other character keeps its letters out of a match. -/
def lowerChar (c : Char) : Char := if c = 'K' then 'k' else c.toLower

/-- `"benchmark" in name.lower()` (line 195). -/
def isBenchmarkName (name : String) : Bool :=
  decide ("benchmark".toList.IsInfix (name.toList.map lowerChar))

/-- A path `dir_path.glob("*.json")` yields: `str(file_path)` and `file_path.name`. -/
structure GlobEntry where
  path : String
  name : String
  deriving DecidableEq, Repr

/-- What `analyze_directory` returns (lines 205–224); `trendAnalysis` is `none` for the `{}`
it keeps when fewer than two files give an analysis. -/
structure DirectoryAnalysis where
  directory : String
  totalFiles : Nat
  files : List String
  trendAnalysis : Option Loaded.Trends
  performanceEvolution : List Loaded.RunAnalysis
  deriving Repr

/-- `analyze_directory`: `none` stands for the `{}` it returns when the directory does not
exist (`dirExists`) or holds no benchmark file. `glob` is what `dir_path.glob("*.json")`
yields, in any order. -/
def analyzeDirectory (loadBenchmarkResults : String → Json) (dirExists : Bool)
    (glob : List GlobEntry) (directory : String) : Except PyError (Option DirectoryAnalysis) := do
  if !dirExists then return none
  let resultsFiles := ((glob.filter (isBenchmarkName ·.name)).map (·.path)).insertionSort (· ≤ ·)
  if resultsFiles = [] then return none
  let allResults ← resultsFiles.filterMapM (analyzeSingleRun loadBenchmarkResults)
  let trendAnalysis ← if allResults.length ≥ 2 then
      some <$> Loaded.analyzePerformanceTrends allResults else pure none
  return some {
    directory := directory
    totalFiles := resultsFiles.length
    files := resultsFiles
    trendAnalysis := trendAnalysis
    performanceEvolution := allResults }


/-- **The glob's order does not matter.** `analyze_directory` sorts the paths it keeps, so two
globs that list the same entries, in any orders, give the same analysis. -/
theorem analyze_directory_glob_order (loadBenchmarkResults : String → Json)
    (dirExists : Bool) (glob glob' : List GlobEntry) (directory : String) (h : glob.Perm glob') :
    analyzeDirectory loadBenchmarkResults dirExists glob directory =
      analyzeDirectory loadBenchmarkResults dirExists glob' directory := by
  have hfiles : ((glob.filter (isBenchmarkName ·.name)).map (·.path)).insertionSort (· ≤ ·) =
      ((glob'.filter (isBenchmarkName ·.name)).map (·.path)).insertionSort (· ≤ ·) :=
    List.eq_of_perm_of_sorted (((List.perm_insertionSort _ _).trans ((h.filter _).map _)).trans
      (List.perm_insertionSort _ _).symm) (List.sorted_insertionSort _ _)
      (List.sorted_insertionSort _ _)
  simp only [analyzeDirectory, hfiles]

/-- Two benchmark files that load with an overall score of 50, found in either order. -/
theorem two_files_in_either_order :
    analyzeDirectory (fun _ => .object [("overall_summary",
          .object [("overall_performance_score", .number 50)])]) true
        [⟨"results/benchmark_2.json", "benchmark_2.json"⟩,
          ⟨"results/benchmark_1.json", "benchmark_1.json"⟩] "results" =
      analyzeDirectory (fun _ => .object [("overall_summary",
          .object [("overall_performance_score", .number 50)])]) true
        [⟨"results/benchmark_1.json", "benchmark_1.json"⟩,
          ⟨"results/benchmark_2.json", "benchmark_2.json"⟩] "results" :=
  analyze_directory_glob_order _ _ _ _ _ (List.Perm.swap _ _ _)

end LambdustBench.Analyzer
