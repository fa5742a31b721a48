import LambdustBench.Analysis.Regression

/-!
# The native sweep and `run`

`BenchmarkRunner.run_implementation_benchmarks` (run_comprehensive_benchmarks.py:170–180) runs
`run_single_test` for every category, test and parameter combination, in that nesting, and
`run_native_benchmarks` (lines 148–168) does so for every implementation but `lambdust`,
storing the lists under the implementation ids. Neither catches an exception. `run`
(lines 822–866) catches what escapes each stage and fills `all_results` with the stages that
returned.

`run` is modelled from the point where the system check and the Lambdust build have passed
(otherwise it exits before `all_results` exists), up to the document it hands to
`generate_comprehensive_report`.

- `runNativeBenchmarks_no_records_without_iterations`: with `iterations = 0` every
  `run_single_test` raises, so the sweep produces no record at all.
- `native_results_lost_without_iterations`: on a one-test configuration with
  `iterations = 0`, `run` ends without `native_results`.
-/

namespace LambdustBench

/-- A test category of the configuration. -/
structure Category where
  name : String
  tests : List TestDef
  deriving DecidableEq, Repr

/-- The configuration keys the sweep reads. -/
structure Config where
  implementations : List Implementation
  testCategories : List Category
  statisticalConfig : StatisticalConfig
  deriving DecidableEq, Repr

/-! ## The sweep -/

/-- `for x in xs: results.extend(body(x))`, threading the sandbox state; the first exception
ends the loop and escapes it. -/
def sweepEach {α β : Type} (body : α → SandboxState → Except PyError (List β) × SandboxState) :
    List α → SandboxState → Except PyError (List β) × SandboxState
  | [], s => (.ok [], s)
  | x :: xs, s =>
    match body x s with
    | (.ok rs, s) =>
      match sweepEach body xs s with
      | (.ok rs', s) => (.ok (rs ++ rs'), s)
      | (.error e, s) => (.error e, s)
    | (.error e, s) => (.error e, s)

/-- `run_implementation_benchmarks` (lines 170–180). -/
def runImplementationBenchmarks (w : World) (cfg : Config) (impl : Implementation) :
    SandboxState → Except PyError (List ExecutionResult) × SandboxState :=
  sweepEach (fun category => sweepEach (fun test s =>
      match generateParameterCombinations test.parameters with
      | .error e => (.error e, s)
      | .ok combos => sweepEach (fun params s =>
          match runSingleTest w cfg.statisticalConfig impl test params category.name s with
          | (.ok r, s) => (.ok [r], s)
          | (.error e, s) => (.error e, s)) combos s)
    category.tests) cfg.testCategories

/-- The loop of `run_native_benchmarks` (lines 154–166) over the remaining implementations:
`results[impl['id']] = impl_results`. -/
def runNativeBenchmarks (w : World) (cfg : Config) :
    List Implementation → NativeResults → SandboxState → Except PyError NativeResults × SandboxState
  | [], results, s => (.ok results, s)
  | impl :: rest, results, s =>
    if impl.id = "lambdust" then runNativeBenchmarks w cfg rest results s else
    match runImplementationBenchmarks w cfg impl s with
    | (.ok implResults, s) => runNativeBenchmarks w cfg rest (results.set impl.id implResults) s
    | (.error e, s) => (.error e, s)

/-! ## `run` -/

/-- What the environment gives `run` besides the sandbox's world. -/
structure Environment where
  world : World
  /-- `run_docker_benchmarks()`: the parsed document, `none` when it is empty or falsy, or the
  exception escaping it (`TimeoutExpired`). -/
  docker : Except PyError (Option BaselineValue)
  /-- Loading the `--regression-baseline` file. -/
  baseline : Except PyError Baseline

/-- `run` (lines 837–866): the `all_results` it builds, each stage's exception caught. -/
def run (env : Environment) (cfg : Config) (regressionBaseline : Option String)
    (s : SandboxState) : AllResults × SandboxState :=
  let (native, s) := runNativeBenchmarks env.world cfg cfg.implementations ∅ s
  let nativeResults := match native with
    | .ok results => some results
    | .error _ => none
  let dockerResults := match env.docker with
    | .ok docker => docker
    | .error _ => none
  let statisticalAnalysis := nativeResults.bind fun results =>
    match performStatisticalAnalysis results with
    | .ok statistics => some statistics
    | .error _ => none
  (⟨nativeResults, dockerResults, statisticalAnalysis,
    detectRegressions regressionBaseline env.baseline (nativeResults.getD ∅)⟩, s)

/-! ## One record per cell -/

/-- The cell a record reports: implementation, category, test and parameter combination. -/
def ExecutionResult.cell (r : ExecutionResult) : String × String × String × Combination Value :=
  (r.implementation, r.category, r.testName, r.parameters)

/-- The cells of the sweep of one implementation, in sweep order: categories, then tests, then
the parameter expander's order. -/
def sweepCells (cfg : Config) (implId : String) : List (String × String × String × Combination Value) :=
  cfg.testCategories.flatMap fun c => c.tests.flatMap fun t =>
    (combosOf t.parameters).map fun params => (implId, c.name, t.name, params)

/-- A loop whose every body returns returns, and its results are the bodies' in order. -/
theorem sweepEach_ok {α β γ : Type}
    (body : α → SandboxState → Except PyError (List β) × SandboxState) (proj : β → γ)
    (f : α → List γ) (xs : List α)
    (hbody : ∀ x ∈ xs, ∀ s, ∃ rs, (body x s).1 = .ok rs ∧ rs.map proj = f x) (s : SandboxState) :
    ∃ rs, (sweepEach body xs s).1 = .ok rs ∧ rs.map proj = xs.flatMap f := by
  induction xs generalizing s with
  | nil => exact ⟨[], rfl, rfl⟩
  | cons x xs ih =>
    obtain ⟨rs₁, h₁, hp₁⟩ := hbody x (List.mem_cons_self _ _) s
    obtain ⟨rs₂, h₂, hp₂⟩ := ih (fun y hy => hbody y (List.mem_cons_of_mem _ hy)) (body x s).2
    refine ⟨rs₁ ++ rs₂, ?_, by simp [hp₁, hp₂]⟩
    have hx : body x s = (.ok rs₁, (body x s).2) := Prod.ext h₁ rfl
    have hxs : sweepEach body xs (body x s).2 =
        (.ok rs₂, (sweepEach body xs (body x s).2).2) := Prod.ext h₂ rfl
    simp only [sweepEach]
    rw [hx]
    dsimp only
    rw [hxs]

/-- With at least one iteration and a created temporary file, `run_single_test` returns a
record of its own cell. -/
theorem runSingleTest_cell (w : World) (cfg : StatisticalConfig) (impl : Implementation)
    (test : TestDef) (params : Combination Value) (category : String) (s : SandboxState)
    (hn : 1 ≤ cfg.iterations) (hfiles : ∀ i, ∃ file, w.tempFile i = .created file) :
    ∃ r, (runSingleTest w cfg impl test params category s).1 = .ok r ∧
      r.cell = (impl.id, category, test.name, params) := by
  obtain ⟨file, hf⟩ := hfiles s.tempFiles
  obtain ⟨h, -⟩ := runSingleTest_spec w cfg impl test params category s file hn hf
  exact ⟨_, h, by split <;> rfl⟩

/-- **One record per cell**: with at least one iteration, every temporary file created and
well-formed parameter lists, the sweep of an implementation returns one record per category,
test and parameter combination, in sweep order, whatever the processes do. -/
theorem runImplementationBenchmarks_cells (w : World) (cfg : Config) (impl : Implementation)
    (s : SandboxState) (hn : 1 ≤ cfg.statisticalConfig.iterations)
    (hfiles : ∀ i, ∃ file, w.tempFile i = .created file)
    (hwf : ∀ c ∈ cfg.testCategories, ∀ t ∈ c.tests, WellFormedSchema t.parameters) :
    ∃ rs, (runImplementationBenchmarks w cfg impl s).1 = .ok rs ∧
      rs.map ExecutionResult.cell = sweepCells cfg impl.id := by
  refine sweepEach_ok _ _ _ _ (fun c hc s => ?_) s
  refine sweepEach_ok _ _ _ _ (fun t ht s => ?_) s
  rw [generateParameterCombinations_eq _ (hwf c hc t ht), List.map_eq_flatMap]
  dsimp only
  refine sweepEach_ok _ _ _ _ (fun params _ s => ?_) s
  obtain ⟨r, hr, hcell⟩ := runSingleTest_cell w cfg.statisticalConfig impl t params c.name s
    hn hfiles
  have hrun : runSingleTest w cfg.statisticalConfig impl t params c.name s =
      (.ok r, (runSingleTest w cfg.statisticalConfig impl t params c.name s).2) := Prod.ext hr rfl
  exact ⟨[r], by rw [hrun], by simp [hcell]⟩

/-- The ids `run_native_benchmarks` sweeps: all but `lambdust`, in configuration order. -/
def nativeIds (impls : List Implementation) : List String :=
  (impls.filter fun impl => impl.id != "lambdust").map Implementation.id

/-- The native sweep over `impls` from `results`: every swept id maps to a list of its cells,
every other key keeps its entry. -/
theorem runNativeBenchmarks_cells (w : World) (cfg : Config)
    (hn : 1 ≤ cfg.statisticalConfig.iterations) (hfiles : ∀ i, ∃ file, w.tempFile i = .created file)
    (hwf : ∀ c ∈ cfg.testCategories, ∀ t ∈ c.tests, WellFormedSchema t.parameters)
    (impls : List Implementation) (results : NativeResults) (s : SandboxState) :
    ∃ final, (runNativeBenchmarks w cfg impls results s).1 = .ok final ∧ ∀ k,
      (k ∈ nativeIds impls → ∃ rs, final.get? k = some rs ∧
        rs.map ExecutionResult.cell = sweepCells cfg k) ∧
      (k ∉ nativeIds impls → final.get? k = results.get? k) := by
  induction impls generalizing results s with
  | nil => exact ⟨results, rfl, fun k => ⟨fun h => absurd h (by simp [nativeIds]), fun _ => rfl⟩⟩
  | cons impl rest ih =>
    by_cases hl : impl.id = "lambdust"
    · obtain ⟨final, h, hk⟩ := ih results s
      have hids : nativeIds (impl :: rest) = nativeIds rest := by simp [nativeIds, hl]
      exact ⟨final, by simpa [runNativeBenchmarks, hl] using h, hids ▸ hk⟩
    · obtain ⟨rs₀, h₀, hcells₀⟩ := runImplementationBenchmarks_cells w cfg impl s hn hfiles hwf
      obtain ⟨final, h, hk⟩ :=
        ih (results.set impl.id rs₀) (runImplementationBenchmarks w cfg impl s).2
      have hrun : runImplementationBenchmarks w cfg impl s =
          (.ok rs₀, (runImplementationBenchmarks w cfg impl s).2) := Prod.ext h₀ rfl
      have hids : nativeIds (impl :: rest) = impl.id :: nativeIds rest := by
        simp [nativeIds, hl]
      refine ⟨final, by simp only [runNativeBenchmarks, hl, if_false]; rw [hrun]; exact h,
        fun k => ?_⟩
      rw [hids, List.mem_cons]
      by_cases hr : k ∈ nativeIds rest
      · exact ⟨fun _ => (hk k).1 hr, fun h => absurd (Or.inr hr) h⟩
      · rw [(hk k).2 hr, PyDict.get?_set]
        by_cases hki : impl.id = k
        · subst hki; exact ⟨fun _ => ⟨rs₀, by simp, hcells₀⟩, fun h => absurd (Or.inl rfl) h⟩
        · simp [hki, Ne.symm hki, hr]

/-- **`native_results` when no defect is hit**: with at least one iteration, every temporary
file created and well-formed parameter lists, `run` ends with `native_results`, mapping each
non-`lambdust` implementation id, and nothing else, to one record per cell of its sweep, in
sweep order, whatever the processes do. -/
theorem run_native_results_cells (env : Environment) (cfg : Config)
    (regressionBaseline : Option String) (s : SandboxState)
    (hn : 1 ≤ cfg.statisticalConfig.iterations)
    (hfiles : ∀ i, ∃ file, env.world.tempFile i = .created file)
    (hwf : ∀ c ∈ cfg.testCategories, ∀ t ∈ c.tests, WellFormedSchema t.parameters) :
    ∃ native, (run env cfg regressionBaseline s).1.nativeResults = some native ∧ ∀ k,
      (k ∈ nativeIds cfg.implementations → ∃ rs, native.get? k = some rs ∧
        rs.map ExecutionResult.cell = sweepCells cfg k) ∧
      (k ∉ nativeIds cfg.implementations → native.get? k = none) := by
  obtain ⟨final, h, hk⟩ := runNativeBenchmarks_cells env.world cfg hn hfiles hwf
    cfg.implementations ∅ s
  have hrun : runNativeBenchmarks env.world cfg cfg.implementations ∅ s =
      (.ok final, (runNativeBenchmarks env.world cfg cfg.implementations ∅ s).2) := Prod.ext h rfl
  exact ⟨final, by simp only [run]; rw [hrun], fun k => ⟨(hk k).1, fun hn => (hk k).2 hn⟩⟩

/-- Two implementations, `lambdust` skipped, a test with two parameter values, two
iterations, every process succeeding. -/
theorem run_native_results_cells_two_combinations :
    let chez : Implementation := ⟨"chez", "Chez Scheme", "scheme", ["--script"], "", ""⟩
    let lambdust : Implementation := ⟨"lambdust", "Lambdust", "", [], "target", "release"⟩
    let cfg : Config := ⟨[lambdust, chez], [⟨"recursion", [⟨"fib", "(fib \x7bn\x7d)",
      [⟨"n", [⟨some "Integer", some (.int 10)⟩, ⟨some "Integer", some (.int 20)⟩]⟩]⟩]⟩], ⟨2, 1⟩⟩
    let env : Environment :=
      ⟨⟨fun i => .created ("t" ++ toString i), fun _ _ => ⟨.exited 0 "" "", 1⟩⟩, .ok none,
        .ok (.object ∅)⟩
    ∃ native, (run env cfg none ⟨0, 0, []⟩).1.nativeResults = some native ∧ ∀ k,
      (k ∈ nativeIds cfg.implementations → ∃ rs, native.get? k = some rs ∧
        rs.map ExecutionResult.cell = sweepCells cfg k) ∧
      (k ∉ nativeIds cfg.implementations → native.get? k = none) :=
  run_native_results_cells _ _ _ _ (by decide) (fun i => ⟨_, rfl⟩) (by decide)

/-! ## Zero iterations -/

/-- A loop whose every body returns no result returns none. -/
theorem sweepEach_nil_of_body {α β : Type}
    (body : α → SandboxState → Except PyError (List β) × SandboxState)
    (hbody : ∀ x s rs, (body x s).1 = .ok rs → rs = []) (xs : List α) (s : SandboxState)
    (rs : List β) (h : (sweepEach body xs s).1 = .ok rs) : rs = [] := by
  induction xs generalizing s rs with
  | nil => simpa [sweepEach] using h.symm
  | cons x xs ih =>
    simp only [sweepEach] at h
    split at h
    · rename_i rs₁ s₁ hx
      split at h
      · rename_i rs₂ s₂ hxs
        cases h
        rw [hbody x s rs₁ (by rw [hx]), ih s₁ rs₂ (by rw [hxs]), List.append_nil]
      · cases h
    · cases h

/-- With `iterations = 0`, `run_single_test` raises whatever the temporary file does. -/
theorem runSingleTest_error_of_no_iterations (w : World) (cfg : StatisticalConfig)
    (impl : Implementation) (test : TestDef) (params : Combination Value) (category : String)
    (s : SandboxState) (h0 : cfg.iterations = 0) :
    ∃ e, (runSingleTest w cfg impl test params category s).1 = .error e := by
  unfold runSingleTest
  split <;> simp [h0, measureRuns]

/-- With `iterations = 0`, an implementation's sweep that returns has collected no record:
every test it reaches raises, so only tests whose parameters fail to expand are left. -/
theorem runImplementationBenchmarks_nil_of_no_iterations (w : World) (cfg : Config)
    (h0 : cfg.statisticalConfig.iterations = 0) (impl : Implementation) (s : SandboxState)
    (rs : List ExecutionResult) (h : (runImplementationBenchmarks w cfg impl s).1 = .ok rs) :
    rs = [] := by
  refine sweepEach_nil_of_body _
    (fun category => sweepEach_nil_of_body _ (fun test s rs h => ?_) _) _ _ _ h
  split at h
  · cases h
  · refine sweepEach_nil_of_body _ (fun params s rs h => ?_) _ _ _ h
    obtain ⟨e, he⟩ := runSingleTest_error_of_no_iterations w cfg.statisticalConfig impl test
      params category.name s h0
    rw [show runSingleTest w cfg.statisticalConfig impl test params category.name s =
      (.error e, _) from Prod.ext he rfl] at h
    cases h

/-- **No record without iterations**: with `iterations = 0`, the native sweep raises at the
first test it reaches; when it returns, it ran none, and the map it returns holds no record. -/
theorem runNativeBenchmarks_no_records_without_iterations (w : World) (cfg : Config)
    (h0 : cfg.statisticalConfig.iterations = 0) (impls : List Implementation)
    (results : NativeResults) (s : SandboxState) (hres : results.items.flatMap Prod.snd = [])
    (final : NativeResults) (h : (runNativeBenchmarks w cfg impls results s).1 = .ok final) :
    final.items.flatMap Prod.snd = [] := by
  rw [List.flatMap_eq_nil_iff] at hres ⊢
  induction impls generalizing results s with
  | nil => simp only [runNativeBenchmarks, Except.ok.injEq] at h; exact h ▸ hres
  | cons impl rest ih =>
    simp only [runNativeBenchmarks] at h
    split at h
    · exact ih results s hres h
    · split at h
      · rename_i rs s₁ hrs
        refine ih _ s₁ (fun e he => ?_) h
        rcases PyDict.mem_setItems he with he | rfl
        · exact hres e he
        · exact runImplementationBenchmarks_nil_of_no_iterations w cfg h0 impl s rs (by rw [hrs])
      · cases h

/-- A configuration without categories: the sweep returns, with an empty list for `chez`. -/
theorem no_records_without_categories :
    ((∅ : NativeResults).set "chez" []).items.flatMap Prod.snd = [] :=
  runNativeBenchmarks_no_records_without_iterations
    ⟨fun _ => .created "t.scm", fun _ _ => ⟨.timedOut, 0⟩⟩ ⟨[], [], ⟨0, 1⟩⟩ rfl
    [⟨"chez", "Chez Scheme", "scheme", ["--script"], "", ""⟩] ∅ ⟨0, 0, []⟩ rfl _ rfl

/-- One implementation, one test without parameters, every temporary file created and every
process succeeding: with `iterations = 0`, `run` ends without `native_results`, and so without
`statistical_analysis`. With three iterations and a temporary file whose write fails, the same. -/
theorem native_results_lost_without_iterations :
    let impl : Implementation := ⟨"chez", "Chez Scheme", "scheme", ["--script"], "", ""⟩
    let categories : List Category := [⟨"recursion", [⟨"fib", "(fib 10)", []⟩]⟩]
    let invoke : Nat → List String → Invocation := fun _ _ => ⟨.exited 0 "55" "", 1⟩
    (run ⟨⟨fun _ => .created "fib.scm", invoke⟩, .ok none, .ok (.object ∅)⟩
        ⟨[impl], categories, ⟨0, 1⟩⟩ none ⟨0, 0, []⟩).1.nativeResults = none ∧
      (run ⟨⟨fun _ => .writeFailed "fib.scm" "No space left on device", invoke⟩, .ok none,
        .ok (.object ∅)⟩ ⟨[impl], categories, ⟨3, 1⟩⟩ none ⟨0, 0, []⟩).1.nativeResults = none :=
  ⟨rfl, rfl⟩

end LambdustBench
