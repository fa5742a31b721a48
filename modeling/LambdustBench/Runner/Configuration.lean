import LambdustBench.Runner.Sweep

/-!
# Command-line overrides (`load_configuration`)

`BenchmarkRunner.load_configuration` (run_comprehensive_benchmarks.py:48–80) reads the JSON
configuration and applies the command-line overrides before `run` sees it. `--quick` sets
three iterations and one warmup iteration. `--implementations` and `--categories` keep the
implementations and categories whose `id` or `name` is one of the comma-separated fields of
the argument. An absent or empty argument keeps them all.

The fields are compared as typed: `split(',')` does not strip them, so
`--implementations "chez, racket"` keeps `chez` and drops `racket`. (`generate_tests.py`'s
`main` strips its fields; this one does not.)

- `selects`: which names an argument selects, and `keepSelected_eq_filter`, that the override
  is the filter by it.
- `quick_run_sweeps_selected`: with `--quick`, `run` gives `native_results` mapping exactly the
  selected non-`lambdust` implementations, each to one record per cell of the selected
  categories. The loss of every record at zero iterations cannot happen.
-/

namespace LambdustBench

/-- The command-line arguments `load_configuration` reads; `argparse`'s `None` is `none`. -/
structure Args where
  quick : Bool
  implementations : Option String
  categories : Option String
  deriving DecidableEq, Repr

/-- `arg.split(',')`. -/
def splitFields (arg : String) : List String := (arg.toList.splitOn ',').map String.mk

/-- `[x for x in xs if key(x) in set(arg.split(','))]` under `if arg:` (lines 63–75), the
override of `--implementations` (by `id`) and of `--categories` (by `name`). -/
def keepSelected {α : Type} (key : α → String) (arg : Option String) (xs : List α) : List α :=
  match arg with
  | some s => if s = "" then xs else xs.filter fun x => key x ∈ splitFields s
  | none => xs

/-- `load_configuration` after `json.load` (lines 54–78). -/
def loadConfiguration (args : Args) (config : Config) : Config :=
  let config := if args.quick then
      { config with statisticalConfig :=
          { config.statisticalConfig with iterations := 3, warmupIterations := 1 } }
    else config
  { config with
    implementations := keepSelected Implementation.id args.implementations config.implementations
    testCategories := keepSelected Category.name args.categories config.testCategories }

/-- Whether `--implementations` or `--categories` selects `name`: always when the argument is
absent or empty, else when `name` is one of its fields. -/
def selects (arg : Option String) (name : String) : Bool :=
  match arg with
  | some s => s == "" || decide (name ∈ splitFields s)
  | none => true

theorem keepSelected_eq_filter {α : Type} (key : α → String) (arg : Option String)
    (xs : List α) : keepSelected key arg xs = xs.filter fun x => selects arg (key x) := by
  cases arg with
  | none => simp [keepSelected, selects]
  | some s =>
    by_cases hs : s = ""
    · simp [keepSelected, selects, hs]
    · simp [keepSelected, selects, hs, beq_false_of_ne hs]

theorem mem_nativeIds_keepSelected (arg : Option String) (impls : List Implementation)
    (k : String) :
    k ∈ nativeIds (keepSelected Implementation.id arg impls) ↔
      k ∈ nativeIds impls ∧ selects arg k = true := by
  simp only [nativeIds, keepSelected_eq_filter, List.filter_filter, List.mem_map, List.mem_filter,
    Bool.and_eq_true]
  constructor
  · rintro ⟨impl, ⟨hmem, hl, hsel⟩, rfl⟩
    exact ⟨⟨impl, ⟨hmem, hl⟩, rfl⟩, hsel⟩
  · rintro ⟨⟨impl, ⟨hmem, hl⟩, rfl⟩, hsel⟩
    exact ⟨impl, ⟨hmem, hl, hsel⟩, rfl⟩

/-- `run` keeps the native sweep's results when the sweep returns. -/
theorem run_nativeResults_of_ok (env : Environment) (cfg : Config)
    (regressionBaseline : Option String) (s : SandboxState) (native : NativeResults)
    (h : (runNativeBenchmarks env.world cfg cfg.implementations ∅ s).1 = .ok native) :
    (run env cfg regressionBaseline s).1.nativeResults = some native := by
  have hrun : runNativeBenchmarks env.world cfg cfg.implementations ∅ s =
      (.ok native, (runNativeBenchmarks env.world cfg cfg.implementations ∅ s).2) := Prod.ext h rfl
  simp only [run]
  rw [hrun]

/-- **`run` after the overrides of `--quick`**: with every temporary file created and
well-formed parameter lists, `native_results` maps each non-`lambdust` implementation that
`--implementations` selects, and nothing else, to one record per cell of the categories
`--categories` selects, in sweep order, whatever the configured iteration count. -/
theorem quick_run_sweeps_selected (env : Environment) (cfg : Config) (args : Args)
    (regressionBaseline : Option String) (s : SandboxState) (hquick : args.quick = true)
    (hfiles : ∀ i, ∃ file, env.world.tempFile i = .created file)
    (hwf : ∀ c ∈ cfg.testCategories, ∀ t ∈ c.tests, WellFormedSchema t.parameters) :
    ∃ native,
      (run env (loadConfiguration args cfg) regressionBaseline s).1.nativeResults = some native ∧
      ∀ k, (k ∈ nativeIds cfg.implementations ∧ selects args.implementations k →
          ∃ rs, native.get? k = some rs ∧ rs.map ExecutionResult.cell =
            sweepCells { cfg with testCategories :=
              cfg.testCategories.filter fun c => selects args.categories c.name } k) ∧
        (¬(k ∈ nativeIds cfg.implementations ∧ selects args.implementations k) →
          native.get? k = none) := by
  have hn : 1 ≤ (loadConfiguration args cfg).statisticalConfig.iterations := by
    simp [loadConfiguration, hquick]
  have hwf' : ∀ c ∈ (loadConfiguration args cfg).testCategories, ∀ t ∈ c.tests,
      WellFormedSchema t.parameters := fun c hc => by
    simp only [loadConfiguration, keepSelected_eq_filter, List.mem_filter] at hc
    exact hwf c (by split at hc <;> exact hc.1)
  obtain ⟨native, h, hk⟩ := runNativeBenchmarks_cells env.world _ hn hfiles hwf'
    (loadConfiguration args cfg).implementations ∅ s
  have hids : (loadConfiguration args cfg).implementations =
      keepSelected Implementation.id args.implementations cfg.implementations := by
    simp only [loadConfiguration]; split <;> rfl
  have hcats : (loadConfiguration args cfg).testCategories =
      cfg.testCategories.filter fun c => selects args.categories c.name := by
    simp only [loadConfiguration, keepSelected_eq_filter]; split <;> rfl
  refine ⟨native, run_nativeResults_of_ok _ _ _ _ _ h, fun k => ?_⟩
  simp only [hids, mem_nativeIds_keepSelected] at hk
  exact ⟨fun hsel => by simpa only [sweepCells, hcats] using (hk k).1 hsel, (hk k).2⟩

/-- `--quick --implementations "chez, racket"` on a configuration of zero iterations: `racket`
is not selected, and `chez` gets its one cell. -/
theorem spaced_implementation_list_drops_racket :
    let chez : Implementation := ⟨"chez", "Chez Scheme", "scheme", ["--script"], "", ""⟩
    let racket : Implementation := ⟨"racket", "Racket", "racket", [], "", ""⟩
    let cfg : Config := ⟨[chez, racket], [⟨"recursion", [⟨"fib", "(fib 10)", []⟩]⟩], ⟨0, 0⟩⟩
    let args : Args := ⟨true, some "chez, racket", none⟩
    let env : Environment :=
      ⟨⟨fun i => .created ("t" ++ toString i), fun _ _ => ⟨.exited 0 "" "", 1⟩⟩, .ok none,
        .ok (.object ∅)⟩
    selects args.implementations "racket" = false ∧
    ∃ native, (run env (loadConfiguration args cfg) none ⟨0, 0, []⟩).1.nativeResults = some native ∧
      ∀ k, (k ∈ nativeIds cfg.implementations ∧ selects args.implementations k →
          ∃ rs, native.get? k = some rs ∧ rs.map ExecutionResult.cell =
            sweepCells { cfg with testCategories :=
              cfg.testCategories.filter fun c => selects args.categories c.name } k) ∧
        (¬(k ∈ nativeIds cfg.implementations ∧ selects args.implementations k) →
          native.get? k = none) :=
  ⟨rfl, quick_run_sweeps_selected _ _ _ _ _ rfl (fun i => ⟨_, rfl⟩) (by decide)⟩

end LambdustBench
