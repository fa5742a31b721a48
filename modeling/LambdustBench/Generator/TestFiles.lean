import LambdustBench.Python.Runtime
import Mathlib.Data.List.Basic

/-!
# Generating the test files (`scripts/generate_tests.py`)

`TestGenerator.generate_all_tests` (lines 29–39) walks the benchmark suites. For each test of
a suite, `generate_test_variants` (lines 41–62) writes one file per target implementation
that the configuration knows, into the suite's directory, named after the test and the
implementation's file extension. `generate_test_code` (lines 315–338) builds the file from a
header, the implementation's setup, the test's setup and code, and the implementation's
execution wrapper.

The Scheme texts of the three literal tables (`test_definitions`, `setup_code`, and
`execution_wrappers` with `standard_execution`) are a parameter, `Tables`; nothing below depends
on them. The files are a dict from (suite directory, file name) to contents, and opening a file
with `'w'` replaces its contents. A `KeyError` on the configuration stops the run, and the
files written before it stay.

- `forEach`: a `for` loop whose body may raise, over a state that survives the exception.
- `generateAllTests_eq`: with every suite listing its tests and every known target giving its
  file extension, the run raises nothing and performs the writes `allWrites` in order.
- `suite_without_tests_stops_run`: a suite without `tests` stops the run with `KeyError`, after
  the files of the suites before it and before any of the suites after it.
- `generated_test_file_last_writer`: after such a run, a test's file with extension `e` holds
  the code of the last target implementation with extension `e`. Implementations that share an
  extension overwrite each other's files, and only the last one's test is left.
-/

namespace LambdustBench.Generator

/-! ## The model -/

/-- `self.implementations[impl_name]`: its `file_extension`, `none` when the key is absent. -/
structure ImplementationConfig where
  fileExtension : Option String
  deriving DecidableEq, Repr

/-- `self.benchmark_suites[suite_name]`: its `tests`, `none` when the key is absent. -/
structure SuiteConfig where
  tests : Option (List String)
  deriving DecidableEq, Repr

/-- The configuration's `implementations` and `benchmark_suites`. -/
structure GeneratorConfig where
  implementations : PyDict String ImplementationConfig
  benchmarkSuites : PyDict String SuiteConfig
  deriving DecidableEq, Repr

/-- An entry of `test_definitions`: the keys `generate_test_code` reads. -/
structure TestDefinition where
  description : Option String
  setup : Option String
  mainCode : Option String
  deriving DecidableEq, Repr

/-- The literal tables of `get_test_definition` (lines 68–308), `get_implementation_setup`
(lines 344–376) and `get_execution_wrapper` (lines 382–458). -/
structure Tables where
  testDefinitions : PyDict String TestDefinition
  setupCode : PyDict String String
  executionWrappers : PyDict String String
  standardExecution : String
  deriving DecidableEq, Repr

/-- `get_test_definition`, with its fallback for a test the table lacks (lines 310–315). -/
def getTestDefinition (tables : Tables) (testName : String) : TestDefinition :=
  (tables.testDefinitions.get? testName).getD
    { description := some ("Test for " ++ testName)
      setup := some ""
      mainCode := some ("(define (run-test) \"placeholder-" ++ testName ++ "\")") }

/-- `get_implementation_setup`. -/
def getImplementationSetup (tables : Tables) (implName : String) : String :=
  (tables.setupCode.get? implName).getD "; Generic setup"

/-- `get_execution_wrapper`; the test's name is not read. -/
def getExecutionWrapper (tables : Tables) (implName _testName : String) : String :=
  (tables.executionWrappers.get? implName).getD tables.standardExecution

/-- `generate_test_code`. -/
def generateTestCode (tables : Tables) (testName implName : String)
    (testDefinition : TestDefinition) : String :=
  let header := "; Benchmark: " ++ testName ++ "\n; Implementation: " ++ implName ++
    "\n; Description: " ++ testDefinition.description.getD "Performance test" ++
    "\n; Generated automatically - do not edit\n\n"
  let setup := getImplementationSetup tables implName
  let testSetup := testDefinition.setup.getD ""
  let mainCode := testDefinition.mainCode.getD ""
  let executionCode := getExecutionWrapper tables implName testName
  header ++ setup ++ "\n" ++ testSetup ++ "\n" ++ mainCode ++ "\n" ++ executionCode

/-- The files: (suite directory, file name) to contents. -/
abbrev Files := PyDict (String × String) String

/-- `for x in xs: body(x)`, each pass over the state the previous one left; the first
exception stops the loop with the state at that point. -/
def forEach {α σ : Type} (body : α → σ → Except PyError Unit × σ) :
    List α → σ → Except PyError Unit × σ
  | [], s => (.ok (), s)
  | x :: xs, s =>
    match body x s with
    | (.ok (), s') => forEach body xs s'
    | (.error e, s') => (.error e, s')

/-- One pass of the loop of `generate_test_variants` (lines 47–62): an implementation the
configuration lacks is skipped; one without `file_extension` raises `KeyError`. -/
def variantStep (cfg : GeneratorConfig) (tables : Tables) (testName suiteName : String)
    (testDefinition : TestDefinition) (implName : String) (files : Files) :
    Except PyError Unit × Files :=
  match cfg.implementations.get? implName with
  | none => (.ok (), files)
  | some implConfig =>
    match implConfig.fileExtension with
    | none => (.error (.keyError "file_extension"), files)
    | some fileExtension =>
      (.ok (), files.set (suiteName, testName ++ fileExtension)
        (generateTestCode tables testName implName testDefinition))

/-- `generate_test_variants`. -/
def generateTestVariants (cfg : GeneratorConfig) (tables : Tables) (testName suiteName : String)
    (targetImplementations : List String) (files : Files) : Except PyError Unit × Files :=
  forEach (variantStep cfg tables testName suiteName (getTestDefinition tables testName))
    targetImplementations files

/-- One pass of the suite loop of `generate_all_tests` (lines 32–39); a suite without `tests`
raises `KeyError`. -/
def suiteStep (cfg : GeneratorConfig) (tables : Tables) (targetImplementations : List String)
    (suite : String × SuiteConfig) (files : Files) : Except PyError Unit × Files :=
  match suite.2.tests with
  | none => (.error (.keyError "tests"), files)
  | some tests =>
    forEach (fun testName => generateTestVariants cfg tables testName suite.1 targetImplementations)
      tests files

/-- `generate_all_tests`, from the files already there. -/
def generateAllTests (cfg : GeneratorConfig) (tables : Tables) (targetImplementations : List String)
    (files : Files) : Except PyError Unit × Files :=
  forEach (suiteStep cfg tables targetImplementations) cfg.benchmarkSuites.items files

/-! ## The writes of a run -/

/-- A target's file extension, when the configuration knows the target and gives one. -/
def extensionOf (cfg : GeneratorConfig) (implName : String) : Option String :=
  (cfg.implementations.get? implName).bind (·.fileExtension)

/-- The writes of `generate_test_variants`, in order. -/
def variantWrites (cfg : GeneratorConfig) (tables : Tables) (testName suiteName : String)
    (targetImplementations : List String) : List ((String × String) × String) :=
  targetImplementations.filterMap fun implName => (extensionOf cfg implName).map fun ext =>
    ((suiteName, testName ++ ext),
      generateTestCode tables testName implName (getTestDefinition tables testName))

/-- The writes of `generate_all_tests`, in order. -/
def allWrites (cfg : GeneratorConfig) (tables : Tables) (targetImplementations : List String) :
    List ((String × String) × String) :=
  cfg.benchmarkSuites.items.flatMap fun suite => (suite.2.tests.getD []).flatMap fun testName =>
    variantWrites cfg tables testName suite.1 targetImplementations

/-- The files after the writes `ws`, in order. -/
def applyWrites (ws : List ((String × String) × String)) (files : Files) : Files :=
  ws.foldl (fun d w => d.set w.1 w.2) files

theorem forEach_of_ok {α σ : Type} (body : α → σ → Except PyError Unit × σ) (f : α → σ → σ)
    (xs : List α) (hbody : ∀ x ∈ xs, ∀ s, body x s = (.ok (), f x s)) (s : σ) :
    forEach body xs s = (.ok (), xs.foldl (fun s x => f x s) s) := by
  induction xs generalizing s with
  | nil => rfl
  | cons x xs ih =>
    simp only [forEach, hbody x (List.mem_cons_self x xs), List.foldl_cons]
    exact ih (fun y hy => hbody y (List.mem_cons_of_mem x hy)) _

@[simp] theorem applyWrites_append (ws ws' : List ((String × String) × String)) (files : Files) :
    applyWrites (ws ++ ws') files = applyWrites ws' (applyWrites ws files) := by
  simp [applyWrites, List.foldl_append]

theorem foldl_applyWrites {α : Type} (g : α → List ((String × String) × String)) (xs : List α)
    (files : Files) :
    xs.foldl (fun s x => applyWrites (g x) s) files = applyWrites (xs.flatMap g) files := by
  induction xs generalizing files with
  | nil => rfl
  | cons x xs ih => simp [ih]

theorem variantStep_eq (cfg : GeneratorConfig) (tables : Tables) (testName suiteName : String)
    (implName : String) (himpl : (cfg.implementations.get? implName).all (·.fileExtension.isSome))
    (files : Files) :
    variantStep cfg tables testName suiteName (getTestDefinition tables testName) implName files =
      (.ok (), applyWrites (variantWrites cfg tables testName suiteName [implName]) files) := by
  unfold variantStep
  simp only [variantWrites, extensionOf, List.filterMap_cons, List.filterMap_nil]
  cases h : cfg.implementations.get? implName with
  | none => rfl
  | some ic =>
    rw [h] at himpl
    cases hx : ic.fileExtension with
    | none => simp [hx] at himpl
    | some ext => simp [hx, applyWrites]

theorem generateTestVariants_eq (cfg : GeneratorConfig) (tables : Tables)
    (testName suiteName : String) (targets : List String)
    (hext : ∀ implName ∈ targets, (cfg.implementations.get? implName).all (·.fileExtension.isSome))
    (files : Files) :
    generateTestVariants cfg tables testName suiteName targets files =
      (.ok (), applyWrites (variantWrites cfg tables testName suiteName targets) files) := by
  rw [generateTestVariants, forEach_of_ok _ _ targets
    (fun x hx s => variantStep_eq cfg tables testName suiteName x (hext x hx) s), foldl_applyWrites,
    variantWrites, List.filterMap_eq_flatMap_toList]
  congr 3

/-- A suite that lists its `tests` performs the writes of its tests in order. -/
theorem suiteStep_eq (cfg : GeneratorConfig) (tables : Tables) (targets : List String)
    (hext : ∀ implName ∈ targets, (cfg.implementations.get? implName).all (·.fileExtension.isSome))
    (suite : String × SuiteConfig) (htests : suite.2.tests.isSome) (files : Files) :
    suiteStep cfg tables targets suite files =
      (.ok (), applyWrites ((suite.2.tests.getD []).flatMap fun testName =>
        variantWrites cfg tables testName suite.1 targets) files) := by
  obtain ⟨tests, htests'⟩ := Option.isSome_iff_exists.mp htests
  simp only [suiteStep, htests', Option.getD_some]
  rw [forEach_of_ok _ _ tests
    (fun t _ s => generateTestVariants_eq cfg tables t suite.1 targets hext s), foldl_applyWrites]

/-- **The run's writes.** When every suite lists its `tests` and every target the
configuration knows gives its `file_extension`, `generate_all_tests` raises nothing and
performs `allWrites` in order. -/
theorem generateAllTests_eq (cfg : GeneratorConfig) (tables : Tables) (targets : List String)
    (hext : ∀ implName ∈ targets, (cfg.implementations.get? implName).all (·.fileExtension.isSome))
    (htests : ∀ suite ∈ cfg.benchmarkSuites.items, suite.2.tests.isSome) (files : Files) :
    generateAllTests cfg tables targets files =
      (.ok (), applyWrites (allWrites cfg tables targets) files) := by
  rw [generateAllTests, forEach_of_ok _ _ _
    (fun suite hs => suiteStep_eq cfg tables targets hext suite (htests suite hs)),
    foldl_applyWrites, allWrites]

/-- A loop whose passes return up to one that raises: the exception, with the state the
passes before it left. -/
theorem forEach_append_error {α σ : Type} (body : α → σ → Except PyError Unit × σ)
    (f : α → σ → σ) (xs : List α) (y : α) (ys : List α) (e : PyError)
    (hbody : ∀ x ∈ xs, ∀ s, body x s = (.ok (), f x s)) (hy : ∀ s, body y s = (.error e, s))
    (s : σ) : forEach body (xs ++ y :: ys) s = (.error e, xs.foldl (fun s x => f x s) s) := by
  induction xs generalizing s with
  | nil => simp [forEach, hy]
  | cons x xs ih =>
    simp only [List.cons_append, forEach, hbody x (List.mem_cons_self x xs), List.foldl_cons]
    exact ih (fun x' hx' => hbody x' (List.mem_cons_of_mem x hx')) _

/-- **A suite without `tests` stops the run.** When every target the configuration knows
gives its `file_extension`, `generate_all_tests` raises `KeyError('tests')` at the first suite
without `tests`. The files of the suites before it are written, and none of the suites after
it. -/
theorem suite_without_tests_stops_run (cfg : GeneratorConfig) (tables : Tables)
    (targets : List String)
    (hext : ∀ implName ∈ targets, (cfg.implementations.get? implName).all (·.fileExtension.isSome))
    (pre : List (String × SuiteConfig)) (suite : String × SuiteConfig)
    (post : List (String × SuiteConfig)) (hsuites : cfg.benchmarkSuites.items = pre ++ suite :: post)
    (hpre : ∀ s ∈ pre, s.2.tests.isSome) (hsuite : suite.2.tests = none) (files : Files) :
    generateAllTests cfg tables targets files =
      (.error (.keyError "tests"), applyWrites (pre.flatMap fun s =>
        (s.2.tests.getD []).flatMap fun testName => variantWrites cfg tables testName s.1 targets)
        files) := by
  rw [generateAllTests, hsuites, forEach_append_error _ _ pre suite post (.keyError "tests")
    (fun s hs => suiteStep_eq cfg tables targets hext s (hpre s hs))
    (fun s => by simp only [suiteStep, hsuite]), foldl_applyWrites]

/-! ## The last writer wins -/

/-- The contents of a file after the writes `ws`: the last write to it, else what it held. -/
theorem applyWrites_get? (ws : List ((String × String) × String)) (files : Files)
    (path : String × String) :
    (applyWrites ws files).get? path =
      ((ws.filter (·.1 = path)).getLast?.map (·.2)).or (files.get? path) := by
  induction ws generalizing files with
  | nil => simp [applyWrites]
  | cons w ws ih =>
    simp only [applyWrites, List.foldl_cons] at ih ⊢
    rw [ih, PyDict.get?_set]
    by_cases hw : w.1 = path
    · cases h : (ws.filter (·.1 = path)).getLast? <;> simp [hw, h, List.filter_cons, List.getLast?_cons]
    · simp [hw, List.filter_cons]

/-- A dict's items with key `k`: the one item of `k`. -/
theorem items_filter_key {κ ν : Type} [DecidableEq κ] (d : PyDict κ ν) {k : κ} {v : ν}
    (h : d.get? k = some v) : d.items.filter (·.1 = k) = [(k, v)] := by
  obtain ⟨items, hnodup⟩ := d
  simp only [PyDict.get?] at h ⊢
  induction items with
  | nil => simp [PyDict.lookup] at h
  | cons kv items ih =>
    obtain ⟨k', v'⟩ := kv
    simp only [List.map_cons, List.nodup_cons] at hnodup
    by_cases hk : k' = k
    · subst hk
      simp only [PyDict.lookup, if_pos, Option.some.injEq] at h
      subst h
      have hrest : items.filter (·.1 = k') = [] :=
        List.filter_eq_nil_iff.mpr fun kv hkv hkey => hnodup.1
          (List.mem_map.mpr ⟨kv, hkv, by simpa using hkey⟩)
      simp [List.filter_cons, hrest]
    · simp only [PyDict.lookup, if_neg hk] at h
      simp [List.filter_cons, hk, ih hnodup.2 h]

theorem string_append_left_cancel {a b c : String} (h : a ++ b = a ++ c) : b = c :=
  String.ext (List.append_cancel_left (congrArg String.data h))

theorem getLast?_flatMap_ite {α β : Type} [DecidableEq α] (xs : List α) (a : α) (W : List β) :
    (xs.flatMap fun x => if x = a then W else []).getLast? = if a ∈ xs then W.getLast? else none := by
  induction xs with
  | nil => simp
  | cons x xs ih =>
    rw [List.flatMap_cons, List.getLast?_append, ih]
    by_cases hx : x = a
    · subst hx
      by_cases hxs : x ∈ xs <;> simp [hxs]
    · by_cases hxs : a ∈ xs <;> simp [hx, hxs, Ne.symm hx]

/-- The target implementations that write a file with extension `ext`, in order. -/
def writersWith (cfg : GeneratorConfig) (targets : List String) (ext : String) : List String :=
  targets.filter fun implName => extensionOf cfg implName = some ext

/-- The writes of a test to its file with extension `ext`: one per writer, in order. -/
theorem variantWrites_filter (cfg : GeneratorConfig) (tables : Tables) (suiteName t testName ext : String)
    (targets : List String)
    (hnames : ∀ implName ∈ targets, (extensionOf cfg implName).all fun e =>
      t ++ e = testName ++ ext → t = testName) :
    (variantWrites cfg tables t suiteName targets).filter (·.1 = (suiteName, testName ++ ext)) =
      if t = testName then (writersWith cfg targets ext).map fun implName =>
        ((suiteName, testName ++ ext), generateTestCode tables testName implName
          (getTestDefinition tables testName))
      else [] := by
  induction targets with
  | nil => split_ifs <;> rfl
  | cons implName targets ih =>
    have ih := ih fun i hi => hnames i (List.mem_cons_of_mem implName hi)
    have hi := hnames implName (List.mem_cons_self implName targets)
    simp only [variantWrites, writersWith, List.filterMap_cons, List.filter_cons] at ih ⊢
    cases he : extensionOf cfg implName with
    | none => simpa [he] using ih
    | some e =>
      rw [he] at hi
      simp only [Option.all_some, decide_eq_true_eq] at hi
      by_cases ht : t = testName
      · subst ht
        by_cases hext : e = ext
        · subst hext; simp [ih]
        · have : ¬ t ++ e = t ++ ext := fun h => hext (string_append_left_cancel h)
          simp [this, hext, ih]
      · have : ¬ t ++ e = testName ++ ext := fun h => ht (hi h)
        simp [this, ht, ih]

theorem suite_of_mem_variantWrites {cfg : GeneratorConfig} {tables : Tables}
    {t suiteName : String} {targets : List String} {w : (String × String) × String}
    (h : w ∈ variantWrites cfg tables t suiteName targets) : w.1.1 = suiteName := by
  simp only [variantWrites, List.mem_filterMap, Option.map_eq_some'] at h
  obtain ⟨_, _, _, _, rfl⟩ := h
  rfl

theorem flatMap_filter_of_nil {α β : Type} (l : List α) (p : α → Bool) (F : α → List β)
    (h : ∀ x ∈ l, p x = false → F x = []) : l.flatMap F = (l.filter p).flatMap F := by
  induction l with
  | nil => rfl
  | cons x l ih =>
    have ih := ih fun y hy => h y (List.mem_cons_of_mem x hy)
    cases hx : p x
    · simp [List.filter_cons, hx, h x (List.mem_cons_self x l) hx, ih]
    · simp [List.filter_cons, hx, ih]

/-- **The last writer wins.** After a run in which every suite lists its tests and every
target the configuration knows gives its file extension, the file of test `testName` of suite
`suiteName` with extension `ext` holds the code of the last target implementation with
extension `ext`, or what it held before when no target has that extension. This assumes no
other test of the suite gets the same file name through a target's extension. -/
theorem generated_test_file_last_writer (cfg : GeneratorConfig) (tables : Tables)
    (targets : List String)
    (hext : ∀ implName ∈ targets, (cfg.implementations.get? implName).all (·.fileExtension.isSome))
    (htests : ∀ suite ∈ cfg.benchmarkSuites.items, suite.2.tests.isSome)
    (suiteName testName ext : String) (tests : List String)
    (hsuite : cfg.benchmarkSuites.get? suiteName = some ⟨some tests⟩) (htest : testName ∈ tests)
    (hnames : ∀ t ∈ tests, ∀ implName ∈ targets, (extensionOf cfg implName).all fun e =>
      t ++ e = testName ++ ext → t = testName)
    (files : Files) :
    (generateAllTests cfg tables targets files).1 = .ok () ∧
      (generateAllTests cfg tables targets files).2.get? (suiteName, testName ++ ext) =
        ((writersWith cfg targets ext).getLast?.map fun implName =>
          generateTestCode tables testName implName (getTestDefinition tables testName)).or
          (files.get? (suiteName, testName ++ ext)) := by
  rw [generateAllTests_eq cfg tables targets hext htests files]
  refine ⟨rfl, ?_⟩
  have hother : ∀ suite ∈ cfg.benchmarkSuites.items, decide (suite.1 = suiteName) = false →
      (((suite.2.tests.getD []).flatMap fun t => variantWrites cfg tables t suite.1 targets).filter
        (·.1 = (suiteName, testName ++ ext))) = [] := by
    intro suite _ hne
    refine List.filter_eq_nil_iff.mpr fun w hw hkey => ?_
    obtain ⟨t, -, hw⟩ := List.mem_flatMap.mp hw
    have := suite_of_mem_variantWrites hw
    simp only [decide_eq_true_eq] at hkey
    simp [← this, hkey] at hne
  rw [applyWrites_get?, allWrites, List.filter_flatMap,
    flatMap_filter_of_nil _ (fun suite => decide (suite.1 = suiteName)) _ hother,
    items_filter_key _ hsuite, List.flatMap_singleton, Option.getD_some, List.filter_flatMap]
  rw [List.flatMap_congr fun t ht =>
      variantWrites_filter cfg tables suiteName t testName ext targets (hnames t ht),
    getLast?_flatMap_ite, if_pos htest, List.getLast?_map, Option.map_map]
  rfl

/-- Two implementations that both write `.scm` files, and one suite `micro` with the test
`fib`. -/
def sharedExtensionConfig : GeneratorConfig where
  implementations := PyDict.ofList [("chez", ⟨some ".scm"⟩), ("racket", ⟨some ".scm"⟩)]
  benchmarkSuites := PyDict.ofList [("micro", ⟨some ["fib"]⟩)]

/-- Tables without entries: every test and implementation takes the fallback texts. -/
def fallbackTables : Tables := ⟨∅, ∅, ∅, ""⟩

/-- Generating `fib` for Chez Scheme and then Racket leaves one file `micro/fib.scm`, with
Racket's code: Chez Scheme's test file is overwritten. -/
theorem shared_extension_keeps_last_target :
    (generateAllTests sharedExtensionConfig fallbackTables ["chez", "racket"] ∅).1 = .ok () ∧
      (generateAllTests sharedExtensionConfig fallbackTables ["chez", "racket"] ∅).2.get?
          ("micro", "fib" ++ ".scm") =
        some (generateTestCode fallbackTables "fib" "racket"
          (getTestDefinition fallbackTables "fib")) := by
  obtain ⟨hok, hfile⟩ := generated_test_file_last_writer sharedExtensionConfig fallbackTables
    ["chez", "racket"] (by decide) (by decide) "micro" "fib" ".scm" ["fib"] rfl
    (List.mem_singleton_self _) (by decide) ∅
  exact ⟨hok, hfile.trans rfl⟩

/-- A suite `micro` with the test `fib`, then a suite `macro` without `tests`. -/
def missingTestsConfig : GeneratorConfig where
  implementations := PyDict.ofList [("chez", ⟨some ".scm"⟩)]
  benchmarkSuites := PyDict.ofList [("micro", ⟨some ["fib"]⟩), ("macro", ⟨none⟩)]

/-- The run writes `micro/fib.scm` and then raises `KeyError('tests')` at `macro`. -/
theorem missing_tests_after_micro :
    generateAllTests missingTestsConfig fallbackTables ["chez"] ∅ =
      (.error (.keyError "tests"), applyWrites
        (([("micro", ⟨some ["fib"]⟩)] : List (String × SuiteConfig)).flatMap fun s =>
        (s.2.tests.getD []).flatMap fun testName =>
          variantWrites missingTestsConfig fallbackTables testName s.1 ["chez"]) ∅) :=
  suite_without_tests_stops_run missingTestsConfig fallbackTables ["chez"] (by decide)
    [("micro", ⟨some ["fib"]⟩)] ("macro", ⟨none⟩) [] rfl (by decide) rfl ∅

end LambdustBench.Generator
