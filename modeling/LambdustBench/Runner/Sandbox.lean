import LambdustBench.Runner.Expander

/-!
# The Execution Sandbox (`run_single_test`)

`BenchmarkRunner.run_single_test` (run_comprehensive_benchmarks.py:214–280) materialises a
test's code template, writes it to a temporary file, makes `warmup` untimed invocations and up
to `iterations` timed ones through `execute_test_file` (lines 282–307), stopping at the first
failure, and builds the result record; a `finally` unlinks the file.

The outside world is a `World`: what the `i`-th temporary file creation does, and how the
`i`-th process spawn of the sweep ends and how long it took. Every behaviour of the
environment is some `World`. The sandbox threads a `SandboxState` (the counters into the world
and a log of file and process events) that survives an exception, so the `finally` clause
and the effects before a raise stay visible.

- `measureRuns_spec`: the measured loop makes `min n (k + 1)` invocations, `k` the length
  of the longest all-success prefix of the `n` outcomes, and keeps exactly the prefix's
  elapsed times.
- `runSingleTest_spec`: with at least one measured iteration and a created temporary file, the
  record is the success record of those times when `k ≥ 1`, and otherwise the failure record
  carrying the first measured invocation's stderr, or `'Test execution failed'` when it is
  empty; exactly `warmup + min n (k + 1)` processes are spawned, and the file is unlinked.
- `run_single_test_unbound_error_without_iterations`: with `iterations = 0` the empty loop
  never binds `error`, and the read at line 274 raises `UnboundLocalError`.
- `substitution_rescans_inserted_text`: the placeholders are replaced one after another over
  the whole text (lines 217–220), so inserted values are scanned again; the result depends on
  the order of the combination and differs from `simultaneousSubstitute`.
- `runSingleTest_log`: once the file is created and written, it is unlinked last on every path;
  `failed_write_leaves_temp_file`: a failing write (lines 225–227) happens before the `try`, and
  the file is left behind.
-/

namespace LambdustBench

/-- How one `subprocess.run` of a test file ends. -/
inductive Spawn where
  /-- The process exited with this code and output. -/
  | exited (returncode : Int) (stdout stderr : String)
  /-- `subprocess.TimeoutExpired`: the process outlived `global_timeout_seconds`. -/
  | timedOut
  /-- Any other exception while spawning or running the process. -/
  | raised (message : String)
  deriving DecidableEq, Repr

/-- One timed invocation as `run_single_test` sees it: how the process ended, and
`end_time - start_time` around the call. -/
structure Invocation where
  spawn : Spawn
  elapsed : ℚ
  deriving DecidableEq, Repr

/-- What `tempfile.NamedTemporaryFile(..., delete=False)` and `f.write(code)` do. -/
inductive TempFile where
  /-- Created and written; the file's name. -/
  | created (name : String)
  /-- Creation raised: no file exists. -/
  | createFailed (message : String)
  /-- Created, then the write raised: the file exists. -/
  | writeFailed (name message : String)
  deriving DecidableEq, Repr

/-- The environment of a sweep: the outcome of the `i`-th temporary file, and of the `i`-th
process spawn for the command it is given. -/
structure World where
  tempFile : Nat → TempFile
  invoke : Nat → List String → Invocation

/-- The file and process events of a sweep, in order. -/
inductive Event where
  | created (file : String)
  | written (file code : String)
  | spawned (argv : List String)
  | unlinked (file : String)
  deriving DecidableEq, Repr

/-- The sandbox's side of the world: how many temporary files and processes it has asked for,
and what it did. -/
structure SandboxState where
  tempFiles : Nat
  spawns : Nat
  log : List Event
  deriving DecidableEq, Repr

/-- An implementation entry of the configuration: the keys the sandbox reads. -/
structure Implementation where
  id : String
  name : String
  /-- `runtime.binary_path` and `runtime.args`, for a native implementation. -/
  binaryPath : String
  args : List String
  /-- `runtime.target_dir` and `runtime.profile`, for the `lambdust` entry. -/
  targetDir : String
  profile : String
  deriving DecidableEq, Repr

/-- A test of a category: its `name`, `code_template` and `parameters`. -/
structure TestDef where
  name : String
  codeTemplate : String
  parameters : List (Parameter Value)
  deriving DecidableEq, Repr

/-- The `statistical_config` counts `run_single_test` reads. -/
structure StatisticalConfig where
  iterations : Nat
  warmupIterations : Nat
  deriving DecidableEq, Repr

/-- The `cmd` of `execute_test_file` (lines 285–292). -/
def Implementation.command (impl : Implementation) (testFile : String) : List String :=
  if impl.id = "lambdust" then
    [impl.targetDir ++ "/" ++ impl.profile ++ "/lambdust", "--batch", testFile]
  else impl.binaryPath :: impl.args ++ [testFile]

/-- `execute_test_file`'s `(success, stdout, stderr)` (lines 294–307). -/
def executeTestFile : Spawn → Bool × String × String
  | .exited returncode stdout stderr => (returncode == 0, stdout, stderr)
  | .timedOut => (false, "", "Test timed out")
  | .raised message => (false, "", message)

/-- The template with every `{name}` replaced by `str(value)`, one parameter after another in
the combination's order (lines 217–220). -/
def substitute (template : String) (params : Combination Value) : String :=
  params.items.foldl (fun code p => pyReplace code ("\x7b" ++ p.1 ++ "\x7d") p.2.pyStr) template

/-- The substitution the specification describes, scanning the template once from left to
right: a `{name}` of a parameter is replaced by `str(value)` (the first parameter whose
placeholder starts there, in the combination's order), and inserted text is not scanned
again. One unit of fuel per character of the template. -/
def simultaneousScan (params : List (String × Value)) : Nat → List Char → List Char
  | 0, cs => cs
  | _ + 1, [] => []
  | fuel + 1, c :: cs =>
    match params.find? fun p => ("\x7b" ++ p.1 ++ "\x7d").toList.isPrefixOf (c :: cs) with
    | some p => p.2.pyStr.toList ++ simultaneousScan params fuel ((c :: cs).drop (p.1.length + 2))
    | none => c :: simultaneousScan params fuel cs

/-- The simultaneous substitution of every placeholder of the template. -/
def simultaneousSubstitute (template : String) (params : Combination Value) : String :=
  String.mk (simultaneousScan params.items template.length template.toList)

/-- A `String` value holding another parameter's placeholder is substituted again, so the
result depends on the order of the combination: with `n = '{m}'` and `m = 1`, the template
`{n}` becomes `1` when `n` comes first and `{m}` when `m` does, where the simultaneous
substitution gives `{m}`. A value `'{'` before the template text `m}` forms a placeholder
too. -/
theorem substitution_rescans_inserted_text :
    substitute "{n}" (PyDict.ofList [("n", .str "{m}"), ("m", .int 1)]) = "1" ∧
      substitute "{n}" (PyDict.ofList [("m", .int 1), ("n", .str "{m}")]) = "{m}" ∧
      simultaneousSubstitute "{n}" (PyDict.ofList [("n", .str "{m}"), ("m", .int 1)]) = "{m}" ∧
      substitute "{p}m\x7d" (PyDict.ofList [("p", .str "\x7b"), ("m", .int 1)]) = "1" ∧
      simultaneousSubstitute "{p}m\x7d" (PyDict.ofList [("p", .str "\x7b"), ("m", .int 1)]) =
        "\x7bm\x7d" := by
  decide

/-! ## Result records -/

/-- What a run reports beyond its identity: the success branch's keys (lines 261–265) or
the failure branch's `error` (line 274). -/
inductive Outcome where
  | succeeded (meanTimeSeconds opsPerSecond : ℚ) (timingResults : List ℚ) (iterations : Nat)
  | failed (error : String)
  deriving DecidableEq, Repr

/-- An `ExecutionResult` record of the sweep. -/
structure ExecutionResult where
  implementation : String
  testName : String
  category : String
  parameters : Combination Value
  outcome : Outcome
  deriving DecidableEq, Repr

namespace ExecutionResult

/-- `result.get('success', False)`. -/
def success (r : ExecutionResult) : Bool :=
  match r.outcome with
  | .succeeded .. => true
  | .failed _ => false

/-- `result['timing_results']` (`[]` on the failure branch). -/
def timingResults (r : ExecutionResult) : List ℚ :=
  match r.outcome with
  | .succeeded _ _ ts _ => ts
  | .failed _ => []

/-- `result.get('ops_per_second', 0)`. -/
def opsPerSecond (r : ExecutionResult) : ℚ :=
  match r.outcome with
  | .succeeded _ ops _ _ => ops
  | .failed _ => 0

/-- The success record of lines 252–266 for non-empty `timings`. -/
def ofTimings (implementation testName category : String) (parameters : Combination Value)
    (timings : List ℚ) : ExecutionResult :=
  let meanTime := timings.sum / timings.length
  { implementation, testName, category, parameters,
    outcome := .succeeded meanTime (if meanTime > 0 then 1 / meanTime else 0) timings
      timings.length }

/-- The failure record of lines 268–276. -/
def ofError (implementation testName category : String) (parameters : Combination Value)
    (error : String) : ExecutionResult :=
  { implementation, testName, category, parameters,
    outcome := .failed (if error = "" then "Test execution failed" else error) }

@[simp] theorem success_ofTimings (i t c : String) (p : Combination Value) (ts : List ℚ) :
    (ofTimings i t c p ts).success = true := rfl

@[simp] theorem timingResults_ofTimings (i t c : String) (p : Combination Value) (ts : List ℚ) :
    (ofTimings i t c p ts).timingResults = ts := rfl

@[simp] theorem success_ofError (i t c : String) (p : Combination Value) (e : String) :
    (ofError i t c p e).success = false := rfl

end ExecutionResult

/-! ## The invocation loops -/

/-- The state after one more spawn of `argv`. -/
def SandboxState.spawn (s : SandboxState) (argv : List String) : SandboxState :=
  { s with spawns := s.spawns + 1, log := s.log ++ [.spawned argv] }

@[simp] theorem SandboxState.spawn_spawns (s : SandboxState) (argv : List String) :
    (s.spawn argv).spawns = s.spawns + 1 := rfl

@[simp] theorem SandboxState.spawn_tempFiles (s : SandboxState) (argv : List String) :
    (s.spawn argv).tempFiles = s.tempFiles := rfl

/-- `for _ in range(warmup): self.execute_test_file(impl, temp_file)` (lines 237–238): the
outcomes are dropped. -/
def warmupRuns (argv : List String) : Nat → SandboxState → SandboxState
  | 0, s => s
  | n + 1, s => warmupRuns argv n (s.spawn argv)

/-- `for i in range(iterations)` (lines 241–249): the timings so far and the last value bound
to `error` (`none` while no iteration ran); a failed invocation `break`s. -/
def measureRuns (w : World) (argv : List String) :
    Nat → List ℚ → Option String → SandboxState → (List ℚ × Option String) × SandboxState
  | 0, timings, error, s => ((timings, error), s)
  | n + 1, timings, _, s =>
    let inv := w.invoke s.spawns argv
    let (success, _, error) := executeTestFile inv.spawn
    if success then measureRuns w argv n (timings ++ [inv.elapsed]) (some error) (s.spawn argv)
    else ((timings, some error), s.spawn argv)

/-- `run_single_test` (lines 214–280): the record or the exception it raises, and the state
after it, the `finally` clause's unlink included. -/
def runSingleTest (w : World) (cfg : StatisticalConfig) (impl : Implementation) (test : TestDef)
    (params : Combination Value) (category : String) (s : SandboxState) :
    Except PyError ExecutionResult × SandboxState :=
  let code := substitute test.codeTemplate params
  let s' := { s with tempFiles := s.tempFiles + 1 }
  match w.tempFile s.tempFiles with
  | .createFailed message => (.error (.osError message), s')
  | .writeFailed file message => (.error (.osError message), { s' with log := s.log ++ [.created file] })
  | .created file =>
    let argv := impl.command file
    let s := warmupRuns argv cfg.warmupIterations
      { s' with log := s.log ++ [.created file, .written file code] }
    let ((timings, error), s) := measureRuns w argv cfg.iterations [] none s
    let result : Except PyError ExecutionResult :=
      if timings.isEmpty then
        match error with
        | some e => .ok (.ofError impl.id test.name category params e)
        | none => .error (.unboundLocal "error")
      else .ok (.ofTimings impl.id test.name category params timings)
    (result, { s with log := s.log ++ [.unlinked file] })

/-! ## What the loops do -/

/-- `k`: how many of the `n` invocations from index `start` on succeed before the first
failure. -/
def successPrefix (w : World) (argv : List String) : Nat → Nat → Nat
  | _, 0 => 0
  | start, n + 1 =>
    if (executeTestFile (w.invoke start argv).spawn).1 then successPrefix w argv (start + 1) n + 1
    else 0

/-- The elapsed times of the `k` invocations from index `start` on. -/
def elapsedTimes (w : World) (argv : List String) : Nat → Nat → List ℚ
  | _, 0 => []
  | start, k + 1 => (w.invoke start argv).elapsed :: elapsedTimes w argv (start + 1) k

@[simp] theorem length_elapsedTimes (w : World) (argv : List String) (start k : Nat) :
    (elapsedTimes w argv start k).length = k := by
  induction k generalizing start <;> simp [elapsedTimes, *]

theorem warmupRuns_spawns (argv : List String) (n : Nat) (s : SandboxState) :
    (warmupRuns argv n s).spawns = s.spawns + n := by
  induction n generalizing s with
  | zero => rfl
  | succ n ih => simp [warmupRuns, ih]; omega

/-- The warmup loop spawns `n` processes and logs nothing else. -/
theorem warmupRuns_log (argv : List String) (n : Nat) (s : SandboxState) :
    (warmupRuns argv n s).log = s.log ++ List.replicate n (.spawned argv) := by
  induction n generalizing s with
  | zero => simp [warmupRuns]
  | succ n ih => simp [warmupRuns, ih, SandboxState.spawn, List.replicate_succ]

/-- **The measured loop**: it makes `min n (k + 1)` invocations and keeps the elapsed times of
the `k` leading successes. -/
theorem measureRuns_spec (w : World) (argv : List String) (n : Nat) (timings : List ℚ)
    (error : Option String) (s : SandboxState) :
    (measureRuns w argv n timings error s).1.1 =
        timings ++ elapsedTimes w argv s.spawns (successPrefix w argv s.spawns n) ∧
      (measureRuns w argv n timings error s).2.spawns =
        s.spawns + min n (successPrefix w argv s.spawns n + 1) := by
  induction n generalizing timings error s with
  | zero => simp [measureRuns, successPrefix, elapsedTimes]
  | succ n ih =>
    simp only [measureRuns, successPrefix]
    split
    · obtain ⟨h1, h2⟩ := ih (timings ++ [(w.invoke s.spawns argv).elapsed])
        (some (executeTestFile (w.invoke s.spawns argv).spawn).2.2) (s.spawn argv)
      simp only [SandboxState.spawn_spawns] at h1 h2
      exact ⟨by simp [h1, elapsedTimes], by rw [h2]; omega⟩
    · simp [elapsedTimes]

/-- The measured loop logs its spawns only. -/
theorem measureRuns_log (w : World) (argv : List String) (n : Nat) (timings : List ℚ)
    (error : Option String) (s : SandboxState) :
    ∃ k, (measureRuns w argv n timings error s).2.log = s.log ++ List.replicate k (.spawned argv) := by
  induction n generalizing timings error s with
  | zero => exact ⟨0, by simp [measureRuns]⟩
  | succ n ih =>
    simp only [measureRuns]
    split
    · obtain ⟨k, hk⟩ := ih (timings ++ [(w.invoke s.spawns argv).elapsed])
        (some (executeTestFile (w.invoke s.spawns argv).spawn).2.2) (s.spawn argv)
      exact ⟨k + 1, by rw [hk]; simp [SandboxState.spawn, List.replicate_succ]⟩
    · exact ⟨1, rfl⟩

/-- When the first measured invocation fails, `error` holds its stderr. -/
theorem measureRuns_error_of_fail (w : World) (argv : List String) (n : Nat) (timings : List ℚ)
    (error : Option String) (s : SandboxState)
    (h : (executeTestFile (w.invoke s.spawns argv).spawn).1 = false) :
    (measureRuns w argv (n + 1) timings error s).1.2 =
      some (executeTestFile (w.invoke s.spawns argv).spawn).2.2 := by
  simp [measureRuns, h]

/-- **`run_single_test` with at least one measured iteration**, for every world in which the
temporary file is created: `warmup` spawns whose outcomes are ignored, then `min n (k + 1)`
measured ones; the record is the success record of the `k` leading elapsed times when `k ≥ 1`
(so `iterations = k` and `ops_per_second` the reciprocal of their mean when it is positive),
and otherwise the failure record carrying the first measured invocation's stderr (or
`'Test execution failed'` when it is empty); the file is unlinked last. -/
theorem runSingleTest_spec (w : World) (cfg : StatisticalConfig) (impl : Implementation)
    (test : TestDef) (params : Combination Value) (category : String) (s : SandboxState)
    (file : String) (hn : 1 ≤ cfg.iterations) (hf : w.tempFile s.tempFiles = .created file) :
    let argv := impl.command file
    let start := s.spawns + cfg.warmupIterations
    let k := successPrefix w argv start cfg.iterations
    (runSingleTest w cfg impl test params category s).1 =
        .ok (if k = 0 then
            .ofError impl.id test.name category params
              (executeTestFile (w.invoke start argv).spawn).2.2
          else .ofTimings impl.id test.name category params (elapsedTimes w argv start k)) ∧
      (runSingleTest w cfg impl test params category s).2.spawns =
        start + min cfg.iterations (k + 1) ∧
      (runSingleTest w cfg impl test params category s).2.log.getLast? = some (.unlinked file) := by
  intro argv start k
  obtain ⟨n, hn'⟩ : ∃ n, cfg.iterations = n + 1 := ⟨cfg.iterations - 1, by omega⟩
  simp only [runSingleTest, hf, k, hn']
  generalize hs₁ : warmupRuns argv cfg.warmupIterations _ = s₁
  have hstart : s₁.spawns = start := by rw [← hs₁, warmupRuns_spawns]
  obtain ⟨ht, hsp⟩ := measureRuns_spec w argv (n + 1) [] none s₁
  rw [hstart] at ht hsp
  refine ⟨?_, by simpa using hsp, by simp⟩
  by_cases hk : successPrefix w argv start (n + 1) = 0
  · have hfail : (executeTestFile (w.invoke s₁.spawns argv).spawn).1 = false := by
      simpa [hstart, successPrefix] using hk
    simp [ht, measureRuns_error_of_fail w argv n [] none s₁ hfail, hk, hstart, elapsedTimes]
  · have hne : elapsedTimes w argv start (successPrefix w argv start (n + 1)) ≠ [] := by
      rw [← List.length_pos, length_elapsedTimes]; omega
    simp [ht, hk, hne]

/-- One warmup, then two successes and a failure: the first two measured times are kept. -/
theorem run_single_test_two_successes_then_failure :
    let w : World := ⟨fun _ => .created "fib.scm",
      fun i _ => if i < 3 then ⟨.exited 0 "55" "", 2⟩ else ⟨.exited 1 "" "boom", 3⟩⟩
    let impl : Implementation := ⟨"chez", "Chez Scheme", "scheme", ["--script"], "", ""⟩
    (runSingleTest w ⟨5, 1⟩ impl ⟨"fib", "(fib 10)", []⟩ ∅ "recursion" ⟨0, 0, []⟩).1 =
        .ok (.ofTimings "chez" "fib" "recursion" ∅ [2, 2]) ∧
      (runSingleTest w ⟨5, 1⟩ impl ⟨"fib", "(fib 10)", []⟩ ∅ "recursion" ⟨0, 0, []⟩).2.spawns =
        4 := by
  intro w impl
  obtain ⟨h1, h2, -⟩ := runSingleTest_spec w ⟨5, 1⟩ impl ⟨"fib", "(fib 10)", []⟩ ∅ "recursion"
    ⟨0, 0, []⟩ "fib.scm" (by decide) rfl
  exact ⟨h1.trans rfl, h2.trans rfl⟩

/-- **The empty measurement loop**: with `iterations = 0`, in every world in which the temporary
file is created, `run_single_test` raises `UnboundLocalError` on `error` (line 274 reads a
variable only the loop body binds), after unlinking the file. -/
theorem run_single_test_unbound_error_without_iterations (w : World) (cfg : StatisticalConfig)
    (impl : Implementation) (test : TestDef) (params : Combination Value) (category : String)
    (s : SandboxState) (file : String) (h0 : cfg.iterations = 0)
    (hf : w.tempFile s.tempFiles = .created file) :
    (runSingleTest w cfg impl test params category s).1 = .error (.unboundLocal "error") ∧
      (runSingleTest w cfg impl test params category s).2.log.getLast? = some (.unlinked file) := by
  simp [runSingleTest, hf, h0, measureRuns]

/-- Three warmups and no measured iteration, every process timing out. -/
theorem unbound_error_after_three_warmups :
    let w : World := ⟨fun _ => .created "fib.scm", fun _ _ => ⟨.timedOut, 30⟩⟩
    let impl : Implementation := ⟨"chez", "Chez Scheme", "scheme", ["--script"], "", ""⟩
    (runSingleTest w ⟨0, 3⟩ impl ⟨"fib", "(fib 10)", []⟩ ∅ "recursion" ⟨0, 0, []⟩).1 =
        .error (.unboundLocal "error") ∧
      (runSingleTest w ⟨0, 3⟩ impl ⟨"fib", "(fib 10)", []⟩ ∅ "recursion" ⟨0, 0, []⟩).2.log.getLast? =
        some (.unlinked "fib.scm") :=
  run_single_test_unbound_error_without_iterations _ _ _ _ _ _ _ "fib.scm" rfl rfl

/-! ## The temporary file -/

/-- **The file events of `run_single_test`**: in every world in which the temporary file is
created and written, whatever the counts and the outcomes of the invocations, the sandbox
creates the file, writes the materialised code, spawns processes on it and unlinks it last:
the `finally` clause covers the success record, the failure record and the raise of the empty
loop alike. -/
theorem runSingleTest_log (w : World) (cfg : StatisticalConfig) (impl : Implementation)
    (test : TestDef) (params : Combination Value) (category : String) (s : SandboxState)
    (file : String) (hf : w.tempFile s.tempFiles = .created file) :
    ∃ n, (runSingleTest w cfg impl test params category s).2.log =
      s.log ++ [.created file, .written file (substitute test.codeTemplate params)] ++
        List.replicate n (.spawned (impl.command file)) ++ [.unlinked file] := by
  simp only [runSingleTest, hf]
  generalize hs₁ : warmupRuns _ _ _ = s₁
  obtain ⟨k, hk⟩ := measureRuns_log w (impl.command file) cfg.iterations [] none s₁
  generalize measureRuns w (impl.command file) cfg.iterations [] none s₁ = r at hk
  obtain ⟨⟨timings, error⟩, s₂⟩ := r
  refine ⟨cfg.warmupIterations + k, ?_⟩
  rw [hk, ← hs₁, warmupRuns_log, List.replicate_add]
  simp only [List.append_assoc]

/-- The file events at one warmup and five measured iterations. -/
theorem file_events_two_successes_then_failure :
    let w : World := ⟨fun _ => .created "fib.scm",
      fun i _ => if i < 3 then ⟨.exited 0 "55" "", 2⟩ else ⟨.exited 1 "" "boom", 3⟩⟩
    let impl : Implementation := ⟨"chez", "Chez Scheme", "scheme", ["--script"], "", ""⟩
    ∃ n, (runSingleTest w ⟨5, 1⟩ impl ⟨"fib", "(fib 10)", []⟩ ∅ "recursion" ⟨0, 0, []⟩).2.log =
      [] ++ [.created "fib.scm", .written "fib.scm" (substitute "(fib 10)" ∅)] ++
        List.replicate n (.spawned (impl.command "fib.scm")) ++ [.unlinked "fib.scm"] :=
  runSingleTest_log _ _ _ _ _ _ _ "fib.scm" rfl

/-- **A failed write orphans the temporary file**: in every world in which `f.write(code)`
raises, `NamedTemporaryFile(..., delete=False)` has already created the file, and the `OSError`
leaves `run_single_test` before the `try` whose `finally` unlinks (lines 225–229): the file is
never unlinked. -/
theorem failed_write_leaves_temp_file (w : World) (cfg : StatisticalConfig) (impl : Implementation)
    (test : TestDef) (params : Combination Value) (category : String) (s : SandboxState)
    (file message : String) (hw : w.tempFile s.tempFiles = .writeFailed file message) :
    (runSingleTest w cfg impl test params category s).1 = .error (.osError message) ∧
      (runSingleTest w cfg impl test params category s).2.log = s.log ++ [.created file] := by
  simp [runSingleTest, hw]

/-- A full disk at the write. -/
theorem failed_write_on_full_disk :
    let w : World := ⟨fun _ => .writeFailed "tmpab12.scm" "No space left on device",
      fun _ _ => ⟨.exited 0 "55" "", 2⟩⟩
    let impl : Implementation := ⟨"chez", "Chez Scheme", "scheme", ["--script"], "", ""⟩
    (runSingleTest w ⟨3, 1⟩ impl ⟨"fib", "(fib 10)", []⟩ ∅ "recursion" ⟨0, 0, []⟩).1 =
        .error (.osError "No space left on device") ∧
      (runSingleTest w ⟨3, 1⟩ impl ⟨"fib", "(fib 10)", []⟩ ∅ "recursion" ⟨0, 0, []⟩).2.log =
        [] ++ [.created "tmpab12.scm"] :=
  failed_write_leaves_temp_file _ _ _ _ _ _ _ "tmpab12.scm" "No space left on device" rfl

end LambdustBench
