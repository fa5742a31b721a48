import LambdustBench.Python.Runtime

/-!
# The performance monitor (`PerformanceMonitor`)

`PerformanceMonitor` (scripts/performance_monitor.py:50–165) samples system and per-process
metrics on a background thread. The foreground calls `start_monitoring`, `stop_monitoring`,
`add_target_process` and `remove_target_process`; each sampler thread runs `_monitor_loop`
one statement at a time. `stop_monitoring` clears `monitoring` and joins the current sampler
with `timeout=1.0`, so it may return while that sampler is still mid-tick.

The model is a state machine: `step` takes one action of one party, and `execute` runs a
schedule, recording each step's state before, its action and its event; every interleaving of
the parties is a schedule. A `Sample` keeps, as a ghost, the run in which the tick that
collected it began; `run` counts the `start_monitoring` calls that started a thread, and
`stopped` marks the time from a return of `stop_monitoring` to the next `start_monitoring`.

- `restart_after_join_timeout`: one schedule in which the join times out mid-tick and the
  monitor is restarted. A sample is appended after `stop_monitoring` returned, two sampler
  loops run at once and keep running, and a sample of the first run lands in the second run's
  histories.
- `waiting_joins_keep_runs_apart`: on every schedule whose joins return only once the sampler
  has exited, at most one loop runs, nothing is appended while stopped, and every sample in
  the histories belongs to the current run. The join's timeout is the whole defect.
- `targets_kept_without_removal`, `vanished_target_sampled_again`: `_collect_process_metrics`
  swallows `NoSuchProcess` itself (lines 164–165), so no step of the sampler drops a target, and
  a pid that vanished is sampled again when it answers later.
- `failing_ticks_skip_sleep`: a tick whose collection raises ends in `continue` (line 124) and
  skips the sleep: failing ticks return the state to itself without pause.
- `execute_control`, `foldlM_control_filter`: the foreground sees `monitoring`, its own position
  and the targets (`Control`). Every run of the monitor is a run of that view, in which a
  sampler statement changes nothing, so the view after a schedule is decided by the
  foreground's calls alone, however the sampler's statements are interleaved with them.
  Conversely (`execute_of_control`) the foreground's calls run whenever the view allows them.
-/

namespace LambdustBench

namespace Monitor

/-- How the environment answers one metrics collection. -/
inductive Reading where
  /-- The collection returned metrics. -/
  | sample
  /-- `_collect_process_metrics` returned `None`: the process is gone or access was denied.
  `_collect_system_metrics` has no such answer; there it counts as `sample`. -/
  | nothing
  /-- Any other exception: the loop prints it and `continue`s, skipping the sleep. -/
  | raised
  deriving DecidableEq, Repr

/-- A metrics snapshot. The measured values are left out; `run` is the run in which the tick
that collected it began. -/
structure Sample where
  run : Nat
  deriving DecidableEq, Repr

/-- A sampler thread's position in `_monitor_loop` (lines 102–124). -/
inductive Pc where
  /-- `while self.monitoring:`. -/
  | check
  /-- `self.metrics_history.append(...)` of a tick begun in run `run`. -/
  | collectSystem (run : Nat)
  /-- `for pid in list(self._target_processes):` takes its snapshot. -/
  | listTargets (run : Nat)
  /-- The per-process loop over the pids still `pending`. -/
  | collectProcesses (run : Nat) (pending : List Nat)
  /-- `time.sleep(self.sampling_interval)`. -/
  | sleep
  /-- The loop has exited. -/
  | done
  deriving DecidableEq, Repr

/-- The run of the tick a thread is in, when it is mid-tick. -/
def Pc.tickRun : Pc → Option Nat
  | .collectSystem run | .listTargets run | .collectProcesses run _ => some run
  | _ => none

/-- Where the foreground is: between calls, or inside `stop_monitoring`'s `join`. -/
inductive Foreground where
  | idle
  | joining
  deriving DecidableEq, Repr

end Monitor

open Monitor

/-- The monitor's fields, its sampler threads and the foreground. -/
structure Monitor where
  monitoring : Bool
  metricsHistory : List Sample
  processHistory : PyDict Nat (List Sample)
  targetProcesses : List Nat
  /-- Every sampler thread started, in start order. -/
  threads : List Pc
  /-- `_monitor_thread`, as an index into `threads`. -/
  monitorThread : Option Nat
  foreground : Foreground
  /-- Ghost: how many `start_monitoring` calls started a thread. -/
  run : Nat
  /-- Ghost: `stop_monitoring` has returned and `start_monitoring` was not called since. -/
  stopped : Bool
  deriving DecidableEq, Repr

namespace Monitor

/-- A fresh `PerformanceMonitor()` (lines 54–65). -/
def init : Monitor := ⟨false, [], ∅, [], [], none, .idle, 0, false⟩

/-- The actions of the two kinds of party. -/
inductive Action where
  /-- `start_monitoring()` (lines 75–85). -/
  | start
  /-- `stop_monitoring()` up to its join: `self.monitoring = False`. -/
  | stop
  /-- The `join(timeout=1.0)` returns, after the thread exited or after the timeout, and
  `stop_monitoring` returns the histories (lines 90–100). -/
  | joinReturn
  | addTarget (pid : Nat)
  | removeTarget (pid : Nat)
  /-- Sampler thread `i` executes one statement; `reading` answers a collection. -/
  | sample (i : Nat) (reading : Reading)
  deriving DecidableEq, Repr

/-- What a step shows. -/
inductive Event where
  | appended (s : Sample)
  /-- `stop_monitoring` returns `system_metrics` and `process_metrics`. -/
  | returned (systemMetrics : List Sample) (processMetrics : PyDict Nat (List Sample))
  | quiet
  deriving DecidableEq, Repr

def Event.isAppend : Event → Bool
  | .appended _ => true
  | _ => false

/-- Sampler thread `i` moves to `pc`. -/
def setThread (m : Monitor) (i : Nat) (pc : Pc) : Monitor := { m with threads := m.threads.set i pc }

@[simp] theorem setThread_threads (m : Monitor) (i : Nat) (pc : Pc) :
    (m.setThread i pc).threads = m.threads.set i pc := rfl

@[simp] theorem setThread_monitoring (m : Monitor) (i : Nat) (pc : Pc) :
    (m.setThread i pc).monitoring = m.monitoring := rfl

@[simp] theorem setThread_foreground (m : Monitor) (i : Nat) (pc : Pc) :
    (m.setThread i pc).foreground = m.foreground := rfl

@[simp] theorem setThread_run (m : Monitor) (i : Nat) (pc : Pc) :
    (m.setThread i pc).run = m.run := rfl

@[simp] theorem setThread_stopped (m : Monitor) (i : Nat) (pc : Pc) :
    (m.setThread i pc).stopped = m.stopped := rfl

@[simp] theorem setThread_monitorThread (m : Monitor) (i : Nat) (pc : Pc) :
    (m.setThread i pc).monitorThread = m.monitorThread := rfl

@[simp] theorem setThread_metricsHistory (m : Monitor) (i : Nat) (pc : Pc) :
    (m.setThread i pc).metricsHistory = m.metricsHistory := rfl

@[simp] theorem setThread_processHistory (m : Monitor) (i : Nat) (pc : Pc) :
    (m.setThread i pc).processHistory = m.processHistory := rfl

@[simp] theorem setThread_targetProcesses (m : Monitor) (i : Nat) (pc : Pc) :
    (m.setThread i pc).targetProcesses = m.targetProcesses := rfl

theorem setThread_setThread (m : Monitor) (i : Nat) (pc pc' : Pc) :
    (m.setThread i pc).setThread i pc' = m.setThread i pc' := by
  simp [setThread, List.set_set]

/-- Setting a thread to the position it holds changes nothing. -/
theorem setThread_self {m : Monitor} {i : Nat} {pc : Pc} (h : m.threads[i]? = some pc) :
    m.setThread i pc = m := by
  have hs : m.threads.set i pc = m.threads := List.ext_getElem? fun j => by
    rw [List.getElem?_set]
    split
    · subst j; simp [h, (List.getElem?_eq_some_iff.1 h).1]
    · rfl
  simp [setThread, hs]

/-- `self.process_history[pid].append(sample)` on the `defaultdict(list)`. -/
def appendProcess (h : PyDict Nat (List Sample)) (pid : Nat) (s : Sample) :
    PyDict Nat (List Sample) :=
  h.set pid ((h.get? pid).getD [] ++ [s])

/-- One statement of sampler thread `i` (lines 104–124). A `NoSuchProcess` or `AccessDenied`
is caught inside `_collect_process_metrics`, so the loop's own handler for them (which would
discard the pid) is never reached. -/
def samplerStep (m : Monitor) (i : Nat) (reading : Reading) : Option (Monitor × Event) :=
  match m.threads[i]? with
  | none | some .done => none
  | some .check =>
    some (m.setThread i (if m.monitoring then .collectSystem m.run else .done), .quiet)
  | some (.collectSystem run) =>
    if reading = .raised then some (m.setThread i .check, .quiet) else
    some ({ m.setThread i (.listTargets run) with
      metricsHistory := m.metricsHistory ++ [⟨run⟩] }, .appended ⟨run⟩)
  | some (.listTargets run) =>
    some (m.setThread i (.collectProcesses run m.targetProcesses), .quiet)
  | some (.collectProcesses _ []) => some (m.setThread i .sleep, .quiet)
  | some (.collectProcesses run (pid :: pending)) =>
    match reading with
    | .sample => some ({ m.setThread i (.collectProcesses run pending) with
        processHistory := appendProcess m.processHistory pid ⟨run⟩ }, .appended ⟨run⟩)
    | .nothing => some (m.setThread i (.collectProcesses run pending), .quiet)
    | .raised => some (m.setThread i .check, .quiet)
  | some .sleep => some (m.setThread i .check, .quiet)

/-- One action; `none` when the action is not enabled. -/
def step (m : Monitor) : Action → Option (Monitor × Event)
  | .start =>
    if m.foreground = .joining then none
    else if m.monitoring then some ({ m with stopped := false }, .quiet)
    else some ({ m with
      monitoring := true, metricsHistory := [], processHistory := ∅,
      threads := m.threads ++ [.check], monitorThread := some m.threads.length,
      run := m.run + 1, stopped := false }, .quiet)
  | .stop =>
    if m.foreground = .joining then none
    else some ({ m with monitoring := false, foreground := .joining }, .quiet)
  | .joinReturn =>
    if m.foreground = .idle then none
    else some ({ m with foreground := .idle, stopped := true },
      .returned m.metricsHistory m.processHistory)
  | .addTarget pid =>
    if m.foreground = .joining then none
    else some ({ m with targetProcesses :=
      if pid ∈ m.targetProcesses then m.targetProcesses else m.targetProcesses ++ [pid] }, .quiet)
  | .removeTarget pid =>
    if m.foreground = .joining then none
    else some ({ m with targetProcesses := m.targetProcesses.erase pid }, .quiet)
  | .sample i reading => samplerStep m i reading

/-- A schedule from `m`: each step's state before, action and event, and the final state;
`none` when some action is not enabled. -/
def execute (m : Monitor) : List Action → Option (List (Monitor × Action × Event) × Monitor)
  | [] => some ([], m)
  | a :: as =>
    match step m a with
    | none => none
    | some (m', e) => (execute m' as).map fun r => ((m, a, e) :: r.1, r.2)

/-- A run of `a :: as` is a step of `a` followed by a run of `as`. -/
theorem execute_cons_eq_some {m final : Monitor} {a : Action} {as : List Action}
    {trace : List (Monitor × Action × Event)} (hex : execute m (a :: as) = some (trace, final)) :
    ∃ m' e tr, step m a = some (m', e) ∧ execute m' as = some (tr, final) ∧
      trace = (m, a, e) :: tr := by
  simp only [execute] at hex
  split at hex
  · cases hex
  · rename_i m' e hs
    obtain ⟨⟨tr, fin⟩, hrest, heq⟩ := Option.map_eq_some'.1 hex
    obtain ⟨rfl, rfl⟩ := Prod.mk.inj heq
    exact ⟨m', e, tr, hs, hrest, rfl⟩

/-- How many sampler loops are running. -/
def loopsRunning (m : Monitor) : Nat := m.threads.countP (· != .done)

/-- Every sample in the histories. -/
def samples (m : Monitor) : List Sample :=
  m.metricsHistory ++ m.processHistory.items.flatMap (·.2)

/-- Every sample in the histories was collected by a tick that began in the current run. -/
def fresh (m : Monitor) : Bool := m.samples.all (·.run == m.run)

/-! ## A join that times out -/

/-- Target pid 7; start; the sampler begins a tick; stop, and the join times out; the sampler
appends its system sample; restart while it is still mid-tick; it appends the process sample
of its old tick, finishes it, and loops on next to the new sampler. -/
theorem restart_after_join_timeout :
    ∃ trace final, execute init
      [.addTarget 7, .start, .sample 0 .sample, .stop, .joinReturn, .sample 0 .sample,
        .sample 0 .sample, .start, .sample 0 .sample, .sample 0 .sample, .sample 0 .sample,
        .sample 0 .sample, .sample 1 .sample] = some (trace, final) ∧
      (∃ x ∈ trace, x.1.stopped = true ∧ x.2.2.isAppend = true) ∧
      (∃ x ∈ trace, 1 < x.1.loopsRunning) ∧
      (∃ x ∈ trace, x.1.fresh = false) ∧
      final.threads = [.collectSystem 2, .collectSystem 2] :=
  ⟨_, _, rfl, by decide, by decide, by decide, rfl⟩

/-! ## Vanished targets -/

/-- A sampler statement never changes the targets: `_collect_process_metrics` swallows the
`NoSuchProcess` and `AccessDenied` that the loop's `discard` (lines 116–118) waits for. -/
theorem samplerStep_targetProcesses {m m' : Monitor} {i : Nat} {reading : Reading} {e : Event}
    (hs : samplerStep m i reading = some (m', e)) : m'.targetProcesses = m.targetProcesses := by
  unfold samplerStep at hs
  repeat' split at hs
  all_goals (cases hs <;> rfl)

/-- Only `remove_target_process` drops a target. -/
theorem step_targetProcesses_subset {m m' : Monitor} {a : Action} {e : Event}
    (hs : step m a = some (m', e)) (ha : ∀ pid, a ≠ .removeTarget pid) :
    m.targetProcesses ⊆ m'.targetProcesses := by
  cases a with
  | sample i reading => exact (samplerStep_targetProcesses hs).symm ▸ List.Subset.refl _
  | removeTarget pid => exact absurd rfl (ha pid)
  | addTarget pid =>
    simp only [Monitor.step] at hs
    split at hs
    · cases hs
    · obtain ⟨rfl, rfl⟩ := Prod.mk.inj (Option.some.inj hs)
      split
      · exact List.Subset.refl _
      · exact List.subset_append_left _ _
  | _ =>
    simp only [Monitor.step] at hs
    repeat' split at hs
    all_goals (cases hs <;> exact List.Subset.refl _)

/-- **Targets are never dropped by the sampler**: along every schedule from any state without a
call of `remove_target_process`, every target stays tracked, whatever the collections answer:
a pid whose process vanished is listed again at every later tick. -/
theorem targets_kept_without_removal (m : Monitor) (schedule : List Action)
    (trace : List (Monitor × Action × Event)) (final : Monitor)
    (hex : execute m schedule = some (trace, final))
    (hkeep : ∀ pid, .removeTarget pid ∉ schedule) :
    m.targetProcesses ⊆ final.targetProcesses := by
  induction schedule generalizing m trace with
  | nil =>
    obtain ⟨rfl, rfl⟩ := Prod.mk.inj (Option.some.inj hex)
    exact List.Subset.refl _
  | cons a as ih =>
    obtain ⟨m', e, tr, hs, hrest, rfl⟩ := execute_cons_eq_some hex
    exact (step_targetProcesses_subset hs fun pid h => hkeep pid (h ▸ List.mem_cons_self _ _)).trans
      (ih m' tr hrest fun pid h => hkeep pid (List.mem_cons_of_mem _ h))

/-- Target 7 is tracked when monitoring starts; one tick finds it gone. -/
theorem target_kept_after_it_vanished :
    let m : Monitor := ⟨false, [], ∅, [7], [], none, .idle, 0, false⟩
    let schedule : List Action :=
      [.start, .sample 0 .sample, .sample 0 .sample, .sample 0 .sample, .sample 0 .nothing,
        .sample 0 .sample]
    ∃ trace final, execute m schedule = some (trace, final) ∧
      m.targetProcesses ⊆ final.targetProcesses := by
  intro m schedule
  obtain ⟨trace, final, hex⟩ : ∃ trace final, execute m schedule = some (trace, final) :=
    ⟨_, _, rfl⟩
  exact ⟨trace, final, hex, targets_kept_without_removal m schedule trace final hex
    fun pid => by simp [schedule]⟩

/-- Target 7; a tick finds it gone (`_collect_process_metrics` returns `None`), and the next tick
lists it again and records a sample under it, as it would for an unrelated process that reused
the pid. -/
theorem vanished_target_sampled_again :
    ∃ trace final, execute init
      [.addTarget 7, .start, .sample 0 .sample, .sample 0 .sample, .sample 0 .sample,
        .sample 0 .nothing, .sample 0 .sample, .sample 0 .sample, .sample 0 .sample,
        .sample 0 .sample, .sample 0 .sample, .sample 0 .sample] = some (trace, final) ∧
      (∃ x ∈ trace, x.2.1 = .sample 0 .nothing ∧ x.1.threads = [.collectProcesses 1 [7]] ∧
        x.1.processHistory.get? 7 = none) ∧
      final.targetProcesses = [7] ∧ final.processHistory.get? 7 = some [⟨1⟩] :=
  ⟨_, _, rfl, by decide, rfl, rfl⟩

/-! ## Failing ticks -/

/-- `n` ticks of sampler `i` whose system collection raises. -/
def failingTicks (i : Nat) : Nat → List Action
  | 0 => []
  | n + 1 => .sample i .sample :: .sample i .raised :: failingTicks i n

/-- **A failing tick does not sleep**: from every state in which sampler `i` is at the loop test
while monitoring, `n` ticks whose system collection raises each go from the test to the
handler's `continue` and back to the test, never reaching `time.sleep`; the state returns to
itself, so the loop spins at any number of failing ticks. -/
theorem failing_ticks_skip_sleep (m : Monitor) (i : Nat) (hi : m.threads[i]? = some .check)
    (hm : m.monitoring = true) (n : Nat) :
    execute m (failingTicks i n) = some ((List.replicate n [(m, .sample i .sample, .quiet),
      (m.setThread i (.collectSystem m.run), .sample i .raised, .quiet)]).flatten, m) := by
  have h₁ : step m (.sample i .sample) = some (m.setThread i (.collectSystem m.run), .quiet) := by
    simp [Monitor.step, samplerStep, hi, hm]
  have h₂ : step (m.setThread i (.collectSystem m.run)) (.sample i .raised) = some (m, .quiet) := by
    have hlen : i < m.threads.length := (List.getElem?_eq_some_iff.1 hi).1
    simp [Monitor.step, samplerStep, List.getElem?_set_self hlen, setThread_setThread,
      setThread_self hi]
  induction n with
  | zero => rfl
  | succ n ih => simp [failingTicks, execute, h₁, h₂, ih, List.replicate_succ]

/-- Three failing ticks right after `start_monitoring`. -/
theorem three_failing_ticks_after_start :
    let m : Monitor := ⟨true, [], ∅, [], [.check], some 0, .idle, 1, false⟩
    execute m (failingTicks 0 3) = some ((List.replicate 3 [(m, .sample 0 .sample, .quiet),
      (m.setThread 0 (.collectSystem m.run), .sample 0 .raised, .quiet)]).flatten, m) :=
  failing_ticks_skip_sleep ⟨true, [], ∅, [], [.check], some 0, .idle, 1, false⟩ 0 rfl rfl 3

/-! ## Joins that wait -/

/-- `_monitor_thread` has exited, or none was started: a join without timeout returns. -/
def joinDone (m : Monitor) : Bool :=
  match m.monitorThread with
  | none => true
  | some i => m.threads[i]? == some .done

/-- The invariant of the schedules whose joins wait. -/
structure Safe (m : Monitor) : Prop where
  /-- Only `_monitor_thread` may be running. -/
  running_monitor : ∀ i pc, m.threads[i]? = some pc → pc ≠ .done → m.monitorThread = some i
  /-- Outside `stop_monitoring`, a monitor that is not monitoring has no running sampler. -/
  off_done : m.monitoring = false → m.foreground = .idle → ∀ pc ∈ m.threads, pc = .done
  stopped_done : m.stopped = true → ∀ pc ∈ m.threads, pc = .done
  ticks_current : ∀ pc ∈ m.threads, ∀ r ∈ pc.tickRun, r = m.run
  samples_current : ∀ s ∈ m.samples, s.run = m.run

theorem safe_init : Safe init :=
  ⟨fun _ _ h => by simp [init] at h, fun _ _ => by simp [init], fun h => by simp [init] at h,
    fun _ h => by simp [init] at h, fun _ h => by simp [init, samples] at h⟩

theorem countP_le_one_of_index {α : Type} (l : List α) (p : α → Bool) (j : Nat)
    (h : ∀ i x, l[i]? = some x → p x = true → i = j) : l.countP p ≤ 1 := by
  induction l generalizing j with
  | nil => simp
  | cons x xs ih =>
    rw [List.countP_cons]
    by_cases hx : p x = true
    · have hj : j = 0 := (h 0 x (by simp) hx).symm
      have hxs : xs.countP p = 0 := List.countP_eq_zero.2 fun y hy hpy => by
        obtain ⟨i, hi⟩ := List.mem_iff_getElem?.1 hy
        have := h (i + 1) y (by simpa using hi) hpy
        omega
      simp [hxs, hx]
    · have := ih (j - 1) fun i y hi hpy => by
        have := h (i + 1) y (by simpa using hi) hpy
        omega
      simp [hx, this]

theorem Safe.loopsRunning_le_one {m : Monitor} (h : Safe m) : m.loopsRunning ≤ 1 :=
  countP_le_one_of_index _ _ (m.monitorThread.getD 0) fun i pc hpc hlive => by
    rw [h.running_monitor i pc hpc (by simpa using hlive)]; rfl

theorem Safe.fresh {m : Monitor} (h : Safe m) : m.fresh = true := by
  simpa [Monitor.fresh] using h.samples_current

theorem Safe.all_done_of_joinDone {m : Monitor} (h : Safe m) (hj : m.joinDone = true) :
    ∀ pc ∈ m.threads, pc = .done := by
  intro pc hpc
  by_contra hlive
  obtain ⟨i, hi⟩ := List.mem_iff_getElem?.1 hpc
  have hmi := h.running_monitor i pc hi hlive
  simp only [joinDone, hmi, hi, beq_iff_eq, Option.some.injEq] at hj
  exact hlive hj

theorem mem_samples_appendProcess {h : PyDict Nat (List Sample)} {pid : Nat} {x s : Sample}
    (hs : s ∈ (appendProcess h pid x).items.flatMap (·.2)) :
    s ∈ h.items.flatMap (·.2) ∨ s = x := by
  obtain ⟨e, he, hse⟩ := List.mem_flatMap.1 hs
  rcases PyDict.mem_setItems he with he | rfl
  · exact .inl (List.mem_flatMap.2 ⟨e, he, hse⟩)
  · simp only [List.mem_append, List.mem_singleton] at hse
    rcases hse with hse | rfl
    · left
      cases hget : h.get? pid with
      | none => simp [hget] at hse
      | some v =>
        rw [hget, Option.getD_some] at hse
        exact List.mem_flatMap.2 ⟨(pid, v), PyDict.lookup_mem hget, hse⟩
    · exact .inr rfl

/-- **What a sampler statement can do**: move a running thread, append a sample of its own
tick, and nothing else. -/
theorem samplerStep_inv {m m' : Monitor} {i : Nat} {reading : Reading} {e : Event}
    (hs : samplerStep m i reading = some (m', e)) :
    ∃ pc pc', m.threads[i]? = some pc ∧ pc ≠ .done ∧ m'.threads = m.threads.set i pc' ∧
      m'.monitoring = m.monitoring ∧ m'.foreground = m.foreground ∧ m'.run = m.run ∧
      m'.stopped = m.stopped ∧ m'.monitorThread = m.monitorThread ∧
      (∀ r ∈ pc'.tickRun, r ∈ pc.tickRun ∨ r = m.run) ∧
      (∀ s ∈ m'.samples, s ∈ m.samples ∨ s.run ∈ pc.tickRun) := by
  unfold samplerStep at hs
  split at hs
  · cases hs
  · cases hs
  case h_3 hpc =>
    obtain ⟨rfl, rfl⟩ := Prod.mk.inj (Option.some.inj hs)
    refine ⟨_, _, hpc, by simp, rfl, rfl, rfl, rfl, rfl, rfl, fun r hr => .inr ?_,
      fun s hs => .inl hs⟩
    split at hr <;> simp_all [Pc.tickRun]
  case h_4 run hpc =>
    split at hs
    · obtain ⟨rfl, rfl⟩ := Prod.mk.inj (Option.some.inj hs)
      exact ⟨_, _, hpc, by simp, rfl, rfl, rfl, rfl, rfl, rfl, by simp [Pc.tickRun],
        fun s hs => .inl hs⟩
    · obtain ⟨rfl, rfl⟩ := Prod.mk.inj (Option.some.inj hs)
      refine ⟨_, _, hpc, by simp, rfl, rfl, rfl, rfl, rfl, rfl, by simp [Pc.tickRun],
        fun s hs => ?_⟩
      simp only [samples, setThread_processHistory, List.mem_append, List.mem_singleton] at hs
      rcases hs with (hs | rfl) | hs
      · exact .inl (List.mem_append_left _ hs)
      · exact .inr rfl
      · exact .inl (List.mem_append_right _ hs)
  case h_5 run hpc =>
    obtain ⟨rfl, rfl⟩ := Prod.mk.inj (Option.some.inj hs)
    exact ⟨_, _, hpc, by simp, rfl, rfl, rfl, rfl, rfl, rfl, by simp [Pc.tickRun],
      fun s hs => .inl hs⟩
  case h_6 run hpc =>
    obtain ⟨rfl, rfl⟩ := Prod.mk.inj (Option.some.inj hs)
    exact ⟨_, _, hpc, by simp, rfl, rfl, rfl, rfl, rfl, rfl, by simp [Pc.tickRun],
      fun s hs => .inl hs⟩
  case h_7 run pid pending hpc =>
    split at hs
    · obtain ⟨rfl, rfl⟩ := Prod.mk.inj (Option.some.inj hs)
      refine ⟨_, _, hpc, by simp, rfl, rfl, rfl, rfl, rfl, rfl, by simp [Pc.tickRun],
        fun s hs => ?_⟩
      simp only [samples, setThread_metricsHistory, List.mem_append] at hs
      rcases hs with hs | hs
      · exact .inl (List.mem_append_left _ hs)
      · rcases mem_samples_appendProcess hs with hs | rfl
        · exact .inl (List.mem_append_right _ hs)
        · exact .inr rfl
    all_goals
      obtain ⟨rfl, rfl⟩ := Prod.mk.inj (Option.some.inj hs)
      exact ⟨_, _, hpc, by simp, rfl, rfl, rfl, rfl, rfl, rfl, by simp [Pc.tickRun],
        fun s hs => .inl hs⟩
  case h_8 hpc =>
    obtain ⟨rfl, rfl⟩ := Prod.mk.inj (Option.some.inj hs)
    exact ⟨_, _, hpc, by simp, rfl, rfl, rfl, rfl, rfl, rfl, by simp [Pc.tickRun],
      fun s hs => .inl hs⟩

theorem safe_samplerStep {m m' : Monitor} {i : Nat} {reading : Reading} {e : Event} (h : Safe m)
    (hs : samplerStep m i reading = some (m', e)) : Safe m' := by
  obtain ⟨pc, pc', hpc, hlive, hthreads, hmon, hfg, hrun, hstop, hmt, htick, hsamples⟩ :=
    samplerStep_inv hs
  have hmem : pc ∈ m.threads := List.getElem?_mem hpc
  have hrunning : ¬∀ q ∈ m.threads, q = .done := fun hall => hlive (hall pc hmem)
  refine ⟨fun j q hq hq' => ?_, fun hm hf => absurd (h.off_done (hmon ▸ hm) (hfg ▸ hf)) hrunning,
    fun hs' => absurd (h.stopped_done (hstop ▸ hs')) hrunning, fun q hq r hr => ?_,
    fun s hs => hrun ▸ ?_⟩
  · rw [hthreads] at hq
    rw [hmt]
    by_cases hji : i = j
    · subst hji; exact h.running_monitor i pc hpc hlive
    · rw [List.getElem?_set_ne hji] at hq
      exact h.running_monitor j q hq hq'
  · rw [hthreads] at hq
    rw [hrun]
    rcases List.mem_or_eq_of_mem_set hq with hq | rfl
    · exact h.ticks_current q hq r hr
    · rcases htick r hr with hr | hr
      · exact h.ticks_current pc hmem r hr
      · exact hr
  · rcases hsamples s hs with hs | hs
    · exact h.samples_current s hs
    · exact h.ticks_current pc hmem _ hs

/-- **One step keeps the invariant**, when a returning join has waited for the sampler. -/
theorem safe_step {m m' : Monitor} {a : Action} {e : Event} (h : Safe m)
    (hwait : a = .joinReturn → m.joinDone = true) (hs : step m a = some (m', e)) : Safe m' := by
  cases a with
  | start =>
    simp only [Monitor.step] at hs
    split at hs
    · cases hs
    · rename_i hfg
      split at hs
      · obtain ⟨rfl, rfl⟩ := Prod.mk.inj (Option.some.inj hs)
        exact ⟨h.running_monitor, h.off_done, fun h' => by simp at h', h.ticks_current,
          h.samples_current⟩
      · rename_i hmon
        obtain ⟨rfl, rfl⟩ := Prod.mk.inj (Option.some.inj hs)
        have hall := h.off_done (by simpa using hmon) (by cases hm : m.foreground <;> simp_all)
        refine ⟨fun j q hq hq' => ?_, fun hm => by simp at hm, fun hs' => by simp at hs',
          fun q hq r hr => ?_, fun s hs => by simp [samples] at hs⟩
        · by_cases hj : j < m.threads.length
          · rw [List.getElem?_append_left hj] at hq
            exact absurd (hall q (List.getElem?_mem hq)) hq'
          · obtain ⟨k, rfl⟩ : ∃ k, j = m.threads.length + k := ⟨j - m.threads.length, by omega⟩
            cases k with
            | zero => rfl
            | succ k => simp [List.getElem?_append_right] at hq
        · rcases List.mem_append.1 hq with hq | hq
          · rw [hall q hq] at hr; simp [Pc.tickRun] at hr
          · rw [List.mem_singleton.1 hq] at hr; simp [Pc.tickRun] at hr
  | stop =>
    simp only [Monitor.step] at hs
    split at hs
    · cases hs
    · obtain ⟨rfl, rfl⟩ := Prod.mk.inj (Option.some.inj hs)
      exact ⟨h.running_monitor, fun _ hf => by simp at hf, h.stopped_done, h.ticks_current,
        h.samples_current⟩
  | joinReturn =>
    simp only [Monitor.step] at hs
    split at hs
    · cases hs
    · obtain ⟨rfl, rfl⟩ := Prod.mk.inj (Option.some.inj hs)
      have hall := h.all_done_of_joinDone (hwait rfl)
      exact ⟨h.running_monitor, fun _ _ => hall, fun _ => hall, h.ticks_current,
        h.samples_current⟩
  | addTarget pid =>
    simp only [Monitor.step] at hs
    split at hs
    · cases hs
    · obtain ⟨rfl, rfl⟩ := Prod.mk.inj (Option.some.inj hs)
      exact ⟨h.running_monitor, h.off_done, h.stopped_done, h.ticks_current, h.samples_current⟩
  | removeTarget pid =>
    simp only [Monitor.step] at hs
    split at hs
    · cases hs
    · obtain ⟨rfl, rfl⟩ := Prod.mk.inj (Option.some.inj hs)
      exact ⟨h.running_monitor, h.off_done, h.stopped_done, h.ticks_current, h.samples_current⟩
  | sample i reading => exact safe_samplerStep h hs

/-- While stopped, no step appends: every sampler has exited. -/
theorem not_isAppend_of_stopped {m m' : Monitor} {a : Action} {e : Event} (h : Safe m)
    (hstop : m.stopped = true) (hs : step m a = some (m', e)) : e.isAppend = false := by
  cases a with
  | sample i reading =>
    obtain ⟨pc, -, hpc, hlive, -⟩ := samplerStep_inv hs
    exact absurd (h.stopped_done hstop pc (List.getElem?_mem hpc)) hlive
  | _ =>
    simp only [Monitor.step] at hs
    repeat' split at hs
    all_goals (cases hs <;> rfl)

/-- **The run lemma**: along a schedule from a safe state whose joins wait, every state is
safe and no step of a stopped monitor appends. -/
theorem safe_execute {m final : Monitor} {trace : List (Monitor × Action × Event)}
    (schedule : List Action) (h : Safe m) (hex : execute m schedule = some (trace, final))
    (hwait : ∀ x ∈ trace, x.2.1 = .joinReturn → x.1.joinDone = true) :
    (∀ x ∈ trace, Safe x.1 ∧ (x.1.stopped = true → x.2.2.isAppend = false)) ∧ Safe final := by
  induction schedule generalizing m trace with
  | nil =>
    obtain ⟨rfl, rfl⟩ := Prod.mk.inj (Option.some.inj hex)
    exact ⟨by simp, h⟩
  | cons a as ih =>
    obtain ⟨m', e, tr, hs, hrest, rfl⟩ := execute_cons_eq_some hex
    have hw := hwait (m, a, e) (List.mem_cons_self _ _)
    obtain ⟨htr, hfin⟩ := ih (safe_step h hw hs) hrest
      fun x hx => hwait x (List.mem_cons_of_mem _ hx)
    refine ⟨fun x hx => ?_, hfin⟩
    rcases List.mem_cons.1 hx with rfl | hx
    · exact ⟨h, fun hst => not_isAppend_of_stopped h hst hs⟩
    · exact htr x hx

/-- **Joins that wait keep the runs apart**: on every schedule from a fresh monitor in which
each join returns only once `_monitor_thread` has exited, at every step at most one sampler
loop runs, every sample in the histories was collected by a tick of the current run, and no
step appends between a return of `stop_monitoring` and the next `start_monitoring`. -/
theorem waiting_joins_keep_runs_apart (schedule : List Action)
    (trace : List (Monitor × Action × Event)) (final : Monitor)
    (hex : execute init schedule = some (trace, final))
    (hwait : ∀ x ∈ trace, x.2.1 = .joinReturn → x.1.joinDone = true) :
    (∀ x ∈ trace, x.1.loopsRunning ≤ 1 ∧ x.1.fresh = true ∧
      (x.1.stopped = true → x.2.2.isAppend = false)) ∧
    final.loopsRunning ≤ 1 ∧ final.fresh = true := by
  obtain ⟨htr, hfin⟩ := safe_execute schedule safe_init hex hwait
  exact ⟨fun x hx => ⟨(htr x hx).1.loopsRunning_le_one, (htr x hx).1.fresh, (htr x hx).2⟩,
    hfin.loopsRunning_le_one, hfin.fresh⟩

/-- The schedule of `restart_after_join_timeout` with a join that waits for the sampler to
finish its tick and exit. -/
theorem waiting_join_before_restart :
    let schedule : List Action :=
      [.addTarget 7, .start, .sample 0 .sample, .stop, .sample 0 .sample, .sample 0 .sample,
        .sample 0 .sample, .sample 0 .sample, .sample 0 .sample, .sample 0 .sample,
        .joinReturn, .start, .sample 1 .sample]
    ∃ trace final, execute init schedule = some (trace, final) ∧
      (∀ x ∈ trace, x.1.loopsRunning ≤ 1 ∧ x.1.fresh = true ∧
        (x.1.stopped = true → x.2.2.isAppend = false)) ∧
      final.loopsRunning ≤ 1 ∧ final.fresh = true := by
  intro schedule
  exact ⟨_, _, rfl, waiting_joins_keep_runs_apart schedule _ _ rfl (by decide)⟩

/-! ## The foreground's view -/

/-- Whether an action is a statement of a sampler thread. -/
def Action.isSample : Action → Bool
  | .sample _ _ => true
  | _ => false

/-- What the foreground's calls read and write: the `monitoring` flag, where the foreground
is, and the target pids. -/
structure Control where
  monitoring : Bool
  foreground : Foreground
  targetProcesses : List Nat
  deriving DecidableEq, Repr

/-- The monitor as the foreground sees it. -/
def control (m : Monitor) : Control := ⟨m.monitoring, m.foreground, m.targetProcesses⟩

/-- The foreground's calls on its view of the monitor; a sampler statement leaves the view as
it is. -/
def Control.step (c : Control) : Action → Option Control
  | .start => if c.foreground = .joining then none else some { c with monitoring := true }
  | .stop =>
    if c.foreground = .joining then none
    else some { c with monitoring := false, foreground := .joining }
  | .joinReturn => if c.foreground = .idle then none else some { c with foreground := .idle }
  | .addTarget pid =>
    if c.foreground = .joining then none
    else some { c with targetProcesses :=
      if pid ∈ c.targetProcesses then c.targetProcesses else c.targetProcesses ++ [pid] }
  | .removeTarget pid =>
    if c.foreground = .joining then none
    else some { c with targetProcesses := c.targetProcesses.erase pid }
  | .sample _ _ => some c

/-- A sampler statement leaves the foreground's view as it is. -/
theorem samplerStep_control {m m' : Monitor} {i : Nat} {reading : Reading} {e : Event}
    (hs : samplerStep m i reading = some (m', e)) : m'.control = m.control := by
  obtain ⟨-, -, -, -, -, hmon, hfg, -⟩ := samplerStep_inv hs
  simp only [control, hmon, hfg, samplerStep_targetProcesses hs]

/-- **Every step of the monitor is a step of its view**. -/
theorem step_control {m m' : Monitor} {a : Action} {e : Event} (hs : step m a = some (m', e)) :
    Control.step m.control a = some m'.control := by
  cases a with
  | sample i reading => rw [samplerStep_control hs]; rfl
  | _ =>
    simp only [Monitor.step] at hs
    repeat' split at hs
    all_goals (cases hs <;> simp_all [Control.step, control])

/-- **The run lemma**: every run of the monitor is a run of its view. -/
theorem execute_control {m final : Monitor} {trace : List (Monitor × Action × Event)}
    (schedule : List Action) (hex : execute m schedule = some (trace, final)) :
    schedule.foldlM Control.step m.control = some final.control := by
  induction schedule generalizing m trace with
  | nil =>
    obtain ⟨rfl, rfl⟩ := Prod.mk.inj (Option.some.inj hex)
    rfl
  | cons a as ih =>
    obtain ⟨m', e, tr, hs, hrest, rfl⟩ := execute_cons_eq_some hex
    simp only [List.foldlM_cons, step_control hs, Option.bind_eq_bind, Option.some_bind, ih hrest]

/-- The view after a schedule depends only on the foreground's calls in it: the sampler
statements interleaved with them change nothing. -/
theorem foldlM_control_filter (c : Control) (schedule : List Action) :
    schedule.foldlM Control.step c =
      (schedule.filter fun a => !a.isSample).foldlM Control.step c := by
  induction schedule generalizing c with
  | nil => rfl
  | cons a as ih =>
    cases a with
    | sample i reading => exact ih c
    | _ =>
      simp only [List.filter_cons, Action.isSample, Bool.not_false, if_true, List.foldlM_cons, ih]

/-- A foreground call is enabled whenever its view allows it. -/
theorem step_of_control {m : Monitor} {a : Action} {c : Control} (ha : a.isSample = false)
    (h : Control.step m.control a = some c) : ∃ m' e, step m a = some (m', e) := by
  cases a with
  | sample i reading => cases ha
  | start =>
    simp only [Control.step, control] at h
    split at h
    · cases h
    · rename_i hfg
      simp only [Monitor.step, if_neg hfg]
      split <;> exact ⟨_, _, rfl⟩
  | _ =>
    simp only [Control.step, control] at h
    split at h
    · cases h
    · simp_all [Monitor.step]

/-- **A schedule of foreground calls runs** when its view allows every call in turn. -/
theorem execute_of_control {m : Monitor} {c : Control} (schedule : List Action)
    (hfg : schedule.all (!·.isSample) = true)
    (h : schedule.foldlM Control.step m.control = some c) :
    ∃ trace final, execute m schedule = some (trace, final) := by
  induction schedule generalizing m with
  | nil => exact ⟨_, _, rfl⟩
  | cons a as ih =>
    simp only [List.all_cons, Bool.and_eq_true, Bool.not_eq_true'] at hfg
    simp only [List.foldlM_cons, Option.bind_eq_bind, Option.bind_eq_some] at h
    obtain ⟨c', hc', hrest⟩ := h
    obtain ⟨m', e, hs⟩ := step_of_control hfg.1 hc'
    rw [← Option.some.inj ((step_control hs).symm.trans hc')] at hrest
    obtain ⟨trace, final, hex⟩ := ih hfg.2 hrest
    exact ⟨(m, a, e) :: trace, final, by simp [execute, hs, hex]⟩

end Monitor

end LambdustBench
