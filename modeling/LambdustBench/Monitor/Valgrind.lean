import LambdustBench.Python.Text

/-!
# The valgrind profiler (`ValgrindProfiler`)

`ValgrindProfiler.profile_command` (scripts/performance_monitor.py:193–247) runs a command
under `valgrind --tool=<tool>` with a timeout of 600 s and reads the tool's output file back
with `_parse_valgrind_output` (lines 249–267).

- `parseMassifOutput` (`_parse_massif_output`, lines 269–290): the largest `mem_heap_B=` value
  (starting from `0`), the number of `snapshot=` lines and the first ten of them.
- `parseCallgrindOutput` (`_parse_callgrind_output`, lines 292–310): the second field of the
  last `summary:` line with at least two fields, and the `fn=` lines.
- `profileCommand`: the command line, the run, and the record it returns. A parse failure
  is recorded in `profile_data` and never changes `success`, which is valgrind's exit status.

The parsers read numbers with `int` (`pyInt`), whose `ValueError` `_parse_valgrind_output`
catches.

- `MassifFile`: massif's output as valgrind writes it (`pp_snapshot` in `ms_main.c`). A header
  comes first (`desc:`, `cmd:`, `time_unit:`), then per snapshot its number, time and three
  byte counts, and its heap tree.
- `massif_output_round_trip`: on every such file, `_parse_massif_output` returns the largest
  heap size of all snapshots, their number and the first ten `snapshot=` lines.
- `callgrind_output_reads`: on every text, `_parse_callgrind_output` fails at the first
  `summary:` count that is not an integer, and otherwise returns the last count and every
  `fn=` line.
-/

namespace LambdustBench.Valgrind

/-! ## The parsers -/

/-- What `_parse_massif_output` returns; an entry `{'line': line}` of `snapshots` is its
line. -/
structure MassifProfile where
  peakMemoryBytes : Int
  peakMemoryMb : ℚ
  numSnapshots : Nat
  snapshots : List (List Char)
  deriving DecidableEq, Repr

/-- One pass of the loop of `_parse_massif_output` (lines 276–283): the peak so far and the
`snapshot=` lines so far. -/
def massifStep (acc : Int × List (List Char)) (line : List Char) :
    Except IntError (Int × List (List Char)) :=
  if "mem_heap_B=".toList.isPrefixOf line then do
    let heapBytes ← pyInt ((line.splitOn '=').getD 1 [])
    pure (max acc.1 heapBytes, acc.2)
  else if "snapshot=".toList.isPrefixOf line then pure (acc.1, acc.2 ++ [line])
  else pure acc

/-- `_parse_massif_output`; an error is the `ValueError` of `int`. -/
def parseMassifOutput (content : List Char) : Except IntError MassifProfile := do
  let loop ← ((pyStrip content).splitOn '\n').foldlM massifStep (0, [])
  pure
    { peakMemoryBytes := loop.1
      peakMemoryMb := loop.1 / (1024 * 1024)
      numSnapshots := loop.2.length
      snapshots := loop.2.take 10 }

/-- What `_parse_callgrind_output` returns. -/
structure CallgrindProfile where
  totalInstructions : Int
  numFunctions : Nat
  functions : List (List Char)
  deriving DecidableEq, Repr

/-- One pass of the loop of `_parse_callgrind_output` (lines 298–305). -/
def callgrindStep (acc : Int × List (List Char)) (line : List Char) :
    Except IntError (Int × List (List Char)) :=
  if "summary:".toList.isPrefixOf line then
    let parts := pySplitWhitespace line
    if parts.length ≥ 2 then do
      let totalInstructions ← pyInt (parts.getD 1 [])
      pure (totalInstructions, acc.2)
    else pure acc
  else if "fn=".toList.isPrefixOf line then pure (acc.1, acc.2 ++ [line.drop 3])
  else pure acc

/-- `_parse_callgrind_output`. -/
def parseCallgrindOutput (content : List Char) : Except IntError CallgrindProfile := do
  let loop ← ((pyStrip content).splitOn '\n').foldlM callgrindStep (0, [])
  pure ⟨loop.1, loop.2.length, loop.2.take 20⟩

/-- The tool's output file after the run, as `_parse_valgrind_output` finds it. -/
inductive OutputFile where
  | missing
  /-- `open` or `read` raises (a file that is not text in the locale's encoding). -/
  | unreadable
  | text (content : List Char)
  deriving DecidableEq, Repr

/-- What `_parse_valgrind_output` returns. -/
inductive ProfileData where
  /-- `{}`: no output file. -/
  | empty
  | massif (profile : MassifProfile)
  | callgrind (profile : CallgrindProfile)
  /-- `{'raw_output': content}` for the other tools. -/
  | raw (content : List Char)
  /-- `{'error': f'Failed to parse output: {e}'}`, for a failed read (`none`) or a
  `ValueError` of `int`. -/
  | error (cause : Option IntError)
  deriving DecidableEq, Repr

/-- `_parse_valgrind_output`. -/
def parseValgrindOutput (tool : String) : OutputFile → ProfileData
  | .missing => .empty
  | .unreadable => .error none
  | .text content =>
    if tool = "massif" then
      match parseMassifOutput content with
      | .ok profile => .massif profile
      | .error e => .error (some e)
    else if tool = "callgrind" then
      match parseCallgrindOutput content with
      | .ok profile => .callgrind profile
      | .error e => .error (some e)
    else .raw content

/-! ## Running valgrind -/

/-- `str(output_file)` (line 196). -/
def outputFileFor (tool outputPrefix : String) : String :=
  "/tmp/valgrind_output/" ++ outputPrefix ++ "_" ++ tool ++ ".out"

/-- `valgrind_cmd` (lines 198–216). -/
def valgrindCommand (tool outputFile : String) (command : List String) : List String :=
  ["valgrind", "--tool=" ++ tool, "--" ++ tool ++ "-out-file=" ++ outputFile, "--time-stamp=yes"] ++
    (if tool = "massif" then ["--pages-as-heap=yes", "--heap-admin=0", "--stacks=yes"]
     else if tool = "callgrind" then ["--collect-jumps=yes", "--collect-systime=yes"]
     else []) ++ command

/-- How `subprocess.run(valgrind_cmd, ..., timeout=600)` goes, with the elapsed time. -/
inductive Run where
  /-- Valgrind exits with this code and standard error, leaving the output file so. -/
  | exits (returncode : Int) (stderr : String) (duration : ℚ) (output : OutputFile)
  /-- `TimeoutExpired`. -/
  | timesOut (duration : ℚ)
  deriving DecidableEq, Repr

/-- What `profile_command` returns. -/
inductive ValgrindResult where
  | completed (success : Bool) (duration : ℚ) (outputFile : String) (profileData : ProfileData)
      (stderr : String)
  /-- `{'success': False, 'error': 'Valgrind profiling timed out', 'duration': ...}`. -/
  | timedOut (duration : ℚ)
  deriving DecidableEq, Repr

/-- `profile_command`, for what each command line does (`run`); an exception other than the
timeout (valgrind not installed) propagates to the caller and is left out. -/
def profileCommand (tool : String) (run : List String → Run) (command : List String)
    (outputPrefix : String) : ValgrindResult :=
  let outputFile := outputFileFor tool outputPrefix
  match run (valgrindCommand tool outputFile command) with
  | .exits returncode stderr duration output =>
    .completed (returncode == 0) duration outputFile (parseValgrindOutput tool output) stderr
  | .timesOut duration => .timedOut duration

/-! ## Massif's output format -/

/-- A line of a detailed snapshot's heap tree: `n<children>: <bytes> <label>`, indented one
space per level. -/
structure HeapNode where
  depth : Nat
  children : Nat
  bytes : UInt64
  label : List Char
  deriving DecidableEq, Repr

/-- The heap tree of a snapshot: `heap_tree=empty`, or a detailed (or peak) snapshot's
tree. -/
inductive HeapTree where
  | empty
  | detailed (nodes : List HeapNode)
  | peak (nodes : List HeapNode)
  deriving DecidableEq, Repr

/-- One snapshot; the byte counts are the 64-bit `SizeT`s massif prints with `%lu`. -/
structure MassifSnapshot where
  time : Nat
  memHeapB : UInt64
  memHeapExtraB : UInt64
  memStacksB : UInt64
  heapTree : HeapTree
  deriving DecidableEq, Repr

/-- `--time-unit`: instructions, milliseconds or bytes. -/
inductive TimeUnit where
  | i | ms | b
  deriving DecidableEq, Repr

/-- A massif output file: the text after `desc:` and `cmd: `, the time unit, and the
snapshots in order. -/
structure MassifFile where
  desc : List Char
  cmd : List Char
  timeUnit : TimeUnit
  snapshots : List MassifSnapshot
  deriving DecidableEq, Repr

def HeapNode.line (node : HeapNode) : List Char :=
  List.replicate node.depth ' ' ++ 'n' :: decimal node.children ++ ": ".toList ++
    decimal node.bytes.toNat ++ ' ' :: node.label

def HeapTree.lines : HeapTree → List (List Char)
  | .empty => ["heap_tree=empty".toList]
  | .detailed nodes => "heap_tree=detailed".toList :: nodes.map HeapNode.line
  | .peak nodes => "heap_tree=peak".toList :: nodes.map HeapNode.line

/-- The nodes of a heap tree. -/
def HeapTree.nodes : HeapTree → List HeapNode
  | .empty => []
  | .detailed nodes => nodes
  | .peak nodes => nodes

/-- The `snapshot=` line of snapshot `i`. -/
def snapshotLine (i : Nat) : List Char := "snapshot=".toList ++ decimal i

/-- Snapshot `i` as `pp_snapshot` prints it. -/
def MassifSnapshot.lines (s : MassifSnapshot) (i : Nat) : List (List Char) :=
  ["#-----------".toList, snapshotLine i, "#-----------".toList, "time=".toList ++ decimal s.time,
    "mem_heap_B=".toList ++ decimal s.memHeapB.toNat,
    "mem_heap_extra_B=".toList ++ decimal s.memHeapExtraB.toNat,
    "mem_stacks_B=".toList ++ decimal s.memStacksB.toNat] ++ s.heapTree.lines

def TimeUnit.text : TimeUnit → List Char
  | .i => ['i']
  | .ms => ['m', 's']
  | .b => ['B']

/-- The lines of a massif file. -/
def MassifFile.lines (f : MassifFile) : List (List Char) :=
  ("desc:".toList ++ f.desc) :: ("cmd: ".toList ++ f.cmd) ::
    ("time_unit: ".toList ++ f.timeUnit.text) ::
    (f.snapshots.enum.flatMap fun (i, s) => s.lines i)

/-- The file's text: every line ends in a newline. -/
def MassifFile.text (f : MassifFile) : List Char := f.lines.flatMap (· ++ ['\n'])

/-- The largest heap size of all snapshots, and `0` without snapshots. -/
def MassifFile.peakHeap (f : MassifFile) : Int :=
  (f.snapshots.map fun s => (s.memHeapB.toNat : Int)).foldl max 0

/-! ## Reading the lines back -/

/-- `rdropWhile` stops inside the last part when that part has a character it keeps. -/
theorem rdropWhile_append_of_exists {p : Char → Bool} (P Q : List Char)
    (hQ : ∃ c ∈ Q, p c = false) : (P ++ Q).rdropWhile p = P ++ Q.rdropWhile p := by
  induction Q using List.reverseRecOn with
  | nil => simp at hQ
  | append_singleton Q x ih =>
    rw [← List.append_assoc]
    by_cases hx : p x
    · rw [List.rdropWhile_concat_pos _ _ _ hx, List.rdropWhile_concat_pos _ _ _ hx]
      obtain ⟨c, hc, hpc⟩ := hQ
      rcases List.mem_append.mp hc with hc | hc
      · exact ih ⟨c, hc, hpc⟩
      · rw [List.mem_singleton.mp hc] at hpc
        simp [hpc] at hx
    · rw [List.rdropWhile_concat_neg _ _ _ hx, List.rdropWhile_concat_neg _ _ _ hx,
        List.append_assoc]

/-- `split('\n')` of newline-terminated lines followed by a last piece. -/
theorem splitOn_lines (ls : List (List Char)) (x : List Char) (hls : ∀ l ∈ ls, '\n' ∉ l)
    (hx : '\n' ∉ x) : (ls.flatMap (· ++ ['\n']) ++ x).splitOn '\n' = ls ++ [x] := by
  induction ls with
  | nil =>
    exact List.splitOnP_eq_single _ x fun c hc h => hx (by rwa [beq_iff_eq.mp h] at hc)
  | cons l ls ih =>
    rw [List.flatMap_cons, List.append_assoc, List.append_assoc, List.singleton_append,
      List.splitOn, List.splitOnP_first _ l (fun c hc h => hls l (List.mem_cons_self l ls)
        (by rwa [beq_iff_eq.mp h] at hc)) '\n' (by simp), ← List.splitOn,
      ih fun l' h => hls l' (List.mem_cons_of_mem l h)]
    rfl

/-- **`strip()` then `split('\n')`** of a text made of newline-terminated lines that starts
with a visible character: the same lines, the last one without its trailing whitespace. -/
theorem splitOn_pyStrip_lines (ls : List (List Char)) (last : List Char)
    (hls : ∀ l ∈ ls, '\n' ∉ l) (hlast : '\n' ∉ last)
    (hstart : ((ls ++ [last]).flatMap (· ++ ['\n'])).dropWhile pyIsSpace =
      (ls ++ [last]).flatMap (· ++ ['\n']))
    (hvisible : ∃ c ∈ last, pyIsSpace c = false) :
    (pyStrip ((ls ++ [last]).flatMap (· ++ ['\n']))).splitOn '\n' =
      ls ++ [last.rdropWhile pyIsSpace] := by
  rw [pyStrip, hstart, List.flatMap_append, List.flatMap_singleton, ← List.append_assoc,
    List.rdropWhile_concat_pos _ _ _ (by decide), rdropWhile_append_of_exists _ _ hvisible]
  exact splitOn_lines ls _ hls fun h => hlast ((List.rdropWhile_prefix _ _).subset h)

/-- A line the loop of `_parse_massif_output` passes over. -/
def Skipped (line : List Char) : Prop :=
  "mem_heap_B=".toList.isPrefixOf line = false ∧ "snapshot=".toList.isPrefixOf line = false

theorem massifStep_skipped {line : List Char} (h : Skipped line) (acc : Int × List (List Char)) :
    massifStep acc line = .ok acc := by
  simp only [massifStep, h.1, h.2, Bool.false_eq_true, if_false]
  rfl

theorem Skipped.of_prefix {line line' : List Char} (h : Skipped line) (hp : line' <+: line) :
    Skipped line' := by
  have hkeep : ∀ q : List Char, q.isPrefixOf line = false → q.isPrefixOf line' = false :=
    fun q hq => Bool.eq_false_iff.mpr fun h' => Bool.eq_false_iff.mp hq
      (List.isPrefixOf_iff_prefix.mpr ((List.isPrefixOf_iff_prefix.mp h').trans hp))
  exact ⟨hkeep _ h.1, hkeep _ h.2⟩

theorem foldlM_massifStep_skipped (ls : List (List Char)) (hls : ∀ l ∈ ls, Skipped l)
    (acc : Int × List (List Char)) : ls.foldlM massifStep acc = .ok acc := by
  induction ls with
  | nil => rfl
  | cons l ls ih =>
    rw [List.foldlM_cons, massifStep_skipped (hls l (List.mem_cons_self l ls))]
    exact ih fun l' h => hls l' (List.mem_cons_of_mem l h)

theorem foldlM_massifStep_concat_skipped (ls : List (List Char)) {x : List Char} (hx : Skipped x)
    (acc : Int × List (List Char)) :
    (ls ++ [x]).foldlM massifStep acc = ls.foldlM massifStep acc := by
  rw [List.foldlM_append]
  cases ls.foldlM massifStep acc <;> simp [bind, Except.bind, massifStep_skipped hx, pure,
    Except.pure]

theorem splitOn_heapLine (n : Nat) :
    ("mem_heap_B=".toList ++ decimal n).splitOn '=' = ["mem_heap_B".toList, decimal n] := by
  rw [show "mem_heap_B=".toList ++ decimal n = "mem_heap_B".toList ++ '=' :: decimal n from rfl,
    List.splitOn, List.splitOnP_first _ _ (by decide) '=' (by decide),
    List.splitOnP_eq_single _ (decimal n) fun c hc h => by
      rw [beq_iff_eq.mp h] at hc
      exact absurd (decimal_isDigit n _ hc) (by decide)]

theorem massifStep_heapLine (n : Nat) (hn : (decimal n).length ≤ maxStrDigits)
    (acc : Int × List (List Char)) :
    massifStep acc ("mem_heap_B=".toList ++ decimal n) = .ok (max acc.1 n, acc.2) := by
  rw [massifStep, if_pos (List.isPrefixOf_iff_prefix.mpr (List.prefix_append _ _)),
    splitOn_heapLine]
  simp [pyInt_decimal n hn, bind, Except.bind, pure, Except.pure]

theorem massifStep_snapshotLine (i : Nat) (acc : Int × List (List Char)) :
    massifStep acc (snapshotLine i) = .ok (acc.1, acc.2 ++ [snapshotLine i]) := by
  have h₁ : "mem_heap_B=".toList.isPrefixOf (snapshotLine i) = false := rfl
  simp [massifStep, h₁, snapshotLine, List.isPrefixOf_iff_prefix, pure, Except.pure]

theorem skipped_nodeLine (node : HeapNode) : Skipped node.line := by
  unfold HeapNode.line
  cases node.depth <;> exact ⟨rfl, rfl⟩

theorem skipped_treeLines (tree : HeapTree) : ∀ l ∈ tree.lines, Skipped l := by
  cases tree <;> simp only [HeapTree.lines, List.mem_cons, List.mem_map, List.mem_singleton,
    List.not_mem_nil, or_false] <;> rintro l (rfl | ⟨node, -, rfl⟩) <;>
    first | exact ⟨rfl, rfl⟩ | exact skipped_nodeLine node

/-- A massif byte count has at most 20 digits. -/
theorem decimal_uint64_length (x : UInt64) : (decimal x.toNat).length ≤ maxStrDigits :=
  (decimal_length_le x.toNat 20 (lt_of_lt_of_le x.val.isLt (by decide)) (by decide)).trans
    (by decide)

/-- The loop over one snapshot: the peak takes its heap size, and its `snapshot=` line is
kept. -/
theorem foldlM_snapshotLines (s : MassifSnapshot) (i : Nat) (acc : Int × List (List Char)) :
    (s.lines i).foldlM massifStep acc =
      .ok (max acc.1 s.memHeapB.toNat, acc.2 ++ [snapshotLine i]) := by
  simp only [MassifSnapshot.lines, List.cons_append, List.foldlM_cons,
    massifStep_skipped (⟨rfl, rfl⟩ : Skipped "#-----------".toList), massifStep_snapshotLine,
    massifStep_skipped (⟨rfl, rfl⟩ : Skipped ("time=".toList ++ decimal s.time)),
    massifStep_heapLine _ (decimal_uint64_length s.memHeapB),
    massifStep_skipped (⟨rfl, rfl⟩ : Skipped ("mem_heap_extra_B=".toList ++ decimal s.memHeapExtraB.toNat)),
    massifStep_skipped (⟨rfl, rfl⟩ : Skipped ("mem_stacks_B=".toList ++ decimal s.memStacksB.toNat)),
    List.nil_append, bind, Except.bind]
  exact foldlM_massifStep_skipped _ (skipped_treeLines s.heapTree) _

/-- The loop over snapshots `n`, `n + 1`, …: the peak is the largest heap size so far, and the
`snapshot=` lines are kept in order. -/
theorem foldlM_snapshots (ss : List MassifSnapshot) (n : Nat) (acc : Int × List (List Char)) :
    ((ss.enumFrom n).flatMap fun (i, s) => s.lines i).foldlM massifStep acc =
      .ok ((ss.map fun s => (s.memHeapB.toNat : Int)).foldl max acc.1,
        acc.2 ++ (List.range' n ss.length).map snapshotLine) := by
  induction ss generalizing n acc with
  | nil => simp [pure, Except.pure]
  | cons s ss ih =>
    rw [List.enumFrom_cons, List.flatMap_cons, List.foldlM_append, foldlM_snapshotLines]
    simp [bind, Except.bind, ih, List.range'_succ]

/-- Lines whose last line is passed over and has a visible character. -/
def EndsVisible (ls : List (List Char)) : Prop :=
  ∃ init last, ls = init ++ [last] ∧ Skipped last ∧ ∃ c ∈ last, pyIsSpace c = false

theorem EndsVisible.append_left {B : List (List Char)} (h : EndsVisible B) (A : List (List Char)) :
    EndsVisible (A ++ B) := by
  obtain ⟨init, last, rfl, hs, hv⟩ := h
  exact ⟨A ++ init, last, by simp, hs, hv⟩

theorem endsVisible_flatMap {α : Type} (xs : List α) (hxs : xs ≠ []) (g : α → List (List Char))
    (h : ∀ x, EndsVisible (g x)) : EndsVisible (xs.flatMap g) := by
  obtain ⟨ys, y, rfl⟩ := (List.eq_nil_or_concat xs).resolve_left hxs
  rw [List.concat_eq_append, List.flatMap_append, List.flatMap_singleton]
  exact (h y).append_left _

theorem endsVisible_nodeLines (head : List Char) (hhead : Skipped head)
    (hvis : ∃ c ∈ head, pyIsSpace c = false) (nodes : List HeapNode) :
    EndsVisible (head :: nodes.map HeapNode.line) := by
  rcases List.eq_nil_or_concat nodes with rfl | ⟨nodes, node, rfl⟩
  · exact ⟨[], head, rfl, hhead, hvis⟩
  · refine ⟨head :: nodes.map HeapNode.line, node.line, by simp, skipped_nodeLine node, 'n', ?_,
      rfl⟩
    simp [HeapNode.line]

theorem endsVisible_treeLines (tree : HeapTree) : EndsVisible tree.lines := by
  cases tree with
  | empty =>
    exact ⟨[], "heap_tree=empty".toList, rfl, ⟨rfl, rfl⟩, 'h', by decide, rfl⟩
  | detailed nodes =>
    exact endsVisible_nodeLines "heap_tree=detailed".toList ⟨rfl, rfl⟩ ⟨'h', by decide, rfl⟩ nodes
  | peak nodes =>
    exact endsVisible_nodeLines "heap_tree=peak".toList ⟨rfl, rfl⟩ ⟨'h', by decide, rfl⟩ nodes

theorem endsVisible_lines (f : MassifFile) : EndsVisible f.lines := by
  unfold MassifFile.lines
  rcases f.snapshots with _ | ⟨s, ss⟩
  · exact ⟨[_, _], "time_unit: ".toList ++ f.timeUnit.text, rfl, ⟨rfl, rfl⟩, 't',
      List.mem_append_left _ (by decide), rfl⟩
  · refine (endsVisible_flatMap _ (by simp) _ fun x => ?_).append_left [_, _, _]
    obtain ⟨i, s⟩ := x
    exact (endsVisible_treeLines s.heapTree).append_left _

theorem newline_not_mem_decimal (n : Nat) : '\n' ∉ decimal n :=
  fun h => absurd (decimal_isDigit n _ h) (by decide)

theorem newline_not_mem_lines (f : MassifFile) (hdesc : '\n' ∉ f.desc) (hcmd : '\n' ∉ f.cmd)
    (hlabels : ∀ s ∈ f.snapshots, ∀ node ∈ s.heapTree.nodes, '\n' ∉ node.label) :
    ∀ l ∈ f.lines, '\n' ∉ l := by
  have hnode : ∀ node : HeapNode, '\n' ∉ node.label → '\n' ∉ node.line := fun node h => by
    simp [HeapNode.line, List.mem_replicate, newline_not_mem_decimal, h]
  have htree : ∀ s ∈ f.snapshots, ∀ l ∈ s.heapTree.lines, '\n' ∉ l := by
    intro s hs l hl
    have hn := hlabels s hs
    cases h : s.heapTree <;> rw [h] at hl hn <;>
      simp only [HeapTree.lines, HeapTree.nodes, List.mem_cons, List.mem_map,
        List.mem_singleton] at hl hn <;>
      rcases hl with rfl | ⟨node, hnode', rfl⟩ <;> first | decide | exact hnode node (hn node hnode')
  simp only [MassifFile.lines, List.mem_cons, List.mem_flatMap, Prod.exists]
  rintro l (rfl | rfl | rfl | ⟨i, s, hs, hl⟩)
  · simpa using hdesc
  · simpa using hcmd
  · cases f.timeUnit <;> decide
  · have hs' := List.snd_mem_of_mem_enum hs
    simp only [MassifSnapshot.lines, snapshotLine, List.cons_append, List.mem_cons,
      List.nil_append] at hl
    rcases hl with rfl | rfl | rfl | rfl | rfl | rfl | rfl | hl <;>
      first
      | exact htree s hs' l hl
      | simp [newline_not_mem_decimal]

/-- **Massif's output reads back.** For every massif file whose `desc:` and `cmd:` texts and
heap tree labels hold no newline, `_parse_massif_output` returns the largest heap size of all
snapshots (`0` without snapshots), their number, and the first ten `snapshot=` lines. -/
theorem massif_output_round_trip (f : MassifFile) (hdesc : '\n' ∉ f.desc) (hcmd : '\n' ∉ f.cmd)
    (hlabels : ∀ s ∈ f.snapshots, ∀ node ∈ s.heapTree.nodes, '\n' ∉ node.label) :
    parseMassifOutput f.text = .ok
      { peakMemoryBytes := f.peakHeap
        peakMemoryMb := f.peakHeap / (1024 * 1024)
        numSnapshots := f.snapshots.length
        snapshots := ((List.range f.snapshots.length).map snapshotLine).take 10 } := by
  have hnl := newline_not_mem_lines f hdesc hcmd hlabels
  obtain ⟨init, last, hlines, hskip, hvis⟩ := endsVisible_lines f
  have hstart : f.text.dropWhile pyIsSpace = f.text := by
    obtain ⟨rest, hrest⟩ : ∃ rest, f.text = 'd' :: rest := ⟨_, rfl⟩
    rw [hrest, List.dropWhile_cons_of_neg (by decide)]
  have hsplit : (pyStrip f.text).splitOn '\n' = init ++ [last.rdropWhile pyIsSpace] := by
    rw [MassifFile.text, hlines] at hstart ⊢
    exact splitOn_pyStrip_lines init last (fun l h => hnl l (by simp [hlines, h]))
      (hnl last (by simp [hlines])) hstart hvis
  have hloop : ((pyStrip f.text).splitOn '\n').foldlM massifStep (0, []) =
      .ok (f.peakHeap, (List.range f.snapshots.length).map snapshotLine) := by
    have htime : Skipped ("time_unit: ".toList ++ f.timeUnit.text) := by
      cases f.timeUnit <;> exact ⟨rfl, rfl⟩
    rw [hsplit, foldlM_massifStep_concat_skipped _ (hskip.of_prefix (List.rdropWhile_prefix _ _)),
      ← foldlM_massifStep_concat_skipped init hskip, ← hlines, MassifFile.lines]
    simp only [List.foldlM_cons, massifStep_skipped htime,
      massifStep_skipped (⟨rfl, rfl⟩ : Skipped ("desc:".toList ++ f.desc)),
      massifStep_skipped (⟨rfl, rfl⟩ : Skipped ("cmd: ".toList ++ f.cmd)), bind, Except.bind,
      List.enum, foldlM_snapshots]
    simp [MassifFile.peakHeap, List.range_eq_range']
  simp [parseMassifOutput, hloop, bind, Except.bind, pure, Except.pure]

/-- Two snapshots of `./lambdust fib.scm`, the second a detailed one with a two-node tree. -/
def twoSnapshotFile : MassifFile where
  desc := " --pages-as-heap=yes --heap-admin=0 --stacks=yes".toList
  cmd := "./lambdust fib.scm".toList
  timeUnit := .i
  snapshots :=
    [⟨0, 0, 0, 0, .empty⟩,
      ⟨1500, 4096, 64, 1024, .detailed
        [⟨0, 1, 4096, "(heap allocation functions) malloc/new/new[], --alloc-fns, etc.".toList⟩,
          ⟨1, 0, 4096, "0x4005A6: main (fib.c:5)".toList⟩]⟩]

/-- The file reads back with a peak of 4096 bytes and its two `snapshot=` lines. -/
theorem two_snapshot_file_reads_back :
    parseMassifOutput twoSnapshotFile.text =
      .ok ⟨4096, (4096 : Int) / (1024 * 1024), 2, [snapshotLine 0, snapshotLine 1]⟩ := by
  rw [massif_output_round_trip twoSnapshotFile (by decide) (by decide) (by decide)]
  rfl

/-! ## What the callgrind parser reads -/

/-- A `summary:` line with at least two fields: the lines that set `total_instructions`. -/
def setsTotal (line : List Char) : Bool :=
  "summary:".toList.isPrefixOf line && 2 ≤ (pySplitWhitespace line).length

/-- `int(parts[1])` of a `summary:` line. -/
def summaryCount (line : List Char) : Except IntError Int :=
  pyInt ((pySplitWhitespace line).getD 1 [])

/-- `line[3:]` of every `fn=` line, in order. -/
def functionNames (lines : List (List Char)) : List (List Char) :=
  (lines.filter fun line => "fn=".toList.isPrefixOf line).map (·.drop 3)

theorem fn_not_summary {line : List Char} (h : "summary:".toList.isPrefixOf line = true) :
    "fn=".toList.isPrefixOf line = false := by
  rw [Bool.eq_false_iff]
  intro hfn
  rw [List.isPrefixOf_iff_prefix] at h hfn
  exact absurd (List.prefix_of_prefix_length_le hfn h (by decide)) (by decide)

theorem functionNames_cons (line : List Char) (lines : List (List Char)) :
    functionNames (line :: lines) =
      if "fn=".toList.isPrefixOf line then line.drop 3 :: functionNames lines
      else functionNames lines := by
  simp only [functionNames, List.filter_cons]
  split <;> rfl

theorem callgrindStep_eq (acc : Int × List (List Char)) (line : List Char) :
    callgrindStep acc line =
      if setsTotal line then (summaryCount line).map fun total => (total, acc.2)
      else if "fn=".toList.isPrefixOf line then .ok (acc.1, acc.2 ++ [line.drop 3])
      else .ok acc := by
  by_cases hs : "summary:".toList.isPrefixOf line
  · by_cases h2 : 2 ≤ (pySplitWhitespace line).length
    · have ht : setsTotal line = true := by
        simp only [setsTotal, hs, Bool.true_and, decide_eq_true_eq]; exact h2
      rw [if_pos ht, callgrindStep, if_pos hs, if_pos h2, summaryCount]
      cases pyInt ((pySplitWhitespace line).getD 1 []) <;> rfl
    · have ht : setsTotal line = false := by
        simp only [setsTotal, hs, Bool.true_and, decide_eq_false_iff_not]; exact h2
      rw [if_neg (by simp [ht]), callgrindStep, if_pos hs, if_neg h2, fn_not_summary hs]
      rfl
  · have ht : setsTotal line = false := by
      rw [Bool.not_eq_true] at hs; simp only [setsTotal, hs, Bool.false_and]
    rw [if_neg (by simp [ht]), callgrindStep, if_neg hs]
    rfl

/-- **Spec of `_parse_callgrind_output`'s loop**: the `summary:` lines with two fields are
read in order up to the first failing one; the total is the last count, and the functions
are the `fn=` lines. -/
theorem foldlM_callgrindStep (lines : List (List Char)) (acc : Int × List (List Char)) :
    lines.foldlM callgrindStep acc =
      ((lines.filter setsTotal).mapM summaryCount).map fun counts =>
        (counts.getLast?.getD acc.1, acc.2 ++ functionNames lines) := by
  induction lines generalizing acc with
  | nil => simp only [functionNames, List.filter_nil, List.map_nil, List.append_nil]; rfl
  | cons line lines ih =>
    rw [List.foldlM_cons, callgrindStep_eq, functionNames_cons]
    by_cases ht : setsTotal line
    · have hfn : "fn=".toList.isPrefixOf line = false :=
        fn_not_summary (by simp only [setsTotal, Bool.and_eq_true] at ht; exact ht.1)
      rw [if_pos ht, List.filter_cons_of_pos ht, List.mapM_cons, hfn]
      cases summaryCount line with
      | error e => rfl
      | ok v =>
        show lines.foldlM callgrindStep (v, acc.2) = _
        rw [ih]
        cases (lines.filter setsTotal).mapM summaryCount with
        | error e => rfl
        | ok counts => simp [bind, Except.bind, pure, Except.pure, Except.map, List.getLast?_cons]
    · rw [if_neg ht, List.filter_cons_of_neg ht]
      by_cases hf : "fn=".toList.isPrefixOf line
      · rw [if_pos hf, if_pos hf]
        show lines.foldlM callgrindStep (acc.1, acc.2 ++ [line.drop 3]) = _
        rw [ih]
        simp only [List.append_assoc, List.singleton_append]
      · rw [if_neg hf, if_neg hf]
        exact ih acc

/-- **What `_parse_callgrind_output` reads.** It raises the `ValueError` of the first
`summary:` line with two fields whose second field is not an integer. Otherwise
`total_instructions` is the count of the last such line (`0` without one), and the functions
are all `fn=` lines: a compressed name given again (`fn=(1)`) is counted again. -/
theorem callgrind_output_reads (content : List Char) :
    parseCallgrindOutput content =
      ((((pyStrip content).splitOn '\n').filter setsTotal).mapM summaryCount).map fun counts =>
        ⟨counts.getLast?.getD 0, (functionNames ((pyStrip content).splitOn '\n')).length,
          (functionNames ((pyStrip content).splitOn '\n')).take 20⟩ := by
  rw [parseCallgrindOutput, foldlM_callgrindStep]
  cases ((((pyStrip content).splitOn '\n').filter setsTotal).mapM summaryCount) <;> rfl

/-- The last summary wins, and a repeated compressed name counts twice. -/
example : parseCallgrindOutput "summary: 5\nfn=(1) main\nsummary: 7\nfn=(1)".toList =
    .ok ⟨7, 2, ["(1) main".toList, "(1)".toList]⟩ := rfl

end LambdustBench.Valgrind
