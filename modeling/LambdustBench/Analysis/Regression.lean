import LambdustBench.Analysis.Comparison

/-!
# `detect_regressions` and the results document

`BenchmarkRunner.detect_regressions` (run_comprehensive_benchmarks.py:474–545) loads the JSON
file given as `--regression-baseline`. For every implementation id of the current
`native_results` that is a top-level key of that document, it matches each successful record
against the first baseline item with the same `test_name`, `category` and `parameters`, and
reports a change of `ops_per_second` beyond 5 %. Any exception on the way makes it return `{}`.

The baseline is modelled at the level the detector observes it: a top-level object whose values
it only iterates, or another JSON value. `generate_comprehensive_report` (lines 547–559) dumps
`all_results`, whose top-level keys are the section names `run` fills (lines 837–866).

- `detectRegressions_filterSuccess`, `analysis_ignores_failed_records`: failed records change
  neither the statistics nor the regression and improvement lists.
- `regression_missed_against_written_baseline`: a document the writer produced, used as the
  baseline, hides a regression of 90 %: the detector looks the implementation up at the top
  level, where the writer put only section names.
- `written_baseline_matches_nothing`: against every written document, a current map whose
  implementation ids are not section names is matched nowhere.
- `detect_regressions_matches_reference`: against a baseline that maps implementation ids to
  lists of records, the detector returns the lists of `regressionReference`, a record-by-record
  reading of the detection rule, and reports each current record at most once.
-/

namespace LambdustBench

/-! ## The baseline document -/

/-- One item of a list in the baseline document, as the matching loop reads it. -/
inductive BaselineItem where
  /-- A JSON object: `get('test_name')` and `get('category')` when they are strings,
  `get('parameters')` when it is an object of scalars (`none`: absent, or any other value, which
  never equals a dict of scalars), and `get('ops_per_second', 0)` when it is a number or a
  boolean (`none`: a value on which `> 0` raises `TypeError`). -/
  | record (testName category : Option String) (parameters : Option (Combination Value))
      (opsPerSecond : Option ℚ)
  /-- Any other JSON value: `.get` raises `AttributeError`. -/
  | other
  deriving DecidableEq, Repr

/-- A top-level value of a baseline object, as `for baseline_result in baseline_impl` sees it. -/
inductive BaselineValue where
  | array (items : List BaselineItem)
  /-- A JSON object or string: iteration yields its `n` keys or characters, all strings. -/
  | strings (n : Nat)
  /-- A number, boolean or null: not iterable. -/
  | scalar
  deriving DecidableEq, Repr

/-- The items `for baseline_result in baseline_impl` visits. -/
def BaselineValue.iterate : BaselineValue → Except PyError (List BaselineItem)
  | .array items => .ok items
  | .strings n => .ok (List.replicate n .other)
  | .scalar => .error .typeError

/-- The `json.load`ed baseline. -/
inductive Baseline where
  /-- A JSON object: its top-level entries. -/
  | object (entries : PyDict String BaselineValue)
  /-- Any other JSON value: `impl_id in baseline_results` tests membership (an array) or a
  substring (a string), or raises `TypeError` (a number, boolean or null); indexing it with a
  string raises `TypeError`. -/
  | other (contains : String → Except PyError Bool)

/-! ## Detection -/

/-- A regression (`degradation_percent`) or improvement (`improvement_percent`) record. -/
structure Change where
  implementation : String
  test : String
  category : String
  percent : ℚ
  currentPerformance : ℚ
  baselinePerformance : ℚ
  deriving DecidableEq, Repr

/-- The dict `detect_regressions` returns from its `try` block (lines 531–535). -/
structure RegressionResults where
  regressions : List Change
  improvements : List Change
  baselineFile : String
  deriving DecidableEq, Repr

/-- The search for `baseline_test` (lines 499–506): the `ops_per_second` reading of the first
item with the record's test name, category and parameters. -/
def findBaseline (r : ExecutionResult) : List BaselineItem → Except PyError (Option (Option ℚ))
  | [] => .ok none
  | .other :: _ => .error .attributeError
  | .record testName category parameters ops :: rest =>
    if testName = some r.testName ∧ category = some r.category ∧
        parameters.any (·.eqBy Value.pyEq r.parameters) then .ok (some ops)
    else findBaseline r rest

/-- One record of the loop of lines 496–529 against `baseline_impl`; `acc` holds the
regressions and the improvements so far. -/
def checkRecord (implId : String) (baselineImpl : BaselineValue) (acc : List Change × List Change)
    (r : ExecutionResult) : Except PyError (List Change × List Change) :=
  if !r.success then pure acc else do
  let items ← baselineImpl.iterate
  match ← findBaseline r items with
  | none => pure acc
  | some none => throw .typeError
  | some (some baselinePerf) =>
    let currentPerf := r.opsPerSecond
    if baselinePerf > 0 then
      let changePercent := (currentPerf - baselinePerf) / baselinePerf * 100
      if changePercent < -5 then
        pure (acc.1 ++ [⟨implId, r.testName, r.category, |changePercent|, currentPerf,
          baselinePerf⟩], acc.2)
      else if changePercent > 5 then
        pure (acc.1, acc.2 ++ [⟨implId, r.testName, r.category, changePercent, currentPerf,
          baselinePerf⟩])
      else pure acc
    else pure acc

/-- One implementation of the loop of lines 489–529. -/
def checkImplementation (baseline : Baseline) (acc : List Change × List Change)
    (entry : String × List ExecutionResult) : Except PyError (List Change × List Change) :=
  match baseline with
  | .object entries =>
    match entries.get? entry.1 with
    | none => pure acc
    | some baselineImpl => entry.2.foldlM (checkRecord entry.1 baselineImpl) acc
  | .other contains => do
    if ← contains entry.1 then throw .typeError else pure acc

/-- `detect_regressions` (lines 481–540) for the `--regression-baseline` argument and the result
of loading that file; `none` is the `{}` returned without the argument or on any exception. -/
def detectRegressions (regressionBaseline : Option String) (baseline : Except PyError Baseline)
    (results : NativeResults) : Option RegressionResults :=
  match regressionBaseline with
  | none => none
  | some file =>
    if file = "" then none else
    match baseline >>= fun b => results.items.foldlM (checkImplementation b) ([], []) with
    | .ok (regressions, improvements) => some ⟨regressions, improvements, file⟩
    | .error _ => none

/-! ## Failed records -/

theorem foldlM_checkRecord_filter (implId : String) (v : BaselineValue) (rs : List ExecutionResult)
    (acc : List Change × List Change) :
    (rs.filter ExecutionResult.success).foldlM (checkRecord implId v) acc =
      rs.foldlM (checkRecord implId v) acc := by
  induction rs generalizing acc with
  | nil => rfl
  | cons r rs ih =>
    by_cases hs : r.success
    · simp [List.filter_cons, hs, ih]
    · simp [List.filter_cons, hs, ih, checkRecord]

theorem checkImplementation_filter (b : Baseline) (acc : List Change × List Change)
    (entry : String × List ExecutionResult) :
    checkImplementation b acc (entry.1, entry.2.filter ExecutionResult.success) =
      checkImplementation b acc entry := by
  cases b <;> simp [checkImplementation, foldlM_checkRecord_filter]

/-- The detector skips failed records before it touches the baseline. -/
theorem detectRegressions_filterSuccess (regressionBaseline : Option String)
    (baseline : Except PyError Baseline) (results : NativeResults) :
    detectRegressions regressionBaseline baseline (filterSuccess results) =
      detectRegressions regressionBaseline baseline results := by
  simp only [detectRegressions, filterSuccess, PyDict.mapValues_items, List.foldlM_map,
    checkImplementation_filter]

/-- **The analysis ignores failed records**: for every results map, the statistical analysis
and, for every baseline, the regression detection are those of its successful records. -/
theorem analysis_ignores_failed_records (results : NativeResults) :
    performStatisticalAnalysis results = performStatisticalAnalysis (filterSuccess results) ∧
      ∀ regressionBaseline baseline,
        detectRegressions regressionBaseline baseline results =
          detectRegressions regressionBaseline baseline (filterSuccess results) :=
  ⟨(performStatisticalAnalysis_filterSuccess results).symm,
    fun regressionBaseline baseline =>
      (detectRegressions_filterSuccess regressionBaseline baseline results).symm⟩

/-! ## The specification's detector -/

/-- A record of a baseline map: the keys the match reads (`none` when absent or not a string,
and `parameters` when absent or not an object of scalars), and a numeric `ops_per_second`
(`0` when absent). -/
structure BaselineRecord where
  testName : Option String
  category : Option String
  parameters : Option (Combination Value)
  opsPerSecond : ℚ
  deriving DecidableEq, Repr

/-- The record as the detector reads it from the loaded file. -/
def BaselineRecord.toItem (b : BaselineRecord) : BaselineItem :=
  .record b.testName b.category b.parameters (some b.opsPerSecond)

/-- A baseline map, implementation id to its records, as `json.load` returns it. -/
def baselineOfMap (baseline : PyDict String (List BaselineRecord)) : Baseline :=
  .object (baseline.mapValues fun _ rs => .array (rs.map BaselineRecord.toItem))

/-- Equal `test_name`, `category` and `parameters`. -/
def BaselineRecord.matches (r : ExecutionResult) (b : BaselineRecord) : Bool :=
  b.testName == some r.testName && b.category == some r.category &&
    b.parameters.any (·.eqBy Value.pyEq r.parameters)

/-- The verdict on a current record of `implId` against that implementation's baseline
records: steps (2)–(4) after the lookup. -/
def verdictIn (records : List BaselineRecord) (implId : String) (r : ExecutionResult) :
    Option (Change ⊕ Change) :=
  match records.find? (BaselineRecord.matches r) with
  | none => none
  | some b =>
    if b.opsPerSecond ≤ 0 then none else
    let c := 100 * (r.opsPerSecond - b.opsPerSecond) / b.opsPerSecond
    if c < -5 then some (.inl ⟨implId, r.testName, r.category, -c, r.opsPerSecond, b.opsPerSecond⟩)
    else if c > 5 then
      some (.inr ⟨implId, r.testName, r.category, c, r.opsPerSecond, b.opsPerSecond⟩)
    else none

/-- The verdict on one current record: skipped (`none`), a regression (`.inl`) or an
improvement (`.inr`). -/
def verdict (baseline : PyDict String (List BaselineRecord)) (implId : String)
    (r : ExecutionResult) : Option (Change ⊕ Change) :=
  if !r.success then none else
  match baseline.get? implId with
  | none => none
  | some records => verdictIn records implId r

/-- The verdicts, walking the implementations in map order and their records in list order. -/
def verdicts (baseline : PyDict String (List BaselineRecord)) (results : NativeResults) :
    List (Change ⊕ Change) :=
  results.items.flatMap fun e => e.2.filterMap (verdict baseline e.1)

/-- The regressions and the improvements of the reference. -/
def regressionReference (baseline : PyDict String (List BaselineRecord))
    (results : NativeResults) : List Change × List Change :=
  ((verdicts baseline results).filterMap Sum.getLeft?,
    (verdicts baseline results).filterMap Sum.getRight?)

/-- A verdict's record appended to its list. -/
def addVerdict (acc : List Change × List Change) : Option (Change ⊕ Change) → List Change × List Change
  | none => acc
  | some (.inl c) => (acc.1 ++ [c], acc.2)
  | some (.inr c) => (acc.1, acc.2 ++ [c])

/-- The search for `baseline_test` is `find?` of the match. -/
theorem findBaseline_map_toItem (r : ExecutionResult) (rs : List BaselineRecord) :
    findBaseline r (rs.map BaselineRecord.toItem) =
      .ok ((rs.find? (BaselineRecord.matches r)).map fun b => some b.opsPerSecond) := by
  induction rs with
  | nil => rfl
  | cons b rs ih =>
    by_cases hb : BaselineRecord.matches r b = true <;>
      simp_all [findBaseline, BaselineRecord.toItem, BaselineRecord.matches]

/-- One current record against a baseline list: its verdict appended. -/
theorem checkRecord_array (implId : String) (records : List BaselineRecord)
    (acc : List Change × List Change) (r : ExecutionResult) :
    checkRecord implId (.array (records.map BaselineRecord.toItem)) acc r =
      .ok (addVerdict acc (if !r.success then none else verdictIn records implId r)) := by
  unfold checkRecord
  by_cases hs : r.success = true
  swap
  · simp [hs, addVerdict, pure, Except.pure]
  simp only [hs, Bool.not_true, Bool.false_eq_true, if_false, BaselineValue.iterate,
    findBaseline_map_toItem, bind, Except.bind, verdictIn]
  cases records.find? (BaselineRecord.matches r) with
  | none => rfl
  | some b =>
    have hc : (r.opsPerSecond - b.opsPerSecond) / b.opsPerSecond * 100 =
        100 * (r.opsPerSecond - b.opsPerSecond) / b.opsPerSecond := by ring
    simp only [Option.map_some', hc]
    by_cases hpos : b.opsPerSecond ≤ 0
    · simp [hpos, addVerdict, pure, Except.pure]
    · simp only [gt_iff_lt, not_le.1 hpos, if_true, hpos, if_false]
      split_ifs with h₁ h₂
      · simp [addVerdict, pure, Except.pure, abs_of_neg (h₁.trans (by norm_num))]
      all_goals simp [addVerdict, pure, Except.pure]

/-- The records of one implementation against its baseline list. -/
theorem foldlM_checkRecord_array (implId : String) (records : List BaselineRecord)
    (rs : List ExecutionResult) (acc : List Change × List Change) :
    rs.foldlM (checkRecord implId (.array (records.map BaselineRecord.toItem))) acc =
      .ok (acc.1 ++ (rs.filterMap fun r => if !r.success then none else
              verdictIn records implId r).filterMap Sum.getLeft?,
        acc.2 ++ (rs.filterMap fun r => if !r.success then none else
              verdictIn records implId r).filterMap Sum.getRight?) := by
  induction rs generalizing acc with
  | nil => simp [pure, Except.pure]
  | cons r rs ih =>
    rw [List.foldlM_cons, checkRecord_array]
    simp only [bind, Except.bind, ih, List.filterMap_cons]
    generalize (if !r.success then none else verdictIn records implId r) = v
    rcases v with _ | c | c <;> simp [addVerdict]

/-- One implementation against a baseline map. -/
theorem checkImplementation_baselineOfMap (baseline : PyDict String (List BaselineRecord))
    (acc : List Change × List Change) (implId : String) (rs : List ExecutionResult) :
    checkImplementation (baselineOfMap baseline) acc (implId, rs) =
      .ok (acc.1 ++ (rs.filterMap (verdict baseline implId)).filterMap Sum.getLeft?,
        acc.2 ++ (rs.filterMap (verdict baseline implId)).filterMap Sum.getRight?) := by
  cases hb : baseline.get? implId with
  | none =>
    have hv : rs.filterMap (verdict baseline implId) = [] :=
      List.filterMap_eq_nil_iff.2 fun r _ => by simp [verdict, hb]
    simp [checkImplementation, baselineOfMap, hb, hv, pure, Except.pure]
  | some records =>
    have hv : rs.filterMap (verdict baseline implId) =
        rs.filterMap fun r => if !r.success then none else verdictIn records implId r :=
      List.filterMap_congr fun r _ => by simp [verdict, hb]
    simp [checkImplementation, baselineOfMap, hb, hv, foldlM_checkRecord_array]

/-- The loop over the implementations against a baseline map. -/
theorem foldlM_checkImplementation_baselineOfMap (baseline : PyDict String (List BaselineRecord))
    (items : List (String × List ExecutionResult)) (acc : List Change × List Change) :
    items.foldlM (checkImplementation (baselineOfMap baseline)) acc =
      .ok (acc.1 ++ (items.flatMap fun e => e.2.filterMap (verdict baseline e.1)).filterMap
          Sum.getLeft?,
        acc.2 ++ (items.flatMap fun e => e.2.filterMap (verdict baseline e.1)).filterMap
          Sum.getRight?) := by
  induction items generalizing acc with
  | nil => simp [pure, Except.pure]
  | cons e items ih =>
    rw [List.foldlM_cons, checkImplementation_baselineOfMap]
    simp only [bind, Except.bind, ih, List.flatMap_cons, List.filterMap_append, List.append_assoc]

/-- A list of verdicts splits into its two kinds. -/
theorem length_getLeft_add_getRight {α β : Type} (vs : List (α ⊕ β)) :
    (vs.filterMap Sum.getLeft?).length + (vs.filterMap Sum.getRight?).length = vs.length := by
  induction vs with
  | nil => rfl
  | cons v vs ih => cases v <;> simp [ih] <;> omega

/-- At most one verdict per current record. -/
theorem length_verdicts_le (baseline : PyDict String (List BaselineRecord)) (results : NativeResults) :
    (verdicts baseline results).length ≤ (results.items.flatMap Prod.snd).length := by
  unfold verdicts
  induction results.items with
  | nil => simp
  | cons e items ih =>
    simp only [List.flatMap_cons, List.length_append]
    exact Nat.add_le_add (List.length_filterMap_le _ _) ih

/-- **`detect_regressions` is the reference**: for every current results map and every
baseline map, loaded from a named file, the detector returns exactly the regressions and the
improvements of the specification's walk; every current record gives at most one entry. -/
theorem detect_regressions_matches_reference (file : String) (hfile : file ≠ "")
    (baseline : PyDict String (List BaselineRecord)) (results : NativeResults) :
    detectRegressions (some file) (.ok (baselineOfMap baseline)) results =
        some ⟨(regressionReference baseline results).1, (regressionReference baseline results).2,
          file⟩ ∧
      (regressionReference baseline results).1.length +
          (regressionReference baseline results).2.length ≤
        (results.items.flatMap Prod.snd).length := by
  constructor
  · simp [detectRegressions, hfile, bind, Except.bind, foldlM_checkImplementation_baselineOfMap,
      regressionReference, verdicts]
  · rw [regressionReference, length_getLeft_add_getRight]
    exact length_verdicts_le baseline results

/-- A ten percent slowdown against a baseline of one record. -/
theorem reference_at_a_ten_percent_slowdown :
    let baseline : PyDict String (List BaselineRecord) :=
      .ofList [("chez", [⟨some "fib", some "recursion", some ∅, 100⟩])]
    let results : NativeResults :=
      ⟨[("chez", [⟨"chez", "fib", "recursion", ∅, .succeeded (1 / 90) 90 [1 / 90] 1⟩])], by decide⟩
    detectRegressions (some "baseline.json") (.ok (baselineOfMap baseline)) results =
        some ⟨(regressionReference baseline results).1, (regressionReference baseline results).2,
          "baseline.json"⟩ ∧
      (regressionReference baseline results).1.length +
          (regressionReference baseline results).2.length ≤
        (results.items.flatMap Prod.snd).length :=
  detect_regressions_matches_reference "baseline.json" (by decide) _ _

/-! ## The written document as a baseline -/

/-- The sections of `all_results` that `run` fills (lines 838–866), `none` when absent. -/
structure AllResults where
  nativeResults : Option NativeResults
  /-- `docker_results`: a non-empty JSON value read from a file, as the detector iterates it. -/
  dockerResults : Option BaselineValue
  statisticalAnalysis : Option StatisticalResults
  regressionAnalysis : Option RegressionResults

/-- The keys `run` gives `all_results`. -/
def sectionNames : List String :=
  ["native_results", "docker_results", "statistical_analysis", "regression_analysis"]

/-- The file `json.dump(all_results, f, indent=2)` writes (lines 557–559), loaded back as a
baseline: the sections present, in insertion order. Each section is a JSON object, so
iterating it yields its keys: one per implementation, the four keys of `statistical_results`,
the three of the regression dict. -/
def AllResults.toBaseline (doc : AllResults) : Baseline :=
  .object (.ofList <|
    (doc.nativeResults.map fun r => ("native_results", .strings r.items.length)).toList ++
    (doc.dockerResults.map ("docker_results", ·)).toList ++
    (doc.statisticalAnalysis.map fun _ => ("statistical_analysis", .strings 4)).toList ++
    (doc.regressionAnalysis.map fun _ => ("regression_analysis", .strings 3)).toList)

/-- Only section names are top-level keys of a written document. -/
theorem toBaseline_get?_eq_none (doc : AllResults) (i : String) (hi : i ∉ sectionNames) :
    ∃ entries, doc.toBaseline = .object entries ∧ entries.get? i = none := by
  refine ⟨_, rfl, PyDict.get?_ofList_eq_none _ _ ?_⟩
  simp only [sectionNames, List.mem_cons, List.not_mem_nil, or_false, not_or] at hi
  obtain ⟨h₁, h₂, h₃, h₄⟩ := hi
  cases doc.nativeResults <;> cases doc.dockerResults <;> cases doc.statisticalAnalysis <;>
    cases doc.regressionAnalysis <;>
    simp [h₁, h₂, h₃, h₄, Ne.symm h₁, Ne.symm h₂, Ne.symm h₃, Ne.symm h₄]

theorem foldlM_checkImplementation_unmatched (entries : PyDict String BaselineValue)
    (l : List (String × List ExecutionResult)) (acc : List Change × List Change)
    (h : ∀ e ∈ l, entries.get? e.1 = none) :
    l.foldlM (checkImplementation (.object entries)) acc = .ok acc := by
  induction l with
  | nil => rfl
  | cons e l ih =>
    simp only [List.mem_cons, forall_eq_or_imp] at h
    simp [checkImplementation, h.1, ih h.2]

/-- **A written document matches nothing**: against every document `run` can write, the
detector finds no baseline for a current map whose implementation ids are not section names,
whatever its records, and reports neither a regression nor an improvement. -/
theorem written_baseline_matches_nothing (doc : AllResults) (file : String)
    (results : NativeResults) (hfile : file ≠ "") (hids : ∀ i ∈ results.keys, i ∉ sectionNames) :
    detectRegressions (some file) (.ok doc.toBaseline) results = some ⟨[], [], file⟩ := by
  have hentries : ∃ entries, doc.toBaseline = .object entries ∧
      ∀ e ∈ results.items, entries.get? e.1 = none :=
    ⟨_, rfl, fun e he => by
      obtain ⟨entries, h, hnone⟩ := toBaseline_get?_eq_none doc e.1
        (hids e.1 (List.mem_map_of_mem Prod.fst he))
      cases h
      exact hnone⟩
  obtain ⟨entries, h, hnone⟩ := hentries
  simp [detectRegressions, hfile, h, bind, Except.bind,
    foldlM_checkImplementation_unmatched entries _ _ hnone]

/-- A native-only document with one `chez` run as the baseline. -/
theorem written_baseline_matches_nothing_for_chez :
    detectRegressions (some "base.json")
      (.ok (AllResults.toBaseline ⟨some ⟨[("chez", [⟨"chez", "fib", "recursion", ∅,
        .succeeded (1 / 100) 100 [1 / 100] 1⟩])], by decide⟩, none, none, none⟩))
      ⟨[("chez", [⟨"chez", "fib", "recursion", ∅, .succeeded (1 / 10) 10 [1 / 10] 1⟩])], by decide⟩ =
      some ⟨[], [], "base.json"⟩ :=
  written_baseline_matches_nothing _ _ _ (by decide) (by decide)

/-- The earlier run wrote `chez` at 100 ops/s; the current one runs the same test, category
and parameters at 10 ops/s, 90 % slower. No regression is reported. -/
theorem regression_missed_against_written_baseline :
    let earlier : ExecutionResult :=
      ⟨"chez", "fib", "recursion", ∅, .succeeded (1 / 100) 100 [1 / 100] 1⟩
    let current : ExecutionResult :=
      ⟨"chez", "fib", "recursion", ∅, .succeeded (1 / 10) 10 [1 / 10] 1⟩
    let doc : AllResults := ⟨some ⟨[("chez", [earlier])], by decide⟩, none, none, none⟩
    current.opsPerSecond < earlier.opsPerSecond * (95 / 100) ∧
      detectRegressions (some "base.json") (.ok doc.toBaseline)
        ⟨[("chez", [current])], by decide⟩ = some ⟨[], [], "base.json"⟩ :=
  ⟨by norm_num [ExecutionResult.opsPerSecond], rfl⟩

end LambdustBench
