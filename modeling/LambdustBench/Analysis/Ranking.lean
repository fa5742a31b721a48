import LambdustBench.Analysis.Descriptive
import Mathlib.Order.WithBot

/-!
# Comparisons and rankings (`generate_comparisons`)

`BenchmarkProcessor.generate_comparisons` (scripts/process_results.py:163–216) reads the map
`test → implementation → stats` that `generate_statistics` builds. For each test it picks a
baseline implementation, gives every implementation its `relative_performance` (its mean
duration over the baseline's) and its speedup, ranks the implementations by mean duration, and
hands the rankings to `generate_overall_summary` (lines 218–265), which collects each
implementation's ranks and wins across the tests.

The baseline is the configured `comparisons.baseline` (`'chez'` by default). A test without
stats for the current `baseline_impl` makes the loop reassign it to that test's first
implementation (lines 175–177), and the reassignment stays for every later test.

- `relative_performance_depends_on_earlier_tests`: after a test without the configured
  baseline, a later test that has it is measured against another implementation, so its
  relative performance differs from the one computed for that test alone.
- `relative_performance_against_configured`: when every test has stats for the configured
  baseline, every relative performance is taken against it.
- `rankings_laws`: every ranked test lists its implementations in non-decreasing mean, ranked
  `1, …, m` in order, rank 1 a least mean and ties in map order (`RankedLaws`); every test with
  stats and no implementation named `''` is ranked.
- `empty_name_test_left_unranked`: line 179 tests `not baseline_impl`, so a test whose
  fallback baseline is the implementation named `''` is skipped and none of its
  implementations is ranked.
-/

namespace LambdustBench

/-! ## One test -/

/-- `relative_performance` (line 191): `impl_time / baseline_time`, or `float('inf')` (`⊤`)
when the baseline time is not positive. -/
def relativePerformance (baselineTime implTime : ℚ) : WithTop ℚ :=
  if baselineTime > 0 then ((implTime / baselineTime : ℚ) : WithTop ℚ) else ⊤

/-- `impl_stats.get('memory_mean_kb', 0)`. -/
def ImplStats.memoryMeanKb (s : ImplStats) : ℚ := (s.memory.map (·.1)).getD 0

/-- An implementation's entry of `test_comparisons` (lines 192–197). -/
structure TestComparison where
  relativePerformance : WithTop ℚ
  speedupFactor : ℚ
  absoluteTime : ℚ
  memoryUsageKb : ℚ
  deriving DecidableEq

/-- `test_comparisons[impl_name]` against a baseline of mean `baselineTime`. -/
def testComparison (baselineTime : ℚ) (s : ImplStats) : TestComparison :=
  ⟨relativePerformance baselineTime s.durationMean,
    if s.durationMean > 0 then baselineTime / s.durationMean else 0, s.durationMean,
    s.memoryMeanKb⟩

/-- A ranking entry (lines 199–203); `rank` is set after the sort. -/
structure Ranking where
  implementation : String
  time : ℚ
  relativePerformance : WithTop ℚ
  rank : Nat
  deriving DecidableEq

/-- `rankings.sort(key=lambda x: x['time'])`, a stable sort, then `ranking['rank'] = i + 1`
(lines 206–208). -/
def rankByTime (rankings : List Ranking) : List Ranking :=
  (rankings.insertionSort fun a b => a.time ≤ b.time).mapIdx fun i r => { r with rank := i + 1 }

/-- The rankings of one test against a baseline of mean `baselineTime`, before ranking. -/
def unrankedOf (baselineTime : ℚ) (testStats : PyDict String ImplStats) : List Ranking :=
  testStats.items.map fun e =>
    ⟨e.1, e.2.durationMean, relativePerformance baselineTime e.2.durationMean, 0⟩

/-! ## The loop over the tests -/

/-- The state of the loop of lines 174–211: `baseline_impl` and the two maps it fills. -/
structure ComparisonState where
  baselineImpl : Option String
  relativePerformance : PyDict String (PyDict String TestComparison)
  rankings : PyDict String (List Ranking)

/-- Lines 175–177: `baseline_impl` stays while the test has stats for it; otherwise it becomes
the test's first implementation, or `None` for a test without stats. -/
def reassignBaseline (baselineImpl : Option String) (testStats : PyDict String ImplStats) :
    Option String :=
  match baselineImpl with
  | some b => if b ∈ testStats.keys then some b else testStats.keys.head?
  | none => testStats.keys.head?

/-- One test of the loop (lines 174–211); the `continue` of lines 179–180 skips a baseline that
is `None` or the empty string. -/
def comparisonStep (st : ComparisonState) (test : String × PyDict String ImplStats) :
    ComparisonState :=
  let baselineImpl := reassignBaseline st.baselineImpl test.2
  let skip := { st with baselineImpl }
  match baselineImpl with
  | none => skip
  | some b =>
    if b = "" then skip else
    match test.2.get? b with
    | none => skip
    | some baselineStats =>
      let baselineTime := baselineStats.durationMean
      { baselineImpl
        relativePerformance := st.relativePerformance.set test.1
          (test.2.mapValues fun _ s => testComparison baselineTime s)
        rankings := st.rankings.set test.1 (rankByTime (unrankedOf baselineTime test.2)) }

/-! ## `generate_overall_summary` -/

/-- An implementation's entry of `individual_stats` (lines 241–247). -/
structure ImplSummary where
  averageRank : ℚ
  medianRank : ℚ
  totalWins : Nat
  totalTests : Nat
  winPercentage : ℚ
  deriving DecidableEq, Repr

/-- What `generate_overall_summary` returns: `individual_stats`, and `overall_rankings` as
`(implementation, average_rank, win_percentage)`. -/
structure OverallSummary where
  individualStats : PyDict String ImplSummary
  overallRankings : List (String × ℚ × ℚ)
  deriving DecidableEq, Repr

/-- One ranking entry of the loop of lines 225–232: `impl_scores[impl].append(rank)`, and a win
when `rank == 1`. -/
def scoreStep (acc : PyDict String (List Nat) × PyDict String Nat) (r : Ranking) :
    PyDict String (List Nat) × PyDict String Nat :=
  (acc.1.set r.implementation ((acc.1.get? r.implementation).getD [] ++ [r.rank]),
    if r.rank = 1 then acc.2.set r.implementation ((acc.2.get? r.implementation).getD 0 + 1)
    else acc.2)

/-- `generate_overall_summary` (lines 218–265). -/
def generateOverallSummary (rankings : PyDict String (List Ranking)) : OverallSummary :=
  let acc := rankings.items.foldl (fun acc test => test.2.foldl scoreStep acc) (∅, ∅)
  let summary : PyDict String ImplSummary := acc.1.filterMapValues fun impl scores =>
    if scores.isEmpty then none else
    let ranks : List ℚ := scores.map (↑)
    let wins := (acc.2.get? impl).getD 0
    some ⟨Statistics.mean ranks, Statistics.median ranks, wins, scores.length,
      (wins : ℚ) / scores.length * 100⟩
  ⟨summary, (summary.items.insertionSort fun a b => a.2.averageRank ≤ b.2.averageRank).map
    fun e => (e.1, e.2.averageRank, e.2.winPercentage)⟩

/-! ## `generate_comparisons` -/

/-- What `generate_comparisons` returns. -/
structure Comparisons where
  relativePerformance : PyDict String (PyDict String TestComparison)
  rankings : PyDict String (List Ranking)
  summary : OverallSummary

/-- `generate_comparisons` (lines 163–216) for the configured `comparisons.baseline`. -/
def generateComparisons (baseline : String) (stats : PyDict String (PyDict String ImplStats)) :
    Comparisons :=
  let st := stats.items.foldl comparisonStep ⟨some baseline, ∅, ∅⟩
  ⟨st.relativePerformance, st.rankings, generateOverallSummary st.rankings⟩

/-! ## The baseline across tests -/

/-- `d[t'] = v` read back at `[t][i]`. -/
theorem lookup2_set {β : Type} (d : PyDict String (PyDict String β)) (t' t i : String)
    (v : PyDict String β) :
    lookup2 (d.set t' v) t i = if t' = t then v.get? i else lookup2 d t i := by
  by_cases h : t' = t <;> simp [lookup2, h]

/-- A test with stats for the current baseline keeps it and is measured against it. -/
theorem comparisonStep_of_mem (b : String) (hb : b ≠ "") (st : ComparisonState)
    (hst : st.baselineImpl = some b) (test : String × PyDict String ImplStats) (sb : ImplStats)
    (hget : test.2.get? b = some sb) :
    comparisonStep st test =
      ⟨some b, st.relativePerformance.set test.1
          (test.2.mapValues fun _ s => testComparison sb.durationMean s),
        st.rankings.set test.1 (rankByTime (unrankedOf sb.durationMean test.2))⟩ := by
  have hmem : b ∈ test.2.keys := (PyDict.get?_eq_none_iff _ _).not_left.1 (by simp [hget])
  simp [comparisonStep, reassignBaseline, hst, hmem, hb, hget]

/-- **Against the configured baseline**: when every test has stats for the configured baseline
`c` (not the empty string), the loop never reassigns `baseline_impl`, and every relative
performance is taken against `c`: the entry of implementation `i` in test `t` is computed from
the mean durations of `c` and `i` in `t`. -/
theorem relative_performance_against_configured (c : String) (hc : c ≠ "")
    (stats : PyDict String (PyDict String ImplStats))
    (hall : ∀ test ∈ stats.items, c ∈ test.2.keys) (t i : String) :
    lookup2 (generateComparisons c stats).relativePerformance t i =
      (lookup2 stats t c).bind fun sc => (lookup2 stats t i).map (testComparison sc.durationMean) := by
  suffices ∀ (l : List (String × PyDict String ImplStats)) (st : ComparisonState),
      st.baselineImpl = some c → (l.map Prod.fst).Nodup →
      (∀ test ∈ l, c ∈ test.2.keys) → lookup2 (l.foldl comparisonStep st).relativePerformance t i =
        (PyDict.lookup l t).elim (lookup2 st.relativePerformance t i) fun ts =>
          (ts.get? c).bind fun sc => (ts.get? i).map (testComparison sc.durationMean) by
    rw [generateComparisons, this stats.items _ rfl stats.nodup hall]
    simp only [lookup2, PyDict.get?]
    cases PyDict.lookup stats.items t <;> rfl
  intro l
  induction l with
  | nil => intro st _ _ _; simp [PyDict.lookup]
  | cons test l ih =>
    intro st hst hnd hmem
    rw [List.map_cons, List.nodup_cons] at hnd
    obtain ⟨sc, hsc⟩ := Option.ne_none_iff_exists'.1
      ((PyDict.get?_eq_none_iff _ _).not_left.2 (hmem test (List.mem_cons_self _ _)))
    rw [List.foldl_cons, comparisonStep_of_mem c hc st hst test sc hsc,
      ih _ rfl hnd.2 fun x hx => hmem x (List.mem_cons_of_mem _ hx)]
    by_cases ht : test.1 = t
    · subst ht
      simp [PyDict.lookup, (PyDict.lookup_eq_none_iff l test.1).2 hnd.1, lookup2_set, hsc]
    · simp [PyDict.lookup, ht, lookup2_set]

/-- Two tests, both with stats for `chez`. -/
theorem configured_baseline_in_every_test :
    let chez : ImplStats := ⟨1, 1, 1, Radical.ofRat 0, 1, 1, none, none, none, none⟩
    let guile : ImplStats := ⟨1, 2, 2, Radical.ofRat 0, 2, 2, none, none, none, none⟩
    let stats : PyDict String (PyDict String ImplStats) :=
      .ofList [("t1", .ofList [("chez", chez)]), ("t2", .ofList [("chez", chez), ("guile", guile)])]
    lookup2 (generateComparisons "chez" stats).relativePerformance "t2" "guile" =
      (lookup2 stats "t2" "chez").bind fun sc =>
        (lookup2 stats "t2" "guile").map (testComparison sc.durationMean) := by
  intro chez guile stats
  exact relative_performance_against_configured "chez" (by decide) stats (by decide) "t2" "guile"

/-- A test `t1` with stats for `guile` only, then a test `t2` with `chez` at mean 1 and `guile`
at mean 2: in `t2`, `chez` is measured against `guile` (relative performance `1/2`), while
`t2` alone measures it against itself (`1`). -/
theorem relative_performance_depends_on_earlier_tests :
    let chez : ImplStats := ⟨1, 1, 1, Radical.ofRat 0, 1, 1, none, none, none, none⟩
    let guile : ImplStats := ⟨1, 2, 2, Radical.ofRat 0, 2, 2, none, none, none, none⟩
    let t2 : PyDict String ImplStats := .ofList [("chez", chez), ("guile", guile)]
    (lookup2 (generateComparisons "chez" (.ofList [("t1", .ofList [("guile", guile)]),
        ("t2", t2)])).relativePerformance "t2" "chez").map (·.relativePerformance) =
        some ((1 / 2 : ℚ) : WithTop ℚ) ∧
      (lookup2 (generateComparisons "chez" (.ofList [("t2", t2)])).relativePerformance
        "t2" "chez").map (·.relativePerformance) = some ((1 : ℚ) : WithTop ℚ) := by
  intro chez guile t2
  simp [generateComparisons, comparisonStep, reassignBaseline, lookup2, PyDict.ofList, PyDict.keys,
    testComparison, relativePerformance, chez, guile, t2, PyDict.setItems]


/-! ## The rankings of one test -/

section Sorting

variable {β : Type}

/-- Sorting by a rational key leaves the keys non-decreasing. -/
theorem sorted_insertionSort_key (f : β → ℚ) (l : List β) :
    ((l.insertionSort fun a b => f a ≤ f b).map f).Sorted (· ≤ ·) := by
  haveI : IsTotal β fun a b => f a ≤ f b := ⟨fun a b => le_total _ _⟩
  haveI : IsTrans β fun a b => f a ≤ f b := ⟨fun _ _ _ => le_trans⟩
  exact List.pairwise_map.2 (List.sorted_insertionSort _ l)

/-- Insertion sort is stable: a subsequence whose elements the order relates both ways comes
out as it went in. -/
theorem filter_insertionSort (r : β → β → Prop) [DecidableRel r] (p : β → Bool)
    (l : List β) (h : ∀ a ∈ l, ∀ b ∈ l, p a → p b → r a b) :
    (l.insertionSort r).filter p = l.filter p := by
  have hpw : (l.filter p).Pairwise r := List.pairwise_of_forall_mem_list fun a ha b hb =>
    h a (List.mem_of_mem_filter ha) b (List.mem_of_mem_filter hb) (List.of_mem_filter ha)
      (List.of_mem_filter hb)
  have hsub : (l.filter p).Sublist ((l.insertionSort r).filter p) := by
    simpa using (List.sublist_insertionSort hpw (List.filter_sublist l)).filter p
  exact (hsub.eq_of_length ((List.perm_insertionSort r l).filter p).length_eq.symm).symm

end Sorting

/-- The laws of the rankings `rs` of a test with statistics `ts`: they list its
implementations with their mean durations, in non-decreasing mean, ranked `1, …, m` in order;
rank `1` has a least mean; and implementations of equal mean keep their order in the map. -/
structure RankedLaws (ts : PyDict String ImplStats) (rs : List Ranking) : Prop where
  entries_perm : (rs.map fun r => (r.implementation, r.time)).Perm
    (ts.items.map fun e => (e.1, e.2.durationMean))
  time_sorted : (rs.map (·.time)).Sorted (· ≤ ·)
  ranks_eq : rs.map (·.rank) = (List.range rs.length).map (· + 1)
  first_least : ∀ r ∈ rs, r.rank = 1 → ∀ e ∈ ts.items, r.time ≤ e.2.durationMean
  ties_in_map_order : ∀ q : ℚ, (rs.filter fun r => r.time = q).map (·.implementation) =
    (ts.items.filter fun e => e.2.durationMean = q).map (·.1)

theorem map_rankByTime_entry (l : List Ranking) :
    (rankByTime l).map (fun r => (r.implementation, r.time)) =
      (l.map fun r => (r.implementation, r.time)).insertionSort fun a b => a.2 ≤ b.2 := by
  rw [← List.map_insertionSort (fun a b : Ranking => a.time ≤ b.time)
    (fun a b : String × ℚ => a.2 ≤ b.2) (fun r => (r.implementation, r.time)) l
    fun _ _ _ _ => Iff.rfl, rankByTime, List.mapIdx_eq_enum_map, List.map_map]
  conv_rhs => rw [← List.enum_map_snd (l.insertionSort _), List.map_map]
  rfl

theorem map_rankByTime_rank (l : List Ranking) :
    (rankByTime l).map (·.rank) = (List.range (rankByTime l).length).map (· + 1) := by
  rw [rankByTime, List.mapIdx_eq_enum_map, List.map_map, List.length_map, List.enum_length,
    ← List.enum_map_fst, List.map_map]
  rfl

/-- In a list sorted by time and ranked `1, …, m` in order, rank `1` has the least time. -/
theorem time_le_of_rank_one {rs : List Ranking} (hsort : (rs.map (·.time)).Sorted (· ≤ ·))
    (hrank : rs.map (·.rank) = (List.range rs.length).map (· + 1)) {r r' : Ranking}
    (hr : r ∈ rs) (h1 : r.rank = 1) (hr' : r' ∈ rs) : r.time ≤ r'.time := by
  obtain ⟨i, hi, rfl⟩ := List.getElem_of_mem hr
  obtain ⟨j, hj, rfl⟩ := List.getElem_of_mem hr'
  have hi0 : i = 0 := by
    have := congrArg (·[i]?) hrank
    simp [hi, h1] at this
    omega
  subst hi0
  simpa using hsort.rel_get_of_le (a := ⟨0, by simpa using hi⟩)
    (b := ⟨j, by simpa using hj⟩) (Nat.zero_le j)

/-- **The rankings of one test** obey the laws, whatever the baseline time. -/
theorem rankedLaws_rankByTime (b : ℚ) (ts : PyDict String ImplStats) :
    RankedLaws ts (rankByTime (unrankedOf b ts)) := by
  set P := ts.items.map fun e => (e.1, e.2.durationMean)
  have hentry : (rankByTime (unrankedOf b ts)).map (fun r => (r.implementation, r.time)) =
      P.insertionSort fun a b => a.2 ≤ b.2 := by
    rw [map_rankByTime_entry]
    simp [unrankedOf, P, Function.comp_def]
  have hsorted : ((rankByTime (unrankedOf b ts)).map (·.time)).Sorted (· ≤ ·) := by
    have := congrArg (List.map Prod.snd) hentry
    simp only [List.map_map, Function.comp_def] at this
    exact this ▸ sorted_insertionSort_key Prod.snd P
  have hrank := map_rankByTime_rank (unrankedOf b ts)
  refine ⟨hentry ▸ List.perm_insertionSort _ _, hsorted, hrank, fun r hr h1 e he => ?_,
    fun q => ?_⟩
  · have hmem : (e.1, e.2.durationMean) ∈ (rankByTime (unrankedOf b ts)).map
        (fun r => (r.implementation, r.time)) :=
      hentry ▸ (List.perm_insertionSort _ P).mem_iff.2 (List.mem_map_of_mem _ he)
    obtain ⟨r', hr', heq⟩ := List.mem_map.1 hmem
    exact (time_le_of_rank_one hsorted hrank hr h1 hr').trans_eq (congrArg Prod.snd heq)
  · calc ((rankByTime (unrankedOf b ts)).filter fun r => r.time = q).map (·.implementation)
        = (((rankByTime (unrankedOf b ts)).map fun r => (r.implementation, r.time)).filter
            fun x => x.2 = q).map Prod.fst := by
          simp [List.filter_map, Function.comp_def]
      _ = ((P.insertionSort fun a b => a.2 ≤ b.2).filter fun x => x.2 = q).map Prod.fst := by
          rw [hentry]
      _ = (P.filter fun x => x.2 = q).map Prod.fst := by
          rw [filter_insertionSort _ _ _ fun a _ b _ ha hb => by simp_all]
      _ = (ts.items.filter fun e => e.2.durationMean = q).map (·.1) := by
          simp [P, List.filter_map, Function.comp_def]

/-! ## Which tests are ranked -/

/-- A test with stats ends the reassignment with one of its implementations. -/
theorem reassignBaseline_mem (bl : Option String) (ts : PyDict String ImplStats)
    (h : ts.items ≠ []) : ∃ b ∈ ts.keys, reassignBaseline bl ts = some b := by
  obtain ⟨e, l, he⟩ := List.exists_cons_of_ne_nil h
  have hhead : ts.keys.head? = some e.1 := by simp [PyDict.keys, he]
  have hmem : e.1 ∈ ts.keys := by simp [PyDict.keys, he]
  cases bl with
  | none => exact ⟨e.1, hmem, by simp [reassignBaseline, hhead]⟩
  | some b =>
    by_cases hb : b ∈ ts.keys
    · exact ⟨b, hb, by simp [reassignBaseline, hb]⟩
    · exact ⟨e.1, hmem, by simp [reassignBaseline, hb, hhead]⟩

/-- What one test does to the rankings: nothing, or it ranks that test, which has stats,
against some baseline time. -/
theorem comparisonStep_rankings (st : ComparisonState) (test : String × PyDict String ImplStats) :
    (comparisonStep st test).rankings = st.rankings ∨ ∃ b, test.2.items ≠ [] ∧
      (comparisonStep st test).rankings =
        st.rankings.set test.1 (rankByTime (unrankedOf b test.2)) := by
  cases hre : reassignBaseline st.baselineImpl test.2 with
  | none => exact .inl (by simp [comparisonStep, hre])
  | some b =>
    by_cases hb : b = ""
    · exact .inl (by simp [comparisonStep, hre, hb])
    cases hget : test.2.get? b with
    | none => exact .inl (by simp [comparisonStep, hre, hb, hget])
    | some sb =>
      refine .inr ⟨sb.durationMean, fun h => ?_, by simp [comparisonStep, hre, hb, hget]⟩
      simp [PyDict.get?, h, PyDict.lookup] at hget

/-- A test with stats and no implementation named `''` is ranked. -/
theorem comparisonStep_rankings_of_ne (st : ComparisonState)
    (test : String × PyDict String ImplStats) (hne : test.2.items ≠ [])
    (hempty : "" ∉ test.2.keys) : ∃ b, (comparisonStep st test).rankings =
      st.rankings.set test.1 (rankByTime (unrankedOf b test.2)) := by
  obtain ⟨b, hb, hre⟩ := reassignBaseline_mem st.baselineImpl test.2 hne
  obtain ⟨sb, hsb⟩ := Option.ne_none_iff_exists'.1 ((PyDict.get?_eq_none_iff _ _).not_left.2 hb)
  have hb' : b ≠ "" := fun h => hempty (h ▸ hb)
  exact ⟨sb.durationMean, by simp [comparisonStep, hre, hb', hsb]⟩

/-- Every entry of the rankings after the loop was set by one of its tests. -/
theorem foldl_comparisonStep_rankings (l : List (String × PyDict String ImplStats))
    (st : ComparisonState) (t : String) (rs : List Ranking)
    (h : (l.foldl comparisonStep st).rankings.get? t = some rs) :
    st.rankings.get? t = some rs ∨
      ∃ ts b, (t, ts) ∈ l ∧ ts.items ≠ [] ∧ rs = rankByTime (unrankedOf b ts) := by
  induction l generalizing st with
  | nil => exact .inl h
  | cons test l ih =>
    rcases ih _ h with h' | ⟨ts, b, hmem, hne, rfl⟩
    · rcases comparisonStep_rankings st test with heq | ⟨b, hne, heq⟩
      · exact .inl (heq ▸ h')
      · rw [heq, PyDict.get?_set] at h'
        split_ifs at h' with ht
        · cases h'
          subst ht
          exact .inr ⟨test.2, b, List.mem_cons_self _ _, hne, rfl⟩
        · exact .inl h'
    · exact .inr ⟨ts, b, List.mem_cons_of_mem _ hmem, hne, rfl⟩

/-- Tests of other names leave an entry of the rankings alone. -/
theorem foldl_comparisonStep_get?_of_not_mem (l : List (String × PyDict String ImplStats))
    (st : ComparisonState) (t : String) (ht : t ∉ l.map Prod.fst) :
    (l.foldl comparisonStep st).rankings.get? t = st.rankings.get? t := by
  induction l generalizing st with
  | nil => rfl
  | cons test l ih =>
    simp only [List.map_cons, List.mem_cons, not_or] at ht
    rw [List.foldl_cons, ih _ ht.2]
    rcases comparisonStep_rankings st test with heq | ⟨b, -, heq⟩
    · rw [heq]
    · rw [heq, PyDict.get?_set, if_neg (Ne.symm ht.1)]

/-- Every entry of the rankings ranks a test with stats, against some baseline time. -/
theorem rankings_entry (c : String) (stats : PyDict String (PyDict String ImplStats))
    (t : String) (rs : List Ranking) (h : (generateComparisons c stats).rankings.get? t = some rs) :
    ∃ ts b, stats.get? t = some ts ∧ ts.items ≠ [] ∧ rs = rankByTime (unrankedOf b ts) := by
  rcases foldl_comparisonStep_rankings stats.items _ t rs h with h' | ⟨ts, b, hmem, hne, rfl⟩
  · simp at h'
  · exact ⟨ts, b, PyDict.get?_of_mem stats hmem, hne, rfl⟩

/-- **The rankings of `generate_comparisons`**: for every statistics map and configured
baseline, every ranked test's rankings obey the laws against its statistics, and every test
with stats and no implementation named `''` is ranked. -/
theorem rankings_laws (c : String) (stats : PyDict String (PyDict String ImplStats)) :
    (∀ t rs, (generateComparisons c stats).rankings.get? t = some rs →
      ∃ ts, stats.get? t = some ts ∧ RankedLaws ts rs) ∧
    ∀ t ts, stats.get? t = some ts → ts.items ≠ [] → "" ∉ ts.keys →
      ∃ rs, (generateComparisons c stats).rankings.get? t = some rs := by
  refine ⟨fun t rs h => ?_, fun t ts hts hne hempty => ?_⟩
  · obtain ⟨ts, b, hts, -, rfl⟩ := rankings_entry c stats t rs h
    exact ⟨ts, hts, rankedLaws_rankByTime b ts⟩
  · obtain ⟨pre, post, hsplit⟩ := List.append_of_mem (PyDict.lookup_mem hts)
    have hpost : t ∉ post.map Prod.fst := by
      have hnd := stats.nodup
      rw [hsplit, List.map_append, List.map_cons] at hnd
      exact (List.nodup_cons.1 (List.nodup_append.1 hnd).2.1).1
    obtain ⟨b, hb⟩ :=
      comparisonStep_rankings_of_ne (pre.foldl comparisonStep ⟨some c, ∅, ∅⟩) (t, ts) hne hempty
    refine ⟨rankByTime (unrankedOf b ts), ?_⟩
    simp only [generateComparisons]
    rw [hsplit, List.foldl_append, List.foldl_cons,
      foldl_comparisonStep_get?_of_not_mem post _ t hpost, hb, PyDict.get?_set, if_pos rfl]


/-- A test that lacks the configured baseline and whose first implementation is named `''`:
the fallback baseline `''` is falsy, so line 179 skips the test, and none of its
implementations is ranked. Named `'racket'`, the same implementation makes the test ranked. -/
theorem empty_name_test_left_unranked :
    let s₁ : ImplStats := ⟨1, 1, 1, Radical.ofRat 0, 1, 1, none, none, none, none⟩
    let s₂ : ImplStats := ⟨1, 2, 2, Radical.ofRat 0, 2, 2, none, none, none, none⟩
    (generateComparisons "chez"
        (.ofList [("fib", .ofList [("", s₁), ("guile", s₂)])])).rankings.get? "fib" = none ∧
      ((generateComparisons "chez"
          (.ofList [("fib", .ofList [("racket", s₁), ("guile", s₂)])])).rankings.get? "fib").map
        (·.map fun r => (r.implementation, r.rank)) = some [("racket", 1), ("guile", 2)] := by
  intro s₁ s₂
  exact ⟨by decide, by decide⟩

end LambdustBench
