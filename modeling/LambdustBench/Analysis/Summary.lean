import LambdustBench.Analysis.Ranking
import Mathlib.Algebra.Order.Field.Basic

/-!
# The overall summary (`generate_overall_summary`)

`BenchmarkProcessor.generate_overall_summary` (scripts/process_results.py:218–265) walks the
rankings test by test. It collects each implementation's ranks in `impl_scores` and counts its
rank-1 entries in `impl_wins`. Each implementation is then summarised by its average and median
rank, its wins, its number of tests and its win percentage, and `overall_rankings` lists the
implementations by average rank.

Both tallies are counts over the flat list of ranking entries (`entries`): the fold over the
tests is a fold of `scoreStep` over that list.

- `get?_individualStats`: the spec lemma. An implementation has a summary exactly when it
  appears in some ranking, and the summary is built from its ranks in test order and its
  rank-1 entries.
- `overall_summary_laws`: over the rankings of every statistics map, `total_tests` and
  `total_wins` count the ranked tests an implementation appears in and wins. The wins add up
  to the number of ranked tests, average ranks lie between `1` and the largest number of
  implementations of a test, win percentages lie between `0` and `100`, and `overall_rankings`
  is sorted by average rank.
-/

namespace LambdustBench

/-- Every ranking entry of every test, in the order the loop of lines 225–232 visits them. -/
def entries (rankings : PyDict String (List Ranking)) : List Ranking :=
  rankings.items.flatMap Prod.snd

/-! ## The tallies -/

theorem scoreStep_scores (acc : PyDict String (List Nat) × PyDict String Nat) (r : Ranking)
    (i : String) : (scoreStep acc r).1.get? i =
      if r.implementation = i then some ((acc.1.get? i).getD [] ++ [r.rank]) else acc.1.get? i := by
  simp only [scoreStep, PyDict.get?_set]
  by_cases hi : r.implementation = i <;> simp [hi]

theorem scoreStep_wins (acc : PyDict String (List Nat) × PyDict String Nat) (r : Ranking)
    (i : String) : ((scoreStep acc r).2.get? i).getD 0 =
      (acc.2.get? i).getD 0 + if r.implementation = i ∧ r.rank = 1 then 1 else 0 := by
  unfold scoreStep
  by_cases h1 : r.rank = 1 <;> by_cases hi : r.implementation = i <;> simp [h1, hi]

/-- The ranks collected for `i`: appended in order, the key created by the first. -/
theorem foldl_scoreStep_scores (l : List Ranking)
    (acc : PyDict String (List Nat) × PyDict String Nat) (i : String) :
    (l.foldl scoreStep acc).1.get? i =
      if l.any (·.implementation = i) then
        some ((acc.1.get? i).getD [] ++ (l.filter (·.implementation = i)).map (·.rank))
      else acc.1.get? i := by
  induction l generalizing acc with
  | nil => simp
  | cons r l ih =>
    rw [List.foldl_cons, ih, scoreStep_scores]
    by_cases hi : r.implementation = i
    · by_cases hl : l.any (·.implementation = i)
      · simp [hi, hl]
      · have hnil : l.filter (·.implementation = i) = [] := by
          simpa [List.filter_eq_nil_iff] using hl
        simp [hi, hl, hnil]
    · simp [hi]

/-- The wins counted for `i`: its rank-1 entries. -/
theorem foldl_scoreStep_wins (l : List Ranking)
    (acc : PyDict String (List Nat) × PyDict String Nat) (i : String) :
    ((l.foldl scoreStep acc).2.get? i).getD 0 =
      (acc.2.get? i).getD 0 + l.countP fun r => r.implementation = i ∧ r.rank = 1 := by
  induction l generalizing acc with
  | nil => simp
  | cons r l ih =>
    rw [List.foldl_cons, ih, scoreStep_wins, List.countP_cons]
    simp only [decide_eq_true_eq]
    omega

/-- The loop over the tests is the loop over their entries. -/
theorem foldl_tests_scoreStep (l : List (String × List Ranking))
    (acc : PyDict String (List Nat) × PyDict String Nat) :
    l.foldl (fun acc test => test.2.foldl scoreStep acc) acc =
      (l.flatMap Prod.snd).foldl scoreStep acc := by
  induction l generalizing acc with
  | nil => rfl
  | cons test l ih => rw [List.foldl_cons, ih, List.flatMap_cons, List.foldl_append]

/-- **Spec of `generate_overall_summary`**: an implementation has a summary exactly when it
appears in some ranking; the summary is built from its ranks in test order and its count of
rank-1 entries. -/
theorem get?_individualStats (rankings : PyDict String (List Ranking)) (i : String) :
    (generateOverallSummary rankings).individualStats.get? i =
      let scores := ((entries rankings).filter (·.implementation = i)).map (·.rank)
      let wins := (entries rankings).countP fun r => r.implementation = i ∧ r.rank = 1
      if (entries rankings).any (·.implementation = i) then
        some ⟨Statistics.mean (scores.map (↑)), Statistics.median (scores.map (↑)), wins,
          scores.length, (wins : ℚ) / scores.length * 100⟩
      else none := by
  simp only [generateOverallSummary, PyDict.get?_filterMapValues, foldl_tests_scoreStep,
    foldl_scoreStep_scores, foldl_scoreStep_wins, PyDict.get?_empty, entries]
  by_cases h : (rankings.items.flatMap Prod.snd).any (·.implementation = i)
  · have hne : (rankings.items.flatMap Prod.snd).filter (·.implementation = i) ≠ [] := by
      obtain ⟨x, hx, hxi⟩ := List.any_eq_true.1 h
      exact List.ne_nil_of_mem (List.mem_filter.2 ⟨hx, hxi⟩)
    simp [h, hne]
  · simp [h]


theorem mem_keys_individualStats (rankings : PyDict String (List Ranking)) (i : String) :
    i ∈ (generateOverallSummary rankings).individualStats.keys ↔
      (entries rankings).any (·.implementation = i) := by
  rw [← (PyDict.get?_eq_none_iff _ _).not_left, get?_individualStats]
  split <;> simp_all

/-- What a summary entry holds: the number of ranks, the wins, the mean rank and the
percentage of wins. -/
theorem individualStats_of_get? {rankings : PyDict String (List Ranking)} {i : String}
    {s : ImplSummary} (h : (generateOverallSummary rankings).individualStats.get? i = some s) :
    (entries rankings).any (·.implementation = i) ∧
      s.totalTests = ((entries rankings).filter (·.implementation = i)).length ∧
      s.totalWins = (entries rankings).countP (fun r => r.implementation = i ∧ r.rank = 1) ∧
      s.averageRank = Statistics.mean
        ((((entries rankings).filter (·.implementation = i)).map (·.rank)).map (↑)) ∧
      s.winPercentage = (s.totalWins : ℚ) / s.totalTests * 100 := by
  rw [get?_individualStats] at h
  split_ifs at h with hany
  cases h
  simp [hany]

/-! ## Counting over the tests -/

/-- What `generate_overall_summary` relies on in each test's rankings: at least one entry,
distinct implementations, and the ranks `1, …, m` in order. -/
def WellRanked (rankings : PyDict String (List Ranking)) : Prop :=
  ∀ t ∈ rankings.items, t.2 ≠ [] ∧ (t.2.map (·.implementation)).Nodup ∧
    t.2.map (·.rank) = (List.range t.2.length).map (· + 1)

/-- In a list of distinct implementations, a property that names one implementation holds of
at most one entry. -/
theorem length_filter_eq_ite (l : List Ranking) (hl : (l.map (·.implementation)).Nodup)
    (p : Ranking → Bool) (hp : ∀ r r', p r → p r' → r.implementation = r'.implementation) :
    (l.filter p).length = if l.any p then 1 else 0 := by
  induction l with
  | nil => simp
  | cons a l ih =>
    rw [List.map_cons, List.nodup_cons] at hl
    by_cases ha : p a
    · have hnil : l.filter p = [] := List.filter_eq_nil_iff.2 fun r hr hpr =>
        hl.1 (hp a r ha hpr ▸ List.mem_map_of_mem _ hr)
      simp [List.filter_cons, ha, hnil]
    · simp [List.filter_cons, ha, ih hl.2]

/-- Entries with such a property, counted over all tests, count the tests that have one. -/
theorem length_filter_flatMap (l : List (String × List Ranking))
    (hl : ∀ t ∈ l, (t.2.map (·.implementation)).Nodup) (p : Ranking → Bool)
    (hp : ∀ r r', p r → p r' → r.implementation = r'.implementation) :
    ((l.flatMap Prod.snd).filter p).length = (l.filter fun t => t.2.any p).length := by
  induction l with
  | nil => rfl
  | cons t l ih =>
    rw [List.flatMap_cons, List.filter_append, List.length_append,
      length_filter_eq_ite t.2 (hl t (List.mem_cons_self _ _)) p hp,
      ih fun t ht => hl t (List.mem_cons_of_mem _ ht), List.filter_cons]
    by_cases h : t.2.any p <;> simp [h, Nat.add_comm]

/-- A test ranked `1, …, m` with `m ≥ 1` has exactly one rank-1 entry. -/
theorem countP_rank_one (l : List Ranking) (hne : l ≠ [])
    (hrank : l.map (·.rank) = (List.range l.length).map (· + 1)) :
    l.countP (fun r => r.rank = 1) = 1 := by
  have hcount : l.countP (fun r => r.rank = 1) = (l.map (·.rank)).count 1 := by
    rw [List.count, List.countP_map]
    exact List.countP_congr fun x _ => by simp
  rw [hcount, hrank]
  refine List.count_eq_one_of_mem ((List.nodup_range _).map (add_left_injective 1)) ?_
  simpa using List.length_pos.2 hne

theorem countP_rank_one_flatMap (l : List (String × List Ranking))
    (hl : ∀ t ∈ l, t.2 ≠ [] ∧ t.2.map (·.rank) = (List.range t.2.length).map (· + 1)) :
    (l.flatMap Prod.snd).countP (fun r => r.rank = 1) = l.length := by
  induction l with
  | nil => rfl
  | cons t l ih =>
    have ht := hl t (List.mem_cons_self _ _)
    rw [List.flatMap_cons, List.countP_append, countP_rank_one t.2 ht.1 ht.2,
      ih fun t ht => hl t (List.mem_cons_of_mem _ ht), List.length_cons, Nat.add_comm]

/-- Summing each implementation's rank-1 entries over a list of distinct implementations that
holds every entry's implementation counts every rank-1 entry once. -/
theorem sum_countP_keys (K : List String) (hK : K.Nodup) (E : List Ranking)
    (hE : ∀ r ∈ E, r.implementation ∈ K) :
    (K.map fun i => E.countP fun r => r.implementation = i ∧ r.rank = 1).sum =
      E.countP fun r => r.rank = 1 := by
  induction E with
  | nil => simp
  | cons r E ih =>
    simp only [List.countP_cons, List.sum_map_add]
    rw [ih fun r' h => hE r' (List.mem_cons_of_mem _ h)]
    congr 1
    rw [List.sum_map_eq_nsmul_single r.implementation _ fun i hi _ => by simp [Ne.symm hi],
      List.count_eq_one_of_mem hK (hE r (List.mem_cons_self _ _))]
    simp

/-- Every rank of a well-ranked map is at least `1` and at most the size of its test. -/
theorem rank_bounds {rankings : PyDict String (List Ranking)} (h : WellRanked rankings)
    {r : Ranking} (hr : r ∈ entries rankings) :
    1 ≤ r.rank ∧
      ∀ M : Nat, (∀ t ∈ rankings.items, t.2.length ≤ M) → r.rank ≤ M := by
  obtain ⟨t, ht, hrt⟩ := List.mem_flatMap.1 hr
  have hmem : r.rank ∈ (List.range t.2.length).map (· + 1) :=
    (h t ht).2.2 ▸ List.mem_map_of_mem _ hrt
  obtain ⟨k, hk, hrk⟩ := List.mem_map.1 hmem
  rw [List.mem_range] at hk
  exact ⟨by omega, fun M hM => by have := hM t ht; omega⟩

/-- A lower bound of non-empty data bounds its mean. -/
theorem le_mean_of_forall_le (xs : List ℚ) (h : xs ≠ []) (a : ℚ)
    (ha : ∀ x ∈ xs, a ≤ x) : a ≤ Statistics.mean xs :=
  (ha _ (min?_getD_least xs h).1).trans (mean_between xs h).1

/-- An upper bound of non-empty data bounds its mean. -/
theorem mean_le_of_forall_le (xs : List ℚ) (h : xs ≠ []) (b : ℚ)
    (hb : ∀ x ∈ xs, x ≤ b) : Statistics.mean xs ≤ b :=
  (mean_between xs h).2.trans (hb _ (max?_getD_greatest xs h).1)

/-! ## The laws of the summary -/

/-- **The wins add up to the number of ranked tests**: each ranked test has one rank-1 entry,
and each entry counts for its own implementation only. -/
theorem sum_totalWins {rankings : PyDict String (List Ranking)} (h : WellRanked rankings) :
    ((generateOverallSummary rankings).individualStats.items.map (·.2.totalWins)).sum =
      rankings.items.length := by
  have hwins : (generateOverallSummary rankings).individualStats.items.map (·.2.totalWins) =
      ((generateOverallSummary rankings).individualStats.items.map Prod.fst).map fun i =>
        (entries rankings).countP fun r => r.implementation = i ∧ r.rank = 1 := by
    rw [List.map_map]
    exact List.map_congr_left fun e he =>
      (individualStats_of_get? (PyDict.get?_of_mem _ he)).2.2.1
  rw [hwins, sum_countP_keys _ (generateOverallSummary rankings).individualStats.nodup _
    fun r hr => (mem_keys_individualStats _ _).2 (List.any_eq_true.2 ⟨r, hr, by simp⟩)]
  exact countP_rank_one_flatMap _ fun t ht => ⟨(h t ht).1, (h t ht).2.2⟩

/-- An average rank lies between `1` and the number of implementations of the largest test. -/
theorem averageRank_bounds {rankings : PyDict String (List Ranking)} (h : WellRanked rankings)
    {i : String} {s : ImplSummary}
    (hs : (generateOverallSummary rankings).individualStats.get? i = some s) :
    1 ≤ s.averageRank ∧
      ∀ M : Nat, (∀ t ∈ rankings.items, t.2.length ≤ M) → s.averageRank ≤ M := by
  obtain ⟨hany, -, -, havg, -⟩ := individualStats_of_get? hs
  obtain ⟨r₀, hr₀, hi₀⟩ := List.any_eq_true.1 hany
  rw [havg, List.map_map, Function.comp_def]
  have hne : ((entries rankings).filter (·.implementation = i)).map (fun r => (r.rank : ℚ)) ≠
      [] := List.ne_nil_of_mem (List.mem_map_of_mem _ (List.mem_filter.2 ⟨hr₀, hi₀⟩))
  refine ⟨le_mean_of_forall_le _ hne 1 fun x hx => ?_,
      fun M hM => mean_le_of_forall_le _ hne M fun x hx => ?_⟩ <;>
    obtain ⟨r, hr, rfl⟩ := List.mem_map.1 hx
  · exact_mod_cast (rank_bounds h (List.mem_of_mem_filter hr)).1
  · exact_mod_cast (rank_bounds h (List.mem_of_mem_filter hr)).2 M hM

/-- A win percentage lies between `0` and `100`: the wins are among the tests. -/
theorem winPercentage_bounds {rankings : PyDict String (List Ranking)} {i : String}
    {s : ImplSummary} (hs : (generateOverallSummary rankings).individualStats.get? i = some s) :
    0 ≤ s.winPercentage ∧ s.winPercentage ≤ 100 := by
  obtain ⟨hany, htests, hwins, -, hpct⟩ := individualStats_of_get? hs
  obtain ⟨r₀, hr₀, hi₀⟩ := List.any_eq_true.1 hany
  have hpos : 0 < s.totalTests :=
    htests ▸ List.length_pos.2 (List.ne_nil_of_mem (List.mem_filter.2 ⟨hr₀, hi₀⟩))
  have hle : s.totalWins ≤ s.totalTests := by
    rw [htests, hwins, ← List.countP_eq_length_filter]
    exact List.countP_mono_left fun r _ hr => by simp_all
  have hfrac : (s.totalWins : ℚ) / s.totalTests ≤ 1 :=
    (div_le_one (by exact_mod_cast hpos)).2 (by exact_mod_cast hle)
  rw [hpct]
  exact ⟨by positivity, mul_le_of_le_one_left (by norm_num) hfrac⟩

theorem overallRankings_sorted (rankings : PyDict String (List Ranking)) :
    ((generateOverallSummary rankings).overallRankings.map (·.2.1)).Sorted (· ≤ ·) := by
  simp only [generateOverallSummary, List.map_map]
  exact sorted_insertionSort_key (fun e : String × ImplSummary => e.2.averageRank) _

/-- The laws of the summary `S` of the rankings: (1) each implementation's `total_tests` is
the number of ranked tests it appears in, and its `total_wins` the number of those where it has
rank 1; (2) the wins add up to the number of ranked tests; (3) average ranks lie between `1`
and the largest number of implementations of a test, and win percentages between `0` and
`100`; (4) `overall_rankings` is sorted by average rank. -/
structure SummaryLaws (rankings : PyDict String (List Ranking)) (S : OverallSummary) : Prop where
  appears : ∀ t ∈ rankings.items, ∀ r ∈ t.2, r.implementation ∈ S.individualStats.keys
  total_tests : ∀ i s, S.individualStats.get? i = some s →
    s.totalTests = (rankings.items.filter fun t => t.2.any (·.implementation = i)).length
  total_wins : ∀ i s, S.individualStats.get? i = some s →
    s.totalWins =
      (rankings.items.filter fun t => t.2.any fun r => r.implementation = i ∧ r.rank = 1).length
  sum_wins : (S.individualStats.items.map (·.2.totalWins)).sum = rankings.items.length
  average_rank : ∀ e ∈ S.individualStats.items, 1 ≤ e.2.averageRank ∧
    ∀ M : Nat, (∀ t ∈ rankings.items, t.2.length ≤ M) → e.2.averageRank ≤ M
  win_percentage : ∀ e ∈ S.individualStats.items, 0 ≤ e.2.winPercentage ∧
    e.2.winPercentage ≤ 100
  sorted : (S.overallRankings.map (·.2.1)).Sorted (· ≤ ·)

/-- **The laws of `generate_overall_summary`** on every well-ranked map. -/
theorem summaryLaws_of_wellRanked (rankings : PyDict String (List Ranking))
    (h : WellRanked rankings) : SummaryLaws rankings (generateOverallSummary rankings) := by
  have hnodup : ∀ t ∈ rankings.items, (t.2.map (·.implementation)).Nodup := fun t ht =>
    (h t ht).2.1
  refine ⟨fun t ht r hr => ?appears, fun i s hs => ?total_tests, fun i s hs => ?total_wins,
    sum_totalWins h, fun e he => averageRank_bounds h (PyDict.get?_of_mem _ he),
    fun e he => winPercentage_bounds (PyDict.get?_of_mem _ he), overallRankings_sorted rankings⟩
  case appears =>
    rw [mem_keys_individualStats]
    exact List.any_eq_true.2 ⟨r, List.mem_flatMap.2 ⟨t, ht, hr⟩, by simp⟩
  case total_tests =>
    rw [(individualStats_of_get? hs).2.1]
    exact length_filter_flatMap _ hnodup _ fun r r' hr hr' => by simp_all
  case total_wins =>
    rw [(individualStats_of_get? hs).2.2.1, List.countP_eq_length_filter]
    exact length_filter_flatMap _ hnodup _ fun r r' hr hr' => by simp_all

/-- The rankings of `generate_comparisons` are well ranked. -/
theorem wellRanked_generateComparisons (c : String)
    (stats : PyDict String (PyDict String ImplStats)) :
    WellRanked (generateComparisons c stats).rankings := by
  intro t ht
  obtain ⟨ts, b, -, hne, hrs⟩ := rankings_entry c stats t.1 t.2 (PyDict.get?_of_mem _ ht)
  have hlaws := rankedLaws_rankByTime b ts
  rw [← hrs] at hlaws
  have himpl := hlaws.entries_perm.map Prod.fst
  simp only [List.map_map, Function.comp_def] at himpl
  refine ⟨fun h => hne ?_, himpl.nodup_iff.2 (by simpa [PyDict.keys] using ts.nodup),
    hlaws.ranks_eq⟩
  simpa [h] using himpl.length_eq.symm

/-- **The overall summary of `generate_comparisons`**: for every statistics map and configured
baseline, the summary of its rankings obeys the laws: each implementation's `total_tests` and
`total_wins` count the ranked tests it appears in and the ones where it has rank 1, the wins
add up to the number of ranked tests, average ranks lie between `1` and the largest number of
implementations of a ranked test, win percentages between `0` and `100`, and
`overall_rankings` is sorted by average rank. -/
theorem overall_summary_laws (c : String) (stats : PyDict String (PyDict String ImplStats)) :
    SummaryLaws (generateComparisons c stats).rankings (generateComparisons c stats).summary :=
  summaryLaws_of_wellRanked _ (wellRanked_generateComparisons c stats)

end LambdustBench
