import LambdustBench.Python.Runtime
import Mathlib.Algebra.BigOperators.Group.List
import Mathlib.Data.List.Sections
import Mathlib.Algebra.BigOperators.Ring.List

/-!
# The Parameter Expander (`generate_parameter_combinations`)

`BenchmarkRunner.generate_parameter_combinations` (run_comprehensive_benchmarks.py:182–212)
turns a test's parameter schema into the list of combinations the sweep runs. It keeps a list
`combinations`, starting from `[{}]`, and for each parameter replaces it by the list built from
its value entries: for each entry, for each existing combination, a copy extended by the entry's
value, when the entry's `type` is one of `Integer`, `Float`, `String`, `Boolean`.

The loops are modelled one definition each (`extendCombos`, `expandParameter`, `expandAll`),
in `Except PyError`: the dispatch reads `value_def['type']` and, for a supported type,
`value_def['value']`, and each read raises `KeyError` on an entry without the key.

- `expandAll_combosOf`: on a schema with distinct names whose entries all carry their keys,
  the loops compute `combosOf`: the sections of the parameters' supported value lists (one
  pick per parameter, the first parameter varying fastest), each zipped with the names.
- `generate_parameter_combinations_cross_product`: hence the result is, up to order, one
  combination per pick of supported entries, its length is the product of the numbers of
  supported entries, and it has no duplicates when no parameter repeats a supported value.
- `generate_parameter_combinations_order`: the order is fixed: one combination per index tuple of
  supported entries, the tuples increasing in the lexicographic order of their reversal, so the
  last parameter varies slowest; `first_parameter_varies_fastest` shows it on a 2 × 2 schema.
- `generate_parameter_combinations_first_malformed`: on every schema, the expansion returns the
  cross product of the supported values (what the schema without its malformed entries gives)
  unless the loops reach an entry without `type`, or a supported entry without `value`; there
  it raises `KeyError` and returns nothing (`malformed_entry_aborts_expansion`).
-/

namespace LambdustBench

variable {α : Type}

/-- One entry of a parameter's `values` list: its `type` tag and its `value`, each `none` when
the JSON object lacks the key. -/
structure ValueDef (α : Type) where
  type : Option String
  value : Option α
  deriving DecidableEq, Repr

/-- A parameter of a test's schema: its `name` and its `values` entries. -/
structure Parameter (α : Type) where
  name : String
  values : List (ValueDef α)
  deriving DecidableEq, Repr

/-- A parameter combination: a dict from parameter names to values. -/
abbrev Combination (α : Type) := PyDict String α

/-- The four type tags of lines 196–203. -/
def supportedTypes : List String := ["Integer", "Float", "String", "Boolean"]

namespace ValueDef

/-- The type dispatch of lines 196–205: `some v` for a supported entry, `none` for the
`continue` of an unsupported one. The four supported branches are the same
`value = value_def['value']`. -/
def extract (vd : ValueDef α) : Except PyError (Option α) :=
  match vd.type with
  | none => .error (.keyError "type")
  | some t =>
    if t ∈ supportedTypes then
      match vd.value with
      | some v => .ok (some v)
      | none => .error (.keyError "value")
    else .ok none

/-- The value a well-formed entry contributes, if its type is supported. -/
def supported (vd : ValueDef α) : Option α :=
  match vd.type with
  | some t => if t ∈ supportedTypes then vd.value else none
  | none => none

/-- An entry that carries a `type`, and a `value` when the type is supported: the dispatch
never raises on it. -/
def wellFormed (vd : ValueDef α) : Bool :=
  match vd.type with
  | some t => !decide (t ∈ supportedTypes) || vd.value.isSome
  | none => false

theorem extract_of_wellFormed {vd : ValueDef α} (h : vd.wellFormed) :
    vd.extract = .ok vd.supported := by
  obtain ⟨type, value⟩ := vd
  cases type with
  | none => simp [wellFormed] at h
  | some t =>
    by_cases ht : t ∈ supportedTypes
    · cases value <;> simp_all [wellFormed, extract, supported]
    · simp [extract, supported, ht]

end ValueDef

/-- The values a parameter contributes: its supported entries' values, in order. -/
def Parameter.supportedValues (p : Parameter α) : List α :=
  p.values.filterMap ValueDef.supported

/-- Every entry of every parameter is well formed. -/
def WellFormedSchema (ps : List (Parameter α)) : Prop :=
  ∀ p ∈ ps, ∀ vd ∈ p.values, vd.wellFormed

instance : DecidablePred (WellFormedSchema (α := α)) := fun ps =>
  inferInstanceAs (Decidable (∀ p ∈ ps, ∀ vd ∈ p.values, vd.wellFormed))

/-! ## The three loops -/

/-- The inner loop `for existing_combo in combinations:` for one `value_def`
(lines 192–208). -/
def extendCombos (name : String) (vd : ValueDef α) :
    List (Combination α) → Except PyError (List (Combination α))
  | [] => .ok []
  | c :: cs => do
    match ← vd.extract with
    | none => extendCombos name vd cs
    | some v => return c.set name v :: (← extendCombos name vd cs)

/-- The middle loop `for value_def in param['values']:` (lines 191–208), building
`new_combinations`. -/
def expandParameter (name : String) (combos : List (Combination α)) :
    List (ValueDef α) → Except PyError (List (Combination α))
  | [] => .ok []
  | vd :: vds => do
    let here ← extendCombos name vd combos
    let rest ← expandParameter name combos vds
    return here ++ rest

/-- The outer loop `for param in parameters:` (lines 189–210). -/
def expandAll : List (Parameter α) → List (Combination α) → Except PyError (List (Combination α))
  | [], combos => .ok combos
  | p :: ps, combos => do expandAll ps (← expandParameter p.name combos p.values)

/-- `generate_parameter_combinations` (lines 182–212). -/
def generateParameterCombinations (parameters : List (Parameter α)) :
    Except PyError (List (Combination α)) :=
  if parameters.isEmpty then .ok [∅] else expandAll parameters [∅]

/-! ## What the loops compute -/

/-- The cross product the loops build: one combination per section of the supported value
lists, `dict(zip(names, picks))`. -/
def combosOf (ps : List (Parameter α)) : List (Combination α) :=
  (List.sections (ps.map Parameter.supportedValues)).map fun vs =>
    PyDict.ofList ((ps.map Parameter.name).zip vs)

theorem extendCombos_of_wellFormed (name : String) {vd : ValueDef α} (h : vd.wellFormed)
    (cs : List (Combination α)) :
    extendCombos name vd cs = .ok (match vd.supported with
      | some v => cs.map (·.set name v)
      | none => []) := by
  induction cs with
  | nil => cases vd.supported <;> rfl
  | cons c cs ih =>
    cases hs : vd.supported <;>
      simp_all [extendCombos, ValueDef.extract_of_wellFormed h, bind, Except.bind, pure,
        Except.pure]

theorem expandParameter_of_wellFormed (name : String) (combos : List (Combination α))
    {vds : List (ValueDef α)} (h : ∀ vd ∈ vds, vd.wellFormed) :
    expandParameter name combos vds =
      .ok ((vds.filterMap ValueDef.supported).flatMap fun v => combos.map (·.set name v)) := by
  induction vds with
  | nil => rfl
  | cons vd vds ih =>
    simp only [List.mem_cons, forall_eq_or_imp] at h
    simp only [expandParameter, extendCombos_of_wellFormed name h.1, ih h.2, bind, Except.bind,
      pure, Except.pure, List.filterMap_cons]
    cases vd.supported <;> simp

/-- Sections of a list of lists extended at the end: the new last pick varies slowest. -/
theorem sections_append_singleton (L : List (List α)) (l : List α) :
    List.sections (L ++ [l]) = l.flatMap fun a => (List.sections L).map (· ++ [a]) := by
  induction L with
  | nil => simpa [List.sections] using List.map_eq_flatMap (fun a => [a]) l
  | cons m L ih =>
    show (List.sections (L ++ [l])).flatMap (fun s => m.map fun a => a :: s) = _
    rw [ih, List.flatMap_assoc]
    simp only [List.flatMap_map, List.sections, List.bind_eq_flatMap, List.map_flatMap,
      List.map_map]
    rfl

/-- One more parameter extends every combination by its pick. -/
theorem expandParameter_combosOf (P : List (Parameter α)) {p : Parameter α}
    (hwf : ∀ vd ∈ p.values, vd.wellFormed) :
    expandParameter p.name (combosOf P) p.values = .ok (combosOf (P ++ [p])) := by
  rw [expandParameter_of_wellFormed _ _ hwf]
  congr 1
  simp only [combosOf, List.map_append, List.map_cons, List.map_nil, sections_append_singleton,
    List.map_flatMap, List.map_map, List.flatMap_map]
  refine List.flatMap_congr fun v _ => List.map_congr_left fun vs hvs => ?_
  have hlen : (P.map Parameter.name).length = vs.length := by
    simpa using (List.mem_sections_length hvs).symm
  simp [PyDict.ofList, List.zip_append hlen]

/-- **The loops compute the cross product.** -/
theorem expandAll_combosOf (P rest : List (Parameter α)) (hwf : WellFormedSchema rest) :
    expandAll rest (combosOf P) = .ok (combosOf (P ++ rest)) := by
  induction rest generalizing P with
  | nil => simp [expandAll]
  | cons p rest ih =>
    have hwf' : WellFormedSchema rest := fun q hq => hwf q (List.mem_cons_of_mem _ hq)
    simp only [expandAll, expandParameter_combosOf P (hwf p (List.mem_cons_self _ _)), bind,
      Except.bind]
    simpa using ih (P ++ [p]) hwf'

theorem generateParameterCombinations_eq (ps : List (Parameter α)) (hwf : WellFormedSchema ps) :
    generateParameterCombinations ps = .ok (combosOf ps) := by
  cases ps with
  | nil => rfl
  | cons p ps => simpa [generateParameterCombinations] using expandAll_combosOf [] (p :: ps) hwf

/-- With distinct names, each combination's items are the names zipped with the picks. -/
theorem combosOf_items (ps : List (Parameter α)) (hnames : (ps.map Parameter.name).Nodup) :
    (combosOf ps).map PyDict.items =
      (List.sections (ps.map Parameter.supportedValues)).map fun vs => (ps.map Parameter.name).zip vs := by
  rw [combosOf, List.map_map]
  refine List.map_congr_left fun vs hvs => ?_
  have hlen : (ps.map Parameter.name).length ≤ vs.length := by
    simpa using (List.mem_sections_length hvs).ge
  exact PyDict.ofList_items (by rwa [List.map_fst_zip _ _ hlen])

/-! ## Counting the combinations -/

theorem length_sections (L : List (List α)) :
    (List.sections L).length = (L.map List.length).prod := by
  induction L with
  | nil => rfl
  | cons l L ih =>
    simp [List.sections, List.length_flatMap, Function.comp_def, List.map_const', ih, mul_comm]

theorem nodup_sections {L : List (List α)} (h : ∀ l ∈ L, l.Nodup) : (List.sections L).Nodup := by
  induction L with
  | nil => simp [List.sections]
  | cons l L ih =>
    simp only [List.mem_cons, forall_eq_or_imp] at h
    simp only [List.sections, List.bind_eq_flatMap]
    refine List.nodup_flatMap.2 ⟨fun s _ => h.1.map fun a b hab => by simpa using hab, ?_⟩
    refine (ih h.2).imp fun hne => ?_
    simp only [Function.onFun, List.disjoint_left, List.mem_map]
    rintro _ ⟨a, -, rfl⟩ ⟨b, -, hb⟩
    exact hne (List.cons.inj hb).2.symm

/-- Zipping the names with picks of the right length forgets nothing. -/
theorem zip_names_injOn (names : List String) (L : List (List α)) (hlen : L.length = names.length) :
    ∀ vs ∈ List.sections L, ∀ ws ∈ List.sections L, names.zip vs = names.zip ws → vs = ws := by
  intro vs hvs ws hws h
  have hv := (List.mem_sections_length hvs).trans hlen
  have hw := (List.mem_sections_length hws).trans hlen
  rw [← List.map_snd_zip names vs hv.le, ← List.map_snd_zip names ws hw.le, h]

/-- **The cross product**: on a schema with distinct parameter names whose entries carry
their keys, `generate_parameter_combinations` returns, up to order, exactly one combination
per pick of one supported entry for each parameter, mapping each name to the picked value.
So there are as many as the product of the numbers of supported entries (one for the empty
schema, none when a parameter has no supported entry), all distinct when no parameter repeats
a supported value. -/
theorem generate_parameter_combinations_cross_product (ps : List (Parameter α))
    (hnames : (ps.map Parameter.name).Nodup) (hwf : WellFormedSchema ps) :
    ∃ cs, generateParameterCombinations ps = .ok cs ∧
      (cs.map PyDict.items).Perm ((List.sections (ps.map Parameter.supportedValues)).map
        fun vs => (ps.map Parameter.name).zip vs) ∧
      cs.length = (ps.map fun p => p.supportedValues.length).prod ∧
      ((∀ p ∈ ps, p.supportedValues.Nodup) → cs.Nodup) := by
  refine ⟨combosOf ps, generateParameterCombinations_eq ps hwf, by rw [combosOf_items ps hnames],
    by simp [combosOf, length_sections, Function.comp_def], fun hnd => ?_⟩
  refine List.Nodup.of_map PyDict.items ?_
  rw [combosOf_items ps hnames]
  exact (nodup_sections (by simpa using hnd)).map_on (zip_names_injOn _ _ (by simp))

/-- The cross product at a two-parameter schema with an unsupported entry. -/
theorem cross_product_two_params :
    ∃ cs, generateParameterCombinations
      ([⟨"n", [⟨some "Integer", some 1⟩, ⟨some "Integer", some 2⟩]⟩,
        ⟨"m", [⟨some "Float", some 3⟩, ⟨some "Decimal", none⟩]⟩] : List (Parameter ℕ)) = .ok cs ∧
      cs.length = 2 := by
  obtain ⟨cs, h, -, hlen, -⟩ := generate_parameter_combinations_cross_product
    ([⟨"n", [⟨some "Integer", some 1⟩, ⟨some "Integer", some 2⟩]⟩,
      ⟨"m", [⟨some "Float", some 3⟩, ⟨some "Decimal", none⟩]⟩] : List (Parameter ℕ))
    (by decide) (by decide)
  exact ⟨cs, h, hlen.trans (by decide)⟩

/-- The first parameter varies fastest; unsupported entries contribute nothing. -/
example : (generateParameterCombinations
    [⟨"n", [⟨some "Integer", some 1⟩, ⟨some "Integer", some 2⟩]⟩,
     ⟨"m", [⟨some "Float", some 3⟩, ⟨some "Decimal", none⟩]⟩]).map (·.map PyDict.items) =
    .ok [[("n", 1), ("m", 3)], [("n", 2), ("m", 3)]] := rfl

/-! ## The order of the combinations -/

/-- The picks at the indices `js`, one per list: `L[0][j_1], L[1][j_2], …`. -/
def pickAt : List (List α) → List Nat → List α
  | l :: L, j :: js => (l[j]?).toList ++ pickAt L js
  | _, _ => []

/-- The index tuples `(j_1, …, j_k)` of the sections of lists of the given lengths, in the order
`List.sections` lists them. -/
def indexTuples (ns : List Nat) : List (List Nat) := List.sections (ns.map List.range)

theorem map_getElem?_range (l : List α) (s : List α) :
    (List.range l.length).map (fun j => (l[j]?).toList ++ s) = l.map (· :: s) := by
  apply List.ext_getElem (by simp)
  intro i h₁ h₂
  simp at h₁
  simp [h₁]

/-- Sections pick by index. -/
theorem sections_eq_map_pickAt (L : List (List α)) :
    List.sections L = (indexTuples (L.map List.length)).map (pickAt L) := by
  induction L with
  | nil => rfl
  | cons l L ih =>
    simp only [indexTuples, List.map_cons, List.sections, List.bind_eq_flatMap] at ih ⊢
    rw [ih, List.flatMap_map, List.map_flatMap]
    refine List.flatMap_congr fun js _ => ?_
    rw [List.map_map]
    exact (map_getElem?_range l _).symm

/-- A strict lexicographic step survives appending to two lists of equal length. -/
theorem lex_append_of_length_eq {r : α → α → Prop} {l₁ l₂ : List α} (h : List.Lex r l₁ l₂)
    (hlen : l₁.length = l₂.length) (a b : List α) : List.Lex r (l₁ ++ a) (l₂ ++ b) := by
  induction h with
  | nil => simp at hlen
  | cons _ ih => exact .cons (ih (by simpa using hlen))
  | rel h => exact .rel h

/-- The index tuples, read from the last index to the first, strictly increase. -/
theorem indexTuples_reverse_sorted (ns : List Nat) :
    ((indexTuples ns).map List.reverse).Pairwise (List.Lex (· < ·)) := by
  induction ns with
  | nil => simp [indexTuples, List.sections]
  | cons n ns ih =>
    simp only [indexTuples, List.map_cons, List.sections, List.bind_eq_flatMap, List.map_flatMap,
      List.map_map] at ih ⊢
    refine List.pairwise_flatMap.2 ⟨fun js _ => ?_, ?_⟩
    · refine List.pairwise_map.2 ((List.pairwise_lt_range n).imp fun hij => ?_)
      simpa using List.Lex.append_left _ (List.Lex.rel hij : List.Lex (· < ·) [_] [_]) js.reverse
    · have hlen : ∀ js ∈ List.sections (ns.map List.range), js.length = ns.length := fun js h =>
        by simpa using List.mem_sections_length h
      refine (List.pairwise_map.1 ih).imp_of_mem fun {js js'} hjs hjs' hlt => ?_
      intro x hx y hy
      obtain ⟨j, -, rfl⟩ := List.mem_map.1 hx
      obtain ⟨j', -, rfl⟩ := List.mem_map.1 hy
      simpa using lex_append_of_length_eq hlt (by simp [hlen _ hjs, hlen _ hjs']) [j] [j']

/-- **The order of the combinations**: on a schema whose entries carry their keys,
`generate_parameter_combinations` returns one combination per index tuple `(j_1, …, j_k)` of
supported entries, mapping the `l`-th name to the `j_l`-th supported value of the `l`-th
parameter, in the order of `indexTuples`; and these tuples strictly increase in the
lexicographic order of `(j_k, …, j_1)`. The last declared parameter varies slowest and the first
fastest. -/
theorem generate_parameter_combinations_order (ps : List (Parameter α))
    (hwf : WellFormedSchema ps) :
    generateParameterCombinations ps =
        .ok ((indexTuples (ps.map fun p => p.supportedValues.length)).map fun js =>
          PyDict.ofList ((ps.map Parameter.name).zip (pickAt (ps.map Parameter.supportedValues) js))) ∧
      ((indexTuples (ps.map fun p => p.supportedValues.length)).map List.reverse).Pairwise
        (List.Lex (· < ·)) := by
  refine ⟨?_, indexTuples_reverse_sorted _⟩
  rw [generateParameterCombinations_eq ps hwf, combosOf, sections_eq_map_pickAt, List.map_map,
    List.map_map]
  rfl

/-- The order at two parameters of two values each. -/
theorem combination_order_two_by_two :
    generateParameterCombinations
        ([⟨"n", [⟨some "Integer", some 1⟩, ⟨some "Integer", some 2⟩]⟩,
          ⟨"m", [⟨some "Integer", some 3⟩, ⟨some "Integer", some 4⟩]⟩] : List (Parameter ℕ)) =
        .ok ((indexTuples [2, 2]).map fun js =>
          PyDict.ofList (["n", "m"].zip (pickAt [[1, 2], [3, 4]] js))) ∧
      ((indexTuples [2, 2]).map List.reverse).Pairwise (List.Lex (· < ·)) :=
  generate_parameter_combinations_order _ (by decide)

/-- Two parameters of two values each: the combinations come as `(n, m)` index tuples
`(0, 0), (1, 0), (0, 1), (1, 1)`, so `(1, 0)` precedes `(0, 1)`: the first declared parameter
varies fastest, not slowest. -/
theorem first_parameter_varies_fastest :
    (generateParameterCombinations
        ([⟨"n", [⟨some "Integer", some 1⟩, ⟨some "Integer", some 2⟩]⟩,
          ⟨"m", [⟨some "Integer", some 3⟩, ⟨some "Integer", some 4⟩]⟩] : List (Parameter ℕ))).map
        (·.map PyDict.items) =
      .ok [[("n", 1), ("m", 3)], [("n", 2), ("m", 3)], [("n", 1), ("m", 4)], [("n", 2), ("m", 4)]] :=
  rfl


/-! ## Malformed entries -/

/-- The first entry without its keys that the loops read. They read every entry of a parameter
while the combination list is non-empty, and the list stays empty after a parameter without a
supported entry. -/
def firstMalformed : List (Parameter α) → Option (ValueDef α)
  | [] => none
  | p :: ps =>
    match p.values.find? fun vd => !vd.wellFormed with
    | some vd => some vd
    | none => if p.supportedValues.isEmpty then none else firstMalformed ps

/-- The parameter without the entries that contribute no value: those lacking a supported
`type` or a `value`. -/
def Parameter.keepSupported (p : Parameter α) : Parameter α :=
  ⟨p.name, p.values.filter fun vd => vd.supported.isSome⟩

/-- On an entry without its keys the dispatch raises `KeyError` for the key it reads first. -/
theorem ValueDef.extract_of_not_wellFormed {vd : ValueDef α} (h : vd.wellFormed = false) :
    vd.extract = .error (.keyError (if vd.type = none then "type" else "value")) := by
  obtain ⟨type, value⟩ := vd
  cases type with
  | none => rfl
  | some t => by_cases ht : t ∈ supportedTypes <;> cases value <;> simp_all [wellFormed, extract]

theorem ValueDef.wellFormed_of_isSome {vd : ValueDef α} (h : vd.supported.isSome) :
    vd.wellFormed := by
  obtain ⟨type, value⟩ := vd
  cases type with
  | none => simp [supported] at h
  | some t => by_cases ht : t ∈ supportedTypes <;> simp_all [supported, wellFormed]

theorem supportedValues_keepSupported (p : Parameter α) :
    p.keepSupported.supportedValues = p.supportedValues := by
  simp only [Parameter.keepSupported, Parameter.supportedValues]
  induction p.values with
  | nil => rfl
  | cons vd vds ih => cases h : vd.supported <;> simp [h, ih]

theorem combosOf_keepSupported (ps : List (Parameter α)) :
    combosOf (ps.map Parameter.keepSupported) = combosOf ps := by
  simp only [combosOf, List.map_map, Function.comp_def, supportedValues_keepSupported]
  rfl

theorem combosOf_eq_nil_iff (ps : List (Parameter α)) :
    combosOf ps = [] ↔ ∃ p ∈ ps, p.supportedValues = [] := by
  rw [← List.length_eq_zero, combosOf, List.length_map, length_sections, List.prod_eq_zero_iff]
  simp

theorem extendCombos_of_not_wellFormed (name : String) {vd : ValueDef α}
    (h : vd.wellFormed = false) (c : Combination α) (cs : List (Combination α)) :
    extendCombos name vd (c :: cs) =
      .error (.keyError (if vd.type = none then "type" else "value")) := by
  simp [extendCombos, ValueDef.extract_of_not_wellFormed h, bind, Except.bind]

/-- On an empty combination list the loops read no entry. -/
theorem expandParameter_no_combos (name : String) (vds : List (ValueDef α)) :
    expandParameter name [] vds = .ok [] := by
  induction vds with
  | nil => rfl
  | cons vd vds ih => simp [expandParameter, extendCombos, ih, bind, Except.bind, pure, Except.pure]

theorem expandAll_no_combos (ps : List (Parameter α)) : expandAll ps [] = .ok [] := by
  induction ps with
  | nil => rfl
  | cons p ps ih => simp [expandAll, expandParameter_no_combos, ih, bind, Except.bind]

/-- On a non-empty combination list a parameter raises at its first malformed entry. -/
theorem expandParameter_of_find? (name : String) (c : Combination α) (cs : List (Combination α))
    {vds : List (ValueDef α)} {vd : ValueDef α}
    (h : vds.find? (fun vd => !vd.wellFormed) = some vd) :
    expandParameter name (c :: cs) vds =
      .error (.keyError (if vd.type = none then "type" else "value")) := by
  induction vds with
  | nil => cases h
  | cons v vds ih =>
    cases hv : v.wellFormed
    · rw [List.find?_cons_of_pos _ (by simp [hv])] at h
      cases h
      simp [expandParameter, extendCombos_of_not_wellFormed name hv, bind, Except.bind]
    · rw [List.find?_cons_of_neg _ (by simp [hv])] at h
      simp [expandParameter, extendCombos_of_wellFormed name hv, ih h, bind, Except.bind]

/-- The loops from a non-empty combination list: the cross product, unless they reach a
malformed entry. -/
theorem expandAll_firstMalformed (P rest : List (Parameter α)) (hP : combosOf P ≠ []) :
    expandAll rest (combosOf P) = match firstMalformed rest with
      | none => .ok (combosOf (P ++ rest))
      | some vd => .error (.keyError (if vd.type = none then "type" else "value")) := by
  induction rest generalizing P with
  | nil => simp [expandAll, firstMalformed]
  | cons p rest ih =>
    cases hf : p.values.find? fun vd => !vd.wellFormed with
    | some vd =>
      obtain ⟨c, cs, hc⟩ := List.exists_cons_of_ne_nil hP
      simp [expandAll, firstMalformed, hf, hc, expandParameter_of_find? _ c cs hf, bind,
        Except.bind]
    | none =>
      have hwf : ∀ vd ∈ p.values, vd.wellFormed := by simpa using hf
      simp only [expandAll, expandParameter_combosOf P hwf, bind, Except.bind, firstMalformed, hf]
      by_cases he : p.supportedValues = []
      · have hnil : ∀ Q, combosOf (P ++ p :: Q) = [] := fun Q =>
          (combosOf_eq_nil_iff _).2 ⟨p, by simp, he⟩
        simp [he, hnil [], hnil rest, expandAll_no_combos]
      · have hne : combosOf (P ++ [p]) ≠ [] := by
          rw [Ne, combosOf_eq_nil_iff]
          rintro ⟨q, hq, hq'⟩
          rcases List.mem_append.1 hq with hq | hq
          · exact hP ((combosOf_eq_nil_iff P).2 ⟨q, hq, hq'⟩)
          · exact he (List.mem_singleton.1 hq ▸ hq')
        simpa [he] using ih (P ++ [p]) hne


/-- **The expansion on malformed entries**: for every schema, whatever keys its entries carry,
the schema without the entries that contribute no value expands to the cross product of the
supported values. The schema itself expands to the same list unless the loops reach an entry
without its keys: then it raises `KeyError` for the key the dispatch reads first (`'type'`, or
the `'value'` of a supported type), and no combination of any entry or parameter is returned. -/
theorem generate_parameter_combinations_first_malformed (ps : List (Parameter α)) :
    generateParameterCombinations (ps.map Parameter.keepSupported) = .ok (combosOf ps) ∧
      generateParameterCombinations ps = match firstMalformed ps with
        | none => .ok (combosOf ps)
        | some vd => .error (.keyError (if vd.type = none then "type" else "value")) := by
  refine ⟨?_, ?_⟩
  · have hwf : WellFormedSchema (ps.map Parameter.keepSupported) := by
      simp only [WellFormedSchema, List.mem_map]
      rintro _ ⟨p, -, rfl⟩ vd hvd
      exact ValueDef.wellFormed_of_isSome (List.mem_filter.1 hvd).2
    rw [generateParameterCombinations_eq _ hwf, combosOf_keepSupported]
  · cases ps with
    | nil => rfl
    | cons p ps =>
      simpa [generateParameterCombinations] using
        expandAll_firstMalformed [] (p :: ps) (by simp [combosOf])

/-- A malformed entry after a parameter without a supported entry is never read. -/
example : generateParameterCombinations
    ([⟨"n", [⟨some "Decimal", none⟩]⟩, ⟨"m", [⟨none, some 1⟩]⟩] : List (Parameter ℕ)) =
      .ok [] :=
  rfl

/-- An entry lacking `type` (then one of a supported type lacking `value`) beside a supported
entry of `n`, and a second parameter `m`: the expansion raises and returns no combination,
where the schema without the malformed entry expands to `{n: 1, m: 3}`. -/
theorem malformed_entry_aborts_expansion :
    generateParameterCombinations ([⟨"n", [⟨some "Integer", some 1⟩, ⟨none, some 2⟩]⟩,
        ⟨"m", [⟨some "Integer", some 3⟩]⟩] : List (Parameter ℕ)) =
        .error (.keyError "type") ∧
      generateParameterCombinations
          ([⟨"n", [⟨some "Integer", some 1⟩, ⟨some "Integer", none⟩]⟩,
            ⟨"m", [⟨some "Integer", some 3⟩]⟩] : List (Parameter ℕ)) =
        .error (.keyError "value") ∧
      (generateParameterCombinations ([⟨"n", [⟨some "Integer", some 1⟩]⟩,
          ⟨"m", [⟨some "Integer", some 3⟩]⟩] : List (Parameter ℕ))).map
        (·.map PyDict.items) = .ok [[("n", 1), ("m", 3)]] :=
  ⟨rfl, rfl, rfl⟩

end LambdustBench
