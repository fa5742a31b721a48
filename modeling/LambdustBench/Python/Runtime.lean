import Mathlib.Algebra.Order.Field.Rat
import Mathlib.Data.List.Nodup

/-!
# The Python runtime the benchmark scripts rely on

The benchmark engine (`run_comprehensive_benchmarks.py`, `scripts/performance_monitor.py`,
`scripts/process_results.py`) is plain Python over dicts, lists and floats. This module fixes
the few runtime notions every other module shares:

- `PyError`: the exceptions the scripts raise or catch (a `KeyError` from a missing key, the
  `ZeroDivisionError` of a float division, the `UnboundLocalError` of a loop variable read
  after an empty loop, the `OSError` of a temporary file, the `AttributeError` /
  `TypeError` of reading a loaded JSON value of the wrong shape, and the exceptions of
  reading a JSON file that a handler for `json.JSONDecodeError` and `IOError` lets through).
- `Value`: a parameter value as `json.load` yields it for the four declared types
  (`Integer`, `Float`, `String`, `Boolean`), with `str()` (`Value.pyStr`) and `str.replace`
  (`pyReplace`). Floats are the exact decimals of their JSON literals.
- `PyDict`: an insertion-ordered dict. `d[k] = v` replaces the value in place when `k` is
  present and appends otherwise (`PyDict.set`); iteration follows insertion order.
- `Radical`: an exact real `x` stored through its signed square `x * |x|`. The statistics
  engines take square roots (`variance ** 0.5`, `statistics.stdev`) and divide by them
  (the effect size); `x ↦ x * |x|` is a strictly increasing bijection of the reals, so these
  values keep exact equality and order with rational arithmetic only.
-/

namespace LambdustBench

/-- The Python exceptions the modelled code can raise. -/
inductive PyError where
  /-- `d[k]` on a dict without key `k`. -/
  | keyError (key : String)
  /-- A float division by zero. -/
  | zeroDivision
  /-- A local variable read before any assignment reached it. -/
  | unboundLocal (name : String)
  /-- An I/O failure creating or writing a file. -/
  | osError (msg : String)
  /-- A method called on a value of the wrong type (`str.get`). -/
  | attributeError
  /-- An operator applied to operands of unsupported types. -/
  | typeError
  /-- Bytes that are not text in the encoding a file is read with. -/
  | unicodeDecodeError
  /-- A `ValueError` other than `json.JSONDecodeError`: an integer literal of more than
  4300 digits. -/
  | valueError
  /-- Nesting deeper than the interpreter's recursion limit. -/
  | recursionError
  deriving DecidableEq, Repr

/-- A parameter value (`value_def['value']`) of one of the four supported types. A float is
kept as the JSON number literal it was read from, `mantissa × 10 ^ exp10`. -/
inductive Value where
  | int (n : Int)
  | float (mantissa exp10 : Int)
  | str (s : String)
  | bool (b : Bool)
  deriving DecidableEq, Repr

/-! ## `str()` and `str.replace` -/

/-- Drops the leading `'0'`s of a reversed digit string (keeping its last digit), counting
them. -/
def dropZeros : List Char → Nat → List Char × Nat
  | '0' :: rest, n => if rest = [] then (['0'], n) else dropZeros rest (n + 1)
  | ds, n => (ds, n)

/-- Strips the trailing zeros of a digit string into the decimal exponent. -/
def stripTrailingZeros (ds : List Char) (e : Int) : List Char × Int :=
  let (r, n) := dropZeros ds.reverse 0
  (r.reverse, e + n)

/-- `repr` of the float `m × 10 ^ e` (CPython's `float_repr_style = 'short'`): the shortest
digits, in positional notation when the decimal point position `decpt` satisfies
`-4 < decpt ≤ 16`, with `.0` added to an integral value, and `d.ddde±XX` otherwise. -/
def floatRepr (m e : Int) : String :=
  if m = 0 then "0.0" else
  let (digits, e) := stripTrailingZeros (toString m.natAbs).toList e
  let decpt : Int := digits.length + e
  let body :=
    if decpt ≤ -4 ∨ decpt > 16 then
      let x := decpt - 1
      String.mk (digits.take 1) ++
        (if digits.length > 1 then "." ++ String.mk (digits.drop 1) else "") ++
        "e" ++ (if x < 0 then "-" else "+") ++ (if x.natAbs < 10 then "0" else "") ++
        toString x.natAbs
    else if decpt ≤ 0 then
      "0." ++ String.mk (List.replicate (-decpt).toNat '0') ++ String.mk digits
    else if digits.length ≤ decpt then
      String.mk digits ++ String.mk (List.replicate (decpt - digits.length).toNat '0') ++ ".0"
    else String.mk (digits.take decpt.toNat) ++ "." ++ String.mk (digits.drop decpt.toNat)
  (if m < 0 then "-" else "") ++ body

/-- `str(value)`. -/
def Value.pyStr : Value → String
  | .int n => toString n
  | .float m e => floatRepr m e
  | .str s => s
  | .bool b => if b then "True" else "False"

/-- The number a `bool`, `int` or `float` stands for in comparisons; `none` for a string. -/
def Value.toNumber? : Value → Option ℚ
  | .int n => some n
  | .float m e => some (m * 10 ^ e)
  | .bool b => some (if b then 1 else 0)
  | .str _ => none

/-- `v == v'`: numbers compare by value across `bool`, `int` and `float`, strings by content,
and a string never equals a number. -/
def Value.pyEq : Value → Value → Bool
  | .str s, .str s' => s == s'
  | v, v' =>
    match v.toNumber?, v'.toNumber? with
    | some x, some y => x == y
    | _, _ => false

/-- The left-to-right scan of `str.replace` for a non-empty pattern, with one unit of fuel per
character of the subject. -/
def replaceScan (old new : List Char) : Nat → List Char → List Char
  | 0, s => s
  | _ + 1, [] => []
  | fuel + 1, c :: cs =>
    if old.isPrefixOf (c :: cs) then new ++ replaceScan old new fuel ((c :: cs).drop old.length)
    else c :: replaceScan old new fuel cs

/-- `s.replace(old, new)`: every non-overlapping occurrence of `old`, scanning left to right;
an empty `old` inserts `new` around every character. -/
def pyReplace (s old new : String) : String :=
  if old.isEmpty then String.mk ((s.toList.map fun c => new.toList ++ [c]).flatten ++ new.toList)
  else String.mk (replaceScan old.toList new.toList s.length s.toList)

/-! ## Insertion-ordered dicts -/

/-- A Python `dict`: its items in insertion order, never two with the same key. -/
structure PyDict (κ ν : Type) where
  items : List (κ × ν)
  nodup : (items.map Prod.fst).Nodup
  deriving DecidableEq, Repr

namespace PyDict

variable {κ ν μ : Type}

/-- `d.keys()` in iteration order. -/
def keys (d : PyDict κ ν) : List κ := d.items.map Prod.fst

/-- `{}`. -/
instance : EmptyCollection (PyDict κ ν) := ⟨⟨[], List.nodup_nil⟩⟩

@[simp] theorem items_empty : (∅ : PyDict κ ν).items = [] := rfl

/-- `{k: f(k, v) for k, v in d.items()}`. -/
def mapValues (f : κ → ν → μ) (d : PyDict κ ν) : PyDict κ μ :=
  ⟨d.items.map fun kv => (kv.1, f kv.1 kv.2), by simpa [Function.comp_def] using d.nodup⟩

theorem keys_filterMap_sublist (f : κ → ν → Option μ) (l : List (κ × ν)) :
    ((l.filterMap fun kv => (f kv.1 kv.2).map (kv.1, ·)).map Prod.fst).Sublist (l.map Prod.fst) := by
  induction l with
  | nil => exact List.Sublist.slnil
  | cons kv l ih =>
    cases h : f kv.1 kv.2 <;> simp [List.filterMap_cons, h, ih.cons, ih.cons₂]

/-- The items of `d` for which `f` gives a value, in order: a loop over `d.items()` that
`continue`s past some keys. -/
def filterMapValues (f : κ → ν → Option μ) (d : PyDict κ ν) : PyDict κ μ :=
  ⟨d.items.filterMap fun kv => (f kv.1 kv.2).map (kv.1, ·),
    (keys_filterMap_sublist f d.items).nodup d.nodup⟩

/-- `{f(k): g(v) for k, v in d.items()}` for an injective `f`: the same dict under other names. -/
def mapKeys {κ' : Type} (f : κ → κ') (hf : Function.Injective f) (g : ν → μ) (d : PyDict κ ν) :
    PyDict κ' μ :=
  ⟨d.items.map fun kv => (f kv.1, g kv.2), by simpa [Function.comp_def] using d.nodup.map hf⟩

@[simp] theorem keys_mapKeys {κ' : Type} (f : κ → κ') (hf : Function.Injective f) (g : ν → μ)
    (d : PyDict κ ν) : (d.mapKeys f hf g).keys = d.keys.map f := by
  simp [mapKeys, keys, Function.comp_def]

@[simp] theorem mapKeys_empty {κ' : Type} (f : κ → κ') (hf : Function.Injective f) (g : ν → μ) :
    (∅ : PyDict κ ν).mapKeys f hf g = ∅ := rfl

@[simp] theorem mapValues_items (f : κ → ν → μ) (d : PyDict κ ν) :
    (d.mapValues f).items = d.items.map fun kv => (kv.1, f kv.1 kv.2) := rfl

@[simp] theorem filterMapValues_items (f : κ → ν → Option μ) (d : PyDict κ ν) :
    (d.filterMapValues f).items = d.items.filterMap fun kv => (f kv.1 kv.2).map (kv.1, ·) := rfl

variable [DecidableEq κ]

/-- `d[k]` on an item list, `None` when the key is absent. -/
def lookup : List (κ × ν) → κ → Option ν
  | [], _ => none
  | (k', v) :: l, k => if k' = k then some v else lookup l k

/-- The item list after `d[k] = v`: the value replaced in place, or a new item appended. -/
def setItems : List (κ × ν) → κ → ν → List (κ × ν)
  | [], k, v => [(k, v)]
  | (k', v') :: l, k, v => if k' = k then (k, v) :: l else (k', v') :: setItems l k v

theorem keys_setItems (l : List (κ × ν)) (k : κ) (v : ν) :
    (setItems l k v).map Prod.fst =
      if k ∈ l.map Prod.fst then l.map Prod.fst else l.map Prod.fst ++ [k] := by
  induction l with
  | nil => rfl
  | cons kv l ih =>
    obtain ⟨k', v'⟩ := kv
    by_cases h : k' = k
    · subst h
      rw [setItems, if_pos rfl]
      exact (if_pos (List.mem_cons_self k' _)).symm
    · simp only [setItems, h, if_false, List.map_cons, ih, List.mem_cons, Ne.symm h, false_or]
      split <;> rfl

theorem nodup_setItems {l : List (κ × ν)} (hl : (l.map Prod.fst).Nodup) (k : κ) (v : ν) :
    ((setItems l k v).map Prod.fst).Nodup := by
  rw [keys_setItems]
  split
  · exact hl
  · rename_i h
    exact hl.append (List.nodup_singleton k) (List.disjoint_singleton.2 h)

theorem setItems_of_not_mem {l : List (κ × ν)} {k : κ} (h : k ∉ l.map Prod.fst) (v : ν) :
    setItems l k v = l ++ [(k, v)] := by
  induction l with
  | nil => rfl
  | cons kv l ih =>
    simp only [List.map_cons, List.mem_cons, not_or] at h
    simp [setItems, Ne.symm h.1, ih h.2]

theorem mem_setItems {l : List (κ × ν)} {k : κ} {v : ν} {e : κ × ν} (h : e ∈ setItems l k v) :
    e ∈ l ∨ e = (k, v) := by
  induction l with
  | nil => simpa [setItems] using h
  | cons kv l ih =>
    unfold setItems at h
    split at h
    · rcases List.mem_cons.1 h with rfl | h
      · exact .inr rfl
      · exact .inl (List.mem_cons_of_mem _ h)
    · rcases List.mem_cons.1 h with rfl | h
      · exact .inl (List.mem_cons_self _ _)
      · exact (ih h).imp (List.mem_cons_of_mem _) id

/-- `d[k]`, as an option. -/
def get? (d : PyDict κ ν) (k : κ) : Option ν := lookup d.items k

/-- `d[k] = v`. -/
def set (d : PyDict κ ν) (k : κ) (v : ν) : PyDict κ ν :=
  ⟨setItems d.items k v, nodup_setItems d.nodup k v⟩

/-- `dict(pairs)`: later pairs overwrite earlier ones. -/
def ofList (l : List (κ × ν)) : PyDict κ ν := l.foldl (fun d kv => d.set kv.1 kv.2) ∅

@[simp] theorem get?_empty (k : κ) : (∅ : PyDict κ ν).get? k = none := rfl

@[simp] theorem set_items (d : PyDict κ ν) (k : κ) (v : ν) :
    (d.set k v).items = setItems d.items k v := rfl

theorem lookup_setItems (l : List (κ × ν)) (k k' : κ) (v : ν) :
    lookup (setItems l k v) k' = if k = k' then some v else lookup l k' := by
  induction l with
  | nil => simp [setItems, lookup]
  | cons kv l ih =>
    obtain ⟨k₀, v₀⟩ := kv
    by_cases h₀ : k₀ = k
    · subst h₀; by_cases h : k₀ = k' <;> simp [setItems, lookup, h]
    · by_cases h : k₀ = k'
      · subst h; simp [setItems, lookup, h₀, Ne.symm h₀]
      · simp [setItems, lookup, h₀, h, ih]

@[simp] theorem get?_set (d : PyDict κ ν) (k k' : κ) (v : ν) :
    (d.set k v).get? k' = if k = k' then some v else d.get? k' :=
  lookup_setItems d.items k k' v

/-- `dict(pairs)` keeps the pairs as they are when their keys are distinct. -/
theorem ofList_items {l : List (κ × ν)} (h : (l.map Prod.fst).Nodup) : (ofList l).items = l := by
  suffices ∀ d : PyDict κ ν, (d.keys ++ l.map Prod.fst).Nodup →
      (l.foldl (fun d kv => d.set kv.1 kv.2) d).items = d.items ++ l from by
    simpa using this ∅ (by simpa [keys] using h)
  clear h
  induction l with
  | nil => simp
  | cons kv l ih =>
    intro d hd
    have hk : kv.1 ∉ d.keys := fun hm =>
      List.disjoint_of_nodup_append hd hm (List.mem_cons_self _ _)
    have hd' : ((d.set kv.1 kv.2).keys ++ l.map Prod.fst).Nodup := by
      simpa [keys, setItems_of_not_mem hk, List.append_assoc] using hd
    simpa [setItems_of_not_mem hk] using ih (d.set kv.1 kv.2) hd'

theorem lookup_mem {l : List (κ × ν)} {k : κ} {v : ν} (h : lookup l k = some v) : (k, v) ∈ l := by
  induction l with
  | nil => cases h
  | cons kv l ih =>
    obtain ⟨k', v'⟩ := kv
    unfold lookup at h
    split at h
    · cases h; subst k'; exact List.mem_cons_self _ _
    · exact List.mem_cons_of_mem _ (ih h)

theorem lookup_of_mem {l : List (κ × ν)} (hl : (l.map Prod.fst).Nodup) {k : κ} {v : ν}
    (h : (k, v) ∈ l) : lookup l k = some v := by
  induction l with
  | nil => cases h
  | cons kv l ih =>
    obtain ⟨k', v'⟩ := kv
    simp only [List.map_cons, List.nodup_cons] at hl
    rcases List.mem_cons.1 h with heq | h
    · cases heq; simp [lookup]
    · have hk : k' ≠ k := by
        rintro rfl
        exact hl.1 (List.mem_map_of_mem Prod.fst h)
      simp [lookup, hk, ih hl.2 h]

/-- An item of a dict is what `d[k]` returns. -/
theorem get?_of_mem (d : PyDict κ ν) {k : κ} {v : ν} (h : (k, v) ∈ d.items) : d.get? k = some v :=
  lookup_of_mem d.nodup h

theorem get?_ofList_eq_none (l : List (κ × ν)) (k : κ) (h : k ∉ l.map Prod.fst) :
    (ofList l).get? k = none := by
  suffices ∀ d : PyDict κ ν, d.get? k = none →
      (l.foldl (fun d kv => d.set kv.1 kv.2) d).get? k = none from this ∅ rfl
  induction l with
  | nil => exact fun d hd => hd
  | cons kv l ih =>
    simp only [List.map_cons, List.mem_cons, not_or] at h
    exact fun d hd => ih h.2 _ (by simp [Ne.symm h.1, hd])

theorem lookup_eq_none_iff (l : List (κ × ν)) (k : κ) : lookup l k = none ↔ k ∉ l.map Prod.fst := by
  induction l with
  | nil => simp [lookup]
  | cons kv l ih =>
    obtain ⟨k', v'⟩ := kv
    by_cases h : k' = k
    · subst h
      rw [lookup, if_pos rfl]
      exact iff_of_false (Option.some_ne_none _) (not_not.2 (List.mem_cons_self _ _))
    · simp [lookup, h, ih, Ne.symm h]

theorem get?_eq_none_iff (d : PyDict κ ν) (k : κ) : d.get? k = none ↔ k ∉ d.keys :=
  lookup_eq_none_iff d.items k

theorem lookup_map (f : κ → ν → μ) (l : List (κ × ν)) (k : κ) :
    lookup (l.map fun kv => (kv.1, f kv.1 kv.2)) k = (lookup l k).map (f k) := by
  induction l with
  | nil => rfl
  | cons kv l ih =>
    obtain ⟨k', v'⟩ := kv
    by_cases h : k' = k
    · subst h; simp [lookup]
    · simpa [lookup, h] using ih

@[simp] theorem get?_mapValues (f : κ → ν → μ) (d : PyDict κ ν) (k : κ) :
    (d.mapValues f).get? k = (d.get? k).map (f k) :=
  lookup_map f d.items k

@[simp] theorem get?_filterMapValues (f : κ → ν → Option μ) (d : PyDict κ ν) (k : κ) :
    (d.filterMapValues f).get? k = (d.get? k).bind (f k) := by
  obtain ⟨l, hl⟩ := d
  induction l with
  | nil => rfl
  | cons kv l ih =>
    obtain ⟨k', v'⟩ := kv
    simp only [List.map_cons, List.nodup_cons] at hl
    have ih := ih hl.2
    simp only [get?, filterMapValues_items, List.filterMap_cons] at ih ⊢
    by_cases h : k' = k
    · subst h
      rw [(lookup_eq_none_iff l k').2 hl.1, Option.none_bind] at ih
      cases hf : f k' v' <;> simp [lookup, hf, ih]
    · cases f k' v' <;> simp [lookup, h, ih]

section MapKeys

variable {κ' : Type} [DecidableEq κ'] (f : κ → κ') (g : ν → μ)

theorem lookup_mapKeys (hf : Function.Injective f) (l : List (κ × ν)) (k : κ) :
    lookup (l.map fun kv => (f kv.1, g kv.2)) (f k) = (lookup l k).map g := by
  induction l with
  | nil => rfl
  | cons kv l ih => by_cases h : kv.1 = k <;> simp [lookup, h, hf.eq_iff, ih]

@[simp] theorem get?_mapKeys (hf : Function.Injective f) (d : PyDict κ ν) (k : κ) :
    (d.mapKeys f hf g).get? (f k) = (d.get? k).map g :=
  lookup_mapKeys f g hf d.items k

theorem setItems_mapKeys (hf : Function.Injective f) (l : List (κ × ν)) (k : κ) (v : ν) :
    setItems (l.map fun kv => (f kv.1, g kv.2)) (f k) (g v) =
      (setItems l k v).map fun kv => (f kv.1, g kv.2) := by
  induction l with
  | nil => rfl
  | cons kv l ih => by_cases h : kv.1 = k <;> simp [setItems, h, hf.eq_iff, ih]

/-- Renaming commutes with `d[k] = v`. -/
theorem mapKeys_set (hf : Function.Injective f) (d : PyDict κ ν) (k : κ) (v : ν) :
    (d.set k v).mapKeys f hf g = (d.mapKeys f hf g).set (f k) (g v) := by
  simp only [mapKeys, set, setItems_mapKeys f g hf]

theorem ofList_mapKeys (hf : Function.Injective f) (l : List (κ × ν)) :
    ofList (l.map fun kv => (f kv.1, g kv.2)) = (ofList l).mapKeys f hf g := by
  suffices ∀ d : PyDict κ ν, (l.map fun kv => (f kv.1, g kv.2)).foldl
      (fun d kv => d.set kv.1 kv.2) (d.mapKeys f hf g) =
        (l.foldl (fun d kv => d.set kv.1 kv.2) d).mapKeys f hf g from this ∅
  induction l with
  | nil => exact fun _ => rfl
  | cons kv l ih => exact fun d => by simp only [List.map_cons, List.foldl_cons, ← mapKeys_set, ih]

end MapKeys

/-- `d == d'` for dicts whose values compare with `eq`: the same keys and equal values, in any
order. -/
def eqBy (eq : ν → ν → Bool) (d d' : PyDict κ ν) : Bool :=
  d.items.length == d'.items.length &&
    d.items.all fun kv =>
      match d'.get? kv.1 with
      | some v' => eq kv.2 v'
      | none => false

end PyDict

/-! ## Exact radicals -/

/-- An exact real number `x`, stored as its signed square `x * |x|`. -/
structure Radical where
  signedSq : ℚ
  deriving DecidableEq, Repr

namespace Radical

/-- A rational as a radical. -/
def ofRat (q : ℚ) : Radical := ⟨q * |q|⟩

/-- `q ** 0.5` for `q ≥ 0`. -/
def sqrt (q : ℚ) : Radical := ⟨q⟩

/-- `q / r` for a rational `q` and a positive radical `r`. -/
def divBy (q : ℚ) (r : Radical) : Radical := ⟨q * |q| / r.signedSq⟩

/-- `abs(x)`. -/
def abs (x : Radical) : Radical := ⟨|x.signedSq|⟩

instance : Zero Radical := ⟨⟨0⟩⟩

instance : Neg Radical := ⟨fun x => ⟨-x.signedSq⟩⟩

instance : LT Radical := ⟨fun x y => x.signedSq < y.signedSq⟩

instance : DecidableRel (α := Radical) (· < ·) := fun x y =>
  inferInstanceAs (Decidable (x.signedSq < y.signedSq))

@[simp] theorem zero_signedSq : (0 : Radical).signedSq = 0 := rfl

@[simp] theorem neg_signedSq (x : Radical) : (-x).signedSq = -x.signedSq := rfl

@[simp] theorem sqrt_signedSq (q : ℚ) : (sqrt q).signedSq = q := rfl

@[simp] theorem abs_signedSq (x : Radical) : x.abs.signedSq = |x.signedSq| := rfl

@[simp] theorem ofRat_signedSq (q : ℚ) : (ofRat q).signedSq = q * |q| := rfl

@[simp] theorem divBy_signedSq (q : ℚ) (r : Radical) :
    (divBy q r).signedSq = q * |q| / r.signedSq := rfl

@[simp] theorem sqrt_zero : sqrt 0 = 0 := rfl

instance : LE Radical := ⟨fun x y => x.signedSq ≤ y.signedSq⟩

instance : DecidableRel (α := Radical) (· ≤ ·) := fun x y =>
  inferInstanceAs (Decidable (x.signedSq ≤ y.signedSq))

theorem lt_def (x y : Radical) : x < y ↔ x.signedSq < y.signedSq := Iff.rfl

theorem le_def (x y : Radical) : x ≤ y ↔ x.signedSq ≤ y.signedSq := Iff.rfl


@[simp] theorem ofRat_zero : ofRat 0 = 0 := congrArg Radical.mk (by simp)

@[simp] theorem neg_involutive (x : Radical) : - -x = x := congrArg Radical.mk (neg_neg x.signedSq)

theorem ext' {x y : Radical} (h : x.signedSq = y.signedSq) : x = y := by
  cases x; cases y; cases h; rfl

@[simp] theorem neg_zero : -(0 : Radical) = 0 := ext' (by simp)

@[simp] theorem abs_neg (x : Radical) : (-x).abs = x.abs := ext' (by simp)

@[simp] theorem zero_divBy (r : Radical) : divBy 0 r = 0 := ext' (by simp)

/-- `(q - r) / p = -((r - q) / p)`. -/
theorem divBy_sub_comm (q r : ℚ) (p : Radical) : divBy (q - r) p = -divBy (r - q) p :=
  ext' (by rw [neg_signedSq, divBy_signedSq, divBy_signedSq, abs_sub_comm, ← neg_sub, neg_mul,
    neg_div])

theorem eq_zero_iff (x : Radical) : x = 0 ↔ x.signedSq = 0 := ⟨fun h => h ▸ rfl, ext'⟩

end Radical

end LambdustBench
