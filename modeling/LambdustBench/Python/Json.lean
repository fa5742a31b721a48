import LambdustBench.Python.Runtime

/-!
# Loaded JSON values

`json.load` returns `None`, a `bool`, an `int` or a `float`, a `str`, a `list` or a `dict`.
`analyze-performance.py` reads whatever a results file holds with a handful of Python
operators, and each of them raises for some kinds of value:

- `Json.truthy`: `bool(v)`, as `if not data:` tests it.
- `Json.get`: `v.get(key, default)`, an `AttributeError` unless `v` is a dict.
- `Json.iter`, `Json.len`: `for x in v` and `len(v)`, a `TypeError` for `None`, a number or a
  boolean. A dict yields its keys and a string its characters, both as strings.
- `Json.key?`: `hash(v)` for a dict key or a set element, a `TypeError` for a list or a dict.
  Python's `==` identifies `True` with `1` and `False` with `0`, so a `Key` is `None`, a
  number or a string.
- `Json.num?`, `Json.sub`: the number a value stands for in `x - y` and `x > 0`, which raise a
  `TypeError` for any other value (`bool` counts as `0` and `1`).

Numbers are exact rationals, as everywhere in the model. An object keeps its pairs as the text
gives them; the `dict` that `json.load` builds from them keeps the first position and the last
value of a repeated key.

- `foldlM_simulates`: a loop on loaded values that, step by step, does what a pure loop does
  to the values it was given, does so for the whole loop and never raises. The analyser's
  loops are related to the loops of the numeric model by it.
- `foldlM_invariant`: what every pass that does not raise keeps holds after a loop that does
  not raise.
-/

namespace LambdustBench

/-- A value as `json.load` returns it. -/
inductive Json where
  | null
  | bool (b : Bool)
  | number (q : ℚ)
  | string (s : String)
  | array (items : List Json)
  /-- The pairs of the object, in the order of the text. -/
  | object (fields : List (String × Json))
  deriving Repr

/-- A hashable value, as a dict key or a set element, up to Python's `==`. -/
inductive Key where
  | none
  | number (q : ℚ)
  | string (s : String)
  deriving DecidableEq, Repr

theorem Key.string_injective : Function.Injective Key.string := fun _ _ h => Key.string.inj h

namespace Json

/-- `bool(v)`. -/
def truthy : Json → Bool
  | .null => false
  | .bool b => b
  | .number q => q ≠ 0
  | .string s => s ≠ ""
  | .array items => !items.isEmpty
  | .object fields => !fields.isEmpty

/-- The value of `key` in the `dict` of an object's pairs: the last pair of that key. -/
def lastValue (fields : List (String × Json)) (key : String) : Option Json :=
  fields.foldl (fun found kv => if kv.1 = key then some kv.2 else found) none

/-- `v.get(key, default)`. -/
def get (v : Json) (key : String) (default : Json) : Except PyError Json :=
  match v with
  | .object fields => .ok ((lastValue fields key).getD default)
  | _ => .error .attributeError

/-- `for x in v`: a list's items, a dict's keys, a string's characters. -/
def iter : Json → Except PyError (List Json)
  | .array items => .ok items
  | .object fields => .ok ((fields.map (·.1)).eraseDups.map .string)
  | .string s => .ok (s.toList.map fun c => .string (String.singleton c))
  | _ => .error .typeError

/-- `len(v)`. -/
def len : Json → Except PyError Nat
  | .array items => .ok items.length
  | .object fields => .ok (fields.map (·.1)).eraseDups.length
  | .string s => .ok s.length
  | _ => .error .typeError

/-- `hash(v)`, and the key `v` stands for. -/
def key? : Json → Except PyError Key
  | .null => .ok .none
  | .bool b => .ok (.number (if b then 1 else 0))
  | .number q => .ok (.number q)
  | .string s => .ok (.string s)
  | _ => .error .typeError

/-- The number a `bool`, `int` or `float` stands for in arithmetic. -/
def num? : Json → Option ℚ
  | .bool b => some (if b then 1 else 0)
  | .number q => some q
  | _ => none

/-- `x - y`. -/
def sub (x y : Json) : Except PyError ℚ :=
  match x.num?, y.num? with
  | some a, some b => .ok (a - b)
  | _, _ => .error .typeError

@[simp] theorem get_object (fields : List (String × Json)) (key : String) (default : Json) :
    (Json.object fields).get key default = .ok ((lastValue fields key).getD default) := rfl

@[simp] theorem key?_string (s : String) : (Json.string s).key? = .ok (.string s) := rfl

@[simp] theorem sub_number (a b : ℚ) : (Json.number a).sub (.number b) = .ok (a - b) := rfl

/-- `x - x` is `0` whenever it does not raise. -/
theorem sub_self_eq_zero {x : Json} {d : ℚ} (h : x.sub x = .ok d) : d = 0 := by
  unfold sub at h
  cases hx : x.num? <;> simp [hx] at h
  exact h.symm

end Json

/-! ## Loops that raise -/

/-- A computation followed by another returns a value exactly when the first returns one
that the second turns into it. -/
theorem bind_eq_ok {ε α β : Type} {x : Except ε α} {f : α → Except ε β} {b : β} :
    x >>= f = .ok b ↔ ∃ a, x = .ok a ∧ f a = .ok b := by
  cases x <;> simp [bind, Except.bind]

section Simulation

variable {α β γ δ ε : Type} {step : α → γ → α} {step' : β → δ → Except ε β}
  {f : γ → δ}

/-- **Simulation of a loop.** When one pass of `step'` on the image of a state and an item is
the image of one pass of `step`, the whole loop of `step'` over the images of the items is the
image of the loop of `step`, and does not raise. -/
theorem foldlM_simulates (emb : α → β) (h : ∀ a x, step' (emb a) (f x) = .ok (emb (step a x)))
    (xs : List γ) (a : α) : (xs.map f).foldlM step' (emb a) = .ok (emb (xs.foldl step a)) := by
  induction xs generalizing a with
  | nil => rfl
  | cons x xs ih =>
    simp only [List.map_cons, List.foldlM_cons, List.foldl_cons, h]
    exact ih (step a x)

/-- **Invariant of a loop.** -/
theorem foldlM_invariant (P : β → Prop) (h : ∀ b x b', P b → step' b x = .ok b' → P b')
    (xs : List δ) {b b' : β} (hb : P b) (hxs : xs.foldlM step' b = .ok b') : P b' := by
  induction xs generalizing b with
  | nil => cases hxs; exact hb
  | cons x xs ih =>
    obtain ⟨b₁, h₁, hrest⟩ := bind_eq_ok.mp hxs
    exact ih (h b x b₁ hb h₁) hrest

end Simulation

end LambdustBench
