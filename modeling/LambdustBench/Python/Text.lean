import Mathlib.Data.List.Basic
import Mathlib.Data.List.DropRight
import Mathlib.Data.Nat.Digits

/-!
# The `str` builtins the output parsers use

The valgrind parsers of `scripts/performance_monitor.py` read a text file with `str.strip`,
`str.split`, `str.startswith`, slicing and `int`. A Python `str` is a sequence of code points,
here a `List Char`.

- `pyIsSpace`: `str.isspace` of one character, CPython's `Py_UNICODE_ISSPACE` table.
- `pyStrip`, `pySplitWhitespace`: `s.strip()` and `s.split()`. `s.split(sep)` with a
  one-character separator is `List.splitOn`, and `s.startswith(p)` is `List.isPrefixOf`.
- `pyInt`: `int(s)` in base 10, as CPython 3.11's `PyLong_FromUnicodeObject` reads it. It
  first rewrites a text with a non-ASCII character to ASCII
  (`_PyUnicode_TransformDecimalAndSpaceToASCII`): a Unicode decimal digit becomes its ASCII
  digit, a Unicode space a blank, and any other non-ASCII character ends the text with `?`.
  `PyLong_FromString` then reads the result as a C string: it skips ASCII whitespace, takes a
  sign, then digits with single underscores between them, and more than 4300 digits exceed
  `sys.get_int_max_str_digits()`. A value read before a NUL character is an invalid literal.
- `decimal`: a natural number written in decimal, as C's `%lu` prints it, and the round trip
  `pyInt_decimal`.
-/

namespace LambdustBench

/-- `c.isspace()`: the characters CPython's `Py_UNICODE_ISSPACE` accepts. -/
def pyIsSpace (c : Char) : Bool :=
  let n := c.toNat
  (9 ≤ n && n ≤ 13) || (28 ≤ n && n ≤ 32) || n == 0x85 || n == 0xA0 || n == 0x1680 ||
    (0x2000 ≤ n && n ≤ 0x200A) || n == 0x2028 || n == 0x2029 || n == 0x202F || n == 0x205F ||
    n == 0x3000

/-- `s.strip()`. -/
def pyStrip (s : List Char) : List Char := (s.dropWhile pyIsSpace).rdropWhile pyIsSpace

/-- `s.split()`: the maximal runs of non-whitespace characters. -/
def pySplitWhitespace (s : List Char) : List (List Char) :=
  (s.splitOnP pyIsSpace).filter (· ≠ [])

/-- The two `ValueError`s of `int(s)` in base 10. -/
inductive IntError where
  /-- `invalid literal for int() with base 10: ...` -/
  | invalidLiteral
  /-- `Exceeds the limit (4300 digits) for integer string conversion: value has ... digits` -/
  | exceedsDigitLimit (digits : Nat)
  deriving DecidableEq, Repr

/-- `sys.get_int_max_str_digits()` at its default. -/
def maxStrDigits : Nat := 4300

/-- The digit loop of `long_from_string_base`: digits, each but the first possibly after one
`_`. `none` for a misplaced underscore (first, doubled or last); otherwise the value, the
number of digits, and the text after them. -/
def scanDigits : List Char → Nat → Nat → Option (Nat × Nat × List Char)
  | [], value, digits => some (value, digits, [])
  | c :: rest, value, digits =>
    if c.isDigit then scanDigits rest (10 * value + (c.toNat - 48)) (digits + 1)
    else if c = '_' then
      match rest with
      | d :: rest' =>
        if d.isDigit ∧ 0 < digits then scanDigits rest' (10 * value + (d.toNat - 48)) (digits + 1)
        else none
      | [] => none
    else some (value, digits, c :: rest)

/-- `Py_ISSPACE`: the whitespace of C's `isspace`, all of it ASCII, which `PyLong_FromString`
skips around the digits. -/
def pyIsAsciiSpace (c : Char) : Bool :=
  c.toNat == 32 || (9 ≤ c.toNat && c.toNat ≤ 13)

/-- `PyLong_FromString(str, &end, 10)` on the C string `s` (CPython 3.11). -/
def longFromString (s : List Char) : Except IntError Int :=
  let s := s.dropWhile pyIsAsciiSpace
  let (negative, body) : Bool × List Char :=
    match s with
    | '+' :: r => (false, r)
    | '-' :: r => (true, r)
    | r => (false, r)
  match scanDigits body 0 0 with
  | none => .error .invalidLiteral
  | some (value, digits, rest) =>
    if digits > maxStrDigits then .error (.exceedsDigitLimit digits)
    else if digits = 0 then .error .invalidLiteral
    else if rest.dropWhile pyIsAsciiSpace = [] then .ok (if negative then -(value : Int) else value)
    else .error .invalidLiteral

/-- The first code points of the runs `0`…`9` of Unicode 14.0's decimal digits (`Nd`), the
characters `Py_UNICODE_TODECIMAL` gives a value. -/
def decimalZeros : List Nat :=
  [0x30, 0x660, 0x6F0, 0x7C0, 0x966, 0x9E6, 0xA66, 0xAE6, 0xB66, 0xBE6, 0xC66, 0xCE6, 0xD66,
    0xDE6, 0xE50, 0xED0, 0xF20, 0x1040, 0x1090, 0x17E0, 0x1810, 0x1946, 0x19D0, 0x1A80, 0x1A90,
    0x1B50, 0x1BB0, 0x1C40, 0x1C50, 0xA620, 0xA8D0, 0xA900, 0xA9D0, 0xA9F0, 0xAA50, 0xABF0,
    0xFF10, 0x104A0, 0x10D30, 0x11066, 0x110F0, 0x11136, 0x111D0, 0x112F0, 0x11450, 0x114D0,
    0x11650, 0x116C0, 0x11730, 0x118E0, 0x11950, 0x11C50, 0x11D50, 0x11DA0, 0x16A60, 0x16AC0,
    0x16B50, 0x1D7CE, 0x1D7D8, 0x1D7E2, 0x1D7EC, 0x1D7F6, 0x1E140, 0x1E2F0, 0x1E950, 0x1FBF0]

/-- `Py_UNICODE_TODECIMAL`: the value of a Unicode decimal digit. -/
def unicodeDecimal (c : Char) : Option Nat :=
  (decimalZeros.find? fun z => z ≤ c.toNat && c.toNat < z + 10).map (c.toNat - ·)

/-- The loop of `_PyUnicode_TransformDecimalAndSpaceToASCII` over a text with a non-ASCII
character: a character below `127` is kept, a space becomes `' '`, a decimal digit its ASCII
digit, and any other character is replaced by `'?'`, where the text ends. -/
def transformNonAscii : List Char → List Char
  | [] => []
  | c :: cs =>
    if c.toNat < 127 then c :: transformNonAscii cs
    else if pyIsSpace c then ' ' :: transformNonAscii cs
    else match unicodeDecimal c with
      | some d => Char.ofNat (48 + d) :: transformNonAscii cs
      | none => ['?']

/-- `_PyUnicode_TransformDecimalAndSpaceToASCII`: an ASCII text is returned as it is. -/
def transformDecimalAndSpace (s : List Char) : List Char :=
  if s.all (·.toNat < 128) then s else transformNonAscii s

/-- `int(s)`: `PyLong_FromUnicodeObject` (CPython 3.11). `PyLong_FromString` reads the
transformed buffer up to its first NUL; when it returns a value that did not reach the end of
the buffer, the literal is invalid. -/
def pyInt (s : List Char) : Except IntError Int :=
  let buffer := transformDecimalAndSpace s
  match longFromString (buffer.takeWhile (· ≠ '\x00')) with
  | .error e => .error e
  | .ok value => if '\x00' ∈ buffer then .error .invalidLiteral else .ok value

/-- Arabic-Indic digits read as their value; a file separator is not whitespace to `int`. -/
example : pyInt ['\u0663', '\u0660'] = .ok 30 ∧ pyInt ['\x1c', '5'] = .error .invalidLiteral :=
  ⟨rfl, rfl⟩

/-! ## Decimal numerals -/

/-- `n` in decimal, without leading zeros. -/
def decimal (n : Nat) : List Char :=
  if n = 0 then ['0'] else (Nat.digits 10 n).reverse.map fun d => Char.ofNat (48 + d)

theorem isDigit_ofNat {d : Nat} (hd : d < 10) : (Char.ofNat (48 + d)).isDigit = true := by
  interval_cases d <;> rfl

theorem toNat_ofNat_digit {d : Nat} (hd : d < 10) : (Char.ofNat (48 + d)).toNat - 48 = d := by
  interval_cases d <;> rfl

/-- An ASCII digit's code point, between `48` and `57`. -/
theorem toNat_of_isDigit {c : Char} (h : c.isDigit = true) : 48 ≤ c.toNat ∧ c.toNat ≤ 57 := by
  simp only [Char.isDigit, Bool.and_eq_true, decide_eq_true_eq] at h
  exact h

theorem not_isAsciiSpace_of_isDigit {c : Char} (h : c.isDigit = true) :
    pyIsAsciiSpace c = false := by
  have := toNat_of_isDigit h
  simp only [pyIsAsciiSpace, Bool.or_eq_false_iff, Bool.and_eq_false_iff, decide_eq_false_iff_not,
    beq_eq_false_iff_ne]
  omega

/-- Scanning a run of digits to its end. -/
theorem scanDigits_digits (ds : List Char) (hds : ∀ c ∈ ds, c.isDigit = true) (value digits : Nat) :
    scanDigits ds value digits =
      some (ds.foldl (fun v c => 10 * v + (c.toNat - 48)) value, digits + ds.length, []) := by
  induction ds generalizing value digits with
  | nil => rfl
  | cons c ds ih =>
    rw [scanDigits.eq_def]
    dsimp only
    rw [if_pos (hds c (List.mem_cons_self c ds)), ih (fun c' h => hds c' (List.mem_cons_of_mem c h))]
    simp [Nat.add_right_comm, Nat.add_assoc]

theorem foldl_digits_reverse (L : List Nat) (hL : ∀ d ∈ L, d < 10) (value : Nat) :
    (L.reverse.map fun d => Char.ofNat (48 + d)).foldl (fun v c => 10 * v + (c.toNat - 48)) value =
      value * 10 ^ L.length + Nat.ofDigits 10 L := by
  induction L generalizing value with
  | nil => simp
  | cons d L ih =>
    rw [List.reverse_cons, List.map_append, List.foldl_append,
      ih (fun d' h => hL d' (List.mem_cons_of_mem d h))]
    simp only [List.map_cons, List.map_nil, List.foldl_cons, List.foldl_nil,
      toNat_ofNat_digit (hL d (List.mem_cons_self d L)), Nat.ofDigits_cons, List.length_cons,
      pow_succ]
    ring

theorem decimal_isDigit (n : Nat) : ∀ c ∈ decimal n, c.isDigit = true := by
  unfold decimal
  split_ifs
  · simp
  · simp only [List.mem_map, List.mem_reverse]
    rintro _ ⟨d, hd, rfl⟩
    exact isDigit_ofNat (Nat.digits_lt_base (by norm_num) hd)

theorem decimal_length_pos (n : Nat) : 0 < (decimal n).length := by
  unfold decimal
  split_ifs with h
  · simp
  · simpa using List.length_pos.mpr (Nat.digits_ne_nil_iff_ne_zero.mpr h)

theorem decimal_length_le (n : Nat) (k : Nat) (h : n < 10 ^ k) (hk : 0 < k) :
    (decimal n).length ≤ k := by
  unfold decimal
  split_ifs
  · simpa using hk
  · rename_i hn
    simpa [Nat.digits_len 10 n (by norm_num) hn] using Nat.log_lt_of_lt_pow hn h

theorem longFromString_decimal (n : Nat) (h : (decimal n).length ≤ maxStrDigits) :
    longFromString (decimal n) = .ok n := by
  have hdig := decimal_isDigit n
  obtain ⟨c, cs, hcs⟩ := List.exists_cons_of_length_pos (decimal_length_pos n)
  have hc := hdig c (by simp [hcs])
  have hhead : (decimal n).dropWhile pyIsAsciiSpace = decimal n := by
    rw [hcs, List.dropWhile_cons_of_neg]
    simpa using not_isAsciiSpace_of_isDigit hc
  have hbody : (match decimal n with
      | '+' :: r => (false, r)
      | '-' :: r => (true, r)
      | r => (false, r) : Bool × List Char) = (false, decimal n) := by
    rw [hcs]
    split
    · rename_i h; cases h; exact absurd hc (by decide)
    · rename_i h; cases h; exact absurd hc (by decide)
    · rfl
  have hvalue : (decimal n).foldl (fun v c => 10 * v + (c.toNat - 48)) 0 = n := by
    unfold decimal
    split_ifs with h0
    · simp [h0]
    · rw [foldl_digits_reverse _ (fun d hd => Nat.digits_lt_base (by norm_num) hd)]
      simp [Nat.ofDigits_digits]
  simp only [longFromString, hhead, hbody, scanDigits_digits _ hdig, zero_add, hvalue,
    List.dropWhile_nil, if_true, Bool.false_eq_true, if_false]
  rw [if_neg (not_lt.mpr h), if_neg (Nat.pos_iff_ne_zero.mp (decimal_length_pos n))]

/-- **`int` reads back a decimal numeral.** -/
theorem pyInt_decimal (n : Nat) (h : (decimal n).length ≤ maxStrDigits) :
    pyInt (decimal n) = .ok n := by
  have hascii : (decimal n).all (·.toNat < 128) := List.all_eq_true.mpr fun c hc => by
    have := toNat_of_isDigit (decimal_isDigit n c hc)
    simpa using (by omega : c.toNat < 128)
  have hnul : '\x00' ∉ decimal n := fun hc => absurd (decimal_isDigit n _ hc) (by decide)
  have htake : (decimal n).takeWhile (· ≠ '\x00') = decimal n :=
    List.takeWhile_eq_self_iff.mpr fun c hc => decide_eq_true fun h => hnul (h ▸ hc)
  simp only [pyInt, transformDecimalAndSpace, if_pos hascii, htake, longFromString_decimal n h,
    if_neg hnul]

end LambdustBench
