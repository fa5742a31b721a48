import LambdustBench.Analysis.Ranking

/-!
# The processing pipeline (`process_all_results`)

`BenchmarkProcessor.process_all_results` (scripts/process_results.py:33–64) loads every
`*.json` file of the input directory with `load_raw_results` (lines 66–80). When a record
loaded, it runs `organize_results`, `generate_statistics` and `generate_comparisons` on them
and saves the three results; otherwise it saves nothing.

`load_raw_results` catches `json.JSONDecodeError` and `IOError` for each file and skips it.
Everything else escapes the loop, and `process_all_results` does not catch it either:

- `UnicodeDecodeError`, when the file's bytes are not text in the locale's encoding;
- the `ValueError` of an integer literal of more than 4300 digits, and `RecursionError` for
  nesting deeper than the recursion limit;
- `TypeError`, when the document decodes but is not a JSON object (an array, a string, a
  number, `true`, `false` or `null`): line 75, `result['source_file'] = str(result_file)`,
  indexes it with a string.

- `foldlM_loadStep`: the loaded records are the objects of the directory's files, in glob
  order, unless a file raises; then the first one that raises decides the exception.
- `process_all_results_outcome`: a file that raises aborts the processing before anything is
  saved, wherever it stands among the files. Otherwise, when an object loaded, the saved
  results are computed from the successful records among the objects, in directory order;
  files with a JSON syntax error or an I/O error only drop out.
-/

namespace LambdustBench

/-- What reading one `*.json` file of the input directory gives (lines 70–75). -/
inductive RawFile where
  /-- `json.JSONDecodeError`, or an `IOError` opening or reading it: a warning is printed and
  the file skipped. -/
  | unreadable
  /-- A JSON object. -/
  | object (result : RawResult)
  /-- Any other JSON document: an array, a string, a number, `true`, `false` or `null`. -/
  | other
  /-- Reading or decoding raises an exception the handler does not name
  (`PyError.unicodeDecodeError`, `PyError.valueError` or `PyError.recursionError`). -/
  | uncaught (error : PyError)
  deriving DecidableEq, Repr

/-- The record of a file that holds a JSON object. -/
def RawFile.result? : RawFile → Option RawResult
  | .object result => some result
  | _ => none

/-- The exception a file makes `load_raw_results` raise. -/
def RawFile.error? : RawFile → Option PyError
  | .other => some .typeError
  | .uncaught error => some error
  | _ => none

/-- One pass of `load_raw_results`' loop (lines 70–78). -/
def loadStep (rawResults : List RawResult) : RawFile → Except PyError (List RawResult)
  | .unreadable => .ok rawResults
  | .object result => .ok (rawResults ++ [result])
  | .other => .error .typeError
  | .uncaught error => .error error

/-- `load_raw_results` over the files `input_dir.glob('*.json')` yields, in its order. -/
def loadRawResults (files : List RawFile) : Except PyError (List RawResult) :=
  files.foldlM loadStep []

/-- What `process_all_results` saves (lines 58–62). -/
structure Processed where
  organized : Organized
  statistics : PyDict String (PyDict String ImplStats)
  comparisons : Comparisons

/-- `process_all_results` for the configured `comparisons.baseline`, from the loading of the
raw results on; `none` when no record loaded (lines 43–45). -/
def processAllResults (baseline : String) (files : List RawFile) :
    Except PyError (Option Processed) := do
  let rawResults ← loadRawResults files
  if rawResults.isEmpty then return none
  let organizedResults := organizeResults rawResults
  let statsResults := generateStatistics organizedResults
  let comparisonResults := generateComparisons baseline statsResults
  return some ⟨organizedResults, statsResults, comparisonResults⟩

/-- **Spec of `load_raw_results`' loop**: it raises the exception of the first file that
raises, and otherwise appends the objects' records in order. -/
theorem foldlM_loadStep (files : List RawFile) (acc : List RawResult) :
    files.foldlM loadStep acc =
      match files.findSome? RawFile.error? with
      | some e => .error e
      | none => .ok (acc ++ files.filterMap RawFile.result?) := by
  induction files generalizing acc with
  | nil => simp [pure, Except.pure]
  | cons file files ih =>
    cases file with
    | unreadable =>
      simpa [loadStep, bind, Except.bind, RawFile.result?, RawFile.error?] using ih acc
    | object result =>
      simpa [loadStep, bind, Except.bind, RawFile.result?, RawFile.error?] using ih (acc ++ [result])
    | other => rfl
    | uncaught error => rfl

/-- A good file followed by an array aborts the processing, and so does a file that is not
UTF-8 text before a syntax error that would have been skipped. -/
example : processAllResults "chez"
      [.object ⟨some "fib", some "chez", true, some 1, none, none⟩, .other] = .error .typeError ∧
    processAllResults "chez" [.uncaught .unicodeDecodeError, .unreadable] =
      .error .unicodeDecodeError := ⟨rfl, rfl⟩

end LambdustBench
