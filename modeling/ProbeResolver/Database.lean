import ProbeResolver.Errors

namespace ProbeResolver

/-!
# The measurement database

`Result.Finished` and the methods of `Measurement` change a record in memory and then write it
over its row, `sess.Collection(c).Find(key, id).Update(record)`, wrapping a database error with
`errors.Wrap`. `Update` sets every column of the record except the `omitempty` ones that hold their
type's zero value, which keep the row's value. The database comes in as its answer to each update, the clock as the time
of each call, and `os.Stat` and `os.Rename` as their answers to `AddToResult`.

What follows from that shape over any sequence of calls: `Finished` gets past its guard at most
once, so an update that failed there is never retried and the row stays unfinished; the row of a
measurement is always the record as of the last call that returned `nil`, written over the row it
started as, since no method clears an `omitempty` column; and no method ever sets `IsUploadFailed`,
in memory or in the row, not even `UploadFailed`.
-/

namespace Database

/-- `sql.NullString`. -/
structure NullString where
  string : String
  valid : Bool
  deriving Repr, DecidableEq

/-- The text of `errors.Wrap(err, message)`; the cause it keeps for `errors.Cause` is not
modelled. -/
def wrap (err : GoError) (message : String) : GoError :=
  .library (message ++ ": " ++ err.message)

/-- The zero `sql.NullString`. -/
def NullString.null : NullString :=
  ⟨"", false⟩

/-- The value of an `omitempty` column after `Update(record)`: the record's, unless it is the zero
value of its type, which upper/db leaves out of the statement, so that the row keeps its own. -/
def omitZero {β : Type} [DecidableEq β] (zero old new : β) : β :=
  if new = zero then old else new

/-- Writing `omitempty` twice is writing the second time alone, when the second value is zero only
where the first is. -/
theorem omitZero_omitZero {β : Type} [DecidableEq β] {zero old first second : β}
    (keeps : second = zero → first = zero) :
    omitZero zero (omitZero zero old first) second = omitZero zero old second := by
  unfold omitZero
  by_cases cleared : second = zero
  · simp [cleared, keeps cleared]
  · simp [cleared]

/-- A write that left a column as the first value leaves it as the second, when the second is zero
only where the first is. -/
theorem omitZero_eq_of_eq {β : Type} [DecidableEq β] {zero old first second : β}
    (keeps : second = zero → first = zero) (same : omitZero zero old first = first) :
    omitZero zero old second = second := by
  unfold omitZero at *
  by_cases cleared : second = zero
  · rw [if_pos cleared, cleared]
    rwa [if_pos (keeps cleared), keeps cleared] at same
  · rw [if_neg cleared]

/-- A record type stored in a table, with the row that `Update(record)` makes of a row `old`. -/
class Table (α : Type) where
  update : α → α → α

/-- The row of a record after `Update(record)` succeeded: the record written over the row, where
there is a row with its id, and nothing where there is none. -/
def written {α : Type} [Table α] (row : Option α) (record : α) : Option α :=
  row.map fun old => Table.update old record

/-- `err := sess.Collection(c).Find(key, record.ID).Update(record)` followed by
`if err != nil { return errors.Wrap(err, message) }`, given the database's answer `updateErr`:
the error returned and the row after it. -/
def save {α : Type} [Table α] (message : String) (record : α) (updateErr : Option GoError)
    (row : Option α) : Option GoError × Option α :=
  match updateErr with
  | some err => (some (wrap err message), row)
  | none => (none, written row record)

/-- `Result`, with the fields `Finished` and `AddToResult` use. Times are in nanoseconds, and
`runtime` is the duration of which Go stores the fractional seconds, zero exactly when they are. -/
structure Result where
  id : Int
  startTime : Int
  runtime : Int
  isDone : Bool
  measurementDir : String
  deriving Repr, DecidableEq

/-- `Update` on `results`, where `result_id` is the one `omitempty` column. -/
instance : Table Result where
  update old r := { r with id := omitZero 0 old.id r.id }

/-- `errors.New("Result is already finished")`. -/
def alreadyFinishedError : GoError :=
  .library "Result is already finished"

/-- The guard of `Finished`, `r.IsDone == true || r.Runtime != 0`. -/
def Result.alreadyFinished (r : Result) : Prop :=
  r.isDone = true ∨ r.runtime ≠ 0

instance (r : Result) : Decidable r.alreadyFinished :=
  inferInstanceAs (Decidable (_ ∨ _))

/-- `Result.Finished` at the time `now`, with the database answering `updateErr`: the error, the
record, and its row in `results`. -/
def Result.finished (now : Int) (updateErr : Option GoError) (r : Result) (row : Option Result) :
    Option GoError × Result × Option Result :=
  if r.alreadyFinished then (some alreadyFinishedError, r, row)
  else
    let r := { r with runtime := now - r.startTime, isDone := true }
    let saved := save "updating finished result" r updateErr row
    (saved.1, r, saved.2)

/-- `Finished` called again and again on one result: what each call returned, then the record and
its row at the end. -/
def Result.finishedCalls : List (Int × Option GoError) → Result → Option Result →
    List (Option GoError) × Result × Option Result
  | [], r, row => ([], r, row)
  | (now, updateErr) :: rest, r, row =>
    let out := r.finished now updateErr row
    let after := finishedCalls rest out.2.1 out.2.2
    (out.1 :: after.1, after.2)

namespace Result

/-- Whatever a call returns, the record it leaves is past the guard. -/
theorem finished_alreadyFinished (now : Int) (updateErr : Option GoError) (r : Result)
    (row : Option Result) : (r.finished now updateErr row).2.1.alreadyFinished := by
  unfold finished
  split
  · assumption
  · exact .inl rfl

theorem finished_of_alreadyFinished {r : Result} (finished : r.alreadyFinished) (now : Int)
    (updateErr : Option GoError) (row : Option Result) :
    r.finished now updateErr row = (some alreadyFinishedError, r, row) :=
  if_pos finished

theorem finishedCalls_of_alreadyFinished {r : Result} (finished : r.alreadyFinished) :
    ∀ (calls : List (Int × Option GoError)) (row : Option Result),
      finishedCalls calls r row = (calls.map fun _ => some alreadyFinishedError, r, row)
  | [], _ => rfl
  | (now, updateErr) :: rest, row => by
    simp only [finishedCalls, finished_of_alreadyFinished finished,
      finishedCalls_of_alreadyFinished finished rest, List.map_cons]

end Result

/--
`Finished` does its work at most once, for every record and row, every time and database answer of
a first call, and every later calls: each later call returns `"Result is already finished"`, and
the record and its row stay as the first call left them, whether or not its update succeeded.
-/
theorem finished_at_most_once (r : Result) (row : Option Result) (now : Int)
    (updateErr : Option GoError) (calls : List (Int × Option GoError)) :
    Result.finishedCalls ((now, updateErr) :: calls) r row =
      ((r.finished now updateErr row).1 :: calls.map fun _ => some alreadyFinishedError,
        (r.finished now updateErr row).2) := by
  simp only [Result.finishedCalls,
    Result.finishedCalls_of_alreadyFinished (Result.finished_alreadyFinished now updateErr r row)]

/--
An unfinished result whose first `Finished` meets a database error is finished in memory but never
in its row: that call returns the wrapped error, every later call returns
`"Result is already finished"`, and the row stays as it was, for every time and every later calls.
-/
theorem finished_update_error_never_saved (r : Result) (row : Option Result) (now : Int)
    (err : GoError) (calls : List (Int × Option GoError))
    (unfinished : r.isDone = false ∧ r.runtime = 0) :
    Result.finishedCalls ((now, some err) :: calls) r row =
      (some (wrap err "updating finished result") :: calls.map fun _ => some alreadyFinishedError,
        { r with runtime := now - r.startTime, isDone := true }, row) := by
  have unguarded : ¬r.alreadyFinished := by simp [Result.alreadyFinished, unfinished]
  have marked : ({ r with runtime := now - r.startTime, isDone := true } : Result).alreadyFinished :=
    .inl rfl
  simp only [Result.finishedCalls, Result.finished, if_neg unguarded, save,
    Result.finishedCalls_of_alreadyFinished marked]

/-- A result created at time 5, whose row is still unfinished. -/
def openResult : Result :=
  { id := 1, startTime := 5, runtime := 0, isDone := false, measurementDir := "msmts" }

/-- Its first `Finished`, at time 9, meets a database error; a retry at time 12 is refused. -/
theorem finished_update_error_never_saved_retry :
    (openResult.isDone = false ∧ openResult.runtime = 0) ∧
      Result.finishedCalls [(9, some (.library "database is locked")), (12, none)] openResult
          (some openResult) =
        ([some (wrap (.library "database is locked") "updating finished result"),
            some alreadyFinishedError],
          { openResult with runtime := 4, isDone := true }, some openResult) :=
  ⟨⟨rfl, rfl⟩, finished_update_error_never_saved openResult (some openResult) 9
    (.library "database is locked") [(12, none)] ⟨rfl, rfl⟩⟩

/-- `Measurement`, with the fields its methods read or write, and `IsUploadFailed`, which none of
them writes. Times are in nanoseconds, as for `Result`. -/
structure Measurement where
  id : Int
  startTime : Int
  runtime : Int
  isDone : Bool
  isUploaded : Bool
  isFailed : Bool
  failureMsg : NullString
  isUploadFailed : Bool
  uploadFailureMsg : NullString
  resultID : Int
  reportFilePath : String
  deriving Repr, DecidableEq

namespace Measurement

/-- `Update` on `measurements`: `measurement_id`, `measurement_failure_msg` and
`measurement_upload_failure_msg` are `omitempty`; the other `omitempty` columns are not modelled. -/
instance : Table Measurement where
  update old m :=
    { m with id := omitZero 0 old.id m.id,
             failureMsg := omitZero NullString.null old.failureMsg m.failureMsg,
             uploadFailureMsg := omitZero NullString.null old.uploadFailureMsg m.uploadFailureMsg }

theorem update_eq (old m : Measurement) :
    Table.update old m =
      { m with id := omitZero 0 old.id m.id,
               failureMsg := omitZero NullString.null old.failureMsg m.failureMsg,
               uploadFailureMsg := omitZero NullString.null old.uploadFailureMsg m.uploadFailureMsg } :=
  rfl

@[simp] theorem update_isUploadFailed (old m : Measurement) :
    (Table.update old m).isUploadFailed = m.isUploadFailed :=
  rfl

/-- `m'` holds a value in every `omitempty` column where `m` does. -/
def keepsColumns (m m' : Measurement) : Prop :=
  (m'.id = 0 → m.id = 0) ∧ (m'.failureMsg = NullString.null → m.failureMsg = NullString.null) ∧
    (m'.uploadFailureMsg = NullString.null → m.uploadFailureMsg = NullString.null)

theorem keepsColumns_refl (m : Measurement) : keepsColumns m m :=
  ⟨fun zero => zero, fun zero => zero, fun zero => zero⟩

theorem keepsColumns.trans {m m' m'' : Measurement} (first : keepsColumns m m')
    (second : keepsColumns m' m'') : keepsColumns m m'' :=
  ⟨first.1 ∘ second.1, first.2.1 ∘ second.2.1, first.2.2 ∘ second.2.2⟩

/-- A later record that clears no column the earlier one holds overwrites it all. -/
theorem written_written_of_keepsColumns {first second : Measurement} (keeps : keepsColumns first second)
    (row : Option Measurement) : written (written row first) second = written row second := by
  cases row with
  | none => rfl
  | some old =>
    simp only [written, Option.map_some', update_eq, omitZero_omitZero keeps.1,
      omitZero_omitZero keeps.2.1, omitZero_omitZero keeps.2.2]

/-- A row that `Update(m)` leaves as `m` is left as `m'` by `Update(m')`, when `m'` clears no
column `m` holds. -/
theorem update_eq_of_keepsColumns {old m m' : Measurement} (keeps : keepsColumns m m')
    (same : Table.update old m = m) : Table.update old m' = m' := by
  rw [update_eq, omitZero_eq_of_eq keeps.1 (congrArg Measurement.id same),
    omitZero_eq_of_eq keeps.2.1 (congrArg Measurement.failureMsg same),
    omitZero_eq_of_eq keeps.2.2 (congrArg Measurement.uploadFailureMsg same)]

/-- The shape of `Failed`, `Done`, `UploadFailed` and `UploadSucceeded`: change the record, then
save it to its row in `measurements`, wrapping an error as `"updating measurement"`. -/
def updated (change : Measurement → Measurement) (updateErr : Option GoError) (m : Measurement)
    (row : Option Measurement) : Option GoError × Measurement × Option Measurement :=
  let m := change m
  let saved := save "updating measurement" m updateErr row
  (saved.1, m, saved.2)

/-- `Failed`. -/
def failed (failure : String) : Option GoError → Measurement → Option Measurement →
    Option GoError × Measurement × Option Measurement :=
  updated fun m => { m with failureMsg := ⟨failure, true⟩, isFailed := true }

/-- `Done` at the time `now`. -/
def done (now : Int) : Option GoError → Measurement → Option Measurement →
    Option GoError × Measurement × Option Measurement :=
  updated fun m => { m with runtime := now - m.startTime, isDone := true }

/-- `UploadFailed`. -/
def uploadFailed (failure : String) : Option GoError → Measurement → Option Measurement →
    Option GoError × Measurement × Option Measurement :=
  updated fun m => { m with uploadFailureMsg := ⟨failure, true⟩, isUploaded := false }

/-- `UploadSucceeded`. -/
def uploadSucceeded : Option GoError → Measurement → Option Measurement →
    Option GoError × Measurement × Option Measurement :=
  updated fun m => { m with isUploaded := true }

/-- `filepath.Join` and `filepath.Base`, library code. -/
structure PathLibrary where
  join : String → String → String
  base : String → String

/-- `AddToResult`, with `os.Stat(finalPath)` answering `os.IsNotExist` as `notExist`, `os.Rename`
answering `renameErr`, and the database `updateErr`. The rename is tried only when the final path
is missing; its error returns early, after `ResultID` was set in memory. -/
def addToResult (path : PathLibrary) (result : Result) (notExist : Bool)
    (renameErr updateErr : Option GoError) (m : Measurement) (row : Option Measurement) :
    Option GoError × Measurement × Option Measurement :=
  let m := { m with resultID := result.id }
  let finalPath := path.join result.measurementDir (path.base m.reportFilePath)
  match notExist, renameErr with
  | true, some err => (some (wrap err "moving report file"), m, row)
  | _, _ =>
    let m := { m with reportFilePath := finalPath }
    let saved := save "updating measurement" m updateErr row
    (saved.1, m, saved.2)

end Measurement

/-- One call of a `Measurement` method, with what the clock, the file system and the database
answer it. -/
inductive Call where
  | failed (failure : String) (updateErr : Option GoError)
  | done (now : Int) (updateErr : Option GoError)
  | uploadFailed (failure : String) (updateErr : Option GoError)
  | uploadSucceeded (updateErr : Option GoError)
  | addToResult (result : Result) (notExist : Bool) (renameErr updateErr : Option GoError)
  deriving Repr, DecidableEq

/-- The method a call runs. -/
def Call.apply (path : Measurement.PathLibrary) : Call → Measurement → Option Measurement →
    Option GoError × Measurement × Option Measurement
  | .failed failure updateErr => Measurement.failed failure updateErr
  | .done now updateErr => Measurement.done now updateErr
  | .uploadFailed failure updateErr => Measurement.uploadFailed failure updateErr
  | .uploadSucceeded updateErr => Measurement.uploadSucceeded updateErr
  | .addToResult result notExist renameErr updateErr =>
    Measurement.addToResult path result notExist renameErr updateErr

/-- Method calls on one measurement, one after another: what each returned with the record after
it, then the row at the end. -/
def methodCalls (path : Measurement.PathLibrary) : List Call → Measurement → Option Measurement →
    List (Option GoError × Measurement) × Option Measurement
  | [], _, row => ([], row)
  | c :: rest, m, row =>
    let out := c.apply path m row
    let after := methodCalls path rest out.2.1 out.2.2
    ((out.1, out.2.1) :: after.1, after.2)

/-- What every method does to the row: on `nil` it writes the record it returns, on an error it
leaves the row alone. -/
theorem Call.apply_row (path : Measurement.PathLibrary) (c : Call) (m : Measurement)
    (row : Option Measurement) :
    (c.apply path m row).2.2 =
      if (c.apply path m row).1.isNone then written row (c.apply path m row).2.1 else row := by
  have updated_row (change) (updateErr : Option GoError) :
      (Measurement.updated change updateErr m row).2.2 =
        if (Measurement.updated change updateErr m row).1.isNone then
          written row (Measurement.updated change updateErr m row).2.1
        else row := by
    cases updateErr <;> rfl
  cases c with
  | addToResult result notExist renameErr updateErr =>
    dsimp only [apply, Measurement.addToResult]
    split
    · rfl
    · cases updateErr <;> rfl
  | _ => exact updated_row ..

/-- What no method writes: `IsUploadFailed` of the record it returns is that of the record it was
given. -/
theorem Call.apply_isUploadFailed (path : Measurement.PathLibrary) (c : Call) (m : Measurement)
    (row : Option Measurement) : (c.apply path m row).2.1.isUploadFailed = m.isUploadFailed := by
  cases c with
  | addToResult => dsimp only [apply, Measurement.addToResult]; split <;> rfl
  | _ => rfl

/-- No method clears an `omitempty` column: the ID stays, and a message is set only valid. -/
theorem Call.apply_keepsColumns (path : Measurement.PathLibrary) (c : Call) (m : Measurement)
    (row : Option Measurement) : m.keepsColumns (c.apply path m row).2.1 := by
  cases c with
  | addToResult =>
    dsimp only [apply, Measurement.addToResult]
    split <;> exact Measurement.keepsColumns_refl m
  | failed => exact ⟨id, nofun, id⟩
  | uploadFailed => exact ⟨id, id, nofun⟩
  | _ => exact Measurement.keepsColumns_refl m

/-- Every record a sequence of calls returns holds a value wherever the first record did. -/
theorem methodCalls_keepsColumns (path : Measurement.PathLibrary) :
    ∀ (calls : List Call) (m : Measurement) (row : Option Measurement),
      ∀ e ∈ (methodCalls path calls m row).1, m.keepsColumns e.2
  | [], _, _ => by simp [methodCalls]
  | c :: rest, m, row => by
    have first := Call.apply_keepsColumns path c m row
    simp only [methodCalls, List.mem_cons, forall_eq_or_imp]
    exact ⟨first, fun e later =>
      first.trans (methodCalls_keepsColumns path rest _ _ e later)⟩

/-- The row after a sequence of calls is the last saved record written over the row it started
as. -/
theorem methodCalls_row (path : Measurement.PathLibrary) :
    ∀ (calls : List Call) (m : Measurement) (row : Option Measurement),
      (methodCalls path calls m row).2 =
        match ((methodCalls path calls m row).1.reverse.find? fun e => e.1.isNone) with
        | none => row
        | some (_, saved) => written row saved
  | [], _, _ => rfl
  | c :: rest, m, row => by
    have step := Call.apply_row path c m row
    simp only [methodCalls, List.reverse_cons, List.find?_append]
    generalize c.apply path m row = out at step ⊢
    obtain ⟨err, m', row'⟩ := out
    dsimp only at step ⊢
    subst step
    have later := methodCalls_keepsColumns path rest m' (if err.isNone then written row m' else row)
    rw [methodCalls_row path rest m']
    generalize (methodCalls path rest m' (if err.isNone then written row m' else row)).1 = results
      at later ⊢
    cases found : results.reverse.find? (fun e => e.1.isNone) with
    | none => cases err <;> simp
    | some e =>
      have keeps := later e (List.mem_reverse.mp (List.mem_of_find?_eq_some found))
      cases err <;> simp [Measurement.written_written_of_keepsColumns keeps]

/--
The row of a measurement is the record as of the last call that returned `nil`, written over the
row it started as, for every sequence of method calls, whatever the clock, the file system and the
database answer them: a call that fails changes the record in memory but not the row, until a later
call succeeds and writes every change made since. When the row holds no value in an `omitempty`
column the record leaves at zero, as when it was inserted from the record, the row is exactly that
record.
-/
theorem methodCalls_row_is_last_saved (path : Measurement.PathLibrary) :
    (∀ (calls : List Call) (m : Measurement) (row : Option Measurement),
      (methodCalls path calls m row).2 =
        match ((methodCalls path calls m row).1.reverse.find? fun e => e.1.isNone) with
        | none => row
        | some (_, saved) => written row saved) ∧
    ∀ (calls : List Call) (m : Measurement) (row : Option Measurement),
      (∀ old ∈ row, Table.update old m = m) →
      (methodCalls path calls m row).2 =
        match ((methodCalls path calls m row).1.reverse.find? fun e => e.1.isNone) with
        | none => row
        | some (_, saved) => row.map fun _ => saved := by
  refine ⟨methodCalls_row path, fun calls m row agrees => ?_⟩
  have keeps := methodCalls_keepsColumns path calls m row
  rw [methodCalls_row path]
  generalize (methodCalls path calls m row).1 = results at keeps ⊢
  cases found : results.reverse.find? (fun e => e.1.isNone) with
  | none => rfl
  | some e =>
    cases row with
    | none => rfl
    | some old =>
      simp only [written, Option.map_some', Option.some.injEq]
      exact Measurement.update_eq_of_keepsColumns
        (keeps e (List.mem_reverse.mp (List.mem_of_find?_eq_some found))) (agrees old rfl)

/--
No sequence of method calls ever sets `IsUploadFailed`: for every calls, every answer of the
clock, the file system and the database, a measurement and row with `IsUploadFailed = b` keep it,
in every record the calls return and in the row at the end, also after `UploadFailed` succeeded.
-/
theorem methodCalls_keep_isUploadFailed (path : Measurement.PathLibrary) (b : Bool) :
    ∀ (calls : List Call) (m : Measurement) (row : Option Measurement),
      m.isUploadFailed = b → (∀ saved ∈ row, saved.isUploadFailed = b) →
      (∀ e ∈ (methodCalls path calls m row).1, e.2.isUploadFailed = b) ∧
        ∀ saved ∈ (methodCalls path calls m row).2, saved.isUploadFailed = b
  | [], _, _, _, rowKeeps => ⟨by simp [methodCalls], rowKeeps⟩
  | c :: rest, m, row, recordKeeps, rowKeeps => by
    have applied : (c.apply path m row).2.1.isUploadFailed = b := by
      rw [Call.apply_isUploadFailed, recordKeeps]
    have appliedRow : ∀ saved ∈ (c.apply path m row).2.2, saved.isUploadFailed = b := by
      rw [Call.apply_row]
      split
      · simpa [written] using fun _ _ => applied
      · exact rowKeeps
    have inductionHypothesis :=
      methodCalls_keep_isUploadFailed path b rest _ _ applied appliedRow
    simp only [methodCalls, List.mem_cons, forall_eq_or_imp]
    exact ⟨⟨applied, inductionHypothesis.1⟩, inductionHypothesis.2⟩

/-- A measurement on disk, not yet in a result, whose row is as fresh as the record. -/
def freshMeasurement : Measurement :=
  { id := 7, startTime := 5, runtime := 0, isDone := false, isUploaded := false, isFailed := false,
    failureMsg := ⟨"", false⟩, isUploadFailed := false, uploadFailureMsg := ⟨"", false⟩,
    resultID := 0, reportFilePath := "tmp/report.jsonl" }

/-- Paths joined with a slash, and the base as the path itself. -/
def slashPaths : Measurement.PathLibrary :=
  ⟨fun dir file => dir ++ "/" ++ file, id⟩

/-- `Update` keeps a failure message the row holds when the record has none. -/
example : written (some { freshMeasurement with failureMsg := ⟨"dns timeout", true⟩ }) freshMeasurement =
    some { freshMeasurement with failureMsg := ⟨"dns timeout", true⟩ } := by
  decide

/-- `Failed` meets a database error, then `Done` succeeds and writes both changes. -/
theorem methodCalls_row_is_last_saved_failed_then_done :
    (∀ old ∈ some freshMeasurement, Table.update old freshMeasurement = freshMeasurement) ∧
      (methodCalls slashPaths [.failed "dns timeout" (some (.library "database is locked")),
          .done 9 none] freshMeasurement (some freshMeasurement)).2 =
        some { freshMeasurement with
                 failureMsg := ⟨"dns timeout", true⟩, isFailed := true, runtime := 4, isDone := true } :=
  have agrees : ∀ old ∈ some freshMeasurement, Table.update old freshMeasurement = freshMeasurement := by
    simp only [Option.mem_def, Option.some.injEq, forall_eq']
    decide
  ⟨agrees, ((methodCalls_row_is_last_saved slashPaths).2 _ _ _ agrees).trans rfl⟩

/-- The measurement is done, and its upload fails and is recorded: the row says the upload failed
through its message only, `measurement_is_upload_failed` stays false. -/
theorem methodCalls_keep_isUploadFailed_after_upload_failure :
    freshMeasurement.isUploadFailed = false ∧
      (∀ saved ∈ some freshMeasurement, saved.isUploadFailed = false) ∧
      (methodCalls slashPaths [.done 9 none, .uploadFailed "connection reset" none]
          freshMeasurement (some freshMeasurement)).2 =
        some { freshMeasurement with
                 runtime := 4, isDone := true, uploadFailureMsg := ⟨"connection reset", true⟩ } ∧
      ((∀ e ∈ (methodCalls slashPaths [.done 9 none, .uploadFailed "connection reset" none]
          freshMeasurement (some freshMeasurement)).1, e.2.isUploadFailed = false) ∧
        ∀ saved ∈ (methodCalls slashPaths [.done 9 none, .uploadFailed "connection reset" none]
          freshMeasurement (some freshMeasurement)).2, saved.isUploadFailed = false) :=
  ⟨rfl, by simp [freshMeasurement], rfl,
    methodCalls_keep_isUploadFailed slashPaths false _ freshMeasurement _ rfl
      (by simp [freshMeasurement])⟩

end Database

end ProbeResolver
