import SplunkLogs.Model.Schema
import SplunkLogs.Properties.Projection
import SplunkLogs.Properties.RowSource

/-!
# Rows fit the schema

Each row that a scan hands out has a slot for each projected column, and in it NULL or a value
of the type that `GetSplunkLogsSchema` declares for that column.
-/
namespace SplunkLogs

/-- NULL is a value of every type. -/
def Value.HasType : Value → ColumnType → Prop
  | .null, _ => True
  | .timestampNs _, type => type = .timestampNs
  | .integer _, type => type = .integer
  | .varchar _, type => type = .varchar

/-- A value `output.SetValue` may put in the slot of a column: one of its type, and NULL for a
virtual column. -/
def Value.Fits (value : Value) (column : Nat) : Prop :=
  match getSplunkLogsSchema.1[column]? with
  | some type => value.HasType type
  | none => value = .null

def Row.Fits (columnIds : List Nat) (row : Row) : Prop :=
  List.Forall₂ Value.Fits row columnIds

theorem textColumnValue_varchar (env : Externals) (event : Json) (keys : List Bytes) :
    (textColumnValue env event keys).HasType .varchar := by
  unfold textColumnValue
  split
  · rfl
  · trivial

theorem attributesValue_varchar (json : Bytes) : (attributesValue json).HasType .varchar := by
  unfold attributesValue
  split
  · trivial
  · rfl

theorem timestampValue_timestampNs (env : Externals) (event : Json) :
    (timestampValue env event).HasType .timestampNs := by
  unfold timestampValue
  split
  · rfl
  · trivial

theorem columnValue_fits (env : Externals) (event : Json) (column : Nat) :
    (columnValue env event column).Fits column := by
  unfold columnValue
  split
  · exact timestampValue_timestampNs env event
  · exact timestampValue_timestampNs env event
  · exact textColumnValue_varchar env event _
  · exact textColumnValue_varchar env event _
  · exact textColumnValue_varchar env event _
  · split
    · rfl
    · trivial
  · split
    · rfl
    · trivial
  · exact textColumnValue_varchar env event _
  · exact attributesValue_varchar _
  · exact attributesValue_varchar _
  · -- NULL fits everywhere.
    unfold Value.Fits
    split
    · trivial
    · rfl

theorem mapEvent_fits (env : Externals) (event : Json) (columnIds : List Nat) :
    Row.Fits columnIds (mapEvent env event columnIds) := by
  rw [mapEvent_eq, Row.Fits, List.forall₂_map_left_iff]
  exact List.forall₂_same.mpr fun column _ => columnValue_fits env event column

/-- In both builds every row fits the schema: natively in every reachable state, and in browser
builds over every sequence of calls, whether its requests fail and its calls throw or not, in
every page that is returned and among the rows that wait. -/
theorem rows_fit_schema (columnIds : List Nat) :
    (∀ sys s, sys.input.columnIds = columnIds → (native sys).Reachable s →
      ∀ row ∈ s.delivered ++ s.buffer, row.Fits columnIds) ∧
    (∀ input vectorSize url answers, input.columnIds = columnIds →
      (∀ page, .ok page ∈ ({} : BrowserState).results input vectorSize url answers →
        ∀ row ∈ page, row.Fits columnIds) ∧
      ∀ row ∈ (BrowserState.after input vectorSize url answers).browser.buffer,
        row.Fits columnIds) := by
  have fits : ∀ {input : ScanInput} {body : Bytes} {row : Row}, RowOf input body row →
      row.Fits input.columnIds := by
    rintro input body _ ⟨_, _, event, _, rfl⟩
    exact mapEvent_fits _ event _
  constructor
  · rintro sys s rfl reachable row handed
    exact fits (native_rowOf sys s reachable row handed)
  · rintro input vectorSize url answers rfl
    obtain ⟨pages, waiting⟩ := browser_rowOf input vectorSize url answers
    exact ⟨fun page returned row member => fits (pages page returned row member),
      fun row waits => fits (waiting row waits)⟩

/-- The row that the producer of a started scan hands over. -/
theorem rows_fit_schema_one_row :
    ∃ s, (native oneRecordSetup).Reachable s ∧ s.buffer = [[.varchar (ascii "a")]] ∧
      ∀ row ∈ s.delivered ++ s.buffer, row.Fits [colBody] := by
  have pushed := oneRowBuilt_reachable.step
    (.producer _ (.push _ [] _ rfl (by decide) rfl rfl (by decide)))
  exact ⟨_, pushed, by decide, (rows_fit_schema [colBody]).1 oneRecordSetup _ rfl pushed⟩

end SplunkLogs
