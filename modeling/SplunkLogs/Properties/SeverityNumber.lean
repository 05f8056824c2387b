import SplunkLogs.Properties.Projection

/-!
# The severity number of an event

The comparisons of the code are the documented table. What the table says of a missing
severity is not carried over: the column stays NULL there.
-/
namespace SplunkLogs

theorem severityNames_lower :
    (severityNames.flatMap Prod.fst).all (fun name => lower name == name) = true := by
  decide

/-- A lower-case name is matched by comparing it with the lowered string. -/
theorem ciEquals_iff_of_lower {name : Bytes} (lowered : lower name = name) (s : Bytes) :
    ciEquals s name = true ↔ lower s = name := by
  rw [ciEquals, lowered, beq_iff_eq]

/-- The comparisons are the documented table. -/
theorem severityToNumber_eq (severity : Bytes) :
    severityToNumber severity = documentedNumber (some severity) := by
  have names : ∀ name ∈ severityNames.flatMap Prod.fst,
      ciEquals severity name = decide (lower severity = name) := by
    intro name listed
    have lowered := List.all_eq_true.mp severityNames_lower name listed
    rw [Bool.eq_iff_iff, ciEquals_iff_of_lower (eq_of_beq lowered), decide_eq_true_iff]
  simp only [severityNames, List.flatMap_cons, List.flatMap_nil, List.append_nil,
    List.cons_append, List.nil_append, List.forall_mem_cons] at names
  obtain ⟨trace, debug, info, notice, ok, warn, warning, error, err, critical, crit, alert,
    emergency, fatal, -⟩ := names
  simp only [severityToNumber, documentedNumber, severityNames, List.find?_cons, List.find?_nil,
    List.any_cons, List.any_nil, Bool.or_false, trace, debug, info, notice, ok, warn, warning,
    error, err, critical, crit, alert, emergency, fatal, ← Bool.decide_or]
  grind

/-- A string is found where a source has one under a key, and nowhere else. -/
theorem hasSeverity_iff (env : Externals) (event : Json) :
    HasSeverity env event ↔ (severityString env event).isSome = true := by
  have held : ∀ (source : Option Json) (key : Bytes), (getStr source key).isSome = true ↔
      ∃ text, source.bind (·.objGet key) = some (Json.str text) := by
    intro source key
    unfold getStr
    cases source.bind (·.objGet key) with
    | none => simp
    | some value => cases value <;> simp
  simp only [HasSeverity, severityString, lookupStr, List.findSome?_isSome_iff, held]

/-- The column of the number: the table's row, or NULL. -/
theorem columnValue_severityNumber (env : Externals) (event : Json) :
    columnValue env event colSeverityNumber =
      (severityString env event).elim .null fun s => .integer (documentedNumber (some s)) := by
  simp only [← severityToNumber_eq]
  cases found : severityString env event with
  | none => simp [columnValue, colSeverityNumber, found]
  | some s => simp [columnValue, colSeverityNumber, found]

/-- For every event and every projection with the number in it: the number is the documented
one of the string shown as text, 0 without one, if and only if the event has a severity
string in one of its sources. -/
theorem severity_documented_iff (env : Externals) (event : Json) (columnIds : List Nat)
    (projected : colSeverityNumber ∈ columnIds) :
    SeverityDocumented env event columnIds (mapEvent env event columnIds) ↔
      HasSeverity env event := by
  rw [hasSeverity_iff, Option.isSome_iff_exists]
  constructor
  · intro documented
    obtain ⟨c, selected⟩ := List.mem_iff_getElem?.mp projected
    have number := documented.number c selected
    rw [mapEvent_slot env event selected, columnValue_severityNumber] at number
    cases found : severityString env event with
    | some text => exact ⟨text, rfl⟩
    | none => simp [found] at number
  · intro ⟨text, found⟩
    constructor
    · intro c selected
      rw [mapEvent_slot env event selected]
      rfl
    · intro c selected
      rw [mapEvent_slot env event selected, columnValue_severityNumber, found, Option.elim_some]

/-- An event with a level, both columns projected. -/
theorem severity_documented_level :
    SeverityDocumented (.ofRecords []) (.obj [(ascii "level", .str (ascii "WARN"))])
      [colSeverityText, colSeverityNumber]
      (mapEvent (.ofRecords []) (.obj [(ascii "level", .str (ascii "WARN"))])
        [colSeverityText, colSeverityNumber]) := by
  apply (severity_documented_iff (.ofRecords []) _ [colSeverityText, colSeverityNumber]
    (by simp)).mpr
  exact ⟨_, List.mem_cons_self, _, List.mem_cons_self, ascii "WARN", rfl⟩

/-- An event without a severity string has no severity number. -/
theorem severity_missing_is_null :
    ¬SeverityDocumented (.ofRecords []) (.obj [(ascii "_raw", .str (ascii "started"))])
      [colSeverityNumber]
      (mapEvent (.ofRecords []) (.obj [(ascii "_raw", .str (ascii "started"))])
        [colSeverityNumber]) := by
  intro documented
  have number := documented.number 0 rfl
  revert number
  decide

end SplunkLogs
