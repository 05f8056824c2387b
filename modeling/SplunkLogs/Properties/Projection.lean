import SplunkLogs.Spec.Columns

/-!
# Projection pushdown changes nothing but the work done

The shared values are remembered correctly, so a slot depends on its column only. What the
text columns hold agrees with complete JSON strings exactly where no NUL cuts one.
-/
namespace SplunkLogs

section Memoisation

variable (env : Externals) (event : Json)

/-- What has been remembered is what would be computed again. -/
structure Memo.Valid (memo : Memo) : Prop where
  raw : ∀ cached, memo.rawCache = some cached → cached = parseRawObject env event
  severity : ∀ cached, memo.severityCache = some cached → cached = severityString env event
  time : ∀ cached, memo.timeCache = some cached → cached = timestampValue env event

theorem Memo.valid_empty : ({} : Memo).Valid env event := by
  constructor <;> intro cached found <;> cases found

variable {env event} {memo : Memo} (valid : memo.Valid env event)

include valid

theorem Memo.raw_spec : (memo.raw env event).1 = parseRawObject env event ∧
    (memo.raw env event).2.Valid env event := by
  unfold Memo.raw
  cases cached : memo.rawCache with
  | some object => exact ⟨valid.raw _ cached, valid⟩
  | none =>
    refine ⟨rfl, ?_, valid.severity, valid.time⟩
    rintro _ ⟨⟩
    rfl

theorem Memo.severity_spec :
    (memo.severity env event (eventFields event)).1 = severityString env event ∧
    (memo.severity env event (eventFields event)).2.Valid env event := by
  unfold Memo.severity
  cases cached : memo.severityCache with
  | some found => exact ⟨valid.severity _ cached, valid⟩
  | none =>
    obtain ⟨object, kept⟩ := Memo.raw_spec valid
    have found : lookupStr [some event, eventFields event, (memo.raw env event).1]
        [ascii "level", ascii "severity", ascii "status"] = severityString env event := by
      rw [object, severityString]
    refine ⟨found, kept.raw, ?_, kept.time⟩
    rintro _ ⟨⟩
    exact found

theorem Memo.timestamp_spec : (memo.timestamp env event).1 = timestampValue env event ∧
    (memo.timestamp env event).2.Valid env event := by
  unfold Memo.timestamp
  cases cached : memo.timeCache with
  | some value => exact ⟨valid.time _ cached, valid⟩
  | none =>
    refine ⟨rfl, valid.raw, valid.severity, ?_⟩
    rintro _ ⟨⟩
    rfl

theorem textColumn_spec (keys : List Bytes) :
    (textColumn env event (eventFields event) keys memo).1 = textColumnValue env event keys ∧
    (textColumn env event (eventFields event) keys memo).2.Valid env event := by
  obtain ⟨object, kept⟩ := Memo.raw_spec valid
  simp only [textColumn, textColumnValue, object]
  cases lookupStr [some event, eventFields event, parseRawObject env event] keys with
  | some text => exact ⟨rfl, kept⟩
  | none => exact ⟨rfl, kept⟩

/-- One column: its value, and what is remembered after it. -/
theorem mapColumn_spec (column : Nat) :
    (mapColumn env event (eventFields event) column memo).1 = columnValue env event column ∧
    (mapColumn env event (eventFields event) column memo).2.Valid env event := by
  obtain ⟨severity, severityKept⟩ := Memo.severity_spec valid
  obtain ⟨object, rawKept⟩ := Memo.raw_spec valid
  unfold mapColumn
  split
  · exact Memo.timestamp_spec valid
  · exact Memo.timestamp_spec valid
  · exact textColumn_spec valid _
  · exact textColumn_spec valid _
  · exact textColumn_spec valid _
  · simp only [columnValue, ← severity]
    split
    next found => simpa [found] using severityKept
    next found => simpa [found] using severityKept
  · simp only [columnValue, ← severity]
    split
    next found => simpa [found] using severityKept
    next found => simpa [found] using severityKept
  · exact textColumn_spec valid _
  · exact ⟨rfl, valid⟩
  · exact ⟨by simp only [columnValue, object], rawKept⟩
  next time observed trace span service number text body resource log =>
    -- No column with data: the slot stays NULL.
    refine ⟨?_, valid⟩
    unfold columnValue
    split <;> first | rfl | simp_all

end Memoisation

/-- Projected columns are mapped one by one, whatever was remembered before. -/
theorem mapColumns_eq (env : Externals) (event : Json) (columnIds : List Nat) (memo : Memo)
    (valid : memo.Valid env event) :
    mapColumns env event (eventFields event) columnIds memo =
      columnIds.map (columnValue env event) := by
  -- The memo carried from slot to slot stays valid.
  induction columnIds generalizing memo with
  | nil => rfl
  | cons column rest ih =>
    obtain ⟨value, kept⟩ := mapColumn_spec valid column
    simp only [mapColumns, value, ih _ kept, List.map_cons]

theorem mapEvent_eq (env : Externals) (event : Json) (columnIds : List Nat) :
    mapEvent env event columnIds = columnIds.map (columnValue env event) :=
  mapColumns_eq env event columnIds {} (Memo.valid_empty env event)

/-- A slot is the column of its id. -/
theorem mapEvent_slot (env : Externals) (event : Json) {columnIds : List Nat} {c column : Nat}
    (selected : columnIds[c]? = some column) :
    (mapEvent env event columnIds)[c]? = some (columnValue env event column) := by
  rw [mapEvent_eq, List.getElem?_map, selected, Option.map_some]

/-- Ids beyond the schema have no data, and the full row covers the others. -/
theorem fullRow_getD (env : Externals) (event : Json) (column : Nat) :
    (fullRow env event).getD column .null = columnValue env event column := by
  by_cases inside : column < columnCount
  · simp [fullRow, inside]
  · have outside : columnValue env event column = .null := by
      unfold columnValue
      split <;> simp_all [columnCount]
    simp [fullRow, inside, outside]

section Strings

theorem getStr_eq (object : Option Json) (key : Bytes) :
    getStr object key = (wholeStr object key).map cString := by
  unfold getStr wholeStr
  rcases object.bind (·.objGet key) with _ | value
  · rfl
  · cases value <;> rfl

/-- The code selects the same string and cuts it at its first NUL. -/
theorem lookupStr_eq (sources : List (Option Json)) (keys : List Bytes) :
    lookupStr sources keys = (wholeLookup sources keys).map cString := by
  simp only [lookupStr, wholeLookup, getStr_eq, List.map_findSome?, Function.comp_def]

theorem wholeLookup_append (first second : List (Option Json)) (keys : List Bytes) :
    wholeLookup (first ++ second) keys =
      (wholeLookup first keys).or (wholeLookup second keys) := by
  simp [wholeLookup, List.findSome?_append]

variable {env : Externals} {event : Json}

/-- The text columns are those whose value is a string of the event. -/
theorem columnValue_text {column : Nat} {keys : List Bytes} (text : textKeys column = some keys)
    (env : Externals) (event : Json) :
    columnValue env event column = textColumnValue env event keys := by
  unfold textKeys at text
  split at text <;> cases text <;> rfl

/-- The pre-check for an opening brace rejects no object. -/
theorem parseRawObject_eq
    (braced : ∀ text members, env.readJson text = some (.obj members) →
      (text.dropWhile isJsonBlank).head? = some 123) (event : Json) :
    parseRawObject env event =
      (wholeStr (some event) (ascii "_raw")).bind fun raw => objectIn env (cString raw) := by
  unfold parseRawObject
  rw [getStr_eq]
  cases wholeStr (some event) (ascii "_raw") with
  | none => rfl
  | some raw =>
    simp only [Option.map_some, Option.bind_some, objectIn]
    split
    · rfl
    next unbraced =>
      cases parsed : env.readJson (cString raw) with
      | none => rfl
      | some root =>
        cases root with
        | obj members => exact absurd (braced _ members parsed) unbraced
        | _ => rfl

@[simp] theorem wholeLookup_missing (keys : List Bytes) : wholeLookup [none] keys = none := by
  have missing : (fun key => wholeStr none key) = fun _ => none := rfl
  simp [wholeLookup, missing]

/-- The value of a text column for the string selected. -/
def textOr (text : Option Bytes) : Value :=
  match text with
  | some text => .varchar text
  | none => .null

theorem textOr_cut_iff (text : Option Bytes) :
    textOr (text.map cString) = textOr text ↔ ∀ found, text = some found → 0 ∉ found := by
  cases text with
  | none => simp [textOr]
  | some found => simp [textOr, cString_eq_iff]

theorem textColumnValue_iff
    (braced : ∀ text members, env.readJson text = some (.obj members) →
      (text.dropWhile isJsonBlank).head? = some 123)
    (nulFree : ∀ text, 0 ∈ text → env.readJson text = none) (event : Json)
    (keys : List Bytes) :
    textColumnValue env event keys = textValue env event keys ↔ Intact env event keys := by
  have code : textColumnValue env event keys =
      textOr (((wholeLookup [some event, eventFields event] keys).or
        (wholeLookup [parseRawObject env event] keys)).map cString) := by
    rw [← wholeLookup_append]
    exact congrArg textOr (lookupStr_eq _ _)
  have meant : textValue env event keys =
      textOr ((wholeLookup [some event, eventFields event] keys).or
        (wholeLookup [rawObject env event] keys)) := by
    rw [← wholeLookup_append]
    rfl
  rw [code, meant, Intact, parseRawObject_eq braced, rawObject]
  cases wholeLookup [some event, eventFields event] keys with
  | some text => simpa using textOr_cut_iff (some text)
  | none =>
    simp only [Option.none_or]
    cases wholeStr (some event) (ascii "_raw") with
    | none => simp
    | some raw =>
      simp only [Option.bind_some]
      -- A NUL in `_raw` makes the code parse a prefix of a text that holds no object.
      by_cases cut : 0 ∈ raw
      · have rejected : objectIn env raw = none := by simp [objectIn, nulFree raw cut]
        rw [if_pos cut, rejected, wholeLookup_missing]
        cases wholeLookup [objectIn env (cString raw)] keys <;> simp [textOr]
      · rw [if_neg cut, cString_of_no_nul raw cut]
        exact textOr_cut_iff _

end Strings

/-- For every event and projection: the row has one slot for each column id, which depends
on that id only and is the column of the full row, the timestamps agree, and each text
column holds the complete string selected if and only if no NUL stands in its way. -/
theorem mapEvent_faithful_iff (env : Externals)
    (braced : ∀ text members, env.readJson text = some (.obj members) →
      (text.dropWhile isJsonBlank).head? = some 123)
    (nulFree : ∀ text, 0 ∈ text → env.readJson text = none) (event : Json)
    (columnIds : List Nat) :
    Faithful env event columnIds (mapEvent env event columnIds) ↔
      ∀ column ∈ columnIds, ∀ keys, textKeys column = some keys → Intact env event keys := by
  constructor
  · intro faithful column member keys text
    obtain ⟨c, selected⟩ := List.mem_iff_getElem?.mp member
    have same := faithful.texts c column keys selected text
    rw [mapEvent_slot env event selected, Option.some.injEq, columnValue_text text] at same
    exact (textColumnValue_iff braced nulFree event keys).mp same
  · intro intact
    constructor
    · simp [mapEvent_eq]
    · intro c column selected
      rw [mapEvent_slot env event selected, fullRow_getD]
    · intro c column keys selected text
      have whole := intact column (List.mem_of_getElem? selected) keys text
      rw [mapEvent_slot env event selected, columnValue_text text,
        (textColumnValue_iff braced nulFree event keys).mpr whole]
    · intro c d first second
      rw [mapEvent_slot env event first, mapEvent_slot env event second]
      rfl

/-- An event without NULs, projected twice on one column. -/
theorem mapEvent_faithful_iff_plain :
    Faithful (.ofRecords []) (.obj [(ascii "trace_id", .str (ascii "ab"))])
      [colTraceId, colTraceId, 17]
      (mapEvent (.ofRecords []) (.obj [(ascii "trace_id", .str (ascii "ab"))])
        [colTraceId, colTraceId, 17]) := by
  refine (mapEvent_faithful_iff (.ofRecords []) (by simp [Externals.ofRecords])
    (by simp [Externals.ofRecords]) _ _).mpr ?_
  intro column member keys text
  simp only [List.mem_cons, List.not_mem_nil, or_false] at member
  have clean : (0 : UInt8) ∉ ascii "ab" := by decide
  rcases member with rfl | rfl | rfl
  · cases text; exact clean
  · cases text; exact clean
  · cases text

/-- A trace id with a NUL in it is cut there. -/
theorem mapEvent_cuts_text :
    ¬Faithful (.ofRecords []) (.obj [(ascii "trace_id", .str [97, 0, 98])]) [colTraceId]
      (mapEvent (.ofRecords []) (.obj [(ascii "trace_id", .str [97, 0, 98])]) [colTraceId]) := by
  intro faithful
  have whole := faithful.texts 0 colTraceId [ascii "trace_id"] rfl rfl
  revert whole
  decide

end SplunkLogs
