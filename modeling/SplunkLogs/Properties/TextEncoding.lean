import SplunkLogs.Foundation.Utf8
import SplunkLogs.Properties.Attributes
import SplunkLogs.Properties.Exceptions
import SplunkLogs.Properties.Projection
import SplunkLogs.Properties.RecordShapes
import SplunkLogs.Properties.RowSource

/-!
# Texts stay UTF-8

A text value of a row must be UTF-8. The texts are C strings, so they end at the first NUL of
a JSON string; the cut is between two characters.
-/
namespace SplunkLogs

open Foundation (IsUtf8 isUtf8_iff utf8_isolated)

/-- A JSON value whose strings and keys are all UTF-8. -/
inductive Json.WellEncoded : Json → Prop
  | null : WellEncoded .null
  | bool (value : Bool) : WellEncoded (.bool value)
  | num (value : JsonNumber) : WellEncoded (.num value)
  | str {value : Bytes} (valid : IsUtf8 value) : WellEncoded (.str value)
  | arr {items : List Json} (valid : ∀ item ∈ items, WellEncoded item) : WellEncoded (.arr items)
  | obj {members : List (Bytes × Json)} (keys : ∀ member ∈ members, IsUtf8 member.1)
      (values : ∀ member ∈ members, WellEncoded member.2) : WellEncoded (.obj members)

/-- The JSON library rejects texts that are not UTF-8 and writes no others. -/
structure Externals.KeepsUtf8 (env : Externals) : Prop where
  read : ∀ text json, env.readJson text = some json → json.WellEncoded
  written : ∀ json : Json, json.WellEncoded → IsUtf8 (env.writeJson json)

def Value.WellEncoded : Value → Prop
  | .varchar text => IsUtf8 text
  | _ => True

theorem isUtf8_ascii {text : Bytes} (small : text.all (· < 128) = true) : IsUtf8 text :=
  .ascii fun b member => of_decide_eq_true (List.all_eq_true.mp small b member)

theorem isUtf8_cString {text : Bytes} (valid : IsUtf8 text) : IsUtf8 (cString text) := by
  have isolated := utf8_isolated (p := (· == 0)) fun b zero => by
    rw [eq_of_beq zero]
    decide
  exact isUtf8_iff.mpr ((isUtf8_iff.mp valid).takeWhile_not isolated)

section Reading

variable {json event : Json} {source rawObj : Option Json} {key text : Bytes}

theorem Json.WellEncoded.objGet (encoded : json.WellEncoded) {value : Json}
    (found : json.objGet key = some value) : value.WellEncoded := by
  cases encoded with
  | obj keys values =>
    obtain ⟨member, first, rfl⟩ := Option.map_eq_some_iff.mp found
    exact values member (List.mem_of_find?_eq_some first)
  | _ => simp [Json.objGet] at found

theorem isUtf8_getStr (encoded : ∀ json ∈ source, json.WellEncoded)
    (found : getStr source key = some text) : IsUtf8 text := by
  unfold getStr at found
  split at found
  next value same =>
    obtain ⟨object, there, stored⟩ := Option.bind_eq_some_iff.mp same
    cases (encoded object there).objGet stored with
    | str valid => exact Option.some.inj found ▸ isUtf8_cString valid
  · cases found

theorem isUtf8_lookupStr {sources : List (Option Json)} {keys : List Bytes}
    (encoded : ∀ source ∈ sources, ∀ json ∈ source, json.WellEncoded)
    (found : lookupStr sources keys = some text) : IsUtf8 text := by
  obtain ⟨source, member, inner⟩ := List.exists_of_findSome?_eq_some found
  obtain ⟨key, _, read⟩ := List.exists_of_findSome?_eq_some inner
  exact isUtf8_getStr (encoded source member) read

end Reading

section Mapping

variable {env : Externals} (keeps : env.KeepsUtf8) {event : Json} (encoded : event.WellEncoded)

include encoded in
theorem eventFields_wellEncoded : ∀ json ∈ eventFields event, json.WellEncoded := by
  intro json there
  exact encoded.objGet (Option.filter_eq_some_iff.mp there).1

include keeps in
/-- The payload is read from a text of its own. -/
theorem parseRawObject_wellEncoded :
    ∀ json ∈ parseRawObject env event, json.WellEncoded := by
  intro json there
  unfold parseRawObject at there
  split at there
  · cases there
  · split at there
    · split at there
      next members parsed =>
        exact Option.some.inj there ▸ keeps.read _ _ parsed
      · cases there
    · cases there

include keeps encoded

theorem sources_wellEncoded : ∀ source ∈ [some event, eventFields event,
    parseRawObject env event], ∀ json ∈ source, json.WellEncoded := by
  simp only [List.forall_mem_cons, List.not_mem_nil, false_implies, implies_true, and_true]
  refine ⟨?_, eventFields_wellEncoded encoded, parseRawObject_wellEncoded keeps⟩
  rintro _ ⟨⟩
  exact encoded

theorem textColumnValue_wellEncoded (keys : List Bytes) :
    (textColumnValue env event keys).WellEncoded := by
  unfold textColumnValue
  split
  next text found => exact isUtf8_lookupStr (sources_wellEncoded keeps encoded) found
  · trivial

omit encoded in
/-- A written object of fields that are UTF-8. -/
theorem attributesText_wellEncoded {fields : List (Bytes × Json)}
    (keys : ∀ field ∈ fields, IsUtf8 field.1) (values : ∀ field ∈ fields, field.2.WellEncoded) :
    (attributesValue (attributesText env fields)).WellEncoded := by
  unfold attributesValue
  split
  · trivial
  next some_ =>
    unfold attributesText at some_ ⊢
    split
    · simp_all
    · exact keeps.written _ (.obj keys values)

theorem resourceAttributes_wellEncoded :
    (attributesValue (buildResourceAttributes env event)).WellEncoded := by
  rw [buildResourceAttributes_eq]
  apply attributesText_wellEncoded keeps
  · intro field member
    obtain ⟨mapping, listed, read⟩ := List.mem_filterMap.mp member
    obtain ⟨_, _, rfl⟩ := Option.map_eq_some_iff.mp read
    -- The keys of the OTLP attributes are ASCII.
    have letters : (resourceKeys.all fun mapping => mapping.2.all (· < 128)) = true := by decide
    exact isUtf8_ascii (List.all_eq_true.mp letters mapping listed)
  · intro field member
    obtain ⟨mapping, _, read⟩ := List.mem_filterMap.mp member
    obtain ⟨text, found, rfl⟩ := Option.map_eq_some_iff.mp read
    exact .str (isUtf8_getStr (by rintro _ ⟨⟩; exact encoded) found)

omit keeps encoded in
theorem visibleFields_wellEncoded (source : Option Json)
    (encoded : ∀ json ∈ source, json.WellEncoded) :
    ∀ field ∈ visibleFields (sourceMembers source), IsUtf8 field.1 ∧ field.2.WellEncoded := by
  intro field visible
  obtain ⟨member, inside, rfl⟩ := List.mem_map.mp (List.mem_filter.mp visible).1
  cases source with
  | none => cases inside
  | some json =>
    cases encoded json rfl with
    | obj keys values => exact ⟨isUtf8_cString (keys member inside), values member inside⟩
    | _ => cases inside

theorem logAttributes_wellEncoded (object : event.isObj = true) :
    (attributesValue
      (buildLogAttributes env event (parseRawObject env event))).WellEncoded := by
  cases event with
  | obj members =>
    rw [buildLogAttributes_eq]
    have fields : ∀ field ∈ logFields members (parseRawObject env (.obj members)),
        IsUtf8 field.1 ∧ field.2.WellEncoded := by
      intro field member
      rcases List.mem_append.mp ((logFields_firstWins members _).subset member) with own | raw
      · exact visibleFields_wellEncoded (some (.obj members)) (by rintro _ ⟨⟩; exact encoded)
          field own
      · exact visibleFields_wellEncoded _ (parseRawObject_wellEncoded keeps) field raw
    exact attributesText_wellEncoded keeps (fun field member => (fields field member).1)
      fun field member => (fields field member).2
  | _ => cases object

theorem columnValue_wellEncoded (object : event.isObj = true) (column : Nat) :
    (columnValue env event column).WellEncoded := by
  have stamp : (timestampValue env event).WellEncoded := by
    unfold timestampValue
    split <;> trivial
  unfold columnValue
  split
  · exact stamp
  · exact stamp
  · exact textColumnValue_wellEncoded keeps encoded _
  · exact textColumnValue_wellEncoded keeps encoded _
  · exact textColumnValue_wellEncoded keeps encoded _
  · split <;> trivial
  · exact textColumnValue_wellEncoded keeps encoded
      [ascii "level", ascii "severity", ascii "status"]
  · exact textColumnValue_wellEncoded keeps encoded _
  · exact resourceAttributes_wellEncoded keeps encoded
  · exact logAttributes_wellEncoded keeps encoded object
  · trivial

end Mapping

section Records

/-- The events of a record are objects of its own. -/
theorem extractEventsFromRoot_wellEncoded {root event : Json} (encoded : root.WellEncoded)
    (read : event ∈ extractEventsFromRoot root) :
    event.isObj = true ∧ event.WellEncoded := by
  unfold extractEventsFromRoot at read
  split at read
  · cases read
  next object =>
    split at read
    · cases read
    · split at read
      next members found =>
        obtain rfl := List.mem_singleton.mp read
        exact ⟨rfl, encoded.objGet found⟩
      · split at read
        next items found =>
          obtain ⟨member, inside⟩ := List.mem_filter.mp read
          cases encoded.objGet found with
          | arr valid => exact ⟨inside, valid event member⟩
        · split at read
          · obtain rfl := List.mem_singleton.mp read
            exact ⟨by simpa using object, encoded⟩
          · cases read

/-- The two texts of an error are strings of one message. -/
theorem throwIfSearchError_wellEncoded {root : Json} {error : SearchError}
    (encoded : root.WellEncoded) (threw : throwIfSearchError root = .error error) :
    IsUtf8 error.message := by
  unfold throwIfSearchError at threw
  split at threw
  next messages found =>
    split at threw
    next first same =>
      obtain rfl := Except.error.inj threw
      obtain ⟨msg, member, gives⟩ := List.exists_of_findSome?_eq_some same
      have own : ∀ json ∈ some msg, json.WellEncoded := by
        rintro _ ⟨⟩
        cases encoded.objGet found with
        | arr valid => exact valid _ member
      unfold messageError at gives
      split at gives
      next type typed =>
        split at gives
        · obtain rfl := Option.some.inj gives
          have text : IsUtf8 ((getStr (some msg) (ascii "text")).getD (ascii "(no detail)")) := by
            cases given : getStr (some msg) (ascii "text") with
            | none => exact isUtf8_ascii (by decide)
            | some text => exact isUtf8_getStr own given
          have label : IsUtf8 (ascii "Splunk search error (") := isUtf8_ascii (by decide)
          have colon : IsUtf8 (ascii "): ") := isUtf8_ascii (by decide)
          exact ((label.append (isUtf8_getStr own typed)).append colon).append text
        · cases gives
      · cases gives
    · cases threw
  · cases threw

/-- A line without a record, and one with it. -/
theorem parseExportLine_cases (env : Externals) (line : Bytes) :
    parseExportLine env line = .ok [] ∨
    ∃ root, env.readJson (stripCarriageReturns line) = some root ∧
      parseExportLine env line =
        (throwIfSearchError root).bind fun _ => .ok (extractEventsFromRoot root) := by
  cases empty : (stripCarriageReturns line).isEmpty with
  | true => exact .inl (by simp [parseExportLine, empty])
  | false =>
    cases parsed : env.readJson (stripCarriageReturns line) with
    | none => exact .inl (by simp [parseExportLine, empty, parsed])
    | some root =>
      exact .inr ⟨root, rfl, parseExportLine_reads ⟨by simpa using empty, parsed⟩⟩

variable {env : Externals} (keeps : env.KeepsUtf8)

include keeps

theorem parseExportLine_wellEncoded {line : Bytes} {events : List Json}
    (parsed : parseExportLine env line = .ok events) :
    ∀ event ∈ events, event.isObj = true ∧ event.WellEncoded := by
  rcases parseExportLine_cases env line with none_ | ⟨root, read, same⟩
  · obtain rfl := Except.ok.inj (none_.symm.trans parsed)
    exact nofun
  · rw [same] at parsed
    cases checked : throwIfSearchError root with
    | error => rw [checked] at parsed; cases parsed
    | ok =>
      rw [checked] at parsed
      obtain rfl := Except.ok.inj parsed
      exact fun event => extractEventsFromRoot_wellEncoded (keeps.read _ _ read)

theorem parseExportLine_message {line : Bytes} {error : SearchError}
    (failed : parseExportLine env line = .error error) : IsUtf8 error.message := by
  rcases parseExportLine_cases env line with none_ | ⟨root, read, same⟩
  · cases none_.symm.trans failed
  · rw [same] at failed
    cases checked : throwIfSearchError root with
    | error =>
      rw [checked] at failed
      obtain rfl := Except.error.inj failed
      exact throwIfSearchError_wellEncoded (keeps.read _ _ read) checked
    | ok => rw [checked] at failed; cases failed

omit keeps in
theorem RowOf.wellEncoded {input : ScanInput} {body : Bytes} {row : Row}
    (keeps : input.env.KeepsUtf8) (read : RowOf input body row) :
    ∀ value ∈ row, value.WellEncoded := by
  obtain ⟨line, _, event, member, rfl⟩ := read
  have known : event.isObj = true ∧ event.WellEncoded := by
    rw [lineEvents, ← parseExportLine_eq] at member
    split at member
    next events parsed => exact parseExportLine_wellEncoded keeps parsed event member
    · cases member
  intro value inside
  rw [mapEvent_eq] at inside
  obtain ⟨column, _, rfl⟩ := List.mem_map.mp inside
  exact columnValue_wellEncoded keeps known.2 known.1 column

end Records

/-- Where the JSON library keeps to UTF-8, so do both builds: every text value of a row that is
handed out or waits is UTF-8, and so is the text of a search error that is thrown; natively in
every reachable state, and in browser builds over every sequence of calls. -/
theorem texts_wellEncoded (env : Externals) (keeps : env.KeepsUtf8) :
    (∀ sys s, sys.input.env = env → (native sys).Reachable s →
      (∀ row ∈ s.delivered ++ s.buffer, ∀ value ∈ row, value.WellEncoded) ∧
      ∀ error, s.main = .threw (.consumer error) → IsUtf8 error.message) ∧
    (∀ input vectorSize url answers, input.env = env →
      (∀ page, .ok page ∈ ({} : BrowserState).results input vectorSize url answers →
        ∀ row ∈ page, ∀ value ∈ row, value.WellEncoded) ∧
      (∀ row ∈ (BrowserState.after input vectorSize url answers).browser.buffer,
        ∀ value ∈ row, value.WellEncoded) ∧
      ∀ error, .error (.search error) ∈
        ({} : BrowserState).results input vectorSize url answers → IsUtf8 error.message) := by
  constructor
  · rintro sys s rfl reachable
    constructor
    · exact fun row handed => (native_rowOf sys s reachable row handed).wellEncoded keeps
    · intro error threw
      obtain ⟨line, failed⟩ := native_errorOf sys s reachable error threw
      exact parseExportLine_message keeps failed
  · rintro input vectorSize url answers rfl
    obtain ⟨pages, waiting⟩ := browser_rowOf input vectorSize url answers
    refine ⟨fun page returned row member => (pages page returned row member).wellEncoded keeps,
      fun row waits => (waiting row waits).wellEncoded keeps, fun error threw => ?_⟩
    obtain ⟨line, failed⟩ := results_errorOf threw
    exact parseExportLine_message keeps failed

/-- A text of a character of two bytes, a NUL and another character. -/
def accentText : Bytes := [195, 169, 0, 120]

def accentEvent : Json := .obj [(ascii "_raw", .str accentText)]

/-- The event as it stands in a response. -/
def accentRecord : Bytes :=
  ascii "\x7b\"_raw\":\"" ++ [195, 169] ++ ascii "\\u0000x\"\x7d"

/-- The JSON library on that record. -/
theorem accentRecord_keepsUtf8 : (Externals.ofRecords [(accentRecord, accentEvent)]).KeepsUtf8 := by
  have valid : IsUtf8 accentText := isUtf8_iff.mpr ⟨['é', Char.ofNat 0, 'x'], by decide⟩
  constructor
  · intro text json parsed
    obtain ⟨record, listed, rfl⟩ := Option.map_eq_some_iff.mp parsed
    rw [List.mem_singleton.mp (List.mem_of_find?_eq_some listed)]
    refine .obj ?_ ?_
    · exact List.forall_mem_singleton.mpr (isUtf8_ascii (by decide))
    · exact List.forall_mem_singleton.mpr (.str valid)
  · intro json _
    have braces : IsUtf8 (ascii "\x7b\x7d") := isUtf8_ascii (by decide)
    exact braces

/-- A scan of that record. -/
def accentSetup : Setup where
  client := ⟨[], 0, fun _ => 1⟩
  input := ⟨.ofRecords [(accentRecord, accentEvent)], [colBody], 0⟩
  server _ := (⟨200, none⟩, accentRecord ++ [newline])
  vectorSize := 1
  vectorSize_pos := Nat.one_pos

/-- The row handed over ends in front of the NUL, behind the whole character. -/
theorem texts_wellEncoded_accent :
    ∃ s, (native accentSetup).Reachable s ∧ s.buffer = [[.varchar [195, 169]]] ∧
      ∀ row ∈ s.delivered ++ s.buffer, ∀ value ∈ row, value.WellEncoded := by
  have received := (answerBegun_reachable accentSetup).step
    (.producer _ (.own _ (.content (accentRecord ++ [newline]) [] rfl rfl rfl)))
  have parsed := received.step (.producer _ (.own _
    (.line 0 accentRecord.length [accentEvent] rfl rfl (by decide) rfl)))
  have built := parsed.step (.producer _ (.own _ (.mapRow accentEvent [] _ rfl rfl (by decide))))
  have pushed := built.step (.producer _ (.push _ [] _ rfl (by decide) rfl rfl (by decide)))
  exact ⟨_, pushed, by decide,
    ((texts_wellEncoded _ accentRecord_keepsUtf8).1 accentSetup _ rfl pushed).1⟩

end SplunkLogs
