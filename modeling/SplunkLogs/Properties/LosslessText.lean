import SplunkLogs.Properties.Attributes
import SplunkLogs.Properties.Projection

/-!
# Text is carried over losslessly

Strings travel as C strings, which end at their first NUL. Text columns, promoted strings and
the payload are complete exactly where no string that is selected has one.
-/
namespace SplunkLogs

/-- The resource attributes of complete strings. -/
def wholeResourceFields (event : Json) : List (Bytes × Json) :=
  resourceKeys.filterMap fun mapping =>
    (wholeStr (some event) mapping.1).map fun value => (mapping.2, Json.str value)

/-- All text of an event is in the output, and nothing else. -/
structure Lossless (env : Externals) (event : Json) : Prop where
  texts : ∀ (columnIds : List Nat) (c column : Nat) (keys : List Bytes),
    columnIds[c]? = some column → textKeys column = some keys →
    (mapEvent env event columnIds)[c]? = some (textValue env event keys)
  promoted : resourceFields event = wholeResourceFields event
  /-- The payload is parsed from the whole `_raw` string. -/
  payload : parseRawObject env event = rawObject env event

/-- No string selected for a column or promoted to an attribute holds a NUL. -/
structure NulFree (env : Externals) (event : Json) : Prop where
  texts : ∀ column keys, textKeys column = some keys → ∀ text,
    wholeLookup [some event, eventFields event, rawObject env event] keys = some text → 0 ∉ text
  promoted : ∀ key, isResourceKey key = true → ∀ text,
    wholeStr (some event) key = some text → 0 ∉ text

variable {env : Externals} {event : Json}

/-- The `_raw` string is the first choice for the body. -/
theorem wholeLookup_raw {raw : Bytes} (sources : List (Option Json))
    (held : wholeStr (some event) (ascii "_raw") = some raw) :
    wholeLookup (some event :: sources) [ascii "_raw", ascii "message"] = some raw := by
  simp [wholeLookup, held]

theorem resourceFields_whole_iff :
    resourceFields event = wholeResourceFields event ↔
      ∀ key, isResourceKey key = true → ∀ text,
        wholeStr (some event) key = some text → 0 ∉ text := by
  have same : ∀ mapping : Bytes × Bytes,
      (getStr (some event) mapping.1).map (fun value => (mapping.2, Json.str value)) =
        (wholeStr (some event) mapping.1).map (fun value => (mapping.2, Json.str value)) ↔
      ∀ text, wholeStr (some event) mapping.1 = some text → 0 ∉ text := by
    intro mapping
    rw [getStr_eq]
    cases wholeStr (some event) mapping.1 with
    | none => simp
    | some text => simp [cString_eq_iff]
  constructor
  · intro equal key metadata text held
    obtain ⟨mapping, listed, isKey⟩ := List.any_eq_true.mp metadata
    have isKey : key = mapping.1 := by simpa using isKey
    subst isKey
    -- Both lists hold the string of this key, and no other entry has its name.
    have cut : InResourceAttributes event mapping.1 (.str text) := by
      refine ⟨mapping.2, listed, ?_⟩
      rw [equal]
      exact List.mem_filterMap.mpr ⟨mapping, listed, by simp [held]⟩
    obtain ⟨_, shown, found, whole⟩ := inResourceAttributes_iff.mp cut
    rw [getStr_eq, held, Option.map_some, Option.some.injEq] at found
    rw [← found, Json.str.injEq] at whole
    exact (cString_eq_iff text).mp whole.symm
  · intro clean
    apply List.filterMap_congr
    intro mapping listed
    apply (same mapping).mpr
    exact clean mapping.1 (List.any_eq_true.mpr ⟨mapping, listed, by simp⟩)

/-- With the whole payload, a text column is complete if its string holds no NUL. -/
theorem textColumnValue_whole_iff (keys : List Bytes)
    (payload : parseRawObject env event = rawObject env event) :
    textColumnValue env event keys = textValue env event keys ↔ ∀ text,
      wholeLookup [some event, eventFields event, rawObject env event] keys = some text →
        0 ∉ text := by
  have code : textColumnValue env event keys = textOr
      ((wholeLookup [some event, eventFields event, rawObject env event] keys).map cString) := by
    rw [← payload]
    exact congrArg textOr (lookupStr_eq _ _)
  rw [code]
  exact textOr_cut_iff _

section Payload

variable (braced : ∀ text members, env.readJson text = some (.obj members) →
  (text.dropWhile isJsonBlank).head? = some 123)

include braced

/-- The `_raw` string is selected for the body, so the payload is parsed whole. -/
theorem parseRawObject_whole (clean : NulFree env event) :
    parseRawObject env event = rawObject env event := by
  rw [parseRawObject_eq braced, rawObject]
  cases held : wholeStr (some event) (ascii "_raw") with
  | none => rfl
  | some raw =>
    have uncut : 0 ∉ raw := clean.texts colBody _ rfl raw (wholeLookup_raw _ held)
    rw [Option.bind_some, Option.bind_some, cString_of_no_nul raw uncut]

/-- For every event: text columns, promoted strings and the payload are complete if and only
if no string that is selected holds a NUL. -/
theorem lossless_iff : Lossless env event ↔ NulFree env event := by
  constructor
  · intro lossless
    constructor
    · intro c keys isText
      have whole := lossless.texts [c] 0 c keys rfl isText
      rw [mapEvent_eq, List.map_singleton, columnValue_text isText] at whole
      exact (textColumnValue_whole_iff keys lossless.payload).mp (Option.some.inj whole)
    · exact resourceFields_whole_iff.mp lossless.promoted
  · intro clean
    have payload := parseRawObject_whole braced clean
    constructor
    · intro columnIds slot c keys projected isText
      rw [mapEvent_slot env event projected, columnValue_text isText,
        (textColumnValue_whole_iff keys payload).mpr (clean.texts c keys isText)]
    · exact resourceFields_whole_iff.mpr clean.promoted
    · exact payload

end Payload

/-- An event with a trace id and a host. -/
theorem lossless_plain :
    Lossless (.ofRecords []) (.obj [(ascii "trace_id", .str (ascii "t")),
      (ascii "host", .str (ascii "h"))]) := by
  apply (lossless_iff (by simp [Externals.ofRecords])).mpr
  constructor
  · intro column keys isText text held
    unfold textKeys at isText
    split at isText <;> cases isText <;> cases held
    decide
  · intro key metadata text held
    obtain ⟨mapping, listed, same⟩ := List.any_eq_true.mp metadata
    have same : key = mapping.1 := by simpa using same
    subst same
    simp only [resourceKeys, List.mem_cons, List.not_mem_nil, or_false] at listed
    rcases listed with rfl | rfl | rfl | rfl | rfl <;> cases held
    decide

/-- A body with a NUL in it is cut there. -/
theorem body_cut_at_nul :
    ¬Lossless (.ofRecords []) (.obj [(ascii "_raw", .str [97, 0, 98])]) := by
  intro lossless
  have whole := lossless.texts [colBody] 0 colBody [ascii "_raw", ascii "message"] rfl rfl
  revert whole
  decide

end SplunkLogs
