import SplunkLogs.Model.Response

/-!
# The shapes of a record

An event arrives wrapped in a `result`, in a list of `results` or flat. The wrappers deliver
any event; a flat event is delivered exactly when none of its own fields is taken for a part
of another kind of record.
-/
namespace SplunkLogs

/-- The line is not empty and the parser reads it as `root`. -/
def Reads (env : Externals) (line : Bytes) (root : Json) : Prop :=
  stripCarriageReturns line ≠ [] ∧ env.readJson (stripCarriageReturns line) = some root

/-- The export shape of an event. -/
def resultRecord (event : Json) : Json :=
  .obj [(ascii "preview", .bool false), (ascii "result", event)]

/-- The buffered shape of a list of events. -/
def resultsRecord (events : List Json) : Json := .obj [(ascii "results", .arr events)]

/-- One of the keys that tell a flat event from a control record. -/
def EventLike (event : Json) : Prop :=
  (event.objGet (ascii "_time")).isSome ∨ (event.objGet (ascii "_raw")).isSome ∨
    (event.objGet (ascii "message")).isSome

/-- No field of the event is taken for a preview flag, a wrapper or an error message. -/
structure Unambiguous (event : Json) : Prop where
  preview : event.objGet (ascii "preview") ≠ some (.bool true)
  result : ∀ members, event.objGet (ascii "result") ≠ some (.obj members)
  results : ∀ items, event.objGet (ascii "results") ≠ some (.arr items)
  messages : ∀ messages, event.objGet (ascii "messages") = some (.arr messages) →
    ∀ msg ∈ messages, messageError msg = none

/-- A record in the line is checked for errors first. -/
theorem parseExportLine_reads {env : Externals} {line : Bytes} {root : Json}
    (reads : Reads env line root) :
    parseExportLine env line =
      (throwIfSearchError root).bind fun _ => .ok (extractEventsFromRoot root) := by
  obtain ⟨filled, parsed⟩ := reads
  have nonempty : (stripCarriageReturns line).isEmpty = false := by simpa using filled
  simp only [parseExportLine, nonempty, parsed, Bool.false_eq_true, if_false]
  rfl

theorem throwIfSearchError_ok {root : Json} :
    throwIfSearchError root = .ok () ↔ ∀ messages,
      root.objGet (ascii "messages") = some (.arr messages) →
        ∀ msg ∈ messages, messageError msg = none := by
  unfold throwIfSearchError
  split
  next messages found =>
    rw [found]
    cases error : messages.findSome? messageError with
    | some _ =>
      obtain ⟨msg, member, thrown⟩ := List.exists_of_findSome?_eq_some error
      simp only [reduceCtorEq, false_iff]
      intro silent
      rw [silent messages rfl msg member] at thrown
      cases thrown
    | none =>
      simp only [true_iff]
      rintro _ ⟨⟩ msg member
      exact List.findSome?_eq_none_iff.mp error msg member
  next other =>
    simp only [true_iff]
    intro messages found
    exact absurd found (other messages)

section Wrappers

variable {env : Externals} {line : Bytes}

/-- A wrapped event is delivered as it is. -/
theorem parseExportLine_result {event : Json} (object : event.isObj = true)
    (reads : Reads env line (resultRecord event)) :
    parseExportLine env line = .ok [event] := by
  rw [parseExportLine_reads reads]
  cases event with
  | obj members => rfl
  | _ => cases object

/-- So are all events of a list. -/
theorem parseExportLine_results {events : List Json}
    (objects : ∀ event ∈ events, event.isObj = true)
    (reads : Reads env line (resultsRecord events)) :
    parseExportLine env line = .ok events := by
  have kept : events.filter Json.isObj = events := List.filter_eq_self.mpr objects
  have delivered : extractEventsFromRoot (resultsRecord events) = events := kept
  rw [parseExportLine_reads reads, delivered]
  rfl

/-- The lines of single results, one after the other. -/
theorem parseExportLine_each {lines : List Bytes} {events : List Json}
    (objects : ∀ event ∈ events, event.isObj = true)
    (reads : List.Forall₂ (fun line event => Reads env line (resultRecord event)) lines events) :
    lines.mapM (parseExportLine env) = .ok (events.map fun event => [event]) := by
  induction reads with
  | nil => rfl
  | @cons line event lines events first _ ih =>
    obtain ⟨object, others⟩ := List.forall_mem_cons.mp objects
    rw [List.mapM_cons, parseExportLine_result object first, ih others]
    rfl

theorem parseExportLine_joined {lines : List Bytes} {events : List Json}
    (objects : ∀ event ∈ events, event.isObj = true)
    (reads : List.Forall₂ (fun line event => Reads env line (resultRecord event)) lines events) :
    (lines.mapM (parseExportLine env)).map List.flatten = .ok events := by
  have joined : (events.map fun event => [event]).flatten = events := by
    rw [← List.flatMap_def, List.flatMap_singleton']
  rw [parseExportLine_each objects reads, Except.map, joined]

end Wrappers

/-- A value is not a member of itself. -/
theorem Json.objGet_sizeOf {value found : Json} {key : Bytes}
    (member : value.objGet key = some found) : sizeOf found < sizeOf value := by
  cases value with
  | obj members =>
    simp only [Json.objGet, Option.map_eq_some_iff] at member
    obtain ⟨pair, first, rfl⟩ := member
    have inside := List.sizeOf_lt_of_mem (List.mem_of_find?_eq_some first)
    rcases pair with ⟨name, content⟩
    simp only [Json.obj.sizeOf_spec, Prod.mk.sizeOf_spec] at inside ⊢
    omega
  | _ => cases member

/-- The flat shape delivers its event if no other kind of record is seen in it. -/
theorem extractEventsFromRoot_flat {event : Json} (object : event.isObj = true)
    (eventLike : EventLike event) :
    extractEventsFromRoot event = [event] ↔
      event.objGet (ascii "preview") ≠ some (.bool true) ∧
      (∀ members, event.objGet (ascii "result") ≠ some (.obj members)) ∧
      ∀ items, event.objGet (ascii "results") ≠ some (.arr items) := by
  simp only [extractEventsFromRoot, object, Bool.not_true, Bool.false_eq_true, if_false]
  split
  next preview => simp [preview]
  next shown =>
    split
    next members found =>
      -- The object under `result` would have to be the event itself.
      have smaller := Json.objGet_sizeOf found
      simp only [List.cons.injEq, and_true]
      constructor
      · intro same
        rw [same] at smaller
        exact absurd smaller (lt_irrefl _)
      · rintro ⟨_, wrapped, _⟩
        exact absurd found (wrapped members)
    next unwrapped =>
      split
      next items found =>
        have smaller := Json.objGet_sizeOf found
        constructor
        · intro same
          have member : event ∈ items :=
            (List.mem_filter.mp (same ▸ List.mem_singleton_self event)).1
          have inside := List.sizeOf_lt_of_mem member
          simp only [Json.arr.sizeOf_spec] at smaller
          omega
        · rintro ⟨_, _, listed⟩
          exact absurd found (listed items)
      next unlisted =>
        have real : ((event.objGet (ascii "_time")).isSome ||
            (event.objGet (ascii "_raw")).isSome ||
            (event.objGet (ascii "message")).isSome) = true := by
          simpa [EventLike, or_assoc] using eventLike
        rw [if_pos real]
        exact iff_of_true rfl ⟨shown, unwrapped, unlisted⟩

theorem parseExportLine_flat {env : Externals} {line : Bytes} {event : Json}
    (object : event.isObj = true) (eventLike : EventLike event) (reads : Reads env line event) :
    parseExportLine env line = .ok [event] ↔ Unambiguous event := by
  rw [parseExportLine_reads reads]
  constructor
  · intro delivered
    cases thrown : throwIfSearchError event with
    | error error => simp [thrown, Except.bind] at delivered
    | ok _ =>
      rw [thrown] at delivered
      have only : extractEventsFromRoot event = [event] := by simpa [Except.bind] using delivered
      obtain ⟨preview, result, results⟩ := (extractEventsFromRoot_flat object eventLike).mp only
      exact ⟨preview, result, results, throwIfSearchError_ok.mp thrown⟩
  · intro plain
    rw [throwIfSearchError_ok.mpr plain.messages,
      (extractEventsFromRoot_flat object eventLike).mpr
        ⟨plain.preview, plain.result, plain.results⟩]
    rfl

/-- For every event with one of the keys of events: the three shapes deliver the event
alone, and lists the same as their events one by one, if and only if the event is not
taken for another kind of record when it is flat. -/
theorem record_shapes_agree_iff (env : Externals) {event : Json} {wrapped listed flat : Bytes}
    (object : event.isObj = true) (eventLike : EventLike event)
    (readsWrapped : Reads env wrapped (resultRecord event))
    (readsListed : Reads env listed (resultsRecord [event]))
    (readsFlat : Reads env flat event) :
    (parseExportLine env wrapped = .ok [event] ∧ parseExportLine env listed = .ok [event] ∧
      parseExportLine env flat = .ok [event] ∧
      ∀ (events : List Json) (line : Bytes) (lines : List Bytes),
        (∀ element ∈ events, element.isObj = true) → Reads env line (resultsRecord events) →
        List.Forall₂ (fun line element => Reads env line (resultRecord element)) lines events →
        parseExportLine env line = .ok events ∧
          (lines.mapM (parseExportLine env)).map List.flatten = .ok events) ↔
      Unambiguous event := by
  constructor
  · rintro ⟨_, _, delivered, _⟩
    exact (parseExportLine_flat object eventLike readsFlat).mp delivered
  · intro plain
    refine ⟨parseExportLine_result object readsWrapped, ?_,
      (parseExportLine_flat object eventLike readsFlat).mpr plain, ?_⟩
    · apply parseExportLine_results _ readsListed
      simpa using object
    · intro events line lines objects reads each
      exact ⟨parseExportLine_results objects reads, parseExportLine_joined objects each⟩

/-- A parser that knows the three shapes of one event. -/
def shapeRecords (event : Json) : Externals :=
  .ofRecords [(ascii "wrapped", resultRecord event), (ascii "listed", resultsRecord [event]),
    (ascii "flat", event)]

/-- An event with a field of its own. -/
theorem record_shapes_agree_plain :
    parseExportLine (shapeRecords (.obj [(ascii "_raw", .str []), (ascii "level", .null)]))
      (ascii "flat") = .ok [.obj [(ascii "_raw", .str []), (ascii "level", .null)]] := by
  refine ((@record_shapes_agree_iff (shapeRecords _) _ (ascii "wrapped") (ascii "listed") _ rfl
    (Or.inr (Or.inl rfl)) ⟨by decide, rfl⟩ ⟨by decide, rfl⟩ ⟨by decide, rfl⟩).mpr ?_).2.2.1
  constructor
  · intro found; cases found
  · intro members found; cases found
  · intro items found; cases found
  · intro messages found; cases found

/-- An event with an object of its own under `result`. -/
def nestedResult : Json :=
  .obj [(ascii "_raw", .str (ascii "x")), (ascii "result", .obj [(ascii "code", .null)])]

/-- Flat, the event is replaced by its field. -/
theorem record_shapes_differ :
    nestedResult.isObj = true ∧ EventLike nestedResult ∧
    Reads (shapeRecords nestedResult) (ascii "flat") nestedResult ∧
    parseExportLine (shapeRecords nestedResult) (ascii "wrapped") = .ok [nestedResult] ∧
    parseExportLine (shapeRecords nestedResult) (ascii "flat") ≠ .ok [nestedResult] := by
  refine ⟨rfl, Or.inr (Or.inl rfl), ⟨by decide, rfl⟩, rfl, ?_⟩
  intro same
  have delivered : parseExportLine (shapeRecords nestedResult) (ascii "flat") =
      .ok [.obj [(ascii "code", .null)]] := rfl
  rw [delivered] at same
  simp [nestedResult] at same

end SplunkLogs
