import SplunkLogs.Properties.BrowserReading
import SplunkLogs.Properties.Exhaustion

/-!
# Where the native and the browser build agree

Both builds read the same rows. They part on one point only: the native producer reads on
behind the event that fills the cap until it meets another event, and so meets an error
record that the browser never looks at.
-/
namespace SplunkLogs

open Foundation (TransitionSystem)

@[simp] theorem Outcome.result_prepend (rows : List Row) (a b : Outcome) :
    (a.prepend rows).result = (b.prepend rows).result ↔ a.result = b.result := by
  obtain ⟨_, _ | _⟩ := a <;> obtain ⟨_, _ | _⟩ := b <;> simp [result, prepend]

/-- What a query sees of the browser scan, run to exhaustion. -/
def Browser.result (input : ScanInput) (vectorSize : Nat) (state : Browser) :
    Except (ClientError SearchError) (List Row) :=
  let (rows, error) := state.run input vectorSize
  (⟨rows, error⟩ : Outcome).result

/-- The events of a line, none if it is an error record. -/
def lineEvents (input : ScanInput) (line : Bytes) : List Json :=
  match readLine input.env line with
  | .ok events => events
  | .error _ => []

/-- With `produced` rows read before, an error record follows the event that fills the cap,
without another event in between. -/
def ErrorAtCap (input : ScanInput) (lines : List Bytes) (produced : Nat) : Prop :=
  0 < input.cap ∧ ∃ before line after error, lines = before ++ line :: after ∧
    readLine input.env line = .error error ∧
    (∀ earlier ∈ before, ∃ events, readLine input.env earlier = .ok events) ∧
    produced + (before.flatMap (lineEvents input)).length = input.cap

section Cap

variable {input : ScanInput}

theorem lineEvents_of_ok {line : Bytes} {events : List Json}
    (parsed : parseExportLine input.env line = .ok events) : lineEvents input line = events := by
  rw [lineEvents, ← parseExportLine_eq, parsed]

/-- A record whose events stay within the cap. -/
theorem mapEvents_within {next : Nat → Outcome} {produced : Nat} {events : List Json}
    (within : 0 < input.cap → produced + events.length ≤ input.cap) :
    mapEvents input next produced events =
      (next (produced + events.length)).prepend
        (events.map fun event => mapEvent input.env event input.columnIds) := by
  -- The cap is not reached at any of the events.
  induction events generalizing produced with
  | nil => rfl
  | cons event rest ih =>
    simp only [List.length_cons] at within
    have open_ : ¬(0 < input.cap ∧ input.cap ≤ produced) := by
      rintro ⟨capped, full⟩
      have := within capped
      omega
    have later : 0 < input.cap → produced + 1 + rest.length ≤ input.cap := by
      intro capped
      have := within capped
      omega
    have count : produced + (event :: rest).length = produced + 1 + rest.length := by
      simp only [List.length_cons]
      omega
    rw [mapEvents, if_neg open_, ih later, count, Outcome.prepend_prepend]
    rfl

/-- Behind a record with more events than the cap admits, nothing is read. -/
theorem mapEvents_beyond (next next' : Nat → Outcome) {produced : Nat} {events : List Json}
    (capped : 0 < input.cap) (below : produced ≤ input.cap)
    (beyond : input.cap < produced + events.length) :
    mapEvents input next produced events = mapEvents input next' produced events := by
  induction events generalizing produced with
  | nil => simp at beyond; omega
  | cons event rest ih =>
    simp only [mapEvents]
    split
    · rfl
    next open_ =>
      have room : ¬input.cap ≤ produced := not_and.mp open_ capped
      rw [ih (by omega) (by simp only [List.length_cons] at beyond; omega)]

theorem mapEvents_full {next : Nat → Outcome} {produced : Nat} {events : List Json}
    (full : input.Full produced) (stops : next produced = .done) :
    mapEvents input next produced events = .done := by
  cases events with
  | nil => exact stops
  | cons event rest => exact if_pos full

/-- A record without an error in front decides the cap for the lines behind it. -/
theorem errorAtCap_cons {line : Bytes} {rest : List Bytes} {produced : Nat}
    {events : List Json} (parsed : parseExportLine input.env line = .ok events) :
    ErrorAtCap input (line :: rest) produced ↔
      ErrorAtCap input rest (produced + events.length) := by
  have own : lineEvents input line = events := lineEvents_of_ok parsed
  rw [parseExportLine_eq] at parsed
  constructor
  · rintro ⟨capped, before, bad, after, error, split, failed, earlier, count⟩
    -- The error record is not this line, so it stands further on.
    cases before with
    | nil =>
      simp only [List.nil_append, List.cons.injEq] at split
      rw [← split.1, parsed] at failed
      cases failed
    | cons first before =>
      simp only [List.cons_append, List.cons.injEq] at split
      obtain ⟨rfl, rfl⟩ := split
      refine ⟨capped, before, bad, after, error, rfl, failed,
        fun l member => earlier l (List.mem_cons_of_mem _ member), ?_⟩
      rw [List.flatMap_cons, own, List.length_append] at count
      omega
  · rintro ⟨capped, before, bad, after, error, rfl, failed, earlier, count⟩
    refine ⟨capped, line :: before, bad, after, error, rfl, failed, ?_, ?_⟩
    · intro l member
      rcases List.mem_cons.mp member with rfl | member
      · exact ⟨events, parsed⟩
      · exact earlier l member
    · rw [List.flatMap_cons, own, List.length_append]
      omega

theorem errorAtCap_error {line : Bytes} {rest : List Bytes} {produced : Nat}
    {error : SearchError} (failed : parseExportLine input.env line = .error error) :
    ErrorAtCap input (line :: rest) produced ↔ 0 < input.cap ∧ produced = input.cap := by
  rw [parseExportLine_eq] at failed
  constructor
  · rintro ⟨capped, before, bad, after, error', split, _, earlier, count⟩
    cases before with
    | nil => exact ⟨capped, by simpa using count⟩
    | cons first before =>
      simp only [List.cons_append, List.cons.injEq] at split
      obtain ⟨events, parsed⟩ := earlier first List.mem_cons_self
      rw [← split.1, failed] at parsed
      cases parsed
  · rintro ⟨capped, full⟩
    exact ⟨capped, [], line, rest, error, rfl, failed, by simp, by simpa using full⟩

theorem errorAtCap_beyond {lines : List Bytes} {produced : Nat} (beyond : input.cap < produced) :
    ¬ErrorAtCap input lines produced := by
  rintro ⟨_, before, _, _, _, _, _, _, count⟩
  omega

end Cap

/-- The two readings of the same lines. -/
theorem readings_agree_iff (input : ScanInput) (lines : List Bytes) (produced : Nat)
    (below : 0 < input.cap → produced ≤ input.cap) :
    (referenceLines input lines produced).result = (browserLines input lines produced).result ↔
      ¬ErrorAtCap input lines produced := by
  induction lines generalizing produced with
  | nil =>
    refine iff_of_true rfl ?_
    rintro ⟨_, before, _, _, _, split, _⟩
    simp at split
  | cons line rest ih =>
    cases parsed : parseExportLine input.env line with
    | error error =>
      rw [errorAtCap_error parsed]
      simp only [referenceLines_cons, browserLines, parsed]
      -- At the cap only the native build sees the error.
      by_cases full : input.Full produced
      · have same : produced = input.cap := Nat.le_antisymm (below full.1) full.2
        rw [if_pos full]
        simp [Outcome.result, Outcome.failed, Outcome.done, full.1, same]
      · rw [if_neg full]
        exact iff_of_true rfl fun atCap => full ⟨atCap.1, atCap.2.ge⟩
    | ok events =>
      rw [errorAtCap_cons parsed]
      simp only [referenceLines_cons, browserLines, parsed]
      -- Both go on to the next line, or one of the events is beyond the cap for both.
      by_cases within : 0 < input.cap → produced + events.length ≤ input.cap
      · rw [← ih _ within, mapEvents_within within]
        by_cases full : input.Full produced
        · -- No event may follow, and the browser does not look at the line.
          have none_ : events = [] := List.eq_nil_of_length_eq_zero (by
            have := within full.1
            have := full.2
            omega)
          subst none_
          rw [if_pos full]
          simp [browserLines_full full]
        · rw [if_neg full, mapEvents_within within, Outcome.result_prepend]
      · obtain ⟨capped, past⟩ := Classical.not_imp.mp within
        have beyond : input.cap < produced + events.length := Nat.lt_of_not_le past
        refine iff_of_true ?_ (errorAtCap_beyond beyond)
        by_cases full : input.Full produced
        · rw [if_pos full, mapEvents_beyond _ (fun _ => .done) capped (below capped) beyond,
            mapEvents_full full rfl]
        · rw [if_neg full,
            mapEvents_beyond _ (browserLines input rest) capped (below capped) beyond]

/-- The browser scan of a whole response. -/
theorem browser_result (input : ScanInput) {vectorSize : Nat} (positive : 0 < vectorSize)
    (body : Bytes) :
    (fetchBrowserResponse body).result input vectorSize =
      (browserLines input (body.splitOn newline) 0).result := by
  obtain ⟨error, rows⟩ :=
    Browser.run_reads input vectorSize positive (fetchBrowserResponse body)
  have account : (fetchBrowserResponse body).account input =
      browserLines input (body.splitOn newline) 0 := by
    simp [Browser.account, browserFrom, fetchBrowserResponse]
  rw [account] at error rows
  simp only [Browser.result, Outcome.result, error]
  cases failed : (browserLines input (body.splitOn newline) 0).error with
  | some found => rfl
  | none => rw [rows failed]

/-- An undisturbed native scan of a complete successful response can always be run to its
end, and comes there to what the browser scan of the same response comes to, if and only if
the response has no error record behind the event that fills the cap with no other event
in between. -/
theorem builds_agree_iff (sys : Setup) (success : (sys.server 0).1.success = true) :
    (∀ s, ((native sys).restrict Undisturbed).Reachable s →
      ∃ t, ((native sys).restrict Undisturbed).Steps s t ∧ t.result ≠ none) ∧
    ∀ s result, ((native sys).restrict Undisturbed).Reachable s → s.result = some result →
      (result = (fetchBrowserResponse (sys.server 0).2).result sys.input sys.vectorSize ↔
        ¬ErrorAtCap sys.input ((sys.server 0).2.splitOn newline) 0) := by
  constructor
  · exact undisturbed_ends success
  · intro s result reachable ended
    rw [undisturbed_result success s reachable ended, browser_result _ sys.vectorSize_pos]
    exact readings_agree_iff sys.input _ 0 (fun _ => Nat.zero_le _)

/-- Four events in one record and an error behind it, read with a cap of three rows. -/
def arrayAtCapSetup : Setup where
  client := ⟨[], 0, fun _ => 1⟩
  input := ⟨.ofRecords [(listRecord, listRoot), (errorRecord, errorRoot)], [colBody], 3⟩
  server _ := (⟨200, none⟩, listRecord ++ newline :: errorRecord)
  vectorSize := 2
  vectorSize_pos := Nat.two_pos

/-- The record goes beyond the cap, so neither build comes to the error. -/
theorem builds_agree_array :
    ∃ t, ((native arrayAtCapSetup).restrict Undisturbed).Reachable t ∧
      t.result = some ((fetchBrowserResponse (arrayAtCapSetup.server 0).2).result
        arrayAtCapSetup.input arrayAtCapSetup.vectorSize) ∧
      t.result = some (.ok [textRow "a", textRow "b", textRow "c"]) := by
  obtain ⟨ends, agree⟩ := builds_agree_iff arrayAtCapSetup rfl
  have start : ((native arrayAtCapSetup).restrict Undisturbed).Reachable {} :=
    TransitionSystem.reachable_init _ rfl
  obtain ⟨t, run, ended⟩ := ends {} start
  obtain ⟨result, ended⟩ := Option.ne_none_iff_exists'.mp ended
  have lines : (arrayAtCapSetup.server 0).2.splitOn newline = [listRecord, errorRecord] := by
    decide
  have parsed : parseExportLine arrayAtCapSetup.input.env listRecord =
      .ok [rawEvent "a", rawEvent "b", rawEvent "c", rawEvent "d"] := rfl
  have beyond :
      ¬ErrorAtCap arrayAtCapSetup.input ((arrayAtCapSetup.server 0).2.splitOn newline) 0 := by
    rw [lines, errorAtCap_cons parsed]
    exact errorAtCap_beyond (by decide)
  have same := (agree t result (start.steps run) ended).mpr beyond
  refine ⟨t, start.steps run, ended.trans (congrArg some same), ?_⟩
  rw [ended, same, browser_result _ arrayAtCapSetup.vectorSize_pos]
  rfl

/-- One event and the error behind it, read with a cap of one row. -/
def errorAtCapSetup : Setup where
  client := ⟨[], 0, fun _ => 1⟩
  input := ⟨.ofRecords [(oneRecord, oneEvent), (errorRecord, errorRoot)], [colBody], 1⟩
  server _ := (⟨200, none⟩, oneRecord ++ newline :: errorRecord)
  vectorSize := 1
  vectorSize_pos := Nat.one_pos

/-- The native scan fails with the error, the browser scan returns the row. -/
theorem builds_differ_at_cap :
    ∃ s, ((native errorAtCapSetup).restrict Undisturbed).Reachable s ∧
      s.result = some (.error (.consumer ⟨ascii "ERROR", ascii "(no detail)"⟩)) ∧
      (fetchBrowserResponse (errorAtCapSetup.server 0).2).result errorAtCapSetup.input
        errorAtCapSetup.vectorSize = .ok [[.varchar (ascii "a")]] := by
  have start : ((native errorAtCapSetup).restrict Undisturbed).Reachable {} :=
    TransitionSystem.reachable_init _ rfl
  obtain ⟨t, run, ended⟩ := undisturbed_ends rfl {} start
  obtain ⟨result, ended⟩ := Option.ne_none_iff_exists'.mp ended
  refine ⟨t, start.steps run, ?_, ?_⟩
  · rw [ended, undisturbed_result rfl t (start.steps run) ended]
    rfl
  · rw [browser_result _ errorAtCapSetup.vectorSize_pos]
    rfl

end SplunkLogs
