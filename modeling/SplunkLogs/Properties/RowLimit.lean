import SplunkLogs.Properties.BuildAgreement

/-!
# What `max_rows` does to a scan

A limit cuts the unlimited reading of the same response. It also hides an error that the
unlimited scan would meet, and here the builds differ by one row.
-/
namespace SplunkLogs

/-- The first `limit` rows, and no error, once there are `enough` of them. -/
def Outcome.cut (limit enough : Nat) (outcome : Outcome) : Outcome :=
  if enough ≤ outcome.rows.length then ⟨outcome.rows.take limit, none⟩ else outcome

/-- The same scan without a limit. -/
def ScanInput.unlimited (input : ScanInput) : ScanInput := { input with maxRows := 0 }

theorem Outcome.cut_prepend (limit enough : Nat) (row : Row) (outcome : Outcome) :
    (outcome.prepend [row]).cut (limit + 1) (enough + 1) =
      (outcome.cut limit enough).prepend [row] := by
  simp only [cut, prepend_rows, List.singleton_append, List.length_cons, Nat.add_le_add_iff_right]
  split <;> simp [prepend]

/-- An outcome that comes before anything else is cut to nothing. -/
theorem Outcome.cut_zero {enough : Nat} {outcome : Outcome}
    (reached : enough ≤ outcome.rows.length) : outcome.cut 0 enough = .done := by
  rw [cut, if_pos reached]
  rfl

section Limited

variable {input : ScanInput}

theorem cap_unlimited (input : ScanInput) : input.unlimited.cap = 0 :=
  if_neg (lt_irrefl 0)

/-- Without a limit the events of a record are all read. -/
theorem mapEvents_unlimited (next : Nat → Outcome) (produced : Nat) (events : List Json) :
    mapEvents input.unlimited next produced events = (next (produced + events.length)).prepend
      (events.map fun event => mapEvent input.env event input.columnIds) :=
  mapEvents_within fun capped => absurd capped (by simp [cap_unlimited])

/-- The events of a record, `slack` being the number of rows behind the limit that a reading
needs to see before it ends there. -/
theorem mapEvents_cut {slack : Nat} (little : slack ≤ 1) (capped : 0 < input.cap)
    {next : Nat → Outcome} {whole : Outcome}
    (later : ∀ n, n ≤ input.cap → next n = whole.cut (input.cap - n) (input.cap - n + slack))
    (events : List Json) {produced : Nat} (within : produced ≤ input.cap) :
    mapEvents input next produced events =
      (whole.prepend (events.map fun event => mapEvent input.env event input.columnIds)).cut
        (input.cap - produced) (input.cap - produced + slack) := by
  induction events generalizing produced with
  | nil => exact later produced within
  | cons event rest ih =>
    rw [mapEvents]
    split
    next full =>
      have filled : input.cap - produced = 0 := by omega
      rw [filled, Outcome.cut_zero]
      simp only [Outcome.prepend_rows, List.map_cons, List.cons_append, List.length_cons]
      omega
    next room =>
      have left : input.cap - produced = input.cap - (produced + 1) + 1 := by omega
      rw [ih (by omega), left, Nat.add_right_comm, ← Outcome.cut_prepend, List.map_cons,
        Outcome.prepend_prepend, List.singleton_append]

theorem referenceLines_cut (capped : 0 < input.cap) (lines : List Bytes) {produced : Nat}
    (within : produced ≤ input.cap) (before : Nat) :
    referenceLines input lines produced = (referenceLines input.unlimited lines before).cut
      (input.cap - produced) (input.cap - produced + 1) := by
  induction lines generalizing produced before with
  | nil => simp [referenceLines, Outcome.cut, Outcome.done]
  | cons line rest ih =>
    have sameEnv : input.unlimited.env = input.env := rfl
    simp only [referenceLines_cons, sameEnv]
    cases parseExportLine input.env line with
    | error error => simp [Outcome.cut, Outcome.failed]
    | ok events =>
      -- The limited reading needs one row behind the limit to stop there.
      dsimp only
      rw [mapEvents_unlimited]
      exact mapEvents_cut le_rfl capped (fun n inside => ih inside _) events within

theorem browserLines_cut (capped : 0 < input.cap) (lines : List Bytes) {produced : Nat}
    (within : produced ≤ input.cap) (before : Nat) :
    browserLines input lines produced = (referenceLines input.unlimited lines before).cut
      (input.cap - produced) (input.cap - produced) := by
  induction lines generalizing produced before with
  | nil => simp [browserLines, referenceLines, Outcome.cut, Outcome.done]
  | cons line rest ih =>
    have sameEnv : input.unlimited.env = input.env := rfl
    rw [browserLines]
    split
    next full =>
      have filled : input.cap - produced = 0 := Nat.sub_eq_zero_of_le full.2
      rw [filled, Outcome.cut_zero (Nat.zero_le _)]
    next room =>
      have open_ : ¬input.cap ≤ produced := fun full => room ⟨capped, full⟩
      simp only [referenceLines_cons, sameEnv]
      cases parseExportLine input.env line with
      | error error =>
        have some_ : ¬input.cap - produced ≤ 0 := by omega
        simp [Outcome.cut, Outcome.failed, some_]
      | ok events =>
        dsimp only
        rw [mapEvents_unlimited]
        exact mapEvents_cut (Nat.zero_le 1) capped (fun n inside => ih inside _) events within

/-- Without a limit both builds read the same. -/
theorem browserLines_unlimited (lines : List Bytes) (produced : Nat) :
    browserLines input.unlimited lines produced =
      referenceLines input.unlimited lines produced := by
  induction lines generalizing produced with
  | nil => rfl
  | cons line rest ih =>
    have room : ¬input.unlimited.Full produced := by
      simp [ScanInput.Full, cap_unlimited]
    have later : browserLines input.unlimited rest = referenceLines input.unlimited rest :=
      funext ih
    cases parsed : parseExportLine input.unlimited.env line with
    | error error => simp [browserLines, referenceLines_cons, room, parsed]
    | ok events => simp [browserLines, referenceLines_cons, room, parsed, later]

end Limited

theorem Outcome.cut_result (limit enough : Nat) (outcome : Outcome) :
    (outcome.cut limit enough).result =
      if enough ≤ outcome.rows.length then .ok (outcome.rows.take limit) else outcome.result := by
  unfold cut
  split <;> rfl

/-- The scan of the same response without a limit. -/
def Setup.unlimited (sys : Setup) : Setup := { sys with input := sys.input.unlimited }

/-- What the response says, whatever the limit. -/
def Setup.whole (sys : Setup) : Outcome := reference sys.input.unlimited (sys.server 0).2

/-- With a positive `max_rows`, an undisturbed native scan returns that many rows if more rows
than that come before the end or the error, and otherwise what the unlimited scan gives. The
browser scan returns them already if there are just as many. -/
theorem max_rows_cuts (sys : Setup) (success : (sys.server 0).1.success = true)
    (limited : 0 < sys.input.maxRows) :
    (∀ s result, ((native sys.unlimited).restrict Undisturbed).Reachable s →
      s.result = some result → result = sys.whole.result) ∧
    (fetchBrowserResponse (sys.server 0).2).result sys.input.unlimited sys.vectorSize =
      sys.whole.result ∧
    (∀ s result, ((native sys).restrict Undisturbed).Reachable s → s.result = some result →
      result = if sys.input.maxRows < sys.whole.rows.length
        then .ok (sys.whole.rows.take sys.input.maxRows.toNat) else sys.whole.result) ∧
    (fetchBrowserResponse (sys.server 0).2).result sys.input sys.vectorSize =
      if sys.input.maxRows ≤ sys.whole.rows.length
        then .ok (sys.whole.rows.take sys.input.maxRows.toNat) else sys.whole.result := by
  have cap : sys.input.cap = sys.input.maxRows.toNat := if_pos limited
  have capped : 0 < sys.input.cap := by omega
  refine ⟨?_, ?_, ?_, ?_⟩
  · intro s result reachable ended
    have success' : (sys.unlimited.server 0).1.success = true := success
    exact undisturbed_result success' s reachable ended
  · rw [browser_result _ sys.vectorSize_pos, browserLines_unlimited]
    rfl
  · intro s result reachable ended
    rw [undisturbed_result success s reachable ended, reference,
      referenceLines_cut capped _ (Nat.zero_le _) 0, Outcome.cut_result, cap, Nat.sub_zero]
    exact if_congr (by rw [Setup.whole, reference]; omega) rfl rfl
  · rw [browser_result _ sys.vectorSize_pos, browserLines_cut capped _ (Nat.zero_le _) 0,
      Outcome.cut_result, cap, Nat.sub_zero]
    exact if_congr (by rw [Setup.whole, reference]; omega) rfl rfl

/-- One row with an error behind it, read with a limit of one row: the browser scan returns the
row, the native scan meets the error. -/
theorem max_rows_cuts_error_behind :
    (fetchBrowserResponse (errorAtCapSetup.server 0).2).result errorAtCapSetup.input 1 =
      .ok [[.varchar (ascii "a")]] ∧
    ∀ s result, ((native errorAtCapSetup).restrict Undisturbed).Reachable s →
      s.result = some result →
      result = .error (.consumer ⟨ascii "ERROR", ascii "(no detail)"⟩) := by
  obtain ⟨_, _, nativeCut, browserCut⟩ := max_rows_cuts errorAtCapSetup rfl Int.one_pos
  have rows : errorAtCapSetup.whole.rows = [[.varchar (ascii "a")]] := rfl
  rw [rows] at nativeCut browserCut
  exact ⟨browserCut, nativeCut⟩

end SplunkLogs
