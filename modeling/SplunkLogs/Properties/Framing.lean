import SplunkLogs.Properties.BuildAgreement

/-!
# What of a response text matters

A scan reads records. How they are set on lines, and what stands between them that is no
record, does not matter: carriage returns in front of a newline, blank lines, lines that are
not JSON, previews, and control records that report no error.
-/
namespace SplunkLogs

/-- No message of a record reports an error. -/
def Harmless (root : Json) : Prop :=
  ∀ messages, root.objGet (ascii "messages") = some (.arr messages) →
    ∀ msg ∈ messages, messageError msg = none

/-- The shapes without an event: no object, a preview, an array of results without an object,
and a record with none of the keys of a flat event. -/
inductive Eventless (root : Json) : Prop
  | value (noObject : root.isObj = false)
  | preview (preview : root.objGet (ascii "preview") = some (.bool true))
  | results (noResult : ∀ members, root.objGet (ascii "result") ≠ some (.obj members))
      (items : List Json) (results : root.objGet (ascii "results") = some (.arr items))
      (noObjects : ∀ item ∈ items, item.isObj = false)
  | control (noResult : ∀ members, root.objGet (ascii "result") ≠ some (.obj members))
      (noResults : ∀ items, root.objGet (ascii "results") ≠ some (.arr items))
      (noKey : ∀ key ∈ [ascii "_time", ascii "_raw", ascii "message"], root.objGet key = none)

/-- A text that tells a scan nothing. -/
inductive Noise (env : Externals) (record : Bytes) : Prop
  | blank (empty : record = [])
  | malformed (unread : env.readJson record = none)
  | silent (root : Json) (parsed : env.readJson record = some root) (harmless : Harmless root)
      (eventless : Eventless root)

/-- Two texts with the same records, line by line, and noise anywhere between them. -/
inductive SameRecords (env : Externals) : List Bytes → List Bytes → Prop
  | nil : SameRecords env [] []
  | record {first second : Bytes} {firsts seconds : List Bytes}
      (same : stripCarriageReturns first = stripCarriageReturns second)
      (rest : SameRecords env firsts seconds) :
      SameRecords env (first :: firsts) (second :: seconds)
  | noiseLeft {line : Bytes} {firsts seconds : List Bytes}
      (noise : Noise env (stripCarriageReturns line)) (rest : SameRecords env firsts seconds) :
      SameRecords env (line :: firsts) seconds
  | noiseRight {line : Bytes} {firsts seconds : List Bytes}
      (noise : Noise env (stripCarriageReturns line)) (rest : SameRecords env firsts seconds) :
      SameRecords env firsts (line :: seconds)

theorem Harmless.throwIfSearchError {root : Json} (harmless : Harmless root) :
    throwIfSearchError root = .ok () := by
  unfold SplunkLogs.throwIfSearchError
  split
  next messages found =>
    have none_ : messages.findSome? messageError = none :=
      List.findSome?_eq_none_iff.mpr (harmless messages found)
    rw [none_]
  · rfl

theorem Eventless.extractEventsFromRoot {root : Json} (eventless : Eventless root) :
    extractEventsFromRoot root = [] := by
  cases eventless with
  | value noObject => simp [SplunkLogs.extractEventsFromRoot, noObject]
  | preview preview => simp [SplunkLogs.extractEventsFromRoot, preview]
  | results noResult items results noObjects =>
    have none_ : items.filter Json.isObj = [] :=
      List.filter_eq_nil_iff.mpr fun item member => by simp [noObjects item member]
    unfold SplunkLogs.extractEventsFromRoot
    split
    · rfl
    · split
      · rfl
      · split
        next members found => exact absurd found (noResult members)
        · rw [results]
          exact none_
  | control noResult noResults noKey =>
    simp only [List.forall_mem_cons] at noKey
    obtain ⟨time, raw, message, _⟩ := noKey
    unfold SplunkLogs.extractEventsFromRoot
    split
    · rfl
    · split
      · rfl
      · split
        next members found => exact absurd found (noResult members)
        · split
          next items found => exact absurd found (noResults items)
          · simp [time, raw, message]

/-- Trailing carriage returns belong to no record. -/
theorem parseExportLine_strip (env : Externals) (line : Bytes) :
    parseExportLine env (stripCarriageReturns line) = parseExportLine env line := by
  have same : stripCarriageReturns (stripCarriageReturns line) = stripCarriageReturns line :=
    List.rdropWhile_idempotent _ line
  simp only [parseExportLine, same]

/-- Noise has no event and no error. -/
theorem Noise.parsed {env : Externals} {line : Bytes}
    (noise : Noise env (stripCarriageReturns line)) : parseExportLine env line = .ok [] := by
  cases noise with
  | blank empty => simp [parseExportLine, empty]
  | malformed unread => simp [parseExportLine, unread]
  | silent root parsed harmless eventless =>
    simp only [parseExportLine, parsed]
    split
    · rfl
    · rw [harmless.throwIfSearchError, eventless.extractEventsFromRoot]
      rfl

section Readings

variable {input : ScanInput} {firsts seconds : List Bytes}

theorem referenceLines_records (same : SameRecords input.env firsts seconds) (produced : Nat) :
    referenceLines input firsts produced = referenceLines input seconds produced := by
  induction same generalizing produced with
  | nil => rfl
  | @record first second firsts seconds same _ ih =>
    have parsed : parseExportLine input.env first = parseExportLine input.env second := by
      rw [← parseExportLine_strip, same, parseExportLine_strip]
    have later : referenceLines input firsts = referenceLines input seconds := funext ih
    simp only [referenceLines_cons, parsed, later]
  | noiseLeft noise _ ih =>
    simpa only [referenceLines_cons, noise.parsed, mapEvents] using ih produced
  | noiseRight noise _ ih =>
    simpa only [referenceLines_cons, noise.parsed, mapEvents] using ih produced

theorem browserLines_noise {line : Bytes} (noise : Noise input.env (stripCarriageReturns line))
    (lines : List Bytes) (produced : Nat) :
    browserLines input (line :: lines) produced = browserLines input lines produced := by
  by_cases full : input.Full produced
  · rw [browserLines_full full, browserLines_full full]
  · rw [browserLines, if_neg full, noise.parsed]
    rfl

theorem browserLines_records (same : SameRecords input.env firsts seconds) (produced : Nat) :
    browserLines input firsts produced = browserLines input seconds produced := by
  induction same generalizing produced with
  | nil => rfl
  | @record first second firsts seconds same _ ih =>
    have parsed : parseExportLine input.env first = parseExportLine input.env second := by
      rw [← parseExportLine_strip, same, parseExportLine_strip]
    have later : browserLines input firsts = browserLines input seconds := funext ih
    simp only [browserLines, parsed, later]
  | noiseLeft noise _ ih => exact (browserLines_noise noise _ produced).trans (ih produced)
  | noiseRight noise _ ih => exact (ih produced).trans (browserLines_noise noise _ produced).symm

end Readings

/-- Responses with the same records: undisturbed native scans that have ended came to the same
result, whatever their vectors, and so do the browser scans. -/
theorem framing_irrelevant (sys other : Setup) (input : sys.input = other.input)
    (success : (sys.server 0).1.success = true) (success' : (other.server 0).1.success = true)
    (same : SameRecords sys.input.env ((sys.server 0).2.splitOn newline)
      ((other.server 0).2.splitOn newline)) :
    (∀ s t result result', ((native sys).restrict Undisturbed).Reachable s →
      ((native other).restrict Undisturbed).Reachable t → s.result = some result →
      t.result = some result' → result = result') ∧
    (fetchBrowserResponse (sys.server 0).2).result sys.input sys.vectorSize =
      (fetchBrowserResponse (other.server 0).2).result other.input other.vectorSize := by
  constructor
  · intro s t result result' left right ended ended'
    rw [undisturbed_result success s left ended, undisturbed_result success' t right ended',
      ← input, reference, reference, referenceLines_records same]
  · rw [browser_result _ sys.vectorSize_pos, browser_result _ other.vectorSize_pos, ← input,
      browserLines_records same]

section LineEndings

/-- A text with a carriage return in front of each newline. -/
def withCarriageReturns (body : Bytes) : Bytes :=
  body.flatMap fun byte => if byte = newline then [carriageReturn, newline] else [byte]

/-- A line, or the line with a carriage return behind it. -/
def SameLine (first second : Bytes) : Prop := second = first ∨ second = first ++ [carriageReturn]

theorem SameLine.cons {first second : Bytes} (same : SameLine first second) (byte : UInt8) :
    SameLine (byte :: first) (byte :: second) := by
  rcases same with rfl | rfl
  · exact Or.inl rfl
  · exact Or.inr rfl

theorem SameLine.stripped {first second : Bytes} (same : SameLine first second) :
    stripCarriageReturns first = stripCarriageReturns second := by
  rcases same with rfl | rfl
  · rfl
  · exact (List.rdropWhile_concat_pos _ first carriageReturn (by decide)).symm

theorem forall₂_modifyHead {α : Type} {related : α → α → Prop} {firsts seconds : List α}
    {change : α → α} (all : List.Forall₂ related firsts seconds)
    (kept : ∀ {a b}, related a b → related (change a) (change b)) :
    List.Forall₂ related (firsts.modifyHead change) (seconds.modifyHead change) := by
  cases all with
  | nil => exact .nil
  | cons first rest => exact .cons (kept first) rest

theorem splitOn_withCarriageReturns (body : Bytes) :
    List.Forall₂ SameLine (body.splitOn newline)
      ((withCarriageReturns body).splitOn newline) := by
  induction body with
  | nil => exact .cons (Or.inl rfl) .nil
  | cons byte rest ih =>
    by_cases line : byte = newline
    · -- The line in front of the newline is empty.
      subst line
      exact .cons (Or.inr rfl) ih
    · have kept : withCarriageReturns (byte :: rest) = byte :: withCarriageReturns rest := by
        simp [withCarriageReturns, line]
      rw [kept, List.splitOn_cons_eq_if_modifyHead, List.splitOn_cons_eq_if_modifyHead,
        if_neg (by simpa using line), if_neg (by simpa using line)]
      exact forall₂_modifyHead ih fun same => same.cons byte

/-- The two styles of line endings have the same records. -/
theorem sameRecords_withCarriageReturns (env : Externals) (body : Bytes) :
    SameRecords env (body.splitOn newline) ((withCarriageReturns body).splitOn newline) := by
  have lines := splitOn_withCarriageReturns body
  generalize body.splitOn newline = firsts, (withCarriageReturns body).splitOn newline = seconds
    at lines
  induction lines with
  | nil => exact .nil
  | cons same _ ih => exact .record same.stripped ih

end LineEndings

/-- A preview of a result. -/
def previewRecord : Bytes :=
  ascii "\x7b\"preview\":true,\"result\":\x7b\"_raw\":\"a\"\x7d\x7d"

def previewRoot : Json := .obj [(ascii "preview", .bool true), (ascii "result", rawEvent "a")]

/-- A record, a blank line, a line that is no JSON and a preview. -/
def noisyBody : Bytes :=
  oneRecord ++ [newline, newline] ++ ascii "oops" ++ [newline] ++ previewRecord ++ [newline]

/-- A scan of such a response. -/
def framedSetup (body : Bytes) : Setup where
  client := ⟨[], 0, fun _ => 1⟩
  input := ⟨.ofRecords [(oneRecord, oneEvent), (previewRecord, previewRoot)], [colBody], 0⟩
  server _ := (⟨200, none⟩, body)
  vectorSize := 1
  vectorSize_pos := Nat.one_pos

/-- The record is read out of all that as it is on a line of its own, and with CRLF line endings
as well. -/
theorem framing_irrelevant_noise :
    (fetchBrowserResponse (oneRecord ++ [newline])).result (framedSetup []).input 1 =
      (fetchBrowserResponse noisyBody).result (framedSetup []).input 1 ∧
    (fetchBrowserResponse noisyBody).result (framedSetup []).input 1 =
      (fetchBrowserResponse (withCarriageReturns noisyBody)).result (framedSetup []).input 1 := by
  have plain : (oneRecord ++ [newline]).splitOn newline = [oneRecord, []] := by decide
  have noisy : noisyBody.splitOn newline = [oneRecord, [], ascii "oops", previewRecord, []] := by
    decide
  have preview : Noise (framedSetup []).input.env (stripCarriageReturns previewRecord) :=
    .silent previewRoot rfl nofun (.preview rfl)
  have same : SameRecords (framedSetup []).input.env ((oneRecord ++ [newline]).splitOn newline)
      (noisyBody.splitOn newline) := by
    rw [plain, noisy]
    exact .record rfl (.noiseRight (.blank rfl) (.noiseRight (.malformed rfl)
      (.noiseRight preview (.record rfl .nil))))
  exact ⟨(framing_irrelevant (framedSetup (oneRecord ++ [newline])) (framedSetup noisyBody)
      rfl rfl rfl same).2,
    (framing_irrelevant (framedSetup noisyBody) (framedSetup (withCarriageReturns noisyBody))
      rfl rfl rfl (sameRecords_withCarriageReturns _ noisyBody)).2⟩

end SplunkLogs
