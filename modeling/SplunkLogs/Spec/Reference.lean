import SplunkLogs.Model.Reader
import SplunkLogs.Spec.Records

/-!
# What a response means

The reference reading of a complete response body, free of chunks, buffers and threads:
the body is split into lines, the lines are taken in order, and the cap ends the reading
at the first event beyond it.
-/
namespace SplunkLogs

/-- Rows in order, and the search error that ends them, if one does. -/
structure Outcome where
  rows : List Row
  error : Option SearchError

namespace Outcome

def done : Outcome := ⟨[], none⟩

def failed (error : SearchError) : Outcome := ⟨[], some error⟩

def prepend (rows : List Row) (outcome : Outcome) : Outcome :=
  ⟨rows ++ outcome.rows, outcome.error⟩

@[simp] theorem prepend_rows (rows : List Row) (outcome : Outcome) :
    (outcome.prepend rows).rows = rows ++ outcome.rows := rfl

@[simp] theorem prepend_error (rows : List Row) (outcome : Outcome) :
    (outcome.prepend rows).error = outcome.error := rfl

@[simp] theorem prepend_nil (outcome : Outcome) : outcome.prepend [] = outcome := rfl

@[simp] theorem prepend_prepend (first second : List Row) (outcome : Outcome) :
    (outcome.prepend second).prepend first = outcome.prepend (first ++ second) := by
  simp [prepend]

/-- What a query sees of an outcome: its error, or else its rows. -/
def result (outcome : Outcome) : Except (ClientError SearchError) (List Row) :=
  match outcome.error with
  | some error => .error (.consumer error)
  | none => .ok outcome.rows

end Outcome

/-- A record's events in order, until the first one beyond the cap stops for good. -/
def mapEvents (input : ScanInput) (next : Nat → Outcome) : Nat → List Json → Outcome
  | produced, [] => next produced
  | produced, event :: rest =>
    -- The first event beyond the cap ends the reading; `next` is not asked.
    if 0 < input.cap ∧ input.cap ≤ produced then .done
    else (mapEvents input next (produced + 1) rest).prepend
      [mapEvent input.env event input.columnIds]

/-- The lines in order, `produced` rows having been read before them. -/
def referenceLines (input : ScanInput) : List Bytes → Nat → Outcome
  | [], _ => .done
  | line :: rest, produced =>
    match readLine input.env line with
    | .error error => .failed error
    | .ok events => mapEvents input (referenceLines input rest) produced events

/-- The reference reading of a body. A text without a final newline ends in one more line;
behind a final newline that line is empty and has no events. -/
def reference (input : ScanInput) (body : Bytes) : Outcome :=
  referenceLines input (body.splitOn newline) 0

theorem mapEvents_capped (input : ScanInput) (next : Nat → Outcome) (produced : Nat)
    (events : List Json) (capped : 0 < input.cap) (within : produced ≤ input.cap)
    (rest : ∀ n, n ≤ input.cap → n + (next n).rows.length ≤ input.cap) :
    produced + (mapEvents input next produced events).rows.length ≤ input.cap := by
  induction events generalizing produced with
  | nil => exact rest produced within
  | cons event events ih =>
    simp only [mapEvents]
    split
    · simpa [Outcome.done] using within
    next open_ =>
      have room : produced + 1 ≤ input.cap := by
        have := not_and.mp open_ capped
        omega
      have tail := ih (produced + 1) room
      simp only [Outcome.prepend_rows, List.length_append, List.length_singleton]
      omega

theorem referenceLines_capped (input : ScanInput) (capped : 0 < input.cap)
    (lines : List Bytes) (produced : Nat) (within : produced ≤ input.cap) :
    produced + (referenceLines input lines produced).rows.length ≤ input.cap := by
  induction lines generalizing produced with
  | nil => simpa [referenceLines, Outcome.done] using within
  | cons line lines ih =>
    simp only [referenceLines]
    split
    · simpa [Outcome.failed] using within
    · exact mapEvents_capped input _ produced _ capped within ih

/-- The cap bounds the reference rows. -/
theorem reference_capped (input : ScanInput) (capped : 0 < input.cap) (body : Bytes) :
    (reference input body).rows.length ≤ input.cap := by
  simpa [reference] using referenceLines_capped input capped (body.splitOn newline) 0 (by omega)

end SplunkLogs
