import SplunkLogs.Foundation.Rounding
import SplunkLogs.Model.Time

/-!
# What a `_time` value stands for

A `_time` is read as a clock time, by the strict parser, or as an epoch number. For each of
these the nanoseconds it stands for are given in exact arithmetic, next to what the machine
operations on the way need in order to be defined.
-/
namespace SplunkLogs

open Foundation (Binary64 roundHalfAway)

/-- `Timestamp::TryGetEpochNanoSeconds` multiplies or reports overflow. -/
def epochNanoSeconds (micros : Int) : Option Int :=
  if InInt64 (micros * 1000) then some (micros * 1000) else none

/-- What DuckDB's timestamp functions promise: nanoseconds below the microsecond, a strict
parser that stays within its type, and a checked conversion. -/
structure TimestampContract (env : Externals) : Prop where
  subMicroNanos : ∀ str result, env.tryConvertTimestampTZ str = some result →
    0 ≤ result.subMicroNanos ∧ result.subMicroNanos < 1000
  strict : ∀ str nanos, env.tryConvertTimestamp str = some nanos → InInt64 nanos
  epochNanos : ∀ micros, env.tryGetEpochNanoSeconds micros = epochNanoSeconds micros

/-- The nanoseconds in the unit of an epoch number of that size. -/
def unitFactor (value : ℚ) : Nat :=
  if 10 ^ 16 ≤ value then 1
  else if 10 ^ 13 ≤ value then 10 ^ 3
  else if 10 ^ 10 ≤ value then 10 ^ 6
  else 10 ^ 9

/-- The reading of a `_time` that is accepted. -/
inductive TimeSource where
  | clock (result : TimestampTZ)
  | strict (nanos : Int)
  | epoch (value : Binary64)

def isoSource (env : Externals) (str : Bytes) : Option TimeSource :=
  match env.tryConvertTimestampTZ str with
  | none => (env.tryConvertTimestamp str).map .strict
  | some result => (env.tryGetEpochNanoSeconds result.micros).map fun _ => .clock result

def timeSource (env : Externals) : Option Json → Option TimeSource
  | some (.str value) =>
    match isoSource env (cString value), strtod (cString value) with
    | some source, _ => some source
    | none, some (number, []) => some (.epoch number)
    | none, _ => none
  | some (.num number) => some (.epoch number.toDouble)
  | _ => none

namespace TimeSource

/-- The nanoseconds a reading stands for; an epoch that is no number stands for none. -/
def exact : TimeSource → Option Int
  | clock result => some (result.micros * 1000 + result.subMicroNanos)
  | strict nanos => some nanos
  | epoch (.finite value) => some (roundHalfAway (value * unitFactor value))
  | epoch _ => none

/-- The argument `llround` is called with. -/
def llroundArgument (value : Binary64) : Binary64 :=
  if value.atLeast (10 ^ 16) then value
  else if value.atLeast (10 ^ 13) then value.mul (Binary64.ofRat (10 ^ 3))
  else if value.atLeast (10 ^ 10) then value.mul (Binary64.ofRat (10 ^ 6))
  else value.mul (Binary64.ofRat (10 ^ 9))

/-- Every machine operation of a reading is defined: the sum does not overflow, and
`llround` gets a finite number that rounds into `int64_t`. -/
def Defined (env : Externals) : TimeSource → Prop
  | clock result => ∀ epochNanos, env.tryGetEpochNanoSeconds result.micros = some epochNanos →
      InInt64 (epochNanos + result.subMicroNanos)
  | strict _ => True
  | epoch value => ∃ argument, llroundArgument value = .finite argument ∧
      InInt64 (roundHalfAway argument)

structure InRange (env : Externals) (source : TimeSource) : Prop where
  exact : ∃ nanos, source.exact = some nanos ∧ InInt64 nanos
  defined : source.Defined env

/-- The safe readings. A clock time must not be in the last microsecond that has a first
nanosecond, beyond the nanoseconds that are left of it. An epoch in nanoseconds must be less
than half a nanosecond off the range; in the other units its product must stay half a last
bit, which is 512 nanoseconds there, below the upper end of the range. -/
def Safe : TimeSource → Prop
  | clock result => ¬(result.micros = 9223372036854775 ∧ 807 < result.subMicroNanos)
  | strict _ => True
  | epoch (.finite value) =>
    if 10 ^ 16 ≤ value then value < 2 ^ 63 - 1 / 2
    else -2 ^ 63 - 1 / 2 < value * unitFactor value ∧ value * unitFactor value < 2 ^ 63 - 512
  | epoch _ => False

/-- The value `ParseSplunkTimeToNanos` gives a reading. -/
def nanos (env : Externals) : TimeSource → Option Int
  | clock result => (env.tryGetEpochNanoSeconds result.micros).map fun epochNanos =>
      addInt64 epochNanos result.subMicroNanos
  | strict nanos => some nanos
  | epoch value => some (llround env (llroundArgument value))

end TimeSource

/-- Powers of ten up to the unit of seconds are exact. -/
theorem ofRat_ten_pow {k : Nat} (small : k ≤ 15) :
    Binary64.ofRat (10 ^ k) = .finite (10 ^ k) := by
  have bound : 10 ^ k ≤ 10 ^ 15 := Nat.pow_le_pow_right (by omega) small
  simpa using Binary64.ofRat_of_lt (n := 10 ^ k) (bound.trans_lt (by norm_num))

/-- An epoch in nanoseconds is taken as it is, any other one is multiplied. -/
theorem TimeSource.llroundArgument_finite (value : ℚ) :
    llroundArgument (.finite value) =
      if 10 ^ 16 ≤ value then .finite value else Binary64.ofRat (value * unitFactor value) := by
  unfold llroundArgument unitFactor
  simp only [Binary64.atLeast, decide_eq_true_eq, ofRat_ten_pow, Nat.reduceLeDiff, Binary64.mul]
  split_ifs <;> norm_num

theorem epochToNanos_eq (env : Externals) (value : Binary64) :
    epochToNanos env value = llround env (TimeSource.llroundArgument value) := by
  unfold epochToNanos TimeSource.llroundArgument
  split_ifs <;> rfl

theorem parseIso8601ToNanos_eq (env : Externals) (str : Bytes) :
    parseIso8601ToNanos env str = (isoSource env str).bind (TimeSource.nanos env) := by
  unfold parseIso8601ToNanos isoSource
  cases env.tryConvertTimestampTZ str with
  | none => cases env.tryConvertTimestamp str <;> rfl
  | some result =>
    cases reached : env.tryGetEpochNanoSeconds result.micros with
    | none => simp [reached]
    | some epochNanos => simp [reached, TimeSource.nanos]

/-- A reading that is chosen has a value. -/
theorem isoSource_nanos {env : Externals} {str : Bytes} {source : TimeSource}
    (chosen : isoSource env str = some source) : ∃ nanos, source.nanos env = some nanos := by
  unfold isoSource at chosen
  cases converted : env.tryConvertTimestampTZ str with
  | none =>
    rw [converted] at chosen
    obtain ⟨nanos, _, rfl⟩ := Option.map_eq_some_iff.mp chosen
    exact ⟨nanos, rfl⟩
  | some result =>
    rw [converted] at chosen
    obtain ⟨epochNanos, reached, rfl⟩ := Option.map_eq_some_iff.mp chosen
    exact ⟨_, by rw [TimeSource.nanos, reached]; rfl⟩

/-- The code reads a `_time` by its source. -/
theorem parseSplunkTimeToNanos_eq (env : Externals) (time : Option Json) :
    parseSplunkTimeToNanos env time = (timeSource env time).bind (TimeSource.nanos env) := by
  rcases time with _ | json
  · rfl
  · cases json with
    | str value =>
      simp only [parseSplunkTimeToNanos, timeSource, parseIso8601ToNanos_eq]
      cases chosen : isoSource env (cString value) with
      | none =>
        simp only [Option.bind_none]
        rcases strtod (cString value) with _ | ⟨number, _ | ⟨c, rest⟩⟩
        · rfl
        · simp [epochToNanos_eq, TimeSource.nanos]
        · rfl
      | some source =>
        obtain ⟨nanos, found⟩ := isoSource_nanos chosen
        simp [found]
    | num number => simp [parseSplunkTimeToNanos, timeSource, epochToNanos_eq, TimeSource.nanos]
    | _ => rfl

end SplunkLogs
