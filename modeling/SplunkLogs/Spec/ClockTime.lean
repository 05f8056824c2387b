import Mathlib.Data.Nat.Digits.Lemmas
import Mathlib.Tactic.Ring
import SplunkLogs.Spec.Timestamps

/-!
# Clock times and their zones

The instant that a timestamp text denotes: a clock time, read in the zone the text names.
Which texts write which clock times is DuckDB's grammar and a parameter here, and so are the
rules of the named zones.
-/
namespace SplunkLogs

/-- The number that decimal digits write, the first one leading. -/
def digitsNumber (digits : List (Fin 10)) : Nat :=
  Nat.ofDigits 10 (digits.reverse.map Fin.val)

theorem digitsNumber_append (first second : List (Fin 10)) :
    digitsNumber (first ++ second) =
      digitsNumber first * 10 ^ second.length + digitsNumber second := by
  simp only [digitsNumber, List.reverse_append, List.map_append, Nat.ofDigits_append,
    List.length_map, List.length_reverse]
  ring

theorem digitsNumber_lt (digits : List (Fin 10)) : digitsNumber digits < 10 ^ digits.length := by
  have bound := Nat.ofDigits_lt_base_pow_length (b := 10) (l := digits.reverse.map Fin.val)
    (by decide) (by simp)
  simpa [digitsNumber] using bound

/-- A date and time of day without a zone: the day from 1970-01-01 on, the second of the day,
and the digits behind the point. -/
structure WallClock where
  day : Int
  second : Fin 86400
  fraction : List (Fin 10)

namespace WallClock

variable (wall : WallClock)

/-- The first nine digits behind the point, filled up with zeros. -/
def nanoDigits : List (Fin 10) := (wall.fraction ++ List.replicate 9 0).take 9

theorem nanoDigits_length : wall.nanoDigits.length = 9 := by
  simp [nanoDigits]

/-- The whole nanoseconds since the epoch, if the clock shows UTC. -/
def nanos : Int := (wall.day * 86400 + wall.second) * 10 ^ 9 + digitsNumber wall.nanoDigits

/-- The whole microseconds. -/
def micros : Int :=
  (wall.day * 86400 + wall.second) * 10 ^ 6 + digitsNumber (wall.nanoDigits.take 6)

/-- The nanoseconds below the microsecond. -/
def subMicroNanos : Int := digitsNumber (wall.nanoDigits.drop 6)

theorem nanos_eq : wall.nanos = wall.micros * 1000 + wall.subMicroNanos := by
  have split : digitsNumber wall.nanoDigits =
      digitsNumber (wall.nanoDigits.take 6) * 10 ^ 3 + digitsNumber (wall.nanoDigits.drop 6) := by
    have rest : (wall.nanoDigits.drop 6).length = 3 := by
      rw [List.length_drop, nanoDigits_length]
    conv_lhs => rw [← List.take_append_drop 6 wall.nanoDigits]
    rw [digitsNumber_append, rest]
  rw [nanos, micros, subMicroNanos, split]
  push_cast
  ring

theorem subMicroNanos_bounds : 0 ≤ wall.subMicroNanos ∧ wall.subMicroNanos < 1000 := by
  have bound := digitsNumber_lt (wall.nanoDigits.drop 6)
  rw [List.length_drop, nanoDigits_length] at bound
  rw [subMicroNanos]
  omega

end WallClock

/-- The zone designators of a timestamp. -/
inductive Zone where
  | none
  | utc
  /-- Seconds east of UTC. -/
  | offset (seconds : Int)
  | name (text : Bytes)

/-- For a zone name and a clock time the seconds east of UTC, where the name is known and the
time exists. -/
abbrev ZoneRules := Bytes → WallClock → Option Int

namespace Zone

/-- The offset that stands in the text itself. -/
def writtenOffset : Zone → Int
  | offset seconds => seconds
  | _ => 0

/-- The name that stands in the text. -/
def writtenName : Zone → Bytes
  | name text => text
  | _ => []

/-- The clock time without its written offset. -/
def microsUtc (zone : Zone) (wall : WallClock) : Int :=
  wall.micros - zone.writtenOffset * 10 ^ 6

def nanosUtc (zone : Zone) (wall : WallClock) : Int :=
  wall.nanos - zone.writtenOffset * 10 ^ 9

theorem nanosUtc_eq (zone : Zone) (wall : WallClock) :
    zone.nanosUtc wall = zone.microsUtc wall * 1000 + wall.subMicroNanos := by
  rw [nanosUtc, microsUtc, wall.nanos_eq]
  ring

/-- The nanoseconds of the instant denoted, none if the zone cannot be applied. -/
def instant (rules : ZoneRules) (wall : WallClock) : Zone → Option Int
  | name text => (rules text wall).map fun seconds => wall.nanos - seconds * 10 ^ 9
  | zone => some (zone.nanosUtc wall)

end Zone

/-- What DuckDB promises for a text that writes a clock time: a written offset is applied, a
zone name is handed back with the clock time as it stands, and of the texts that are not read so
the strict parser takes those without a zone only. -/
structure ZoneContract (env : Externals) (writes : Bytes → WallClock → Zone → Prop) : Prop where
  zoned : ∀ str wall zone result, writes str wall zone →
    env.tryConvertTimestampTZ str = some result →
    result.micros = zone.microsUtc wall ∧ result.subMicroNanos = wall.subMicroNanos ∧
      result.tz = zone.writtenName
  strict : ∀ str wall zone nanos, writes str wall zone → env.tryConvertTimestampTZ str = none →
    env.tryConvertTimestamp str = some nanos → zone = .none ∧ nanos = wall.nanos
  epochNanos : ∀ micros, env.tryGetEpochNanoSeconds micros = epochNanoSeconds micros

end SplunkLogs
