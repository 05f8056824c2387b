import SplunkLogs.Spec.ClockTime

/-!
# Timestamps with a zone

Written offsets are applied by DuckDB. What it leaves to its caller, the zone names, the code
does not look at, so their clock times are taken for UTC.
-/
namespace SplunkLogs

variable {env : Externals} {writes : Bytes → WallClock → Zone → Prop} {rules : ZoneRules}
  {str : Bytes} {wall : WallClock} {zone : Zone}

/-- The instant denoted is the clock time without its written offset, wherever the text is
accepted as such: it is in range as UTC, and a zone name in it stands for UTC. -/
def DenotesUtc (env : Externals) (rules : ZoneRules) (str : Bytes) (wall : WallClock)
    (zone : Zone) : Prop :=
  (env.tryConvertTimestampTZ str).isSome = true → InInt64 (zone.microsUtc wall * 1000) →
    InInt64 (zone.nanosUtc wall) ∧ ∀ name, zone = .name name → rules name wall = some 0

/-- The sum of microseconds and rest is exact, or one wrap off. -/
theorem addInt64_cases {a b : Int} (within : InInt64 a) (rest : 0 ≤ b ∧ b < 1000) :
    (InInt64 (a + b) ∧ addInt64 a b = a + b) ∨
      (¬InInt64 (a + b) ∧ addInt64 a b = a + b - 2 ^ 64) := by
  unfold InInt64 at *
  unfold addInt64 Int.bmod
  norm_num
  split <;> omega

theorem Zone.instant_name {name : Bytes} {nanos : Int}
    (instant : (Zone.name name).instant rules wall = some nanos) :
    ∃ seconds, rules name wall = some seconds ∧ nanos = wall.nanos - seconds * 10 ^ 9 := by
  obtain ⟨seconds, known, rfl⟩ := Option.map_eq_some_iff.mp instant
  exact ⟨seconds, known, rfl⟩

theorem Zone.instant_written (written : ∀ name, zone ≠ .name name) :
    zone.instant rules wall = some (zone.nanosUtc wall) := by
  cases zone with
  | name text => exact absurd rfl (written text)
  | _ => rfl

section Sums

variable (within : InInt64 (zone.microsUtc wall * 1000))

include within

/-- Microseconds and rest are the nanoseconds without the written offset, or one wrap off. -/
theorem sum_cases :
    (InInt64 (zone.nanosUtc wall) ∧
      addInt64 (zone.microsUtc wall * 1000) wall.subMicroNanos = zone.nanosUtc wall) ∨
    (¬InInt64 (zone.nanosUtc wall) ∧
      addInt64 (zone.microsUtc wall * 1000) wall.subMicroNanos =
        zone.nanosUtc wall - 2 ^ 64) := by
  rw [zone.nanosUtc_eq]
  exact addInt64_cases within wall.subMicroNanos_bounds

/-- Without a zone name the sum is the instant unless it wraps. -/
theorem instant_sum_written (written : ∀ name, zone ≠ .name name) :
    zone.instant rules wall =
        some (addInt64 (zone.microsUtc wall * 1000) wall.subMicroNanos) ↔
      InInt64 (zone.nanosUtc wall) := by
  rw [Zone.instant_written written, Option.some.injEq]
  rcases sum_cases within with ⟨inRange, exact_⟩ | ⟨outside, wrapped⟩
  · exact iff_of_true exact_.symm inRange
  · exact iff_of_false (by omega) outside

end Sums

/-- With a zone name it is the instant exactly if the name stands for UTC as well: a wrap is
no whole number of seconds. -/
theorem instant_sum_name {name : Bytes}
    (within : InInt64 ((Zone.name name).microsUtc wall * 1000)) :
    (Zone.name name).instant rules wall =
        some (addInt64 ((Zone.name name).microsUtc wall * 1000) wall.subMicroNanos) ↔
      InInt64 ((Zone.name name).nanosUtc wall) ∧ rules name wall = some 0 := by
  have noOffset : (Zone.name name).nanosUtc wall = wall.nanos := by
    simp [Zone.nanosUtc, Zone.writtenOffset]
  constructor
  · intro instant
    obtain ⟨seconds, known, difference⟩ := Zone.instant_name instant
    rcases sum_cases within with ⟨inRange, exact_⟩ | ⟨_, wrapped⟩
    · have zero : seconds = 0 := by omega
      exact ⟨inRange, by rw [known, zero]⟩
    · omega
  · rintro ⟨inRange, utc⟩
    rcases sum_cases within with ⟨_, exact_⟩ | ⟨outside, _⟩
    · rw [exact_, noOffset, Zone.instant, utc]
      simp
    · exact absurd inRange outside

/-- The sum is the instant exactly if it does not wrap and no zone is left to apply. -/
theorem instant_sum_iff (within : InInt64 (zone.microsUtc wall * 1000)) :
    zone.instant rules wall =
        some (addInt64 (zone.microsUtc wall * 1000) wall.subMicroNanos) ↔
      InInt64 (zone.nanosUtc wall) ∧ ∀ name, zone = .name name → rules name wall = some 0 := by
  by_cases named : ∃ name, zone = .name name
  · obtain ⟨name, rfl⟩ := named
    rw [instant_sum_name within]
    simp
  · have written : ∀ name, zone ≠ .name name := fun name same => named ⟨name, same⟩
    rw [instant_sum_written within written]
    simp [written]

/-- For every clock time, fraction and zone, and every text that writes them: a result is the
instant denoted if and only if the text denotes its clock time in UTC. -/
theorem instant_read_iff (contract : ZoneContract env writes) (written : writes str wall zone) :
    (∀ nanos, parseIso8601ToNanos env str = some nanos →
      zone.instant rules wall = some nanos) ↔
    DenotesUtc env rules str wall zone := by
  cases converted : env.tryConvertTimestampTZ str with
  | none =>
    refine iff_of_true ?_ ?_
    · intro nanos parsed
      rw [parseIso8601ToNanos, converted] at parsed
      obtain ⟨rfl, rfl⟩ := contract.strict str wall zone nanos written converted parsed
      simp [Zone.instant, Zone.nanosUtc, Zone.writtenOffset]
    · intro accepted
      rw [converted] at accepted
      cases accepted
  | some result =>
    obtain ⟨micros, subMicro, _⟩ := contract.zoned str wall zone result written converted
    by_cases within : InInt64 (zone.microsUtc wall * 1000)
    · have parsed : parseIso8601ToNanos env str =
          some (addInt64 (zone.microsUtc wall * 1000) wall.subMicroNanos) := by
        simp only [parseIso8601ToNanos, converted, contract.epochNanos, epochNanoSeconds, micros,
          subMicro, if_pos within]
      have condition : DenotesUtc env rules str wall zone ↔ InInt64 (zone.nanosUtc wall) ∧
          ∀ name, zone = .name name → rules name wall = some 0 := by
        simp [DenotesUtc, converted, within]
      rw [parsed, condition, ← instant_sum_iff within]
      simp
    · refine iff_of_true ?_ ?_
      · intro nanos parsed
        simp [parseIso8601ToNanos, converted, contract.epochNanos, epochNanoSeconds, micros,
          within] at parsed
      · intro _ inside
        exact absurd inside within

/-- 2024-01-01 at noon. -/
def noon : WallClock := ⟨19723, 43200, []⟩

/-- Timestamp functions that take one text. -/
def oneTimestamp (text : Bytes) (result : TimestampTZ) : Externals := { Externals.ofRecords [] with
  tryConvertTimestampTZ := fun str => if str == text then some result else none
  tryGetEpochNanoSeconds := epochNanoSeconds }

/-- The notation of one text. -/
def Writes (text : Bytes) (wall : WallClock) (zone : Zone) (str : Bytes) (wall' : WallClock)
    (zone' : Zone) : Prop :=
  str = text ∧ wall' = wall ∧ zone' = zone

theorem oneTimestamp_contract {text : Bytes} {wall : WallClock} {zone : Zone}
    {result : TimestampTZ} (micros : result.micros = zone.microsUtc wall)
    (subMicro : result.subMicroNanos = wall.subMicroNanos) (tz : result.tz = zone.writtenName) :
    ZoneContract (oneTimestamp text result) (Writes text wall zone) := by
  constructor
  · rintro _ _ _ found ⟨rfl, rfl, rfl⟩ converted
    obtain rfl : result = found := by simpa [oneTimestamp] using converted
    exact ⟨micros, subMicro, tz⟩
  · intro str wall' zone' nanos _ _ converted
    cases converted
  · intro micros
    rfl

/-- An hour east of UTC. -/
def easternNoon : Bytes := ascii "2024-01-01 12:00:00+01"

def easternClock : Externals := oneTimestamp easternNoon ⟨1704106800000000, true, [], 0⟩

theorem instant_read_eastern :
    (Zone.offset 3600).instant (fun _ _ => none) noon = some 1704106800000000000 := by
  have contract : ZoneContract easternClock (Writes easternNoon noon (.offset 3600)) :=
    oneTimestamp_contract (by decide) (by decide) rfl
  have utc : DenotesUtc easternClock (fun _ _ => none) easternNoon noon (.offset 3600) := by
    intro _ _
    exact ⟨by decide, fun name same => by cases same⟩
  exact (instant_read_iff contract ⟨rfl, rfl, rfl⟩).mpr utc _ (by decide)

/-- A zone eight hours west of UTC. -/
def pacificNoon : Bytes := ascii "2024-01-01 12:00:00 PST"

def pacificRules : ZoneRules := fun name _ => if name == ascii "PST" then some (-28800) else none

def pacificClock : Externals := oneTimestamp pacificNoon ⟨1704110400000000, true, ascii "PST", 0⟩

/-- Noon in the zone is taken for noon in UTC. -/
theorem zone_name_ignored :
    ZoneContract pacificClock (Writes pacificNoon noon (.name (ascii "PST"))) ∧
    parseIso8601ToNanos pacificClock pacificNoon = some 1704110400000000000 ∧
    (Zone.name (ascii "PST")).instant pacificRules noon = some 1704139200000000000 ∧
    ¬∀ nanos, parseIso8601ToNanos pacificClock pacificNoon = some nanos →
      (Zone.name (ascii "PST")).instant pacificRules noon = some nanos := by
  have parsed : parseIso8601ToNanos pacificClock pacificNoon = some 1704110400000000000 := by
    decide
  refine ⟨oneTimestamp_contract (by decide) (by decide) rfl, parsed, by decide, ?_⟩
  intro read
  exact absurd (read _ parsed) (by decide)

end SplunkLogs
