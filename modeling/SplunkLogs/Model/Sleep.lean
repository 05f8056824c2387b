import SplunkLogs.Model.Client

/-!
# The backoff sleep

`SleepCheckingInterrupt` with the clock it reads. The clock may stand still between two reads and
may run on for any time at any place; a call of `sleep_for` takes its time at least.
-/
namespace SplunkLogs

/-- `std::chrono::milliseconds(100)` in the nanoseconds of the clock. -/
def pollInterval : Nat := 100 * 10 ^ 6

/-- What `steady_clock` shows during one call: when the deadline is computed, at each test of the
loop, and when the flag is checked behind the test. -/
structure SteadyClock where
  start : Nat
  tested : Nat → Nat
  checked : Nat → Nat
  begun : start ≤ tested 0
  steady : ∀ n, tested n ≤ checked n
  slept : ∀ n, checked n + pollInterval ≤ tested (n + 1)

/-- How the loop ends, with the number of the test at which it does. -/
inductive SleepResult where
  | elapsed (test : Nat)
  | interrupted (test : Nat)
  deriving DecidableEq

namespace SteadyClock

/-- `context.interrupted` at a check; `raised` is when it has been set, if ever. -/
def sees (clock : SteadyClock) (raised : Option Nat) (test : Nat) : Bool :=
  raised.any fun moment => moment ≤ clock.checked test

/-- The `while` loop from one of its tests on. -/
def sleepFrom (clock : SteadyClock) (raised : Option Nat) (deadline test : Nat) : SleepResult :=
  if clock.tested test < deadline then
    if clock.sees raised test then .interrupted test
    else clock.sleepFrom raised deadline (test + 1)
  else .elapsed test
  termination_by deadline - clock.tested test
  decreasing_by
    have onward := clock.steady test
    have slept := clock.slept test
    unfold pollInterval at slept
    omega

def deadline (clock : SteadyClock) (seconds : Nat) : Nat := clock.start + seconds * 10 ^ 9

def sleepCheckingInterrupt (clock : SteadyClock) (raised : Option Nat) (seconds : Nat) :
    SleepResult :=
  clock.sleepFrom raised (clock.deadline seconds) 0

end SteadyClock

end SplunkLogs
