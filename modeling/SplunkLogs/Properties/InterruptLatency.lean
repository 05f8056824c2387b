import SplunkLogs.Model.Sleep
import SplunkLogs.Properties.RetryProtocol

/-!
# How soon a backoff sees an interrupt

The backoff sleep polls the flag of the query. It does not end early, it does not outlast its
deadline by more than the last poll, and it reacts to an interrupt at the first poll behind it.
-/
namespace SplunkLogs

namespace SteadyClock

variable {clock : SteadyClock} {raised : Option Nat} {deadline test : Nat}

/-- By each test all the sleeps before it have passed. -/
theorem start_le_tested (clock : SteadyClock) (test : Nat) :
    clock.start + test * pollInterval ≤ clock.tested test := by
  induction test with
  | zero => simpa using clock.begun
  | succ test ih =>
    have onward := clock.steady test
    have slept := clock.slept test
    rw [Nat.succ_mul]
    omega

/-- What the loop has come to at its last test. -/
inductive Ended (clock : SteadyClock) (raised : Option Nat) (deadline : Nat) : SleepResult → Prop
  | elapsed (test : Nat) (passed : deadline ≤ clock.tested test)
      (before : ∀ n < test, clock.tested n < deadline ∧ clock.sees raised n = false) :
      Ended clock raised deadline (.elapsed test)
  | interrupted (test : Nat) (running : clock.tested test < deadline)
      (seen : clock.sees raised test = true)
      (before : ∀ n < test, clock.tested n < deadline ∧ clock.sees raised n = false) :
      Ended clock raised deadline (.interrupted test)

theorem sleepFrom_ended (clock : SteadyClock) (raised : Option Nat) (deadline test : Nat)
    (before : ∀ n < test, clock.tested n < deadline ∧ clock.sees raised n = false) :
    Ended clock raised deadline (clock.sleepFrom raised deadline test) := by
  fun_induction sleepFrom clock raised deadline test with
  | case1 test running seen => exact .interrupted test running seen before
  | case2 test running unseen ih =>
    apply ih
    intro n earlier
    rcases Nat.lt_succ_iff_lt_or_eq.mp earlier with earlier | rfl
    · exact before n earlier
    · exact ⟨running, by simpa using unseen⟩
  | case3 test passed => exact .elapsed test (Nat.le_of_not_lt passed) before

/-- A test that is passed is one of the first ten of each second. -/
theorem test_lt {seconds : Nat} (running : clock.tested test < clock.deadline seconds) :
    test < 10 * seconds := by
  have low := clock.start_le_tested test
  unfold SteadyClock.deadline at running
  unfold pollInterval at low
  omega

theorem sees_iff : clock.sees raised test = true ↔
    ∃ moment, raised = some moment ∧ moment ≤ clock.checked test := by
  simp [sees, Option.any_eq_true]

/-- How a sleep is to end: at the first test behind its deadline, if the flag has been set at no
check before, or at the first check behind the moment it is set. No test before the last one was
behind the deadline. -/
def Prompt (clock : SteadyClock) (raised : Option Nat) (seconds : Nat) : SleepResult → Prop
  | .elapsed test =>
    test ≤ 10 * seconds ∧ clock.deadline seconds ≤ clock.tested test ∧
      (∀ n < test, clock.tested n < clock.deadline seconds) ∧
      ∀ moment, raised = some moment → ∀ n < test, clock.checked n < moment
  | .interrupted test =>
    test < 10 * seconds ∧ clock.tested test < clock.deadline seconds ∧
      (∀ n < test, clock.tested n < clock.deadline seconds) ∧
      ∃ moment, raised = some moment ∧ moment ≤ clock.checked test ∧
        ∀ n < test, clock.checked n < moment

theorem before_moment {moment : Nat} (set : raised = some moment)
    (before : ∀ n < test, clock.tested n < deadline ∧ clock.sees raised n = false) :
    ∀ n < test, clock.checked n < moment := by
  intro n earlier
  by_contra reached
  have seen : clock.sees raised n = true := sees_iff.mpr ⟨moment, set, by omega⟩
  rw [(before n earlier).2] at seen
  cases seen

theorem Ended.prompt {seconds : Nat} {result : SleepResult}
    (ended : Ended clock raised (clock.deadline seconds) result) :
    clock.Prompt raised seconds result := by
  cases ended with
  | elapsed test passed before =>
    refine ⟨?_, passed, fun n earlier => (before n earlier).1,
      fun moment set => before_moment set before⟩
    -- The test before the last one was passed.
    cases test with
    | zero => exact Nat.zero_le _
    | succ earlier => exact test_lt (before earlier (Nat.lt_succ_self earlier)).1
  | interrupted test running seen before =>
    obtain ⟨moment, set, reached⟩ := sees_iff.mp seen
    exact ⟨test_lt running, running, fun n earlier => (before n earlier).1, moment, set, reached,
      before_moment set before⟩

theorem sleepCheckingInterrupt_prompt (clock : SteadyClock) (raised : Option Nat)
    (seconds : Nat) :
    clock.Prompt raised seconds (clock.sleepCheckingInterrupt raised seconds) :=
  (clock.sleepFrom_ended raised (clock.deadline seconds) 0
    (fun _ none => absurd none (Nat.not_lt_zero _))).prompt

end SteadyClock

/-- The calls of `sleep_for`, one behind each test that is passed and finds no interrupt. -/
def SleepResult.sleeps : SleepResult → Nat
  | .elapsed test => test
  | .interrupted test => test

section Loops

variable {ε : Type} (clocks : Nat → SteadyClock) (raised : Option Nat)

/-- All polls of a loop whose backoffs read these clocks. -/
def polls (log : List (Action ε)) : Nat :=
  (log.map fun
    | .sleep n seconds => ((clocks n).sleepCheckingInterrupt raised seconds).sleeps
    | _ => 0).sum

theorem polls_le (log : List (Action ε)) :
    polls clocks raised log ≤ 10 * (LoopState.waits log).sum := by
  induction log with
  | nil => exact Nat.le_refl _
  | cons action rest ih =>
    cases action with
    | sleep n seconds =>
      have here : ((clocks n).sleepCheckingInterrupt raised seconds).sleeps ≤ 10 * seconds := by
        have prompt := (clocks n).sleepCheckingInterrupt_prompt raised seconds
        cases ended : (clocks n).sleepCheckingInterrupt raised seconds <;>
          rw [ended] at prompt
        · exact prompt.1
        · exact prompt.1.le
      have sum : (LoopState.waits (.sleep n seconds :: rest)).sum =
          seconds + (LoopState.waits rest).sum := rfl
      have count : polls clocks raised (.sleep n seconds :: rest) =
          ((clocks n).sleepCheckingInterrupt raised seconds).sleeps +
            polls clocks raised rest := rfl
      omega
    | _ => simpa [polls, LoopState.waits] using ih

end Loops

/-- Every backoff of either loop ends at the first poll behind its deadline, or at the first one
behind the interrupt of the query, ten polls to the second at most; a whole loop polls six hundred
times for each retry at most. -/
theorem backoffs_end_promptly {σ ε : Type} (client : NativeClient) (c : Consumer σ ε)
    (attempts : Nat → Attempt) (indexDiscovery connected : Bool) (s : σ)
    (clocks : Nat → SteadyClock) (raised : Option Nat) :
    (∀ n seconds, (clocks n).Prompt raised seconds
      ((clocks n).sleepCheckingInterrupt raised seconds)) ∧
    polls clocks raised (exportSearch client c attempts 0 connected s).log ≤
      600 * client.retries ∧
    polls clocks raised (authenticatedRequest client indexDiscovery attempts 0 connected).log ≤
      600 * client.retries := by
  refine ⟨fun n => (clocks n).sleepCheckingInterrupt_prompt raised, ?_, ?_⟩
  · have waits := (exportSearch_withinBudget client c attempts connected s).waits
    have bound := polls_le clocks raised (exportSearch client c attempts 0 connected s).log
    omega
  · have waits :=
      (authenticatedRequest_withinBudget client attempts indexDiscovery connected).waits
    have bound := polls_le clocks raised
      (authenticatedRequest client indexDiscovery attempts 0 connected).log
    omega

end SplunkLogs
