import SplunkLogs.Properties.RetryAgreement

/-!
# The delay before the next attempt

A delay is between one second and a minute and follows the number of the attempt or the
server's `Retry-After`, as long as the attempts that back off have numbers below 64.
-/
namespace SplunkLogs

/-- The integer in the `Retry-After` of a complete 429 response. -/
def usableRetryAfter : Exchange → Option Int
  | .answered head _ none => if head.status = 429 then head.retryAfter.bind stoll else none
  | _ => none

/-- The delay after an attempt that is followed by another one. -/
def retryDelay (client : NativeClient) (attempt : Nat) : Exchange → Nat
  | .answered head _ none =>
    if head.status = 429 then client.rateLimitRetryDelaySeconds head.retryAfter attempt
    else client.backoffSeconds attempt
  | _ => client.backoffSeconds attempt

/-- What a delay after attempt `n` is meant to be. -/
structure DelayDefined (n : Nat) (exchange : Exchange) (delay : Nat) : Prop where
  bounds : 1 ≤ delay ∧ delay ≤ 60
  backoff : usableRetryAfter exchange = none → delay = min (2 ^ n) 60
  advised : ∀ seconds, usableRetryAfter exchange = some seconds →
    min (max seconds 0) 60 ≤ (delay : Int)
  /-- Without a usable `Retry-After` the shift by `n` is evaluated, which is defined to 63. -/
  shift : usableRetryAfter exchange = none → n < 64

/-- All delays of a run are defined, and those that back off do not decrease. -/
structure DelaysDefined {ε : Type} (attempts : Nat → Attempt) (log : List (Action ε)) :
    Prop where
  each : ∀ n delay, .sleep n delay ∈ log → DelayDefined n (attempts n).exchange delay
  monotone : ∀ n m delay later, n ≤ m → .sleep n delay ∈ log → .sleep m later ∈ log →
    usableRetryAfter (attempts n).exchange = none →
    usableRetryAfter (attempts m).exchange = none → delay ≤ later

section Delays

variable {client : NativeClient} {n : Nat} {exchange : Exchange}

theorem retryDelay_backoff (unusable : usableRetryAfter exchange = none) :
    retryDelay client n exchange = client.backoffSeconds n := by
  unfold usableRetryAfter at unusable
  unfold retryDelay
  split
  next head chunks =>
    split
    next limited =>
      have header : head.retryAfter.bind stoll = none := by simpa [limited] using unusable
      rw [NativeClient.rateLimitRetryDelaySeconds, header]
    · rfl
  · rfl

theorem retryDelay_advised {seconds : Int} (usable : usableRetryAfter exchange = some seconds) :
    retryDelay client n exchange =
      if 59 < max seconds 0 then 60 else (max seconds 0).toNat + 1 := by
  unfold usableRetryAfter at usable
  split at usable
  next head chunks =>
    by_cases limited : head.status = 429
    · rw [if_pos limited] at usable
      simp only [retryDelay, limited, if_true, NativeClient.rateLimitRetryDelaySeconds, usable]
    · simp [limited] at usable
  · cases usable

theorem backoffSeconds_eq (below : n < 64) : client.backoffSeconds n = min (2 ^ n) 60 := by
  rw [NativeClient.backoffSeconds, NativeClient.shiftOne, if_pos below]

/-- The delay of one attempt is as it is meant to be exactly if no shift is too long. -/
theorem retryDelay_defined_iff :
    DelayDefined n exchange (retryDelay client n exchange) ↔
      (usableRetryAfter exchange = none → n < 64) := by
  constructor
  · exact fun defined => defined.shift
  · intro below
    cases usable : usableRetryAfter exchange with
    | none =>
      have doubled : client.backoffSeconds n = min (2 ^ n) 60 := backoffSeconds_eq (below usable)
      have positive : 1 ≤ 2 ^ n := Nat.one_le_two_pow
      rw [retryDelay_backoff usable, doubled]
      refine ⟨by omega, fun _ => rfl, ?_, fun _ => below usable⟩
      intro seconds found
      simp [usable] at found
    | some seconds =>
      rw [retryDelay_advised usable]
      refine ⟨by split <;> omega, ?_, ?_, ?_⟩
      · intro found
        simp [usable] at found
      · intro other found
        obtain rfl : seconds = other := by simpa [usable] using found
        split <;> omega
      · intro found
        simp [usable] at found

end Delays

section Loops

variable {σ ε : Type} {client : NativeClient} {attempt : Nat} {r : Receiver σ}

theorem afterSend_failed_delay {delay : Nat} {error : TransportError}
    (retried : afterSend (ε := ε) client attempt r (.failed error) = .retry delay) :
    delay = client.backoffSeconds attempt := by
  cases Decided.of_afterSend retried with
  | failedAgain => rfl

theorem afterSend_response_delay {delay : Nat} {head : ResponseHead} {chunks : List Bytes}
    (retried : afterSend (ε := ε) client attempt r (.response head) = .retry delay) :
    delay = retryDelay client attempt (.answered head chunks none) := by
  cases Decided.of_afterSend retried with
  | limited _ _ status => rw [retryDelay, if_pos status]
  | unavailable _ _ status =>
    have other : head.status ≠ 429 := by omega
    rw [retryDelay, if_neg other]

theorem afterSend_transferEnd_delay {delay : Nat} {head : ResponseHead} {chunks : List Bytes}
    {failure : Option TransportError}
    (retried : afterSend (ε := ε) client attempt r (transferEnd head failure) = .retry delay) :
    delay = retryDelay client attempt (.answered head chunks failure) := by
  cases failure with
  | none => exact afterSend_response_delay retried
  | some error => exact afterSend_failed_delay retried

/-- Whatever the callbacks have done, the delay is the one of the exchange. -/
theorem Sending.delay {delay : Nat} {exchange : Exchange} {log : List (Action ε)}
    {result : SendResult} (sending : Sending attempt exchange r log (.ok result))
    (retried : afterSend (ε := ε) client attempt r result = .retry delay) :
    delay = retryDelay client attempt exchange := by
  cases sending with
  | noHead failed => rw [failed, afterSend_failed_delay retried]; rfl
  | rejected answered => rw [answered, ← afterSend_transferEnd_delay retried]
  | taken answered => rw [answered, ← afterSend_transferEnd_delay retried]
  | stopped _ _ stopped => simp [afterSend, stopped] at retried

end Loops

/-- The actions of a loop that sleeps for nothing but the delay of the attempt, and only
within the budget. -/
def Sleeps {ε : Type} (client : NativeClient) (attempts : Nat → Attempt)
    (log : List (Action ε)) : Prop :=
  ∀ n delay, .sleep n delay ∈ log →
    n < client.retries ∧ delay = retryDelay client n (attempts n).exchange

section Sleeps

variable {σ ε : Type} {client : NativeClient} {attempts : Nat → Attempt}

theorem Sleeps.append {a b : List (Action ε)} (first : Sleeps client attempts a)
    (second : Sleeps client attempts b) : Sleeps client attempts (a ++ b) := by
  intro n delay member
  rcases List.mem_append.mp member with member | member
  · exact first n delay member
  · exact second n delay member

theorem mem_round_sleep {connected : Bool} {attempt n delay : Nat}
    {calls closing : List (Action ε)}
    (chunks : ∀ action ∈ calls, ∃ data reply, action = .chunk attempt data reply) :
    .sleep n delay ∈ round connected attempt calls closing ↔ .sleep n delay ∈ closing := by
  have left : .sleep n delay ∉ (getConnection connected : List (Action ε)) :=
    not_mem_getConnection (by simp)
  have middle : (.sleep n delay : Action ε) ∉ calls := by
    intro member
    obtain ⟨_, _, same⟩ := chunks _ member
    cases same
  simp [round, left, middle]

theorem sleeps_last (connected dropped : Bool) {attempt : Nat} {calls : List (Action ε)}
    (chunks : ∀ action ∈ calls, ∃ data reply, action = .chunk attempt data reply) :
    Sleeps client attempts
      (round connected attempt calls (dropConnection dropped attempt)) := by
  intro n delay member
  rw [mem_round_sleep chunks] at member
  cases dropped <;> simp [dropConnection] at member

theorem sleeps_next (connected dropped : Bool) {attempt delay : Nat} {calls : List (Action ε)}
    (chunks : ∀ action ∈ calls, ∃ data reply, action = .chunk attempt data reply)
    (within : attempt < client.retries)
    (asked : delay = retryDelay client attempt (attempts attempt).exchange) :
    Sleeps client attempts (round connected attempt calls
      (dropConnection dropped attempt ++ [.sleep attempt delay])) := by
  intro n slept member
  rw [mem_round_sleep chunks] at member
  obtain ⟨rfl, rfl⟩ : n = attempt ∧ slept = delay := by
    cases dropped <;> simpa [dropConnection] using member
  exact ⟨within, asked⟩

/-- The sleeps of `ExportSearch`, round by round. -/
theorem exportSearch_sleeps (c : Consumer σ ε) (attempt : Nat) (connected : Bool) (s : σ) :
    Sleeps client attempts (exportSearch client c attempts attempt connected s).log := by
  fun_induction exportSearch client c attempts attempt connected s with
  | case1 attempt connected s interrupted => simp [Sleeps]
  | case2 attempt connected s running r calls log error sends =>
    have quiet : Sleeps client attempts
        (round connected attempt calls (dropConnection false attempt)) :=
      sleeps_last connected false (send_spec sends).only_chunks
    simpa [round, dropConnection] using quiet
  | case3 attempt connected s running r calls log result dropped decision sends =>
    exact sleeps_last _ _ (send_spec sends).only_chunks
  | case4 attempt connected s running r calls log result dropped error decision sends =>
    exact sleeps_last _ _ (send_spec sends).only_chunks
  | case5 attempt connected s running r calls log result dropped delay decision log' seen sends =>
    exact sleeps_next _ _ (send_spec sends).only_chunks (afterSend_retry_lt decision)
      ((send_spec sends).delay decision)
  | case6 attempt connected s running r calls log result dropped delay decision log' unseen _
      sends ih =>
    exact (sleeps_next _ _ (send_spec sends).only_chunks (afterSend_retry_lt decision)
      ((send_spec sends).delay decision)).append ih

theorem verdict_again_delay {attempt delay : Nat} {exchange : Exchange}
    (again : verdict client attempt exchange.buffered = .again delay) :
    delay = retryDelay client attempt exchange := by
  rcases exchange with error | ⟨head, chunks, _ | error⟩
  · simp only [Exchange.buffered, verdict] at again
    split at again
    · exact (Verdict.again.inj again).symm
    · cases again
  · simp only [Exchange.buffered, verdict] at again
    split at again
    · cases again
    · split at again
      next limited =>
        rw [retryDelay, if_pos limited.2]
        exact (Verdict.again.inj again).symm
      next notLimited =>
        split at again
        next failing =>
          have other : head.status ≠ 429 := fun limited => notLimited ⟨failing.1, limited⟩
          rw [retryDelay, if_neg other]
          exact (Verdict.again.inj again).symm
        · cases again
  · simp only [Exchange.buffered, verdict] at again
    split at again
    · exact (Verdict.again.inj again).symm
    · cases again

theorem retryPolicy_sleeps (attempt : Nat) (connected : Bool) :
    Sleeps client attempts (retryPolicy client attempts attempt connected).log := by
  -- A round of the policy is one whose request has no consumer.
  have silent : ∀ attempt, ∀ action ∈ ([] : List (Action Empty)),
      ∃ data reply, action = .chunk attempt data reply := by simp
  fun_induction retryPolicy client attempts attempt connected with
  | case1 attempt connected interrupted => simp [Sleeps]
  | case2 attempt connected running outcome lost log ending decided =>
    simpa [round, log] using sleeps_last connected lost (silent attempt)
  | case3 attempt connected running outcome lost log delay decided log' seen =>
    simpa [round, log', log] using sleeps_next connected lost (silent attempt)
      (verdict_again_lt decided) (verdict_again_delay decided)
  | case4 attempt connected running outcome lost log delay decided log' unseen _ ih =>
    have here : Sleeps client attempts log' := by
      simpa [round, log', log] using sleeps_next connected lost (silent attempt)
        (verdict_again_lt decided) (verdict_again_delay decided)
    exact here.append ih

/-- The sleeps of `AuthenticatedRequest` are those of the policy it follows. -/
theorem authenticatedRequest_sleeps (indexDiscovery : Bool) (attempt : Nat) (connected : Bool) :
    Sleeps client attempts
      (authenticatedRequest client indexDiscovery attempts attempt connected).log := by
  rw [(authenticatedRequest_follows client indexDiscovery attempts attempt connected).log]
  exact retryPolicy_sleeps attempt connected

/-- A run is as it is meant to be exactly if every sleep that backs off has a number the
shift is defined for. -/
theorem Sleeps.defined_iff {log : List (Action ε)} (sleeps : Sleeps client attempts log) :
    DelaysDefined attempts log ↔ ∀ n delay, .sleep n delay ∈ log →
      usableRetryAfter (attempts n).exchange = none → n < 64 := by
  constructor
  · exact fun defined n delay slept => (defined.each n delay slept).shift
  · intro below
    have each : ∀ n delay, .sleep n delay ∈ log →
        DelayDefined n (attempts n).exchange delay := by
      intro n delay slept
      rw [(sleeps n delay slept).2]
      exact retryDelay_defined_iff.mpr (below n delay slept)
    refine ⟨each, ?_⟩
    intro n m delay later order slept sleptLater unusable unusableLater
    have grown : 2 ^ n ≤ 2 ^ m := Nat.pow_le_pow_right Nat.two_pos order
    rw [(each n delay slept).backoff unusable, (each m later sleptLater).backoff unusableLater]
    omega

end Sleeps

section Failing

variable {σ ε : Type} {client : NativeClient}

/-- Every attempt fails to connect. -/
def failing : Nat → Attempt := fun _ => ⟨false, .failed (.other 0), false⟩

theorem exportSearch_failing (c : Consumer σ ε) {attempt : Nat}
    (within : attempt < client.retries) (connected : Bool) (s : σ) :
    exportSearch client c failing attempt connected s =
      (exportSearch client c failing (attempt + 1) false s).after
        (round connected attempt [] [.reset attempt,
          .sleep attempt (client.backoffSeconds attempt)]) := by
  have again : afterSend (ε := ε) client attempt ⟨s, false, false, 0, []⟩
      (.failed (.other 0)) = .retry (client.backoffSeconds attempt) := by
    simp [afterSend, isRetryableTransportError, within]
  have quiet : (failing attempt).interrupted = false := rfl
  have sent : send c attempt s (failing attempt).exchange =
      (⟨s, false, false, 0, []⟩, [], .ok (.failed (.other 0))) := rfl
  simp only [exportSearch_round quiet sent, again, failing, Bool.false_eq_true, if_false]
  rfl

theorem authenticatedRequest_failing (indexDiscovery : Bool) {attempt : Nat}
    (within : attempt < client.retries) (connected : Bool) :
    authenticatedRequest client indexDiscovery failing attempt connected =
      (authenticatedRequest client indexDiscovery failing (attempt + 1) false).after
        (round connected attempt [] [.reset attempt,
          .sleep attempt (client.backoffSeconds attempt)]) := by
  conv_lhs => unfold authenticatedRequest
  simp [failing, Exchange.buffered, isRetryableTransportError, within, round]

/-- A loop of failing rounds sleeps through the whole budget. -/
theorem slept_of_rounds (log : Nat → Bool → List (Action ε))
    (step : ∀ attempt, attempt < client.retries → ∀ connected, log attempt connected =
      round connected attempt [] [.reset attempt, .sleep attempt (client.backoffSeconds attempt)] ++
        log (attempt + 1) false)
    {attempt n : Nat} (begun : attempt ≤ n) (within : n < client.retries) (connected : Bool) :
    .sleep n (client.backoffSeconds n) ∈ log attempt connected := by
  induction begun using Nat.decreasingInduction generalizing connected with
  | of_succ attempt below ih =>
    rw [step attempt (Nat.lt_of_lt_of_le below within.le)]
    exact List.mem_append_right _ (ih false)
  | self =>
    rw [step n within]
    exact List.mem_append_left _ (by simp [round])

theorem exportSearch_failing_slept (c : Consumer σ ε) {n : Nat} (within : n < client.retries)
    (connected : Bool) (s : σ) :
    .sleep n (client.backoffSeconds n) ∈ (exportSearch client c failing 0 connected s).log := by
  apply slept_of_rounds (fun attempt connected =>
    (exportSearch client c failing attempt connected s).log) _ n.zero_le within
  intro attempt below connected
  exact congrArg ExportRun.log (exportSearch_failing c below connected s)

theorem authenticatedRequest_failing_slept (indexDiscovery : Bool) {n : Nat}
    (within : n < client.retries) (connected : Bool) :
    .sleep n (client.backoffSeconds n) ∈
      (authenticatedRequest client indexDiscovery failing 0 connected).log := by
  apply slept_of_rounds (fun attempt connected =>
    (authenticatedRequest client indexDiscovery failing attempt connected).log) _ n.zero_le within
  intro attempt below connected
  exact congrArg RequestRun.log (authenticatedRequest_failing indexDiscovery below connected)

/-- A run that backs off after attempt 64 is not as it is meant to be. -/
theorem not_delaysDefined {log : List (Action ε)}
    (slept : .sleep 64 (client.backoffSeconds 64) ∈ log) : ¬DelaysDefined failing log := by
  intro defined
  exact absurd ((defined.each 64 _ slept).shift rfl) (by decide)

end Failing

section Budget

variable {σ ε : Type} {client : NativeClient} {attempts : Nat → Attempt}

/-- Without a backoff after an attempt beyond the width of the shift, all is defined. -/
theorem Sleeps.defined {log : List (Action ε)} (sleeps : Sleeps client attempts log)
    (advised : ∀ n, 64 ≤ n → n < client.retries →
      usableRetryAfter (attempts n).exchange ≠ none) : DelaysDefined attempts log := by
  rw [sleeps.defined_iff]
  intro n delay slept unusable
  by_contra beyond
  exact advised n (by omega) (sleeps n delay slept).1 unusable

/-- The delays of all runs are defined exactly if the budget is at most 64. A larger budget
needs a usable `Retry-After` from every later attempt. -/
theorem delays_defined_iff (client : NativeClient) (indexDiscovery : Bool) (c : Consumer σ ε)
    (s : σ) :
    ((∀ attempts connected,
        DelaysDefined attempts (exportSearch client c attempts 0 connected s).log) ↔
      client.retries ≤ 64) ∧
    ((∀ attempts connected, DelaysDefined attempts
        (authenticatedRequest client indexDiscovery attempts 0 connected).log) ↔
      client.retries ≤ 64) ∧
    ∀ attempts connected,
      (∀ n, 64 ≤ n → n < client.retries → usableRetryAfter (attempts n).exchange ≠ none) →
      DelaysDefined attempts (exportSearch client c attempts 0 connected s).log ∧
      DelaysDefined attempts
        (authenticatedRequest client indexDiscovery attempts 0 connected).log := by
  refine ⟨⟨?_, ?_⟩, ⟨?_, ?_⟩, ?_⟩
  · intro all
    by_contra beyond
    exact not_delaysDefined (exportSearch_failing_slept c (by omega) false s)
      (all failing false)
  · intro budget attempts connected
    apply (exportSearch_sleeps c 0 connected s).defined
    intro n beyond within
    omega
  · intro all
    by_contra beyond
    exact not_delaysDefined (authenticatedRequest_failing_slept indexDiscovery (by omega) false)
      (all failing false)
  · intro budget attempts connected
    apply (authenticatedRequest_sleeps indexDiscovery 0 connected).defined
    intro n beyond within
    omega
  · intro attempts connected advised
    exact ⟨(exportSearch_sleeps c 0 connected s).defined advised,
      (authenticatedRequest_sleeps indexDiscovery 0 connected).defined advised⟩

end Budget

/-- A client with a budget of 65, on a machine that shifts by the low six bits. -/
def patient : NativeClient := ⟨ascii "https://localhost:8089", 65, fun n => 2 ^ (n % 64)⟩

/-- After attempts a minute apart, the delay is back at one second. -/
theorem delay_starts_over :
    .sleep 63 60 ∈ (exportSearch patient collector failing 0 false []).log ∧
    .sleep 64 1 ∈ (exportSearch patient collector failing 0 false []).log ∧
    ¬DelaysDefined failing (exportSearch patient collector failing 0 false []).log := by
  have last : .sleep 64 (patient.backoffSeconds 64) ∈
      (exportSearch patient collector failing 0 false []).log :=
    exportSearch_failing_slept collector (by decide) false []
  have minute : patient.backoffSeconds 63 = 60 := by decide
  have second : patient.backoffSeconds 64 = 1 := by decide
  refine ⟨?_, second ▸ last, not_delaysDefined last⟩
  rw [← minute]
  exact exportSearch_failing_slept collector (by decide) false []

end SplunkLogs
