import SplunkLogs.Model.Client

/-!
# The retry policy

What one attempt's outcome means for the next, stated once and free of callbacks: the
policy both retry loops are meant to implement.
-/
namespace SplunkLogs

/-- How a retry loop ends. -/
inductive Ending where
  | interrupted
  | transport (error : TransportError)
  | http (status : Nat)
  | success (body : Bytes)
  | abandoned
  deriving DecidableEq

/-- The kind of an exception; the texts of the two loops differ. -/
def ClientError.ending {ε : Type} : ClientError ε → Ending
  | .interrupt => .interrupted
  | .exportFailed _ _ error => .transport error
  | .requestFailed _ error => .transport error
  | .httpStatus status _ => .http status
  | .discoveryDenied status => .http status
  | .consumer _ => .abandoned

inductive Verdict where
  | stop (ending : Ending)
  | again (delay : Nat)

/-- The transport errors of a certificate that cannot be loaded or is refused. -/
def certificateErrors : List TransportError :=
  [.sslLoadingCerts, .sslServerVerification, .sslServerHostnameVerification]

/-- What an attempt with that outcome leads to. -/
def verdict (client : NativeClient) (attempt : Nat) :
    Except TransportError (ResponseHead × Bytes) → Verdict
  | .error error =>
    if attempt < client.retries ∧ error ∉ certificateErrors then
      .again (client.backoffSeconds attempt)
    else .stop (.transport error)
  | .ok (head, body) =>
    if head.success then .stop (.success body)
    else if attempt < client.retries ∧ head.status = 429 then
      .again (client.rateLimitRetryDelaySeconds head.retryAfter attempt)
    else if attempt < client.retries ∧ 500 ≤ head.status then
      .again (client.backoffSeconds attempt)
    else .stop (.http head.status)

/-- The cached connection does not survive a transport error. -/
def losesConnection : Except TransportError (ResponseHead × Bytes) → Bool
  | .error _ => true
  | .ok _ => false

structure PolicyRun where
  log : List (Action Empty)
  connected : Bool
  ending : Ending

def PolicyRun.after (run : PolicyRun) (log : List (Action Empty)) : PolicyRun :=
  { run with log := log ++ run.log }

theorem verdict_again_lt {client : NativeClient} {attempt delay : Nat}
    {outcome : Except TransportError (ResponseHead × Bytes)}
    (again : verdict client attempt outcome = .again delay) : attempt < client.retries := by
  rcases outcome with error | ⟨head, body⟩
  · simp only [verdict] at again
    split at again
    next allowed => exact allowed.1
    · cases again
  · simp only [verdict] at again
    split at again
    · cases again
    · split at again
      next limited => exact limited.1
      · split at again
        next failing => exact failing.1
        · cases again

/-- The policy from attempt `attempt` on. -/
def retryPolicy (client : NativeClient) (attempts : Nat → Attempt) (attempt : Nat)
    (connected : Bool) : PolicyRun :=
  if (attempts attempt).interrupted then ⟨[], connected, .interrupted⟩
  else
    let outcome := (attempts attempt).exchange.buffered
    let lost := losesConnection outcome
    let log := getConnection connected ++ .send attempt :: dropConnection lost attempt
    match decision : verdict client attempt outcome with
    | .stop ending => ⟨log, !lost, ending⟩
    | .again delay =>
      let log := log ++ [.sleep attempt delay]
      if (attempts attempt).interruptedInBackoff then ⟨log, !lost, .interrupted⟩
      else
        have := verdict_again_lt decision
        (retryPolicy client attempts (attempt + 1) (!lost)).after log
  termination_by client.retries - attempt

section Verdicts

variable {client : NativeClient} {attempt : Nat} {error : TransportError} {head : ResponseHead}
  {body : Bytes}

theorem isRetryableTransportError_iff :
    isRetryableTransportError error = true ↔ error ∉ certificateErrors := by
  cases error <;> simp [isRetryableTransportError, certificateErrors]

theorem verdict_fatal
    (fatal : (decide (client.retries ≤ attempt) || !isRetryableTransportError error) = true) :
    verdict client attempt (.error error) = .stop (.transport error) := by
  apply if_neg
  intro allowed
  simp only [Bool.or_eq_true, decide_eq_true_eq, Bool.not_eq_true'] at fatal
  rcases fatal with spent | refused
  · exact absurd allowed.1 (by omega)
  · rw [isRetryableTransportError_iff.mpr allowed.2] at refused; cases refused

theorem verdict_transient
    (transient : ¬(decide (client.retries ≤ attempt) || !isRetryableTransportError error) = true) :
    verdict client attempt (.error error) = .again (client.backoffSeconds attempt) := by
  simp only [Bool.or_eq_true, decide_eq_true_eq, Bool.not_eq_true', not_or, Nat.not_le,
    Bool.not_eq_false, isRetryableTransportError_iff] at transient
  exact if_pos transient

theorem verdict_limited (limited : head.status = 429 ∧ attempt < client.retries) :
    verdict client attempt (.ok (head, body)) =
      .again (client.rateLimitRetryDelaySeconds head.retryAfter attempt) := by
  simp [verdict, ResponseHead.success, limited.1, limited.2]

theorem verdict_failing (failing : 500 ≤ head.status ∧ attempt < client.retries) :
    verdict client attempt (.ok (head, body)) = .again (client.backoffSeconds attempt) := by
  have outside : ¬head.status < 300 := by omega
  have other : head.status ≠ 429 := by omega
  simp [verdict, ResponseHead.success, outside, other, failing.1, failing.2]

theorem verdict_refused (notLimited : ¬(head.status = 429 ∧ attempt < client.retries))
    (notFailing : ¬(500 ≤ head.status ∧ attempt < client.retries))
    (outside : head.status < 200 ∨ 300 ≤ head.status) :
    verdict client attempt (.ok (head, body)) = .stop (.http head.status) := by
  have unsuccessful : head.success = false := by
    simp only [ResponseHead.success, Bool.and_eq_false_iff, decide_eq_false_iff_not]
    omega
  rw [and_comm] at notLimited notFailing
  simp [verdict, unsuccessful, notLimited, notFailing]

theorem verdict_success (inside : ¬(head.status < 200 ∨ 300 ≤ head.status)) :
    verdict client attempt (.ok (head, body)) = .stop (.success body) := by
  have success : head.success = true := by
    simp only [ResponseHead.success, Bool.and_eq_true, decide_eq_true_eq]
    omega
  simp [verdict, success]

end Verdicts

section Rounds

variable {client : NativeClient} {attempts : Nat → Attempt} {attempt : Nat}
  (quiet : (attempts attempt).interrupted = false)

include quiet

theorem retryPolicy_stop {ending : Ending}
    (decided : verdict client attempt (attempts attempt).exchange.buffered = .stop ending)
    (connected : Bool) :
    retryPolicy client attempts attempt connected =
      ⟨getConnection connected ++ .send attempt ::
          dropConnection (losesConnection (attempts attempt).exchange.buffered) attempt,
        !losesConnection (attempts attempt).exchange.buffered, ending⟩ := by
  rw [retryPolicy]
  simp only [quiet, Bool.false_eq_true, if_false]
  split
  next same => rw [decided] at same; cases same; rfl
  next same => rw [decided] at same; cases same

theorem retryPolicy_interrupted {delay : Nat}
    (decided : verdict client attempt (attempts attempt).exchange.buffered = .again delay)
    (seen : (attempts attempt).interruptedInBackoff = true) (connected : Bool) :
    retryPolicy client attempts attempt connected =
      ⟨getConnection connected ++ .send attempt ::
          dropConnection (losesConnection (attempts attempt).exchange.buffered) attempt ++
          [.sleep attempt delay],
        !losesConnection (attempts attempt).exchange.buffered, .interrupted⟩ := by
  rw [retryPolicy]
  simp only [quiet, Bool.false_eq_true, if_false]
  split
  next same => rw [decided] at same; cases same
  next same => rw [decided] at same; cases same; rw [if_pos seen]

theorem retryPolicy_again {delay : Nat}
    (decided : verdict client attempt (attempts attempt).exchange.buffered = .again delay)
    (unseen : (attempts attempt).interruptedInBackoff = false) (connected : Bool) :
    retryPolicy client attempts attempt connected =
      (retryPolicy client attempts (attempt + 1)
        (!losesConnection (attempts attempt).exchange.buffered)).after
      (getConnection connected ++ .send attempt ::
          dropConnection (losesConnection (attempts attempt).exchange.buffered) attempt ++
          [.sleep attempt delay]) := by
  rw [retryPolicy]
  simp only [quiet, Bool.false_eq_true, if_false]
  split
  next same => rw [decided] at same; cases same
  next same => rw [decided] at same; cases same; simp only [unseen, Bool.false_eq_true, if_false]

end Rounds

/-- An outcome the policy gives up on: a redirect, a client error other than 429, or a
certificate that was refused. -/
def Exchange.Unrepeatable (exchange : Exchange) : Prop :=
  match exchange.buffered with
  | .error error => error ∈ certificateErrors
  | .ok (head, _) => (300 ≤ head.status ∧ head.status < 500) ∧ head.status ≠ 429

theorem verdict_stop_success {client : NativeClient} {attempt : Nat} {body : Bytes}
    {outcome : Except TransportError (ResponseHead × Bytes)}
    (stop : verdict client attempt outcome = .stop (.success body)) :
    ∃ head, outcome = .ok (head, body) ∧ head.success = true := by
  rcases outcome with error | ⟨head, received⟩
  · simp only [verdict] at stop
    split at stop <;> cases stop
  · simp only [verdict] at stop
    split at stop
    next success => cases stop; exact ⟨head, rfl, success⟩
    · split at stop
      · cases stop
      · split at stop <;> cases stop

theorem verdict_unrepeatable {client : NativeClient} {attempt delay : Nat} {exchange : Exchange}
    (again : verdict client attempt exchange.buffered = .again delay) :
    ¬exchange.Unrepeatable := by
  intro final
  unfold Exchange.Unrepeatable at final
  generalize exchange.buffered = outcome at again final
  rcases outcome with error | ⟨head, body⟩
  · dsimp only at final
    simp [verdict, final] at again
  · dsimp only at final
    have outside : head.success = false := by
      simp only [ResponseHead.success, Bool.and_eq_false_iff, decide_eq_false_iff_not]
      omega
    have notFailing : ¬500 ≤ head.status := by omega
    simp [verdict, outside, final.2, notFailing] at again

end SplunkLogs
