import SplunkLogs.Properties.Delivery
import SplunkLogs.Spec.RetryPolicy

/-!
# The two retry loops implement one policy

`ExportSearch`, with a consumer that takes everything, and `AuthenticatedRequest` each
follow the policy, and so each other.
-/
namespace SplunkLogs

variable {σ ε : Type}

/-- A log without the calls of the consumer. -/
def policyActions (log : List (Action ε)) : List (Action Empty) :=
  log.filterMap fun
    | .connect => some .connect
    | .send attempt => some (.send attempt)
    | .chunk _ _ _ => none
    | .reset attempt => some (.reset attempt)
    | .sleep attempt seconds => some (.sleep attempt seconds)

@[simp] theorem policyActions_nil : policyActions ([] : List (Action ε)) = [] := rfl

@[simp] theorem policyActions_append (a b : List (Action ε)) :
    policyActions (a ++ b) = policyActions a ++ policyActions b := by simp [policyActions]

@[simp] theorem policyActions_getConnection (connected : Bool) :
    policyActions (getConnection connected : List (Action ε)) = getConnection connected := by
  cases connected <;> rfl

@[simp] theorem policyActions_dropConnection (dropped : Bool) (attempt : Nat) :
    policyActions (dropConnection dropped attempt : List (Action ε)) =
      dropConnection dropped attempt := by
  cases dropped <;> rfl

@[simp] theorem policyActions_send (attempt : Nat) (log : List (Action ε)) :
    policyActions (.send attempt :: log) = .send attempt :: policyActions log := rfl

@[simp] theorem policyActions_sleep (attempt seconds : Nat) (log : List (Action ε)) :
    policyActions (.sleep attempt seconds :: log) =
      .sleep attempt seconds :: policyActions log := rfl

theorem Calls.policyActions_nil {attempt : Nat} {chunks : List Bytes} {log : List (Action ε)}
    {reply : Reply ε} (calls : Calls attempt chunks log reply) : policyActions log = [] := by
  apply List.filterMap_eq_nil_iff.mpr
  intro action member
  obtain ⟨data, answer, rfl⟩ := calls.only_chunks action member
  rfl

/-- How a run of `ExportSearch` ended, with the body its consumer was given. -/
def ExportRun.ending (run : ExportRun σ ε) : Ending :=
  match run.result with
  | .ok () => .success (delivered run.log)
  | .error error => error.ending

def RequestRun.ending (run : RequestRun) : Ending :=
  match run.result with
  | .ok body => .success body
  | .error error => error.ending

theorem ending_after {log : List (Action ε)} (nothing : delivered log = [])
    (run : ExportRun σ ε) : (run.after log).ending = run.ending := by
  simp [ExportRun.ending, ExportRun.after, nothing]

/-- The actions, the cached connection and the ending are those of the policy. -/
structure ExportRun.Follows (run : ExportRun σ ε) (policy : PolicyRun) : Prop where
  log : policyActions run.log = policy.log
  connected : run.connected = policy.connected
  ending : run.ending = policy.ending

structure RequestRun.Follows (run : RequestRun) (policy : PolicyRun) : Prop where
  log : run.log = policy.log
  connected : run.connected = policy.connected
  ending : run.ending = policy.ending

theorem ExportRun.Follows.after {run : ExportRun σ ε} {policy : PolicyRun}
    (follows : run.Follows policy) {log : List (Action ε)} (nothing : delivered log = []) :
    (run.after log).Follows (policy.after (policyActions log)) where
  log := by simp [ExportRun.after, PolicyRun.after, follows.log]
  connected := follows.connected
  ending := (ending_after nothing run).trans follows.ending

theorem RequestRun.Follows.after {run : RequestRun} {policy : PolicyRun}
    (follows : run.Follows policy) (log : List (Action Empty)) :
    (run.after log).Follows (policy.after log) where
  log := congrArg (log ++ ·) follows.log
  connected := follows.connected
  ending := follows.ending

/-- No byte of a successful body is followed by a transport error. -/
def NoneCutShort (attempts : Nat → Attempt) : Prop :=
  ∀ n head chunks error, (attempts n).exchange = .answered head chunks (some error) →
    head.success = true → chunks.flatten = []

/-- The verdict that the code after `send` amounts to. -/
def Next.verdict (body : Bytes) : Next ε → Verdict
  | .return => .stop (.success body)
  | .throw error => .stop error.ending
  | .retry delay => .again delay

theorem verdict_failed (client : NativeClient) (attempt : Nat) (r : Receiver σ)
    (error : TransportError) (running : r.stoppedByConsumer = false)
    (nothing : r.successBytes = 0) (body : Bytes) :
    (afterSend (ε := ε) client attempt r (.failed error)).verdict body =
      verdict client attempt (.error error) := by
  -- Within the budget the kind of the error decides.
  rcases Nat.lt_or_ge attempt client.retries with within | spent
  · have budget : ¬client.retries ≤ attempt := by omega
    have kind : error ∈ certificateErrors ↔ isRetryableTransportError error = false := by
      rw [← not_iff_not, Bool.not_eq_false, isRetryableTransportError_iff]
    cases retryable : isRetryableTransportError error <;>
      simp [afterSend, running, nothing, verdict, within, budget, kind, retryable, Next.verdict,
        ClientError.ending]
  · have budget : ¬attempt < client.retries := by omega
    simp [afterSend, running, nothing, verdict, budget, spent, Next.verdict, ClientError.ending]

theorem verdict_response (client : NativeClient) (attempt : Nat) (r : Receiver σ)
    (head : ResponseHead) (running : r.stoppedByConsumer = false) (body : Bytes) :
    (afterSend (ε := ε) client attempt r (.response head)).verdict body =
      verdict client attempt (.ok (head, body)) := by
  cases success : head.success with
  | true => rw [afterSend_success running success]; simp [verdict, success, Next.verdict]
  | false =>
    have outside : head.status < 200 ∨ 300 ≤ head.status := by
      simp only [ResponseHead.success, Bool.and_eq_false_iff, decide_eq_false_iff_not] at success
      omega
    simp only [afterSend, running, verdict, success, Bool.false_eq_true, if_false,
      and_comm (a := attempt < client.retries), if_pos outside]
    split
    · rfl
    · split <;> rfl

theorem receiveBody_accepts {c : Consumer σ ε}
    (accepts : ∀ s data, (c.onChunk s data).2 = .more) (attempt : Nat) (r : Receiver σ)
    (chunks : List Bytes) : (receiveBody c attempt r chunks).2.2 = .more := by
  induction chunks generalizing r with
  | nil => rfl
  | cons data rest ih =>
    have taken : (contentReceiver c r data).2 = .more := by
      have answer := accepts r.consumer data
      simp only [contentReceiver]
      split
      · split <;> simp_all
      · rfl
    rcases received : contentReceiver c r data with ⟨after, reply⟩
    rw [received] at taken
    subst taken
    simpa only [receiveBody, received] using ih after

/-- A request that got an answer, with a consumer that takes everything. -/
theorem send_answered {c : Consumer σ ε} (accepts : ∀ s data, (c.onChunk s data).2 = .more)
    (attempt : Nat) (s : σ) (head : ResponseHead) (chunks : List Bytes)
    (failure : Option TransportError) :
    ∃ r calls, send c attempt s (.answered head chunks failure) =
        (r, calls, .ok (transferEnd head failure)) ∧
      r.stoppedByConsumer = false ∧ policyActions calls = [] ∧
      (head.success = true → delivered calls = chunks.flatten ∧
        r.successBytes = chunks.flatten.length) ∧
      (head.success = false → r.successBytes = 0) := by
  cases success : head.success with
  | false =>
    have received := receiveBody_failure c attempt s false 0 [] chunks (Nat.zero_le _)
    refine ⟨{ consumer := s, errorBody := chunks.flatten.take 4096 }, [], ?_, rfl, rfl, by simp,
      by simp⟩
    simp only [send, success, received, List.nil_append]
  | true =>
    have body :=
      receiveBody_success c attempt { consumer := s, successStatus := true } chunks rfl rfl
    have answer := receiveBody_accepts accepts attempt
      { consumer := s, successStatus := true } chunks
    simp only [send, success]
    generalize receiveBody c attempt { consumer := s, successStatus := true } chunks = result
      at body answer ⊢
    obtain ⟨last, log, reply⟩ := result
    dsimp only at body answer
    subst answer
    obtain ⟨calls, stopped, counted⟩ := body
    refine ⟨last, log, rfl, by simpa using stopped, calls.policyActions_nil, fun _ => ⟨?_, ?_⟩,
      by simp⟩
    · rw [delivered, calls.pieces_complete rfl]
    · simpa using counted rfl

/-- One request as the policy sees it. -/
theorem send_verdict {c : Consumer σ ε} (accepts : ∀ s data, (c.onChunk s data).2 = .more)
    {attempts : Nat → Attempt} (whole : NoneCutShort attempts) (client : NativeClient)
    {attempt : Nat} {s : σ} {r : Receiver σ} {calls : List (Action ε)}
    {sent : Except ε SendResult}
    (sends : send c attempt s (attempts attempt).exchange = (r, calls, sent)) :
    policyActions calls = [] ∧ ∃ result, sent = .ok result ∧
      (afterSend (ε := ε) client attempt r result).verdict (delivered calls) =
        verdict client attempt (attempts attempt).exchange.buffered ∧
      dropsConnection r result = losesConnection (attempts attempt).exchange.buffered := by
  cases exchange : (attempts attempt).exchange with
  | failed error =>
    rw [exchange] at sends
    cases sends
    exact ⟨rfl, _, rfl, verdict_failed client attempt _ error rfl rfl _, rfl⟩
  | answered head chunks failure =>
    obtain ⟨r', calls', sent', running, silent, taken, refused⟩ :=
      send_answered accepts attempt s head chunks failure
    rw [exchange, sent'] at sends
    cases sends
    refine ⟨silent, _, rfl, ?_⟩
    cases failure with
    | some error =>
      -- The response was cut short before its first byte, or was no success.
      have nothing : r.successBytes = 0 := by
        cases success : head.success with
        | true => rw [(taken success).2, whole attempt head chunks error exchange success]; rfl
        | false => exact refused success
      exact ⟨verdict_failed client attempt r error running nothing _,
        by simp [transferEnd, dropsConnection, running, Exchange.buffered, losesConnection]⟩
    | none =>
      refine ⟨?_, rfl⟩
      rw [transferEnd, verdict_response client attempt r head running]
      cases success : head.success with
      | true => rw [(taken success).1]; rfl
      | false => simp [verdict, Exchange.buffered, success]

/-- With a consumer that takes everything, `ExportSearch` follows the policy. -/
theorem exportSearch_follows {c : Consumer σ ε}
    (accepts : ∀ s data, (c.onChunk s data).2 = .more) {attempts : Nat → Attempt}
    (whole : NoneCutShort attempts) (client : NativeClient) (attempt : Nat) (connected : Bool)
    (s : σ) :
    (exportSearch client c attempts attempt connected s).Follows
      (retryPolicy client attempts attempt connected) := by
  -- Round by round: the verdict of the policy is the decision after `send`.
  fun_induction exportSearch client c attempts attempt connected s with
  | case1 attempt connected s interrupted =>
    rw [retryPolicy, if_pos interrupted]
    exact ⟨rfl, rfl, rfl⟩
  | case2 attempt connected s running r calls log error sends =>
    obtain ⟨_, _, impossible, _⟩ := send_verdict accepts whole client sends
    cases impossible
  | case3 attempt connected s running r calls log result dropped decision sends =>
    obtain ⟨silent, _, same, decided, lost⟩ := send_verdict accepts whole client sends
    cases same
    rw [decision] at decided
    rw [retryPolicy_stop (by simpa using running) decided.symm]
    have body : delivered (round connected attempt calls (dropConnection dropped attempt)) =
        delivered calls := by rw [delivered, pieces_round (closing_drop _ _), delivered]
    exact ⟨by simp [log, dropped, silent, lost], by simp [dropped, lost],
      congrArg Ending.success body⟩
  | case4 attempt connected s running r calls log result dropped error decision sends =>
    obtain ⟨silent, _, same, decided, lost⟩ := send_verdict accepts whole client sends
    cases same
    rw [decision] at decided
    rw [retryPolicy_stop (by simpa using running) decided.symm]
    exact ⟨by simp [log, dropped, silent, lost], by simp [dropped, lost], rfl⟩
  | case5 attempt connected s running r calls log result dropped delay decision log' seen sends =>
    obtain ⟨silent, _, same, decided, lost⟩ := send_verdict accepts whole client sends
    cases same
    rw [decision] at decided
    rw [retryPolicy_interrupted (by simpa using running) decided.symm seen]
    exact ⟨by simp [log', log, dropped, silent, lost], by simp [dropped, lost], rfl⟩
  | case6 attempt connected s running r calls log result dropped delay decision log' unseen _
      sends ih =>
    obtain ⟨silent, _, same, decided, lost⟩ := send_verdict accepts whole client sends
    cases same
    have nothing := ((send_spec sends).retried decision).1
    rw [decision] at decided
    rw [retryPolicy_again (by simpa using running) decided.symm (by simpa using unseen)]
    -- The rounds given up have delivered nothing to the consumer.
    have before : delivered log' = [] := by
      rw [← nothing]
      exact congrArg List.flatten (pieces_round (closing_sleep _ _ _))
    simpa [log', log, dropped, silent, lost] using ih.after before

/-- `AuthenticatedRequest` follows the policy. -/
theorem authenticatedRequest_follows (client : NativeClient) (indexDiscovery : Bool)
    (attempts : Nat → Attempt) (attempt : Nat) (connected : Bool) :
    (authenticatedRequest client indexDiscovery attempts attempt connected).Follows
      (retryPolicy client attempts attempt connected) := by
  -- The branches of the loop body in turn: transport error, 429, 5xx, other errors, success.
  fun_induction authenticatedRequest client indexDiscovery attempts attempt connected with
  | case1 attempt connected interrupted =>
    rw [retryPolicy, if_pos interrupted]
    exact ⟨rfl, rfl, rfl⟩
  | case2 attempt connected running log error outcome log' fatal =>
    rw [retryPolicy_stop (by simpa using running) (by rw [outcome]; exact verdict_fatal fatal)]
    exact ⟨by simp [log', log, outcome, losesConnection, dropConnection],
      by simp [outcome, losesConnection], rfl⟩
  | case3 attempt connected running log error outcome log' transient log'' seen =>
    rw [retryPolicy_interrupted (by simpa using running)
      (by rw [outcome]; exact verdict_transient transient) seen]
    exact ⟨by simp [log'', log', log, outcome, losesConnection, dropConnection],
      by simp [outcome, losesConnection], rfl⟩
  | case4 attempt connected running log error outcome log' transient log'' unseen ih =>
    rw [retryPolicy_again (by simpa using running)
      (by rw [outcome]; exact verdict_transient transient) (by simpa using unseen)]
    simpa [log'', log', log, outcome, losesConnection, dropConnection] using ih.after _
  | case5 attempt connected running log head body outcome limited log' seen =>
    rw [retryPolicy_interrupted (by simpa using running)
      (by rw [outcome]; exact verdict_limited limited) seen]
    exact ⟨by simp [log', log, outcome, losesConnection, dropConnection],
      by simp [outcome, losesConnection], rfl⟩
  | case6 attempt connected running log head body outcome limited log' unseen ih =>
    rw [retryPolicy_again (by simpa using running)
      (by rw [outcome]; exact verdict_limited limited) (by simpa using unseen)]
    simpa [log', log, outcome, losesConnection, dropConnection] using ih.after _
  | case7 attempt connected running log head body outcome _ failing log' seen =>
    rw [retryPolicy_interrupted (by simpa using running)
      (by rw [outcome]; exact verdict_failing failing) seen]
    exact ⟨by simp [log', log, outcome, losesConnection, dropConnection],
      by simp [outcome, losesConnection], rfl⟩
  | case8 attempt connected running log head body outcome _ failing log' unseen ih =>
    rw [retryPolicy_again (by simpa using running)
      (by rw [outcome]; exact verdict_failing failing) (by simpa using unseen)]
    simpa [log', log, outcome, losesConnection, dropConnection] using ih.after _
  | case9 attempt connected running log head body outcome notLimited notFailing outside denied =>
    rw [retryPolicy_stop (by simpa using running)
      (by rw [outcome]; exact verdict_refused notLimited notFailing outside)]
    exact ⟨by simp [log, outcome, losesConnection, dropConnection],
      by simp [outcome, losesConnection], rfl⟩
  | case10 attempt connected running log head body outcome notLimited notFailing outside _ =>
    rw [retryPolicy_stop (by simpa using running)
      (by rw [outcome]; exact verdict_refused notLimited notFailing outside)]
    exact ⟨by simp [log, outcome, losesConnection, dropConnection],
      by simp [outcome, losesConnection], rfl⟩
  | case11 attempt connected running log head body outcome _ _ inside =>
    rw [retryPolicy_stop (by simpa using running) (by rw [outcome]; exact verdict_success inside)]
    exact ⟨by simp [log, outcome, losesConnection, dropConnection],
      by simp [outcome, losesConnection], rfl⟩

theorem requests_policyActions (log : List (Action ε)) :
    requests (policyActions log) = requests log := by
  simp only [requests, policyActions, List.filterMap_filterMap]
  apply List.filterMap_congr
  intro action _
  cases action <;> rfl

theorem mem_requests {log : List (Action ε)} {n : Nat} :
    n ∈ requests log ↔ .send n ∈ log := by
  simp only [requests, List.mem_filterMap]
  constructor
  · rintro ⟨action, member, same⟩
    cases action with
    | send m => cases same; exact member
    | _ => cases same
  · intro member
    exact ⟨_, member, rfl⟩

theorem requests_policyRound (connected lost : Bool) (attempt : Nat) :
    requests (getConnection connected ++ .send attempt :: dropConnection lost attempt :
      List (Action Empty)) = [attempt] := by
  have sent : requests (round connected attempt [] (dropConnection lost attempt) :
      List (Action Empty)) = [attempt] := requests_round (closing_drop lost attempt) (by simp)
  simpa [round] using sent

/-- The policy sends consecutive attempts within the budget, and none after an outcome it
gives up on. -/
theorem retryPolicy_requests (client : NativeClient) (attempts : Nat → Attempt)
    (attempt : Nat) (connected : Bool) :
    ∃ n, n ≤ client.retries - attempt + 1 ∧
      requests (retryPolicy client attempts attempt connected).log = List.range' attempt n ∧
      ∀ m, m + 1 < n → ¬(attempts (attempt + m)).exchange.Unrepeatable := by
  fun_induction retryPolicy client attempts attempt connected with
  | case1 => exact ⟨0, by omega, rfl, by omega⟩
  | case2 attempt connected _ outcome lost log ending decision =>
    exact ⟨1, by omega, requests_policyRound connected lost attempt, by omega⟩
  | case3 attempt connected _ outcome lost log delay decision log' seen =>
    refine ⟨1, by omega, ?_, by omega⟩
    rw [requests_append, requests_policyRound]
    rfl
  | case4 attempt connected _ outcome lost log delay decision log' unseen within ih =>
    obtain ⟨n, bound, consecutive, repeatable⟩ := ih
    refine ⟨n + 1, by omega, ?_, ?_⟩
    · rw [PolicyRun.after, requests_append, requests_append, requests_policyRound, consecutive,
        List.range'_succ]
      rfl
    · intro m before
      cases m with
      | zero => exact verdict_unrepeatable decision
      | succ m =>
        have later := repeatable m (by omega)
        rwa [Nat.add_right_comm, Nat.add_assoc] at later

/-- Success is the complete body of the last request. -/
theorem retryPolicy_success (client : NativeClient) (attempts : Nat → Attempt)
    (attempt : Nat) (connected : Bool) {body : Bytes}
    (ended : (retryPolicy client attempts attempt connected).ending = .success body) :
    ∃ last head, (requests (retryPolicy client attempts attempt connected).log).getLast? =
        some last ∧
      (attempts last).exchange.buffered = .ok (head, body) ∧ head.success = true := by
  fun_induction retryPolicy client attempts attempt connected with
  | case1 => cases ended
  | case2 attempt connected _ outcome lost log ending decision =>
    dsimp only at ended
    subst ended
    obtain ⟨head, received, success⟩ := verdict_stop_success decision
    exact ⟨attempt, head, by rw [requests_policyRound]; rfl, received, success⟩
  | case3 => cases ended
  | case4 attempt connected _ outcome lost log delay decision log' unseen within ih =>
    obtain ⟨last, head, final, received, success⟩ := ih ended
    refine ⟨last, head, ?_, received, success⟩
    rw [PolicyRun.after, requests_append, List.getLast?_append, final]
    rfl

/-- What requests that are those of the policy come to. -/
theorem policy_requests_bounded {client : NativeClient} {attempts : Nat → Attempt}
    {connected : Bool} {log : List (Action ε)}
    (same : requests log = requests (retryPolicy client attempts 0 connected).log) :
    (requests log).length ≤ client.retries + 1 ∧
    ∀ n m, (attempts n).exchange.Unrepeatable → n < m → .send m ∉ log := by
  obtain ⟨count, bound, consecutive, repeatable⟩ :=
    retryPolicy_requests client attempts 0 connected
  rw [← same] at consecutive
  constructor
  · simpa [consecutive] using bound
  · intro n m final later member
    rw [← mem_requests, consecutive, List.mem_range'_1] at member
    exact repeatable n (by omega) (by simpa using final)

/-- The two native loops send the same requests, sleep the same delays, drop the cached
connection after the same attempts and end in the same way; both stay within the budget
and give up on the same outcomes. -/
theorem retry_loops_agree (client : NativeClient) (indexDiscovery : Bool) (c : Consumer σ ε)
    (attempts : Nat → Attempt) (connected : Bool) (s : σ)
    (accepts : ∀ s data, (c.onChunk s data).2 = .more)
    (whole : ∀ n head chunks error, (attempts n).exchange = .answered head chunks (some error) →
      head.success = true → chunks.flatten = []) :
    policyActions (exportSearch client c attempts 0 connected s).log =
      (authenticatedRequest client indexDiscovery attempts 0 connected).log ∧
    (exportSearch client c attempts 0 connected s).connected =
      (authenticatedRequest client indexDiscovery attempts 0 connected).connected ∧
    (exportSearch client c attempts 0 connected s).ending =
      (authenticatedRequest client indexDiscovery attempts 0 connected).ending ∧
    (∀ body, (authenticatedRequest client indexDiscovery attempts 0 connected).ending =
        .success body →
      ∃ last head, (requests (authenticatedRequest client indexDiscovery attempts 0
          connected).log).getLast? = some last ∧
        (attempts last).exchange.buffered = .ok (head, body) ∧ head.success = true) ∧
    ((requests (exportSearch client c attempts 0 connected s).log).length ≤ client.retries + 1 ∧
      ∀ n m, (attempts n).exchange.Unrepeatable → n < m →
        .send m ∉ (exportSearch client c attempts 0 connected s).log) ∧
    ((requests (authenticatedRequest client indexDiscovery attempts 0 connected).log).length ≤
        client.retries + 1 ∧
      ∀ n m, (attempts n).exchange.Unrepeatable → n < m →
        .send m ∉ (authenticatedRequest client indexDiscovery attempts 0 connected).log) := by
  obtain ⟨exportLog, exportConnected, exportEnding⟩ :=
    exportSearch_follows accepts whole client 0 connected s
  obtain ⟨requestLog, requestConnected, requestEnding⟩ :=
    authenticatedRequest_follows client indexDiscovery attempts 0 connected
  have exportRequests := congrArg requests exportLog
  rw [requests_policyActions] at exportRequests
  refine ⟨exportLog.trans requestLog.symm, exportConnected.trans requestConnected.symm,
    exportEnding.trans requestEnding.symm, fun body success => ?_,
    policy_requests_bounded exportRequests, policy_requests_bounded (congrArg _ requestLog)⟩
  rw [requestLog]
  exact retryPolicy_success client attempts 0 connected (requestEnding.symm.trans success)

/-- A consumer that appends everything to its state. -/
def collector : Consumer Bytes Empty := ⟨fun response data => (response ++ data, .more)⟩

/-- An unavailable server that answers the second request. -/
def recovery : Nat → Attempt
  | 0 => ⟨false, .answered ⟨503, none⟩ [ascii "busy"] none, false⟩
  | _ => ⟨false, .answered ⟨200, none⟩ [ascii "a", [], ascii "b"] none, false⟩

theorem retry_loops_agree_recovery :
    (exportSearch ⟨[], 2, fun _ => 1⟩ collector recovery 0 false []).ending =
      .success (ascii "ab") := by
  have agree := retry_loops_agree ⟨[], 2, fun _ => 1⟩ false collector recovery false []
    (fun _ _ => rfl) (by rintro (_ | n) head chunks error answered <;> simp [recovery] at answered)
  rw [agree.2.2.1]
  simp [authenticatedRequest, recovery, Exchange.buffered, RequestRun.ending, RequestRun.after]
  decide

end SplunkLogs
