import SplunkLogs.Properties.Backoff

/-!
# The protocol of the retry loops

What both loops do, as a machine over their actions: a connection is made where none is cached,
a request is made on a connection, a transport error drops it, and a wait of at most a minute
comes between two requests. The machine bounds the requests and the time a whole loop waits.
-/
namespace SplunkLogs

/-- Where a loop stands, as far as its actions show it. -/
structure LoopState where
  connected : Bool
  /-- The number of the request that has been made, or of the next one. -/
  attempt : Nat
  requested : Bool := false
  waited : Nat := 0

namespace LoopState

variable {ε : Type}

/-- The actions allowed, with a budget of retries. -/
def next (retries : Nat) (state : LoopState) : Action ε → Option LoopState
  | .connect =>
    if state.connected = false ∧ state.requested = false then
      some { state with connected := true }
    else none
  | .send n =>
    if state.connected = true ∧ state.requested = false ∧ n = state.attempt then
      some { state with requested := true }
    else none
  | .chunk n _ _ =>
    if state.connected = true ∧ state.requested = true ∧ n = state.attempt then some state
    else none
  | .reset n =>
    if state.connected = true ∧ state.requested = true ∧ n = state.attempt then
      some { state with connected := false }
    else none
  | .sleep n seconds =>
    if state.requested = true ∧ n = state.attempt ∧ n < retries ∧ seconds ≤ 60 then
      some { state with
        attempt := state.attempt + 1, requested := false, waited := state.waited + seconds }
    else none

/-- The machine over a whole log. -/
def run (retries : Nat) (state : LoopState) (log : List (Action ε)) : Option LoopState :=
  log.foldlM (next retries) state

variable {retries : Nat} {state last : LoopState} {log more : List (Action ε)}

theorem run_append : run retries state (log ++ more) =
    (run retries state log).bind fun middle => run retries middle more :=
  List.foldlM_append

/-- How many requests have been made. -/
def made (state : LoopState) : Nat := if state.requested then state.attempt + 1 else state.attempt

theorem made_open (open_ : state.requested = false) : state.made = state.attempt :=
  if_neg (by simp [open_])

theorem made_requested (requested : state.requested = true) : state.made = state.attempt + 1 :=
  if_pos requested

/-- The seconds of all waits of a log. -/
def waits (log : List (Action ε)) : List Nat :=
  log.filterMap fun
    | .sleep _ seconds => some seconds
    | _ => none

/-- How often a log makes a connection. -/
def connects (log : List (Action ε)) : Nat :=
  log.countP fun
    | .connect => true
    | _ => false

/-- How often a log drops one. -/
def resets (log : List (Action ε)) : Nat :=
  log.countP fun
    | .reset _ => true
    | _ => false

/-- What an accepted log did between two states of the machine. -/
structure Did (retries : Nat) (state : LoopState) (log : List (Action ε)) (last : LoopState) :
    Prop where
  requests : requests log = (List.range last.made).drop state.made
  onwards : state.made ≤ last.made
  waited : last.waited = state.waited + (waits log).sum
  bounded : last.waited + 60 * state.attempt ≤ state.waited + 60 * last.attempt
  connections : connects log + state.connected.toNat = resets log + last.connected.toNat
  budget : state.attempt ≤ retries → last.attempt ≤ retries

theorem Did.nil : Did retries state ([] : List (Action ε)) state := by
  constructor <;> simp [SplunkLogs.requests, waits, connects, resets]

theorem Did.cons {action : Action ε} {middle : LoopState}
    (step : next retries state action = some middle) (rest : Did retries middle log last) :
    Did retries state (action :: log) last := by
  obtain ⟨requests, onwards, waited, bounded, connections, budget⟩ := rest
  cases action with
  | connect =>
    simp only [next] at step
    split at step
    next allowed =>
      cases step
      refine ⟨requests, onwards, waited, bounded, ?_, budget⟩
      simp_all [connects, resets]
    · cases step
  | send n =>
    simp only [next] at step
    split at step
    next allowed =>
      obtain ⟨_, open_, rfl⟩ := allowed
      cases step
      rw [made_requested rfl] at requests onwards
      refine ⟨?_, ?_, waited, bounded, connections, budget⟩
      · -- The request made is the first of those that are counted.
        have here : state.attempt < (List.range last.made).length := by
          simpa using Nat.lt_of_succ_le onwards
        rw [made_open open_, List.drop_eq_getElem_cons here, List.getElem_range, ← requests]
        rfl
      · rw [made_open open_]
        exact Nat.le_of_succ_le onwards
    · cases step
  | chunk n data reply =>
    simp only [next] at step
    split at step
    · cases step
      exact ⟨requests, onwards, waited, bounded, connections, budget⟩
    · cases step
  | reset n =>
    simp only [next] at step
    split at step
    next allowed =>
      cases step
      refine ⟨requests, onwards, waited, bounded, ?_, budget⟩
      simp_all [connects, resets]
      omega
    · cases step
  | sleep n seconds =>
    simp only [next] at step
    split at step
    next allowed =>
      obtain ⟨made_, rfl, within, short⟩ := allowed
      cases step
      rw [made_open rfl] at requests onwards
      rw [← made_requested made_] at requests onwards
      refine ⟨requests, onwards, ?_, ?_, connections, fun _ => budget within⟩
      · have sum : (waits (.sleep state.attempt seconds :: log)).sum =
          seconds + (waits log).sum := rfl
        dsimp only at waited
        omega
      · dsimp only at bounded
        omega
    · cases step

theorem run_did (accepted : run retries state log = some last) : Did retries state log last := by
  induction log generalizing state with
  | nil =>
    cases accepted
    exact .nil
  | cons action rest ih =>
    obtain ⟨middle, step, later⟩ := Option.bind_eq_some_iff.mp accepted
    exact .cons step (ih later)

section Rounds

variable {connected dropped : Bool} {attempt delay waited : Nat} {calls : List (Action ε)}
  (chunks : ∀ action ∈ calls, ∃ data reply, action = .chunk attempt data reply)

include chunks

theorem run_chunks (waited : Nat) :
    run retries ⟨true, attempt, true, waited⟩ calls = some ⟨true, attempt, true, waited⟩ := by
  induction calls with
  | nil => rfl
  | cons action rest ih =>
    obtain ⟨⟨data, reply, rfl⟩, later⟩ := List.forall_mem_cons.mp chunks
    have allowed : next retries ⟨true, attempt, true, waited⟩ (.chunk attempt data reply) =
        some ⟨true, attempt, true, waited⟩ := by simp [next]
    rw [run, List.foldlM_cons, allowed]
    exact ih later

/-- A round up to the decision. -/
theorem run_round (connected dropped : Bool) (waited : Nat) :
    run retries ⟨connected, attempt, false, waited⟩
        (round connected attempt calls (dropConnection dropped attempt)) =
      some ⟨!dropped, attempt, true, waited⟩ := by
  have opened : run retries ⟨connected, attempt, false, waited⟩
      (getConnection connected : List (Action ε)) = some ⟨true, attempt, false, waited⟩ := by
    cases connected <;> simp [getConnection, run, next]
  have sent : next retries ⟨true, attempt, false, waited⟩ (.send attempt : Action ε) =
      some ⟨true, attempt, true, waited⟩ := by simp [next]
  have closed : run retries ⟨true, attempt, true, waited⟩
      (dropConnection dropped attempt : List (Action ε)) =
        some ⟨!dropped, attempt, true, waited⟩ := by
    cases dropped <;> simp [dropConnection, run, next]
  rw [round, run_append, run_append, opened, Option.bind_some, run, List.foldlM_cons, sent]
  exact Option.bind_eq_some_iff.mpr ⟨_, run_chunks chunks waited, closed⟩

/-- A round followed by its wait. -/
theorem run_waiting (connected dropped : Bool) (waited : Nat) (within : attempt < retries)
    (short : delay ≤ 60) :
    run retries ⟨connected, attempt, false, waited⟩
        (round connected attempt calls
          (dropConnection dropped attempt ++ [.sleep attempt delay])) =
      some ⟨!dropped, attempt + 1, false, waited + delay⟩ := by
  have slept : run retries ⟨!dropped, attempt, true, waited⟩ [(.sleep attempt delay : Action ε)] =
      some ⟨!dropped, attempt + 1, false, waited + delay⟩ := by
    simp [run, next, within, short]
  have split : round connected attempt calls
      (dropConnection dropped attempt ++ [.sleep attempt delay]) =
        round connected attempt calls (dropConnection dropped attempt) ++
          [.sleep attempt delay] := by simp [round]
  rw [split, run_append, run_round chunks, Option.bind_some, slept]

end Rounds

end LoopState

/-- A log that keeps to the protocol and leaves the connection as it is said to. -/
def KeepsProtocol {ε : Type} (retries attempt : Nat) (connected : Bool) (log : List (Action ε))
    (after : Bool) : Prop :=
  ∀ waited, ∃ last, LoopState.run retries ⟨connected, attempt, false, waited⟩ log = some last ∧
    last.connected = after

section Loops

variable {σ ε : Type} {client : NativeClient} {attempts : Nat → Attempt}

theorem rateLimitRetryDelaySeconds_le (retryAfter : Option Bytes) (attempt : Nat) :
    client.rateLimitRetryDelaySeconds retryAfter attempt ≤ 60 := by
  unfold NativeClient.rateLimitRetryDelaySeconds
  split
  · dsimp only
    split <;> omega
  · exact Nat.min_le_right _ _

theorem afterSend_delay_le {attempt delay : Nat} {r : Receiver σ} {result : SendResult}
    (retried : afterSend (ε := ε) client attempt r result = .retry delay) : delay ≤ 60 := by
  cases Decided.of_afterSend retried with
  | failedAgain => exact Nat.min_le_right _ _
  | limited => exact rateLimitRetryDelaySeconds_le _ _
  | unavailable => exact Nat.min_le_right _ _

theorem verdict_delay_le {attempt delay : Nat}
    {outcome : Except TransportError (ResponseHead × Bytes)}
    (again : verdict client attempt outcome = .again delay) : delay ≤ 60 := by
  rcases outcome with error | ⟨head, body⟩
  · simp only [verdict] at again
    split at again
    · cases again
      exact Nat.min_le_right _ _
    · cases again
  · simp only [verdict] at again
    split at again
    · cases again
    · split at again
      · cases again
        exact rateLimitRetryDelaySeconds_le _ _
      · split at again
        · cases again
          exact Nat.min_le_right _ _
        · cases again

theorem KeepsProtocol.idle {retries attempt : Nat} {connected : Bool} :
    KeepsProtocol retries attempt connected ([] : List (Action ε)) connected :=
  fun _ => ⟨_, rfl, rfl⟩

/-- One more round in front. -/
theorem KeepsProtocol.after_round (connected dropped : Bool) {after : Bool}
    {retries attempt delay : Nat} {calls log : List (Action ε)}
    (chunks : ∀ action ∈ calls, ∃ data reply, action = .chunk attempt data reply)
    (within : attempt < retries) (short : delay ≤ 60)
    (rest : KeepsProtocol retries (attempt + 1) (!dropped) log after) :
    KeepsProtocol retries attempt connected
      (round connected attempt calls (dropConnection dropped attempt ++ [.sleep attempt delay]) ++
        log) after := by
  intro waited
  obtain ⟨last, accepted, same⟩ := rest (waited + delay)
  refine ⟨last, ?_, same⟩
  rw [LoopState.run_append, LoopState.run_waiting chunks connected dropped waited within short]
  exact accepted

theorem exportSearch_keepsProtocol (c : Consumer σ ε) (attempt : Nat) (connected : Bool) (s : σ) :
    KeepsProtocol client.retries attempt connected
      (exportSearch client c attempts attempt connected s).log
      (exportSearch client c attempts attempt connected s).connected := by
  fun_induction exportSearch client c attempts attempt connected s with
  | case1 => exact .idle
  | case2 attempt connected s running r calls log error sends =>
    intro waited
    refine ⟨⟨true, attempt, true, waited⟩, ?_, rfl⟩
    have quiet : round connected attempt calls (dropConnection false attempt) = log := by
      simp [round, dropConnection, log]
    rw [← quiet]
    exact LoopState.run_round (send_spec sends).only_chunks connected false waited
  | case3 attempt connected s running r calls log result dropped decision sends =>
    exact fun waited =>
      ⟨_, LoopState.run_round (send_spec sends).only_chunks connected dropped waited, rfl⟩
  | case4 attempt connected s running r calls log result dropped error decision sends =>
    exact fun waited =>
      ⟨_, LoopState.run_round (send_spec sends).only_chunks connected dropped waited, rfl⟩
  | case5 attempt connected s running r calls log result dropped delay decision log' seen sends =>
    have here := KeepsProtocol.after_round connected dropped (send_spec sends).only_chunks
      (afterSend_retry_lt decision) (afterSend_delay_le decision) .idle
    rwa [List.append_nil] at here
  | case6 attempt connected s running r calls log result dropped delay decision log' unseen _
      sends ih =>
    exact .after_round connected dropped (send_spec sends).only_chunks
      (afterSend_retry_lt decision) (afterSend_delay_le decision) ih

theorem retryPolicy_keepsProtocol (attempt : Nat) (connected : Bool) :
    KeepsProtocol client.retries attempt connected
      (retryPolicy client attempts attempt connected).log
      (retryPolicy client attempts attempt connected).connected := by
  have silent : ∀ attempt, ∀ action ∈ ([] : List (Action Empty)),
      ∃ data reply, action = .chunk attempt data reply := by simp
  -- A round of the policy is one whose request has no consumer.
  have plain : ∀ connected lost attempt,
      (round connected attempt [] (dropConnection lost attempt) : List (Action Empty)) =
        getConnection connected ++ .send attempt :: dropConnection lost attempt := by simp [round]
  have waiting : ∀ connected lost attempt delay,
      (round connected attempt [] (dropConnection lost attempt ++ [.sleep attempt delay]) :
        List (Action Empty)) =
        getConnection connected ++ .send attempt :: dropConnection lost attempt ++
          [.sleep attempt delay] := by simp [round]
  fun_induction retryPolicy client attempts attempt connected with
  | case1 => exact .idle
  | case2 attempt connected running outcome lost log ending decided =>
    intro waited
    refine ⟨⟨!lost, attempt, true, waited⟩, ?_, rfl⟩
    rw [← LoopState.run_round (silent attempt) connected lost waited, plain]
  | case3 attempt connected running outcome lost log delay decided log' seen =>
    have here := KeepsProtocol.after_round connected lost (silent attempt)
      (verdict_again_lt decided) (verdict_delay_le decided) .idle
    rwa [List.append_nil, waiting] at here
  | case4 attempt connected running outcome lost log delay decided log' unseen _ ih =>
    have here := KeepsProtocol.after_round connected lost (silent attempt)
      (verdict_again_lt decided) (verdict_delay_le decided) ih
    rwa [waiting] at here

end Loops

/-- What a run of a loop with this budget comes to, seen from outside. -/
structure WithinBudget {ε : Type} (retries : Nat) (connected : Bool) (log : List (Action ε))
    (after : Bool) : Prop where
  protocol : KeepsProtocol retries 0 connected log after
  requests : ∃ made ≤ retries + 1, requests log = List.range made
  waits : (LoopState.waits log).sum ≤ 60 * retries
  connections : LoopState.connects log + connected.toNat = LoopState.resets log + after.toNat

theorem KeepsProtocol.withinBudget {ε : Type} {retries : Nat} {connected after : Bool}
    {log : List (Action ε)} (keeps : KeepsProtocol retries 0 connected log after) :
    WithinBudget retries connected log after := by
  obtain ⟨last, accepted, rfl⟩ := keeps 0
  obtain ⟨requests, _, waited, bounded, connections, budget⟩ := LoopState.run_did accepted
  have within := budget (Nat.zero_le retries)
  refine ⟨keeps, ⟨last.made, ?_, requests⟩, ?_, connections⟩
  · unfold LoopState.made
    split <;> omega
  · dsimp only at waited bounded
    omega

section Budgets

variable {σ ε : Type} (client : NativeClient) (c : Consumer σ ε) (attempts : Nat → Attempt)
  (indexDiscovery connected : Bool) (s : σ)

theorem exportSearch_withinBudget :
    WithinBudget client.retries connected
      (exportSearch client c attempts 0 connected s).log
      (exportSearch client c attempts 0 connected s).connected :=
  (exportSearch_keepsProtocol c 0 connected s).withinBudget

theorem authenticatedRequest_withinBudget :
    WithinBudget client.retries connected
      (authenticatedRequest client indexDiscovery attempts 0 connected).log
      (authenticatedRequest client indexDiscovery attempts 0 connected).connected := by
  have follows := authenticatedRequest_follows client indexDiscovery attempts 0 connected
  rw [follows.log, follows.connected]
  exact (retryPolicy_keepsProtocol 0 connected).withinBudget

end Budgets

/-- Both loops keep to the protocol, whatever the network does, whenever the query is
interrupted and whatever the consumer answers. So a loop makes the requests 0, 1, 2 and so on, at
most one more than the budget; the connections it makes are those it has dropped and the one that
is cached behind it, less the one cached before; and it waits a minute for each retry at most. -/
theorem retry_loops_keep_protocol {σ ε : Type} (client : NativeClient) (c : Consumer σ ε)
    (attempts : Nat → Attempt) (indexDiscovery connected : Bool) (s : σ) :
    WithinBudget client.retries connected
      (exportSearch client c attempts 0 connected s).log
      (exportSearch client c attempts 0 connected s).connected ∧
    WithinBudget client.retries connected
      (authenticatedRequest client indexDiscovery attempts 0 connected).log
      (authenticatedRequest client indexDiscovery attempts 0 connected).connected :=
  ⟨exportSearch_withinBudget client c attempts connected s,
    authenticatedRequest_withinBudget client attempts indexDiscovery connected⟩

end SplunkLogs
