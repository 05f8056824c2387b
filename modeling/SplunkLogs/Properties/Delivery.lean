import SplunkLogs.Model.Client

/-!
# Retries never replay delivered bytes

What `ExportSearch` does is read off its log of actions. One attempt is described by
`send_spec`; the retry loop follows by induction on its rounds.
-/
namespace SplunkLogs

variable {σ ε : Type}

/-- The attempts sent, in order. -/
def requests (log : List (Action ε)) : List Nat :=
  log.filterMap fun
    | .send attempt => some attempt
    | _ => none

/-- The pieces of content handed to `on_chunk`, in order. -/
def pieces (log : List (Action ε)) : List Bytes :=
  log.filterMap fun
    | .chunk _ data _ => some data
    | _ => none

/-- The bytes handed to `on_chunk` over a whole run. -/
def delivered (log : List (Action ε)) : Bytes := (pieces log).flatten

@[simp] theorem requests_append (a b : List (Action ε)) :
    requests (a ++ b) = requests a ++ requests b := by simp [requests]

@[simp] theorem pieces_append (a b : List (Action ε)) :
    pieces (a ++ b) = pieces a ++ pieces b := by simp [pieces]

@[simp] theorem delivered_append (a b : List (Action ε)) :
    delivered (a ++ b) = delivered a ++ delivered b := by simp [delivered]

@[simp] theorem requests_getConnection (connected : Bool) :
    requests (getConnection connected : List (Action ε)) = [] := by
  cases connected <;> rfl

@[simp] theorem pieces_getConnection (connected : Bool) :
    pieces (getConnection connected : List (Action ε)) = [] := by
  cases connected <;> rfl

/-- The calls of `on_chunk` for the pieces of one body: all but the last are accepted. -/
inductive Calls (attempt : Nat) : List Bytes → List (Action ε) → Reply ε → Prop
  | finished : Calls attempt [] [] .more
  | accepted {data rest log reply} : Calls attempt rest log reply →
      Calls attempt (data :: rest) (.chunk attempt data .more :: log) reply
  | stopped (data rest) : Calls attempt (data :: rest) [.chunk attempt data .stop] .stop
  | thrown (data rest error) :
      Calls attempt (data :: rest) [.chunk attempt data (.throw error)] (.throw error)

theorem Calls.pieces_prefix {attempt : Nat} {chunks : List Bytes} {log : List (Action ε)}
    {reply : Reply ε} (calls : Calls attempt chunks log reply) : pieces log <+: chunks := by
  induction calls with
  | finished => exact List.nil_prefix
  | accepted _ ih => exact List.cons_prefix_cons.mpr ⟨rfl, ih⟩
  | stopped data rest => exact List.cons_prefix_cons.mpr ⟨rfl, List.nil_prefix⟩
  | thrown data rest error => exact List.cons_prefix_cons.mpr ⟨rfl, List.nil_prefix⟩

theorem Calls.pieces_complete {attempt : Nat} {chunks : List Bytes} {log : List (Action ε)}
    {reply : Reply ε} (calls : Calls attempt chunks log reply) (more : reply = .more) :
    pieces log = chunks := by
  induction calls with
  | finished => rfl
  | accepted _ ih => exact congrArg _ (ih more)
  | stopped => cases more
  | thrown => cases more

theorem Calls.stop_logged {attempt : Nat} {chunks : List Bytes} {log : List (Action ε)}
    {reply : Reply ε} (calls : Calls attempt chunks log reply) (stop : reply = .stop) :
    ∃ data, .chunk attempt data .stop ∈ log := by
  induction calls with
  | finished => cases stop
  | accepted _ ih =>
    obtain ⟨data, member⟩ := ih stop
    exact ⟨data, List.mem_cons_of_mem _ member⟩
  | stopped data rest => exact ⟨data, List.mem_singleton_self _⟩
  | thrown => cases stop

theorem Calls.only_chunks {attempt : Nat} {chunks : List Bytes} {log : List (Action ε)}
    {reply : Reply ε} (calls : Calls attempt chunks log reply) :
    ∀ action ∈ log, ∃ data answer, action = .chunk attempt data answer := by
  induction calls with
  | finished => simp
  | accepted _ ih =>
    intro action member
    rcases List.mem_cons.mp member with rfl | member
    · exact ⟨_, _, rfl⟩
    · exact ih action member
  | stopped data rest => simp
  | thrown data rest error => simp

/-- A successful body is offered piece by piece, and accepted bytes are counted. -/
theorem receiveBody_success (c : Consumer σ ε) (attempt : Nat) (r : Receiver σ)
    (chunks : List Bytes) (success : r.successStatus = true)
    (running : r.stoppedByConsumer = false) :
    Calls attempt chunks (receiveBody c attempt r chunks).2.1 (receiveBody c attempt r chunks).2.2 ∧
    ((receiveBody c attempt r chunks).1.stoppedByConsumer = true ↔
      (receiveBody c attempt r chunks).2.2 = .stop) ∧
    ((receiveBody c attempt r chunks).2.2 = .more →
      (receiveBody c attempt r chunks).1.successBytes =
        r.successBytes + chunks.flatten.length) := by
  induction chunks generalizing r with
  | nil => simpa [receiveBody, running] using Calls.finished
  | cons data rest ih =>
    rcases called : c.onChunk r.consumer data with ⟨s, _ | _ | error⟩
    · obtain ⟨calls, stopped, counted⟩ := ih
        { r with consumer := s, successBytes := r.successBytes + data.length } success running
      simp only [receiveBody, contentReceiver, success, if_true, called, chunkActions,
        List.singleton_append]
      refine ⟨.accepted (by simpa only [success] using calls),
        by simpa only [success] using stopped, fun more => ?_⟩
      have total := counted (by simpa only [success] using more)
      simp only [success] at total
      rw [total, List.flatten_cons, List.length_append]
      omega
    · simpa [receiveBody, contentReceiver, success, called, chunkActions] using
        Calls.stopped data rest
    · simpa [receiveBody, contentReceiver, success, called, chunkActions, running] using
        Calls.thrown data rest error

/-- No content of any other status reaches the consumer: its first bytes are kept. -/
theorem receiveBody_failure (c : Consumer σ ε) (attempt : Nat) (s : σ) (stopped : Bool)
    (bytes : Nat) (errorBody : Bytes) (chunks : List Bytes) (bounded : errorBody.length ≤ 4096) :
    receiveBody c attempt ⟨s, false, stopped, bytes, errorBody⟩ chunks =
      (⟨s, false, stopped, bytes, (errorBody ++ chunks.flatten).take 4096⟩, [], .more) := by
  induction chunks generalizing errorBody with
  | nil => simp [receiveBody, List.take_of_length_le bounded]
  | cons data rest ih =>
    by_cases room : errorBody.length < 4096
    · have kept : (errorBody ++ data.take (4096 - errorBody.length)).length ≤ 4096 := by
        rw [List.length_append, List.length_take]
        omega
      -- What was left out of this piece leaves no room for the next ones.
      have same : (errorBody ++ data.take (4096 - errorBody.length) ++ rest.flatten).take 4096 =
          (errorBody ++ (data :: rest).flatten).take 4096 := by
        simp only [List.flatten_cons, List.take_append, List.length_take,
          List.take_take, List.append_assoc]
        congr 2
        · congr 1; omega
        · congr 1; omega
      simp only [receiveBody, contentReceiver, Receiver.keepError, room, chunkActions, ih _ kept,
        same, Bool.false_eq_true, if_false, if_true, List.append_nil]
    · have full : errorBody.length = 4096 := by omega
      simp only [receiveBody, contentReceiver, Receiver.keepError, room, chunkActions, ih _ bounded,
        Bool.false_eq_true, if_false, List.append_nil]
      rw [List.take_append_of_le_length (by omega), List.take_append_of_le_length (by omega)]

/-- The ways one request can end, with what the consumer has been given. -/
inductive Sending (attempt : Nat) (exchange : Exchange) :
    Receiver σ → List (Action ε) → Except ε SendResult → Prop
  | noHead {r error} : exchange = .failed error → r.stoppedByConsumer = false →
      r.successBytes = 0 → Sending attempt exchange r [] (.ok (.failed error))
  | rejected {r head chunks failure} : exchange = .answered head chunks failure →
      head.success = false → r.stoppedByConsumer = false → r.successBytes = 0 →
      Sending attempt exchange r [] (.ok (transferEnd head failure))
  | taken {r head chunks failure log} : exchange = .answered head chunks failure →
      head.success = true → r.stoppedByConsumer = false →
      r.successBytes = chunks.flatten.length → Calls attempt chunks log .more →
      Sending attempt exchange r log (.ok (transferEnd head failure))
  | stopped {r head chunks failure log} : exchange = .answered head chunks failure →
      head.success = true → r.stoppedByConsumer = true → Calls attempt chunks log .stop →
      Sending attempt exchange r log (.ok (.failed .canceled))
  | thrown {r head chunks failure log error} : exchange = .answered head chunks failure →
      head.success = true → Calls attempt chunks log (.throw error) →
      Sending attempt exchange r log (.error error)

theorem send_spec {c : Consumer σ ε} {attempt : Nat} {s : σ} {exchange : Exchange}
    {r : Receiver σ} {calls : List (Action ε)} {result : Except ε SendResult}
    (sent : send c attempt s exchange = (r, calls, result)) :
    Sending attempt exchange r calls result := by
  -- The equation is dropped, so that `send` can be evaluated in all three places.
  suffices spec : Sending attempt exchange (send c attempt s exchange).1
      (send c attempt s exchange).2.1 (send c attempt s exchange).2.2 by rwa [sent] at spec
  clear sent
  cases exchange with
  | failed error => exact .noHead rfl rfl rfl
  | answered head chunks failure =>
    cases success : head.success with
    | false =>
      have received := receiveBody_failure c attempt s false 0 [] chunks (Nat.zero_le _)
      simp only [send, success, received]
      exact .rejected rfl success rfl rfl
    | true =>
      -- The reply to the last chunk offered decides how the request ends.
      have body :=
        receiveBody_success c attempt { consumer := s, successStatus := true } chunks rfl rfl
      simp only [send, success]
      generalize receiveBody c attempt { consumer := s, successStatus := true } chunks = result
        at body ⊢
      obtain ⟨last, log, _ | _ | error⟩ := result
      · obtain ⟨calls, stopped, counted⟩ := body
        exact .taken rfl success (by simpa using stopped) (by simpa using counted rfl) calls
      · exact .stopped rfl success (body.2.1.mpr rfl) body.1
      · exact .thrown rfl success body.1

/-- The attempt's end lets the loop try again, if the budget does. -/
def Exchange.Retryable : Exchange → Prop
  | .failed error => isRetryableTransportError error = true
  | .answered _ _ (some error) => isRetryableTransportError error = true
  | .answered head _ none => head.status = 429 ∨ 500 ≤ head.status

theorem afterSend_failed_retry {client : NativeClient} {attempt delay : Nat} {r : Receiver σ}
    {error : TransportError}
    (retried : afterSend (ε := ε) client attempt r (.failed error) = .retry delay) :
    r.successBytes = 0 ∧ isRetryableTransportError error = true := by
  cases Decided.of_afterSend retried with
  | failedAgain _ _ nothing _ retryable => exact ⟨nothing, retryable⟩

theorem afterSend_response_retry {client : NativeClient} {attempt delay : Nat}
    {r : Receiver σ} {head : ResponseHead}
    (retried : afterSend (ε := ε) client attempt r (.response head) = .retry delay) :
    head.status = 429 ∨ 500 ≤ head.status := by
  cases Decided.of_afterSend retried with
  | limited _ _ status => exact Or.inl status
  | unavailable _ _ status => exact Or.inr status

theorem afterSend_failed_return {client : NativeClient} {attempt : Nat} {r : Receiver σ}
    {error : TransportError} (running : r.stoppedByConsumer = false) :
    afterSend (ε := ε) client attempt r (.failed error) ≠ .return := by
  intro returned
  cases Decided.of_afterSend returned with
  | stopped _ stopped => simp [running] at stopped

theorem afterSend_response_return {client : NativeClient} {attempt : Nat} {r : Receiver σ}
    {head : ResponseHead} (running : r.stoppedByConsumer = false)
    (returned : afterSend (ε := ε) client attempt r (.response head) = .return) :
    head.success = true := by
  cases Decided.of_afterSend returned with
  | stopped _ stopped => simp [running] at stopped
  | complete _ _ success => exact success

/-- A request followed by another one has delivered nothing. -/
theorem Sending.retried {attempt delay : Nat} {exchange : Exchange} {r : Receiver σ}
    {log : List (Action ε)} {result : SendResult} {client : NativeClient}
    (sending : Sending attempt exchange r log (.ok result))
    (retried : afterSend (ε := ε) client attempt r result = .retry delay) :
    delivered log = [] ∧ exchange.Retryable := by
  cases sending with
  | noHead failed _ _ =>
    subst failed
    exact ⟨rfl, (afterSend_failed_retry retried).2⟩
  | @rejected head chunks failure answered _ _ _ =>
    subst answered
    cases failure with
    | none => exact ⟨rfl, afterSend_response_retry retried⟩
    | some error => exact ⟨rfl, (afterSend_failed_retry retried).2⟩
  | @taken head chunks failure _ answered success running counted calls =>
    subst answered
    cases failure with
    | none =>
      -- A complete successful response is never tried again.
      have status := afterSend_response_retry retried
      simp only [ResponseHead.success, Bool.and_eq_true, decide_eq_true_eq] at success
      omega
    | some error =>
      -- The count of accepted bytes is zero, and all pieces were accepted.
      obtain ⟨nothing, retryable⟩ := afterSend_failed_retry retried
      rw [counted] at nothing
      rw [delivered, calls.pieces_complete rfl]
      exact ⟨List.eq_nil_of_length_eq_zero nothing, retryable⟩
  | stopped _ _ stopped _ =>
    rw [afterSend, if_pos stopped] at retried
    cases retried

/-- A normal return means a stop of the consumer or a complete successful body. -/
theorem Sending.returned {attempt : Nat} {exchange : Exchange} {r : Receiver σ}
    {log : List (Action ε)} {result : SendResult} {client : NativeClient}
    (sending : Sending attempt exchange r log (.ok result))
    (returned : afterSend (ε := ε) client attempt r result = .return) :
    (∃ data, .chunk attempt data .stop ∈ log) ∨
    ∃ head chunks, exchange = .answered head chunks none ∧ head.success = true ∧
      pieces log = chunks := by
  cases sending with
  | noHead _ running _ => exact absurd returned (afterSend_failed_return running)
  | @rejected head chunks failure _ rejected running _ =>
    cases failure with
    | none =>
      have success := afterSend_response_return running returned
      rw [rejected] at success
      cases success
    | some error => exact absurd returned (afterSend_failed_return running)
  | @taken head chunks failure _ answered success running _ calls =>
    cases failure with
    | none => exact Or.inr ⟨head, chunks, answered, success, calls.pieces_complete rfl⟩
    | some error => exact absurd returned (afterSend_failed_return running)
  | stopped _ _ _ calls => exact Or.inl (calls.stop_logged rfl)

/-- Whatever was handed to the consumer came from a successful response to this request. -/
theorem Sending.from_success {attempt : Nat} {exchange : Exchange} {r : Receiver σ}
    {log : List (Action ε)} {sent : Except ε SendResult}
    (sending : Sending attempt exchange r log sent) :
    log = [] ∨ ∃ head chunks failure, exchange = .answered head chunks failure ∧
      head.success = true ∧ pieces log <+: chunks ∧
      ∀ action ∈ log, ∃ data reply, action = .chunk attempt data reply := by
  cases sending with
  | noHead => exact Or.inl rfl
  | rejected => exact Or.inl rfl
  | taken answered success _ _ calls =>
    exact Or.inr ⟨_, _, _, answered, success, calls.pieces_prefix, calls.only_chunks⟩
  | stopped answered success _ calls =>
    exact Or.inr ⟨_, _, _, answered, success, calls.pieces_prefix, calls.only_chunks⟩
  | thrown answered success calls =>
    exact Or.inr ⟨_, _, _, answered, success, calls.pieces_prefix, calls.only_chunks⟩

theorem Sending.only_chunks {attempt : Nat} {exchange : Exchange} {r : Receiver σ}
    {log : List (Action ε)} {sent : Except ε SendResult}
    (sending : Sending attempt exchange r log sent) :
    ∀ action ∈ log, ∃ data reply, action = .chunk attempt data reply := by
  rcases sending.from_success with rfl | ⟨_, _, _, _, _, _, only⟩
  · simp
  · exact only

/-- The actions of one round: the connection, the request, the calls of the consumer, and
what follows the request. -/
def round (connected : Bool) (attempt : Nat) (calls closing : List (Action ε)) :
    List (Action ε) :=
  getConnection connected ++ .send attempt :: calls ++ closing

/-- Drops of the connection and sleeps. -/
def Closing (closing : List (Action ε)) : Prop :=
  ∀ action ∈ closing, (∃ n, action = .reset n) ∨ ∃ n seconds, action = .sleep n seconds

theorem not_mem_getConnection {connected : Bool} {action : Action ε}
    (other : action ≠ .connect) : action ∉ (getConnection connected : List (Action ε)) := by
  cases connected <;> simp [getConnection, other]

theorem mem_round_chunk {connected : Bool} {attempt n : Nat} {calls closing : List (Action ε)}
    {data : Bytes} {reply : Reply ε} (closed : Closing closing) :
    .chunk n data reply ∈ round connected attempt calls closing ↔
      .chunk n data reply ∈ calls := by
  have left : .chunk n data reply ∉ (getConnection connected : List (Action ε)) :=
    not_mem_getConnection (by simp)
  have right : (.chunk n data reply : Action ε) ∉ closing := by
    intro member
    rcases closed _ member with ⟨_, same⟩ | ⟨_, _, same⟩ <;> cases same
  simp [round, left, right]

theorem mem_round_send {connected : Bool} {attempt n : Nat} {calls closing : List (Action ε)}
    (closed : Closing closing)
    (chunks : ∀ action ∈ calls, ∃ data reply, action = .chunk attempt data reply) :
    .send n ∈ round connected attempt calls closing ↔ n = attempt := by
  have left : .send n ∉ (getConnection connected : List (Action ε)) :=
    not_mem_getConnection (by simp)
  have middle : (.send n : Action ε) ∉ calls := by
    intro member
    obtain ⟨_, _, same⟩ := chunks _ member
    cases same
  have right : (.send n : Action ε) ∉ closing := by
    intro member
    rcases closed _ member with ⟨_, same⟩ | ⟨_, _, same⟩ <;> cases same
  simp [round, left, middle, right]

theorem requests_round {connected : Bool} {attempt : Nat} {calls closing : List (Action ε)}
    (closed : Closing closing)
    (chunks : ∀ action ∈ calls, ∃ data reply, action = .chunk attempt data reply) :
    requests (round connected attempt calls closing) = [attempt] := by
  have middle : requests calls = [] := List.filterMap_eq_nil_iff.mpr fun action member => by
    obtain ⟨_, _, rfl⟩ := chunks action member
    rfl
  have right : requests closing = [] := List.filterMap_eq_nil_iff.mpr fun action member => by
    rcases closed action member with ⟨_, rfl⟩ | ⟨_, _, rfl⟩ <;> rfl
  have head : requests (.send attempt :: calls) = attempt :: requests calls := rfl
  rw [round, requests_append, requests_append, requests_getConnection, head, middle, right]
  rfl

theorem pieces_round {connected : Bool} {attempt : Nat} {calls closing : List (Action ε)}
    (closed : Closing closing) :
    pieces (round connected attempt calls closing) = pieces calls := by
  have right : pieces closing = [] := List.filterMap_eq_nil_iff.mpr fun action member => by
    rcases closed action member with ⟨_, rfl⟩ | ⟨_, _, rfl⟩ <;> rfl
  have head : pieces (.send attempt :: calls) = pieces calls := rfl
  rw [round, pieces_append, pieces_append, pieces_getConnection, head, right]
  simp

/-- What a round hands over comes from a successful response to its own request. -/
theorem Sending.round_success {attempt : Nat} {exchange : Exchange} {r : Receiver σ}
    {calls closing : List (Action ε)} {sent : Except ε SendResult} {connected : Bool}
    (sending : Sending attempt exchange r calls sent) (closed : Closing closing) {n : Nat}
    {data : Bytes} {reply : Reply ε}
    (member : .chunk n data reply ∈ round connected attempt calls closing) :
    n = attempt ∧ ∃ head chunks failure, exchange = .answered head chunks failure ∧
      head.success = true := by
  rw [mem_round_chunk closed] at member
  obtain ⟨_, _, same⟩ := sending.only_chunks _ member
  cases same
  rcases sending.from_success with rfl | ⟨head, body, failure, answered, success, _, _⟩
  · simp at member
  · exact ⟨rfl, head, body, failure, answered, success⟩

/-- A round that delivers nothing may still have handed over empty pieces. -/
theorem round_silent {attempt : Nat} {connected : Bool} {calls closing : List (Action ε)}
    (closed : Closing closing) (nothing : (pieces calls).flatten = []) {n : Nat} {data : Bytes}
    {reply : Reply ε} (member : .chunk n data reply ∈ round connected attempt calls closing) :
    data = [] := by
  rw [mem_round_chunk closed] at member
  apply List.flatten_eq_nil_iff.mp nothing
  exact List.mem_filterMap.mpr ⟨_, member, rfl⟩

/-- What a run of `ExportSearch` that starts with attempt `first` promises its consumer. -/
structure NoReplay (client : NativeClient) (attempts : Nat → Attempt) (first : Nat)
    (run : ExportRun σ ε) : Prop where
  /-- Attempts are sent one after the other, within the budget. -/
  consecutive : ∃ n, n ≤ client.retries - first + 1 ∧ requests run.log = List.range' first n
  /-- Content is handed over only from a successful response to a request that was sent. -/
  success_only : ∀ n data reply, .chunk n data reply ∈ run.log → first ≤ n ∧
    ∃ head chunks failure, (attempts n).exchange = .answered head chunks failure ∧
      head.success = true
  /-- All bytes delivered are a prefix of one body, that of the last request. -/
  one_attempt : delivered run.log ≠ [] → ∃ last head chunks failure,
    (requests run.log).getLast? = some last ∧
    (attempts last).exchange = .answered head chunks failure ∧ head.success = true ∧
    delivered run.log <+: chunks.flatten ∧
    ∀ n data reply, .chunk n data reply ∈ run.log → data ≠ [] → n = last
  /-- A normal return follows a stop or the delivery of one complete body. -/
  complete : run.result = .ok () →
    (∃ n data, .chunk n data .stop ∈ run.log) ∨
    ∃ last head chunks, (requests run.log).getLast? = some last ∧
      (attempts last).exchange = .answered head chunks none ∧ head.success = true ∧
      delivered run.log = chunks.flatten
  /-- Another attempt follows only one that delivered nothing and may be retried. -/
  retried_only : ∀ n, first ≤ n → .send (n + 1) ∈ run.log →
    (∀ data reply, .chunk n data reply ∈ run.log → data = []) ∧
    (attempts n).exchange.Retryable

/-- A run that ends with its first request. -/
theorem NoReplay.last {client : NativeClient} {attempts : Nat → Attempt} {attempt : Nat}
    {connected after : Bool} {r : Receiver σ} {s : σ} {calls closing : List (Action ε)}
    {sent : Except ε SendResult} {result : Except (ClientError ε) Unit}
    (sending : Sending attempt (attempts attempt).exchange r calls sent)
    (closed : Closing closing)
    (returned : result = .ok () → (∃ data, .chunk attempt data .stop ∈ calls) ∨
      ∃ head chunks, (attempts attempt).exchange = .answered head chunks none ∧
        head.success = true ∧ pieces calls = chunks) :
    NoReplay client attempts attempt ⟨s, round connected attempt calls closing, after, result⟩ := by
  have chunks := sending.only_chunks
  have sentOnce : requests (round connected attempt calls closing) = [attempt] :=
    requests_round closed chunks
  have passed : pieces (round connected attempt calls closing) = pieces calls :=
    pieces_round closed
  constructor
  · exact ⟨1, by omega, sentOnce⟩
  · intro n data reply member
    obtain ⟨rfl, success⟩ := sending.round_success closed member
    exact ⟨le_rfl, success⟩
  · intro some_
    simp only [delivered, passed] at some_ ⊢
    rcases sending.from_success with rfl | ⟨head, body, failure, answered, success, front, _⟩
    · simp [pieces] at some_
    · refine ⟨attempt, head, body, failure, by rw [sentOnce]; rfl, answered, success, ?_, ?_⟩
      · obtain ⟨rest, rfl⟩ := front
        exact ⟨rest.flatten, by simp⟩
      · intro n data reply member _
        exact (sending.round_success closed member).1
  · intro normal
    rcases returned normal with ⟨data, member⟩ | ⟨head, body, answered, success, whole⟩
    · exact Or.inl ⟨attempt, data, (mem_round_chunk closed).mpr member⟩
    · refine Or.inr ⟨attempt, head, body, by rw [sentOnce]; rfl, answered, success, ?_⟩
      rw [delivered, passed, whole]
  · intro n above member
    rw [mem_round_send closed chunks] at member
    omega

/-- A run that goes on with another request. -/
theorem NoReplay.next {client : NativeClient} {attempts : Nat → Attempt} {attempt delay : Nat}
    {connected : Bool} {r : Receiver σ} {calls closing : List (Action ε)} {result : SendResult}
    {run : ExportRun σ ε}
    (sending : Sending attempt (attempts attempt).exchange r calls (.ok result))
    (retried : afterSend (ε := ε) client attempt r result = .retry delay)
    (closed : Closing closing) (rest : NoReplay client attempts (attempt + 1) run) :
    NoReplay client attempts attempt (run.after (round connected attempt calls closing)) := by
  have chunks := sending.only_chunks
  obtain ⟨nothing, retryable⟩ := sending.retried retried
  have within := afterSend_retry_lt retried
  have sentOnce : requests (round connected attempt calls closing) = [attempt] :=
    requests_round closed chunks
  have passed : delivered (round connected attempt calls closing) = [] := by
    rw [delivered, pieces_round closed]
    exact nothing
  have member_after : ∀ n data reply,
      .chunk n data reply ∈ (run.after (round connected attempt calls closing)).log →
      data = [] ∨ .chunk n data reply ∈ run.log := by
    intro n data reply member
    rcases List.mem_append.mp member with here | later
    · exact Or.inl (round_silent closed nothing here)
    · exact Or.inr later
  have total : delivered (run.after (round connected attempt calls closing)).log =
      delivered run.log := by
    simp [ExportRun.after, passed]
  have all : requests (run.after (round connected attempt calls closing)).log =
      attempt :: requests run.log := by
    simp [ExportRun.after, sentOnce]
  constructor
  · obtain ⟨n, bound, consecutive⟩ := rest.consecutive
    exact ⟨n + 1, by omega, by rw [all, consecutive, List.range'_succ]⟩
  · intro n data reply member
    rcases List.mem_append.mp member with here | later
    · obtain ⟨rfl, success⟩ := sending.round_success closed here
      exact ⟨le_rfl, success⟩
    · obtain ⟨above, success⟩ := rest.success_only n data reply later
      exact ⟨by omega, success⟩
  · -- All bytes come from the rest of the run, and so does the last request.
    rw [total]
    intro some_
    obtain ⟨last, head, body, failure, final, answered, success, front, single⟩ :=
      rest.one_attempt some_
    refine ⟨last, head, body, failure, ?_, answered, success, front, ?_⟩
    · rw [all, List.getLast?_cons, final]
      rfl
    · intro n data reply member nonempty
      rcases member_after n data reply member with void | later
      · exact absurd void nonempty
      · exact single n data reply later nonempty
  · intro normal
    rcases rest.complete normal with ⟨n, data, member⟩ | ⟨last, head, body, final, rest_⟩
    · exact Or.inl ⟨n, data, List.mem_append_right _ member⟩
    · refine Or.inr ⟨last, head, body, ?_, rest_.1, rest_.2.1, by rw [total]; exact rest_.2.2⟩
      rw [all, List.getLast?_cons, final]
      rfl
  · intro n above member
    rcases List.mem_append.mp member with here | later
    · rw [mem_round_send closed chunks] at here
      omega
    · -- The attempt of this round, or one of the rest.
      by_cases same : n = attempt
      · subst same
        refine ⟨?_, retryable⟩
        intro data reply handed
        rcases member_after n data reply handed with void | later
        · exact void
        · have := (rest.success_only n data reply later).1
          omega
      · obtain ⟨void, again⟩ := rest.retried_only n (by omega) later
        refine ⟨?_, again⟩
        intro data reply handed
        rcases member_after n data reply handed with void_ | later
        · exact void_
        · exact void data reply later

theorem noReplay_unsent {client : NativeClient} {attempts : Nat → Attempt} {attempt : Nat}
    {connected : Bool} {s : σ} {error : ClientError ε} :
    NoReplay client attempts attempt ⟨s, [], connected, .error error⟩ := by
  constructor
  · exact ⟨0, by omega, rfl⟩
  · simp
  · simp [delivered, pieces]
  · simp
  · simp

theorem closing_nil : Closing ([] : List (Action ε)) := by simp [Closing]

theorem closing_drop (dropped : Bool) (attempt : Nat) :
    Closing (dropConnection dropped attempt : List (Action ε)) := by
  cases dropped <;> simp [Closing, dropConnection]

theorem closing_sleep (dropped : Bool) (attempt seconds : Nat) :
    Closing (dropConnection dropped attempt ++ [.sleep attempt seconds] : List (Action ε)) := by
  intro action member
  rcases List.mem_append.mp member with drop | sleep
  · exact closing_drop dropped attempt action drop
  · exact Or.inr ⟨attempt, seconds, List.mem_singleton.mp sleep⟩

section Rounds

variable {client : NativeClient} {c : Consumer σ ε} {attempts : Nat → Attempt} {attempt : Nat}
  {s : σ} {r : Receiver σ} {calls : List (Action ε)}
  (quiet : (attempts attempt).interrupted = false)

include quiet

/-- An exception of the consumer ends the loop. -/
theorem exportSearch_thrown {error : ε}
    (sent : send c attempt s (attempts attempt).exchange = (r, calls, .error error))
    (connected : Bool) :
    exportSearch client c attempts attempt connected s =
      ⟨r.consumer, round connected attempt calls [], true, .error (.consumer error)⟩ := by
  rw [exportSearch]
  simp only [quiet, sent, Bool.false_eq_true, if_false, round, List.append_nil]

/-- Otherwise a round is what `afterSend` decides. -/
theorem exportSearch_round {result : SendResult}
    (sent : send c attempt s (attempts attempt).exchange = (r, calls, .ok result))
    (connected : Bool) :
    exportSearch client c attempts attempt connected s =
      let closing := dropConnection (dropsConnection r result) attempt
      match afterSend (ε := ε) client attempt r result with
      | .return =>
        ⟨r.consumer, round connected attempt calls closing, !dropsConnection r result, .ok ()⟩
      | .throw error =>
        ⟨r.consumer, round connected attempt calls closing, !dropsConnection r result,
          .error error⟩
      | .retry delay =>
        let log := round connected attempt calls (closing ++ [.sleep attempt delay])
        if (attempts attempt).interruptedInBackoff then
          ⟨r.consumer, log, !dropsConnection r result, .error .interrupt⟩
        else
          (exportSearch client c attempts (attempt + 1) (!dropsConnection r result)
            r.consumer).after log := by
  rw [exportSearch]
  simp only [quiet, sent, Bool.false_eq_true, if_false, round]
  -- The loop keeps the decision as an equation; here it is only looked at.
  split
  next decision => rw [sent] at decision; simp only [decision]
  next decision => rw [sent] at decision; simp only [decision]
  next decision => rw [sent] at decision; simp only [decision]

end Rounds

/-- For every budget, every sequence of outcomes and every consumer: the delivered bytes are
a prefix of the body of the last request, a normal return means a stop or the complete
body, and only an attempt that delivered nothing is followed by another one. -/
theorem exportSearch_no_replay (client : NativeClient) (c : Consumer σ ε)
    (attempts : Nat → Attempt) (attempt : Nat) (connected : Bool) (s : σ) :
    NoReplay client attempts attempt (exportSearch client c attempts attempt connected s) := by
  -- One case for each way out of the loop body; only the last goes round again.
  fun_induction exportSearch client c attempts attempt connected s with
  | case1 => exact noReplay_unsent
  | case2 attempt connected s _ r calls log error sent =>
    simpa [round] using NoReplay.last (send_spec sent) closing_nil (by simp)
  | case3 attempt connected s _ r calls log result dropped returned sent =>
    exact .last (send_spec sent) (closing_drop _ _) fun _ => (send_spec sent).returned returned
  | case4 attempt connected s _ r calls log result dropped error _ sent =>
    exact .last (send_spec sent) (closing_drop _ _) (by simp)
  | case5 attempt connected s _ r calls log result dropped delay _ log' _ sent =>
    exact .last (send_spec sent) (closing_sleep _ _ _) (by simp)
  | case6 attempt connected s _ r calls log result dropped delay retried log' _ _ sent ih =>
    exact .next (send_spec sent) retried (closing_sleep _ _ _) ih

theorem afterSend_success {client : NativeClient} {attempt : Nat} {r : Receiver σ}
    {head : ResponseHead} (running : r.stoppedByConsumer = false) (success : head.success = true) :
    afterSend (ε := ε) client attempt r (.response head) = .return := by
  simp only [ResponseHead.success, Bool.and_eq_true, decide_eq_true_eq] at success
  have notLimited : ¬(head.status = 429 ∧ attempt < client.retries) := by omega
  have notFailing : ¬(500 ≤ head.status ∧ attempt < client.retries) := by omega
  have inRange : ¬(head.status < 200 ∨ 300 ≤ head.status) := by omega
  simp [afterSend, running, notLimited, notFailing, inRange]

/-- How `ExportSearch` ends with a complete successful response. -/
def replyResult : Reply ε → Except (ClientError ε) Unit
  | .throw error => .error (.consumer error)
  | _ => .ok ()

/-- From the attempt on that gets a complete successful response. -/
theorem exportSearch_complete (client : NativeClient) (c : Consumer σ ε)
    (attempts : Nat → Attempt) (attempt : Nat) (connected : Bool) (s : σ) {head : ResponseHead}
    {chunks : List Bytes} (quiet : (attempts attempt).interrupted = false)
    (answered : (attempts attempt).exchange = .answered head chunks none)
    (success : head.success = true) :
    (exportSearch client c attempts attempt connected s).consumer =
      (receiveBody c attempt { consumer := s, successStatus := true } chunks).1.consumer ∧
    (exportSearch client c attempts attempt connected s).result =
      replyResult (receiveBody c attempt { consumer := s, successStatus := true } chunks).2.2 := by
  obtain ⟨_, stopped, _⟩ :=
    receiveBody_success c attempt { consumer := s, successStatus := true } chunks rfl rfl
  generalize body : receiveBody c attempt { consumer := s, successStatus := true } chunks =
    received at stopped ⊢
  obtain ⟨last, log, reply⟩ := received
  -- The reply to the body decides what `send` returns.
  have sent : send c attempt s (attempts attempt).exchange = match reply with
      | .throw error => (last, log, .error error)
      | .stop => (last, log, .ok (.failed .canceled))
      | .more => (last, log, .ok (.response head)) := by
    simp only [answered, send, success, body]
    cases reply <;> rfl
  cases reply with
  | throw error => simp [exportSearch_thrown quiet sent, replyResult]
  | stop =>
    have returned : afterSend (ε := ε) client attempt last (.failed .canceled) = .return :=
      if_pos (stopped.mpr rfl)
    simp [exportSearch_round quiet sent, returned, replyResult]
  | more =>
    have running : last.stoppedByConsumer = false := by simpa using stopped
    have returned : afterSend (ε := ε) client attempt last (.response head) = .return :=
      afterSend_success running success
    simp [exportSearch_round quiet sent, returned, replyResult]

/-- The attempt hands over no byte and the loop goes round again. -/
structure Attempt.Repeated (client : NativeClient) (attempt : Nat) (tried : Attempt) : Prop where
  quiet : tried.interrupted = false
  slept : tried.interruptedInBackoff = false
  budget : attempt < client.retries
  retryable : tried.exchange.Retryable
  silent : ∀ head chunks failure, tried.exchange = .answered head chunks failure →
    head.success = true → chunks.flatten = []

/-- Empty pieces leave a consumer alone that ignores them. -/
theorem receiveBody_silent {c : Consumer σ ε} {s : σ} (idle : c.onChunk s [] = (s, .more))
    (attempt : Nat) (chunks : List Bytes) (silent : chunks.flatten = []) :
    ∃ log, receiveBody c attempt { consumer := s, successStatus := true } chunks =
      ({ consumer := s, successStatus := true }, log, .more) := by
  induction chunks with
  | nil => exact ⟨[], rfl⟩
  | cons data rest ih =>
    obtain ⟨rfl, others⟩ := List.append_eq_nil_iff.mp silent
    obtain ⟨log, received⟩ := ih others
    let r : Receiver σ := { consumer := s, successStatus := true }
    exact ⟨chunkActions attempt r [] (.more : Reply ε) ++ log,
      by simp [r, receiveBody, contentReceiver, idle, received]⟩

theorem afterSend_failed {client : NativeClient} {attempt : Nat} {r : Receiver σ}
    {error : TransportError} (running : r.stoppedByConsumer = false)
    (nothing : r.successBytes = 0) (budget : attempt < client.retries)
    (retryable : isRetryableTransportError error = true) :
    afterSend (ε := ε) client attempt r (.failed error) =
      .retry (client.backoffSeconds attempt) := by
  simp [afterSend, running, nothing, budget, retryable]

theorem afterSend_response {client : NativeClient} {attempt : Nat} {r : Receiver σ}
    {head : ResponseHead} (running : r.stoppedByConsumer = false)
    (budget : attempt < client.retries) (again : head.status = 429 ∨ 500 ≤ head.status) :
    ∃ delay, afterSend (ε := ε) client attempt r (.response head) = .retry delay := by
  by_cases limited : head.status = 429
  · exact ⟨client.rateLimitRetryDelaySeconds head.retryAfter attempt,
      by simp [afterSend, running, limited, budget]⟩
  · have failing : 500 ≤ head.status := again.resolve_left limited
    exact ⟨client.backoffSeconds attempt,
      by simp [afterSend, running, limited, failing, budget]⟩

/-- A request of such an attempt, with a consumer that ignores empty pieces. -/
theorem Attempt.Repeated.send {client : NativeClient} {attempt : Nat} {tried : Attempt}
    (repeated : tried.Repeated client attempt) {c : Consumer σ ε} {s : σ}
    (idle : c.onChunk s [] = (s, .more)) :
    ∃ r calls result delay, send c attempt s tried.exchange = (r, calls, .ok result) ∧
      r.consumer = s ∧ afterSend (ε := ε) client attempt r result = .retry delay := by
  obtain ⟨_, _, budget, retryable, silent⟩ := repeated
  cases exchange : tried.exchange with
  | failed error =>
    rw [exchange] at retryable
    exact ⟨_, _, _, _, rfl, rfl, afterSend_failed rfl rfl budget retryable⟩
  | answered head chunks failure =>
    -- Whatever the status, the consumer is left alone and no byte is counted.
    have received : ∃ r log, receiveBody c attempt
        { consumer := s, successStatus := head.success } chunks = (r, log, .more) ∧
        r.consumer = s ∧ r.stoppedByConsumer = false ∧ r.successBytes = 0 := by
      cases success : head.success with
      | true =>
        obtain ⟨log, received⟩ :=
          receiveBody_silent idle attempt chunks (silent head chunks failure exchange success)
        exact ⟨_, log, received, rfl, rfl, rfl⟩
      | false =>
        have received := receiveBody_failure c attempt s false 0 [] chunks (Nat.zero_le _)
        exact ⟨_, [], received, rfl, rfl, rfl⟩
    obtain ⟨r, log, received, same, running, nothing⟩ := received
    have sent : SplunkLogs.send c attempt s (.answered head chunks failure) =
        (r, log, .ok (transferEnd head failure)) := by
      simp only [SplunkLogs.send, received]
    rw [exchange] at retryable
    cases failure with
    | some error =>
      exact ⟨r, log, _, _, sent, same, afterSend_failed running nothing budget retryable⟩
    | none =>
      obtain ⟨delay, retried⟩ := afterSend_response (ε := ε) running budget retryable
      exact ⟨r, log, _, delay, sent, same, retried⟩

theorem exportSearch_repeated {client : NativeClient} {c : Consumer σ ε}
    {attempts : Nat → Attempt} {attempt : Nat} {s : σ} (idle : c.onChunk s [] = (s, .more))
    (repeated : (attempts attempt).Repeated client attempt) (connected : Bool) :
    ∃ connected' log, exportSearch client c attempts attempt connected s =
      (exportSearch client c attempts (attempt + 1) connected' s).after log := by
  obtain ⟨r, calls, result, delay, sent, same, retried⟩ := repeated.send idle
  subst same
  simp only [exportSearch_round repeated.quiet sent, retried, repeated.slept, Bool.false_eq_true,
    if_false]
  exact ⟨_, _, rfl⟩

/-- Attempts that hand over nothing do not show in the end of the run. -/
theorem exportSearch_skips {client : NativeClient} {c : Consumer σ ε}
    {attempts : Nat → Attempt} {s : σ} (idle : c.onChunk s [] = (s, .more)) {last : Nat}
    (repeated : ∀ n < last, (attempts n).Repeated client n) (connected : Bool) :
    ∃ connected', (exportSearch client c attempts 0 connected s).consumer =
        (exportSearch client c attempts last connected' s).consumer ∧
      (exportSearch client c attempts 0 connected s).result =
        (exportSearch client c attempts last connected' s).result := by
  induction last with
  | zero => exact ⟨connected, rfl, rfl⟩
  | succ last ih =>
    obtain ⟨before, consumer, result⟩ := ih fun n earlier => repeated n (by omega)
    obtain ⟨after, log, round⟩ := exportSearch_repeated idle (repeated last (by omega)) before
    rw [round] at consumer result
    exact ⟨after, consumer, result⟩

/-- A whole run, from the first attempt on. -/
theorem exportSearch_delivers_once (client : NativeClient) (c : Consumer σ ε)
    (attempts : Nat → Attempt) (connected : Bool) (s : σ) :
    NoReplay client attempts 0 (exportSearch client c attempts 0 connected s) :=
  exportSearch_no_replay client c attempts 0 connected s

end SplunkLogs
