import SplunkLogs.Model.Text

/-!
# The native Splunk client

`ExportSearch` and `AuthenticatedRequest` with their retry loops. What the network does in
each attempt is given from outside; `httplib` hands the status to `response_handler` before
any content and lets exceptions of the content receiver through.
-/
namespace SplunkLogs

/-- The `httplib` errors the client tells apart. -/
inductive TransportError where
  | canceled
  | sslLoadingCerts
  | sslServerVerification
  | sslServerHostnameVerification
  | other (code : Nat)
  deriving DecidableEq

def isRetryableTransportError : TransportError → Bool
  | .sslLoadingCerts => false
  | .sslServerVerification => false
  | .sslServerHostnameVerification => false
  | _ => true

def normalizeUrl (raw : Bytes) : Bytes :=
  let result := ((trim raw).reverse.dropWhile (· == 47)).reverse
  if result.isEmpty then ascii "https://localhost:8089" else result

/-- The configuration the native loops read. `overlongShift` is the value the machine gives
for `1 << n` with `n ≥ 64`, which C++ leaves undefined. -/
structure NativeClient where
  url : Bytes
  retries : Nat
  overlongShift : Nat → Nat

namespace NativeClient

/-- `uint64_t(1) << attempt`. -/
def shiftOne (client : NativeClient) (attempt : Nat) : Nat :=
  -- The loops do not bound `attempt` by the width of the type.
  if attempt < 64 then 2 ^ attempt else client.overlongShift attempt

def backoffSeconds (client : NativeClient) (attempt : Nat) : Nat :=
  min (client.shiftOne attempt) 60

def rateLimitRetryDelaySeconds (client : NativeClient) (retryAfter : Option Bytes)
    (attempt : Nat) : Nat :=
  match retryAfter.bind stoll with
  | some value =>
    let seconds := max value 0
    -- One second on top of what the server asks for, within a minute.
    if 59 < seconds then 60 else seconds.toNat + 1
  | none => client.backoffSeconds attempt

end NativeClient

/-- Status line and the one header the client looks at. -/
structure ResponseHead where
  status : Nat
  retryAfter : Option Bytes

def ResponseHead.success (head : ResponseHead) : Bool := 200 ≤ head.status && head.status < 300

/-- What the network does with one request: it fails before a response head, or a head is
followed by pieces of content, after which the transfer is complete or fails. -/
inductive Exchange where
  | failed (error : TransportError)
  | answered (head : ResponseHead) (chunks : List Bytes) (failure : Option TransportError)

/-- One round of a retry loop: whether `context.interrupted` is seen at its top, the
exchange, and whether the flag is seen while the backoff sleep polls it. -/
structure Attempt where
  interrupted : Bool
  exchange : Exchange
  interruptedInBackoff : Bool

/-- What `on_chunk` does with the data it is given. -/
inductive Reply (ε : Type) where
  | more
  | stop
  | throw (error : ε)

/-- The consumer of the streamed body, with the variables its closure captures. -/
structure Consumer (σ ε : Type) where
  onChunk : σ → Bytes → σ × Reply ε

/-- The exceptions that leave the client. -/
inductive ClientError (ε : Type) where
  | interrupt
  | exportFailed (url : Bytes) (received : Nat) (error : TransportError)
  | requestFailed (url : Bytes) (error : TransportError)
  | httpStatus (status : Nat) (detail : Bytes)
  | discoveryDenied (status : Nat)
  | consumer (error : ε)
  deriving DecidableEq

/-- The observable actions of a retry loop, in order. -/
inductive Action (ε : Type) where
  | connect
  | send (attempt : Nat)
  | chunk (attempt : Nat) (data : Bytes) (reply : Reply ε)
  | reset (attempt : Nat)
  | sleep (attempt : Nat) (seconds : Nat)

section ExportSearch

variable {σ ε : Type}

/-- The locals of one attempt that the request's callbacks share. -/
structure Receiver (σ : Type) where
  consumer : σ
  successStatus : Bool := false
  stoppedByConsumer : Bool := false
  successBytes : Nat := 0
  errorBody : Bytes := []

/-- Content of a failed response is kept for the error text. -/
def Receiver.keepError (r : Receiver σ) (data : Bytes) : Receiver σ :=
  if r.errorBody.length < 4096 then
    { r with errorBody := r.errorBody ++ data.take (4096 - r.errorBody.length) }
  else r

/-- `request.content_receiver`. -/
def contentReceiver (c : Consumer σ ε) (r : Receiver σ) (data : Bytes) :
    Receiver σ × Reply ε :=
  if r.successStatus then
    match c.onChunk r.consumer data with
    -- Bytes count as delivered only once the consumer has accepted them.
    | (s, .more) =>
      ({ r with consumer := s, successBytes := r.successBytes + data.length }, .more)
    | (s, .stop) => ({ r with consumer := s, stoppedByConsumer := true }, .stop)
    | (s, .throw error) => ({ r with consumer := s }, .throw error)
  else (r.keepError data, .more)

/-- The calls of `on_chunk` that one piece of content leads to. -/
def chunkActions (attempt : Nat) (r : Receiver σ) (data : Bytes) (reply : Reply ε) :
    List (Action ε) :=
  if r.successStatus then [.chunk attempt data reply] else []

/-- `httplib` feeds the pieces to the content receiver until it declines. -/
def receiveBody (c : Consumer σ ε) (attempt : Nat) (r : Receiver σ) :
    List Bytes → Receiver σ × List (Action ε) × Reply ε
  | [] => (r, [], .more)
  | data :: rest =>
    match contentReceiver c r data with
    | (r', .more) =>
      let (last, log, reply) := receiveBody c attempt r' rest
      (last, chunkActions attempt r data (.more : Reply ε) ++ log, reply)
    | (r', reply) => (r', chunkActions attempt r data reply, reply)

inductive SendResult where
  | failed (error : TransportError)
  | response (head : ResponseHead)

/-- How `send` returns once the whole content has been taken. -/
def transferEnd (head : ResponseHead) : Option TransportError → SendResult
  | some error => .failed error
  | none => .response head

/-- `GetConnection().send(request)`; an exception of the consumer comes through. -/
def send (c : Consumer σ ε) (attempt : Nat) (s : σ) (exchange : Exchange) :
    Receiver σ × List (Action ε) × Except ε SendResult :=
  match exchange with
  | .failed error => ({ consumer := s }, [], .ok (.failed error))
  | .answered head chunks failure =>
    let (r, log, reply) :=
      receiveBody c attempt { consumer := s, successStatus := head.success } chunks
    match reply with
    | .throw error => (r, log, .error error)
    | .stop => (r, log, .ok (.failed .canceled))
    | .more => (r, log, .ok (transferEnd head failure))

inductive Next (ε : Type) where
  | return
  | throw (error : ClientError ε)
  | retry (delay : Nat)

/-- `ExportSearch` from the return of `send` to the end of the loop body. -/
def afterSend (client : NativeClient) (attempt : Nat) (r : Receiver σ) (result : SendResult) :
    Next ε :=
  -- A stop by the consumer is a normal return, whatever `send` has returned.
  if r.stoppedByConsumer then .return
  else
    match result with
    | .failed error =>
      -- Once bytes have reached the parser the request is not replayed.
      if 0 < r.successBytes || client.retries ≤ attempt || !isRetryableTransportError error then
        .throw (.exportFailed (normalizeUrl client.url) r.successBytes error)
      else .retry (client.backoffSeconds attempt)
    | .response head =>
      if head.status = 429 ∧ attempt < client.retries then
        .retry (client.rateLimitRetryDelaySeconds head.retryAfter attempt)
      else if 500 ≤ head.status ∧ attempt < client.retries then
        .retry (client.backoffSeconds attempt)
      else if head.status < 200 ∨ 300 ≤ head.status then
        .throw (.httpStatus head.status r.errorBody)
      else .return

/-- The connection is dropped after a transport error, unless the consumer caused it. -/
def dropsConnection (r : Receiver σ) : SendResult → Bool
  | .failed _ => !r.stoppedByConsumer
  | .response _ => false

/-- What `ExportSearch` may decide once `send` has returned, by the way it comes to it. -/
inductive Decided (client : NativeClient) (attempt : Nat) (r : Receiver σ) :
    SendResult → Next ε → Prop
  | stopped (result : SendResult) (stopped : r.stoppedByConsumer = true) :
      Decided client attempt r result .return
  | failed (error : TransportError) (running : r.stoppedByConsumer = false)
      (final : 0 < r.successBytes ∨ client.retries ≤ attempt ∨
        isRetryableTransportError error = false) :
      Decided client attempt r (.failed error)
        (.throw (.exportFailed (normalizeUrl client.url) r.successBytes error))
  | failedAgain (error : TransportError) (running : r.stoppedByConsumer = false)
      (nothing : r.successBytes = 0) (within : attempt < client.retries)
      (retryable : isRetryableTransportError error = true) :
      Decided client attempt r (.failed error) (.retry (client.backoffSeconds attempt))
  | limited (head : ResponseHead) (running : r.stoppedByConsumer = false)
      (status : head.status = 429) (within : attempt < client.retries) :
      Decided client attempt r (.response head)
        (.retry (client.rateLimitRetryDelaySeconds head.retryAfter attempt))
  | unavailable (head : ResponseHead) (running : r.stoppedByConsumer = false)
      (status : 500 ≤ head.status) (within : attempt < client.retries) :
      Decided client attempt r (.response head) (.retry (client.backoffSeconds attempt))
  | rejected (head : ResponseHead) (running : r.stoppedByConsumer = false)
      (rejected : head.success = false)
      (final : head.status = 429 ∨ 500 ≤ head.status → client.retries ≤ attempt) :
      Decided client attempt r (.response head) (.throw (.httpStatus head.status r.errorBody))
  | complete (head : ResponseHead) (running : r.stoppedByConsumer = false)
      (success : head.success = true) : Decided client attempt r (.response head) .return

theorem afterSend_decided (client : NativeClient) (attempt : Nat) (r : Receiver σ)
    (result : SendResult) :
    Decided (ε := ε) client attempt r result (afterSend client attempt r result) := by
  cases stopped : r.stoppedByConsumer with
  | true => simpa only [afterSend, stopped, if_true] using .stopped result stopped
  | false =>
    cases result with
    | failed error =>
      simp only [afterSend, stopped, Bool.false_eq_true, if_false]
      split
      next final =>
        simp only [Bool.or_eq_true, decide_eq_true_eq, Bool.not_eq_true', or_assoc] at final
        exact .failed error stopped final
      next again =>
        simp only [Bool.or_eq_true, decide_eq_true_eq, Bool.not_eq_true', not_or, Nat.not_lt,
          Nat.not_le, Nat.le_zero, Bool.not_eq_false] at again
        exact .failedAgain error stopped again.1.1 again.1.2 again.2
    | response head =>
      simp only [afterSend, stopped, Bool.false_eq_true, if_false]
      split
      next limited => exact .limited head stopped limited.1 limited.2
      next notLimited =>
        split
        next failing => exact .unavailable head stopped failing.1 failing.2
        next notFailing =>
          split
          next outside =>
            refine .rejected head stopped ?_ (by omega)
            simp only [ResponseHead.success, Bool.and_eq_false_iff, decide_eq_false_iff_not]
            omega
          next inside =>
            refine .complete head stopped ?_
            simp only [ResponseHead.success, Bool.and_eq_true, decide_eq_true_eq]
            omega

/-- The decision that `afterSend` has come to is one of those. -/
theorem Decided.of_afterSend {client : NativeClient} {attempt : Nat} {r : Receiver σ}
    {result : SendResult} {next : Next ε} (decision : afterSend client attempt r result = next) :
    Decided client attempt r result next :=
  decision ▸ afterSend_decided client attempt r result

/-- Only an attempt within the budget is followed by another one. -/
theorem afterSend_retry_lt {client : NativeClient} {attempt delay : Nat} {r : Receiver σ}
    {result : SendResult} (retried : afterSend (ε := ε) client attempt r result = .retry delay) :
    attempt < client.retries := by
  cases Decided.of_afterSend retried with
  | failedAgain _ _ _ within => exact within
  | limited _ _ _ within => exact within
  | unavailable _ _ _ within => exact within

/-- A finished retry loop: the consumer's state, the actions, whether a connection is
cached, and how the loop ended. -/
structure ExportRun (σ ε : Type) where
  consumer : σ
  log : List (Action ε)
  connected : Bool
  result : Except (ClientError ε) Unit

def ExportRun.after (run : ExportRun σ ε) (log : List (Action ε)) : ExportRun σ ε :=
  { run with log := log ++ run.log }

/-- `GetConnection`: a connection is created where none is cached. -/
def getConnection (connected : Bool) : List (Action ε) :=
  if connected then [] else [.connect]

def dropConnection (dropped : Bool) (attempt : Nat) : List (Action ε) :=
  if dropped then [.reset attempt] else []

/-- `SplunkClient::ExportSearch` from loop round `attempt` on. -/
def exportSearch (client : NativeClient) (c : Consumer σ ε) (attempts : Nat → Attempt)
    (attempt : Nat) (connected : Bool) (s : σ) : ExportRun σ ε :=
  if (attempts attempt).interrupted then ⟨s, [], connected, .error .interrupt⟩
  else
    let (r, calls, sent) := send c attempt s (attempts attempt).exchange
    let log := getConnection connected ++ .send attempt :: calls
    match sent with
    -- An exception of the consumer passes the loop by; the connection stays cached.
    | .error error => ⟨r.consumer, log, true, .error (.consumer error)⟩
    | .ok result =>
      let dropped := dropsConnection r result
      match decision : afterSend (ε := ε) client attempt r result with
      | .return => ⟨r.consumer, log ++ dropConnection dropped attempt, !dropped, .ok ()⟩
      | .throw error =>
        ⟨r.consumer, log ++ dropConnection dropped attempt, !dropped, .error error⟩
      | .retry delay =>
        let log := log ++ (dropConnection dropped attempt ++ [.sleep attempt delay])
        if (attempts attempt).interruptedInBackoff then
          ⟨r.consumer, log, !dropped, .error .interrupt⟩
        else
          have := afterSend_retry_lt decision
          (exportSearch client c attempts (attempt + 1) (!dropped) r.consumer).after log
  termination_by client.retries - attempt

end ExportSearch

section AuthenticatedRequest

/-- What `Get` and `Post` return: the head and the buffered body, or an error. -/
def Exchange.buffered : Exchange → Except TransportError (ResponseHead × Bytes)
  | .failed error => .error error
  | .answered _ _ (some error) => .error error
  | .answered head chunks none => .ok (head, chunks.flatten)

structure RequestRun where
  log : List (Action Empty)
  connected : Bool
  result : Except (ClientError Empty) Bytes

def RequestRun.after (run : RequestRun) (log : List (Action Empty)) : RequestRun :=
  { run with log := log ++ run.log }

/-- `SplunkClient::AuthenticatedRequest` (native) from loop round `attempt` on. -/
def authenticatedRequest (client : NativeClient) (indexDiscovery : Bool)
    (attempts : Nat → Attempt) (attempt : Nat) (connected : Bool) : RequestRun :=
  if (attempts attempt).interrupted then ⟨[], connected, .error .interrupt⟩
  else
    let log := getConnection connected ++ [.send attempt]
    match (attempts attempt).exchange.buffered with
    -- A transport error drops the connection before anything is decided.
    | .error error =>
      let log := log ++ [.reset attempt]
      if client.retries ≤ attempt || !isRetryableTransportError error then
        ⟨log, false, .error (.requestFailed (normalizeUrl client.url) error)⟩
      else
        let log := log ++ [.sleep attempt (client.backoffSeconds attempt)]
        if (attempts attempt).interruptedInBackoff then ⟨log, false, .error .interrupt⟩
        else (authenticatedRequest client indexDiscovery attempts (attempt + 1) false).after log
    | .ok (head, body) =>
      if head.status = 429 ∧ attempt < client.retries then
        let log := log ++
          [.sleep attempt (client.rateLimitRetryDelaySeconds head.retryAfter attempt)]
        if (attempts attempt).interruptedInBackoff then ⟨log, true, .error .interrupt⟩
        else (authenticatedRequest client indexDiscovery attempts (attempt + 1) true).after log
      else if 500 ≤ head.status ∧ attempt < client.retries then
        let log := log ++ [.sleep attempt (client.backoffSeconds attempt)]
        if (attempts attempt).interruptedInBackoff then ⟨log, true, .error .interrupt⟩
        else (authenticatedRequest client indexDiscovery attempts (attempt + 1) true).after log
      else if head.status < 200 ∨ 300 ≤ head.status then
        if indexDiscovery && (head.status = 401 || head.status = 403) then
          ⟨log, true, .error (.discoveryDenied head.status)⟩
        else ⟨log, true, .error (.httpStatus head.status body)⟩
      else ⟨log, true, .ok body⟩
  termination_by client.retries - attempt
  decreasing_by
    all_goals simp_all
    all_goals omega

end AuthenticatedRequest

end SplunkLogs
