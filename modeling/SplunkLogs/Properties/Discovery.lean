import SplunkLogs.Properties.Attachment
import SplunkLogs.Properties.RetryAgreement

/-!
# Discovery over the network

An attachment without names asks Splunk for them, and asks again where a request has failed for
a reason that may pass. Of all that the network may do, exactly one course leads to a catalog.
-/
namespace SplunkLogs

open Foundation

section Requests

variable {client : NativeClient} {attempts : Nat → Attempt} {attempt : Nat} {body : Bytes}

/-- An exchange that failed for a reason that may pass. -/
def Exchange.Transient (exchange : Exchange) : Prop :=
  match exchange.buffered with
  | .error error => error ∉ certificateErrors
  | .ok (head, _) => head.status = 429 ∨ 500 ≤ head.status

/-- The attempt is made, fails and is repeated after its backoff. -/
structure Repeated (client : NativeClient) (attempts : Nat → Attempt) (n : Nat) : Prop where
  running : (attempts n).interrupted = false
  within : n < client.retries
  transient : (attempts n).exchange.Transient
  undisturbed : (attempts n).interruptedInBackoff = false

/-- The attempt is made and answered with this body and a status of success. -/
structure Answered (attempts : Nat → Attempt) (n : Nat) (body : Bytes) : Prop where
  running : (attempts n).interrupted = false
  received : ∃ head, (attempts n).exchange.buffered = .ok (head, body) ∧ head.success = true

theorem verdict_again_iff :
    (∃ delay, verdict client attempt (attempts attempt).exchange.buffered = .again delay) ↔
      attempt < client.retries ∧ (attempts attempt).exchange.Transient := by
  unfold Exchange.Transient
  cases (attempts attempt).exchange.buffered with
  | error error =>
    simp only [verdict]
    split
    next allowed => simpa using allowed
    next refused => simpa using refused
  | ok answer =>
    obtain ⟨head, received⟩ := answer
    have apart : head.success = true → head.status ≠ 429 ∧ ¬500 ≤ head.status := by
      simp only [ResponseHead.success, Bool.and_eq_true, decide_eq_true_eq]
      omega
    simp only [verdict]
    split
    next success =>
      have settled := apart success
      simp [settled.1, settled.2]
    · split
      next limited => simp [limited]
      next notLimited =>
        split
        next failing => simp [failing]
        next notFailing =>
          simp only [reduceCtorEq, exists_false, false_iff]
          rintro ⟨within, limited | failing⟩
          · exact notLimited ⟨within, limited⟩
          · exact notFailing ⟨within, failing⟩

theorem Answered.verdict (answered : Answered attempts attempt body) (client : NativeClient) :
    verdict client attempt (attempts attempt).exchange.buffered = .stop (.success body) := by
  obtain ⟨head, received, success⟩ := answered.received
  rw [received, SplunkLogs.verdict, if_pos success]

/-- From an attempt on, the first answer of success is its own or comes once it is repeated. -/
def FirstAnswer (client : NativeClient) (attempts : Nat → Attempt) (attempt : Nat)
    (body : Bytes) : Prop :=
  ∃ n, attempt ≤ n ∧ (∀ m, attempt ≤ m → m < n → Repeated client attempts m) ∧
    Answered attempts n body

theorem firstAnswer_iff : FirstAnswer client attempts attempt body ↔
    Answered attempts attempt body ∨
      Repeated client attempts attempt ∧ FirstAnswer client attempts (attempt + 1) body := by
  constructor
  · rintro ⟨n, onwards, repeated, answered⟩
    rcases onwards.lt_or_eq with later | rfl
    · refine .inr ⟨repeated attempt (Nat.le_refl _) later, n, later, ?_, answered⟩
      exact fun m from_ before => repeated m (Nat.le_of_succ_le from_) before
    · exact .inl answered
  · rintro (answered | ⟨here, n, later, repeated, answered⟩)
    · exact ⟨attempt, Nat.le_refl _, fun m from_ before => absurd before (by omega), answered⟩
    · refine ⟨n, Nat.le_of_succ_le later, fun m from_ before => ?_, answered⟩
      rcases from_.lt_or_eq with beyond | rfl
      · exact repeated m beyond before
      · exact here

/-- The policy succeeds exactly with the first answer of success, if all attempts before it are
repeated. -/
theorem retryPolicy_success_iff (client : NativeClient) (attempts : Nat → Attempt)
    (attempt : Nat) (connected : Bool) :
    (retryPolicy client attempts attempt connected).ending = .success body ↔
      FirstAnswer client attempts attempt body := by
  fun_induction retryPolicy client attempts attempt connected with
  | case1 attempt connected interrupted =>
    rw [firstAnswer_iff]
    constructor
    · intro ended
      cases ended
    · rintro (answered | ⟨repeated, _⟩)
      · simp [answered.running] at interrupted
      · simp [repeated.running] at interrupted
  | case2 attempt connected running outcome lost log ending decided =>
    have final : ¬Repeated client attempts attempt := by
      intro repeated
      obtain ⟨delay, again⟩ := verdict_again_iff.mpr ⟨repeated.within, repeated.transient⟩
      rw [decided] at again
      cases again
    rw [firstAnswer_iff]
    constructor
    · intro ended
      subst ended
      exact .inl ⟨by simpa using running, verdict_stop_success decided⟩
    · rintro (answered | ⟨repeated, _⟩)
      · have success := answered.verdict client
        rw [decided] at success
        exact Verdict.stop.inj success
      · exact absurd repeated final
  | case3 attempt connected running outcome lost log delay decided log' seen =>
    rw [firstAnswer_iff]
    constructor
    · intro ended
      cases ended
    · rintro (answered | ⟨repeated, _⟩)
      · have success := answered.verdict client
        rw [decided] at success
        cases success
      · simp [repeated.undisturbed] at seen
  | case4 attempt connected running outcome lost log delay decided log' unseen within ih =>
    obtain ⟨inBudget, transient⟩ := verdict_again_iff.mp ⟨delay, decided⟩
    rw [firstAnswer_iff, PolicyRun.after, ih]
    constructor
    · exact fun later => .inr ⟨⟨by simpa using running, inBudget, transient,
        by simpa using unseen⟩, later⟩
    · rintro (answered | ⟨_, later⟩)
      · have success := answered.verdict client
        rw [decided] at success
        cases success
      · exact later

theorem RequestRun.ending_success (run : RequestRun) :
    run.ending = .success body ↔ run.result = .ok body := by
  unfold RequestRun.ending
  cases run.result with
  | ok received => simp
  | error error => cases error <;> simp [ClientError.ending]

theorem authenticatedRequest_ok_iff (client : NativeClient) (indexDiscovery : Bool)
    (attempts : Nat → Attempt) (connected : Bool) :
    (authenticatedRequest client indexDiscovery attempts 0 connected).result = .ok body ↔
      FirstAnswer client attempts 0 body := by
  rw [← retryPolicy_success_iff client attempts 0 connected, ← RequestRun.ending_success,
    (authenticatedRequest_follows client indexDiscovery attempts 0 connected).ending]

/-- The answer comes within the budget. -/
theorem FirstAnswer.within (answer : FirstAnswer client attempts 0 body) :
    ∃ n ≤ client.retries, (∀ m < n, Repeated client attempts m) ∧ Answered attempts n body := by
  obtain ⟨n, _, repeated, answered⟩ := answer
  refine ⟨n, ?_, fun m before => repeated m (Nat.zero_le m) before, answered⟩
  cases n with
  | zero => exact Nat.zero_le _
  | succ m => exact (repeated m (Nat.zero_le m) (Nat.lt_succ_self m)).within

end Requests

section Attachments

theorem mapError_eq_ok {ε ε' α : Type} {result : Except ε α} {describe : ε → ε'} {a : α} :
    result.mapError describe = .ok a ↔ result = .ok a := by
  cases result <;> simp [Except.mapError]

variable (env : Externals) (manager : SecretManager) (describe : ClientError Empty → Exception)
  (overlongShift : Nat → Nat) (attempts : Nat → Attempt)

/-- `AttachSplunk` in a native build; `describe` makes a DuckDB exception of one of the client. -/
def attachNative (path : Bytes) (options : List (Bytes × AttachValue)) :
    Except Exception SplunkSchemaEntry :=
  attachSplunk env manager
    (fun client => (client.listIndexes overlongShift attempts).result.mapError describe)
    path options

/-- The client of discovery as its loop reads it: the retry budget is the default one. -/
def discoveryConfig (credentials : SplunkCredentials) : NativeClient where
  url := credentials.url
  retries := 4
  overlongShift := overlongShift

/-- The names of the tables of an attachment over a network that takes this course. -/
inductive NetworkNames (credentials : SplunkCredentials) (options : List (Bytes × AttachValue)) :
    List Bytes → Prop
  | given (value : AttachValue) (last : lastOption options (ascii "indexes") = some value) :
      NetworkNames credentials options value.texts.eraseDups
  | discovered (n : Nat) (response : Bytes) (entries : List Json)
      (none : lastOption options (ascii "indexes") = none) (budget : n ≤ 4)
      (before : ∀ m < n, Repeated (discoveryConfig overlongShift credentials) attempts m)
      (answered : Answered attempts n response)
      (listed : discoveredEntries env response = .ok entries) :
      NetworkNames credentials options (shownNames entries).eraseDups

theorem networkNames_iff {credentials : SplunkCredentials}
    {options : List (Bytes × AttachValue)} {names : List Bytes} :
    TableNames env
        (fun client => (client.listIndexes overlongShift attempts).result.mapError describe)
        credentials options names ↔
      NetworkNames env overlongShift attempts credentials options names := by
  have answers : ∀ response,
      ((discoveryClient credentials).listIndexes overlongShift attempts).result.mapError describe =
          .ok response ↔
        FirstAnswer (discoveryConfig overlongShift credentials) attempts 0 response := by
    intro response
    rw [← authenticatedRequest_ok_iff _ true attempts false]
    exact mapError_eq_ok
  constructor
  · rintro (⟨value, last⟩ | ⟨response, entries, none, answered, listed⟩)
    · exact .given value last
    · obtain ⟨n, budget, before, first⟩ := ((answers response).mp answered).within
      exact .discovered n response entries none budget before first listed
  · rintro (⟨value, last⟩ | ⟨n, response, entries, none, _, before, first, listed⟩)
    · exact .given value last
    · refine .discovered response entries none ((answers response).mpr ?_) listed
      exact ⟨n, Nat.zero_le n, fun m _ earlier => before m earlier, first⟩

/-- For every course the network may take: an attachment is accepted exactly if its path is
`splunk:`, every option is valid, the secret gives credentials and there are names. These are the
last ones given, or else those listed in the first answer of success, which is one of five at the
most, with all requests before it failed for a reason that may pass and no interrupt seen on the
way. -/
theorem native_attachment_iff (path : Bytes) (options : List (Bytes × AttachValue))
    (schema : SplunkSchemaEntry) :
    attachNative env manager describe overlongShift attempts path options = .ok schema ↔
      path = ascii "splunk:" ∧ (∀ option ∈ options, ValidOption option) ∧
      ∃ credentials names,
        getSplunkCredentials manager (secretOption options) = .ok credentials ∧
        NetworkNames env overlongShift attempts credentials options names ∧
        schema = .create names (if secretOption options = [] then credentials.name
          else secretOption options) := by
  unfold attachNative
  rw [attachSplunk_iff]
  simp only [networkNames_iff]

end Attachments

end SplunkLogs
