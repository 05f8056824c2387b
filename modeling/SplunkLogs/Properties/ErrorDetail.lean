import SplunkLogs.Foundation.Utf8
import SplunkLogs.Model.BrowserClient
import SplunkLogs.Properties.Delivery

/-!
# The text of an error response in the exception

Both builds cut the text after a number of bytes. The detail does not depend on how the
response was cut into pieces and keeps its bound; it is valid UTF-8 unless a character lies
across the bound.
-/
namespace SplunkLogs

open Foundation

/-- A detail made from `text` that holds at most `bound` bytes of it. -/
structure BoundedDetail (bound : Nat) (ellipsis text detail : Bytes) : Prop where
  cut : detail = if bound < text.length then text.take bound ++ ellipsis else text
  bounded : detail.length ≤ bound + ellipsis.length
  /-- The text is cut between two characters, or the detail is not valid. -/
  valid : IsUtf8 text → (IsUtf8 detail ↔ ¬Straddles String.utf8EncodeChar bound text)

theorem straddles_lt {bound : Nat} {text : Bytes}
    (across : Straddles String.utf8EncodeChar bound text) : bound < text.length := by
  obtain ⟨before, c, after, rfl, _, ends⟩ := across
  simp only [List.length_append]
  omega

theorem boundedDetail (bound : Nat) (ellipsis : Bytes) (ascii : ∀ b ∈ ellipsis, b < 128)
    (text : Bytes) :
    BoundedDetail bound ellipsis text
      (if bound < text.length then text.take bound ++ ellipsis else text) := by
  constructor
  · rfl
  · split
    · rw [List.length_append, List.length_take]; omega
    · omega
  · intro whole
    split
    · rw [isUtf8_iff]
      apply utf8_prefixCode.isText_take_append_iff (isUtf8_iff.mp whole)
        (isUtf8_iff.mp (IsUtf8.ascii ascii))
      intro b member c
      exact utf8_not_mem_tail (ascii b member) c
    next short => exact iff_of_true whole fun across => short (straddles_lt across)

/-- Without an ellipsis the detail is the beginning of the text. -/
theorem take_eq_cut (bound : Nat) (text : Bytes) :
    text.take bound = if bound < text.length then text.take bound ++ [] else text := by
  split
  · rw [List.append_nil]
  next short => exact List.take_of_length_le (Nat.not_lt.mp short)

section Browser

theorem ellipsis_lt : ∀ b ∈ ascii "...", b < 128 := by
  intro b member
  have dots : ascii "..." = [46, 46, 46] := rfl
  rw [dots] at member
  simp only [List.mem_cons, List.not_mem_nil, or_false, or_self] at member
  subst member
  decide

theorem isSpace_lt {b : UInt8} (space : isSpace b = true) : b < 128 := by
  unfold isSpace at space
  grind

theorem isLineCharacter_lt {b : UInt8} (line : isLineCharacter b = true) : b < 128 := by
  unfold isLineCharacter at line
  grind

/-- Trimming and joining the lines of a valid text leave it valid. -/
theorem errorText_valid {response : HTTPResponse} (valid : IsUtf8 response.message) :
    IsUtf8 (errorText response) := by
  have isolated := utf8_isolated (p := isSpace) fun b => isSpace_lt
  have filled : ∀ c, String.utf8EncodeChar c ≠ [] := utf8_prefixCode.nonempty
  have trimmed : IsText String.utf8EncodeChar (trim response.message) :=
    ((isUtf8_iff.mp valid).dropWhile isolated filled).rdropWhile isolated filled
  apply isUtf8_iff.mpr
  apply trimmed.map
  intro c
  cases utf8EncodeChar_cases c with
  | inl single =>
    obtain ⟨b, small, shape⟩ := single
    apply isUtf8_iff.mp
    apply IsUtf8.ascii
    rw [shape, List.map_singleton, List.forall_mem_singleton]
    split
    · decide
    · exact small
  | inr high =>
    -- No byte of a longer character is replaced.
    have same : ∀ b ∈ String.utf8EncodeChar c, (if isLineCharacter b then 32 else b) = id b := by
      intro b member
      rw [if_neg, id]
      intro line
      exact absurd (isLineCharacter_lt line) (UInt8.not_lt.mpr (high b member))
    rw [List.map_congr_left same, List.map_id]
    exact IsText.word c

theorem browserAuthenticatedRequest_detail {url : Bytes} {indexDiscovery interrupted : Bool}
    {response : HTTPResponse} {status : Nat} {baseUrl detail : Bytes}
    (failed : browserAuthenticatedRequest url indexDiscovery interrupted (some response) =
      .error (.httpStatus status baseUrl detail)) :
    detail = browserHTTPErrorDetail response := by
  simp only [browserAuthenticatedRequest] at failed
  split at failed
  · cases failed
  · split at failed
    · cases failed
    · split at failed
      · cases failed
      · split at failed
        · cases failed; rfl
        · cases failed

end Browser

section Native

variable {σ ε : Type}

/-- The error text kept of a response, however it was cut into pieces. -/
theorem send_errorBody (c : Consumer σ ε) (attempt : Nat) (s : σ) {head : ResponseHead}
    (rejected : head.success = false) (chunks : List Bytes) (failure : Option TransportError) :
    (send c attempt s (.answered head chunks failure)).1.errorBody = chunks.flatten.take 4096 := by
  have received := receiveBody_failure c attempt s false 0 [] chunks (Nat.zero_le _)
  simp only [send, rejected, received, List.nil_append]

/-- `send` hands back the head of a complete response. -/
theorem send_response {c : Consumer σ ε} {attempt : Nat} {s : σ} {exchange : Exchange}
    {r : Receiver σ} {calls : List (Action ε)} {head : ResponseHead}
    (sent : send c attempt s exchange = (r, calls, .ok (.response head))) :
    ∃ chunks, exchange = .answered head chunks none := by
  cases exchange with
  | failed error => cases sent
  | answered head' chunks failure =>
    simp only [send] at sent
    split at sent
    · cases sent
    · cases sent
    · cases failure with
      | some error => cases sent
      | none =>
        cases sent
        exact ⟨chunks, rfl⟩

/-- An HTTP error is thrown for a rejected response only. -/
theorem afterSend_httpStatus {client : NativeClient} {attempt status : Nat} {detail : Bytes}
    {r : Receiver σ} {result : SendResult}
    (thrown : afterSend (ε := ε) client attempt r result = .throw (.httpStatus status detail)) :
    ∃ head, result = .response head ∧ head.success = false ∧ head.status = status ∧
      r.errorBody = detail := by
  cases Decided.of_afterSend thrown with
  | rejected head _ rejected => exact ⟨head, rfl, rejected, rfl, rfl⟩

/-- A run that ends with an HTTP error shows the text of the response to its last request. -/
theorem exportSearch_httpStatus {client : NativeClient} {c : Consumer σ ε}
    {attempts : Nat → Attempt} {attempt : Nat} {connected : Bool} {s : σ} {status : Nat}
    {detail : Bytes} (failed : (exportSearch client c attempts attempt connected s).result =
      .error (.httpStatus status detail)) :
    ∃ n head chunks,
      (requests (exportSearch client c attempts attempt connected s).log).getLast? = some n ∧
      (attempts n).exchange = .answered head chunks none ∧ head.status = status ∧
      detail = chunks.flatten.take 4096 := by
  -- Only the way out through `throw` of a response ends like this.
  fun_induction exportSearch client c attempts attempt connected s with
  | case1 => cases failed
  | case2 => cases failed
  | case3 => cases failed
  | case4 attempt connected s _ r calls log result dropped error thrown sent =>
    cases failed
    obtain ⟨head, rfl, rejected, rfl, rfl⟩ := afterSend_httpStatus thrown
    obtain ⟨chunks, answered⟩ := send_response sent
    have single : requests (round connected attempt calls (dropConnection dropped attempt)) =
        [attempt] := requests_round (closing_drop dropped attempt) (send_spec sent).only_chunks
    refine ⟨attempt, head, chunks, congrArg List.getLast? single, answered, rfl, ?_⟩
    rw [answered] at sent
    rw [← send_errorBody c attempt s rejected chunks none, sent]
  | case5 => cases failed
  | case6 attempt connected s _ r calls log result dropped delay _ log' _ _ sent ih =>
    obtain ⟨n, head, chunks, last, answer⟩ := ih failed
    refine ⟨n, head, chunks, ?_, answer⟩
    rw [ExportRun.after, requests_append, List.getLast?_append, last, Option.some_or]

/-- Without budget the text of a rejected response is thrown. -/
theorem exportSearch_rejected (client : NativeClient) (c : Consumer σ ε)
    (attempts : Nat → Attempt) (attempt : Nat) (connected : Bool) (s : σ) {head : ResponseHead}
    {chunks : List Bytes} (quiet : (attempts attempt).interrupted = false)
    (answered : (attempts attempt).exchange = .answered head chunks none)
    (rejected : head.success = false) (exhausted : client.retries ≤ attempt) :
    (exportSearch client c attempts attempt connected s).result =
      .error (.httpStatus head.status (chunks.flatten.take 4096)) := by
  let r : Receiver σ := ⟨s, false, false, 0, chunks.flatten.take 4096⟩
  have received := receiveBody_failure c attempt s false 0 [] chunks (Nat.zero_le _)
  have sent : send c attempt s (attempts attempt).exchange = (r, [], .ok (.response head)) := by
    simp only [answered, send, rejected, received, List.nil_append]
    rfl
  have thrown : afterSend (ε := ε) client attempt r (.response head) =
      .throw (.httpStatus head.status (chunks.flatten.take 4096)) := by
    have spent : ¬attempt < client.retries := by omega
    have outside : head.status < 200 ∨ 300 ≤ head.status := by
      simp only [ResponseHead.success, Bool.and_eq_false_iff, decide_eq_false_iff_not] at rejected
      omega
    simp [afterSend, r, spent, outside]
  simp only [exportSearch_round quiet sent, thrown]

/-- For every response: the detail in the exception is the text of the last response cut at the
bound, the same for all ways of cutting the response into pieces, and within the bound; it is
valid UTF-8 if and only if no character of the valid text lies across the bound. -/
theorem errorDetail_bounded (client : NativeClient) (c : Consumer σ ε) :
    (∀ (attempts : Nat → Attempt) (attempt : Nat) (connected : Bool) (s : σ) (status : Nat)
        (detail : Bytes),
      (exportSearch client c attempts attempt connected s).result =
          .error (.httpStatus status detail) →
        ∃ n head chunks,
          (requests (exportSearch client c attempts attempt connected s).log).getLast? = some n ∧
          (attempts n).exchange = .answered head chunks none ∧ head.status = status ∧
          BoundedDetail 4096 [] chunks.flatten detail) ∧
    (∀ (attempt : Nat) (s : σ) (head : ResponseHead) (chunks others : List Bytes)
        (failure : Option TransportError),
      head.success = false → chunks.flatten = others.flatten →
        (send c attempt s (.answered head chunks failure)).1.errorBody =
          (send c attempt s (.answered head others failure)).1.errorBody) ∧
    (∀ (url : Bytes) (indexDiscovery interrupted : Bool) (response : HTTPResponse)
        (status : Nat) (baseUrl detail : Bytes),
      browserAuthenticatedRequest url indexDiscovery interrupted (some response) =
          .error (.httpStatus status baseUrl detail) →
        BoundedDetail 500 (ascii "...") (errorText response) detail ∧
          (IsUtf8 response.message → IsUtf8 (errorText response))) := by
  refine ⟨?_, ?_, ?_⟩
  · intro attempts attempt connected s status detail failed
    obtain ⟨n, head, chunks, last, answered, same, rfl⟩ := exportSearch_httpStatus failed
    refine ⟨n, head, chunks, last, answered, same, ?_⟩
    have bounded := boundedDetail 4096 [] (by simp) chunks.flatten
    rwa [take_eq_cut]
  · intro attempt s head chunks others failure rejected same
    rw [send_errorBody c attempt s rejected, send_errorBody c attempt s rejected, same]
  · intro url indexDiscovery interrupted response status baseUrl detail failed
    obtain rfl := browserAuthenticatedRequest_detail failed
    constructor
    · exact boundedDetail 500 _ ellipsis_lt (errorText response)
    · exact errorText_valid

end Native

section Example

/-- Letters, and a character of two bytes at the end. -/
def accented (letters : Nat) : Bytes := List.replicate letters 97 ++ String.utf8EncodeChar 'é'

theorem letters_eq (letters : Nat) :
    List.replicate letters 97 = (List.replicate letters 'a').flatMap String.utf8EncodeChar := by
  induction letters with
  | zero => rfl
  | succ letters ih => rw [List.replicate_succ, List.replicate_succ, List.flatMap_cons, ← ih]; rfl

theorem accented_valid (letters : Nat) : IsUtf8 (accented letters) := by
  rw [isUtf8_iff, accented, letters_eq]
  exact IsText.append ⟨_, rfl⟩ (IsText.word 'é')

/-- The last character lies across a bound in its middle. -/
theorem accented_straddles (letters : Nat) :
    Straddles String.utf8EncodeChar (letters + 1) (accented letters) := by
  refine ⟨List.replicate letters 'a', 'é', [], ?_, ?_, ?_⟩
  · rw [← letters_eq, List.flatMap_nil, List.append_nil, accented]
  · rw [← letters_eq, List.length_replicate]; omega
  · have two : (String.utf8EncodeChar 'é').length = 2 := by decide
    rw [← letters_eq, List.length_replicate, two]; omega

theorem errorText_accented (letters : Nat) (status : Nat) (error : Bytes) :
    errorText ⟨false, status, accented (letters + 1), error⟩ = accented (letters + 1) := by
  have bytes : accented (letters + 1) = 97 :: (List.replicate letters 97 ++ [195] ++ [169]) := by
    have last : String.utf8EncodeChar 'é' = [195] ++ [169] := by decide
    rw [accented, last, List.replicate_succ, List.cons_append, ← List.append_assoc]
  have kept : ∀ b ∈ accented (letters + 1), (if isLineCharacter b then 32 else b) = id b := by
    intro b member
    simp only [bytes, List.mem_append, List.mem_cons, List.mem_replicate, List.not_mem_nil,
      or_false] at member
    rcases member with rfl | (⟨_, rfl⟩ | rfl) | rfl <;> rfl
  have trimmed : trim (HTTPResponse.message ⟨false, status, accented (letters + 1), error⟩) =
      accented (letters + 1) := by
    rw [bytes]
    exact trim_of_ends (by decide) (by decide)
  rw [errorText, trimmed, List.map_congr_left kept, List.map_id]

/-- A body of 4097 bytes in the native path and one of 501 bytes in the browser path: both
details end in the first byte of a character. -/
theorem errorDetail_cuts_character :
    IsUtf8 (accented 4095) ∧
    (exportSearch ⟨[], 0, fun _ => 0⟩ (⟨fun s _ => (s, .more)⟩ : Consumer Unit Empty)
      (fun _ => ⟨false, .answered ⟨400, none⟩ [accented 4095] none, false⟩) 0 false ()).result =
        .error (.httpStatus 400 ((accented 4095).take 4096)) ∧
    ¬IsUtf8 ((accented 4095).take 4096) ∧
    IsUtf8 (accented 499) ∧
    ¬IsUtf8 (browserHTTPErrorDetail ⟨false, 400, accented 499, []⟩) := by
  refine ⟨accented_valid _, ?_, ?_, accented_valid _, ?_⟩
  · have thrown := exportSearch_rejected ⟨[], 0, fun _ => 0⟩
      (⟨fun s _ => (s, .more)⟩ : Consumer Unit Empty)
      (fun _ => ⟨false, .answered ⟨400, none⟩ [accented 4095] none, false⟩) 0 false () rfl rfl rfl
      (Nat.le_refl _)
    rwa [List.flatten_singleton] at thrown
  · have cut := boundedDetail 4096 [] (by simp) (accented 4095)
    rw [← take_eq_cut] at cut
    rw [cut.valid (accented_valid _), not_not]
    exact accented_straddles 4095
  · rw [browserHTTPErrorDetail, errorText_accented 498,
      (boundedDetail 500 _ ellipsis_lt _).valid (accented_valid _), not_not]
    exact accented_straddles 499

end Example

end SplunkLogs
