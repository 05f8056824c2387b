import SplunkLogs.Properties.Requests

/-!
# Exceptions tell the truth

Whatever the interleaving, an exception that leaves a scan call says what has happened: the
query was interrupted, the response has that search error, the server answered with that
status, or the transport failed for good.
-/
namespace SplunkLogs

variable {sys : Setup} {p q : Producer}

/-- What an exception says about the current attempt and the interrupt flag. -/
def Producer.Explains (sys : Setup) (p : Producer) (interrupted : Bool) :
    ClientError SearchError → Prop
  | .interrupt => interrupted = true
  | .consumer found => (sys.server p.attempt).1.success = true ∧
      (reference sys.input (sys.server p.attempt).2).error = some found
  | .httpStatus status detail => (sys.server p.attempt).1.status = status ∧
      (sys.server p.attempt).1.success = false ∧
      detail = (sys.server p.attempt).2.take 4096 ∧
      (status = 429 ∨ 500 ≤ status → p.attempt = sys.client.retries)
  | .exportFailed url received error => url = normalizeUrl sys.client.url ∧
      (0 < received ∨ p.attempt = sys.client.retries ∨ isRetryableTransportError error = false)
  | .requestFailed _ _ => False
  | .discoveryDenied _ => False

/-- What the producer's variables keep for its exceptions. -/
structure Producer.Reports (sys : Setup) (p : Producer) : Prop where
  givenUp : p.dropped = true → p.reader.limitReached = true
  refused : ∀ result, p.pc = .sent result → p.dropped = true →
    p.receiver.stoppedByConsumer = true
  rejected : p.pc = .receiving → p.receiver.successStatus = false → ∃ front,
    (sys.server p.attempt).2 = front ++ p.remaining ∧ p.receiver.errorBody = front.take 4096
  detail : ∀ head, p.pc = .sent (.response head) → head.success = false →
    p.receiver.errorBody = (sys.server p.attempt).2.take 4096

/-- The first bytes of the content are kept, whatever its pieces. -/
theorem Receiver.keepError_take {σ : Type} {r : Receiver σ} {text : Bytes} (data : Bytes)
    (kept : r.errorBody = text.take 4096) :
    (r.keepError data).errorBody = (text ++ data).take 4096 := by
  have length := congrArg List.length kept
  rw [List.length_take] at length
  by_cases room : r.errorBody.length < 4096
  · -- Nothing has been left out so far.
    have all : text.take 4096 = text := List.take_of_length_le (by omega)
    rw [all] at kept
    rw [Receiver.keepError, if_pos room, List.take_append, all, kept]
  · rw [Receiver.keepError, if_neg room, kept, List.take_append_of_le_length (by omega)]

/-- Where the network is waited for, no row has been given up. -/
theorem Producer.Reports.kept (known : p.Reports sys) (inv : p.Inv sys)
    (at_ : p.pc = .receiving) : p.dropped = false := by
  obtain ⟨whole, _, _, reading⟩ := inv.reads
  simp only [Reading, at_] at reading
  by_contra dropped
  have limit := known.givenUp (Bool.eq_true_of_not_eq_false dropped)
  cases status : p.receiver.successStatus with
  | false => simp [reading.2.2.2.1 status] at limit
  | true => simp [(reading.2.2.2.2 status).1] at limit

theorem LocalStep.reports (step : LocalStep sys p q) (inv : p.Inv sys)
    (known : p.Reports sys) : q.Reports sys := by
  obtain ⟨whole, _, _, reading⟩ := inv.reads
  obtain ⟨givenUp, refused, rejected, detail⟩ := id known
  cases step with
  | refused error at_ =>
    simp only [Reading, at_] at reading
    exact ⟨givenUp, fun _ _ dropped => by simpa [reading.1] using givenUp dropped, by simp, by simp⟩
  | head at_ =>
    simp only [Reading, at_] at reading
    exact ⟨givenUp, by simp, fun _ _ => ⟨[], by simp [reading.2]⟩, by simp⟩
  | errorContent data rest at_ failure split =>
    obtain ⟨front, body, kept⟩ := rejected at_ failure
    refine ⟨givenUp, by simp [at_], fun _ _ => ⟨front ++ data, ?_, ?_⟩, by simp [at_]⟩
    · rw [body, split, List.append_assoc]
    · exact Receiver.keepError_take data kept
  | complete at_ all =>
    have kept := known.kept inv at_
    simp only [Reading, at_] at reading
    refine ⟨givenUp, by simp [kept], by simp, ?_⟩
    rintro _ ⟨⟩ failure
    obtain ⟨front, body, kept⟩ := rejected at_ (reading.2.1.trans failure)
    simpa [body, all] using kept
  | broken error at_ =>
    have kept := known.kept inv at_
    exact ⟨givenUp, by simp [kept], by simp, by simp⟩
  | chunkRefused start at_ limit => exact ⟨givenUp, fun _ _ _ => rfl, by simp, by simp⟩
  | capReached => exact ⟨fun _ => rfl, by simp, by simp, by simp⟩
  | chunkTaken start at_ =>
    simp only [Reading, at_] at reading
    exact ⟨givenUp, by simp, by simp [reading.1.1], by simp⟩
  | _ => exact ⟨givenUp, by simp, by simp, by simp⟩

/-- The exceptions of the parser. -/
theorem LocalStep.failed {error : ClientError SearchError} (step : LocalStep sys p q)
    (inv : p.Inv sys) (known : p.Reports sys) (interrupted : Bool)
    (failed : q.pc = .failed error) : q.Explains sys interrupted error := by
  obtain ⟨whole, _, complete, reading⟩ := inv.reads
  -- A parser that still reads lines has given up no row.
  have unstopped (running : p.reader.limitReached = false) : whole = expected sys p := by
    refine complete (Bool.eq_false_iff.mpr fun dropped => ?_)
    simp [known.givenUp dropped] at running
  cases step with
  | lineError start stop found at_ running next parsed =>
    obtain rfl := ProducerPc.failed.inj failed
    simp only [Reading, at_] at reading
    have ended := settle_lineError running next parsed reading.2.2
    refine ⟨reading.1.2.1, ?_⟩
    exact congrArg Outcome.error ((unstopped running).symm.trans ended)
  | tailError found at_ running some_ parsed =>
    obtain rfl := ProducerPc.failed.inj failed
    simp only [Reading, at_] at reading
    obtain ⟨incomplete, accounted⟩ := reading.2.2 running
    have ended := settle_tailError running incomplete parsed accounted
    refine ⟨reading.1, ?_⟩
    exact congrArg Outcome.error ((unstopped running).symm.trans ended)
  | _ => simp_all

/-- The exceptions of the client. -/
theorem Producer.Reports.threw {error : ClientError SearchError} {result : SendResult}
    (known : p.Reports sys) (inv : p.Inv sys) (budget : p.attempt ≤ sys.client.retries)
    (at_ : p.pc = .sent result) (interrupted : Bool)
    (decided : afterSend sys.client p.attempt p.receiver result = .throw error) :
    p.Explains sys interrupted error := by
  obtain ⟨whole, _, _, reading⟩ := inv.reads
  simp only [Reading, at_] at reading
  cases Decided.of_afterSend decided with
  | failed found running final =>
    refine ⟨rfl, ?_⟩
    rcases final with some_ | spent | fatal
    · exact Or.inl some_
    · exact Or.inr (Or.inl (by omega))
    · exact Or.inr (Or.inr fatal)
  | rejected head running refused final =>
    obtain ⟨same, _, _⟩ := reading.2 running
    subst same
    refine ⟨rfl, refused, known.detail _ at_ refused, fun transient => ?_⟩
    have := final transient
    omega

/-- The exceptions on their way from the producer to the caller of the scan. -/
structure State.Errors (sys : Setup) (s : State) : Prop where
  reports : s.producer.Reports sys
  failed : ∀ error, s.producer.pc = .failed error →
    s.producer.Explains sys s.interrupted error
  thrown : ∀ error, s.producer.thrown = some error →
    s.producer.Explains sys s.interrupted error
  error : ∀ error, s.error = some error → s.producer.thrown = some error
  interrupting : s.main = .interruptNotify ∨ s.main = .interruptCancel → s.interrupted = true
  threw : ∀ error, s.main = .threw error →
    s.error = some error ∨ error = .interrupt ∧ s.interrupted = true

/-- An explanation stays true when the flag is set. -/
theorem Producer.Explains.interrupt {interrupted : Bool} {error : ClientError SearchError}
    (explains : p.Explains sys interrupted error) : p.Explains sys true error := by
  cases error with
  | interrupt => rfl
  | _ => exact explains

/-- A move that leaves the attempt and what has been thrown alone. -/
theorem State.Errors.keep {s t : State} (known : s.Errors sys)
    (reports : t.producer.Reports sys)
    (failed : ∀ error, t.producer.pc = .failed error →
      t.producer.Explains sys t.interrupted error)
    (attempt : t.producer.attempt = s.producer.attempt ∨ s.producer.thrown = none)
    (thrown : t.producer.thrown = s.producer.thrown) (flag : t.interrupted = s.interrupted)
    (error : t.error = s.error) (main : t.main = s.main) : t.Errors sys := by
  refine ⟨reports, failed, ?_, ?_, ?_, ?_⟩
  · intro found same
    rw [thrown] at same
    have explains := known.thrown found same
    rcases attempt with attempt | nothing
    · rw [flag]
      unfold Producer.Explains at explains ⊢
      rwa [attempt]
    · simp [nothing] at same
  · rw [error, thrown]
    exact known.error
  · rw [main, flag]
    exact known.interrupting
  · rw [main, error, flag]
    exact known.threw

/-- A move to a place where nothing is kept for a report. -/
theorem Producer.Reports.elsewhere (givenUp : q.dropped = true → q.reader.limitReached = true)
    (unsent : ∀ result, q.pc ≠ .sent result) (unreceived : q.pc ≠ .receiving) :
    q.Reports sys :=
  ⟨givenUp, fun result at_ => absurd at_ (unsent result), fun at_ => absurd at_ unreceived,
    fun _ at_ => absurd at_ (unsent _)⟩

theorem ProducerStep.errors {s t : State} (step : ProducerStep sys s t)
    (inv : s.producer.Inv sys) (counted : s.Counted sys) (known : s.Errors sys) :
    t.Errors sys := by
  have reports := known.reports
  cases step with
  | own p moved =>
    have unthrown := inv.unthrown moved.history.1
    exact known.keep (moved.reports inv reports) (fun error at_ => moved.failed inv reports _ at_)
      (Or.inr unthrown) moved.history.2.2.1 rfl rfl rfl
  | interruptSeen _ seen | backoffInterrupted _ _ seen =>
    refine known.keep (.elsewhere reports.givenUp (by simp [State.goto]) (by simp [State.goto])) ?_
      (Or.inl rfl) rfl rfl rfl rfl
    rintro _ ⟨⟩
    exact seen
  | threw result error at_ decided =>
    refine known.keep (.elsewhere reports.givenUp (by simp [State.goto]) (by simp [State.goto])) ?_
      (Or.inl rfl) rfl rfl rfl rfl
    rintro _ ⟨⟩
    exact reports.threw inv counted.budget at_ _ decided
  | drop =>
    exact known.keep (.elsewhere (fun _ => rfl) (by simp) (by simp)) (by simp) (Or.inl rfl) rfl rfl
      rfl rfl
  | caught error at_ =>
    -- The first exception: none has been kept or rethrown before.
    have unthrown := inv.unthrown (by rw [at_]; rfl)
    have clean : s.error = none := by
      by_contra some_
      obtain ⟨found, same⟩ := Option.ne_none_iff_exists'.mp some_
      simp [known.error found same] at unthrown
    refine ⟨.elsewhere reports.givenUp (by simp) (by simp), by simp, ?_, ?_, known.interrupting, ?_⟩
    · rintro _ ⟨⟩
      exact known.failed error at_
    · dsimp only
      split <;> simp [clean]
    · intro found threw
      exact Or.inr ((known.threw found threw).resolve_left (by simp [clean]))
  | sleepForSpace | wakeForSpace =>
    exact known.keep reports known.failed (Or.inl rfl) rfl rfl rfl rfl
  | _ =>
    exact known.keep (.elsewhere reports.givenUp (by simp [State.goto]) (by simp [State.goto]))
      (by simp [State.goto]) (Or.inl rfl) rfl rfl rfl rfl

theorem MainStep.errors {s t : State} (step : MainStep sys s t) (known : s.Errors sys) :
    t.Errors sys := by
  obtain ⟨reports, failed, thrown, error, interrupting, threw⟩ := known
  cases step with
  | beginFirstScan =>
    exact ⟨.elsewhere reports.givenUp (by simp [State.goto]) (by simp [State.goto]),
      by simp [State.goto], thrown, error, by simp, by simp⟩
  | interruptSeen _ _ _ _ _ seen =>
    exact ⟨reports, failed, thrown, error, fun _ => seen, by simp⟩
  | sleepForRows | wakeForRows =>
    exact ⟨reports, failed, thrown, error, interrupting, threw⟩
  | rethrow found _ _ same =>
    refine ⟨reports, failed, thrown, error, by simp, ?_⟩
    rintro _ ⟨⟩
    exact Or.inl same
  | interruptNotify at_ =>
    exact ⟨reports, failed, thrown, error, fun _ => interrupting (Or.inl at_), by simp⟩
  | interruptCancel at_ =>
    refine ⟨reports, failed, thrown, error, by simp, ?_⟩
    rintro _ ⟨⟩
    exact Or.inr ⟨rfl, interrupting (Or.inr at_)⟩
  | _ => exact ⟨reports, failed, thrown, error, by simp, by simp⟩

theorem native_errors (s : State) (reachable : (native sys).Reachable s) : s.Errors sys := by
  refine (native sys).invariant (fun s => s.ProducerInv sys ∧ s.Counted sys)
    (fun s known => ⟨native_producerInv sys s known, native_counted s known⟩) ?_ ?_ s reachable
  · rintro _ rfl
    exact ⟨.elsewhere (by simp) (by simp) (by simp), by simp, by simp, by simp, by simp, by simp⟩
  · rintro s t ⟨producer, counted⟩ known next
    cases next with
    | interrupt =>
      exact ⟨known.reports, fun found at_ => (known.failed found at_).interrupt,
        fun found same => (known.thrown found same).interrupt, known.error, fun _ => rfl,
        fun found same => (known.threw found same).imp_right fun ⟨same, _⟩ => ⟨same, rfl⟩⟩
    | producer t step => exact step.errors producer.inv counted known
    | main t step => exact step.errors known

end SplunkLogs
