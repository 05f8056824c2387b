import SplunkLogs.Properties.Requests

/-!
# How long a connection lives

`GetConnection` hands out a reference to the cached connection and releases its mutex; the
request then runs on that reference, while `Cancel` may come at any moment. The connection is
there until the request on it has returned, and is dropped by the producer itself or never.
-/
namespace SplunkLogs

open Foundation (TransitionSystem)

variable {sys : Setup}

/-- From `GetConnection` to the return of `send`. Inside `parse_line` that is so for a line the
content receiver has found, not for the last one behind `ExportSearch`. -/
@[simp] def ProducerPc.OnConnection : ProducerPc → Prop
  | .ready => True
  | .awaiting => True
  | .receiving => True
  | .lines _ => True
  | .events _ resume => resume.isSome = true
  | .wait _ _ resume => resume.isSome = true
  | .notifyRows _ resume => resume.isSome = true
  | .sent _ => True
  | _ => False

/-- The connection a request runs on is the cached one; the number of the next one is given to
no connection that is cached or has been stopped. -/
structure State.Backed (s : State) : Prop where
  held : s.producer.pc.OnConnection → ∃ k, s.held = some k ∧ s.connection = some k
  cached : ∀ k, s.connection = some k → k < s.creations
  stopped : ∀ k ∈ s.stopped, k < s.creations

/-- The network, the parser and the loop of `on_chunk` begin no request. -/
theorem LocalStep.onConnection {p q : Producer} (step : LocalStep sys p q)
    (on : q.pc.OnConnection) : p.pc.OnConnection := by
  cases step <;> simp_all

theorem ProducerStep.backed {s t : State} (step : ProducerStep sys s t) (known : s.Backed) :
    t.Backed := by
  obtain ⟨held, cached, stopped⟩ := known
  cases step with
  | own p moved => exact ⟨fun on => held (moved.onConnection on), cached, stopped⟩
  | getConnection =>
    refine ⟨fun _ => ⟨_, rfl, rfl⟩, ?_, ?_⟩
    · rintro k ⟨⟩
      cases before : s.connection with
      | none => simp
      | some k => simpa using cached k before
    · intro k member
      have old := stopped k member
      dsimp only
      split
      · exact old
      · omega
  | beginSend at_ => exact ⟨fun _ => held (by simp [at_]), cached, stopped⟩
  | push row rest resume at_ => exact ⟨fun on => held (by simpa [at_] using on), cached, stopped⟩
  | drop row rest resume at_ => exact ⟨fun on => held (by simpa [at_] using on), cached, stopped⟩
  | notifyRow rest resume _ at_ =>
    exact ⟨fun on => held (by simpa [at_, State.goto] using on), cached, stopped⟩
  | sleepForSpace | wakeForSpace => exact ⟨held, cached, stopped⟩
  | returned | threw | retried =>
    refine ⟨fun on => absurd on (by simp [State.goto]), fun k there => cached k ?_, stopped⟩
    dsimp only at there
    split at there
    · cases there
    · exact there
  | _ => exact ⟨fun on => absurd on (by simp [State.goto]), cached, stopped⟩

theorem MainStep.backed {s t : State} (step : MainStep sys s t) (known : s.Backed) :
    t.Backed := by
  obtain ⟨held, cached, stopped⟩ := known
  cases step with
  | beginFirstScan => exact ⟨fun on => absurd on (by simp [State.goto]), cached, stopped⟩
  | interruptCancel | destroyCancel =>
    refine ⟨held, cached, fun k member => ?_⟩
    rcases List.mem_append.mp member with before | now
    · exact stopped k before
    · exact cached k (Option.mem_toList.mp now)
  | _ => exact ⟨held, cached, stopped⟩

theorem native_backed (s : State) (reachable : (native sys).Reachable s) : s.Backed := by
  refine (native sys).invariant (fun _ => True) (fun _ _ => trivial) ?_ ?_ s reachable
  · rintro _ rfl
    exact ⟨False.elim, by simp, by simp⟩
  · intro s t _ known next
    cases next with
    | interrupt => exact ⟨known.held, known.cached, known.stopped⟩
    | producer t step => exact step.backed known
    | main t step => exact step.backed known

/-- The way a cached connection is dropped: by the loop itself, behind a request that has failed
on its own. -/
def State.Drops (s : State) : Prop :=
  ∃ error, s.producer.pc = .sent (.failed error) ∧ s.producer.receiver.stoppedByConsumer = false

theorem drops_of_dropsConnection {s : State} {result : SendResult}
    (at_ : s.producer.pc = .sent result)
    (dropped : dropsConnection s.producer.receiver result = true) : s.Drops := by
  cases result with
  | failed error => exact ⟨error, at_, by simpa [dropsConnection] using dropped⟩
  | response head => cases dropped

/-- A call of `Cancel`, on the interrupt path or in the destructor. -/
def Cancels (s t : State) : Prop :=
  (s.main = .interruptCancel ∨ s.main = .destroyCancel) ∧ t.main ≠ s.main

/-- What one step does to the cached connection, and to others. -/
structure Keeps (s t : State) : Prop where
  dropped : ∀ k, s.connection = some k → t.connection = some k ∨ t.connection = none ∧ s.Drops
  cached : ∀ k, t.connection = some k → s.connection = some k ∨
    s.connection = none ∧ s.producer.pc = .connect ∧ k = s.creations ∧
      t.creations = s.creations + 1
  created : t.creations = s.creations ∨
    t.creations = s.creations + 1 ∧ s.connection = none ∧ t.connection = some s.creations
  cancelled : Cancels s t → t.stopped = s.stopped ++ s.connection.toList
  uncancelled : ¬Cancels s t → t.stopped = s.stopped

theorem Keeps.same {s t : State} (connection : t.connection = s.connection)
    (creations : t.creations = s.creations) (main : ¬Cancels s t)
    (stopped : t.stopped = s.stopped) : Keeps s t :=
  ⟨fun _ cached => .inl (connection.trans cached), fun _ cached => .inl (connection ▸ cached),
    .inl creations, fun cancels => absurd cancels main, fun _ => stopped⟩

theorem Keeps.ofResult {s t : State} {result : SendResult} (at_ : s.producer.pc = .sent result)
    (connection : t.connection =
      if dropsConnection s.producer.receiver result then none else s.connection)
    (creations : t.creations = s.creations) (main : ¬Cancels s t)
    (stopped : t.stopped = s.stopped) : Keeps s t := by
  refine ⟨fun k cached => ?_, fun k cached => .inl ?_, .inl creations,
    fun cancels => absurd cancels main, fun _ => stopped⟩
  · rw [connection]
    split
    next dropped => exact .inr ⟨rfl, drops_of_dropsConnection at_ dropped⟩
    · exact .inl cached
  · rw [connection] at cached
    split at cached
    · cases cached
    · exact cached

theorem ProducerStep.keeps {s t : State} (step : ProducerStep sys s t) : Keeps s t := by
  have main : t.main = s.main := by cases step <;> rfl
  have elsewhere : ¬Cancels s t := fun cancels => cancels.2 main
  cases step with
  | getConnection at_ =>
    cases before : s.connection with
    | none =>
      refine ⟨by simp [before], ?_, .inr ?_, fun cancels => absurd cancels elsewhere, fun _ => rfl⟩
      · rintro k ⟨⟩
        exact .inr ⟨before, at_, by simp, by simp⟩
      · simp [before]
    | some k =>
      exact ⟨by simp [before], by simp [before], .inl (by simp),
        fun cancels => absurd cancels elsewhere, fun _ => rfl⟩
  | returned _ at_ | threw _ _ at_ | retried _ _ at_ => exact .ofResult at_ rfl rfl elsewhere rfl
  | _ => exact .same rfl rfl elsewhere rfl

theorem MainStep.keeps {s t : State} (step : MainStep sys s t) : Keeps s t := by
  cases step with
  | interruptCancel at_ | destroyCancel at_ =>
    refine ⟨fun _ => .inl, fun _ => .inl, .inl rfl, fun _ => rfl, fun elsewhere => ?_⟩
    exact absurd ⟨by simp [at_], by simp [at_]⟩ elsewhere
  | destroy before =>
    have elsewhere : s.main ≠ .interruptCancel ∧ s.main ≠ .destroyCancel := by
      rcases before with ⟨_, at_⟩ | ⟨_, at_⟩ <;> simp [at_]
    exact .same rfl rfl (fun cancels => cancels.1.elim elsewhere.1 elsewhere.2) rfl
  | _ => exact .same rfl rfl (by simp_all [Cancels]) rfl

theorem Step.keeps {s t : State} (step : Step sys s t) : Keeps s t := by
  cases step with
  | interrupt => exact .same rfl rfl (fun cancels => cancels.2 rfl) rfl
  | producer t step => exact step.keeps
  | main t step => exact step.keeps

/-- In every reachable state and whatever step follows: a request that is being made runs on the
cached connection. Only the producer drops it, once its request has failed and was not stopped by
the scan; a new one is created exactly where none is cached, and no `Cancel` has stopped it
before. `Cancel` stops the cached connection and no other, so where a request is being made it is
the one this request runs on. -/
theorem native_connection_kept (s t : State) (reachable : (native sys).Reachable s)
    (step : (native sys).step s t) :
    s.Backed ∧ Keeps s t ∧ (s.producer.pc.OnConnection → Cancels s t →
      ∃ k, s.held = some k ∧ t.stopped = s.stopped ++ [k]) := by
  have backed := native_backed s reachable
  have keeps := Step.keeps step
  refine ⟨backed, keeps, fun on cancels => ?_⟩
  obtain ⟨k, held, cached⟩ := backed.held on
  exact ⟨k, held, by rw [keeps.cancelled cancels, cached, Option.toList_some]⟩

/-- The query is interrupted while a row is built out of a response that is being received. -/
theorem native_connection_kept_one_row :
    ∃ s t, (native oneRecordSetup).Reachable s ∧ (native oneRecordSetup).step s t ∧
      s.producer.pc.OnConnection ∧ s.held = some 0 ∧ t.stopped = [0] := by
  have interrupted := oneRowBuilt_reachable.step .interrupt
  have awake := interrupted.step (.main _ (.wakeForRows (by decide)))
  have seen := awake.step (.main _ (.interruptSeen rfl (by decide) rfl rfl rfl rfl))
  have notified := seen.step (.main _ (.interruptNotify rfl))
  obtain ⟨_, _, own⟩ := native_connection_kept _ _ notified (.main _ (.interruptCancel rfl))
  obtain ⟨k, held, stopped⟩ := own rfl ⟨.inl rfl, nofun⟩
  obtain rfl := Option.some.inj held
  exact ⟨_, _, notified, .main _ (.interruptCancel rfl), rfl, held, stopped⟩

end SplunkLogs
