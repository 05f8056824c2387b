import SplunkLogs.Properties.Handover

/-!
# No lost wake-up and no deadlock

A thread asleep on a condition variable either has nothing to wake up for, or the
notification is still ahead of the thread that gave it a reason.
-/
namespace SplunkLogs

open Foundation

/-- A notification of `space_available` is the next thing this thread does. -/
def MainPc.NotifiesSpace : MainPc → Prop
  | .drained _ => True
  | .interruptNotify => True
  | .destroyNotify => True
  | _ => False

/-- The scan's interrupt path and the destructor, from where they have set `cancelled`. -/
def MainPc.Ending : MainPc → Prop
  | .interruptNotify => True
  | .interruptCancel => True
  | .destroyNotify => True
  | .destroyCancel => True
  | .joining => True
  | .gone => True
  | _ => False

/-- A notification of `rows_available` is ahead of this thread, without a wait in between. -/
def ProducerPc.NotifiesRows : ProducerPc → Prop
  | .notifyRows _ _ => True
  | .finishing => True
  | .notifyFinished => True
  | _ => False

def ProducerPc.Waits : ProducerPc → Prop
  | .wait _ _ _ => True
  | _ => False

theorem ProducerPc.Waits.not_notifies {pc : ProducerPc} (waits : pc.Waits) :
    ¬pc.NotifiesRows := by
  cases pc <;> simp_all [ProducerPc.Waits, ProducerPc.NotifiesRows]

/-- Who sleeps where, and what is still to wake them. -/
structure State.Wakeups (sys : Setup) (s : State) : Prop where
  spaceParty : ∀ party ∈ s.spaceAvailable, party = .producer
  rowsParty : ∀ party ∈ s.rowsAvailable, party = .scan
  producerWaits : .producer ∈ s.spaceAvailable → s.producer.pc.Waits
  scanWaits : .scan ∈ s.rowsAvailable → s.main = .scanning
  ending : s.main.Ending → s.cancelled = true
  space : .producer ∈ s.spaceAvailable →
    s.buffer.length < sys.capacity ∨ s.cancelled = true → s.main.NotifiesSpace
  rows : .scan ∈ s.rowsAvailable →
    s.buffer ≠ [] ∨ s.finished = true ∨ s.error ≠ none → s.producer.pc.NotifiesRows

theorem LocalStep.neither {sys : Setup} {p q : Producer} (step : LocalStep sys p q) :
    ¬p.pc.Waits ∧ ¬p.pc.NotifiesRows := by
  cases step <;> simp_all [ProducerPc.Waits, ProducerPc.NotifiesRows]

theorem ProducerStep.wakeups {sys : Setup} {s t : State} (step : ProducerStep sys s t)
    (known : s.Wakeups sys) : t.Wakeups sys := by
  obtain ⟨spaceParty, rowsParty, producerWaits, scanWaits, ending, space, rows⟩ := known
  cases step with
  | own p moved =>
    obtain ⟨notWaiting, notNotifying⟩ := moved.neither
    exact ⟨spaceParty, rowsParty, fun asleep => absurd (producerWaits asleep) notWaiting,
      scanWaits, ending, space, fun asleep some_ => absurd (rows asleep some_) notNotifying⟩
  | sleepForSpace row rest resume at_ awake open_ calm full =>
    -- It falls asleep on a full buffer, with nothing cancelled.
    refine ⟨by simpa using spaceParty, rowsParty, fun _ => ?_, scanWaits, ending, ?_, rows⟩
    · simp [at_, ProducerPc.Waits]
    · rintro _ (room | cancelled)
      · exact absurd room (Nat.not_lt.mpr full)
      · exact absurd cancelled (by simp [open_])
  | wakeForSpace =>
    exact ⟨fun party member => spaceParty party (Finset.mem_of_mem_erase member), rowsParty,
      by simp, scanWaits, ending, by simp, rows⟩
  | push row rest resume at_ awake open_ calm room =>
    -- The notification of the row is the producer's next step.
    exact ⟨spaceParty, rowsParty, fun asleep => absurd asleep awake, scanWaits, ending,
      fun asleep => absurd asleep awake, fun _ _ => trivial⟩
  | drop row rest resume at_ awake stop =>
    refine ⟨spaceParty, rowsParty, fun asleep => absurd asleep awake, scanWaits, ending,
      fun asleep => absurd asleep awake, fun asleep some_ => ?_⟩
    have notifying := rows asleep some_
    simp [at_, ProducerPc.NotifiesRows] at notifying
  | notifyRow rest resume sleepers at_ notified =>
    -- Only the scan sleeps for rows, so it is the one that wakes.
    have nobody := notified.wakes_only rowsParty
    refine ⟨spaceParty, fun party member => rowsParty party (notified.subset member),
      fun asleep => ?_, fun asleep => absurd asleep nobody, ending, space,
      fun asleep => absurd asleep nobody⟩
    have waiting := producerWaits asleep
    simp [at_, ProducerPc.Waits] at waiting
  | caught error at_ =>
    have busy : ¬s.producer.pc.Waits := by simp [at_, ProducerPc.Waits]
    exact ⟨spaceParty, rowsParty, fun asleep => absurd (producerWaits asleep) busy, scanWaits,
      ending, space, fun _ _ => trivial⟩
  | finish at_ =>
    -- `notify_all` is still ahead.
    have busy : ¬s.producer.pc.Waits := by simp [at_, ProducerPc.Waits]
    exact ⟨spaceParty, rowsParty, fun asleep => absurd (producerWaits asleep) busy, scanWaits,
      ending, space, fun _ _ => trivial⟩
  | notifyFinished at_ =>
    have busy : ¬s.producer.pc.Waits := by simp [at_, ProducerPc.Waits]
    exact ⟨spaceParty, by simp, fun asleep => absurd (producerWaits asleep) busy, by simp,
      ending, space, by simp⟩
  | interruptSeen at_ | interruptUnseen at_ | getConnection at_ | beginSend at_
  | returned _ at_ | threw _ _ at_ | retried _ _ at_ | backoffInterrupted _ at_ =>
    have busy : ¬s.producer.pc.Waits := by simp [at_, ProducerPc.Waits]
    have silent : ¬s.producer.pc.NotifiesRows := by simp [at_, ProducerPc.NotifiesRows]
    exact ⟨spaceParty, rowsParty, fun asleep => absurd (producerWaits asleep) busy, scanWaits,
      ending, space, fun asleep some_ => absurd (rows asleep some_) silent⟩

theorem MainStep.wakeups {sys : Setup} {s t : State} (step : MainStep sys s t)
    (started : s.ProducerInv sys) (known : s.Wakeups sys) : t.Wakeups sys := by
  obtain ⟨spaceParty, rowsParty, producerWaits, scanWaits, ending, space, rows⟩ := known
  cases step with
  | beginFirstScan last at_ unstarted =>
    have idle := started.idle.mp unstarted
    have busy : ¬s.producer.pc.Waits := by simp [idle, ProducerPc.Waits]
    exact ⟨spaceParty, rowsParty, fun asleep => absurd (producerWaits asleep) busy, fun _ => rfl,
      False.elim, fun asleep => absurd (producerWaits asleep) busy,
      fun asleep => by simp [scanWaits asleep] at at_⟩
  | beginScan last at_ _ =>
    refine ⟨spaceParty, rowsParty, producerWaits, fun _ => rfl, False.elim, fun asleep some_ => ?_,
      fun asleep => by simp [scanWaits asleep] at at_⟩
    simpa [at_, MainPc.NotifiesSpace] using space asleep some_
  | interruptSeen at_ awake =>
    exact ⟨spaceParty, rowsParty, producerWaits, fun asleep => absurd asleep awake, fun _ => rfl,
      fun _ _ => trivial, fun asleep => absurd asleep awake⟩
  | sleepForRows at_ awake empty running clean calm =>
    refine ⟨spaceParty, by simpa using rowsParty, producerWaits, fun _ => at_, ending, space, ?_⟩
    simp [empty, running, clean]
  | wakeForRows =>
    exact ⟨spaceParty, fun party member => rowsParty party (Finset.mem_of_mem_erase member),
      producerWaits, by simp, ending, space, by simp⟩
  | rethrow error at_ awake =>
    refine ⟨spaceParty, rowsParty, producerWaits, fun asleep => absurd asleep awake, False.elim,
      fun asleep some_ => ?_, fun asleep => absurd asleep awake⟩
    simpa [at_, MainPc.NotifiesSpace] using space asleep some_
  | drain at_ awake =>
    -- Room has been made, and the notification of it is the next step.
    exact ⟨spaceParty, rowsParty, producerWaits, fun asleep => absurd asleep awake, False.elim,
      fun _ _ => trivial, fun asleep => absurd asleep awake⟩
  | drainedNotify count sleepers at_ notified =>
    -- Only the producer sleeps for space, so it is the one that wakes.
    have nobody := notified.wakes_only spaceParty
    exact ⟨fun party member => spaceParty party (notified.subset member), rowsParty,
      fun asleep => absurd asleep nobody, fun asleep => by simp [scanWaits asleep] at at_,
      False.elim, fun asleep => absurd asleep nobody,
      fun asleep => by simp [scanWaits asleep] at at_⟩
  | interruptNotify at_ | destroyNotify at_ =>
    exact ⟨by simp, rowsParty, by simp, fun asleep => by simp [scanWaits asleep] at at_,
      fun _ => ending (by simp [at_, MainPc.Ending]), by simp,
      fun asleep => by simp [scanWaits asleep] at at_⟩
  | interruptCancel at_ =>
    refine ⟨spaceParty, rowsParty, producerWaits, fun asleep => by simp [scanWaits asleep] at at_,
      False.elim, fun asleep some_ => ?_, fun asleep => by simp [scanWaits asleep] at at_⟩
    simpa [at_, MainPc.NotifiesSpace] using space asleep some_
  | destroy at_ =>
    -- The destructor does not run inside a scan call, so no scan sleeps.
    have elsewhere : s.main ≠ .scanning := by
      rcases at_ with ⟨_, at_⟩ | ⟨_, at_⟩ <;> simp [at_]
    exact ⟨spaceParty, rowsParty, producerWaits, fun asleep => absurd (scanWaits asleep) elsewhere,
      fun _ => rfl, fun _ _ => trivial, fun asleep => absurd (scanWaits asleep) elsewhere⟩
  | destroyCancel at_ | join at_ =>
    refine ⟨spaceParty, rowsParty, producerWaits, fun asleep => by simp [scanWaits asleep] at at_,
      fun _ => ending (by simp [at_, MainPc.Ending]), fun asleep some_ => ?_,
      fun asleep => by simp [scanWaits asleep] at at_⟩
    simpa [at_, MainPc.NotifiesSpace] using space asleep some_

theorem native_wakeups (sys : Setup) (s : State) (reachable : (native sys).Reachable s) :
    s.Wakeups sys := by
  refine (native sys).invariant (State.ProducerInv sys) (native_producerInv sys) ?_ ?_ s reachable
  · rintro _ rfl
    constructor <;> simp [MainPc.Ending]
  · intro s t started known next
    cases next with
    | interrupt => exact ⟨known.spaceParty, known.rowsParty, known.producerWaits,
        known.scanWaits, known.ending, known.space, known.rows⟩
    | producer t step => exact step.wakeups known
    | main t step => exact step.wakeups started known

/-- In no reachable state is the producer asleep on `space_available` while the buffer has
room or `cancelled` is set, unless the thread that made room or set `cancelled` is about to
notify it. So the producer never sleeps for space while a scan sleeps for rows, nor while
the destructor is in `join()`. -/
theorem native_no_lost_wakeup (sys : Setup) (s : State) (reachable : (native sys).Reachable s) :
    (.producer ∈ s.spaceAvailable → s.buffer.length < sys.capacity ∨ s.cancelled = true →
      (∃ count, s.main = .drained count) ∨ s.main = .interruptNotify ∨
        s.main = .destroyNotify) ∧
    ¬(.producer ∈ s.spaceAvailable ∧ .scan ∈ s.rowsAvailable) ∧
    ¬(.producer ∈ s.spaceAvailable ∧ s.main = .joining) := by
  have known := native_wakeups sys s reachable
  have ahead : .producer ∈ s.spaceAvailable →
      s.buffer.length < sys.capacity ∨ s.cancelled = true → s.main.NotifiesSpace := known.space
  refine ⟨?_, ?_, ?_⟩
  · intro asleep some_
    have notifies := ahead asleep some_
    cases main : s.main <;> simp_all [MainPc.NotifiesSpace]
  · -- The producer waits, so no notification of rows is ahead of it and the buffer is empty.
    rintro ⟨asleep, waiting⟩
    have empty : s.buffer = [] := by
      by_contra some_
      exact known.producerWaits asleep |>.not_notifies (known.rows waiting (Or.inl some_))
    have room : s.buffer.length < sys.capacity := by
      have := sys.vectorSize_pos
      simp only [empty, List.length_nil, Setup.capacity]
      omega
    have notifies := ahead asleep (Or.inl room)
    simp [known.scanWaits waiting, MainPc.NotifiesSpace] at notifies
  · -- `cancelled` is set there, and the destructor has made its notification.
    rintro ⟨asleep, joining⟩
    have cancelled := known.ending (by simp [joining, MainPc.Ending])
    simpa [joining, MainPc.NotifiesSpace] using ahead asleep (Or.inr cancelled)

/-- The producer sleeps on although a scan has taken a row out of the full buffer: the scan has
its notification still to make. -/
theorem native_no_lost_wakeup_drained : ∃ s, (native fourRowsSetup).Reachable s ∧
    .producer ∈ s.spaceAvailable ∧ s.buffer = [textRow "c"] ∧
    ∃ count, s.main = .drained count := by
  have scan := bufferFull_reachable.step (.main _ (.beginScan _ rfl rfl))
  have drained := scan.step (.main _ (.drain rfl (by decide) rfl (.inl nofun)))
  have asleep : Party.producer ∈ bufferFull.spaceAvailable := by decide
  have ahead := (native_no_lost_wakeup fourRowsSetup _ drained).1 asleep (.inl (by decide))
  exact ⟨_, drained, asleep, rfl, ahead.resolve_right (by simp)⟩

end SplunkLogs
