import SplunkLogs.Foundation.BoundedQueue
import SplunkLogs.Properties.NativeReading

/-!
# The hand-over of rows between the threads

The native system refines a bounded queue of rows: the producer's push is a put, the drain
of a scan a take, and nothing else touches the rows. With what the producer has read, this
gives the rows that scans return.
-/
namespace SplunkLogs

open Foundation

/-- The queue that the shared buffer stands for. -/
structure State.Models (sys : Setup) (s : State) (q : BoundedQueue Row sys.capacity) : Prop where
  taken : q.taken = s.delivered
  waiting : q.waiting = s.buffer
  pushed : q.history = s.producer.reader.rows
  counted : s.producer.reader.rows.length = s.producer.reader.produced

/-- Every step is a put, a take or nothing to the queue. -/
theorem Step.models {sys : Setup} {s t : State} {q : BoundedQueue Row sys.capacity}
    (models : s.Models sys q) (step : Step sys s t) :
    ∃ q', (BoundedQueue.system Row sys.capacity).Steps q q' ∧ t.Models sys q' := by
  obtain ⟨taken, waiting, pushed, counted⟩ := models
  cases step with
  | interrupt => exact ⟨q, .refl, taken, waiting, pushed, counted⟩
  | producer t step =>
    cases step with
    | own p moved =>
      obtain ⟨_, _, _, rows, produced⟩ := moved.history
      exact ⟨q, .refl, taken, waiting, by rw [rows, pushed], by rw [rows, produced, counted]⟩
    | push row rest resume at_ awake open_ calm room =>
      -- The wait has ended under the lock, so there is room.
      have free : q.waiting.length < sys.capacity := by rw [waiting]; exact room
      refine ⟨q.put row free, .single (.put row free), taken, ?_, ?_, ?_⟩
      · simp [BoundedQueue.put, waiting]
      · simp [pushed, Reader.push]
      · simp [Reader.push, counted]
    | _ => exact ⟨q, .refl, taken, waiting, pushed, counted⟩
  | main t step =>
    cases step with
    | drain at_ awake clean some_ =>
      -- One call takes what fits in a vector from the front.
      refine ⟨q.take sys.vectorSize, .single (.take _), ?_, ?_, ?_, counted⟩
      · simp [BoundedQueue.take, taken, waiting]
      · simp [BoundedQueue.take, waiting]
      · simp [pushed]
    | _ => exact ⟨q, .refl, taken, waiting, pushed, counted⟩

/-- The native system refines the bounded queue. -/
theorem native_models_queue (sys : Setup) (s : State) (reachable : (native sys).Reachable s) :
    ∃ q, (BoundedQueue.system Row sys.capacity).Reachable q ∧ s.Models sys q := by
  refine (native sys).simulated (State.Models sys) ?_ ?_ s reachable
  · rintro _ rfl
    exact ⟨.empty, rfl, rfl, rfl, rfl, rfl⟩
  · intro s t q _ models step
    exact step.models models

theorem native_pushed (sys : Setup) (s : State) (reachable : (native sys).Reachable s) :
    s.delivered ++ s.buffer = s.producer.reader.rows ∧
    s.producer.reader.rows.length = s.producer.reader.produced ∧
    s.buffer.length ≤ sys.capacity := by
  obtain ⟨q, _, taken, waiting, pushed, counted⟩ := native_models_queue sys s reachable
  refine ⟨?_, counted, ?_⟩
  · rw [← pushed, BoundedQueue.history, taken, waiting]
  · rw [← waiting]
    exact q.bounded

/-- A scan of one record, with vectors of one row. -/
def oneRecordSetup : Setup where
  client := ⟨[], 0, fun _ => 1⟩
  input := ⟨.ofRecords [(oneRecord, oneEvent)], [colBody], 0⟩
  server _ := (⟨200, none⟩, oneRecord ++ [newline])
  vectorSize := 1
  vectorSize_pos := Nat.one_pos

/-- The first scan has started and sleeps; the producer has built its only row. -/
def oneRowBuilt : State where
  producer := {
    pc := .wait (mapEvent (.ofRecords [(oneRecord, oneEvent)]) oneEvent [colBody]) []
      (some (oneRecord.length + 1))
    receiver := { consumer := (), successStatus := true }
    reader := { pending := oneRecord ++ [newline] }
    chunkLength := oneRecord.length + 1 }
  main := .scanning
  started := true
  connection := some 0
  held := some 0
  rowsAvailable := {.scan}
  creations := 1
  sends := 1

/-- The run to there gives up no row and cancels nothing. -/
theorem oneRowBuilt_reachable_within (allowed : State → State → Prop)
    (calm : ∀ s t, t.producer.dropped = s.producer.dropped → t.cancelRan = s.cancelRan →
      allowed s t) : ((native oneRecordSetup).restrict allowed).Reachable oneRowBuilt := by
  have start : ((native oneRecordSetup).restrict allowed).Reachable {} :=
    TransitionSystem.reachable_init _ rfl
  have scan := start.step ⟨.main _ (.beginFirstScan none rfl rfl), calm _ _ rfl rfl⟩
  have asleep := scan.step
    ⟨.main _ (.sleepForRows rfl (by decide) rfl rfl rfl rfl), calm _ _ rfl rfl⟩
  have checked := asleep.step ⟨.producer _ (.interruptUnseen rfl rfl), calm _ _ rfl rfl⟩
  have connected := checked.step ⟨.producer _ (.getConnection rfl), calm _ _ rfl rfl⟩
  have sent := connected.step ⟨.producer _ (.beginSend rfl), calm _ _ rfl rfl⟩
  have answered := sent.step ⟨.producer _ (.own _ (.head rfl)), calm _ _ rfl rfl⟩
  have received := answered.step ⟨.producer _ (.own _
    (.content (oneRecord ++ [newline]) [] rfl rfl rfl)), calm _ _ rfl rfl⟩
  have parsed := received.step ⟨.producer _ (.own _
    (.line 0 oneRecord.length [oneEvent] rfl rfl (by decide) rfl)), calm _ _ rfl rfl⟩
  exact parsed.step
    ⟨.producer _ (.own _ (.mapRow oneEvent [] _ rfl rfl (by decide))), calm _ _ rfl rfl⟩

theorem oneRowBuilt_reachable : (native oneRecordSetup).Reachable oneRowBuilt :=
  (oneRowBuilt_reachable_within (fun _ _ => True) fun _ _ _ _ => trivial).of_restrict

/-- The first scan has started and the answer to its first request begins. -/
def answerBegun (sys : Setup) : State where
  producer := {
    pc := .receiving
    receiver := { consumer := (), successStatus := (sys.server 0).1.success }
    remaining := (sys.server 0).2 }
  main := .scanning
  started := true
  connection := some 0
  held := some 0
  creations := 1
  sends := 1

theorem answerBegun_reachable (sys : Setup) : (native sys).Reachable (answerBegun sys) := by
  have start : (native sys).Reachable {} := TransitionSystem.reachable_init _ rfl
  have scan := start.step (.main _ (.beginFirstScan none rfl rfl))
  have checked := scan.step (.producer _ (.interruptUnseen rfl rfl))
  have connected := checked.step (.producer _ (.getConnection rfl))
  have sent := connected.step (.producer _ (.beginSend rfl))
  exact sent.step (.producer _ (.own _ (.head rfl)))

/-- A scan of one record of four events, with vectors of one row. -/
def fourRowsSetup : Setup where
  client := ⟨[], 0, fun _ => 1⟩
  input := ⟨.ofRecords [(listRecord, listRoot)], [colBody], 0⟩
  server _ := (⟨200, none⟩, listRecord ++ [newline])
  vectorSize := 1
  vectorSize_pos := Nat.one_pos

/-- The row of an event that is a text. -/
def textRow (text : String) : Row := [.varchar (ascii text)]

/-- One row has been returned, two fill the buffer and the producer sleeps with the fourth. -/
def bufferFull : State where
  producer := {
    pc := .wait (textRow "d") [] (some (listRecord.length + 1))
    receiver := { consumer := (), successStatus := true }
    reader := {
      pending := listRecord ++ [newline]
      produced := 3
      rows := [textRow "a", textRow "b", textRow "c"] }
    chunkLength := listRecord.length + 1 }
  main := .between (some 1)
  buffer := [textRow "b", textRow "c"]
  started := true
  connection := some 0
  held := some 0
  spaceAvailable := {.producer}
  delivered := [textRow "a"]
  creations := 1
  sends := 1

theorem bufferFull_reachable : (native fourRowsSetup).Reachable bufferFull := by
  have received := (answerBegun_reachable fourRowsSetup).step
    (.producer _ (.own _ (.content (listRecord ++ [newline]) [] rfl rfl rfl)))
  have parsed := received.step (.producer _ (.own _ (.line 0 listRecord.length
    [rawEvent "a", rawEvent "b", rawEvent "c", rawEvent "d"] rfl rfl (by decide) rfl)))
  have first := parsed.step (.producer _ (.own _ (.mapRow _ _ _ rfl rfl (by decide))))
  have firstPushed := first.step
    (.producer _ (.push _ _ _ rfl (by decide) rfl rfl (by decide)))
  have firstNotified := firstPushed.step (.producer _ (.notifyRow _ _ ∅ rfl (.nobody rfl)))
  have drained := firstNotified.step (.main _ (.drain rfl (by decide) rfl (.inl nofun)))
  have returned := drained.step (.main _ (.drainedNotify 1 ∅ rfl (.nobody rfl)))
  have second := returned.step (.producer _ (.own _ (.mapRow _ _ _ rfl rfl (by decide))))
  have secondPushed := second.step
    (.producer _ (.push _ _ _ rfl (by decide) rfl rfl (by decide)))
  have secondNotified := secondPushed.step (.producer _ (.notifyRow _ _ ∅ rfl (.nobody rfl)))
  have third := secondNotified.step (.producer _ (.own _ (.mapRow _ _ _ rfl rfl (by decide))))
  have thirdPushed := third.step
    (.producer _ (.push _ _ _ rfl (by decide) rfl rfl (by decide)))
  have thirdNotified := thirdPushed.step (.producer _ (.notifyRow _ _ ∅ rfl (.nobody rfl)))
  have fourth := thirdNotified.step (.producer _ (.own _ (.mapRow _ _ _ rfl rfl (by decide))))
  exact fourth.step (.producer _ (.sleepForSpace _ _ _ rfl (by decide) rfl rfl (by decide)))

end SplunkLogs
