import SplunkLogs.Properties.Termination

/-!
# A scan left alone delivers

Nobody has to run the threads in a good order: in every fair run in which the scan is not
disturbed before its end, the calls of the scan come to what the response says.
-/
namespace SplunkLogs

open Foundation (NotifyOne TransitionSystem)

/-- Until a scan has come to its end, nobody disturbs it. -/
def LeftAlone (s t : State) : Prop :=
  s.cancelled = false → s.result = none → Undisturbed s t

section Runs

variable {sys : Setup} {run : Nat → State}

/-- Up to its end such a run is an undisturbed one. -/
theorem undisturbed_until (success : (sys.server 0).1.success = true)
    (runs : ((native sys).restrict Orderly).Run run)
    (alone : ∀ n, LeftAlone (run n) (run (n + 1))) (n : Nat)
    (open_ : ∀ m < n, (run m).result = none) :
    ((native sys).restrict Undisturbed).Reachable (run n) := by
  induction n with
  | zero => exact TransitionSystem.reachable_init _ runs.start
  | succ n ih =>
    have reachable := ih fun m before => open_ m (by omega)
    have kept := (undisturbed_smooth success _ reachable).undisturbed.kept
    exact reachable.step ⟨(runs.next n).1, alone n kept (open_ n (by omega))⟩

/-- It comes to its end, since nothing else leads to the destructor. -/
theorem result_of_fair (success : (sys.server 0).1.success = true)
    (runs : ((native sys).restrict Orderly).Run run)
    (fair : ((native sys).restrict Orderly).Fair Idle run)
    (alone : ∀ n, LeftAlone (run n) (run (n + 1))) : ∃ n, (run n).result ≠ none := by
  have destroyed : ∃ n, (run n).main = .gone := by
    refine runs.ends (P := fun s => s.main = .gone) (State.work sys.client)
      (fun _ _ idle => idle.work) ?_ fair fun s reachable => native_never_stuck sys s
        reachable.of_restrict
    exact fun s t reachable step =>
      step.1.work (native_producerInv sys s reachable.of_restrict) step.2
  obtain ⟨n, gone⟩ := destroyed
  by_contra open_
  have reachable := undisturbed_until success runs alone n fun m _ =>
    not_not.mp fun some_ => open_ ⟨m, some_⟩
  have cancelled := (native_wakeups sys _ reachable.of_restrict).ending
    (by simp [gone, MainPc.Ending])
  rw [(undisturbed_smooth success _ reachable).undisturbed.kept] at cancelled
  cases cancelled

end Runs

/-- For every response of success: in every fair run in which content comes in pieces that are
not empty, no scan is called behind the end of the data, and nobody disturbs the scan before
its end, the calls come to the reference reading of the response. -/
theorem native_delivers (sys : Setup) (success : (sys.server 0).1.success = true)
    (run : Nat → State) (runs : ((native sys).restrict Orderly).Run run)
    (fair : ((native sys).restrict Orderly).Fair Idle run)
    (alone : ∀ n, LeftAlone (run n) (run (n + 1))) :
    ∃ n, (run n).result = some (reference sys.input (sys.server 0).2).result := by
  classical
  have ends := result_of_fair success runs fair alone
  -- At the first end the run has not been disturbed yet.
  have reachable := undisturbed_until success runs alone (Nat.find ends) fun m before =>
    not_not.mp (Nat.find_min ends before)
  obtain ⟨result, ended⟩ := Option.ne_none_iff_exists'.mp (Nat.find_spec ends)
  exact ⟨Nat.find ends, undisturbed_result success _ reachable ended ▸ ended⟩

/-- A step of a scan on its way. -/
theorem leftAlone_of {s t : State} (sending : s.producer.pc ≠ .receiving)
    (open_ : s.main ≠ .between (some 0)) (undisturbed : Undisturbed s t) :
    Orderly s t ∧ LeftAlone s t :=
  ⟨.elsewhere sending open_, fun _ _ => undisturbed⟩

/-- A step behind the end. -/
theorem leftAlone_past {s t : State} (sending : s.producer.pc ≠ .receiving)
    (kept : t.main ≠ .scanning) (past : s.cancelled = true ∨ s.result ≠ none) :
    Orderly s t ∧ LeftAlone s t := by
  refine ⟨⟨fun at_ => absurd at_ sending, fun _ => kept⟩, fun calm open_ => ?_⟩
  rcases past with cancelled | some_
  · simp [calm] at cancelled
  · exact absurd open_ some_

/-- The scan of one record, called until no row is left and then destroyed. -/
theorem oneRecord_delivered : ∃ s, ((native oneRecordSetup).restrict
    fun s t => Orderly s t ∧ LeftAlone s t).Reachable s ∧
    s.main = .gone ∧ s.interrupted = true := by
  have start : ((native oneRecordSetup).restrict
      fun s t => Orderly s t ∧ LeftAlone s t).Reachable {} :=
    TransitionSystem.reachable_init _ rfl
  have scan := start.step
    ⟨.main _ (.beginFirstScan none rfl rfl), leftAlone_of nofun nofun ⟨rfl, rfl, nofun⟩⟩
  have checked := scan.step
    ⟨.producer _ (.interruptUnseen rfl rfl), leftAlone_of nofun nofun ⟨rfl, rfl, nofun⟩⟩
  have connected := checked.step
    ⟨.producer _ (.getConnection rfl), leftAlone_of nofun nofun ⟨rfl, rfl, nofun⟩⟩
  have sent := connected.step
    ⟨.producer _ (.beginSend rfl), leftAlone_of nofun nofun ⟨rfl, rfl, nofun⟩⟩
  have answered := sent.step
    ⟨.producer _ (.own _ (.head rfl)), leftAlone_of nofun nofun ⟨rfl, rfl, nofun⟩⟩
  have received := answered.step
    ⟨.producer _ (.own _ (.content (oneRecord ++ [newline]) [] rfl rfl rfl)),
      ⟨fun _ _ => by decide, nofun⟩, fun _ _ => ⟨rfl, rfl, nofun⟩⟩
  have parsed := received.step
    ⟨.producer _ (.own _ (.line 0 oneRecord.length [oneEvent] rfl rfl (by decide) rfl)),
      leftAlone_of nofun nofun ⟨rfl, rfl, nofun⟩⟩
  have built := parsed.step
    ⟨.producer _ (.own _ (.mapRow oneEvent [] _ rfl rfl (by decide))),
      leftAlone_of nofun nofun ⟨rfl, rfl, nofun⟩⟩
  have pushed := built.step
    ⟨.producer _ (.push _ [] _ rfl (by decide) rfl rfl (by decide)),
      leftAlone_of nofun nofun ⟨rfl, rfl, nofun⟩⟩
  have notified := pushed.step
    ⟨.producer _ (.notifyRow [] _ ∅ rfl (.nobody rfl)),
      leftAlone_of nofun nofun ⟨rfl, rfl, nofun⟩⟩
  have lineDone := notified.step
    ⟨.producer _ (.own _ (.lineDone _ rfl)), leftAlone_of nofun nofun ⟨rfl, rfl, nofun⟩⟩
  have chunkTaken := lineDone.step
    ⟨.producer _ (.own _ (.chunkTaken _ rfl rfl (by decide))),
      leftAlone_of nofun nofun ⟨rfl, rfl, nofun⟩⟩
  have complete := chunkTaken.step
    ⟨.producer _ (.own _ (.complete rfl rfl)), ⟨nofun, nofun⟩,
      fun _ _ => ⟨rfl, rfl, nofun⟩⟩
  have exported := complete.step
    ⟨.producer _ (.returned _ rfl rfl), leftAlone_of nofun nofun ⟨rfl, rfl, nofun⟩⟩
  have ended := exported.step
    ⟨.producer _ (.own _ (.noTail rfl (.inr (by decide)))),
      leftAlone_of nofun nofun ⟨rfl, rfl, nofun⟩⟩
  have finished := ended.step
    ⟨.producer _ (.finish rfl), leftAlone_of nofun nofun ⟨rfl, rfl, nofun⟩⟩
  have exited := finished.step
    ⟨.producer _ (.notifyFinished rfl), leftAlone_of nofun nofun ⟨rfl, rfl, nofun⟩⟩
  have first := exited.step
    ⟨.main _ (.drain rfl (by decide) rfl (.inr rfl)),
      leftAlone_of nofun nofun ⟨rfl, rfl, nofun⟩⟩
  have returned := first.step
    ⟨.main _ (.drainedNotify 1 ∅ (by decide) (.nobody rfl)),
      leftAlone_of nofun nofun ⟨rfl, rfl, nofun⟩⟩
  have again := returned.step
    ⟨.main _ (.beginScan _ rfl rfl), leftAlone_of nofun nofun ⟨rfl, rfl, nofun⟩⟩
  have second := again.step
    ⟨.main _ (.drain rfl (by decide) rfl (.inr rfl)),
      leftAlone_of nofun nofun ⟨rfl, rfl, nofun⟩⟩
  have empty := second.step
    ⟨.main _ (.drainedNotify 0 ∅ (by decide) (.nobody rfl)),
      leftAlone_of nofun nofun ⟨rfl, rfl, nofun⟩⟩
  have destroyed := empty.step
    ⟨.main _ (.destroy (.inl ⟨_, rfl⟩)), leftAlone_past nofun nofun (.inr nofun)⟩
  have spaceNotified := destroyed.step
    ⟨.main _ (.destroyNotify rfl), leftAlone_past nofun nofun (.inl rfl)⟩
  have cancelled := spaceNotified.step
    ⟨.main _ (.destroyCancel rfl), leftAlone_past nofun nofun (.inl rfl)⟩
  have joined := cancelled.step
    ⟨.main _ (.join rfl (.inr rfl)), leftAlone_past nofun nofun (.inl rfl)⟩
  have interrupted := joined.step ⟨.interrupt, leftAlone_past nofun nofun (.inl rfl)⟩
  exact ⟨_, interrupted, rfl, rfl⟩

/-- Its row is delivered in a run that goes on for ever. -/
theorem native_delivers_one_row :
    ∃ run, ((native oneRecordSetup).restrict Orderly).Run run ∧
      ∃ n, (run n).result = some (.ok [[.varchar (ascii "a")]]) := by
  obtain ⟨s, reachable, gone, flag⟩ := oneRecord_delivered
  have cancelled := (native_wakeups oneRecordSetup s reachable.of_restrict).ending
    (by simp [gone, MainPc.Ending])
  obtain ⟨step, orderly⟩ := gone_stays oneRecordSetup gone flag
  obtain ⟨run, runs, N, past⟩ := reachable.stays
    ⟨step, orderly, fun kept => by simp [kept] at cancelled⟩
  have calls : ((native oneRecordSetup).restrict Orderly).Run run :=
    ⟨runs.start, fun n => ⟨(runs.next n).1, (runs.next n).2.1⟩⟩
  obtain ⟨n, ended⟩ := native_delivers oneRecordSetup rfl run calls
    (fair_of_gone reachable.of_restrict gone past) fun n => (runs.next n).2.2
  exact ⟨run, calls, n, ended⟩

end SplunkLogs
