import SplunkLogs.Model.Transactions

/-!
# How long a transaction lives

A transaction is registered from its start to its end, and its object lives for just as long.
No two live transactions share an address, so the map never finds a key taken.
-/
namespace SplunkLogs

variable {α : Type} [DecidableEq α]

namespace TransactionState

/-- The heap is parted into the registered transactions, those not registered yet, and the
objects of the rest of the program. -/
structure Tidy (s : TransactionState α) : Prop where
  held : s.held = s.transactions
  heap : ∀ a, a ∈ s.heap ↔ a ∈ s.transactions ∨ a ∈ s.built ∨ a ∈ s.others
  registered : ∀ a ∈ s.transactions, a ∉ s.built
  ours : ∀ a, a ∈ s.transactions ∨ a ∈ s.built → a ∉ s.others
  counted : s.started = s.ended + s.transactions.card

variable {s t : TransactionState α}

theorem Step.tidy (step : Step s t) (tidy : s.Tidy) : t.Tidy := by
  obtain ⟨held, heap, registered, ours, counted⟩ := tidy
  cases step with
  | make transaction fresh =>
    rw [heap] at fresh
    push Not at fresh
    refine ⟨held, ?_, ?_, ?_, counted⟩
    · intro a
      simp only [Finset.mem_insert, heap]
      tauto
    · intro a registered_ built
      rcases Finset.mem_insert.mp built with rfl | built
      · exact fresh.1 registered_
      · exact registered a registered_ built
    · intro a mine
      rw [Finset.mem_insert] at mine
      rcases mine with old | rfl | old
      · exact ours a (.inl old)
      · exact fresh.2.2
      · exact ours a (.inr old)
  | start transaction built =>
    have free : transaction ∉ s.transactions := fun taken => registered transaction taken built
    rw [emplace, if_neg free]
    refine ⟨?_, ?_, ?_, ?_, ?_⟩
    · show insert transaction s.held = insert transaction s.transactions
      rw [held]
    · intro a
      show a ∈ s.heap ↔ a ∈ insert transaction s.transactions ∨
        a ∈ s.built.erase transaction ∨ a ∈ s.others
      rw [heap, Finset.mem_insert, Finset.mem_erase]
      grind
    · intro a
      show a ∈ insert transaction s.transactions → a ∉ s.built.erase transaction
      rw [Finset.mem_insert, Finset.mem_erase]
      grind
    · intro a
      show a ∈ insert transaction s.transactions ∨ a ∈ s.built.erase transaction → a ∉ s.others
      rw [Finset.mem_insert, Finset.mem_erase]
      grind
    · show s.started + 1 = s.ended + (insert transaction s.transactions).card
      rw [Finset.card_insert_of_notMem free, counted]
      omega
  | finish transaction member =>
    have taken : transaction ∈ s.transactions := held ▸ member
    rw [erase, if_pos taken]
    refine ⟨?_, ?_, ?_, ?_, ?_⟩
    · show s.held.erase transaction = s.transactions.erase transaction
      rw [held]
    · intro a
      show a ∈ s.heap.erase transaction ↔
        a ∈ s.transactions.erase transaction ∨ a ∈ s.built ∨ a ∈ s.others
      rw [Finset.mem_erase, Finset.mem_erase, heap]
      grind
    · intro a
      show a ∈ s.transactions.erase transaction → a ∉ s.built
      rw [Finset.mem_erase]
      grind
    · intro a
      show a ∈ s.transactions.erase transaction ∨ a ∈ s.built → a ∉ s.others
      rw [Finset.mem_erase]
      grind
    · show s.started = s.ended + 1 + (s.transactions.erase transaction).card
      have one := Finset.card_erase_add_one taken
      omega
  | allocate object fresh =>
    rw [heap] at fresh
    push Not at fresh
    refine ⟨held, ?_, registered, ?_, counted⟩
    · intro a
      simp only [Finset.mem_insert, heap]
      tauto
    · intro a mine foreign
      rcases Finset.mem_insert.mp foreign with rfl | foreign
      · exact mine.elim fresh.1 fresh.2.1
      · exact ours a mine foreign
  | free object member =>
    refine ⟨held, ?_, registered, ?_, counted⟩
    · intro a
      simp only [Finset.mem_erase, heap]
      grind
    · intro a mine foreign
      exact ours a mine (Finset.mem_of_mem_erase foreign)

theorem tidy_of_reachable (reachable : (transactionManager α).Reachable s) : s.Tidy := by
  refine (transactionManager α).invariant (fun _ => True) (fun _ _ => trivial) ?_ ?_ s reachable
  · rintro _ ⟨others, rfl⟩
    constructor <;> simp
  · intro s t _ tidy step
    exact Step.tidy step tidy

/-- A registered transaction stays as it is, unless this step is the one that ends it. -/
theorem Step.kept (step : Step s t) (tidy : s.Tidy) {transaction : α}
    (held : transaction ∈ s.held) :
    transaction ∈ t.held ∨
      t.held = s.held.erase transaction ∧ t.ended = s.ended + 1 ∧ transaction ∉ t.heap := by
  cases step with
  | make | allocate | free => exact .inl held
  | start => exact .inl (Finset.mem_insert_of_mem held)
  | finish other member =>
    by_cases same : transaction = other
    · subst same
      refine .inr ⟨rfl, rfl, ?_⟩
      rw [erase, if_pos (tidy.held ▸ member)]
      exact Finset.notMem_erase _ _
    · exact .inl (Finset.mem_erase.mpr ⟨same, held⟩)

theorem Tidy.live (tidy : s.Tidy) (a : α) :
    a ∈ s.heap ∧ a ∉ s.others ↔ a ∈ s.held ∨ a ∈ s.built := by
  have parts := tidy.heap a
  have ours := tidy.ours a
  rw [tidy.held]
  tauto

end TransactionState

/-- For any number of threads in any interleaving, and whatever addresses are used again: the
references that are held are to the registered transactions, one for every start without an end;
the live objects of the manager are these and those about to be registered, none of which finds
its address taken. And a step leaves a transaction that is held alive, or is the one that ends it
and frees it. -/
theorem transactions_live_until_ended (s t : TransactionState α)
    (reachable : (transactionManager α).Reachable s) (step : (transactionManager α).step s t) :
    s.held = s.transactions ∧ s.started = s.ended + s.held.card ∧
      (∀ a, a ∈ s.heap ∧ a ∉ s.others ↔ a ∈ s.held ∨ a ∈ s.built) ∧
      (∀ a ∈ s.built, a ∉ s.transactions) ∧
      ∀ a ∈ s.held, a ∈ t.held ∧ a ∈ t.heap ∨
        t.held = s.held.erase a ∧ t.ended = s.ended + 1 ∧ a ∉ t.heap := by
  have tidy := TransactionState.tidy_of_reachable reachable
  have after := TransactionState.tidy_of_reachable (reachable.step step)
  refine ⟨tidy.held, tidy.held ▸ tidy.counted, tidy.live, ?_, ?_⟩
  · exact fun a built taken => tidy.registered a taken built
  · intro a held
    rcases TransactionState.Step.kept step tidy held with stays | ended
    · exact .inl ⟨stays, ((after.live a).mpr (.inl stays)).1⟩
    · exact .inr ended

/-- Two transactions have been started, and the first one is ended. -/
theorem transactions_live_until_ended_second :
    ∃ s t : TransactionState Nat, (transactionManager Nat).Reachable s ∧
      s.held = {1, 2} ∧ t.held = {2} ∧ 1 ∉ t.heap := by
  have created : (transactionManager Nat).Reachable ⟨∅, ∅, ∅, ∅, ∅, 0, 0⟩ :=
    (transactionManager Nat).reachable_init ⟨∅, rfl⟩
  have made := created.step (.make 1 (by decide))
  have alsoMade := made.step (.make 2 (by decide))
  have registered := alsoMade.step (.start 2 (by decide))
  have started := registered.step (.start 1 (by decide))
  obtain ⟨_, _, _, _, kept⟩ := transactions_live_until_ended _ _ started (.finish 1 (by decide))
  rcases kept 1 (by decide) with ⟨stays, _⟩ | ⟨left, _, freed⟩
  · exact absurd stays (by decide)
  · exact ⟨_, _, started, rfl, left.trans (by decide), freed⟩

end SplunkLogs
