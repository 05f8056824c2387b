import Mathlib.Data.Finset.Card

/-! Condition variables as sets of sleepers, and what a notification does to them. -/
namespace Foundation

variable {π : Type*} [DecidableEq π]

/-- `notify_one`: some sleeper wakes, if there is one. -/
inductive NotifyOne (before : Finset π) : Finset π → Prop
  | nobody : before = ∅ → NotifyOne before ∅
  | wakes (sleeper : π) : sleeper ∈ before → NotifyOne before (before.erase sleeper)

/-- Nobody falls asleep by a notification. -/
theorem NotifyOne.subset {before after : Finset π} (notified : NotifyOne before after) :
    after ⊆ before := by
  cases notified with
  | nobody => exact Finset.empty_subset _
  | wakes sleeper _ => exact Finset.erase_subset _ _

/-- A notification reaches the only party that ever sleeps there. -/
theorem NotifyOne.wakes_only {before after : Finset π} {party : π}
    (notified : NotifyOne before after) (only : ∀ sleeper ∈ before, sleeper = party) :
    party ∉ after := by
  cases notified with
  | nobody => simp
  | wakes sleeper member =>
    rw [only sleeper member]
    exact Finset.notMem_erase _ _

/-- A notification can always be made, and leaves no more sleepers than before. -/
theorem NotifyOne.exists (before : Finset π) :
    ∃ after, NotifyOne before after ∧ after.card ≤ before.card := by
  rcases before.eq_empty_or_nonempty with empty | ⟨sleeper, member⟩
  · exact ⟨∅, .nobody empty, by simp⟩
  · exact ⟨_, .wakes sleeper member, Finset.card_erase_le⟩

end Foundation
