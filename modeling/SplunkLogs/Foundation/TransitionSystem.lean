import Mathlib.Logic.Relation
import Mathlib.Order.WellFounded

/-! Transition systems, their reachable states and the induction rules for invariants. -/
namespace Foundation

/-- A system given by its initial states and one atomic step of any of its parties. -/
structure TransitionSystem (σ : Type*) where
  init : σ → Prop
  step : σ → σ → Prop

namespace TransitionSystem

variable {σ : Type*} (T : TransitionSystem σ)

/-- Zero or more steps, taken by any parties in any order. -/
def Steps : σ → σ → Prop := Relation.ReflTransGen T.step

def Reachable (s : σ) : Prop := ∃ start, T.init start ∧ T.Steps start s

theorem reachable_init {s : σ} (initial : T.init s) : T.Reachable s :=
  ⟨s, initial, .refl⟩

theorem Reachable.step {T : TransitionSystem σ} {s t : σ} (reachable : T.Reachable s)
    (next : T.step s t) : T.Reachable t := by
  obtain ⟨start, initial, steps⟩ := reachable
  exact ⟨start, initial, steps.tail next⟩

theorem Reachable.steps {T : TransitionSystem σ} {s t : σ} (reachable : T.Reachable s)
    (run : T.Steps s t) : T.Reachable t := by
  induction run with
  | refl => exact reachable
  | tail _ next ih => exact ih.step next

/-- The induction rule for runs: `P` holds initially and every step keeps it, where
invariants `Q` established before may be used on the state a step leaves. -/
theorem invariant {P : σ → Prop} (Q : σ → Prop) (known : ∀ s, T.Reachable s → Q s)
    (base : ∀ s, T.init s → P s)
    (preserved : ∀ s t, Q s → P s → T.step s t → P t)
    (s : σ) (reachable : T.Reachable s) : P s := by
  obtain ⟨start, initial, steps⟩ := reachable
  -- The last step of the run leaves a state that is reachable itself.
  induction steps with
  | refl => exact base start initial
  | @tail middle last before next ih =>
    exact preserved middle last (known middle ⟨start, initial, before⟩) ih next

/-- From a reachable state on: `P` holds there and every step keeps it. -/
theorem stable {P : σ → Prop} (Q : σ → Prop) (known : ∀ s, T.Reachable s → Q s)
    (preserved : ∀ s t, Q s → P s → T.step s t → P t)
    {s t : σ} (reachable : T.Reachable s) (holds : P s) (run : T.Steps s t) : P t := by
  induction run with
  | refl => exact holds
  | @tail middle last before next ih =>
    exact preserved middle last (known middle (reachable.steps before)) ih next

/-- The runs whose every step satisfies `allowed`. -/
def restrict (allowed : σ → σ → Prop) : TransitionSystem σ :=
  ⟨T.init, fun s t => T.step s t ∧ allowed s t⟩

theorem Reachable.of_restrict {T : TransitionSystem σ} {allowed : σ → σ → Prop} {s : σ}
    (reachable : (T.restrict allowed).Reachable s) : T.Reachable s := by
  obtain ⟨start, initial, steps⟩ := reachable
  exact ⟨start, initial, Relation.ReflTransGen.mono (fun _ _ both => both.1) _ _ steps⟩

/-- The simulation rule: where every step of `T` from a reachable state is matched by steps
of `A`, the reachable states of `T` are related to reachable states of `A`. -/
theorem simulated {α : Type*} {A : TransitionSystem α} (R : σ → α → Prop)
    (start : ∀ s, T.init s → ∃ a, A.init a ∧ R s a)
    (matched : ∀ s t a, T.Reachable s → R s a → T.step s t → ∃ b, A.Steps a b ∧ R t b)
    (s : σ) (reachable : T.Reachable s) : ∃ a, A.Reachable a ∧ R s a := by
  obtain ⟨first, initial, steps⟩ := reachable
  induction steps with
  | refl =>
    obtain ⟨a, begun, related⟩ := start first initial
    exact ⟨a, A.reachable_init begun, related⟩
  | @tail middle last before next ih =>
    obtain ⟨a, reached, related⟩ := ih
    obtain ⟨b, steps, after⟩ := matched middle last a ⟨first, initial, before⟩ related next
    exact ⟨b, reached.steps steps, after⟩

/-- The ranking rule: where every reachable state short of the goal has a step that lowers
its rank, a run to the goal leads on from every reachable state. -/
theorem reaches {α : Type*} [LT α] [WellFoundedLT α] {goal : σ → Prop} (rank : σ → α)
    (progress : ∀ s, T.Reachable s → ¬goal s → ∃ t, T.step s t ∧ rank t < rank s)
    (s : σ) (reachable : T.Reachable s) : ∃ t, T.Steps s t ∧ goal t := by
  -- Induction on the rank of the state the run is at.
  induction s using (InvImage.wf rank wellFounded_lt).induction with
  | _ s ih =>
    by_cases there : goal s
    · exact ⟨s, .refl, there⟩
    · obtain ⟨next, step, less⟩ := progress s reachable there
      obtain ⟨t, run, there⟩ := ih next less (reachable.step step)
      exact ⟨t, .head step run, there⟩

/-- An infinite run. -/
structure Run (run : Nat → σ) : Prop where
  start : T.init (run 0)
  next : ∀ n, T.step (run n) (run (n + 1))

theorem Run.reachable {T : TransitionSystem σ} {run : Nat → σ} (runs : T.Run run) (n : Nat) :
    T.Reachable (run n) := by
  induction n with
  | zero => exact T.reachable_init runs.start
  | succ n ih => exact ih.step (runs.next n)

/-- A run may stay for ever in a state with a step to itself. -/
theorem Reachable.stays {T : TransitionSystem σ} {s : σ} (reachable : T.Reachable s)
    (loop : T.step s s) : ∃ run, T.Run run ∧ ∃ N, ∀ n, N ≤ n → run n = s := by
  obtain ⟨start, initial, steps⟩ := reachable
  -- From any state on the way there is such a sequence.
  suffices tail : ∃ run : Nat → σ, run 0 = start ∧ (∀ n, T.step (run n) (run (n + 1))) ∧
      ∃ N, ∀ n, N ≤ n → run n = s by
    obtain ⟨run, rfl, next, past⟩ := tail
    exact ⟨run, ⟨initial, next⟩, past⟩
  clear initial
  induction steps using Relation.ReflTransGen.head_induction_on with
  | refl => exact ⟨fun _ => s, rfl, fun _ => loop, 0, fun _ _ => rfl⟩
  | @head first second step _ ih =>
    obtain ⟨run, rfl, next, N, past⟩ := ih
    refine ⟨fun | 0 => first | n + 1 => run n, rfl, ?_, N + 1, ?_⟩
    · rintro (_ | n)
      · exact step
      · exact next n
    · rintro (_ | n) later
      · omega
      · exact past n (by omega)

/-- The run does not idle for ever while a step that is not idle is possible. -/
def Fair (idle : σ → σ → Prop) (run : Nat → σ) : Prop :=
  ∀ n, ∃ m, n ≤ m ∧ (¬idle (run m) (run (m + 1)) ∨ ∀ t, T.step (run m) t → idle (run m) t)

section Idling

variable {T} {α : Type*} [LT α] [WellFoundedLT α] {idle : σ → σ → Prop} {run : Nat → σ}
  (rank : σ → α) (kept : ∀ s t, idle s t → rank t = rank s)
  (lowered : ∀ s t, T.Reachable s → T.step s t → idle s t ∨ rank t < rank s)
include kept lowered

/-- Where idle steps keep the rank and all others lower it, every run ends up idling. -/
theorem Run.settles (runs : T.Run run) : ∃ N, ∀ n, N ≤ n → idle (run n) (run (n + 1)) := by
  -- From a state of least rank on, no step can lower it.
  obtain ⟨_, ⟨N, rfl⟩, least⟩ := (InvImage.wf rank (wellFounded_lt (α := α))).has_min
    (Set.range run) ⟨run 0, 0, rfl⟩
  have none_lower (n : Nat) : ¬rank (run n) < rank (run N) := least (run n) ⟨n, rfl⟩
  have same : ∀ n, N ≤ n → rank (run n) = rank (run N) := by
    intro n later
    induction n, later using Nat.le_induction with
    | base => rfl
    | succ n later ih =>
      rcases lowered _ _ (runs.reachable n) (runs.next n) with idles | lower
      · exact (kept _ _ idles).trans ih
      · exact absurd (ih ▸ lower) (none_lower (n + 1))
  refine ⟨N, fun n later => ?_⟩
  rcases lowered _ _ (runs.reachable n) (runs.next n) with idles | lower
  · exact idles
  · exact absurd (same n later ▸ lower) (none_lower (n + 1))

/-- If moreover a step that is not idle is possible wherever `P` does not hold, every fair run
comes to a state where it does. -/
theorem Run.ends {P : σ → Prop} (runs : T.Run run) (fair : T.Fair idle run)
    (possible : ∀ s, T.Reachable s → ¬P s → ∃ t, T.step s t ∧ ¬idle s t) :
    ∃ n, P (run n) := by
  obtain ⟨N, idles⟩ := runs.settles rank kept lowered
  obtain ⟨m, later, moves | stuck⟩ := fair N
  · exact absurd (idles m later) moves
  · refine ⟨m, by_contra fun short => ?_⟩
    obtain ⟨t, step, busy⟩ := possible _ (runs.reachable m) short
    exact busy (stuck t step)

end Idling

end TransitionSystem

end Foundation
