import Mathlib.Data.Finset.Card
import SplunkLogs.Foundation.TransitionSystem

/-!
# The transaction manager of an attached catalog

`SplunkTransactionManager` keeps its transactions in a map from their own addresses. Any number
of threads start and end transactions; a step is one allocation, or one critical section of
`transaction_lock`.
-/
namespace SplunkLogs

open Foundation (TransitionSystem)

variable {α : Type} [DecidableEq α]

/-- The manager and the heap around it. `heap` holds the addresses of live objects, `others` those
of objects that are not the manager's; a reference is `held` from its return by
`StartTransaction` to the call that ends the transaction. -/
structure TransactionState (α : Type) where
  /-- The keys of `transactions`; a value is the owner of the object at its key. -/
  transactions : Finset α
  /-- Objects of calls of `StartTransaction` that have not come to the lock yet. -/
  built : Finset α
  held : Finset α
  heap : Finset α
  others : Finset α
  started : Nat := 0
  ended : Nat := 0

namespace TransactionState

/-- `transactions.emplace(result, std::move(transaction))`: where the key is taken, the object
handed over is destroyed with the node made for it. -/
def emplace (s : TransactionState α) (transaction : α) : TransactionState α :=
  if transaction ∈ s.transactions then { s with heap := s.heap.erase transaction }
  else { s with transactions := insert transaction s.transactions }

/-- `transactions.erase(&transaction)`: the object goes with its owner, and an address that is no
key is passed over. -/
def erase (s : TransactionState α) (transaction : α) : TransactionState α :=
  if transaction ∈ s.transactions then
    { s with
      transactions := s.transactions.erase transaction
      heap := s.heap.erase transaction }
  else s

/-- One step of any thread. An allocation returns an address at which nothing lives. -/
inductive Step (s : TransactionState α) : TransactionState α → Prop
  -- `make_uniq<SplunkTransaction>`, before the lock is taken.
  | make (transaction : α) : transaction ∉ s.heap →
      Step s { s with
        built := insert transaction s.built
        heap := insert transaction s.heap }
  -- The critical section of `StartTransaction` and its return.
  | start (transaction : α) : transaction ∈ s.built →
      Step s { s.emplace transaction with
        built := s.built.erase transaction
        held := insert transaction s.held
        started := s.started + 1 }
  -- `CommitTransaction` and `RollbackTransaction`, by the holder of the reference.
  | finish (transaction : α) : transaction ∈ s.held →
      Step s { s.erase transaction with
        held := s.held.erase transaction
        ended := s.ended + 1 }
  -- The rest of the program allocates and frees as well.
  | allocate (object : α) : object ∉ s.heap →
      Step s { s with heap := insert object s.heap, others := insert object s.others }
  | free (object : α) : object ∈ s.others →
      Step s { s with heap := s.heap.erase object, others := s.others.erase object }

end TransactionState

/-- The manager from its creation on, among whatever objects live then. -/
def transactionManager (α : Type) [DecidableEq α] : TransitionSystem (TransactionState α) :=
  ⟨fun s => ∃ others, s = ⟨∅, ∅, ∅, others, others, 0, 0⟩, TransactionState.Step⟩

end SplunkLogs
