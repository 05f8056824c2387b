import Mathlib.Data.List.Induction
import Mathlib.Data.List.Nodup

/-!
# Association lists in which the first value of a key wins

Pairs are added one by one unless their key is there already. What comes out has every key
once, in the order of first occurrence, and with the value of its first occurrence.
-/
namespace Foundation

variable {α β : Type*} [BEq α] [LawfulBEq α]

theorem eraseDups_concat (keys : List α) (key : α) :
    (keys ++ [key]).eraseDups =
      if keys.contains key then keys.eraseDups else keys.eraseDups ++ [key] := by
  rw [List.eraseDups_append, List.removeAll]
  cases present : keys.contains key with
  | true => simp [List.mem_of_elem_eq_true present]
  | false =>
    have absent : key ∉ keys := by simpa using present
    simp [absent, List.eraseDups_cons]

theorem nodup_eraseDups (keys : List α) : keys.eraseDups.Nodup := by
  induction keys using List.reverseRecOn with
  | nil => simp
  | append_singleton keys key ih =>
    rw [eraseDups_concat]
    split
    · exact ih
    next absent =>
      apply List.nodup_append.mpr
      refine ⟨ih, List.nodup_singleton key, ?_⟩
      intro a member b single same
      rw [List.mem_singleton.mp single] at same
      rw [same, List.mem_eraseDups] at member
      exact absent (by simpa using member)

theorem eraseDups_eq_nil {keys : List α} : keys.eraseDups = [] ↔ keys = [] := by
  simp only [List.eq_nil_iff_forall_not_mem, List.mem_eraseDups]

/-- The key is appended unless it is there already. -/
def insertNew (keys : List α) (key : α) : List α :=
  if keys.contains key then keys else keys ++ [key]

theorem foldl_insertNew (before more : List α) :
    more.foldl insertNew before.eraseDups = (before ++ more).eraseDups := by
  induction more generalizing before with
  | nil => simp
  | cons key rest ih =>
    have added : insertNew before.eraseDups key = (before ++ [key]).eraseDups := by
      have known : before.eraseDups.contains key = before.contains key := by
        rw [Bool.eq_iff_iff, List.contains_iff_mem, List.contains_iff_mem, List.mem_eraseDups]
      rw [insertNew, known, eraseDups_concat]
    rw [List.foldl_cons, added, ih, List.append_assoc, List.singleton_append]

/-- The pair is appended unless its key is taken. -/
def addNew (members : List (α × β)) (pair : α × β) : List (α × β) :=
  if members.any fun present => present.1 == pair.1 then members else members ++ [pair]

theorem any_key_eq_contains (members : List (α × β)) (key : α) :
    (members.any fun present => present.1 == key) = (members.map Prod.fst).contains key := by
  simp only [List.contains_eq_any_beq, List.any_map, Function.comp_def, BEq.comm]

theorem addNew_of_mem {members : List (α × β)} {pair : α × β}
    (taken : pair.1 ∈ members.map Prod.fst) : addNew members pair = members := by
  rw [addNew, any_key_eq_contains, if_pos]
  simpa using taken

theorem addNew_of_not_mem {members : List (α × β)} {pair : α × β}
    (free : pair.1 ∉ members.map Prod.fst) : addNew members pair = members ++ [pair] := by
  rw [addNew, any_key_eq_contains, if_neg]
  simpa using free

/-- One of the pairs added: keys stay in order of first occurrence, values stay those of the
first occurrence. -/
structure FirstWins (pairs members : List (α × β)) : Prop where
  keys : members.map Prod.fst = (pairs.map Prod.fst).eraseDups
  values : ∀ key, members.lookup key = pairs.lookup key

omit [LawfulBEq α] in
theorem FirstWins.nil : FirstWins ([] : List (α × β)) [] := ⟨rfl, fun _ => rfl⟩

theorem lookup_isSome_of_mem {members : List (α × β)} {key : α}
    (taken : key ∈ members.map Prod.fst) : (members.lookup key).isSome = true := by
  obtain ⟨pair, member, rfl⟩ := List.mem_map.mp taken
  exact List.lookup_isSome_iff.mpr ⟨pair, member, by simp⟩

theorem FirstWins.add {pairs members : List (α × β)} (wins : FirstWins pairs members)
    (pair : α × β) : FirstWins (pairs ++ [pair]) (addNew members pair) := by
  have sameKeys : pair.1 ∈ members.map Prod.fst ↔ pair.1 ∈ pairs.map Prod.fst := by
    rw [wins.keys, List.mem_eraseDups]
  by_cases taken : pair.1 ∈ members.map Prod.fst
  · have known : (pairs.map Prod.fst).contains pair.1 = true := by simpa using sameKeys.mp taken
    rw [addNew_of_mem taken]
    constructor
    · rw [List.map_append, List.map_singleton, eraseDups_concat, if_pos known, wins.keys]
    · intro key
      rw [List.lookup_append, wins.values]
      -- The value added is in nobody's way: its key has one already.
      by_cases same : key = pair.1
      · subst same
        have found := lookup_isSome_of_mem (sameKeys.mp taken)
        obtain ⟨value, found⟩ := Option.isSome_iff_exists.mp found
        rw [found, Option.some_or]
      · have other : [pair].lookup key = none := by
          apply List.lookup_eq_none_iff.mpr
          simpa using same
        rw [other, Option.or_none]
  · have unknown : ¬(pairs.map Prod.fst).contains pair.1 = true := by
      simpa using fun known => taken (sameKeys.mpr known)
    rw [addNew_of_not_mem taken]
    constructor
    · rw [List.map_append, List.map_append, List.map_singleton, eraseDups_concat,
        if_neg unknown, wins.keys]
    · intro key
      rw [List.lookup_append, List.lookup_append, wins.values]

/-- All pairs of a list added. -/
theorem FirstWins.addAll {pairs members : List (α × β)} (wins : FirstWins pairs members)
    (more : List (α × β)) : FirstWins (pairs ++ more) (more.foldl addNew members) := by
  induction more generalizing pairs members with
  | nil => simpa using wins
  | cons pair rest ih =>
    have next := ih (wins.add pair)
    rwa [List.append_assoc, List.singleton_append] at next

theorem FirstWins.nodup {pairs members : List (α × β)} (wins : FirstWins pairs members) :
    (members.map Prod.fst).Nodup := by
  rw [wins.keys]
  exact nodup_eraseDups _

/-- Where keys are distinct, the members are the pairs that are found. -/
theorem mem_iff_lookup {members : List (α × β)} (distinct : (members.map Prod.fst).Nodup)
    (key : α) (value : β) : (key, value) ∈ members ↔ members.lookup key = some value := by
  induction members with
  | nil => simp
  | cons first rest ih =>
    obtain ⟨name, content⟩ := first
    obtain ⟨fresh, others⟩ := List.nodup_cons.mp distinct
    rw [List.mem_cons, List.lookup_cons]
    by_cases same : key = name
    · subst same
      have absent : (key, value) ∉ rest := by
        intro member
        exact fresh (List.mem_map.mpr ⟨_, member, rfl⟩)
      simp [absent, eq_comm]
    · have other : (key == name) = false := by simpa using same
      simp [same, other, ih others]

theorem FirstWins.mem_iff {pairs members : List (α × β)} (wins : FirstWins pairs members)
    (key : α) (value : β) : (key, value) ∈ members ↔ pairs.lookup key = some value := by
  rw [mem_iff_lookup wins.nodup, wins.values]

/-- Nothing is made up. -/
theorem FirstWins.subset {pairs members : List (α × β)} (wins : FirstWins pairs members) :
    members ⊆ pairs := by
  rintro ⟨key, value⟩ member
  obtain ⟨before, after, rfl, _⟩ := List.lookup_eq_some_iff.mp ((wins.mem_iff key value).mp member)
  simp

/-- Which pairs are added is told from the keys alone, so their order is of no concern. -/
theorem addNew_perm {members others : List (α × β)} (perm : members.Perm others)
    (pair : α × β) : (addNew members pair).Perm (addNew others pair) := by
  by_cases taken : pair.1 ∈ members.map Prod.fst
  · rw [addNew_of_mem taken, addNew_of_mem ((perm.map Prod.fst).mem_iff.mp taken)]
    exact perm
  · have free : pair.1 ∉ others.map Prod.fst := fun there =>
      taken ((perm.map Prod.fst).mem_iff.mpr there)
    rw [addNew_of_not_mem taken, addNew_of_not_mem free]
    exact perm.append_right [pair]

theorem foldl_addNew_perm {members others : List (α × β)} (perm : members.Perm others)
    (more : List (α × β)) : (more.foldl addNew members).Perm (more.foldl addNew others) := by
  induction more generalizing members others with
  | nil => exact perm
  | cons pair rest ih => exact ih (addNew_perm perm pair)

/-- Pairs with new and distinct keys are all added. -/
theorem foldl_addNew_of_nodup (members pairs : List (α × β))
    (distinct : ((members ++ pairs).map Prod.fst).Nodup) :
    pairs.foldl addNew members = members ++ pairs := by
  induction pairs generalizing members with
  | nil => simp
  | cons pair rest ih =>
    have free : pair.1 ∉ members.map Prod.fst := by
      rw [List.map_append, List.map_cons] at distinct
      intro taken
      exact (List.nodup_append.mp distinct).2.2 _ taken _ List.mem_cons_self rfl
    rw [List.append_cons] at distinct
    rw [List.foldl_cons, addNew_of_not_mem free, ih _ distinct, List.append_assoc,
      List.singleton_append]

/-- What is added behind a pair does not depend on its value. -/
theorem foldl_addNew_behind (front behind more : List (α × β)) (key : α) :
    ∃ rest, ∀ value, more.foldl addNew (front ++ (key, value) :: behind) =
      front ++ (key, value) :: rest := by
  induction more generalizing behind with
  | nil => exact ⟨behind, fun _ => rfl⟩
  | cons pair later ih =>
    by_cases taken : pair.1 ∈ front.map Prod.fst ++ key :: behind.map Prod.fst
    · obtain ⟨rest, same⟩ := ih behind
      refine ⟨rest, fun value => ?_⟩
      rw [List.foldl_cons, addNew_of_mem (by simpa using taken), same]
    · obtain ⟨rest, same⟩ := ih (behind ++ [pair])
      refine ⟨rest, fun value => ?_⟩
      rw [List.foldl_cons, addNew_of_not_mem (by simpa using taken), List.append_assoc,
        List.cons_append, same]

/-- Replacing the value of one pair replaces a value of the result, or nothing. -/
theorem foldl_addNew_value (before after : List (α × β)) (key : α) :
    (∃ members, ∀ value, (before ++ (key, value) :: after).foldl addNew [] = members) ∨
    ∃ front rest, ∀ value,
      (before ++ (key, value) :: after).foldl addNew [] = front ++ (key, value) :: rest := by
  by_cases taken : key ∈ (before.foldl addNew []).map Prod.fst
  · refine .inl ⟨after.foldl addNew (before.foldl addNew []), fun value => ?_⟩
    rw [List.foldl_append, List.foldl_cons, addNew_of_mem taken]
  · obtain ⟨rest, same⟩ := foldl_addNew_behind (before.foldl addNew []) [] after key
    refine .inr ⟨before.foldl addNew [], rest, fun value => ?_⟩
    rw [List.foldl_append, List.foldl_cons, addNew_of_not_mem taken, same]

end Foundation
