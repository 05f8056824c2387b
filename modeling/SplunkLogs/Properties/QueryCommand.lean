import SplunkLogs.Foundation.Trimming
import SplunkLogs.Model.Request

/-!
# One leading command

A query that begins with a pipe or with the word `search` is a command already; any other gets
`search` in front. The code recognises the word only when a space follows it.
-/
namespace SplunkLogs

open Foundation

/-- The first word of the trimmed query is `search`, in any letter case. -/
def isExplicitSearch (query : Bytes) : Bool :=
  ciEquals (firstWord isSpace (trim query)) (ascii "search")

/-- The query with exactly one leading command. -/
def withOneCommand (query : Bytes) : Bytes :=
  if query.all isSpace then ascii "search *"
  else if (trim query).head? = some 124 ∨ isExplicitSearch query then trim query
  else ascii "search " ++ trim query

/-- The result is the query with one leading command, and normalising it again changes
nothing. -/
structure OneCommand (query : Bytes) : Prop where
  result : normalizeSearchQuery query = withOneCommand query
  idempotent :
    normalizeSearchQuery (normalizeSearchQuery query) = normalizeSearchQuery query

theorem trim_eq_trimBoth (s : Bytes) : trim s = trimBoth isSpace s := rfl

theorem trim_eq_nil_iff (s : Bytes) : trim s = [] ↔ s.all isSpace = true := by
  rw [trim_eq_trimBoth, trimBoth_eq_nil_iff, List.all_eq_true]

theorem isSpace_toLower (c : UInt8) : isSpace (toLower c) = isSpace c := by
  unfold toLower isSpace
  split
  next upper => grind
  next => rfl

theorem toLower_eq_space (c : UInt8) : toLower c = 32 ↔ c = 32 := by
  unfold toLower
  split
  next upper => grind
  next => rfl

/-- The code's test for an explicit command: the word, and a space right after it. -/
theorem startsWith_search_iff (query : Bytes) :
    startsWith (lower (trim query)) (ascii "search ") = true ↔
      isExplicitSearch query = true ∧ (trim query)[6]? = some 32 := by
  have solid : ∀ c ∈ ascii "search", isSpace c = false := by
    intro c member
    simpa using List.all_eq_true.mp
      (show (ascii "search").all (fun c => !isSpace c) = true by decide) c member
  have lowered : lower (ascii "search") = ascii "search" := by decide
  have word := word_prefix_iff isSpace_toLower toLower_eq_space (by decide) solid (trim query)
  rw [startsWith, List.isPrefixOf_iff_prefix, isExplicitSearch, ciEquals, lowered, beq_iff_eq]
  exact word

/-- A query normalisation leaves alone. -/
structure Command (query : Bytes) : Prop where
  trimmed : Trimmed isSpace query
  leading : query.head? = some 124 ∨ startsWith (lower query) (ascii "search ") = true

theorem Command.ne_nil {query : Bytes} (command : Command query) : query ≠ [] := by
  rintro rfl
  cases command.leading with
  | inl pipe => cases pipe
  | inr word => cases word

theorem Command.normalize_eq {query : Bytes} (command : Command query) :
    normalizeSearchQuery query = query := by
  have trimmed : trim query = query := command.trimmed.trimBoth_eq
  simp only [normalizeSearchQuery, trimmed, List.isEmpty_iff, command.ne_nil, if_false]
  split
  · rfl
  next noPipe =>
    rw [if_pos (command.leading.resolve_left noPipe)]

/-- Normalising gives such a query. -/
theorem normalizeSearchQuery_command (query : Bytes) : Command (normalizeSearchQuery query) := by
  have trimmed : Trimmed isSpace (trim query) := trimBoth_trimmed query
  unfold normalizeSearchQuery
  simp only [List.isEmpty_iff]
  split
  next blank =>
    constructor
    · constructor <;> intro c last <;> cases last <;> rfl
    · right; rfl
  next filled =>
    split
    next pipe => exact ⟨trimmed, Or.inl pipe⟩
    next noPipe =>
      split
      next word => exact ⟨trimmed, Or.inr word⟩
      next noWord =>
        constructor
        · apply trimmed.prepend _ (by decide) filled
          intro c first
          cases first
          rfl
        · right
          rw [startsWith, List.isPrefixOf_iff_prefix, lower, List.map_append]
          exact List.prefix_append _ _

/-- What the code computes: the word counts as a command before a space only. -/
theorem normalizeSearchQuery_eq (query : Bytes) :
    normalizeSearchQuery query =
      if query.all isSpace then ascii "search *"
      else if (trim query).head? = some 124 ∨
        (isExplicitSearch query = true ∧ (trim query)[6]? = some 32) then trim query
      else ascii "search " ++ trim query := by
  simp only [normalizeSearchQuery, List.isEmpty_iff, trim_eq_nil_iff, startsWith_search_iff,
    ite_or]

/-- An explicit `search` is no blank and no pipe. -/
theorem isExplicitSearch_head {query : Bytes} (explicit : isExplicitSearch query = true) :
    query.all isSpace = false ∧ (trim query).head? ≠ some 124 := by
  rw [isExplicitSearch, ciEquals, beq_iff_eq] at explicit
  constructor
  · apply Bool.eq_false_iff.mpr
    intro blank
    rw [(trim_eq_nil_iff query).mpr blank] at explicit
    cases explicit
  · intro pipe
    obtain ⟨rest, shape⟩ := List.head?_eq_some_iff.mp pipe
    rw [shape, firstWord, List.takeWhile_cons_of_pos (by decide)] at explicit
    cases explicit

/-- For every query: the result is the query with one leading command and normalising it
again changes nothing, if and only if an explicit `search` has a space right after it. -/
theorem oneCommand_iff (query : Bytes) :
    OneCommand query ↔ (isExplicitSearch query = true → (trim query)[6]? = some 32) := by
  constructor
  · intro one explicit
    obtain ⟨filled, noPipe⟩ := isExplicitSearch_head explicit
    have same := one.result
    rw [normalizeSearchQuery_eq, withOneCommand] at same
    by_contra noSpace
    -- The command word is taken for a term, and another one put before it.
    simp only [filled, noPipe, explicit, noSpace, Bool.false_eq_true, if_false, and_false,
      or_self, or_true, if_true, List.append_left_eq_self] at same
    cases same
  · intro space
    constructor
    · rw [normalizeSearchQuery_eq, withOneCommand]
      have boundary : isExplicitSearch query = true ∧ (trim query)[6]? = some 32 ↔
          isExplicitSearch query = true := and_iff_left_of_imp space
      simp only [boundary]
    · exact (normalizeSearchQuery_command query).normalize_eq

/-- A tab after the command word: the command becomes a search for the term `search`. -/
theorem search_tab_is_searched_for :
    normalizeSearchQuery (ascii "search\terror") = ascii "search search\terror" ∧
      ¬OneCommand (ascii "search\terror") := by
  constructor
  · decide
  · intro one
    have same := one.result
    revert same
    decide

end SplunkLogs
