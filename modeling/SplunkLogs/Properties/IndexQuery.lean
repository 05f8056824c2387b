import SplunkLogs.Foundation.QuotedLiteral
import SplunkLogs.Model.Request

/-!
# An index name stays inside its restriction

The search of a catalog table is a fixed text and one literal, whatever the name is.
-/
namespace SplunkLogs

open Foundation

/-- The restriction is a plain prefix and the escaped name between quotes. -/
theorem buildIndexQuery_eq (name : Bytes) :
    buildIndexQuery name =
      ascii "index=" ++ quoteMark :: (escapeQuotes name ++ [quoteMark]) := by
  have opening : ascii "index=\"" = ascii "index=" ++ [quoteMark] := rfl
  have closing : ascii "\"" = [quoteMark] := rfl
  rw [buildIndexQuery, opening, closing, List.append_assoc, List.append_assoc]
  rfl

/-- Trimming leaves a restriction as it is, and `search ` is put in front of it. -/
theorem normalizeSearchQuery_index (name : Bytes) :
    normalizeSearchQuery (buildIndexQuery name) =
      ascii "search index=" ++ quoteMark :: (escapeQuotes name ++ [quoteMark]) := by
  have shape : buildIndexQuery name =
      105 :: (ascii "ndex=" ++ quoteMark :: escapeQuotes name ++ [quoteMark]) := by
    rw [buildIndexQuery_eq]
    simp [ascii]
  have trimmed : trim (buildIndexQuery name) = buildIndexQuery name := by
    rw [shape]
    exact trim_of_ends (by decide) (by decide)
  have command : startsWith (lower (buildIndexQuery name)) (ascii "search ") = false := by
    rw [shape]
    rfl
  have filled : (buildIndexQuery name).isEmpty = false := by rw [shape]; rfl
  have noPipe : (buildIndexQuery name).head? ≠ some 124 := by simp [shape]
  simp only [normalizeSearchQuery, trimmed, command, filled, noPipe, Bool.false_eq_true, if_false]
  rw [buildIndexQuery_eq, ← List.append_assoc]
  rfl

/-- For every index name the search sent is `search index=` and one literal, which ends at
the last byte and stands for the name; different names give different searches. -/
theorem index_search_contained :
    (∀ name, normalizeSearchQuery (buildIndexQuery name) =
        ascii "search index=" ++ quoteMark :: (escapeQuotes name ++ [quoteMark]) ∧
      lexQuotes .outside (normalizeSearchQuery (buildIndexQuery name)) =
        some ((ascii "search index=").map .plain ++ [.literal name])) ∧
    Function.Injective fun name => normalizeSearchQuery (buildIndexQuery name) := by
  have lexed : ∀ name, lexQuotes .outside (normalizeSearchQuery (buildIndexQuery name)) =
      some ((ascii "search index=").map .plain ++ [.literal name]) := by
    intro name
    rw [normalizeSearchQuery_index]
    exact lexQuotes_literal (by decide) name
  constructor
  · intro name
    exact ⟨normalizeSearchQuery_index name, lexed name⟩
  · intro first second same
    have pieces := (lexed first).symm.trans ((congrArg (lexQuotes .outside) same).trans
      (lexed second))
    simpa using pieces

end SplunkLogs
