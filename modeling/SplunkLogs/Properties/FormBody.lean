import SplunkLogs.Foundation.FormUrlEncoded
import SplunkLogs.Model.Request

/-!
# The form body carries exactly the intended parameters

The body is the encoding of a list of pairs, so the laws of form bodies apply to it.
-/
namespace SplunkLogs

open Foundation

/-- The parameters an export request is meant to carry, in order. -/
def exportParameters (query earliest latest : Bytes) (maxRows : Int) : List (Bytes × Bytes) :=
  [(ascii "search", normalizeSearchQuery query), (ascii "earliest_time", earliest),
    (ascii "latest_time", latest), (ascii "output_mode", ascii "json")] ++
  if 0 < maxRows then [(ascii "count", decimal maxRows.toNat)] else []

/-- Decimal digits are kept by every percent encoder. -/
theorem decimal_unreserved (n : Nat) : (decimal n).all isUnreserved = true := by
  simp only [decimal, List.all_eq_true, List.mem_map, List.mem_reverse]
  rintro c ⟨d, digit, rfl⟩
  have kept : ∀ d < 10, isUnreserved (48 + d).toUInt8 = true := by decide
  exact kept d (Nat.digits_lt_base (by omega) digit)

theorem decimal_injective : Function.Injective decimal := by
  intro n m same
  have digits : ∀ k, ((decimal k).map fun c => c.toNat - 48).reverse = Nat.digits 10 k := by
    intro k
    simp only [decimal, List.map_map, List.map_reverse, List.reverse_reverse]
    apply map_eq_self
    intro d digit
    have back : ∀ d < 10, (48 + d).toUInt8.toNat - 48 = d := by decide
    exact back d (Nat.digits_lt_base (by omega) digit)
  have equal := digits n
  rw [same, digits m] at equal
  exact (Nat.digits_inj_iff.mp equal).symm

/-- Text without reserved bytes is encoded as itself. -/
theorem urlEncode_unreserved {urlEncode : Bytes → Bytes} (encoder : PercentEncoder urlEncode)
    (text : Bytes) (plain : text.all isUnreserved = true) : urlEncode text = text := by
  induction text with
  | nil => exact encoder.nil
  | cons c rest ih =>
    simp only [List.all_cons, Bool.and_eq_true] at plain
    rw [encoder.kept c rest plain.1, ih plain.2]

/-- The literal text of the source is what the encoder makes of the parameters. -/
theorem buildExportBody_eq {urlEncode : Bytes → Bytes} (encoder : PercentEncoder urlEncode)
    (query earliest latest : Bytes) (maxRows : Int) :
    buildExportBody urlEncode query earliest latest maxRows =
      encodeForm urlEncode (exportParameters query earliest latest maxRows) := by
  have search := urlEncode_unreserved encoder (ascii "search") (by decide)
  have earliestTime := urlEncode_unreserved encoder (ascii "earliest_time") (by decide)
  have latestTime := urlEncode_unreserved encoder (ascii "latest_time") (by decide)
  have outputMode := urlEncode_unreserved encoder (ascii "output_mode") (by decide)
  have json := urlEncode_unreserved encoder (ascii "json") (by decide)
  have count := urlEncode_unreserved encoder (ascii "count") (by decide)
  have number := urlEncode_unreserved encoder (decimal maxRows.toNat) (decimal_unreserved _)
  -- Each literal of the source is a delimiter, a name and an equals sign.
  have text : ascii "search=" = ascii "search" ++ [equalsSign] ∧
      ascii "&earliest_time=" = ampersand :: ascii "earliest_time" ++ [equalsSign] ∧
      ascii "&latest_time=" = ampersand :: ascii "latest_time" ++ [equalsSign] ∧
      ascii "&output_mode=json" =
        ampersand :: ascii "output_mode" ++ equalsSign :: ascii "json" ∧
      ascii "&count=" = ampersand :: ascii "count" ++ [equalsSign] := by decide
  obtain ⟨first, second, third, fourth, fifth⟩ := text
  by_cases capped : 0 < maxRows
  · simp [buildExportBody, exportParameters, encodeForm, capped, search, earliestTime,
      latestTime, outputMode, json, count, number, first, second, third, fourth, fifth,
      List.intercalate]
  · simp [buildExportBody, exportParameters, encodeForm, capped, search, earliestTime,
      latestTime, outputMode, json, first, second, third, fourth, List.intercalate]

/-- Decoding the body gives the intended parameters and nothing else, and two requests
have the same body only if they carry the same parameters. -/
theorem buildExportBody_decodes (urlEncode : Bytes → Bytes) (encoder : PercentEncoder urlEncode)
    (query earliest latest : Bytes) (maxRows : Int) :
    decodeForm (buildExportBody urlEncode query earliest latest maxRows) =
      [(ascii "search", normalizeSearchQuery query), (ascii "earliest_time", earliest),
        (ascii "latest_time", latest), (ascii "output_mode", ascii "json")] ++
      (if 0 < maxRows then [(ascii "count", decimal maxRows.toNat)] else []) ∧
    ∀ query' earliest' latest' maxRows',
      buildExportBody urlEncode query earliest latest maxRows =
        buildExportBody urlEncode query' earliest' latest' maxRows' →
      normalizeSearchQuery query = normalizeSearchQuery query' ∧ earliest = earliest' ∧
        latest = latest' ∧ maxRows.toNat = maxRows'.toNat := by
  constructor
  · rw [buildExportBody_eq encoder, encoder.decodeForm_encodeForm]
    rfl
  · intro query' earliest' latest' maxRows' same
    rw [buildExportBody_eq encoder, buildExportBody_eq encoder] at same
    have pairs := encoder.encodeForm_injective same
    simp only [exportParameters, List.cons_append, List.nil_append, List.cons.injEq,
      Prod.mk.injEq, true_and] at pairs
    obtain ⟨search, earliest_, latest_, counts⟩ := pairs
    refine ⟨search, earliest_, latest_, ?_⟩
    -- The lists of pairs have the same length, so both have a count or none has.
    by_cases left : 0 < maxRows <;> by_cases right : 0 < maxRows'
    · simp only [left, right, if_true, List.cons.injEq, Prod.mk.injEq, true_and, and_true]
        at counts
      exact decimal_injective counts
    · simp [left, right] at counts
    · simp [left, right] at counts
    · omega

/-- Delimiters inside a query stay inside it. -/
theorem buildExportBody_decodes_delimiters :
    decodeForm (buildExportBody percentEncode (ascii "a&count=9%41+") (ascii "-1h") [] 5) =
      [(ascii "search", ascii "search a&count=9%41+"), (ascii "earliest_time", ascii "-1h"),
        (ascii "latest_time", []), (ascii "output_mode", ascii "json"),
        (ascii "count", ascii "5")] := by
  rw [(buildExportBody_decodes percentEncode percentEncoder_percentEncode _ _ _ _).1]
  decide

end SplunkLogs
