import SplunkLogs.Spec.Reference

/-!
# The reader reads lines as they are meant

`ParseExportLine` and the functions below it agree with the reading of a line, so that the
reference may be unfolded with either.
-/
namespace SplunkLogs

theorem lineContent_concat (line : Bytes) (byte : UInt8) :
    lineContent (line ++ [byte]) =
      if byte = carriageReturn then lineContent line else line ++ [byte] := by
  induction line with
  | nil => simp [lineContent]
  | cons first rest ih =>
    by_cases last : byte = carriageReturn
    · rw [if_pos last] at ih ⊢
      rw [List.cons_append, lineContent, ih, lineContent]
    · rw [if_neg last] at ih ⊢
      rw [List.cons_append, lineContent, ih]
      cases rest <;> rfl

theorem stripCarriageReturns_eq (line : Bytes) : stripCarriageReturns line = lineContent line := by
  -- The code takes the bytes from the end of the line.
  induction line using List.reverseRecOn with
  | nil => rfl
  | append_singleton line byte ih =>
    rw [lineContent_concat, ← ih, stripCarriageReturns, List.rdropWhile_concat]
    simp only [beq_iff_eq]
    rfl

theorem objGet_eq_member (json : Json) (name : Bytes) : json.objGet name = json.member name := by
  cases json with
  | obj members =>
    simp only [Json.objGet, Json.member]
    induction members with
    | nil => rfl
    | cons member rest ih =>
      rw [List.find?_cons, List.lookup_cons]
      by_cases same : member.1 = name
      · simp [same]
      · have other : (name == member.1) = false := by simpa using Ne.symm same
        simp only [beq_eq_false_iff_ne.mpr same, other, ih]
  | _ => rfl

theorem getStr_eq_memberText (json : Json) (name : Bytes) :
    getStr (some json) name = json.memberText name := by
  rw [getStr, Option.bind_some, objGet_eq_member, Json.memberText]
  cases json.member name with
  | none => rfl
  | some value => cases value <;> rfl

/-- Letters of one case are compared as well as those of the other. -/
theorem ciEquals_iff_capitals (first second : Bytes) :
    ciEquals first second = true ↔ capitals first = capitals second := by
  have letters : ∀ a b : UInt8, toLower a = toLower b ↔
      (if 97 ≤ a ∧ a ≤ 122 then a - 32 else a) = if 97 ≤ b ∧ b ≤ 122 then b - 32 else b := by
    intro a b
    unfold toLower
    grind
  simp only [ciEquals, beq_iff_eq, lower, capitals]
  induction first generalizing second with
  | nil => cases second <;> simp
  | cons a first ih =>
    cases second with
    | nil => simp
    | cons b second => simp only [List.map_cons, List.cons.injEq, letters a b, ih second]

theorem messageError_eq (message : Json) : messageError message = messageFailure message := by
  rw [messageError, messageFailure, getStr_eq_memberText, getStr_eq_memberText]
  have capital : capitals (ascii "FATAL") = ascii "FATAL" ∧
      capitals (ascii "ERROR") = ascii "ERROR" := by decide
  cases message.memberText (ascii "type") with
  | none => rfl
  | some type =>
    simp only [Option.bind_some, Bool.or_eq_true, ciEquals_iff_capitals, capital.1, capital.2,
      failureTypes, List.mem_pair, or_comm]

theorem throwIfSearchError_eq (root : Json) :
    throwIfSearchError root =
      match recordFailure root with
      | some failure => .error failure
      | none => .ok () := by
  have same : messageError = messageFailure := funext messageError_eq
  rw [throwIfSearchError, recordFailure, objGet_eq_member, same]
  cases root.member (ascii "messages") with
  | none => rfl
  | some messages =>
    cases messages with
    | arr items =>
      -- The code stops at the first message that fails the search.
      dsimp only
      cases failure : items.findSome? messageFailure <;> simp [failure]
    | _ => rfl

theorem extractEventsFromRoot_eq (root : Json) :
    extractEventsFromRoot root = recordEvents root := by
  cases root with
  | obj members =>
    simp only [extractEventsFromRoot, recordEvents, objGet_eq_member, Json.isObj, Bool.not_true,
      Bool.false_eq_true, if_false]
    split
    next preview => rw [preview]
    next shown =>
      split
      next event wrapped => simp [wrapped]
      next unwrapped =>
        split
        next items listed => simp [listed]
        next unlisted => simp [eventNames, or_assoc]
  | _ => rfl

theorem parseExportLine_eq (env : Externals) (line : Bytes) :
    parseExportLine env line = readLine env line := by
  simp only [parseExportLine, readLine, stripCarriageReturns_eq]
  cases content : lineContent line with
  | nil => rfl
  | cons byte rest =>
    simp only [List.isEmpty_cons, Bool.false_eq_true, if_false]
    cases env.readJson (byte :: rest) with
    | none => rfl
    | some root =>
      dsimp only
      rw [throwIfSearchError_eq, extractEventsFromRoot_eq]
      cases recordFailure root <;> rfl

@[simp] theorem referenceLines_nil (input : ScanInput) (produced : Nat) :
    referenceLines input [] produced = .done := rfl

/-- The reference as the reader sees it. -/
theorem referenceLines_cons (input : ScanInput) (line : Bytes) (rest : List Bytes)
    (produced : Nat) :
    referenceLines input (line :: rest) produced =
      match parseExportLine input.env line with
      | .error error => .failed error
      | .ok events => mapEvents input (referenceLines input rest) produced events := by
  rw [parseExportLine_eq]
  rfl

end SplunkLogs
