import Mathlib.Data.List.Find
import SplunkLogs.Properties.Attributes
import SplunkLogs.Properties.Projection

/-!
# The order of members

A JSON object has no order of members. Where its keys are distinct, the order in which Splunk sends
those of an event shows nowhere in its row, but in the texts of the attributes, which are written
in that order.
-/
namespace SplunkLogs

open Foundation

/-- The same value up to the order of members, at any depth. Members change places where their
keys are distinct, read as C strings; of two with one key the first counts. -/
inductive Reordered : Json → Json → Prop
  | refl (value : Json) : Reordered value value
  | members {first second : List (Bytes × Json)}
      (distinct : ((readFields first).map Prod.fst).Nodup) (perm : first.Perm second) :
      Reordered (.obj first) (.obj second)
  | member (front : List (Bytes × Json)) (key : Bytes) (behind : List (Bytes × Json))
      {value other : Json} (inside : Reordered value other) :
      Reordered (.obj (front ++ (key, value) :: behind)) (.obj (front ++ (key, other) :: behind))
  | item (front behind : List Json) {value other : Json} (inside : Reordered value other) :
      Reordered (.arr (front ++ value :: behind)) (.arr (front ++ other :: behind))
  | trans {first second third : Json} (left : Reordered first second)
      (right : Reordered second third) : Reordered first third

namespace Reordered

variable {first second : Json} {event other : Json} {env : Externals}

/-- Only objects and arrays have something to reorder. -/
theorem shape (same : Reordered first second) :
    (∃ members others, first = .obj members ∧ second = .obj others) ∨
    (∃ items others, first = .arr items ∧ second = .arr others) ∨ first = second := by
  induction same with
  | refl value => exact .inr (.inr rfl)
  | members => exact .inl ⟨_, _, rfl, rfl⟩
  | member => exact .inl ⟨_, _, rfl, rfl⟩
  | item => exact .inr (.inl ⟨_, _, rfl, rfl⟩)
  | trans _ _ left right =>
    rcases left with ⟨_, _, rfl, rfl⟩ | ⟨_, _, rfl, rfl⟩ | rfl
    · rcases right with ⟨_, others, same, rfl⟩ | ⟨_, _, same, _⟩ | rfl
      · exact .inl ⟨_, others, rfl, rfl⟩
      · cases same
      · exact .inl ⟨_, _, rfl, rfl⟩
    · rcases right with ⟨_, _, same, _⟩ | ⟨_, others, same, rfl⟩ | rfl
      · cases same
      · exact .inr (.inl ⟨_, others, rfl, rfl⟩)
      · exact .inr (.inl ⟨_, _, rfl, rfl⟩)
    · exact right

theorem isObj (same : Reordered first second) : first.isObj = second.isObj := by
  rcases same.shape with ⟨_, _, rfl, rfl⟩ | ⟨_, _, rfl, rfl⟩ | rfl <;> rfl

theorem found_refl (found : Option Json) : Option.Rel Reordered found found := by
  cases found with
  | none => exact .none
  | some value => exact .some (.refl value)

theorem found_trans {left middle right : Option Json} (first : Option.Rel Reordered left middle)
    (second : Option.Rel Reordered middle right) : Option.Rel Reordered left right := by
  cases first with
  | none => exact second
  | some near =>
    cases second with
    | some far => exact .some (near.trans far)

/-- What the two hold under a key is the same up to the order of members. -/
theorem objGet (same : Reordered first second) (key : Bytes) :
    Option.Rel Reordered (first.objGet key) (second.objGet key) := by
  induction same with
  | refl value => exact found_refl _
  | @members first second distinct perm =>
    have one : ({member ∈ first | (member.1 == key) = true} :
        Set (Bytes × Json)).Subsingleton := by
      intro a ⟨mine, named⟩ b ⟨yours, alsoNamed⟩
      have keys : (first.map Prod.fst).Nodup := by
        rw [readFields, List.map_map] at distinct
        have through : Prod.fst ∘ (fun member : Bytes × Json => (cString member.1, member.2)) =
            cString ∘ Prod.fst := rfl
        rw [through, ← List.map_map] at distinct
        exact distinct.of_map cString
      exact List.inj_on_of_nodup_map keys mine yours
        ((beq_iff_eq.mp named).trans (beq_iff_eq.mp alsoNamed).symm)
    rw [Json.objGet, Json.objGet, List.find?_eq_find?_of_perm perm one]
    exact found_refl _
  | member front name behind inside =>
    simp only [Json.objGet, List.find?_append, List.find?_cons]
    cases List.find? (fun member => member.1 == key) front with
    | some found => exact found_refl _
    | none =>
      cases name == key with
      | true => exact .some inside
      | false => exact found_refl _
  | item => exact .none
  | trans _ _ left right => exact found_trans left right

theorem getStr {object other : Option Json} (same : Option.Rel Reordered object other)
    (key : Bytes) : getStr object key = SplunkLogs.getStr other key := by
  cases same with
  | none => rfl
  | @some first second inside =>
    have found := inside.objGet key
    simp only [SplunkLogs.getStr, Option.bind_some]
    generalize first.objGet key = left, second.objGet key = right at found ⊢
    cases found with
    | none => rfl
    | some value => rcases value.shape with ⟨_, _, rfl, rfl⟩ | ⟨_, _, rfl, rfl⟩ | rfl <;> rfl

theorem lookupStr {sources others : List (Option Json)}
    (same : List.Forall₂ (Option.Rel Reordered) sources others) (keys : List Bytes) :
    lookupStr sources keys = SplunkLogs.lookupStr others keys := by
  unfold SplunkLogs.lookupStr
  induction same with
  | nil => rfl
  | cons source _ rest =>
    have here : (fun key => SplunkLogs.getStr _ key) = fun key => SplunkLogs.getStr _ key :=
      funext (getStr source)
    rw [List.findSome?_cons, List.findSome?_cons, here, rest]

theorem eventFields (same : Reordered event other) :
    Option.Rel Reordered (eventFields event) (SplunkLogs.eventFields other) := by
  have found := same.objGet (ascii "fields")
  unfold SplunkLogs.eventFields
  generalize event.objGet (ascii "fields") = left, other.objGet (ascii "fields") = right at found ⊢
  cases found with
  | none => exact .none
  | some inside =>
    rw [Option.filter_some, Option.filter_some, inside.isObj]
    split
    · exact .some inside
    · exact .none

theorem parseRawObject (same : Reordered event other) :
    parseRawObject env event = SplunkLogs.parseRawObject env other := by
  unfold SplunkLogs.parseRawObject
  rw [getStr (.some same)]

/-- The three sources of a text column. -/
theorem textSources (same : Reordered event other) (keys : List Bytes) :
    SplunkLogs.lookupStr
        [some event, SplunkLogs.eventFields event, SplunkLogs.parseRawObject env event] keys =
      SplunkLogs.lookupStr
        [some other, SplunkLogs.eventFields other, SplunkLogs.parseRawObject env other] keys := by
  apply lookupStr
  rw [same.parseRawObject]
  exact .cons (.some same) (.cons same.eventFields (.cons (found_refl _) .nil))

theorem timestampValue (same : Reordered event other) :
    timestampValue env event = SplunkLogs.timestampValue env other := by
  have found := same.objGet (ascii "_time")
  unfold SplunkLogs.timestampValue
  generalize event.objGet (ascii "_time") = left, other.objGet (ascii "_time") = right at found ⊢
  cases found with
  | none => rfl
  | some value => rcases value.shape with ⟨_, _, rfl, rfl⟩ | ⟨_, _, rfl, rfl⟩ | rfl <;> rfl

theorem resourceFields (same : Reordered event other) :
    resourceFields event = SplunkLogs.resourceFields other := by
  unfold SplunkLogs.resourceFields
  simp only [getStr (.some same)]

theorem visibleFields_perm {members others : List (Bytes × Json)} (perm : members.Perm others) :
    (visibleFields members).Perm (visibleFields others) :=
  (perm.map _).filter _

theorem visibleFields_nodup {members : List (Bytes × Json)}
    (distinct : ((readFields members).map Prod.fst).Nodup) :
    ((visibleFields members).map Prod.fst).Nodup :=
  distinct.sublist (List.filter_sublist.map Prod.fst)

theorem visibleFields_append (members others : List (Bytes × Json)) :
    visibleFields (members ++ others) = visibleFields members ++ visibleFields others := by
  simp [visibleFields, readFields]

theorem visibleFields_member (front behind : List (Bytes × Json)) (key : Bytes) (value : Json) :
    visibleFields (front ++ (key, value) :: behind) =
      visibleFields front ++ (visibleFields [(key, value)] ++ visibleFields behind) := by
  rw [← visibleFields_append, ← visibleFields_append, List.singleton_append]

theorem visibleFields_noNul {members : List (Bytes × Json)} {field : Bytes × Json}
    (visible : field ∈ visibleFields members) : 0 ∉ field.1 := by
  obtain ⟨member, _, rfl⟩ := List.mem_map.mp (List.mem_of_mem_filter visible)
  exact not_mem_cString member.1

/-- The keys that are written are the ones that were read. -/
theorem readFields_logFields (members : List (Bytes × Json)) (rawObj : Option Json) :
    (readFields (SplunkLogs.logFields members rawObj)).map Prod.fst =
      (SplunkLogs.logFields members rawObj).map Prod.fst := by
  rw [readFields, List.map_map, List.map_inj_left]
  intro field written
  apply cString_of_no_nul
  have key : field.1 ∈ (SplunkLogs.logFields members rawObj).map Prod.fst :=
    List.mem_map_of_mem written
  rw [(logFields_firstWins members rawObj).keys, List.mem_eraseDups, List.mem_map] at key
  obtain ⟨source, visible, same⟩ := key
  rw [← same]
  rcases List.mem_append.mp visible with mine | payload
  · exact visibleFields_noNul mine
  · exact visibleFields_noNul payload

/-- The fields of `log_attributes` are reordered with the members of the event. -/
theorem logFields (same : Reordered event other) (rawObj : Option Json) :
    Reordered (.obj (logFields (sourceMembers (some event)) rawObj))
      (.obj (SplunkLogs.logFields (sourceMembers (some other)) rawObj)) := by
  induction same with
  | refl value => exact .refl _
  | @members first second distinct perm =>
    refine .members ?_ ?_
    · rw [readFields_logFields]
      exact (logFields_firstWins _ rawObj).nodup
    · have visible := visibleFields_nodup distinct
      have moved := visibleFields_perm perm
      show (SplunkLogs.logFields first rawObj).Perm (SplunkLogs.logFields second rawObj)
      rw [SplunkLogs.logFields, SplunkLogs.logFields, List.foldl_append, List.foldl_append,
        foldl_addNew_of_nodup [] (visibleFields first) visible,
        foldl_addNew_of_nodup [] (visibleFields second)
          ((moved.map Prod.fst).nodup_iff.mp visible)]
      exact foldl_addNew_perm moved _
  | @member front key behind value other inside =>
    show Reordered (.obj (SplunkLogs.logFields (front ++ (key, value) :: behind) rawObj))
      (.obj (SplunkLogs.logFields (front ++ (key, other) :: behind) rawObj))
    rw [SplunkLogs.logFields, SplunkLogs.logFields, visibleFields_member, visibleFields_member]
    cases internal : isInternalField (cString key) with
    | true =>
      have hidden : ∀ value, visibleFields [(key, value)] = [] := by
        intro value
        simp [visibleFields, readFields, internal]
      rw [hidden, hidden]
      exact .refl _
    | false =>
      have shown : ∀ value, visibleFields [(key, value)] = [(cString key, value)] := by
        intro value
        simp [visibleFields, readFields, internal]
      rw [shown, shown]
      simp only [List.append_assoc, List.cons_append, List.nil_append]
      -- A value that is replaced is either written in its place or not at all.
      rcases foldl_addNew_value (visibleFields front)
          (visibleFields behind ++ visibleFields (sourceMembers rawObj)) (cString key) with
        ⟨fields, dropped⟩ | ⟨before, after, kept⟩
      · rw [dropped, dropped]
        exact .refl _
      · rw [kept, kept]
        exact .member before (cString key) after inside
  | item => exact .refl _
  | trans _ _ left right => exact left.trans right

theorem severityString (same : Reordered event other) :
    severityString env event = SplunkLogs.severityString env other :=
  same.textSources _

theorem textColumnValue (same : Reordered event other) (keys : List Bytes) :
    textColumnValue env event keys = SplunkLogs.textColumnValue env other keys := by
  rw [SplunkLogs.textColumnValue, SplunkLogs.textColumnValue, same.textSources]

/-- All columns but the one that lists the members are the same. -/
theorem columnValue (same : Reordered event other) {column : Nat}
    (unlisted : column ≠ colLogAttrs) :
    columnValue env event column = SplunkLogs.columnValue env other column := by
  have bags : buildResourceAttributes env event = buildResourceAttributes env other := by
    rw [buildResourceAttributes_eq, buildResourceAttributes_eq, same.resourceFields]
  unfold SplunkLogs.columnValue
  rw [same.timestampValue, same.severityString, bags]
  simp only [same.textColumnValue]
  split <;> first | rfl | exact absurd rfl unlisted

theorem objects (same : Reordered event other) (object : event.isObj = true) :
    ∃ members others, event = .obj members ∧ other = .obj others := by
  rcases same.shape with shape | ⟨_, _, rfl, rfl⟩ | rfl
  · exact shape
  · cases object
  · cases event with
    | obj members => exact ⟨members, members, rfl, rfl⟩
    | _ => cases object

end Reordered

/-- For every event and every one that differs from it in the order of members only, at any
depth and in objects with distinct keys: the rows agree in every column but `log_attributes`, and
the two texts there are written of objects that differ in the order of members only. -/
theorem member_order_irrelevant {event other : Json} (same : Reordered event other)
    (object : event.isObj = true) (env : Externals) (columnIds : List Nat) :
    ∃ fields otherFields, Reordered (.obj fields) (.obj otherFields) ∧
      ∀ c column : Nat, columnIds[c]? = some column →
        if column = colLogAttrs then
          (mapEvent env event columnIds)[c]? =
            some (attributesValue (attributesText env fields)) ∧
          (mapEvent env other columnIds)[c]? =
            some (attributesValue (attributesText env otherFields))
        else (mapEvent env event columnIds)[c]? = (mapEvent env other columnIds)[c]? := by
  obtain ⟨members, others, rfl, rfl⟩ := same.objects object
  refine ⟨_, _, same.logFields (parseRawObject env (.obj members)), ?_⟩
  intro c column selected
  rw [mapEvent_slot env _ selected, mapEvent_slot env _ selected]
  split
  next listed =>
    rw [listed]
    constructor
    · exact congrArg (fun text => some (attributesValue text)) (buildLogAttributes_eq env _ _)
    · rw [same.parseRawObject]
      exact congrArg (fun text => some (attributesValue text)) (buildLogAttributes_eq env _ _)
  next unlisted => rw [same.columnValue unlisted]

/-- A level before or behind the fields, whose members change places as well. -/
theorem member_order_irrelevant_swapped :
    (mapEvent (.ofText (ascii "{}"))
        (.obj [(ascii "fields", .obj [(ascii "trace_id", .str (ascii "7")),
          (ascii "service", .str (ascii "web"))]), (ascii "level", .str (ascii "info"))])
        [colServiceName])[0]? = some (.varchar (ascii "web")) := by
  have level : Reordered
      (.obj [(ascii "level", .str (ascii "info")), (ascii "fields",
        .obj [(ascii "service", .str (ascii "web")), (ascii "trace_id", .str (ascii "7"))])])
      (.obj [(ascii "fields", .obj [(ascii "service", .str (ascii "web")),
        (ascii "trace_id", .str (ascii "7"))]), (ascii "level", .str (ascii "info"))]) :=
    .members (by decide) (.swap _ _ [])
  have fields : Reordered
      (.obj [(ascii "service", .str (ascii "web")), (ascii "trace_id", .str (ascii "7"))])
      (.obj [(ascii "trace_id", .str (ascii "7")), (ascii "service", .str (ascii "web"))]) :=
    .members (by decide) (.swap _ _ [])
  obtain ⟨_, _, _, slots⟩ := member_order_irrelevant
    (level.trans (.member [] (ascii "fields") [(ascii "level", .str (ascii "info"))] fields)) rfl
    (.ofText (ascii "{}")) [colServiceName]
  have slot := slots 0 colServiceName rfl
  rw [if_neg (by decide)] at slot
  refine slot.symm.trans ?_
  decide

end SplunkLogs
