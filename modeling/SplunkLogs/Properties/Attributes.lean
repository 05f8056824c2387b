import SplunkLogs.Spec.Attributes

/-!
# The two attribute bags

`log_attributes` is the union of the event and its payload in which the event wins. A field
of the event reaches exactly one of the two bags where its key and value carry over.
-/
namespace SplunkLogs

open Foundation

section Copying

/-- One round of the copying loop, without the flag. -/
theorem copyField_fields (state : List (Bytes × Json) × Bool) (member : Bytes × Json) :
    (copyField state member).1 = (visibleFields [member]).foldl addNew state.1 := by
  unfold copyField visibleFields readFields
  cases internal : isInternalField (cString member.1) with
  | true => simp [internal]
  | false =>
    simp only [Bool.false_eq_true, if_false, List.map_cons, List.map_nil, List.filter_cons,
      internal, Bool.not_false, if_true, List.filter_nil, List.foldl_cons, List.foldl_nil, addNew]
    cases state.1.any fun present => present.1 == cString member.1 with
    | true => rfl
    | false => rfl

theorem copyFields_fields (members : List (Bytes × Json))
    (state : List (Bytes × Json) × Bool) :
    (members.foldl copyField state).1 = (visibleFields members).foldl addNew state.1 := by
  induction members generalizing state with
  | nil => rfl
  | cons member rest ih =>
    have split : visibleFields (member :: rest) =
        visibleFields [member] ++ visibleFields rest := by
      simp [visibleFields, readFields, List.filter_cons]
      split <;> rfl
    rw [List.foldl_cons, ih, copyField_fields, split, List.foldl_append]

/-- The flag says whether anything has been added to what was there. -/
theorem copyFields_flag (members : List (Bytes × Json)) (state : List (Bytes × Json) × Bool)
    (before : Bool) (known : (state.2 || before) = !state.1.isEmpty) :
    ((members.foldl copyField state).2 || before) =
      !(members.foldl copyField state).1.isEmpty := by
  induction members generalizing state with
  | nil => exact known
  | cons member rest ih =>
    rw [List.foldl_cons]
    apply ih
    dsimp only [copyField]
    split
    · exact known
    · split
      · exact known
      · simp

theorem copyNonInternalFields_fields (root : List (Bytes × Json)) (source : Option Json) :
    (copyNonInternalFields root source).1 =
      (visibleFields (sourceMembers source)).foldl addNew root := by
  cases source with
  | none => rfl
  | some value =>
    cases value with
    | obj members => exact copyFields_fields members (root, false)
    | _ => rfl

theorem copyNonInternalFields_flag (root : List (Bytes × Json)) (source : Option Json) :
    ((copyNonInternalFields root source).2 || !root.isEmpty) =
      !(copyNonInternalFields root source).1.isEmpty := by
  cases source with
  | none => simp [copyNonInternalFields]
  | some value =>
    cases value with
    | obj members => exact copyFields_flag members (root, false) _ (by simp)
    | _ => simp [copyNonInternalFields]

end Copying

variable (env : Externals) (members : List (Bytes × Json)) (rawObj : Option Json)

/-- `log_attributes` is the text of its fields. -/
theorem buildLogAttributes_eq :
    buildLogAttributes env (.obj members) rawObj =
      attributesText env (logFields members rawObj) := by
  have first := copyNonInternalFields_fields [] (some (.obj members))
  have second := copyNonInternalFields_fields
    (copyNonInternalFields [] (some (.obj members))).1 rawObj
  have added := copyNonInternalFields_flag [] (some (.obj members))
  have more := copyNonInternalFields_flag (copyNonInternalFields [] (some (.obj members))).1 rawObj
  rw [List.isEmpty_nil, Bool.not_true, Bool.or_false] at added
  rw [← added] at more
  have fields : (copyNonInternalFields (copyNonInternalFields [] (some (.obj members))).1
      rawObj).1 = logFields members rawObj := by
    rw [second, first, logFields, List.foldl_append]
    rfl
  simp only [buildLogAttributes, more, fields, attributesText]
  cases (logFields members rawObj).isEmpty <;> rfl

theorem buildResourceAttributes_eq (event : Json) :
    buildResourceAttributes env event = attributesText env (resourceFields event) := rfl

theorem logFields_firstWins :
    FirstWins (visibleFields members ++ visibleFields (sourceMembers rawObj))
      (logFields members rawObj) :=
  FirstWins.nil.addAll (visibleFields members ++ visibleFields (sourceMembers rawObj))

/-- A field that is internal is not visible, any other has the value that is read. -/
theorem lookup_visibleFields (key : Bytes) :
    (visibleFields members).lookup key =
      if isInternalField key then none else (readFields members).lookup key := by
  unfold visibleFields
  induction readFields members with
  | nil => simp
  | cons field rest ih =>
    obtain ⟨name, value⟩ := field
    by_cases same : key = name
    · subst same
      cases internal : isInternalField key with
      | true => simpa [internal] using ih
      | false => simp [internal]
    · have other : (key == name) = false := by simpa using same
      cases internal : isInternalField name <;> simp [internal, List.lookup_cons, other, ih]

/-- The fields the code takes for internal ones. -/
theorem isInternalField_iff (key : Bytes) : isInternalField key = true ↔ Internal key := by
  simp only [isInternalField, isResourceKey, resourceKeys, List.any_cons, List.any_nil,
    Bool.or_false, Bool.or_eq_true, beq_iff_eq, List.contains_iff_mem, Internal, internalNames,
    List.mem_cons, List.not_mem_nil, or_false, or_assoc]

theorem not_isInternalField (key : Bytes) : (!isInternalField key) = decide (¬Internal key) := by
  rw [Bool.eq_iff_iff, Bool.not_eq_true', decide_eq_true_iff, ← isInternalField_iff,
    Bool.not_eq_true]

theorem visibleFields_keys : (visibleFields members).map Prod.fst = shownKeys members := by
  simp only [visibleFields, shownKeys, not_isInternalField, List.filter_map]
  rfl

theorem shownKeys_eq_nil :
    shownKeys members = [] ↔ ∀ member ∈ members, Internal (cString member.1) := by
  rw [shownKeys, List.filter_eq_nil_iff, List.forall_mem_map, readFields, List.forall_mem_map]
  simp

theorem logFields_union : LeftBiasedUnion members (sourceMembers rawObj)
    (logFields members rawObj) := by
  have wins := logFields_firstWins members rawObj
  constructor
  · exact wins.nodup
  · intro key value
    rw [wins.mem_iff, List.lookup_append, lookup_visibleFields, lookup_visibleFields,
      ← isInternalField_iff]
    cases isInternalField key <;> simp
  · rw [wins.keys, List.map_append, List.eraseDups_append, visibleFields_keys, visibleFields_keys,
      List.removeAll]
    congr 2
    apply List.filter_congr
    intro key _
    simp

/-- For every event and payload: no text exactly if both have internal fields only, and
otherwise the text of their union, in which the event wins. An object with fields is written as
some text. -/
theorem buildLogAttributes_union
    (written : ∀ fields, fields ≠ [] → env.writeJson (.obj fields) ≠ []) :
    (buildLogAttributes env (.obj members) rawObj = [] ↔
      ∀ member ∈ members ++ sourceMembers rawObj, Internal (cString member.1)) ∧
    (buildLogAttributes env (.obj members) rawObj ≠ [] → ∃ fields,
      buildLogAttributes env (.obj members) rawObj = env.writeJson (.obj fields) ∧
      LeftBiasedUnion members (sourceMembers rawObj) fields) := by
  have wins := logFields_firstWins members rawObj
  have empty : logFields members rawObj = [] ↔
      ∀ member ∈ members ++ sourceMembers rawObj, Internal (cString member.1) := by
    rw [← List.map_eq_nil_iff (f := Prod.fst), wins.keys, eraseDups_eq_nil, List.map_append,
      List.append_eq_nil_iff, visibleFields_keys, visibleFields_keys, shownKeys_eq_nil,
      shownKeys_eq_nil, List.forall_mem_append]
  have text : buildLogAttributes env (.obj members) rawObj = [] ↔
      logFields members rawObj = [] := by
    rw [buildLogAttributes_eq, attributesText]
    cases fields : logFields members rawObj with
    | nil => simp
    | cons field rest => simpa using written _ (List.cons_ne_nil field rest)
  constructor
  · rw [text, empty]
  · intro some_
    refine ⟨logFields members rawObj, ?_, logFields_union members rawObj⟩
    have filled : (logFields members rawObj).isEmpty = false := by simpa [text] using some_
    rw [buildLogAttributes_eq, attributesText, filled]
    rfl

/-- An instance that writes one text. -/
def Externals.ofText (text : Bytes) : Externals := { Externals.ofRecords [] with
  writeJson := fun _ => text }

/-- A level in both sources, a field of the payload only, and internal fields: what is written
has the level of the event and then the field of the payload. -/
theorem buildLogAttributes_union_level : ∃ fields,
    buildLogAttributes (.ofText (ascii "\x7b\"level\":null,\"user\":\"x\"\x7d"))
      (.obj [(ascii "level", .null), (ascii "_cd", .null)])
      (some (.obj [(ascii "punct", .null), (ascii "level", .bool true),
        (ascii "user", .str (ascii "x"))])) =
      (Externals.ofText (ascii "\x7b\"level\":null,\"user\":\"x\"\x7d")).writeJson (.obj fields) ∧
    fields.map Prod.fst = [ascii "level", ascii "user"] ∧
    (ascii "level", Json.null) ∈ fields ∧ (ascii "user", Json.str (ascii "x")) ∈ fields := by
  obtain ⟨empty, union⟩ := buildLogAttributes_union
    (.ofText (ascii "\x7b\"level\":null,\"user\":\"x\"\x7d"))
    [(ascii "level", .null), (ascii "_cd", .null)]
    (some (.obj [(ascii "punct", .null), (ascii "level", .bool true),
      (ascii "user", .str (ascii "x"))])) fun _ _ => by simp [Externals.ofText, ascii]
  obtain ⟨fields, text, union⟩ := union fun none_ => by
    have internal := empty.mp none_ (ascii "level", .null) (by simp)
    revert internal
    decide
  refine ⟨fields, text, union.order.trans (by decide), ?_, ?_⟩
  · exact (union.values _ _).mpr ⟨by decide, rfl⟩
  · exact (union.values _ _).mpr ⟨by decide, rfl⟩

section Bags

variable {members} {rawObj} {key : Bytes} {value : Json}

/-- Field names that users see, apart from the metadata fields. -/
theorem isInternalField_shown (shown : key.head? ≠ some 95)
    (quiet : key ∉ [ascii "linecount", ascii "punct", ascii "eventtype"]) :
    isInternalField key = isResourceKey key := by
  have noUnderscore : (key.head? == some 95) = false := by simpa using shown
  have noNoise : [ascii "linecount", ascii "punct", ascii "eventtype"].contains key = false := by
    simpa using quiet
  rw [isInternalField, noUnderscore, noNoise, Bool.false_or, Bool.or_false]

/-- The mapped keys are distinct, so a resource attribute tells the field it comes from. -/
theorem inResourceAttributes_iff {event : Json} :
    InResourceAttributes event key value ↔
      isResourceKey key = true ∧ ∃ text, getStr (some event) key = some text ∧
        value = .str text := by
  have distinct : ∀ first ∈ resourceKeys, ∀ second ∈ resourceKeys,
      first.2 = second.2 → first.1 = second.1 := by decide
  constructor
  · rintro ⟨otlpKey, mapped, field⟩
    obtain ⟨mapping, listed, stored⟩ := List.mem_filterMap.mp field
    obtain ⟨text, found, pair⟩ := Option.map_eq_some_iff.mp stored
    simp only [Prod.mk.injEq] at pair
    obtain ⟨sameKey, rfl⟩ := pair
    have same : mapping.1 = key := distinct mapping listed (key, otlpKey) mapped sameKey
    subst same
    exact ⟨List.any_eq_true.mpr ⟨_, mapped, by simp⟩, text, found, rfl⟩
  · rintro ⟨metadata, text, found, rfl⟩
    obtain ⟨mapping, listed, same⟩ := List.any_eq_true.mp metadata
    have same : key = mapping.1 := by simpa using same
    subst same
    exact ⟨mapping.2, listed, List.mem_filterMap.mpr ⟨mapping, listed, by simp [found]⟩⟩

/-- A member that is removed does not show under other keys. -/
theorem objGet_without {other : Bytes} (differ : other ≠ key) :
    (Json.obj (members.filter fun member => member.1 != key)).objGet other =
      (Json.obj members).objGet other := by
  simp only [Json.objGet, List.find?_filter]
  congr 2
  funext member
  by_cases same : member.1 = other
  · subst same
    simp [differ]
  · simp [same]

theorem resourceFields_without (ordinary : isResourceKey key = false) :
    resourceFields (.obj (members.filter fun member => member.1 != key)) =
      resourceFields (.obj members) := by
  unfold resourceFields
  apply List.filterMap_congr
  intro mapping listed
  have differ : mapping.1 ≠ key := by
    intro same
    have metadata : isResourceKey key = true :=
      List.any_eq_true.mpr ⟨mapping, listed, by simp [same]⟩
    simp [metadata] at ordinary
  simp only [getStr, Option.bind_some, objGet_without differ]

/-- Keys in `log_attributes` end before their first NUL. -/
theorem lookup_readFields_nul (nul : 0 ∈ key) : (readFields members).lookup key = none := by
  apply List.lookup_eq_none_iff.mpr
  intro field member
  obtain ⟨original, _, rfl⟩ := List.mem_map.mp member
  have clean : 0 ∉ cString original.1 := by
    intro inside
    simpa using List.mem_takeWhile_imp inside
  simp only [bne_iff_ne, ne_eq]
  rintro rfl
  exact clean nul

theorem not_inLogAttributes_of_internal (internal : isInternalField key = true) :
    ¬InLogAttributes members rawObj key value := by
  intro field
  have visible := ((logFields_union members rawObj).values key value).mp field
  exact visible.1 ((isInternalField_iff key).mp internal)

/-- A metadata field is promoted exactly if it is a string without a NUL. -/
theorem inResourceAttributes_of_metadata (metadata : isResourceKey key = true)
    (found : (Json.obj members).objGet key = some value) :
    InResourceAttributes (.obj members) key value ↔ ∃ text, value = .str text ∧ 0 ∉ text := by
  rw [inResourceAttributes_iff]
  simp only [metadata, getStr, Option.bind_some, found, true_and]
  cases value with
  | str text =>
    simp only [Option.some.injEq, Json.str.injEq]
    constructor
    · rintro ⟨_, rfl, whole⟩
      exact ⟨text, rfl, (cString_eq_iff text).mp whole.symm⟩
    · rintro ⟨_, rfl, clean⟩
      exact ⟨_, rfl, (cString_of_no_nul text clean).symm⟩
  | _ => simp

/-- An ordinary field is copied exactly if its key is read as it is and found first. -/
theorem inLogAttributes_of_ordinary (ordinary : isInternalField key = false)
    (found : (Json.obj members).objGet key = some value) :
    InLogAttributes members rawObj key value ↔
      0 ∉ key ∧ (readFields members).lookup key = some value := by
  rw [InLogAttributes, (logFields_union members rawObj).values, ← isInternalField_iff]
  simp only [ordinary, Bool.false_eq_true, not_false_iff, true_and]
  by_cases nul : 0 ∈ key
  · simp [lookup_readFields_nul nul, nul]
  · -- The field itself is among those read, so the event answers for the key.
    have read : ((readFields members).lookup key).isSome = true := by
      simp only [Json.objGet, Option.map_eq_some_iff] at found
      obtain ⟨member, first, _⟩ := found
      have same : member.1 = key := by simpa using List.find?_some first
      apply lookup_isSome_of_mem
      rw [readFields, List.map_map, List.mem_map]
      exact ⟨member, List.mem_of_find?_eq_some first, by simp [same, cString_of_no_nul key nul]⟩
    obtain ⟨first, answer⟩ := Option.isSome_iff_exists.mp read
    simp [answer, nul]

end Bags

/-- For every event, payload and field users see: the two columns are the texts of the two
bags, and exactly one of these has the field if and only if key and value carry over. -/
theorem field_reaches_one_bag_iff {key : Bytes} {value : Json}
    (found : (Json.obj members).objGet key = some value) (shown : key.head? ≠ some 95)
    (quiet : key ∉ [ascii "linecount", ascii "punct", ascii "eventtype"]) :
    buildResourceAttributes env (.obj members) =
      attributesText env (resourceFields (.obj members)) ∧
    buildLogAttributes env (.obj members) rawObj =
      attributesText env (logFields members rawObj) ∧
    (ReachesOneBag members rawObj key value ↔ Carried members key value) := by
  refine ⟨buildResourceAttributes_eq env _, buildLogAttributes_eq env members rawObj, ?_⟩
  have internal := isInternalField_shown shown quiet
  unfold ReachesOneBag Carried
  cases metadata : isResourceKey key with
  | true =>
    rw [metadata] at internal
    simp only [if_true]
    rw [inResourceAttributes_of_metadata metadata found]
    constructor
    · exact fun both => both.1
    · exact fun whole => ⟨whole, fun _ => not_inLogAttributes_of_internal internal⟩
  | false =>
    rw [metadata] at internal
    simp only [Bool.false_eq_true, if_false]
    rw [inLogAttributes_of_ordinary internal found]
    constructor
    · exact fun all => all.1
    · intro carried
      refine ⟨carried, ?_, resourceFields_without metadata⟩
      intro other promoted
      have isKey := (inResourceAttributes_iff.mp promoted).1
      simp [metadata] at isKey

/-- A number under a key of the user's own. -/
theorem field_reaches_one_bag_level :
    ReachesOneBag [(ascii "host", .str (ascii "h")), (ascii "level", .num (.uint 3))] none
      (ascii "level") (.num (.uint 3)) :=
  (field_reaches_one_bag_iff (.ofRecords [])
    [(ascii "host", .str (ascii "h")), (ascii "level", .num (.uint 3))] none rfl (by decide)
    (by decide)).2.2.mpr ⟨by decide, rfl⟩

/-- Two hosts in an array: neither bag has them. -/
theorem host_array_lost :
    ¬ReachesOneBag [(ascii "host", .arr [.str (ascii "a"), .str (ascii "b")])] none
      (ascii "host") (.arr [.str (ascii "a"), .str (ascii "b")]) ∧
    resourceFields (.obj [(ascii "host", .arr [.str (ascii "a"), .str (ascii "b")])]) = [] ∧
    logFields [(ascii "host", .arr [.str (ascii "a"), .str (ascii "b")])] none = [] := by
  refine ⟨?_, rfl, rfl⟩
  rintro ⟨⟨otlpKey, _, field⟩, _⟩
  cases field

end SplunkLogs
