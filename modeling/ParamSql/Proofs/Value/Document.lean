import ParamSql.Proofs.Outcome
import ParamSql.Proofs.Value.Classified
import ParamSql.Value.Json

/-!
# Values and their documents

Writing a value as a document and reading documents as values are inverse to each other, up to the
one thing that a value does not keep: whether a container with positions for keys was written as an
array or as an object.
-/
namespace ParamSql

namespace Json

mutual

/-- Every object holds every key once, at every depth. -/
def KeysDistinct : Json → Prop
  | .array items => KeysDistinctInItems items
  | .object ⟨entries⟩ => KeyedMap.KeysDistinct ⟨entries⟩ ∧ KeysDistinctInEntries entries
  | _ => True

/-- So do the objects in the items of an array. -/
def KeysDistinctInItems : List Json → Prop
  | [] => True
  | item :: rest => KeysDistinct item ∧ KeysDistinctInItems rest

/-- So do the objects in the entries of an object. -/
def KeysDistinctInEntries : List (String × Json) → Prop
  | [] => True
  | (_, value) :: rest => KeysDistinct value ∧ KeysDistinctInEntries rest

end

mutual

/-- The document with an array in place of every object whose keys are positions. -/
def listed : Json → Json
  | .array items => .array (listedItems items)
  | .object ⟨entries⟩ =>
    if KeyedMap.hasPositionalKeys (⟨entries⟩ : KeyedMap Json) then
      .array ((listedEntries entries).map Prod.snd)
    else .object ⟨listedEntries entries⟩
  | document => document

/-- The items of an array with arrays in these places. -/
def listedItems : List Json → List Json
  | [] => []
  | item :: rest => listed item :: listedItems rest

/-- The entries of an object with arrays in these places. -/
def listedEntries : List (String × Json) → List (String × Json)
  | [] => []
  | (key, value) :: rest => (key, listed value) :: listedEntries rest

end

end Json

/-- Whether the keys of a map are positions depends on the keys alone. -/
theorem KeyedMap.hasPositionalKeys_congr {α β : Type} {map : KeyedMap α} {other : KeyedMap β}
    (same : map.keys = other.keys) : map.hasPositionalKeys = other.hasPositionalKeys := by
  have sizes : map.size = other.size := by
    simpa [keys, size] using congrArg List.length same
  rw [hasPositionalKeys, hasPositionalKeys, same, sizes]

namespace Value

mutual

/-- A classified value is read back from its document. -/
theorem ofJson_toJson : ∀ {value : Value}, value.Classified → ofJson value.toJson = .ok value
  | .scalar given, _ => by
    cases given with
    | integer value => simp [toJson, Scalar.toJson, ofJson, Number.toInt64?_ofInt64]
    | _ => rfl
  | .list items, classified => by
    rw [toJson, ofJson, ofJsonItems_toJsonItems classified]
    rfl
  | .map ⟨entries⟩, ⟨distinct, keyed, classified⟩ => by
    rw [toJson, ofJson, ofJsonEntries_toJsonEntries classified]
    simp [ofEntries_of_distinct distinct, ofMap, keyed]

theorem ofJsonItems_toJsonItems : ∀ {items : List Value}, ClassifiedItems items →
    ofJsonItems (toJsonItems items) = .ok items
  | [], _ => rfl
  | item :: rest, ⟨first, others⟩ => by
    rw [toJsonItems, ofJsonItems, ofJson_toJson first, ofJsonItems_toJsonItems others]
    rfl

theorem ofJsonEntries_toJsonEntries : ∀ {entries : List (String × Value)},
    ClassifiedEntries entries → ofJsonEntries (toJsonEntries entries) = .ok entries
  | [], _ => rfl
  | (key, value) :: rest, ⟨first, others⟩ => by
    rw [toJsonEntries, ofJsonEntries, ofJson_toJson first, ofJsonEntries_toJsonEntries others]
    rfl

end

/-- A keyed map is written as an object, and read as what the map becomes as a value. -/
theorem ofJson_mapToJson {map : KeyedMap Value} (distinct : map.KeysDistinct)
    (each : ∀ value ∈ map.values, value.Classified) : ofJson (mapToJson map) = .ok (ofMap map) := by
  have classified := classifiedEntries_iff.mpr (List.forall_mem_map.mp each)
  rw [mapToJson, ofJson, ofJsonEntries_toJsonEntries classified]
  exact congrArg Except.ok (ofEntries_of_distinct distinct)

mutual

/-- What is read from a document is classified. -/
theorem classified_of_ofJson : ∀ {document : Json} {value : Value},
    ofJson document = .ok value → value.Classified
  | .null, _, success | .bool _, _, success | .string _, _, success => by
    cases success
    trivial
  | .number number, _, success => by
    rw [ofJson] at success
    split at success <;> cases success
    trivial
  | .array items, _, success => by
    obtain ⟨values, inside, same⟩ := Outcome.bind_eq_ok.mp success
    cases same
    exact classifiedItems_iff.mpr (classified_of_ofJsonItems inside)
  | .object ⟨entries⟩, _, success => by
    obtain ⟨values, inside, same⟩ := Outcome.bind_eq_ok.mp success
    cases same
    exact classified_ofEntries (classified_of_ofJsonEntries inside)

theorem classified_of_ofJsonItems : ∀ {items : List Json} {values : List Value},
    ofJsonItems items = .ok values → ∀ value ∈ values, value.Classified
  | [], _, success => by
    cases success
    simp
  | item :: rest, _, success => by
    simp only [ofJsonItems, Outcome.bind_eq_ok, Outcome.pure_eq, Except.ok.injEq] at success
    obtain ⟨value, first, values, others, rfl⟩ := success
    exact List.forall_mem_cons.mpr
      ⟨classified_of_ofJson first, classified_of_ofJsonItems others⟩

theorem classified_of_ofJsonEntries : ∀ {entries : List (String × Json)}
    {values : List (String × Value)}, ofJsonEntries entries = .ok values →
      ∀ entry ∈ values, entry.2.Classified
  | [], _, success => by
    cases success
    simp
  | (key, item) :: rest, _, success => by
    simp only [ofJsonEntries, Outcome.bind_eq_ok, Outcome.pure_eq, Except.ok.injEq] at success
    obtain ⟨value, first, values, others, rfl⟩ := success
    exact List.forall_mem_cons.mpr
      ⟨classified_of_ofJson first, classified_of_ofJsonEntries others⟩

end

theorem keys_of_ofJsonEntries {entries : List (String × Json)} {values : List (String × Value)}
    (success : ofJsonEntries entries = .ok values) :
    values.map Prod.fst = entries.map Prod.fst := by
  induction entries generalizing values with
  | nil =>
    cases success
    rfl
  | cons entry rest ih =>
    obtain ⟨key, item⟩ := entry
    simp only [ofJsonEntries, Outcome.bind_eq_ok, Outcome.pure_eq, Except.ok.injEq] at success
    obtain ⟨value, first, others, later, rfl⟩ := success
    rw [List.map_cons, List.map_cons, ih later]

theorem toJsonItems_values (entries : List (String × Value)) :
    toJsonItems (entries.map Prod.snd) = (toJsonEntries entries).map Prod.snd := by
  induction entries with
  | nil => rfl
  | cons entry rest ih => rw [List.map_cons, toJsonItems, toJsonEntries, List.map_cons, ih]

mutual

/-- The document of what is read from a document has arrays in place of the objects whose keys
are positions, and is that document otherwise. -/
theorem toJson_of_ofJson : ∀ {document : Json} {value : Value}, document.KeysDistinct →
    ofJson document = .ok value → value.toJson = document.listed
  | .null, _, _, success | .bool _, _, _, success | .string _, _, _, success => by
    cases success
    rfl
  | .number number, _, _, success => by
    rw [ofJson] at success
    split at success
    · next integer found =>
      cases success
      rw [Number.eq_ofInt64_of_toInt64? found]
      rfl
    · cases success
  | .array items, _, distinct, success => by
    obtain ⟨values, inside, same⟩ := Outcome.bind_eq_ok.mp success
    cases same
    rw [toJson, Json.listed, toJsonItems_of_ofJsonItems distinct inside]
  | .object ⟨entries⟩, _, ⟨distinct, below⟩, success => by
    obtain ⟨values, inside, same⟩ := Outcome.bind_eq_ok.mp success
    cases same
    have written := toJsonEntries_of_ofJsonEntries below inside
    have keys : KeyedMap.keys ⟨values⟩ = KeyedMap.keys ⟨entries⟩ := keys_of_ofJsonEntries inside
    have positional := KeyedMap.hasPositionalKeys_congr keys
    have apart : KeyedMap.KeysDistinct ⟨values⟩ := by
      rw [KeyedMap.KeysDistinct, keys]
      exact distinct
    rw [ofEntries_of_distinct apart, ofMap, positional, Json.listed]
    split
    · rw [toJson, KeyedMap.values, toJsonItems_values, written]
    · rw [toJson, written]

theorem toJsonItems_of_ofJsonItems : ∀ {items : List Json} {values : List Value},
    Json.KeysDistinctInItems items → ofJsonItems items = .ok values →
      toJsonItems values = Json.listedItems items
  | [], _, _, success => by
    cases success
    rfl
  | item :: rest, _, ⟨here, there⟩, success => by
    simp only [ofJsonItems, Outcome.bind_eq_ok, Outcome.pure_eq, Except.ok.injEq] at success
    obtain ⟨value, first, values, others, rfl⟩ := success
    rw [toJsonItems, Json.listedItems, toJson_of_ofJson here first,
      toJsonItems_of_ofJsonItems there others]

theorem toJsonEntries_of_ofJsonEntries : ∀ {entries : List (String × Json)}
    {values : List (String × Value)}, Json.KeysDistinctInEntries entries →
      ofJsonEntries entries = .ok values → toJsonEntries values = Json.listedEntries entries
  | [], _, _, success => by
    cases success
    rfl
  | (key, item) :: rest, _, ⟨here, there⟩, success => by
    simp only [ofJsonEntries, Outcome.bind_eq_ok, Outcome.pure_eq, Except.ok.injEq] at success
    obtain ⟨value, first, values, others, rfl⟩ := success
    rw [toJsonEntries, Json.listedEntries, toJson_of_ofJson here first,
      toJsonEntries_of_ofJsonEntries there others]

end

/-- Values and documents agree both ways: a classified value is read back from its document, a map
is read back from its object as what it becomes as a value, and a document with distinct keys that
is read is written again with arrays in place of the objects whose keys are positions, which are
read as the same value. -/
theorem documents_agree :
    (∀ value : Value, value.Classified → ofJson value.toJson = .ok value) ∧
    (∀ map : KeyedMap Value, map.KeysDistinct → (∀ value ∈ map.values, value.Classified) →
      ofJson (mapToJson map) = .ok (ofMap map)) ∧
    ∀ (document : Json) (value : Value), document.KeysDistinct → ofJson document = .ok value →
      value.toJson = document.listed ∧ ofJson document.listed = .ok value := by
  refine ⟨fun _ => ofJson_toJson, fun _ => ofJson_mapToJson, ?_⟩
  intro document value distinct success
  have written := toJson_of_ofJson distinct success
  exact ⟨written, written ▸ ofJson_toJson (classified_of_ofJson success)⟩

/-- An array inside a map whose only key is a position, but not the first one. -/
def keyedSample : Value := .map ⟨[("1", .list [.integer (-1), .null, .map ⟨[("", .list [])]⟩])]⟩

/-- An object with positions for keys that holds an empty object, and one with a position that is
out of order. -/
def positionalSample : Json :=
  .object ⟨[("0", .object ⟨[]⟩),
    ("1", .object ⟨[("1", .number (.integer 7)), ("0", .bool true)]⟩)]⟩

theorem documents_agree_samples :
    ofJson keyedSample.toJson = .ok keyedSample ∧
    ofJson (mapToJson ⟨[("0", keyedSample)]⟩) = .ok (.list [keyedSample]) ∧
    positionalSample.listed =
      .array [.array [], .object ⟨[("1", .number (.integer 7)), ("0", .bool true)]⟩] ∧
    ∃ value, ofJson positionalSample = .ok value ∧ value.toJson = positionalSample.listed ∧
      ofJson positionalSample.listed = .ok value := by
  have single (key : String) (value : Value) : KeyedMap.KeysDistinct ⟨[(key, value)]⟩ :=
    List.nodup_cons.mpr ⟨List.not_mem_nil, List.nodup_nil⟩
  have inner : Classified (.map ⟨[("", .list [])]⟩) := ⟨single "" _, by decide, trivial, trivial⟩
  have classified : keyedSample.Classified :=
    ⟨single "1" _, by decide, ⟨trivial, trivial, inner, trivial⟩, trivial⟩
  have distinct : positionalSample.KeysDistinct := by
    simp [positionalSample, Json.KeysDistinct, Json.KeysDistinctInEntries, KeyedMap.KeysDistinct,
      KeyedMap.keys]
  obtain ⟨values, maps, documents⟩ := documents_agree
  have mapped := maps ⟨[("0", keyedSample)]⟩ (single "0" _)
    (by simpa [KeyedMap.values] using classified)
  exact ⟨values _ classified, mapped, rfl, _, rfl, documents _ _ distinct rfl⟩

end Value

end ParamSql
