import ParamSql.Proofs.KeyedMap.History
import ParamSql.Proofs.Value.Document
import ParamSql.Proofs.Value.Maps

/-!
# Containers and their histories

A container is built from a history of entries, in which keys can repeat. Which container that is
can be told from the history alone, and so can everything that a keyed map answers while it is
filled. What is built from classified values has no map that is empty, repeats a key or has the keys
of a list.
-/
namespace ParamSql.Value

open KeyedMap (insertedKeys lastValue? exchangeAll)

/-- A keyed map becomes the list of its values when its keys are those of a list. -/
theorem ofMap_eq (map : KeyedMap Value) :
    ofMap map = if map.keys = positions map.size then .list map.values else .map map := by
  have positional : map.hasPositionalKeys = true ↔ map.keys = positions map.size :=
    decide_eq_true_iff
  unfold ofMap
  by_cases listed : map.keys = positions map.size
  · rw [if_pos (positional.mpr listed), if_pos listed]
  · rw [if_neg (mt positional.mp listed), if_neg listed]

/-- A history builds a list when the keys of its entries, each at its first place, are those of a
list, and a map with these keys otherwise. -/
theorem ofEntries_eq (history : List (String × Value)) :
    ofEntries history =
      if insertedKeys history = positions (insertedKeys history).length then
        .list (KeyedMap.ofList history).values
      else .map ⟨(insertedKeys history).zip (KeyedMap.ofList history).values⟩ := by
  have follows := KeyedMap.follows_ofList history
  have entries : KeyedMap.ofList history =
      ⟨(insertedKeys history).zip (KeyedMap.ofList history).values⟩ := by
    rw [← follows.keys_eq, ← KeyedMap.entries_eq_zip]
  rw [ofEntries, ofMap_eq, follows.keys_eq, follows.size_eq, ← entries]

/-- What a run of insertions answers, and the map that it leaves. -/
theorem answers_of_exchangeAll {history : List (String × Value)} {replaced : List (Option Value)}
    {map : KeyedMap Value} (run : exchangeAll .empty history = (replaced, map)) :
    map.Follows history ∧ map.KeysDistinct ∧ replaced.length = history.length ∧
      ∀ before key value after, history = before ++ (key, value) :: after →
        replaced[before.length]? = some (lastValue? before key) := by
  have built : map = KeyedMap.ofList history := by
    rw [← KeyedMap.exchangeAll_empty, run]
  have answers : replaced = (exchangeAll .empty history).1 := by rw [run]
  refine ⟨?_, ?_, ?_, ?_⟩
  · rw [built]
    exact KeyedMap.follows_ofList history
  · rw [built]
    exact KeyedMap.keysDistinct_ofList history
  · rw [answers]
    exact KeyedMap.length_replaced .empty history
  · intro before key value after split
    rw [answers, split]
    exact KeyedMap.follows_empty.replaced_eq before key value after

/-- Containers are what their histories say. The entries of a history build a list exactly when
their keys, each at its first place, are the positions in order, and a map otherwise; each key has
the value that was given last. A map that is filled by insertions has these keys and values in every
view of it, each insertion returns the value that it replaces, and as a value the map is what its
entries build. No map in a classified value is empty, repeats a key or has the keys of a list, and
all ways of building values keep them classified. -/
theorem construction_follows_history :
    (∀ history : List (String × Value), ∃ values,
      values.map some = (insertedKeys history).map (lastValue? history) ∧
      ofEntries history =
        if insertedKeys history = positions (insertedKeys history).length then .list values
        else .map ⟨(insertedKeys history).zip values⟩) ∧
    (∀ (history : List (String × Value)) (replaced : List (Option Value)) (map : KeyedMap Value),
      exchangeAll .empty history = (replaced, map) →
      map.keys.Nodup ∧ map.keys = insertedKeys history ∧
      map.size = (insertedKeys history).length ∧
      map.values.map some = (insertedKeys history).map (lastValue? history) ∧
      map.entries = (insertedKeys history).zip map.values ∧
      (∀ key, map.get? key = lastValue? history key) ∧
      replaced.length = history.length ∧
      (∀ before key value after, history = before ++ (key, value) :: after →
        replaced[before.length]? = some (lastValue? before key)) ∧
      ofMap map = ofEntries map.entries) ∧
    (∀ value : Value, value.Classified ↔ ∀ fields ∈ value.maps, ProperMap fields) ∧
    (∀ history : List (String × Value), (∀ entry ∈ history, entry.2.Classified) →
      (ofEntries history).Classified) ∧
    (∀ map : KeyedMap Value, map.KeysDistinct → (∀ value ∈ map.values, value.Classified) →
      (ofMap map).Classified) ∧
    (∀ items : List Value, (∀ item ∈ items, item.Classified) → (Value.list items).Classified) ∧
    ∀ (document : Json) (value : Value), ofJson document = .ok value → value.Classified := by
  refine ⟨?_, ?_, classified_iff_maps, fun _ => classified_ofEntries, fun _ => classified_ofMap,
    fun _ => classifiedItems_iff.mpr, fun _ _ => classified_of_ofJson⟩
  · intro history
    have distinct := KeyedMap.keysDistinct_ofList history
    exact ⟨_, (KeyedMap.follows_ofList history).values_eq distinct, ofEntries_eq history⟩
  · intro history replaced map run
    obtain ⟨follows, distinct, counted, answers⟩ := answers_of_exchangeAll run
    have entries : map.entries = (insertedKeys history).zip map.values := by
      rw [← follows.keys_eq, ← KeyedMap.entries_eq_zip]
    exact ⟨distinct, follows.keys_eq, follows.size_eq, follows.values_eq distinct, entries,
      follows.get?_eq, counted, answers, (ofEntries_of_distinct distinct).symm⟩

/-- Positions that repeat, out of order, and one that is inserted again. -/
def repeatedSample : List (String × Value) :=
  [("0", .null), ("1", .string "a"), ("0", .list []), ("01", .integer 1), ("1", .string "b")]

theorem construction_follows_history_repeatedSample :
    (∀ entry ∈ repeatedSample, entry.2.Classified) ∧
    ofEntries (repeatedSample.take 3) = .list [.list [], .string "a"] ∧
    exchangeAll .empty repeatedSample =
      ([none, none, some .null, none, some (.string "a")],
        ⟨[("0", .list []), ("1", .string "b"), ("01", .integer 1)]⟩) ∧
    (∀ fields ∈ (ofEntries repeatedSample).maps, ProperMap fields) ∧
    ofJson (.object ⟨[("k", .object ⟨[("0", .null)]⟩)]⟩) = .ok (.map ⟨[("k", .list [.null])]⟩) ∧
    (Value.map ⟨[("k", .list [.null])]⟩).Classified := by
  obtain ⟨built, runs, proper, entries, maps, items, documents⟩ := construction_follows_history
  have run : exchangeAll .empty repeatedSample =
      ([none, none, some .null, none, some (.string "a")],
        ⟨[("0", .list []), ("1", .string "b"), ("01", .integer 1)]⟩) := by rfl
  have each : ∀ entry ∈ repeatedSample, entry.2.Classified := by
    simp [repeatedSample, null, string, integer, Classified, ClassifiedItems]
  have read : ofJson (.object ⟨[("k", .object ⟨[("0", .null)]⟩)]⟩) =
      .ok (.map ⟨[("k", .list [.null])]⟩) := by rfl
  refine ⟨each, ?_, run, (proper _).mp (entries _ each), read, documents _ _ read⟩
  · rfl

end ParamSql.Value
