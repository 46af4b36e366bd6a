import ParamSql.Value.Basic

/-!
# How values are classified

A value that is built from classified values is classified itself: the construction drops repeated
keys, and turns a map with positions for keys into a list.
-/
namespace ParamSql.Value

theorem classifiedItems_iff {items : List Value} :
    ClassifiedItems items ↔ ∀ item ∈ items, item.Classified := by
  induction items with
  | nil => simp [ClassifiedItems]
  | cons item rest ih => rw [ClassifiedItems, ih, List.forall_mem_cons]

theorem classifiedEntries_iff {entries : List (String × Value)} :
    ClassifiedEntries entries ↔ ∀ entry ∈ entries, entry.2.Classified := by
  induction entries with
  | nil => simp [ClassifiedEntries]
  | cons entry rest ih => rw [ClassifiedEntries, ih, List.forall_mem_cons]

/-- A map with distinct keys and classified values becomes a classified value. -/
theorem classified_ofMap {map : KeyedMap Value} (distinct : map.KeysDistinct)
    (each : ∀ value ∈ map.values, value.Classified) : (ofMap map).Classified := by
  unfold ofMap
  split
  · exact classifiedItems_iff.mpr each
  · next keyed =>
    have entries := List.forall_mem_map.mp each
    exact ⟨distinct, by simpa using keyed, classifiedEntries_iff.mpr entries⟩

/-- Entries with classified values build a classified value, also when they repeat a key. -/
theorem classified_ofEntries {entries : List (String × Value)}
    (each : ∀ entry ∈ entries, entry.2.Classified) : (ofEntries entries).Classified := by
  refine classified_ofMap (KeyedMap.keysDistinct_ofList entries) ?_
  exact List.forall_mem_map.mpr fun entry member => each entry (KeyedMap.mem_of_mem_ofList member)

/-- Entries under distinct keys build what the map with these entries becomes. -/
theorem ofEntries_of_distinct {entries : List (String × Value)}
    (distinct : KeyedMap.KeysDistinct (⟨entries⟩ : KeyedMap Value)) :
    ofEntries entries = ofMap ⟨entries⟩ := by
  rw [ofEntries, KeyedMap.ofList_of_distinct distinct]

end ParamSql.Value
