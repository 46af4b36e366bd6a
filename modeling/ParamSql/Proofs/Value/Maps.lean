import ParamSql.Proofs.Value.Classified

/-!
# The maps of a value

All the keyed maps that a value contains, at every depth. What every map of a value has to meet is
said of this list; a value is classified when none of them has keys that the construction of values
would have turned into something else.
-/
namespace ParamSql.Value

mutual

/-- The maps of a value, each before the maps inside it. -/
def maps : Value → List (KeyedMap Value)
  | .scalar _ => []
  | .list items => mapsOfItems items
  | .map ⟨entries⟩ => ⟨entries⟩ :: mapsOfEntries entries

/-- The maps of the items of a list. -/
def mapsOfItems : List Value → List (KeyedMap Value)
  | [] => []
  | item :: rest => maps item ++ mapsOfItems rest

/-- The maps of the values of entries. -/
def mapsOfEntries : List (String × Value) → List (KeyedMap Value)
  | [] => []
  | (_, value) :: rest => maps value ++ mapsOfEntries rest

end

/-- The keys of a list with this many items: "0", "1", … in order. -/
def positions (count : Nat) : List String := (List.range count).map toString

/-- A map that can stand in a value: it holds something, every key once, and its keys are not the
positions of a list. -/
structure ProperMap (fields : KeyedMap Value) : Prop where
  present : fields.entries ≠ []
  distinct : fields.keys.Nodup
  keyed : ∀ count, fields.keys ≠ positions count

theorem properMap_iff {fields : KeyedMap Value} :
    ProperMap fields ↔ fields.KeysDistinct ∧ fields.hasPositionalKeys = false := by
  constructor
  · intro proper
    refine ⟨proper.distinct, ?_⟩
    unfold KeyedMap.hasPositionalKeys
    exact decide_eq_false (proper.keyed fields.size)
  · rintro ⟨distinct, keyed⟩
    have apart : fields.keys ≠ positions fields.size := of_decide_eq_false keyed
    refine ⟨?_, distinct, ?_⟩
    · intro none
      unfold KeyedMap.keys KeyedMap.size positions at apart
      simp [none] at apart
    · intro count same
      have counted : fields.size = count := by
        simpa [KeyedMap.keys, KeyedMap.size, positions] using congrArg List.length same
      rw [counted] at apart
      exact apart same

mutual

/-- A value is classified when all its maps are proper. -/
theorem classified_iff_maps : ∀ value : Value,
    value.Classified ↔ ∀ fields ∈ value.maps, ProperMap fields
  | .scalar _ => by simp [Classified, maps]
  | .list items => classifiedItems_iff_maps items
  | .map ⟨entries⟩ => by
    rw [Classified, maps, List.forall_mem_cons, properMap_iff, classifiedEntries_iff_maps entries,
      and_assoc]

theorem classifiedItems_iff_maps : ∀ items : List Value,
    ClassifiedItems items ↔ ∀ fields ∈ mapsOfItems items, ProperMap fields
  | [] => by simp [ClassifiedItems, mapsOfItems]
  | item :: rest => by
    rw [ClassifiedItems, mapsOfItems, List.forall_mem_append, classified_iff_maps item,
      classifiedItems_iff_maps rest]

theorem classifiedEntries_iff_maps : ∀ entries : List (String × Value),
    ClassifiedEntries entries ↔ ∀ fields ∈ mapsOfEntries entries, ProperMap fields
  | [] => by simp [ClassifiedEntries, mapsOfEntries]
  | (_, value) :: rest => by
    rw [ClassifiedEntries, mapsOfEntries, List.forall_mem_append, classified_iff_maps value,
      classifiedEntries_iff_maps rest]

end

end ParamSql.Value
