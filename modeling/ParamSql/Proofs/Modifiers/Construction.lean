import Mathlib.Data.List.Induction
import ParamSql.Modifiers.Basic
import ParamSql.Proofs.Outcome
import ParamSql.Proofs.Value.Construction

/-!
# How modifiers are given

Modifiers are given one by one, or by the entries of a map under their keys. Either way each of them
holds what was given for it last, and by this they are known; so neither the order counts nor what
was replaced on the way.
-/
namespace ParamSql

open KeyedMap (lastValue?)

namespace Modifier

theorem key_injective {modifier other : Modifier} (same : modifier.key = other.key) :
    modifier = other := by
  revert same
  cases modifier <;> cases other <;> decide

theorem find?_eq_some_iff {key : String} {modifier : Modifier} :
    find? key = some modifier ↔ modifier.key = key := by
  constructor
  · intro found
    simpa using List.find?_some found
  · rintro rfl
    cases modifier <;> rfl

/-- The keys under which a map gives modifiers. -/
def keys : List String := ["groupBy", "orderBy", "rows", "offset"]

theorem mem_keys_iff {key : String} : key ∈ keys ↔ ∃ modifier : Modifier, modifier.key = key := by
  constructor
  · intro listed
    have named : key ∈ all.map Modifier.key := listed
    obtain ⟨modifier, -, same⟩ := List.mem_map.mp named
    exact ⟨modifier, same⟩
  · rintro ⟨modifier, rfl⟩
    cases modifier <;> decide

theorem find?_eq_none_iff {key : String} : find? key = none ↔ key ∉ keys := by
  simp [Option.eq_none_iff_forall_ne_some, mem_keys_iff, find?_eq_some_iff]

end Modifier

namespace Modifiers

theorem get?_none (modifier : Modifier) : none.get? modifier = .none := by cases modifier <;> rfl

/-- Give modifiers one after the other. -/
def setAll (modifiers : Modifiers) (chain : List (Modifier × Value)) : Modifiers :=
  chain.foldl (fun before given => before.set given.1 given.2) modifiers

/-- The entries that give the same as a chain of modifiers, under the keys of a map. -/
def entries (chain : List (Modifier × Value)) : List (String × Value) :=
  chain.map fun given => (given.1.key, given.2)

/-- After a chain each modifier holds what the chain gives for it last. -/
theorem get?_setAll (modifiers : Modifiers) (chain : List (Modifier × Value))
    (modifier : Modifier) : (modifiers.setAll chain).get? modifier =
      (lastValue? (entries chain) modifier.key).or (modifiers.get? modifier) := by
  induction chain using List.reverseRecOn with
  | nil => rfl
  | append_singleton chain given ih =>
    obtain ⟨last, value⟩ := given
    have step : modifiers.setAll (chain ++ [(last, value)]) =
        (modifiers.setAll chain).set last value := List.foldl_concat ..
    have more : entries (chain ++ [(last, value)]) = entries chain ++ [(last.key, value)] :=
      List.map_append
    rw [step, more, get?_set, KeyedMap.lastValue?_concat, ih]
    by_cases same : last = modifier
    · simp [same]
    · simp [same, mt Modifier.key_injective same]

theorem get?_setAll_none (chain : List (Modifier × Value)) (modifier : Modifier) :
    (none.setAll chain).get? modifier = lastValue? (entries chain) modifier.key := by
  rw [get?_setAll, get?_none, Option.or_none]

/-- The entries of a map are a chain when all their keys are keys of modifiers. -/
theorem exists_chain_iff {given : List (String × Value)} : (∃ chain, entries chain = given) ↔
    ∀ key ∈ given.map Prod.fst, key ∈ Modifier.keys := by
  constructor
  · rintro ⟨chain, rfl⟩ key member
    obtain ⟨entry, inside, rfl⟩ := List.mem_map.mp member
    obtain ⟨⟨modifier, value⟩, -, rfl⟩ := List.mem_map.mp inside
    exact Modifier.mem_keys_iff.mpr ⟨modifier, rfl⟩
  · intro known
    induction given with
    | nil => exact ⟨[], rfl⟩
    | cons entry rest ih =>
      obtain ⟨first, others⟩ := List.forall_mem_cons.mp known
      obtain ⟨modifier, same⟩ := Modifier.mem_keys_iff.mp first
      obtain ⟨chain, rfl⟩ := ih others
      exact ⟨(modifier, entry.2) :: chain, congrArg (· :: entries chain) (Prod.ext same rfl)⟩

theorem setEntries_entries (modifiers : Modifiers) (chain : List (Modifier × Value)) :
    modifiers.setEntries (entries chain) = .ok (modifiers.setAll chain) := by
  induction chain generalizing modifiers with
  | nil => rfl
  | cons given rest ih =>
    obtain ⟨modifier, value⟩ := given
    have known : Modifier.find? modifier.key = some modifier :=
      Modifier.find?_eq_some_iff.mpr rfl
    have first : entries ((modifier, value) :: rest) = (modifier.key, value) :: entries rest := rfl
    rw [first, setEntries, known]
    exact ih (modifiers.set modifier value)

/-- A key that is no modifier's is the fault. -/
theorem setEntries_eq_error {modifiers : Modifiers} {given : List (String × Value)} {fault : Error}
    (failed : modifiers.setEntries given = .error fault) :
    ∃ key ∈ given.map Prod.fst, key ∉ Modifier.keys ∧ fault = .unknownOption key := by
  induction given generalizing modifiers with
  | nil => cases failed
  | cons entry rest ih =>
    obtain ⟨key, value⟩ := entry
    rw [setEntries] at failed
    split at failed
    · obtain ⟨other, member, unknown⟩ := ih failed
      exact ⟨other, List.mem_cons_of_mem _ member, unknown⟩
    · next missing =>
      cases failed
      exact ⟨key, List.mem_cons_self, Modifier.find?_eq_none_iff.mp missing, rfl⟩

/-- The entries of a map are accepted when they are a chain. -/
theorem setEntries_eq_ok_iff {modifiers result : Modifiers} {given : List (String × Value)} :
    modifiers.setEntries given = .ok result ↔
      ∃ chain, entries chain = given ∧ result = modifiers.setAll chain := by
  constructor
  · intro success
    induction given generalizing modifiers with
    | nil =>
      cases success
      exact ⟨[], rfl, rfl⟩
    | cons entry rest ih =>
      obtain ⟨key, value⟩ := entry
      rw [setEntries] at success
      split at success
      · next modifier found =>
        obtain rfl := Modifier.find?_eq_some_iff.mp found
        obtain ⟨chain, rfl, rfl⟩ := ih success
        exact ⟨(modifier, value) :: chain, rfl, rfl⟩
      · cases success
  · rintro ⟨chain, rfl, rfl⟩
    exact setEntries_entries modifiers chain

theorem ofValue_map_eq (fields : KeyedMap Value) :
    ofValue (.map fields) = setEntries none fields.entries := by
  obtain ⟨given⟩ := fields
  cases given <;> rfl

/-- A map is accepted when its entries are a chain, and gives what the chain gives. -/
theorem ofValue_map_eq_ok_iff {fields : KeyedMap Value} {result : Modifiers} :
    ofValue (.map fields) = .ok result ↔
      ∃ chain, entries chain = fields.entries ∧ result = none.setAll chain := by
  rw [ofValue_map_eq, setEntries_eq_ok_iff]

/-- A map is accepted when its keys are keys of modifiers. -/
theorem exists_ofValue_map_iff {fields : KeyedMap Value} :
    (∃ result, ofValue (.map fields) = .ok result) ↔ ∀ key ∈ fields.keys, key ∈ Modifier.keys := by
  unfold KeyedMap.keys
  rw [← exists_chain_iff]
  constructor
  · rintro ⟨result, success⟩
    obtain ⟨chain, same, -⟩ := ofValue_map_eq_ok_iff.mp success
    exact ⟨chain, same⟩
  · rintro ⟨chain, same⟩
    exact ⟨none.setAll chain, ofValue_map_eq_ok_iff.mpr ⟨chain, same, rfl⟩⟩

/-- A map is refused for one of its keys. -/
theorem ofValue_map_eq_error {fields : KeyedMap Value} {fault : Error}
    (failed : ofValue (.map fields) = .error fault) :
    ∃ key ∈ fields.keys, key ∉ Modifier.keys ∧ fault = .unknownOption key :=
  setEntries_eq_error (ofValue_map_eq fields ▸ failed)

/-- The modifiers that a map gives are the values under their keys. -/
theorem get?_of_ofValue {fields : KeyedMap Value} (distinct : fields.KeysDistinct)
    {result : Modifiers} (success : ofValue (.map fields) = .ok result) (modifier : Modifier) :
    result.get? modifier = fields.get? modifier.key := by
  obtain ⟨chain, same, rfl⟩ := ofValue_map_eq_ok_iff.mp success
  rw [get?_setAll_none, same, KeyedMap.lastValue?_entries distinct]

/-- A chain that gives the entries of a map in another order gives what the map gives. -/
theorem setAll_of_perm {fields : KeyedMap Value} (distinct : fields.KeysDistinct)
    {result : Modifiers} (success : ofValue (.map fields) = .ok result)
    {chain : List (Modifier × Value)} (perm : (entries chain).Perm fields.entries) :
    none.setAll chain = result := by
  have chainDistinct : (⟨entries chain⟩ : KeyedMap Value).KeysDistinct :=
    (perm.symm.map Prod.fst).nodup distinct
  refine ext_get? fun modifier => ?_
  have ordered : lastValue? (entries chain) modifier.key =
      (⟨entries chain⟩ : KeyedMap Value).get? modifier.key :=
    KeyedMap.lastValue?_entries chainDistinct modifier.key
  rw [get?_setAll_none, ordered, KeyedMap.get?_eq_of_perm chainDistinct perm,
    get?_of_ofValue distinct success]

/-- A keyed map gives the same when it is made a value. The map of a list names no modifier. -/
theorem ofValue_ofMap_eq_ok_iff {fields : KeyedMap Value} {result : Modifiers} :
    ofValue (.ofMap fields) = .ok result ↔ ofValue (.map fields) = .ok result := by
  rw [Value.ofMap_eq]
  split
  · next listed =>
    obtain ⟨given⟩ := fields
    cases given with
    | nil => rfl
    | cons entry rest =>
      constructor
      · intro success
        cases success
      · intro success
        obtain ⟨chain, same, -⟩ := ofValue_map_eq_ok_iff.mp success
        have zero : "0" ∈ KeyedMap.keys ⟨entry :: rest⟩ := by
          rw [listed]
          exact List.mem_map.mpr ⟨0, List.mem_range.mpr (Nat.succ_pos _), rfl⟩
        exact absurd (exists_chain_iff.mp ⟨chain, same⟩ _ zero) (by decide)
  · rfl

/-- Maps with the same entries in another order give the same modifiers. -/
theorem ofValue_of_perm {fields other : KeyedMap Value} (distinct : fields.KeysDistinct)
    (perm : fields.entries.Perm other.entries) {result : Modifiers}
    (success : ofValue (.map fields) = .ok result) : ofValue (.map other) = .ok result := by
  have known : ∀ key ∈ other.keys, key ∈ Modifier.keys := fun key member =>
    exists_ofValue_map_iff.mp ⟨result, success⟩ key ((perm.map Prod.fst).mem_iff.mpr member)
  obtain ⟨otherResult, otherSuccess⟩ := exists_ofValue_map_iff.mpr known
  obtain ⟨chain, same, rfl⟩ := ofValue_map_eq_ok_iff.mp otherSuccess
  have given : (entries chain).Perm fields.entries := same ▸ perm.symm
  rw [otherSuccess, setAll_of_perm distinct success given]

/-- The map holds what the chain gives last for each modifier, under its key, and nothing else. -/
def HoldsLast (chain : List (Modifier × Value)) (fields : KeyedMap Value) : Prop :=
  fields.KeysDistinct ∧ ∀ key, fields.get? key = lastValue? (entries chain) key

theorem holdsLast_ofList (chain : List (Modifier × Value)) :
    HoldsLast chain (.ofList (entries chain)) :=
  ⟨KeyedMap.keysDistinct_ofList _, (KeyedMap.follows_ofList _).get?_eq⟩

/-- A map that holds what a chain gives last gives what the chain gives. -/
theorem ofValue_of_holdsLast {chain : List (Modifier × Value)} {fields : KeyedMap Value}
    (holds : HoldsLast chain fields) : ofValue (.map fields) = .ok (none.setAll chain) := by
  obtain ⟨distinct, reads⟩ := holds
  have known : ∀ key ∈ fields.keys, key ∈ Modifier.keys := by
    intro key member
    obtain ⟨⟨_, value⟩, inside, rfl⟩ := List.mem_map.mp member
    have given := (KeyedMap.get?_eq_some_iff distinct).mpr inside
    rw [reads] at given
    exact exists_chain_iff.mp ⟨chain, rfl⟩ _
      (List.mem_map.mpr ⟨_, KeyedMap.mem_of_lastValue? given, rfl⟩)
  obtain ⟨result, success⟩ := exists_ofValue_map_iff.mpr known
  rw [success]
  refine congrArg Except.ok (ext_get? fun modifier => ?_)
  rw [get?_of_ofValue distinct success, reads, get?_setAll_none]

end Modifiers

end ParamSql
