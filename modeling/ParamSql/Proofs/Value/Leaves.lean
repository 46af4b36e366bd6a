import ParamSql.Proofs.Value.Maps

/-!
# The leaves of a value

All the scalars that a value contains, at every depth and in the order in which they stand, each
with the keys of the maps around it.
-/
namespace ParamSql.Value

/-- A scalar in a value, with the keys of the maps around it, the innermost first. -/
structure Leaf where
  scalar : Scalar
  keys : List String
  deriving DecidableEq, Repr

/-- The leaf with one more map around it. -/
def Leaf.under (key : String) (leaf : Leaf) : Leaf := ⟨leaf.scalar, leaf.keys ++ [key]⟩

mutual

/-- The leaves of a value, depth first. -/
def leaves : Value → List Leaf
  | .scalar value => [⟨value, []⟩]
  | .list items => leavesOfItems items
  | .map ⟨entries⟩ => leavesOfEntries entries

/-- The leaves of the items of a list. -/
def leavesOfItems : List Value → List Leaf
  | [] => []
  | item :: rest => leaves item ++ leavesOfItems rest

/-- The leaves below the keys of a map. -/
def leavesOfEntries : List (String × Value) → List Leaf
  | [] => []
  | (key, value) :: rest => (leaves value).map (·.under key) ++ leavesOfEntries rest

end

/-- The scalars of a value, depth first. -/
def scalars (value : Value) : List Scalar := value.leaves.map (·.scalar)

mutual

/-- Where there is no map, no key stands around a leaf. -/
theorem keys_of_maps_eq_nil : ∀ {value : Value}, value.maps = [] → ∀ leaf ∈ value.leaves,
    leaf.keys = []
  | .scalar _, _ => List.forall_mem_singleton.mpr rfl
  | .list _, bare => keys_of_mapsOfItems_eq_nil bare
  | .map ⟨_⟩, bare => nomatch bare

theorem keys_of_mapsOfItems_eq_nil : ∀ {items : List Value}, mapsOfItems items = [] →
    ∀ leaf ∈ leavesOfItems items, leaf.keys = []
  | [], _ => nofun
  | _ :: _, bare =>
    have ⟨here, there⟩ := List.append_eq_nil_iff.mp bare
    List.forall_mem_append.mpr ⟨keys_of_maps_eq_nil here, keys_of_mapsOfItems_eq_nil there⟩

end

/-- The leaves of a map without a map inside it have its keys only. -/
theorem length_keys_of_mapsOfEntries_eq_nil : ∀ {entries : List (String × Value)},
    mapsOfEntries entries = [] → ∀ leaf ∈ leavesOfEntries entries, leaf.keys.length = 1
  | [], _ => nofun
  | (key, value) :: rest, bare => by
    obtain ⟨here, there⟩ := List.append_eq_nil_iff.mp bare
    refine List.forall_mem_append.mpr
      ⟨List.forall_mem_map.mpr ?_, length_keys_of_mapsOfEntries_eq_nil there⟩
    intro leaf member
    rw [Leaf.under, keys_of_maps_eq_nil here leaf member]
    rfl

/-- No map of the value has another map inside it. -/
def Unnested (value : Value) : Prop := ∀ fields ∈ value.maps, mapsOfEntries fields.entries = []

mutual

/-- If no map stands inside another one, each leaf has at most one map around it. -/
theorem Unnested.length_keys_le_one : ∀ {value : Value}, value.Unnested → ∀ leaf ∈ value.leaves,
    leaf.keys.length ≤ 1
  | .scalar _, _ => List.forall_mem_singleton.mpr (Nat.zero_le 1)
  | .list _, flat => length_keys_le_one_of_items flat
  | .map ⟨_⟩, flat => fun leaf member =>
    Nat.le_of_eq (length_keys_of_mapsOfEntries_eq_nil (flat _ List.mem_cons_self) leaf member)

theorem length_keys_le_one_of_items : ∀ {items : List Value},
    (∀ fields ∈ mapsOfItems items, mapsOfEntries fields.entries = []) →
      ∀ leaf ∈ leavesOfItems items, leaf.keys.length ≤ 1
  | [], _ => nofun
  | _ :: _, flat =>
    have ⟨here, there⟩ := List.forall_mem_append.mp flat
    List.forall_mem_append.mpr
      ⟨Unnested.length_keys_le_one here, length_keys_le_one_of_items there⟩

end

end ParamSql.Value
