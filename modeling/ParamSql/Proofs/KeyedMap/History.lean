import ParamSql.KeyedMap

/-!
# What insertions leave

A map follows the history of its insertions: it has every key that was inserted, at the place of the
first insertion, with the value of the last one. The history is read here as a list of entries,
apart from the map; insertion keeps the two together, and from that the whole map is known.
-/
namespace ParamSql.KeyedMap

variable {α : Type}

/-- The keys of a history, each at the place where it comes first. -/
def insertedKeys (history : List (String × α)) : List String :=
  (history.map Prod.fst).eraseDups

/-- The value that a history gives last for a key. -/
def lastValue? (history : List (String × α)) (key : String) : Option α := history.reverse.lookup key

theorem insertedKeys_concat (history : List (String × α)) (key : String) (value : α) :
    insertedKeys (history ++ [(key, value)]) =
      if key ∈ insertedKeys history then insertedKeys history
      else insertedKeys history ++ [key] := by
  unfold insertedKeys
  rw [List.map_append, List.eraseDups_append]
  by_cases known : key ∈ history.map Prod.fst
  · simp [List.removeAll, known]
  · simp [List.removeAll, known, List.eraseDups_cons]

theorem lastValue?_concat (history : List (String × α)) (key other : String) (value : α) :
    lastValue? (history ++ [(key, value)]) other =
      if key = other then some value else lastValue? history other := by
  unfold lastValue?
  rw [List.reverse_concat, List.lookup_cons]
  by_cases same : key = other
  · simp [same]
  · rw [beq_false_of_ne (Ne.symm same), if_neg same]

/-- What a history gives for a key is one of its entries. -/
theorem mem_of_lastValue? {history : List (String × α)} {key : String} {value : α}
    (last : lastValue? history key = some value) : (key, value) ∈ history := by
  obtain ⟨later, earlier, split, -⟩ := List.lookup_eq_some_iff.mp last
  have member : (key, value) ∈ history.reverse := split ▸ List.mem_append_cons_self
  exact List.mem_reverse.mp member

/-- The map is what the insertions of the history leave. -/
structure Follows (map : KeyedMap α) (history : List (String × α)) : Prop where
  keys_eq : map.keys = insertedKeys history
  get?_eq : ∀ key, map.get? key = lastValue? history key

theorem follows_empty : (empty : KeyedMap α).Follows [] := ⟨rfl, fun _ => rfl⟩

/-- One more insertion. -/
theorem Follows.insert {map : KeyedMap α} {history : List (String × α)}
    (follows : map.Follows history) (key : String) (value : α) :
    (map.insert key value).Follows (history ++ [(key, value)]) := by
  constructor
  · rw [keys_insert, insertedKeys_concat, follows.keys_eq]
  · intro other
    rw [get?_insert, lastValue?_concat, follows.get?_eq]

/-- Insert entries one after the other, and return what each of them replaces. -/
def exchangeAll (map : KeyedMap α) : List (String × α) → List (Option α) × KeyedMap α
  | [] => ([], map)
  | (key, value) :: rest =>
    let (replaced, next) := map.exchange key value
    let (others, final) := exchangeAll next rest
    (replaced :: others, final)

theorem exchangeAll_cons (map : KeyedMap α) (key : String) (value : α)
    (rest : List (String × α)) :
    exchangeAll map ((key, value) :: rest) =
      (map.get? key :: (exchangeAll (map.insert key value) rest).1,
        (exchangeAll (map.insert key value) rest).2) := by
  simp [exchangeAll, exchange_eq]

/-- A run of insertions builds the map of its entries. -/
theorem exchangeAll_empty (entries : List (String × α)) :
    (exchangeAll empty entries).2 = ofList entries := by
  unfold ofList
  generalize (empty : KeyedMap α) = map
  induction entries generalizing map with
  | nil => rfl
  | cons entry rest ih =>
    obtain ⟨key, value⟩ := entry
    rw [exchangeAll_cons]
    exact ih (map.insert key value)

/-- A run of insertions extends the history of the map by its entries. -/
theorem Follows.exchangeAll {map : KeyedMap α} {history : List (String × α)}
    (follows : map.Follows history) (entries : List (String × α)) :
    (map.exchangeAll entries).2.Follows (history ++ entries) := by
  induction entries generalizing map history with
  | nil => rwa [List.append_nil]
  | cons entry rest ih =>
    obtain ⟨key, value⟩ := entry
    rw [exchangeAll_cons, List.append_cons]
    exact ih (follows.insert key value)

theorem follows_ofList (entries : List (String × α)) : (ofList entries).Follows entries := by
  rw [← exchangeAll_empty]
  exact follows_empty.exchangeAll entries

/-- Without repetitions, a history gives last what its map reads. -/
theorem lastValue?_entries {map : KeyedMap α} (distinct : map.KeysDistinct) (key : String) :
    lastValue? map.entries key = map.get? key := by
  have same : ofList map.entries = map := ofList_of_distinct distinct
  rw [← (follows_ofList map.entries).get?_eq, same]

theorem length_replaced (map : KeyedMap α) (entries : List (String × α)) :
    (map.exchangeAll entries).1.length = entries.length := by
  induction entries generalizing map with
  | nil => rfl
  | cons entry rest ih =>
    obtain ⟨key, value⟩ := entry
    rw [exchangeAll_cons, List.length_cons, List.length_cons, ih]

/-- Each insertion of a run returns the value that its key has in the history before it. -/
theorem Follows.replaced_eq {map : KeyedMap α} {history : List (String × α)}
    (follows : map.Follows history) (before : List (String × α)) (key : String) (value : α)
    (after : List (String × α)) :
    (map.exchangeAll (before ++ (key, value) :: after)).1[before.length]? =
      some (lastValue? (history ++ before) key) := by
  induction before generalizing map history with
  | nil =>
    rw [List.nil_append, exchangeAll_cons, List.append_nil, ← follows.get?_eq]
    rfl
  | cons entry rest ih =>
    obtain ⟨first, given⟩ := entry
    rw [List.cons_append, exchangeAll_cons, List.length_cons, List.getElem?_cons_succ,
      List.append_cons history]
    exact ih (follows.insert first given)

theorem get?_cons (key other : String) (value : α) (rest : List (String × α)) :
    get? ⟨(key, value) :: rest⟩ other = if key = other then some value else get? ⟨rest⟩ other := by
  unfold get?
  by_cases same : key = other
  · simp [same]
  · simp [same]

/-- In a map with distinct keys, the values are those that the keys read. -/
theorem values_eq_map_get? {map : KeyedMap α} (distinct : map.KeysDistinct) :
    map.values.map some = map.keys.map map.get? := by
  obtain ⟨entries⟩ := map
  induction entries with
  | nil => rfl
  | cons entry rest ih =>
    obtain ⟨key, value⟩ := entry
    obtain ⟨absent, others⟩ := List.nodup_cons.mp distinct
    have below : ∀ other ∈ keys ⟨rest⟩, get? ⟨(key, value) :: rest⟩ other = get? ⟨rest⟩ other := by
      intro other member
      have different : key ≠ other := by
        intro same
        subst other
        exact absent member
      rw [get?_cons, if_neg different]
    have first : get? ⟨(key, value) :: rest⟩ key = some value := by rw [get?_cons, if_pos rfl]
    calc (values ⟨(key, value) :: rest⟩).map some
        = some value :: (values ⟨rest⟩).map some := rfl
      _ = some value :: (keys ⟨rest⟩).map (get? ⟨rest⟩) := by rw [ih others]
      _ = get? ⟨(key, value) :: rest⟩ key ::
            (keys ⟨rest⟩).map (get? ⟨(key, value) :: rest⟩) := by
          rw [first, List.map_congr_left below]

/-- In a map with distinct keys, a key reads the value of its entry. -/
theorem get?_eq_some_iff {map : KeyedMap α} (distinct : map.KeysDistinct) {key : String}
    {value : α} : map.get? key = some value ↔ (key, value) ∈ map.entries := by
  obtain ⟨entries⟩ := map
  induction entries with
  | nil => simp [get?]
  | cons entry rest ih =>
    obtain ⟨first, given⟩ := entry
    obtain ⟨absent, others⟩ := List.nodup_cons.mp distinct
    rw [get?_cons, List.mem_cons, Prod.mk.injEq]
    by_cases same : first = key
    · subst same
      have elsewhere : (first, value) ∉ rest := fun member =>
        absent (List.mem_map.mpr ⟨_, member, rfl⟩)
      simp [elsewhere, eq_comm]
    · rw [if_neg same, ih others]
      simp [Ne.symm same]

/-- The order of the entries of a map does not matter to what its keys read. -/
theorem get?_eq_of_perm {map other : KeyedMap α} (distinct : map.KeysDistinct)
    (perm : map.entries.Perm other.entries) (key : String) : map.get? key = other.get? key := by
  have otherDistinct : other.KeysDistinct := (perm.map Prod.fst).nodup distinct
  refine Option.ext fun value => ?_
  rw [get?_eq_some_iff distinct, get?_eq_some_iff otherDistinct, perm.mem_iff]

theorem entries_eq_zip (map : KeyedMap α) : map.entries = map.keys.zip map.values := by
  rw [keys, values, List.zip_map']
  exact (List.map_id map.entries).symm

namespace Follows

variable {map : KeyedMap α} {history : List (String × α)}

theorem size_eq (follows : map.Follows history) : map.size = (insertedKeys history).length := by
  rw [← follows.keys_eq, keys, List.length_map, size]

/-- Every key that was inserted has the value that was inserted last. -/
theorem values_eq (follows : map.Follows history) (distinct : map.KeysDistinct) :
    map.values.map some = (insertedKeys history).map (lastValue? history) := by
  have reads : map.get? = lastValue? history := funext follows.get?_eq
  rw [values_eq_map_get? distinct, follows.keys_eq, reads]

end Follows

end ParamSql.KeyedMap
