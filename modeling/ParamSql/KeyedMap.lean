/-!
# Keyed maps

A keyed map is a list of entries with string keys, in the order in which the keys were first
given. Inserting under a key that is present replaces the value and keeps the place, so a map
built by `insert` from the empty one holds every key once.
-/
namespace ParamSql

structure KeyedMap (α : Type) where
  entries : List (String × α)
  deriving DecidableEq, Repr

namespace KeyedMap

variable {α : Type}

def empty : KeyedMap α := ⟨[]⟩

def keys (map : KeyedMap α) : List String := map.entries.map Prod.fst

def values (map : KeyedMap α) : List α := map.entries.map Prod.snd

def size (map : KeyedMap α) : Nat := map.entries.length

def isEmpty (map : KeyedMap α) : Bool := map.entries.isEmpty

/-- The value under a key. -/
def get? (map : KeyedMap α) (key : String) : Option α :=
  (map.entries.find? (·.1 = key)).map Prod.snd

/-- Replace the value of the first entry with this key, or add an entry at the end. -/
def insertEntry (key : String) (value : α) : List (String × α) → List (String × α)
  | [] => [(key, value)]
  | (k, v) :: rest =>
    if k = key then (k, value) :: rest else (k, v) :: insertEntry key value rest

def insert (map : KeyedMap α) (key : String) (value : α) : KeyedMap α :=
  ⟨insertEntry key value map.entries⟩

/-- Replace the value of the first entry with this key and return it, or add an entry at the end. -/
def exchangeEntry (key : String) (value : α) :
    List (String × α) → Option α × List (String × α)
  | [] => (none, [(key, value)])
  | (k, v) :: rest =>
    if k = key then (some v, (k, value) :: rest)
    else
      let (replaced, after) := exchangeEntry key value rest
      (replaced, (k, v) :: after)

/-- Insert under a key, and return the value that is replaced. -/
def exchange (map : KeyedMap α) (key : String) (value : α) : Option α × KeyedMap α :=
  let (replaced, after) := exchangeEntry key value map.entries
  (replaced, ⟨after⟩)

/-- The map that the entries build when inserted one after the other. -/
def ofList (entries : List (String × α)) : KeyedMap α :=
  entries.foldl (fun map entry => map.insert entry.1 entry.2) empty

/-- The keys are exactly the positions "0", "1", … in order; so are those of the empty map. -/
def hasPositionalKeys (map : KeyedMap α) : Bool :=
  map.keys = (List.range map.size).map Nat.repr

/-- No key occurs twice. -/
def KeysDistinct (map : KeyedMap α) : Prop := map.keys.Nodup

theorem keys_insertEntry (key : String) (value : α) (entries : List (String × α)) :
    (insertEntry key value entries).map Prod.fst =
      if key ∈ entries.map Prod.fst then entries.map Prod.fst
      else entries.map Prod.fst ++ [key] := by
  induction entries with
  | nil => simp [insertEntry]
  | cons entry rest ih =>
    obtain ⟨k, v⟩ := entry
    by_cases same : k = key
    · simp [insertEntry, same]
    · by_cases later : key ∈ rest.map Prod.fst
      · have member : key ∈ k :: rest.map Prod.fst := List.mem_cons_of_mem _ later
        simp only [insertEntry, if_neg same, List.map_cons, ih, if_pos later, if_pos member]
      · have absent : ¬ key ∈ k :: rest.map Prod.fst :=
          List.not_mem_cons_of_ne_of_not_mem (Ne.symm same) later
        simp only [insertEntry, if_neg same, List.map_cons, ih, if_neg later, if_neg absent,
          List.cons_append]

/-- Inserting adds the key at the end, unless it is there already. -/
theorem keys_insert (map : KeyedMap α) (key : String) (value : α) :
    (map.insert key value).keys = if key ∈ map.keys then map.keys else map.keys ++ [key] :=
  keys_insertEntry key value map.entries

theorem keysDistinct_empty : (empty : KeyedMap α).KeysDistinct := List.nodup_nil

theorem KeysDistinct.insert {map : KeyedMap α} (distinct : map.KeysDistinct) (key : String)
    (value : α) : (map.insert key value).KeysDistinct := by
  unfold KeysDistinct at distinct ⊢
  rw [keys_insert]
  split
  · exact distinct
  · next absent =>
    rw [List.nodup_append]
    refine ⟨distinct, by simp, ?_⟩
    intro k member other single same
    rw [List.mem_singleton] at single
    exact absent (single ▸ same ▸ member)

/-- A map built from a list of entries holds every key once. -/
theorem keysDistinct_ofList (entries : List (String × α)) : (ofList entries).KeysDistinct := by
  suffices general : ∀ map : KeyedMap α, map.KeysDistinct →
      (entries.foldl (fun map entry => map.insert entry.1 entry.2) map).KeysDistinct from
    general empty keysDistinct_empty
  induction entries with
  | nil => exact fun _ distinct => distinct
  | cons entry rest ih => exact fun map distinct => ih _ (distinct.insert entry.1 entry.2)

/-- A new key is put at the end. -/
theorem insertEntry_of_not_mem {key : String} (value : α) {entries : List (String × α)}
    (absent : key ∉ entries.map Prod.fst) :
    insertEntry key value entries = entries ++ [(key, value)] := by
  induction entries with
  | nil => rfl
  | cons entry rest ih =>
    obtain ⟨k, v⟩ := entry
    rw [List.map_cons, List.mem_cons, not_or] at absent
    rw [insertEntry, if_neg (Ne.symm absent.1), ih absent.2, List.cons_append]

/-- Entries under distinct keys build the map that consists of them. -/
theorem ofList_of_distinct {entries : List (String × α)}
    (distinct : KeysDistinct (⟨entries⟩ : KeyedMap α)) : ofList entries = ⟨entries⟩ := by
  suffices general : ∀ before : List (String × α), ((before ++ entries).map Prod.fst).Nodup →
      entries.foldl (fun map entry => map.insert entry.1 entry.2) ⟨before⟩ =
        (⟨before ++ entries⟩ : KeyedMap α) from general [] distinct
  clear distinct
  induction entries with
  | nil => simp
  | cons entry rest ih =>
    intro before distinct
    have absent : entry.1 ∉ before.map Prod.fst := by
      rw [List.map_append, List.map_cons, List.nodup_append] at distinct
      exact fun member => distinct.2.2 _ member _ List.mem_cons_self rfl
    have grouped : before ++ entry :: rest = before ++ [entry] ++ rest := by simp
    rw [grouped] at distinct ⊢
    rw [List.foldl_cons, insert, insertEntry_of_not_mem entry.2 absent]
    exact ih _ distinct

theorem mem_insertEntry {key : String} {value : α} {entries : List (String × α)}
    {entry : String × α} (member : entry ∈ insertEntry key value entries) :
    entry = (key, value) ∨ entry ∈ entries := by
  induction entries with
  | nil => exact .inl (List.mem_singleton.mp member)
  | cons first rest ih =>
    obtain ⟨k, v⟩ := first
    rw [insertEntry] at member
    split at member
    · next same =>
      rw [same] at member
      exact (List.mem_cons.mp member).imp_right (List.mem_cons_of_mem _)
    · rcases List.mem_cons.mp member with rfl | later
      · exact .inr List.mem_cons_self
      · exact (ih later).imp_right (List.mem_cons_of_mem _)

/-- A map built from a list of entries has no other entries. -/
theorem mem_of_mem_ofList {entries : List (String × α)} {entry : String × α}
    (member : entry ∈ (ofList entries).entries) : entry ∈ entries := by
  suffices general : ∀ map : KeyedMap α,
      entry ∈ (entries.foldl (fun map entry => map.insert entry.1 entry.2) map).entries →
        entry ∈ map.entries ∨ entry ∈ entries from
    (general empty member).resolve_left List.not_mem_nil
  clear member
  induction entries with
  | nil => exact fun _ member => .inl member
  | cons first rest ih =>
    intro map member
    rcases ih (map.insert first.1 first.2) member with inserted | later
    · rcases mem_insertEntry inserted with rfl | before
      · exact .inr List.mem_cons_self
      · exact .inl before
    · exact .inr (List.mem_cons_of_mem _ later)

theorem find?_insertEntry (key : String) (value : α) (entries : List (String × α))
    (other : String) :
    ((insertEntry key value entries).find? (·.1 = other)).map Prod.snd =
      if key = other then some value else (entries.find? (·.1 = other)).map Prod.snd := by
  induction entries with
  | nil => by_cases same : key = other <;> simp [insertEntry, same]
  | cons entry rest ih =>
    obtain ⟨k, v⟩ := entry
    by_cases here : k = key
    · subst here
      by_cases same : k = other <;> simp [insertEntry, same]
    · rw [insertEntry, if_neg here]
      by_cases there : k = other
      · have apart : ¬ key = other := fun same => here (there.trans same.symm)
        simp [there, apart]
      · simpa [there] using ih

/-- A key reads back what was last inserted under it. -/
theorem get?_insert (map : KeyedMap α) (key other : String) (value : α) :
    (map.insert key value).get? other = if key = other then some value else map.get? other :=
  find?_insertEntry key value map.entries other

theorem exchangeEntry_eq (key : String) (value : α) (entries : List (String × α)) :
    exchangeEntry key value entries =
      ((entries.find? (·.1 = key)).map Prod.snd, insertEntry key value entries) := by
  induction entries with
  | nil => rfl
  | cons entry rest ih =>
    obtain ⟨k, v⟩ := entry
    by_cases here : k = key
    · simp [exchangeEntry, insertEntry, here]
    · simp [exchangeEntry, insertEntry, here, ih]

/-- An exchange inserts, and returns what was under the key before. -/
theorem exchange_eq (map : KeyedMap α) (key : String) (value : α) :
    map.exchange key value = (map.get? key, map.insert key value) := by
  rw [exchange, exchangeEntry_eq]
  rfl

end KeyedMap

end ParamSql
