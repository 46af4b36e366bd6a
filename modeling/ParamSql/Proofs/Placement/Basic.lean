import ParamSql.Proofs.Recasing.Basic
import ParamSql.Proofs.Value.Maps

/-!
# Places of directives

What a map stands for is decided by the description around it: the entries of a filter, the operator
of a column, a direction, an item of a projection, a table with its joins, or a join. Each of these
languages has directives of its own. Here every map of a description is found together with the
language in which it is read, down to the last one, and it is said which directives are in place
there.
-/
namespace ParamSql

/-- The language in which a map is read. An operand is a place where no map can stand. -/
inductive Role where
  | filter | comparison | ordering | projection | table | join | operand
  deriving DecidableEq, Repr

namespace Role

/-- The directives that have a meaning in the language. -/
def directives : Role → List Directive
  | filter => [.and, .or]
  | comparison => [.in, .between]
  | ordering => [.asc, .desc]
  | projection => [.as]
  | join => [.inner, .left, .on]
  | table | operand => []

/-- A directive in the language has no other key beside it. -/
def exclusive : Role → Bool
  | comparison | ordering => true
  | _ => false

/-- The language of the value below a key. -/
def below (role : Role) (key : String) : Role :=
  match role, Directive.find? key with
  | filter, some .and => filter
  | filter, some .or => filter
  | filter, _ => comparison
  | ordering, _ => ordering
  | projection, some .as => operand
  | projection, _ => projection
  | table, _ => join
  | join, some .inner => table
  | join, some .left => table
  | _, _ => operand

end Role

/-- A map with the language in which it is read. -/
structure PlacedMap where
  role : Role
  fields : KeyedMap Value

namespace Value

mutual

/-- The maps of a description in a language, each with its own language. -/
def mapsAs (role : Role) : Value → List PlacedMap
  | .scalar _ => []
  | .list items => mapsAsOfItems role items
  | .map ⟨entries⟩ => ⟨role, ⟨entries⟩⟩ :: mapsAsOfEntries role entries

/-- The maps of the items of a list, which are read in the language of the list. -/
def mapsAsOfItems (role : Role) : List Value → List PlacedMap
  | [] => []
  | item :: rest => mapsAs role item ++ mapsAsOfItems role rest

/-- The maps of the values of entries, which are read in the languages below their keys. -/
def mapsAsOfEntries (role : Role) : List (String × Value) → List PlacedMap
  | [] => []
  | (key, value) :: rest => mapsAs (role.below key) value ++ mapsAsOfEntries role rest

end

mutual

/-- Every map of the description is read in some language. -/
theorem fields_mapsAs : ∀ (role : Role) (value : Value),
    (value.mapsAs role).map PlacedMap.fields = value.maps
  | _, .scalar _ => rfl
  | role, .list items => fields_mapsAsOfItems role items
  | role, .map ⟨entries⟩ => by
    rw [mapsAs, maps, List.map_cons, fields_mapsAsOfEntries role entries]

theorem fields_mapsAsOfItems : ∀ (role : Role) (items : List Value),
    (mapsAsOfItems role items).map PlacedMap.fields = mapsOfItems items
  | _, [] => rfl
  | role, item :: rest => by
    rw [mapsAsOfItems, mapsOfItems, List.map_append, fields_mapsAs role item,
      fields_mapsAsOfItems role rest]

theorem fields_mapsAsOfEntries : ∀ (role : Role) (entries : List (String × Value)),
    (mapsAsOfEntries role entries).map PlacedMap.fields = mapsOfEntries entries
  | _, [] => rfl
  | role, (key, value) :: rest => by
    rw [mapsAsOfEntries, mapsOfEntries, List.map_append, fields_mapsAs (role.below key) value,
      fields_mapsAsOfEntries role rest]

end

theorem mapsAsOfItems_scalars (role : Role) (scalars : List Scalar) :
    mapsAsOfItems role (scalars.map .scalar) = [] := by
  induction scalars with
  | nil => rfl
  | cons scalar rest ih => exact ih

end Value

namespace Directive

/-- What a key is read as is what it is found to be. -/
theorem find?_of_read {key : String} {directive : Option Directive}
    (known : read key = .ok directive) : find? key = directive := by
  cases directive with
  | some directive => exact (read_eq_some_iff.mp known).2
  | none =>
    by_contra found
    obtain ⟨directive, same⟩ := Option.ne_none_iff_exists'.mp found
    rw [read_eq_some_iff_spelledBy.mpr (find?_eq_some_iff.mp same)] at known
    cases known

end Directive

/-- The key is a name, or a directive that has a meaning in the language. -/
def Role.Allows (role : Role) (key : String) : Prop :=
  Directive.isKey key = true → ∃ directive ∈ role.directives, directive.SpelledBy key

/-- No key of the map is a directive that is unknown, or that has no meaning where the map stands,
or that ought to be alone and is not. -/
structure PlacedMap.InPlace (placed : PlacedMap) : Prop where
  allowed : ∀ key ∈ placed.fields.keys, placed.role.Allows key
  alone : placed.role.exclusive = true → ∀ key ∈ placed.fields.keys,
    Directive.isKey key = true → placed.fields.keys = [key]

namespace Role

variable {role : Role} {key : String}

theorem allows_of_name (name : Directive.read key = .ok none) : role.Allows key := by
  intro dash
  rw [Directive.read_eq_none_iff.mp name] at dash
  cases dash

theorem allows_of_read {directive : Directive} (known : Directive.read key = .ok (some directive))
    (listed : directive ∈ role.directives) : role.Allows key :=
  fun _ => ⟨directive, listed, Directive.read_eq_some_iff_spelledBy.mp known⟩

end Role

/-- A map with one entry is in place when its key is allowed. -/
theorem PlacedMap.inPlace_single {role : Role} {key : String} {value : Value}
    (allowed : role.Allows key) : InPlace ⟨role, ⟨[(key, value)]⟩⟩ := by
  constructor
  · exact List.forall_mem_singleton.mpr allowed
  · intro _
    exact List.forall_mem_singleton.mpr fun _ => rfl

/-- The entries of a map are in place: their keys are allowed, and so is everything below. -/
structure EntriesInPlace (role : Role) (entries : List (String × Value)) : Prop where
  allowed : ∀ key ∈ entries.map Prod.fst, role.Allows key
  below : ∀ placed ∈ Value.mapsAsOfEntries role entries, placed.InPlace

namespace EntriesInPlace

variable {role : Role} {key : String} {value : Value} {rest : List (String × Value)}

theorem nil : EntriesInPlace role [] := ⟨nofun, nofun⟩

theorem cons (allowed : role.Allows key)
    (inside : ∀ placed ∈ value.mapsAs (role.below key), placed.InPlace)
    (others : EntriesInPlace role rest) : EntriesInPlace role ((key, value) :: rest) :=
  ⟨List.forall_mem_cons.mpr ⟨allowed, others.allowed⟩,
    List.forall_mem_append.mpr ⟨inside, others.below⟩⟩

/-- Where directives can have keys beside them, a map with such entries is in place. -/
theorem map (shared : role.exclusive = false) (entries : EntriesInPlace role rest) :
    ∀ placed ∈ (Value.map ⟨rest⟩).mapsAs role, placed.InPlace := by
  refine List.forall_mem_cons.mpr ⟨⟨entries.allowed, ?_⟩, entries.below⟩
  intro exclusive
  rw [shared] at exclusive
  cases exclusive

end EntriesInPlace

end ParamSql
