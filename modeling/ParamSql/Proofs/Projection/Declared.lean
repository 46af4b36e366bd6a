import ParamSql.Proofs.Projection.Aliases
import ParamSql.Proofs.Projection.Induction
import ParamSql.Proofs.Recasing.Basic
import ParamSql.Proofs.Value.Maps

/-!
# Aliases that are in force

A description gives an alias wherever one of its maps has `-as`, in letters of any case and at any
depth. The scope after a projection has exactly these aliases beside those that it had before; what
it had before has no influence on whether the description is accepted.
-/
namespace ParamSql.Projection

/-- Some map of the description, at any depth, has the name under `-as`. -/
def GivesAlias (spec : Value) (name : String) : Prop :=
  ∃ fields ∈ spec.maps, ∃ key, Directive.as.SpelledBy key ∧ (key, .string name) ∈ fields.entries

section

variable {name key : String} {value item : Value} {rest : List Value}
  {entries : List (String × Value)}

theorem not_givesAlias_scalar {scalar : Scalar} : ¬ GivesAlias (.scalar scalar) name := by
  simp [GivesAlias, Value.maps]

theorem not_givesAlias_empty_list : ¬ GivesAlias (.list []) name := by
  simp [GivesAlias, Value.maps, Value.mapsOfItems]

theorem not_givesAlias_empty_map : ¬ GivesAlias (.map ⟨[]⟩) name := by
  simp [GivesAlias, Value.maps, Value.mapsOfEntries]

theorem givesAlias_list_cons :
    GivesAlias (.list (item :: rest)) name ↔
      GivesAlias item name ∨ GivesAlias (.list rest) name := by
  simp only [GivesAlias, Value.maps, Value.mapsOfItems, List.mem_append, or_and_right, exists_or]

/-- One more entry gives an alias itself, or in its value. -/
theorem givesAlias_map_cons :
    GivesAlias (.map ⟨(key, value) :: entries⟩) name ↔
      (Directive.as.SpelledBy key ∧ value = .string name) ∨ GivesAlias value name ∨
        GivesAlias (.map ⟨entries⟩) name := by
  constructor
  · rintro ⟨fields, listed, other, spelled, entry⟩
    rcases List.mem_cons.mp listed with rfl | below
    · rcases List.mem_cons.mp entry with same | later
      · cases same
        exact .inl ⟨spelled, rfl⟩
      · exact .inr (.inr ⟨_, List.mem_cons_self, other, spelled, later⟩)
    · rcases List.mem_append.mp below with here | there
      · exact .inr (.inl ⟨fields, here, other, spelled, entry⟩)
      · exact .inr (.inr ⟨fields, List.mem_cons_of_mem _ there, other, spelled, entry⟩)
  · rintro (⟨spelled, rfl⟩ | ⟨fields, listed, named⟩ | ⟨fields, listed, other, spelled, entry⟩)
    · exact ⟨_, List.mem_cons_self, key, spelled, List.mem_cons_self⟩
    · exact ⟨fields, List.mem_cons_of_mem _ (List.mem_append_left _ listed), named⟩
    · rcases List.mem_cons.mp listed with rfl | below
      · exact ⟨_, List.mem_cons_self, other, spelled, List.mem_cons_of_mem _ entry⟩
      · exact ⟨fields, List.mem_cons_of_mem _ (List.mem_append_right _ below), other, spelled,
          entry⟩

end

theorem mem_text?_iff {value : Value} {name : String} :
    name ∈ value.text?.toList ↔ value = .string name := by
  match value with
  | .scalar (.string text) => simp [Value.text?, Scalar.text?, Value.string, eq_comm]
  | .scalar .null | .scalar (.boolean _) | .scalar (.integer _) | .list _ | .map _ =>
    simp [Value.text?, Scalar.text?, Value.string]

mutual

/-- Every name that is collected was given. -/
theorem givesAlias_of_mem {name : String} : ∀ value : Value,
    name ∈ aliasNames value → GivesAlias value name
  | .scalar _, member => nomatch member
  | .list items, member => givesAlias_of_mem_items items member
  | .map ⟨entries⟩, member => givesAlias_of_mem_entries entries member

theorem givesAlias_of_mem_items {name : String} : ∀ items : List Value,
    name ∈ aliasNamesOfItems items → GivesAlias (.list items) name
  | [], member => nomatch member
  | item :: rest, member => by
    rw [givesAlias_list_cons]
    exact (List.mem_append.mp member).imp (givesAlias_of_mem item) (givesAlias_of_mem_items rest)

theorem givesAlias_of_mem_entries {name : String} : ∀ entries : List (String × Value),
    name ∈ aliasNamesOfEntries entries → GivesAlias (.map ⟨entries⟩) name
  | [], member => nomatch member
  | (key, value) :: rest, member => by
    rw [givesAlias_map_cons]
    rw [aliasNamesOfEntries] at member
    split at member
    · next known =>
      rcases List.mem_append.mp member with here | there
      · exact .inl ⟨Directive.read_eq_some_iff_spelledBy.mp known, mem_text?_iff.mp here⟩
      · exact .inr (.inr (givesAlias_of_mem_entries rest there))
    · exact .inr ((List.mem_append.mp member).imp (givesAlias_of_mem value)
        (givesAlias_of_mem_entries rest))

end

mutual

/-- The aliases of a projection. -/
def aliases : Projection → List String
  | .column _ => []
  | .list items => aliasesOfItems items
  | .composed parts => aliasesOfParts parts

/-- The aliases of the items of a list. -/
def aliasesOfItems : List Projection → List String
  | [] => []
  | first :: rest => aliases first ++ aliasesOfItems rest

/-- The aliases of the parts of an item, also of those that are not shown. -/
def aliasesOfParts : List (ItemPart Projection) → List String
  | [] => []
  | .aliased name :: rest => name :: aliasesOfParts rest
  | .call _ argument :: rest => aliases argument ++ aliasesOfParts rest

end

theorem declareAll_append (scope : Scope) (first second : List String) :
    scope.declareAll (quotedNames (first ++ second)) =
      (scope.declareAll (quotedNames first)).declareAll (quotedNames second) := by
  rw [quotedNames_append, Scope.declareAll, Scope.declareAll, Scope.declareAll, List.foldl_append]

mutual

/-- What is in force when a projection has been written: all its aliases. -/
theorem scope_render : ∀ (scope : Scope) (projection : Projection),
    (render scope projection).2 = scope.declareAll (quotedNames projection.aliases)
  | _, .column _ => rfl
  | scope, .list items => scope_renderItems scope items
  | scope, .composed parts => scope_renderParts scope ⟨"", ""⟩ parts

theorem scope_renderItems : ∀ (scope : Scope) (items : List Projection),
    (renderItems scope items).2 = scope.declareAll (quotedNames (aliasesOfItems items))
  | _, [] => rfl
  | scope, first :: rest => by
    rw [renderItems, aliasesOfItems, declareAll_append, ← scope_render scope first]
    exact scope_renderItems _ rest

theorem scope_renderParts : ∀ (scope : Scope) (written : Item)
    (parts : List (ItemPart Projection)),
    (renderParts scope written parts).2 = scope.declareAll (quotedNames (aliasesOfParts parts))
  | _, _, [] => rfl
  | scope, written, .aliased name :: rest => scope_renderParts _ _ rest
  | scope, written, .call function argument :: rest => by
    rw [aliasesOfParts, declareAll_append, ← scope_render scope argument]
    simp only [renderParts]
    split
    · exact scope_renderParts _ _ rest
    · exact scope_renderParts _ _ rest

end

/-- The names that are collected while a projection is read are its aliases. -/
theorem aliases_of_read {value : Value} {projection : Projection}
    (returns : (read value).Returns projection) : projection.aliases = aliasNames value := by
  have kept : KeptByReading (fun value projection => projection.aliases = aliasNames value)
      (fun given projections => aliasesOfItems projections = aliasNamesOfItems given)
      (fun given parts => aliasesOfParts parts = aliasNamesOfEntries given) := by
    constructor
    case column => exact fun _ => rfl
    case list => exact fun inside => inside
    case map => exact fun inside => inside
    case noItem => rfl
    case item =>
      intro value projection rest projections here there
      rw [aliasesOfItems, aliasNamesOfItems, here, there]
    case noEntry => rfl
    case aliased =>
      intro key name rest parts known _ there
      rw [aliasNamesOfEntries, known, aliasesOfParts, there]
      rfl
    case call =>
      intro key value argument rest parts known _ here there
      rw [aliasNamesOfEntries, known, aliasesOfParts, here, there]
  exact kept.of_read returns

/-- When a description is read to its end, every name that it gives is an alias: there is nothing
but a string under `-as`. -/
theorem mem_aliases_of_read {value : Value} {projection : Projection}
    (returns : (read value).Returns projection) :
    ∀ name, GivesAlias value name → name ∈ projection.aliases := by
  have kept : KeptByReading
      (fun value projection => ∀ name, GivesAlias value name → name ∈ projection.aliases)
      (fun given projections =>
        ∀ name, GivesAlias (.list given) name → name ∈ aliasesOfItems projections)
      (fun given parts =>
        ∀ name, GivesAlias (.map ⟨given⟩) name → name ∈ aliasesOfParts parts) := by
    constructor
    case column => exact fun _ name given => (not_givesAlias_scalar given).elim
    case list => exact fun inside => inside
    case map => exact fun inside => inside
    case noItem => exact fun name given => (not_givesAlias_empty_list given).elim
    case item =>
      intro value projection rest projections here there name given
      rw [givesAlias_list_cons] at given
      exact List.mem_append.mpr (given.imp (here name) (there name))
    case noEntry => exact fun name given => (not_givesAlias_empty_map given).elim
    case aliased =>
      intro key shown rest parts _ _ there name given
      rcases givesAlias_map_cons.mp given with ⟨-, same⟩ | below | later
      · cases same
        exact List.mem_cons_self
      · exact (not_givesAlias_scalar below).elim
      · exact List.mem_cons_of_mem _ (there name later)
    case call =>
      intro key value argument rest parts known _ here there name given
      rw [givesAlias_map_cons, ← Directive.read_eq_some_iff_spelledBy, known] at given
      rcases given with ⟨spelled, -⟩ | below
      · cases spelled
      · exact List.mem_append.mpr (below.imp (here name) (there name))
  exact kept.of_read returns

/-- The projection that is compiled was read from the description. -/
theorem read_of_compile {scope : Scope} {spec : Value} {text : String}
    (success : (compile scope spec).1 = .ok text) :
    ∃ projection, (read spec).Returns projection ∧ text = projection.text scope := by
  obtain ⟨projection, returned, rfl⟩ := Outcome.map_eq_ok.mp success
  exact ⟨projection, ⟨[], _, Prod.ext returned rfl⟩, rfl⟩

/-- A projection puts its aliases into the scope, and does nothing else to it. Nothing that was
declared before is lost. All that is added was given under `-as`, and when the description is
accepted, so is all that was given; these aliases are the ones that are in force at the end of the
text. The scope decides neither whether a description is accepted nor which fault is found. -/
theorem compile_declares (scope : Scope) (spec : Value) :
    (compile scope spec).2.defaultAlias = scope.defaultAlias ∧
    scope.declared ⊆ (compile scope spec).2.declared ∧
    (∀ quoted ∈ (compile scope spec).2.declared,
      quoted ∈ scope.declared ∨ ∃ name, GivesAlias spec name ∧ quoted = Name.quote name) ∧
    (∀ text, (compile scope spec).1 = .ok text →
      (∀ quoted, quoted ∈ (compile scope spec).2.declared ↔
        quoted ∈ scope.declared ∨ ∃ name, GivesAlias spec name ∧ quoted = Name.quote name) ∧
      ∃ projection : Projection, projection.render scope = (text, (compile scope spec).2)) ∧
    ∀ other : Scope,
      ((compile other spec).1.map fun _ => ()) = (compile scope spec).1.map fun _ => () := by
  obtain ⟨declared, after, within, complete⟩ := declared_compile scope spec
  have bounded : ∀ quoted ∈ declared, ∃ name, GivesAlias spec name ∧ quoted = Name.quote name := by
    intro quoted member
    obtain ⟨name, given, rfl⟩ := List.mem_map.mp (within.subset member)
    exact ⟨name, givesAlias_of_mem spec given, rfl⟩
  rw [after]
  simp only [Scope.mem_declared_declareAll]
  refine ⟨Scope.defaultAlias_declareAll scope declared, ?_, ?_, ?_, ?_⟩
  · intro quoted member
    exact Scope.mem_declared_declareAll.mpr (.inr member)
  · intro quoted member
    exact (Or.comm.mp member).imp_right (bounded quoted)
  · intro text success
    obtain ⟨projection, returned, rfl⟩ := read_of_compile success
    obtain rfl := complete _ success
    refine ⟨fun quoted => ?_, projection, ?_⟩
    · rw [or_comm]
      refine or_congr_right ⟨bounded quoted, ?_⟩
      rintro ⟨name, given, rfl⟩
      rw [← aliases_of_read returned]
      exact List.mem_map_of_mem (mem_aliases_of_read returned name given)
    · rw [← aliases_of_read returned, ← scope_render]
      rfl
  · intro other
    simp only [compile]
    cases (read spec).run.run [] with
    | mk outcome _ => cases outcome <;> rfl

/-- Aliases that are overwritten, one of them inside the argument of a function that is overwritten
too. -/
def overwritingSample : Value :=
  .map ⟨[("-as", .string "a"), ("max", .map ⟨[("-AS", .string "b")]⟩), ("-As", .string "c"),
    ("min", .string "n")]⟩

theorem compile_declares_overwritingSample :
    (compile ⟨"me", ["`x`"]⟩ overwritingSample).1 = .ok "MIN( `me`.`n` ) AS `c`" ∧
      GivesAlias overwritingSample "b" ∧
      ∀ quoted ∈ ["`x`", "`b`"],
        quoted ∈ (compile ⟨"me", ["`x`"]⟩ overwritingSample).2.declared := by
  have success : (compile ⟨"me", ["`x`"]⟩ overwritingSample).1 =
      .ok "MIN( `me`.`n` ) AS `c`" := by rfl
  have given : GivesAlias overwritingSample "b" :=
    givesAlias_of_mem _ (by decide : "b" ∈ aliasNames overwritingSample)
  obtain ⟨-, kept, -, complete, -⟩ := compile_declares ⟨"me", ["`x`"]⟩ overwritingSample
  have added := ((complete _ success).1 "`b`").mpr (.inr ⟨"b", given, rfl⟩)
  refine ⟨success, given, ?_⟩
  simpa [added] using kept List.mem_cons_self

end ParamSql.Projection
