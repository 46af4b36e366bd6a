import ParamSql.Projection.Render
import ParamSql.Proofs.Projection.Reading

/-!
# The aliases that a projection declares

A description names aliases under `-as`, at every depth. Compiling it adds exactly these to the
scope, quoted and in order, or the first ones of them if there is a fault.
-/
namespace ParamSql.Projection

mutual

/-- The names of aliases in a description. -/
def aliasNames : Value → List String
  | .scalar _ => []
  | .list items => aliasNamesOfItems items
  | .map ⟨entries⟩ => aliasNamesOfEntries entries

/-- The names of aliases in the items of a list. -/
def aliasNamesOfItems : List Value → List String
  | [] => []
  | item :: rest => aliasNames item ++ aliasNamesOfItems rest

/-- The names of aliases in the entries of a map. -/
def aliasNamesOfEntries : List (String × Value) → List String
  | [] => []
  | (key, value) :: rest =>
    match Directive.read key with
    | .ok (some .as) => value.text?.toList ++ aliasNamesOfEntries rest
    | _ => aliasNames value ++ aliasNamesOfEntries rest

end

/-- The names as they are collected. -/
def quotedNames (names : List String) : List String := names.map Name.quote

theorem quotedNames_append (first second : List String) :
    quotedNames (first ++ second) = quotedNames first ++ quotedNames second :=
  List.map_append

open Reading

theorem collects_readAlias (value : Value) :
    (readAlias value).Collects (quotedNames value.text?.toList) := by
  refine (collects_lift _).bind fun text given => (collects_lift _).bind fun name required => ?_
  obtain rfl := Value.requireString_eq_ok_iff.mp given.of_lift
  obtain ⟨-, rfl⟩ := Name.require_eq_ok_iff.mp required.of_lift
  exact (collects_modify _).bind fun _ _ => collects_pure name

mutual

theorem collects_read : ∀ value : Value, (read value).Collects (quotedNames (aliasNames value))
  | .scalar (.string text) => by
    exact (collects_lift _).bind fun name _ => collects_pure _
  | .scalar .null => collects_throw _ _
  | .scalar (.boolean _) => collects_throw _ _
  | .scalar (.integer _) => collects_throw _ _
  | .list items => by
    have inside := (collects_readItems items).bind fun projections _ =>
      collects_pure (Projection.list projections)
    rwa [List.append_nil] at inside
  | .map ⟨entries⟩ => by
    have inside := (collects_readParts entries).bind fun parts _ =>
      collects_pure (Projection.composed parts)
    rwa [List.append_nil] at inside

theorem collects_readItems : ∀ items : List Value,
    (readItems items).Collects (quotedNames (aliasNamesOfItems items))
  | [] => collects_pure _
  | item :: rest => by
    have inside := (collects_read item).bind fun projection _ =>
      (collects_readItems rest).bind fun projections _ => collects_pure (projection :: projections)
    rwa [List.append_nil, ← quotedNames_append] at inside

theorem collects_readParts : ∀ entries : List (String × Value),
    (readParts entries).Collects (quotedNames (aliasNamesOfEntries entries))
  | [] => collects_pure _
  | (key, value) :: rest => by
    rw [readParts]
    refine (collects_lift (Directive.read key)).bind fun directive known => ?_
    rw [aliasNamesOfEntries, known.of_lift]
    cases directive with
    | none =>
      have inside := (collects_lift (Name.require .function key)).bind fun function _ =>
        (collects_read value).bind fun argument _ =>
          (collects_readParts rest).bind fun parts _ =>
            collects_pure (ItemPart.call function argument :: parts)
      rwa [List.append_nil, ← quotedNames_append] at inside
    | some directive =>
      cases directive with
      | as =>
        have inside := (collects_readAlias value).bind fun name _ =>
          (collects_readParts rest).bind fun parts _ =>
            collects_pure (ItemPart.aliased name :: parts)
        rwa [List.append_nil, ← quotedNames_append] at inside
      | _ => exact collects_throw _ _

end

/-- The scope after a projection has all the aliases that the projection names, or, if there is a
fault, the first ones of them. -/
theorem declared_compile (scope : Scope) (spec : Value) :
    ∃ declared, (compile scope spec).2 = scope.declareAll declared ∧
      declared <+: quotedNames (aliasNames spec) ∧
      ∀ result, (compile scope spec).1 = .ok result → declared = quotedNames (aliasNames spec) := by
  obtain ⟨declared, collected, within, complete⟩ := collects_read spec []
  refine ⟨declared, ?_, within, ?_⟩
  · rw [← List.nil_append declared, ← collected]
    rfl
  · intro result success
    obtain ⟨projection, returned, -⟩ := Outcome.map_eq_ok.mp success
    exact complete projection returned

end ParamSql.Projection
