import ParamSql.Directive.Key
import ParamSql.Name
import ParamSql.Projection.Basic
import ParamSql.Value.Require

/-!
# Reading projections

A string is a column or an expression, a list is a list of projections, and a map is an item:
`-as` declares an alias, any other key is a function with its argument. Reading collects the
quoted aliases that it meets; one that was met before a fault stays declared.
-/
namespace ParamSql.Projection

/-- Reading that collects quoted aliases, also when it ends in a fault. -/
abbrev Reading (α : Type) := ExceptT Error (StateM (List String)) α

/-- Read the name of an alias and collect it. -/
def readAlias (value : Value) : Reading String := do
  let name ← value.requireString Directive.as.key
  let name ← Name.require .columnAlias name
  modify (· ++ [Name.quote name])
  return name

mutual

/-- The projection that a value describes. -/
def read : Value → Reading Projection
  | .scalar (.string text) => do return .column (← Name.require .field text)
  | .scalar value => throw (.fieldNotString value.kind)
  | .list items => do return .list (← readItems items)
  | .map ⟨entries⟩ => do return .composed (← readParts entries)

/-- The projections that the items of a list describe. -/
def readItems : List Value → Reading (List Projection)
  | [] => return []
  | first :: rest => do
    let projection ← read first
    return projection :: (← readItems rest)

/-- The parts that the entries of a map describe. -/
def readParts : List (String × Value) → Reading (List (ItemPart Projection))
  | [] => return []
  | (key, value) :: rest => do
    match ← Directive.read key with
    | some .as => do
      let name ← readAlias value
      return .aliased name :: (← readParts rest)
    | some other => throw (.misplacedDirective other .fieldList)
    | none => do
      let function ← Name.require .function key
      let argument ← read value
      return .call function argument :: (← readParts rest)

end

end ParamSql.Projection
