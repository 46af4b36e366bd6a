import ParamSql.Name

/-!
# Scopes

The scope of one statement: the default alias of its base table, and the quoted aliases that
its field list has declared. A bare column is prefixed with the default alias unless it is one
of the declared aliases.
-/
namespace ParamSql

structure Scope where
  defaultAlias : String
  declared : List String
  deriving DecidableEq, Repr

namespace Scope

/-- The scope in which nothing has been declared yet. -/
def start (defaultAlias : String) : Scope := ⟨defaultAlias, []⟩

/-- Add a quoted alias. -/
def declare (scope : Scope) (quoted : String) : Scope :=
  ⟨scope.defaultAlias, scope.declared.insert quoted⟩

def declareAll (scope : Scope) (quoted : List String) : Scope := quoted.foldl declare scope

def declares (scope : Scope) (quoted : String) : Bool := scope.declared.contains quoted

/-- Prefix a quoted column with the default alias. Declared aliases and text with a point
stay as they are. -/
def qualify (scope : Scope) (quoted : String) : String :=
  if scope.declares quoted || quoted.toList.contains '.' then quoted
  else Name.quote scope.defaultAlias ++ "." ++ quoted

/-- A column name in a statement: a quoted or qualified one as it is, a bare one quoted, and
prefixed where columns are. -/
def column (scope : Scope) (name : String) (prefixed : Bool) : String :=
  if Name.isQualified name then name
  else if prefixed then scope.qualify (Name.quote name)
  else Name.quote name

theorem mem_declared_declare {scope : Scope} {quoted other : String} :
    other ∈ (scope.declare quoted).declared ↔ other = quoted ∨ other ∈ scope.declared := by
  simp [declare]

theorem mem_declared_declareAll {scope : Scope} {quoted : List String} {other : String} :
    other ∈ (scope.declareAll quoted).declared ↔ other ∈ quoted ∨ other ∈ scope.declared := by
  induction quoted generalizing scope with
  | nil => simp [declareAll]
  | cons first rest ih =>
    rw [declareAll, List.foldl_cons, ← declareAll, ih, mem_declared_declare, List.mem_cons]
    constructor
    · rintro (member | same | member)
      · exact .inl (.inr member)
      · exact .inl (.inl same)
      · exact .inr member
    · rintro ((same | member) | member)
      · exact .inr (.inl same)
      · exact .inl member
      · exact .inr (.inr member)

theorem defaultAlias_declareAll (scope : Scope) (quoted : List String) :
    (scope.declareAll quoted).defaultAlias = scope.defaultAlias := by
  induction quoted generalizing scope with
  | nil => rfl
  | cons first rest ih => exact ih (scope.declare first)

/-- A column is written as before when it is none of the aliases that were declared. -/
theorem column_declareAll {scope : Scope} {quoted : List String} {name : String}
    (apart : Name.quote name ∉ quoted) (prefixed : Bool) :
    (scope.declareAll quoted).column name prefixed = scope.column name prefixed := by
  have declared : (scope.declareAll quoted).declares (Name.quote name) =
      scope.declares (Name.quote name) := by
    simp [declares, mem_declared_declareAll, apart]
  rw [column, column, qualify, qualify, declared, defaultAlias_declareAll]

end Scope

end ParamSql
