import ParamSql.Proofs.Placeholders.Filter
import ParamSql.Proofs.Supplied.Insertion
import ParamSql.Proofs.Supplied.Modifiers
import ParamSql.Proofs.Supplied.Projection
import ParamSql.Proofs.Supplied.TableRef
import ParamSql.Request

/-!
# What a request supplies

The parts of a request that matter for its statement, listed from the descriptions alone: the texts
that can show in it, those of them that are names, the conditions of its filter, and the values that
are to be bound.
-/
namespace ParamSql

namespace Restriction

/-- The texts of the filter and of the modifiers. -/
def texts (given : Restriction) : List String :=
  (given.filter.map Filter.texts).getD [] ++ given.modifiers.texts

/-- The columns that the filter and the modifiers use. -/
def columns (given : Restriction) : List String :=
  (given.filter.map Filter.columns).getD [] ++ given.modifiers.columns

theorem columns_subset_texts (given : Restriction) : given.columns ⊆ given.texts := by
  have filter : (given.filter.map Filter.columns).getD [] ⊆
      (given.filter.map Filter.texts).getD [] := by
    cases given.filter with
    | none => exact List.Subset.refl _
    | some spec => exact Filter.columns_subset_texts spec
  exact Value.append_subset_append filter given.modifiers.columns_subset_texts

def conditions (given : Restriction) : List Filter.Condition :=
  (given.filter.map Filter.conditions).getD []

/-- The values that the filter gives. -/
def operands (given : Restriction) : List Value := (given.filter.map Filter.operands).getD []

end Restriction

namespace Request

/-- The texts that a request supplies: names, operators, expressions and operations, but neither
the values that it binds nor its counts. -/
def texts : Request → List String
  | insert table row => table :: row.rowKeys
  | replace table row => table :: row.rowKeys
  | bulkInsert table rows => table :: rows.rowItems.flatMap (·.rowKeys)
  | upsert table row => table :: row.rowKeys
  | upsertWith table row operations => table :: (row.rowKeys ++ operations.texts)
  | update table row given => table :: (row.rowKeys ++ given.texts)
  | select table fields given => table.texts ++ (fields.map (·.texts)).getD [] ++ given.texts
  | delete table given => table :: given.texts
  | restrict given _ => given.texts

/-- The texts that a request supplies as names: of tables, columns, functions and aliases. -/
def identifiers : Request → List String
  | insert table row => table :: row.rowKeys
  | replace table row => table :: row.rowKeys
  | bulkInsert table rows => table :: rows.rowItems.flatMap (·.rowKeys)
  | upsert table row => table :: row.rowKeys
  | upsertWith table row operations => table :: (row.rowKeys ++ operations.rowKeys)
  | update table row given => table :: (row.rowKeys ++ given.columns)
  | select table fields given =>
    table.tableIdentifiers ++ (fields.map (·.fieldIdentifiers)).getD [] ++ given.columns
  | delete table given => table :: given.columns
  | restrict given _ => given.columns

/-- The names are among the texts that a request supplies. -/
theorem identifiers_subset_texts : ∀ request : Request, request.identifiers ⊆ request.texts
  | insert _ _ => List.Subset.refl _
  | replace _ _ => List.Subset.refl _
  | bulkInsert _ _ => List.Subset.refl _
  | upsert _ _ => List.Subset.refl _
  | upsertWith table row operations => by
    have keys : operations.rowKeys ⊆ operations.texts := operations.rowKeys_subset_texts
    exact List.cons_subset_cons table (Value.append_subset_append (List.Subset.refl _) keys)
  | update table row given => by
    have columns := given.columns_subset_texts
    exact List.cons_subset_cons table (Value.append_subset_append (List.Subset.refl _) columns)
  | select table fields given => by
    have columns := given.columns_subset_texts
    have source := table.tableIdentifiers_subset_texts
    have selected : (fields.map (·.fieldIdentifiers)).getD [] ⊆ (fields.map (·.texts)).getD [] := by
      cases fields with
      | none => exact List.Subset.refl _
      | some spec => exact spec.fieldIdentifiers_subset_texts
    exact Value.append_subset_append (Value.append_subset_append source selected) columns
  | delete table given => List.cons_subset_cons table given.columns_subset_texts
  | restrict given _ => given.columns_subset_texts

/-- The conditions of the filter of a request. -/
def conditions : Request → List Filter.Condition
  | update _ _ given => given.conditions
  | select _ _ given => given.conditions
  | delete _ given => given.conditions
  | restrict given _ => given.conditions
  | _ => []

/-- The values of the rows, in the order of their keys and row after row, and then those of the
filter. -/
def values : Request → List Value
  | insert _ row => row.rowValues
  | replace _ row => row.rowValues
  | bulkInsert _ rows => rows.rowItems.flatMap (·.rowValues)
  | upsert _ row => row.rowValues
  | upsertWith _ row _ => row.rowValues
  | update _ row given => row.rowValues ++ given.operands
  | select _ _ given => given.operands
  | delete _ given => given.operands
  | restrict given _ => given.operands

end Request

end ParamSql
