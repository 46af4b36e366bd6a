import ParamSql.Restriction

/-!
# Requests

What a caller can ask for: a statement of one of eight forms, or the tail of a statement on its
own. A request holds descriptions as they were given; nothing in it has been checked.
-/
namespace ParamSql

/-- The form of a request. -/
inductive RequestKind where
  | insert | replace | bulkInsert | upsert | upsertWith | update | select | delete | restrict
  deriving DecidableEq, Repr

/-- The word for the form in reports. -/
def RequestKind.label : RequestKind → String
  | .insert => "insert"
  | .replace => "replace"
  | .bulkInsert => "bulk_insert"
  | .upsert => "upsert"
  | .upsertWith => "upsert_with_op"
  | .update => "update"
  | .select => "select"
  | .delete => "delete"
  | .restrict => "where"

inductive Request where
  | insert (table : String) (row : Value)
  | replace (table : String) (row : Value)
  | bulkInsert (table : String) (rows : Value)
  | upsert (table : String) (row : Value)
  | upsertWith (table : String) (row operations : Value)
  | update (table : String) (row : Value) (restriction : Restriction)
  | select (table : Value) (fields : Option Value) (restriction : Restriction)
  | delete (table : String) (restriction : Restriction)
  | restrict (restriction : Restriction) (prefixed : Bool)
  deriving DecidableEq

def Request.kind : Request → RequestKind
  | insert .. => .insert
  | replace .. => .replace
  | bulkInsert .. => .bulkInsert
  | upsert .. => .upsert
  | upsertWith .. => .upsertWith
  | update .. => .update
  | select .. => .select
  | delete .. => .delete
  | restrict .. => .restrict

end ParamSql
