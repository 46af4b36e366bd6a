import ParamSql.KeyedMap
import ParamSql.Number.Basic

/-!
# Documents

A document is a tree of JSON values. Objects keep the order of their keys, and a document
that was read holds every key of an object once.
-/
namespace ParamSql

inductive Json where
  | null
  | bool (value : Bool)
  | number (value : Number)
  | string (value : String)
  | array (items : List Json)
  | object (fields : KeyedMap Json)

end ParamSql
