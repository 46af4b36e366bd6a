/-!
# Projections

What a statement selects: columns and expressions, lists of projections, and items that apply a
function, declare an alias, or do both. An item keeps all its parts in order; which of them
show in the statement is decided when it is written.
-/
namespace ParamSql

/-- A part of an item, over the type of the arguments of functions. -/
inductive ItemPart (π : Type) where
  | aliased (name : String)
  | call (function : String) (argument : π)
  deriving DecidableEq, Repr

inductive Projection where
  | column (name : String)
  | list (items : List Projection)
  | composed (parts : List (ItemPart Projection))

end ParamSql
