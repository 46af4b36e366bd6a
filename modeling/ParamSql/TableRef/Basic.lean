/-!
# Table references

What a statement selects from: a table under the default alias, a table under an alias of its
own, or a table with joins. The target of a join is a table reference again.
-/
namespace ParamSql

inductive JoinKind where
  | inner | left
  deriving DecidableEq, Repr

def JoinKind.keyword : JoinKind → String
  | .inner => "INNER"
  | .left => "LEFT"

/-- The equation of a join: a column on the left, caller's SQL on the right. -/
structure JoinCondition where
  column : String
  expression : String
  deriving DecidableEq, Repr

/-- One join, over the type of its target. Either part can be missing. -/
structure Join (τ : Type) where
  target : Option (JoinKind × τ)
  condition : Option JoinCondition
  deriving DecidableEq, Repr

def Join.empty {τ : Type} : Join τ := ⟨none, none⟩

inductive TableRef where
  | base (table : String)
  | aliased (table name : String)
  | joined (table : String) (joins : List (Join TableRef))

end ParamSql
