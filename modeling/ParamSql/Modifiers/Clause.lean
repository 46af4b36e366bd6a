/-!
# Clauses after the condition

The four clauses that can follow the condition of a statement: two that list columns, two that
count rows.
-/
namespace ParamSql

/-- A clause that lists columns. -/
inductive ColumnClause where
  | groupBy | orderBy
  deriving DecidableEq, Repr

def ColumnClause.keyword : ColumnClause → String
  | .groupBy => "GROUP BY"
  | .orderBy => "ORDER BY"

/-- A clause that counts rows. -/
inductive CountClause where
  | limit | offset
  deriving DecidableEq, Repr

def CountClause.keyword : CountClause → String
  | .limit => "LIMIT"
  | .offset => "OFFSET"

end ParamSql
