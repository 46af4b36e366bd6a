import ParamSql.Proofs.Filter.Conditions

/-!
# Filters without conditions

Whether a filter leaves any text is decided on the texts of its groups, at every depth. The outcome
is what the description says: the text of an accepted filter is empty exactly when it contains no
condition, and then it binds nothing.
-/
namespace ParamSql.SearchCondition

theorem enclose_eq_empty_iff {connective : Connective} {clauses : List String} :
    enclose connective clauses = "" ↔ clauses = [] := by
  unfold enclose
  split
  · next none => simpa using none
  · next some =>
    constructor
    · intro empty
      simpa using congrArg String.length empty
    · intro none
      simp [none] at some

section

variable (column : String → String)

mutual

theorem clause_eq_empty_iff : ∀ (ambient : Connective) (condition : SearchCondition),
    condition.clause column ambient = "" ↔ condition.leaves = []
  | _, .unbound name => by simp [clause, leaves]
  | _, .compared name comparison => by simp [clause, leaves]
  | ambient, .group connective parts => by
    rw [clause, enclose_eq_empty_iff, leaves, clauses_eq_nil_iff]

theorem clauses_eq_nil_iff : ∀ (ambient : Connective) (parts : List SearchCondition),
    clauses column ambient parts = [] ↔ leavesOfParts parts = []
  | _, [] => by simp [clauses, leavesOfParts]
  | ambient, part :: rest => by
    have first := clause_eq_empty_iff ambient part
    have others := clauses_eq_nil_iff ambient rest
    by_cases empty : part.clause column ambient = ""
    · simp [clauses, leavesOfParts, empty, first.mp empty, others]
    · have leaf := mt first.mpr empty
      simp [clauses, leavesOfParts, empty, leaf]

end

end

/-- The values that a leaf binds. -/
def Leaf.operands (leaf : Leaf) : List Scalar := (leaf.comparison.map (·.operands)).getD []

mutual

/-- A condition binds the values of its leaves, from left to right. -/
theorem operands_eq_flatMap : ∀ condition : SearchCondition,
    condition.operands = condition.leaves.flatMap Leaf.operands
  | .unbound _ => rfl
  | .compared _ comparison => by simp [operands, leaves, Leaf.operands]
  | .group _ parts => operandsOfParts_eq_flatMap parts

theorem operandsOfParts_eq_flatMap : ∀ parts : List SearchCondition,
    operandsOfParts parts = (leavesOfParts parts).flatMap Leaf.operands
  | [] => rfl
  | part :: rest => by
    rw [operandsOfParts, leavesOfParts, List.flatMap_append, operands_eq_flatMap part,
      operandsOfParts_eq_flatMap rest]

end

theorem leaves_eq_nil_iff {spec : Value} {condition : SearchCondition}
    (success : read spec = .ok condition) :
    condition.leaves = [] ↔ Filter.conditions spec = [] := by
  have same := (leaves_of_read success).length_eq
  rw [← List.length_eq_zero_iff, ← List.length_eq_zero_iff, same]

/-- The text of an accepted filter is empty iff it contains no condition. -/
theorem text_statement_eq_empty_iff {spec : Value} {condition : SearchCondition}
    (success : read spec = .ok condition) (column : String → String) (ambient : Connective) :
    (condition.statement column ambient).text = "" ↔ Filter.conditions spec = [] := by
  rw [statement, clause_eq_empty_iff, leaves_eq_nil_iff success]

theorem params_of_text_eq_empty {column : String → String} {ambient : Connective}
    {condition : SearchCondition} (empty : (condition.statement column ambient).text = "") :
    (condition.statement column ambient).params = [] := by
  rw [statement, clause_eq_empty_iff] at empty
  rw [statement, operands_eq_flatMap, empty]
  rfl

end ParamSql.SearchCondition
