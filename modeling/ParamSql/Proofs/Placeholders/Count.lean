import ParamSql.Placeholder
import ParamSql.Proofs.Filter.Conditions
import ParamSql.Proofs.Text.Avoids

/-!
# Counting placeholders

The placeholders of a text are its question marks. They add up over concatenations, and a fragment
of a statement accounts for them: each one stands for a parameter, for a column whose value is bound
elsewhere, or is the second one of a range that a caller asked for under its SQL keyword.
-/
namespace ParamSql

open Text

/-- The question marks of a text. -/
def Placeholder.count (text : String) : Nat := text.toList.count '?'

namespace Placeholder

@[simp] theorem count_append (first second : String) :
    count (first ++ second) = count first + count second := by
  simp [count]

@[simp] theorem count_empty : count "" = 0 := rfl

theorem count_of_unmarked {text : String} (unmarked : Unmarked text) : count text = 0 :=
  List.count_eq_zero.mpr unmarked

/-- The question marks of several texts. -/
def total : List String → Nat
  | [] => 0
  | text :: rest => count text + total rest

theorem total_append (first second : List String) :
    total (first ++ second) = total first + total second := by
  induction first with
  | nil => simp [total]
  | cons text rest ih =>
    simp only [List.cons_append, total, ih]
    omega

theorem count_intercalate {separator : String} (separated : Unmarked separator)
    (texts : List String) : count (separator.intercalate texts) = total texts := by
  induction texts with
  | nil => simp [total]
  | cons text rest ih =>
    cases rest with
    | nil => simp [total]
    | cons next rest =>
      rw [String.intercalate_cons_cons, count_append, count_append, ih, count_of_unmarked separated]
      simp [total]

/-- Copies of a text have its question marks each. -/
theorem total_replicate (copies : Nat) (text : String) :
    total (List.replicate copies text) = copies * count text := by
  induction copies with
  | zero => simp [total]
  | succ copies ih =>
    simp only [List.replicate_succ, total, ih, Nat.succ_mul]
    omega

/-- A tuple has as many placeholders as it is wide. -/
theorem count_tuple (width : Nat) : count (tuple width) = width := by
  have opening : count "( " = 0 := rfl
  have closing : count " )" = 0 := rfl
  have single : count "?" = 1 := rfl
  have inner : count (",".intercalate (List.replicate width "?")) = width := by
    rw [count_intercalate (by decide), total_replicate, single, Nat.mul_one]
  rw [tuple, count_append, count_append, opening, closing, inner]
  omega

end Placeholder

namespace Filter.Condition

/-- A column without a value. -/
def isBare : Condition → Bool
  | bare _ => true
  | entry _ _ => false

/-- A column under the operator `BETWEEN`, in exactly this writing, which is not the directive: it
takes one value, but it is written with two placeholders. -/
def isRawRange : Condition → Bool
  | entry _ (.map fields) => fields.keys = ["BETWEEN"]
  | _ => false

/-- The values that a condition gives. Those of a list count one by one. -/
def operands : Condition → List Value
  | bare _ => []
  | entry _ (.map fields) => fields.values.flatMap fun
    | .list items => items
    | operand => [operand]
  | entry _ value => [value]

end Filter.Condition

/-- The fragment binds the values, and it accounts for its placeholders: beyond those of its
parameters, it has one for each of the conditions without a value and one for each raw range. -/
structure Statement.Accounts (statement : Statement) (values : List Value)
    (conditions : List Filter.Condition) : Prop where
  params : statement.params.map .scalar = values
  count : statement.placeholderCount =
    statement.params.length + conditions.countP (·.isBare) + conditions.countP (·.isRawRange)

namespace Statement.Accounts

theorem append {first second : Statement} {values others : List Value}
    {conditions more : List Filter.Condition} (left : first.Accounts values conditions)
    (right : second.Accounts others more) :
    (first ++ second).Accounts (values ++ others) (conditions ++ more) := by
  constructor
  · rw [params_append, List.map_append, left.params, right.params]
  · rw [placeholderCount_append, params_append, left.count, right.count, List.length_append,
      List.countP_append, List.countP_append]
    omega

theorem ofText {text : String} (unmarked : Unmarked text) :
    (Statement.ofText text).Accounts [] [] :=
  ⟨rfl, Placeholder.count_of_unmarked unmarked⟩

theorem empty : Statement.empty.Accounts [] [] := ⟨rfl, rfl⟩

end Statement.Accounts

end ParamSql
