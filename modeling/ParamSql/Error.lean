import ParamSql.Directive.Basic
import ParamSql.Modifiers.Clause
import ParamSql.Number.Basic
import ParamSql.Value.Kind

/-!
# Errors

Every way in which a description can be rejected, with the category it belongs to and its
wording. A description is rejected for its first fault, in the order in which it is read.
-/
namespace ParamSql

/-- The two families of faults: a value of a kind that has no meaning at its place, and a value
of the right kind whose content cannot be used. -/
inductive Category where
  | unknownType | invalidArgument
  deriving DecidableEq, Repr

def Category.label : Category → String
  | .unknownType => "Unknown type"
  | .invalidArgument => "Invalid argument"

/-- The full wording of a fault. -/
def Category.describe (category : Category) (detail : String) : String :=
  category.label ++ ": " ++ detail

/-- What a name is used for. -/
inductive NameRole where
  | field | columnAlias | function | table | tableAlias | joinColumn | column
  deriving DecidableEq, Repr

def NameRole.label : NameRole → String
  | .field => "field"
  | .columnAlias => "alias"
  | .function => "function"
  | .table => "table"
  | .tableAlias => "table alias"
  | .joinColumn => "join column"
  | .column => "column"

/-- A form that is asked of a value. -/
inductive Form where
  | scalar | string | orderedList | keyedMap
  deriving DecidableEq, Repr

def Form.phrase : Form → String
  | .scalar => "a scalar"
  | .string => "a string"
  | .orderedList => "an ordered list"
  | .keyedMap => "a keyed map"

/-- A place whose keys are read as directives. -/
inductive Place where
  | fieldList | join | predicateColumn | columnCondition | orderBy
  deriving DecidableEq, Repr

def Place.phrase : Place → String
  | .fieldList => "a field list"
  | .join => "a join"
  | .predicateColumn => "a predicate column position"
  | .columnCondition => "a column condition"
  | .orderBy => "ORDER BY"

/-- The cause of a rejection. -/
inductive Error where
  | wrongForm (context : String) (form : Form) (found : Kind)
  | notOneEntry (context : String) (count : Nat)
  | notInt64 (number : Number)
  | unknownDirective (key : String)
  | misplacedDirective (directive : Directive) (place : Place)
  | fieldNotString (found : Kind)
  | tableListLength (count : Nat)
  | joinForm (found : Kind)
  | joinConditionLength (count : Nat)
  | unexpectedJoinKey (key : String)
  | predicateForm (found : Kind)
  | nestedPredicateList
  | conditionIsList (column : String)
  | incomparable (column : String) (found : Kind)
  | unknownOption (key : String)
  | unknownDirection (key : String)
  | groupingByMap
  | countForm (clause : CountClause) (found : Kind)
  | emptyName (role : NameRole)
  | emptyMembership (column : String)
  | rangeLength (column : String) (count : Nat)
  | noColumns (clause : ColumnClause)
  | negativeCount (clause : CountClause) (value : Int64)
  | notNumeric (clause : CountClause) (text : String)
  | noRows
  | rowsForm (found : Kind)
  | rowWidth (index found expected : Nat)
  | rowColumns (index : Nat)
  deriving DecidableEq, Repr

namespace Error

def category : Error → Category
  | emptyName _ | emptyMembership _ | rangeLength _ _ | noColumns _ | negativeCount _ _
  | notNumeric _ _ | noRows | rowsForm _ | rowWidth _ _ _ | rowColumns _ => .invalidArgument
  | _ => .unknownType

/-- The wording of the cause alone. -/
def detail : Error → String
  | wrongForm context form found =>
    context ++ " expects " ++ form.phrase ++ ", got " ++ found.name
  | notOneEntry context count =>
    context ++ " expects a map with exactly one entry, got " ++ toString count
  | notInt64 number => "number " ++ number.text ++ " is not a 64-bit integer"
  | unknownDirective key => "unknown directive '" ++ key ++ "'"
  | misplacedDirective directive place =>
    "directive '" ++ directive.key ++ "' is not allowed in " ++ place.phrase
  | fieldNotString found => "field must be a string, got " ++ found.name
  | tableListLength count =>
    "table list must be [name, alias], got " ++ toString count ++ " elements"
  | joinForm found => "join must be a map or a list of maps, got " ++ found.name
  | joinConditionLength count =>
    "-on must be [column, expression], got " ++ toString count ++ " elements"
  | unexpectedJoinKey key => "unexpected key '" ++ key ++ "' in a join"
  | predicateForm found => "predicate must be a list or a map, got " ++ found.name
  | nestedPredicateList => "a predicate list cannot contain another list"
  | conditionIsList column =>
    "condition for '" ++ column ++ "' is a list; use \x7b\"-in\": [...]\x7d"
  | incomparable column found =>
    "cannot compare '" ++ column ++ "' with a " ++ found.name ++ " value"
  | unknownOption key => "unknown option '" ++ key ++ "'"
  | unknownDirection key => "ORDER BY expects -asc or -desc, got '" ++ key ++ "'"
  | groupingByMap => "GROUP BY expects a column name or a list"
  | countForm clause found => clause.keyword ++ " expects an integer, got " ++ found.name
  | emptyName role => role.label ++ " name must not be empty"
  | emptyMembership column => "-in list for '" ++ column ++ "' is empty"
  | rangeLength column count =>
    "-between for '" ++ column ++ "' needs exactly 2 values, got " ++ toString count
  | noColumns clause => clause.keyword ++ " needs at least one column"
  | negativeCount clause value =>
    clause.keyword ++ " must not be negative, got " ++ toString value.toInt
  | notNumeric clause text => clause.keyword ++ " must be numeric, got '" ++ text ++ "'"
  | noRows => "bulk insert needs at least one row"
  | rowsForm found => "bulk insert expects a list of rows, got " ++ found.name
  | rowWidth index found expected =>
    "row " ++ toString index ++ " has " ++ toString found ++ " columns, expected " ++
      toString expected
  | rowColumns index => "row " ++ toString index ++ " columns differ from the first row"

/-- The wording under the label of the category. -/
def message (error : Error) : String := error.category.describe error.detail

end Error

end ParamSql
