import ParamSql.Projection.Read
import ParamSql.Scope
import ParamSql.Text.Uppercase

/-!
# Projections as SQL

A projection is written from left to right, and every alias is in force from where it is
declared. An argument that is nothing but an alias makes its function the name of a column: the
alias moves out of the call.
-/
namespace ParamSql.Projection

/-- What introduces an alias. -/
def aliasMark : String := " AS "

/-- The text is an alias without an expression before it. -/
def isBareAlias (text : String) : Bool := aliasMark.toList.isPrefixOf text.toList

/-- A column or an expression: an expression as it is, a name quoted and prefixed. -/
def columnText (scope : Scope) (name : String) : String :=
  if Name.isExpression name then name else scope.qualify (Name.quote name)

/-- A function applied to its argument. -/
def callText (function argument : String) : String :=
  Text.uppercase function ++ "( " ++ argument ++ " )"

/-- An item as far as it is written: its expression and its alias. Later parts replace earlier
ones. -/
structure Item where
  expression : String
  suffix : String
  deriving DecidableEq, Repr

mutual

/-- The text of a projection, with the scope after it. -/
def render (scope : Scope) : Projection → String × Scope
  | .column name => (columnText scope name, scope)
  | .list items =>
    let (texts, after) := renderItems scope items
    (",".intercalate texts, after)
  | .composed parts => renderParts scope ⟨"", ""⟩ parts

/-- The texts of the items of a list, with the scope after them. -/
def renderItems (scope : Scope) : List Projection → List String × Scope
  | [] => ([], scope)
  | first :: rest =>
    let (text, after) := render scope first
    let (texts, final) := renderItems after rest
    (text :: texts, final)

/-- The text of an item whose first parts are written, with the scope after it. -/
def renderParts (scope : Scope) (written : Item) : List (ItemPart Projection) → String × Scope
  | [] => (written.expression ++ written.suffix, scope)
  | .aliased name :: rest =>
    let quoted := Name.quote name
    renderParts (scope.declare quoted) ⟨written.expression, aliasMark ++ quoted⟩ rest
  | .call function argument :: rest =>
    let (text, after) := render scope argument
    if isBareAlias text then renderParts after ⟨columnText after function, text⟩ rest
    else renderParts after ⟨callText function text, written.suffix⟩ rest

end

/-- The text of a projection that begins in a scope. -/
def text (scope : Scope) (projection : Projection) : String := (projection.render scope).1

/-- Read a projection and write it, with the scope after it: every alias that was read is
declared there, whether or not a fault follows. -/
def compile (scope : Scope) (spec : Value) : Except Error String × Scope :=
  let (outcome, declared) := (read spec).run.run []
  (outcome.map (text scope), scope.declareAll declared)

end ParamSql.Projection
