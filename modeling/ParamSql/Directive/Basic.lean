/-!
# Directives

A map key that begins with a dash is a directive, not a name. Keys are recognised whatever the
case of their ASCII letters, and only as a whole.
-/
namespace ParamSql

inductive Directive where
  | as | and | or | in | between | inner | left | on | asc | desc
  deriving DecidableEq, Repr

namespace Directive

def all : List Directive :=
  [.as, .and, .or, .in, .between, .inner, .left, .on, .asc, .desc]

theorem mem_all (directive : Directive) : directive ∈ all := by
  cases directive <;> decide

/-- The key in its canonical writing. -/
def key : Directive → String
  | .as => "-as"
  | .and => "-and"
  | .or => "-or"
  | .in => "-in"
  | .between => "-between"
  | .inner => "-inner"
  | .left => "-left"
  | .on => "-on"
  | .asc => "-asc"
  | .desc => "-desc"

/-- The SQL keyword that the directive stands for. -/
def keyword : Directive → String
  | .as => "AS"
  | .and => "AND"
  | .or => "OR"
  | .in => "IN"
  | .between => "BETWEEN"
  | .inner => "INNER"
  | .left => "LEFT"
  | .on => "ON"
  | .asc => "ASC"
  | .desc => "DESC"

/-- The key is a directive rather than a name. -/
def isKey (key : String) : Bool := key.toList.head? = some '-'

/-- The key with its ASCII capitals lowered. -/
def folded (key : String) : List Char := key.toList.map Char.toLower

/-- The directive of a key. -/
def find? (key : String) : Option Directive :=
  all.find? fun directive => directive.key.toList = folded key

/-- Two keys that differ only in the case of ASCII letters are one directive. -/
theorem find?_congr {key other : String} (same : folded key = folded other) :
    find? key = find? other := by
  simp only [find?, same]

/-- A key is found under exactly one directive: the one whose canonical key it folds to. -/
theorem find?_eq_some_iff {key : String} {directive : Directive} :
    find? key = some directive ↔ folded key = directive.key.toList := by
  constructor
  · intro found
    have holds := List.find?_some found
    simpa using (of_decide_eq_true holds).symm
  · intro same
    simp only [find?, same]
    cases directive <;> decide

theorem find?_key (directive : Directive) : find? directive.key = some directive := by
  cases directive <;> decide

end Directive

end ParamSql
