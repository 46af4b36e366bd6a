import ParamSql.Proofs.Filter.Conditions

/-!
# The tree of a filter

What a filter means, from the description alone: its conditions at the leaves, and a group for every
list and map that contains one. A group takes the connective in force around it unless a key names
one, which is then in force below. The text of an accepted filter is this tree, written out.
-/
namespace ParamSql.Filter

/-- A condition as it is written: the column in full, the operator, and how many placeholders it
has. -/
structure Term where
  column : String
  operator : String
  placeholders : Nat
  deriving DecidableEq, Repr

/-- A group with a single child has no connective. -/
inductive Tree where
  | leaf (term : Term)
  | group (connective : Option Connective) (children : List Tree)

/-- The group of the children, if there are any. -/
def Tree.enclose (connective : Connective) : List Tree → Option Tree
  | [] => none
  | [child] => some (.group none [child])
  | children => some (.group (some connective) children)

/-- The term of a condition, where `column` writes column names. -/
def Condition.term (column : String → String) : Condition → Term
  | .bare name => ⟨column name, "=", 1⟩
  | .entry name (.map ⟨[(key, operand)]⟩) =>
    match Directive.read key, operand with
    | .ok (some .in), .list items => ⟨column name, "IN", items.length⟩
    | .ok (some .between), .list items => ⟨column name, "BETWEEN", items.length⟩
    | _, _ => ⟨column name, key, 1⟩
  | .entry name _ => ⟨column name, "=", 1⟩

section

variable (column : String → String)

mutual

/-- The tree of a filter under a connective. -/
def tree (ambient : Connective) : Value → Option Tree
  | .list items => Tree.enclose ambient (itemTrees ambient items)
  | .map ⟨entries⟩ => Tree.enclose ambient (entryTrees ambient entries)
  | .scalar _ => none

/-- The trees of the items of a list. -/
def itemTrees (ambient : Connective) : List Value → List Tree
  | [] => []
  | .scalar (.string name) :: rest =>
    .leaf (Condition.term column (.bare name)) :: itemTrees ambient rest
  | .map ⟨entries⟩ :: rest =>
    (Tree.enclose ambient (entryTrees ambient entries)).toList ++ itemTrees ambient rest
  | _ :: rest => itemTrees ambient rest

/-- The trees of the entries of a map. -/
def entryTrees (ambient : Connective) : List (String × Value) → List Tree
  | [] => []
  | (key, value) :: rest =>
    match Directive.read key with
    | .ok none => .leaf (Condition.term column (.entry key value)) :: entryTrees ambient rest
    | .ok (some .and) => (groupTree .and value).toList ++ entryTrees ambient rest
    | .ok (some .or) => (groupTree .or value).toList ++ entryTrees ambient rest
    | _ => entryTrees ambient rest

/-- The tree of the list below a connective. -/
def groupTree (connective : Connective) : Value → Option Tree
  | .list items => Tree.enclose connective (itemTrees connective items)
  | _ => none

end

end

def Term.text (term : Term) : String :=
  term.column ++ " " ++ term.operator ++ " " ++
    (Operator.mk term.operator).placeholder term.placeholders

namespace Tree

mutual

def text : Tree → String
  | .leaf term => term.text
  | .group connective children =>
    "( " ++ (connective.getD .and).separator.intercalate (texts children) ++ " )"

/-- The texts of the children of a group. -/
def texts : List Tree → List String
  | [] => []
  | child :: rest => text child :: texts rest

end

theorem text_ne_empty (tree : Tree) : tree.text ≠ "" := by
  intro empty
  have length := congrArg String.length empty
  cases tree with
  | leaf term => simp [text, Term.text] at length
  | group connective children => simp [text] at length

/-- The text of a group is its enclosed texts, also when there are none. -/
theorem text_enclose (connective : Connective) (children : List Tree) :
    ((enclose connective children).map text).getD "" =
      SearchCondition.enclose connective (texts children) := by
  rcases children with _ | ⟨first, _ | ⟨second, rest⟩⟩ <;>
    simp [enclose, text, texts, SearchCondition.enclose]

theorem texts_append (first second : List Tree) :
    texts (first ++ second) = texts first ++ texts second := by
  induction first with
  | nil => rfl
  | cons child rest ih => simp [texts, ih]

end Tree

variable {column : String → String} {ambient : Connective}

theorem clause_unbound (name : String) : (SearchCondition.unbound name).clause column ambient =
    (Condition.term column (.bare name)).text := by
  have placeholder : (Operator.mk "=").placeholder 1 = "?" := by decide
  have joined : " " ++ ("=" ++ (" " ++ "?")) = " = ?" := by decide
  dsimp only [Term.text, Condition.term]
  simp only [placeholder, String.append_assoc, joined]
  rfl

/-- The clause of a comparison is the text of the term of its description. -/
theorem clause_compared {name : String} {value : Value} {comparison : Comparison}
    (described : Comparison.Describes value comparison) :
    (SearchCondition.compared name comparison).clause column ambient =
      (Condition.term column (.entry name value)).text := by
  cases described with
  | equality _ => rfl
  | membership known _ _ =>
    simp [SearchCondition.clause, Condition.term, known, Term.text, Comparison.placeholder,
      Operator.membership]
  | range known _ _ =>
    simp [SearchCondition.clause, Condition.term, known, Term.text, Comparison.placeholder,
      Operator.range]
  | raw known _ =>
    simp [SearchCondition.clause, Condition.term, known, Term.text, Comparison.placeholder]

/-- A part whose clause is the text of a tree, or empty if there is none, adds that tree. -/
theorem clauses_cons {part : SearchCondition} {found : Option Tree} (rest : List SearchCondition)
    (same : part.clause column ambient = (found.map Tree.text).getD "") :
    SearchCondition.clauses column ambient (part :: rest) =
      Tree.texts found.toList ++ SearchCondition.clauses column ambient rest := by
  cases found with
  | none => simp [SearchCondition.clauses, same, Tree.texts]
  | some tree => simp [SearchCondition.clauses, same, Tree.texts, tree.text_ne_empty]

/-- A condition is never without text, so that its clause is always there. -/
theorem clauses_cons_term {part : SearchCondition} {term : Term} (rest : List SearchCondition)
    (same : part.clause column ambient = term.text) :
    SearchCondition.clauses column ambient (part :: rest) =
      Tree.texts [.leaf term] ++ SearchCondition.clauses column ambient rest := by
  have present : term.text ≠ "" := (Tree.leaf term).text_ne_empty
  simp [SearchCondition.clauses, same, Tree.texts, Tree.text, present]

/-- A group whose clauses are the texts of trees is written as the tree that encloses them. -/
theorem clause_group {connective : Option Connective} {parts : List SearchCondition}
    {trees : List Tree}
    (same : SearchCondition.clauses column (connective.getD ambient) parts = Tree.texts trees) :
    (SearchCondition.group connective parts).clause column ambient =
      ((Tree.enclose (connective.getD ambient) trees).map Tree.text).getD "" := by
  rw [SearchCondition.clause, same, Tree.text_enclose]

/-- The text of an accepted filter is the text of its tree, or empty if there is none. -/
theorem clause_of_read {spec : Value} {condition : SearchCondition}
    (success : SearchCondition.read spec = .ok condition) :
    ∀ ambient, condition.clause column ambient =
      ((tree column ambient spec).map Tree.text).getD "" := by
  have kept : SearchCondition.KeptByReading
      (fun spec condition => ∀ ambient, condition.clause column ambient =
        ((tree column ambient spec).map Tree.text).getD "")
      (fun items parts => ∀ ambient, SearchCondition.clauses column ambient parts =
        Tree.texts (itemTrees column ambient items))
      (fun entries parts => ∀ ambient, SearchCondition.clauses column ambient parts =
        Tree.texts (entryTrees column ambient entries)) :=
    { list := fun inside ambient => clause_group (inside ambient)
      map := fun inside ambient => clause_group (inside ambient)
      noItem := fun _ => rfl
      bare := fun {name _ _} _ later ambient => by
        rw [clauses_cons_term _ (clause_unbound name), later]
        rfl
      nested := fun inside later ambient => by
        rw [clauses_cons _ (clause_group (inside ambient)), later, ← Tree.texts_append]
        rfl
      noEntry := fun _ => rfl
      group := fun {_ connective _ _ _ _} known inside later ambient => by
        rw [clauses_cons _ (clause_group (inside connective)), later, ← Tree.texts_append]
        cases connective <;> simp only [entryTrees, known, Connective.directive] <;> rfl
      column := fun known present described later ambient => by
        rw [clauses_cons_term _ (clause_compared described), later]
        simp only [entryTrees, known]
        rfl }
  exact kept.of_read success

end ParamSql.Filter
