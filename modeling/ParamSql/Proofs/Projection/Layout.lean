import ParamSql.Projection.Render
import ParamSql.Proofs.Supplied.Projection

/-!
# What shows of a projection

Later parts of an item replace earlier ones, and a function whose argument is written as nothing but
an alias becomes a column. A layout is what is left of a projection then: its columns, calls and
aliases, as they stand in the text.
-/
namespace ParamSql.Projection

open Text (Avoids avoids_append avoids_quote)

/-- The parts of a projection that show, each column with the scope in which it is written. A column
or a call is followed by what stands in the place of its alias, which is `blank` if it has none. -/
inductive Layout where
  | blank
  | aliased (name : String)
  | column (scope : Scope) (name : String) (suffix : Layout)
  | call (function : String) (argument suffix : Layout)
  | list (items : List Layout)

namespace Layout

mutual

/-- The text of a layout. -/
def text : Layout → String
  | blank => ""
  | aliased name => aliasMark ++ Name.quote name
  | column scope name suffix => columnText scope name ++ text suffix
  | call function argument suffix => callText function (text argument) ++ text suffix
  | list items => ",".intercalate (texts items)

/-- The texts of the items of a list. -/
def texts : List Layout → List String
  | [] => []
  | first :: rest => text first :: texts rest

end

theorem toList_intercalate_texts (first second : Layout) (rest : List Layout) :
    (",".intercalate (texts (first :: second :: rest))).toList =
      first.text.toList ++ ',' :: (",".intercalate (texts (second :: rest))).toList := by
  rw [texts, texts, String.intercalate_cons_cons]
  simp

mutual

/-- The text begins with an alias: an alias by itself, a list that begins with one, or a name that
is read as one. -/
def opens : Layout → Bool
  | blank => false
  | aliased _ => true
  | column _ name _ => Name.isExpression name && isBareAlias name
  | call function _ _ => isBareAlias (Text.uppercase function)
  | list items => opensFirst items

/-- The first item begins with an alias. -/
def opensFirst : List Layout → Bool
  | [] => false
  | first :: _ => opens first

end

/-- What stands in the place of the alias; without an expression, that is everything. -/
def suffix : Layout → Layout
  | column _ _ suffix => suffix
  | call _ _ suffix => suffix
  | other => other

/-- The layout with another alias. -/
def withSuffix : Layout → Layout → Layout
  | column scope name _, new => column scope name new
  | call function argument _, new => call function argument new
  | _, new => new

/-- The text of the expression. -/
def expression : Layout → String
  | column scope name _ => columnText scope name
  | call function argument _ => callText function argument.text
  | _ => ""

/-- The layout as a written item. -/
def item (layout : Layout) : Item := ⟨layout.expression, layout.suffix.text⟩

theorem expression_append_suffix (layout : Layout) :
    layout.expression ++ layout.suffix.text = layout.text := by
  cases layout <;> simp [expression, suffix, text]

theorem item_withSuffix (layout : Layout) (name : String) :
    (layout.withSuffix (aliased name)).item =
      ⟨layout.item.expression, aliasMark ++ Name.quote name⟩ := by
  cases layout <;> rfl

end Layout

/-- Whether a text begins with an alias is decided in front of any character that the mark does not
have. -/
theorem isBareAlias_of_split {text : String} {first rest : List Char} {c : Char}
    (split : text.toList = first ++ c :: rest) (apart : c ∉ aliasMark.toList) :
    isBareAlias text = aliasMark.toList.isPrefixOf first := by
  rw [Bool.eq_iff_iff, isBareAlias, List.isPrefixOf_iff_prefix, List.isPrefixOf_iff_prefix, split]
  refine ⟨fun opened => ?_, fun opened => opened.trans (List.prefix_append _ _)⟩
  obtain shorter | longer := List.prefix_or_prefix_of_prefix opened
    (List.prefix_append first (c :: rest))
  · exact shorter
  · obtain ⟨more, same⟩ := longer
    rw [← same, List.prefix_append_right_inj] at opened
    cases more with
    | nil => exact ⟨[], by simpa using same.symm⟩
    | cons d more =>
      obtain ⟨rfl, -⟩ := List.cons_prefix_cons.mp opened
      exact (apart (same ▸ by simp)).elim

/-- A qualified name in front of anything begins with a quote. -/
theorem isBareAlias_qualify (scope : Scope) (name rest : String) :
    isBareAlias (scope.qualify (Name.quote name) ++ rest) = false := by
  have split : ∃ more, (scope.qualify (Name.quote name) ++ rest).toList =
      [] ++ Name.delimiter :: more := by
    unfold Scope.qualify
    split <;> simp [Name.toList_quote]
  obtain ⟨more, split⟩ := split
  rw [isBareAlias_of_split split (by decide)]
  rfl

theorem isBareAlias_columnText (scope : Scope) (name rest : String) :
    isBareAlias (columnText scope name ++ rest) = (Name.isExpression name && isBareAlias name) := by
  unfold columnText
  cases raw : Name.isExpression name with
  | false => simpa using isBareAlias_qualify scope name rest
  | true =>
    obtain ⟨c, inside, special⟩ := List.any_eq_true.mp raw
    obtain ⟨first, more, split⟩ := List.append_of_mem inside
    have apart : c ∉ aliasMark.toList := by
      intro member
      have marked : c = ' ' ∨ c = 'A' ∨ c = 'S' ∨ c = ' ' := by simpa [aliasMark] using member
      rcases marked with rfl | rfl | rfl | rfl <;> simp at special
    have longer : (name ++ rest).toList = first ++ c :: (more ++ rest.toList) := by
      rw [String.toList_append, split, List.append_assoc, List.cons_append]
    rw [Bool.true_and, if_pos rfl, isBareAlias_of_split longer apart,
      isBareAlias_of_split split apart]

theorem toList_callText (function argument : String) :
    (callText function argument).toList =
      (Text.uppercase function).toList ++ '(' :: ' ' :: (argument.toList ++ [' ', ')']) := by
  simp [callText]

theorem isBareAlias_callText (function argument rest : String) :
    isBareAlias (callText function argument ++ rest) = isBareAlias (Text.uppercase function) := by
  have split : (callText function argument ++ rest).toList = (Text.uppercase function).toList ++
      '(' :: ' ' :: (argument.toList ++ [' ', ')'] ++ rest.toList) := by
    simp [toList_callText]
  rw [isBareAlias_of_split split (by decide)]
  rfl

/-- A text without blanks does not begin with an alias. -/
theorem isBareAlias_of_avoids {text : String} (blank : Avoids ' ' text) :
    isBareAlias text = false := by
  rw [Bool.eq_false_iff]
  intro marked
  exact blank ((List.isPrefixOf_iff_prefix.mp marked).subset (by decide))

theorem isBareAlias_aliased (name : String) :
    isBareAlias (aliasMark ++ Name.quote name) = true := by
  rw [isBareAlias, List.isPrefixOf_iff_prefix, String.toList_append]
  exact List.prefix_append _ _

namespace Layout

mutual

/-- How the text begins is told by the layout alone, and so it does not depend on the scope. -/
theorem isBareAlias_text : ∀ layout : Layout, isBareAlias layout.text = layout.opens
  | blank => rfl
  | aliased name => isBareAlias_aliased name
  | column scope name _ => isBareAlias_columnText scope name _
  | call function _ _ => isBareAlias_callText function _ _
  | list items => isBareAlias_texts items

theorem isBareAlias_texts : ∀ items : List Layout,
    isBareAlias (",".intercalate (texts items)) = opensFirst items
  | [] => rfl
  | [first] => by
    rw [texts, texts, opensFirst, ← isBareAlias_text first, String.intercalate_singleton]
  | first :: second :: rest => by
    have split := toList_intercalate_texts first second rest
    rw [isBareAlias_of_split split (by decide), opensFirst, ← isBareAlias_text first]
    rfl

end

end Layout

mutual

/-- What shows of a projection that begins in a scope, with the scope after it. -/
def layout (scope : Scope) : Projection → Layout × Scope
  | .column name => (.column scope name .blank, scope)
  | .list items =>
    let (shown, after) := layoutItems scope items
    (.list shown, after)
  | .composed parts => layoutParts scope .blank parts

/-- What shows of the items of a list. -/
def layoutItems (scope : Scope) : List Projection → List Layout × Scope
  | [] => ([], scope)
  | first :: rest =>
    let (shown, after) := layout scope first
    let (others, final) := layoutItems after rest
    (shown :: others, final)

/-- What shows of an item whose first parts have been laid out. -/
def layoutParts (scope : Scope) (written : Layout) : List (ItemPart Projection) → Layout × Scope
  | [] => (written, scope)
  | .aliased name :: rest =>
    layoutParts (scope.declare (Name.quote name)) (written.withSuffix (.aliased name)) rest
  | .call function argument :: rest =>
    let (shown, after) := layout scope argument
    if shown.opens then layoutParts after (.column after function shown) rest
    else layoutParts after (.call function shown written.suffix) rest

end

mutual

/-- A projection is written as what shows of it. -/
theorem render_eq : ∀ (scope : Scope) (projection : Projection),
    render scope projection = ((layout scope projection).1.text, (layout scope projection).2)
  | _, .column _ => by simp [render, layout, Layout.text]
  | scope, .list items => by
    rw [render, renderItems_eq scope items]
    rfl
  | scope, .composed parts => renderParts_eq scope .blank parts

theorem renderItems_eq : ∀ (scope : Scope) (items : List Projection),
    renderItems scope items =
      (Layout.texts (layoutItems scope items).1, (layoutItems scope items).2)
  | _, [] => rfl
  | scope, first :: rest => by
    rw [renderItems, render_eq scope first]
    dsimp only
    rw [renderItems_eq _ rest]
    rfl

theorem renderParts_eq : ∀ (scope : Scope) (written : Layout)
    (parts : List (ItemPart Projection)), renderParts scope written.item parts =
      ((layoutParts scope written parts).1.text, (layoutParts scope written parts).2)
  | scope, written, [] => by
    rw [renderParts, layoutParts, ← written.expression_append_suffix]
    rfl
  | scope, written, .aliased name :: rest => by
    rw [renderParts, layoutParts, ← renderParts_eq, Layout.item_withSuffix]
  | scope, written, .call function argument :: rest => by
    rw [renderParts, layoutParts, render_eq scope argument]
    dsimp only
    rw [Layout.isBareAlias_text]
    split
    · exact renderParts_eq _ (.column _ function _) rest
    · exact renderParts_eq _ (.call function _ written.suffix) rest

end

namespace Layout

mutual

/-- All scopes of the layout have the default alias, and all its names have the property. -/
def Uses (base : String) (holds : String → Prop) : Layout → Prop
  | blank => True
  | aliased name => holds name
  | column scope name suffix => scope.defaultAlias = base ∧ holds name ∧ Uses base holds suffix
  | call function argument suffix =>
    holds function ∧ Uses base holds argument ∧ Uses base holds suffix
  | list items => AllUse base holds items

/-- The same of the items of a list. -/
def AllUse (base : String) (holds : String → Prop) : List Layout → Prop
  | [] => True
  | first :: rest => Uses base holds first ∧ AllUse base holds rest

end

variable {base : String} {holds weaker : String → Prop} {layout new : Layout}

mutual

theorem Uses.imp (weaken : ∀ name, holds name → weaker name) : ∀ {layout : Layout},
    layout.Uses base holds → layout.Uses base weaker
  | blank, _ => trivial
  | aliased name, given => weaken name given
  | column _ name _, ⟨same, given, below⟩ => ⟨same, weaken name given, below.imp weaken⟩
  | call function _ _, ⟨given, inside, below⟩ =>
    ⟨weaken function given, inside.imp weaken, below.imp weaken⟩
  | list _, each => AllUse.imp weaken each

theorem AllUse.imp (weaken : ∀ name, holds name → weaker name) : ∀ {items : List Layout},
    AllUse base holds items → AllUse base weaker items
  | [], _ => trivial
  | _ :: _, ⟨here, there⟩ => ⟨here.imp weaken, AllUse.imp weaken there⟩

end

theorem Uses.suffix (used : layout.Uses base holds) : layout.suffix.Uses base holds := by
  cases layout with
  | column scope name suffix => exact used.2.2
  | call function argument suffix => exact used.2.2
  | _ => exact used

theorem Uses.withSuffix (used : layout.Uses base holds) (named : new.Uses base holds) :
    (layout.withSuffix new).Uses base holds := by
  cases layout with
  | column scope name suffix => exact ⟨used.1, used.2.1, named⟩
  | call function argument suffix => exact ⟨used.1, used.2.1, named⟩
  | _ => exact named

end Layout

section

variable {base : String} {holds : String → Prop}

mutual

/-- What shows of a projection has its names and its default alias. -/
theorem uses_layout : ∀ {scope : Scope} {projection : Projection}, scope.defaultAlias = base →
    (∀ name ∈ projection.names, holds name) →
      (layout scope projection).1.Uses base holds ∧
        (layout scope projection).2.defaultAlias = base
  | _, .column name, same, each => ⟨⟨same, each name List.mem_cons_self, trivial⟩, same⟩
  | _, .list _, same, each => uses_layoutItems same each
  | _, .composed _, same, each => uses_layoutParts same trivial each

theorem uses_layoutItems : ∀ {scope : Scope} {items : List Projection},
    scope.defaultAlias = base → (∀ name ∈ namesOfItems items, holds name) →
      Layout.AllUse base holds (layoutItems scope items).1 ∧
        (layoutItems scope items).2.defaultAlias = base
  | _, [], same, _ => ⟨trivial, same⟩
  | _, _ :: _, same, each => by
    obtain ⟨here, there⟩ := List.forall_mem_append.mp each
    obtain ⟨first, middle⟩ := uses_layout same here
    obtain ⟨others, after⟩ := uses_layoutItems middle there
    exact ⟨⟨first, others⟩, after⟩

theorem uses_layoutParts : ∀ {scope : Scope} {written : Layout}
    {parts : List (ItemPart Projection)}, scope.defaultAlias = base →
      written.Uses base holds → (∀ name ∈ namesOfParts parts, holds name) →
      (layoutParts scope written parts).1.Uses base holds ∧
        (layoutParts scope written parts).2.defaultAlias = base
  | _, _, [], same, used, _ => ⟨used, same⟩
  | _, _, .aliased name :: _, same, used, each => by
    obtain ⟨here, there⟩ := List.forall_mem_cons.mp each
    rw [layoutParts]
    exact uses_layoutParts same (used.withSuffix here) there
  | _, _, .call function argument :: _, same, used, each => by
    obtain ⟨here, below⟩ := List.forall_mem_cons.mp each
    obtain ⟨inside, there⟩ := List.forall_mem_append.mp below
    obtain ⟨shown, after⟩ := uses_layout same inside
    rw [layoutParts]
    dsimp only
    split
    · exact uses_layoutParts after ⟨after, here, shown⟩ there
    · exact uses_layoutParts after ⟨here, shown, used.suffix⟩ there

end

end

/-- What is accepted is written as what shows of it: names that it gives, none of them empty, and
the default alias. -/
theorem layout_of_compile {scope : Scope} {spec : Value} {result : String} {holds : String → Prop}
    (each : ∀ name ∈ spec.fieldIdentifiers, holds name)
    (success : (compile scope spec).1 = .ok result) :
    ∃ projection, (read spec).Returns projection ∧
      result = (projection.layout scope).1.text ∧
      (projection.layout scope).1.Uses scope.defaultAlias fun name => holds name ∧ name ≠ "" := by
  obtain ⟨projection, returned, rfl⟩ := Outcome.map_eq_ok.mp success
  have returns : (read spec).Returns projection := ⟨[], _, Prod.ext returned rfl⟩
  refine ⟨projection, returns, by rw [text, render_eq], (uses_layout rfl ?_).1⟩
  intro name member
  obtain ⟨given, present⟩ := names_of_read returns name member
  exact ⟨each name given, present⟩

/-- A column avoids what its name and the default alias avoid, quotes and points apart. -/
theorem avoids_columnText {scope : Scope} {name : String} {c : Char} (quoting : c ≠ Name.delimiter)
    (point : c ≠ '.') (base : Avoids c scope.defaultAlias) (given : Avoids c name) :
    Avoids c (columnText scope name) := by
  have quoted : Avoids c (Name.quote name) := (avoids_quote quoting).mpr given
  have separator : Avoids c "." := by simpa [Avoids] using point
  unfold columnText Scope.qualify
  split_ifs
  · exact given
  · exact quoted
  · exact avoids_append.mpr
      ⟨avoids_append.mpr ⟨(avoids_quote quoting).mpr base, separator⟩, quoted⟩

end ParamSql.Projection
