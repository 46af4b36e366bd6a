import ParamSql.Proofs.Projection.Declared
import ParamSql.Proofs.Projection.Layout

/-!
# What an alias does to the expression that it names

An alias is declared when it is met, and a column that is written after it is written without a
prefix if it has the name of the alias. An alias in front of its expression, or within the column
that it names, therefore changes the expression in one case: when it has the name of a column of the
expression, and has not been declared before.
-/
namespace ParamSql

/-- To declare an alias once more changes nothing. -/
theorem Scope.declare_of_declares {scope : Scope} {quoted : String}
    (declared : scope.declares quoted = true) : scope.declare quoted = scope := by
  have member : quoted ∈ scope.declared := by simpa [declares] using declared
  rw [declare, List.insert_of_mem member]

theorem Scope.declares_declare (scope : Scope) (quoted other : String) :
    (scope.declare quoted).declares other = (decide (other = quoted) || scope.declares other) := by
  rw [Bool.eq_iff_iff]
  simp [declares, mem_declared_declare]

namespace Projection

/-- A column is written as before unless the alias has its name and was not declared yet. -/
theorem columnText_declare_of_ne {scope : Scope} {name column : String} (other : column ≠ name) :
    columnText (scope.declare (Name.quote name)) column = columnText scope column := by
  have apart : Name.quote column ≠ Name.quote name := fun same => other (Name.quote_injective same)
  rw [columnText, columnText, Scope.qualify, Scope.qualify, Scope.declares_declare,
    decide_eq_false apart, Bool.false_or]
  rfl

/-- An expression is written alike in every scope. -/
theorem columnText_of_isExpression {scope : Scope} {name : String}
    (raw : Name.isExpression name = true) : columnText scope name = name := by
  rw [columnText, if_pos raw]

/-- The prefix that a column loses to an alias of its name. -/
def prefixText (scope : Scope) : String := Name.quote scope.defaultAlias ++ "."

theorem columnText_of_undeclared {scope : Scope} {name : String}
    (plain : Name.isExpression name = false)
    (undeclared : scope.declares (Name.quote name) = false) :
    columnText scope name = prefixText scope ++
      columnText (scope.declare (Name.quote name)) name := by
  have declared : (scope.declare (Name.quote name)).declares (Name.quote name) = true := by
    simp [Scope.declares_declare]
  have point : (Name.quote name).toList.contains '.' = false := by
    have each := List.any_eq_false.mp plain
    have absent : '.' ∉ name.toList := fun inside => by simpa using each '.' inside
    rw [Name.toList_quote]
    simpa [Name.delimiter] using absent
  rw [columnText, columnText, plain, Scope.qualify, Scope.qualify, undeclared, declared, point]
  rfl

namespace Layout

mutual

/-- The layout in another scope. -/
def inScope (scope : Scope) : Layout → Layout
  | blank => blank
  | aliased name => aliased name
  | column _ name suffix => column scope name (inScope scope suffix)
  | call function argument suffix => call function (inScope scope argument) (inScope scope suffix)
  | list items => list (allInScope scope items)

/-- The items of a list in another scope. -/
def allInScope (scope : Scope) : List Layout → List Layout
  | [] => []
  | first :: rest => inScope scope first :: allInScope scope rest

end

mutual

/-- The names that show as columns, those apart that are expressions. -/
def columns : Layout → List String
  | blank => []
  | aliased _ => []
  | column _ name suffix =>
    if Name.isExpression name then columns suffix else name :: columns suffix
  | call _ argument suffix => columns argument ++ columns suffix
  | list items => columnsOfItems items

/-- The names that show as columns in the items of a list. -/
def columnsOfItems : List Layout → List String
  | [] => []
  | first :: rest => columns first ++ columnsOfItems rest

end

variable {scope : Scope}

mutual

theorem opens_inScope : ∀ layout : Layout, (layout.inScope scope).opens = layout.opens
  | blank => rfl
  | aliased _ => rfl
  | column _ _ _ => rfl
  | call _ _ _ => rfl
  | list items => opensFirst_allInScope items

theorem opensFirst_allInScope : ∀ items : List Layout,
    opensFirst (allInScope scope items) = opensFirst items
  | [] => rfl
  | first :: _ => opens_inScope first

end

theorem suffix_inScope (layout : Layout) :
    (layout.inScope scope).suffix = layout.suffix.inScope scope := by
  cases layout <;> rfl

variable {name : String}

mutual

/-- Without the columns of its name, an alias changes nothing. -/
theorem text_inScope_declare : ∀ {layout : Layout}, name ∉ layout.columns →
    (layout.inScope (scope.declare (Name.quote name))).text = (layout.inScope scope).text
  | blank, _ => rfl
  | aliased _, _ => rfl
  | column _ other suffix, absent => by
    rw [columns] at absent
    rw [inScope, inScope, text, text]
    split at absent
    · next raw =>
      rw [columnText_of_isExpression raw, columnText_of_isExpression raw,
        text_inScope_declare absent]
    · obtain ⟨apart, below⟩ := not_or.mp (mt List.mem_cons.mpr absent)
      rw [columnText_declare_of_ne (Ne.symm apart), text_inScope_declare below]
  | call function argument suffix, absent => by
    obtain ⟨inside, below⟩ := not_or.mp (mt List.mem_append.mpr absent)
    rw [inScope, inScope, text, text, text_inScope_declare inside, text_inScope_declare below]
  | list items, absent => congrArg (",".intercalate ·) (texts_inScope_declare absent)

theorem texts_inScope_declare : ∀ {items : List Layout}, name ∉ columnsOfItems items →
    texts (allInScope (scope.declare (Name.quote name)) items) = texts (allInScope scope items)
  | [], _ => rfl
  | first :: rest, absent => by
    obtain ⟨here, there⟩ := not_or.mp (mt List.mem_append.mpr absent)
    rw [allInScope, allInScope, texts, texts, text_inScope_declare here,
      texts_inScope_declare there]

end

theorem length_intercalate_texts (first second : Layout) (rest : List Layout) :
    (",".intercalate (texts (first :: second :: rest))).length =
      first.text.length + 1 + (",".intercalate (texts (second :: rest))).length := by
  rw [texts, texts, String.intercalate_cons_cons, String.length_append, String.length_append]
  rfl

mutual

/-- Each column of its name loses its prefix to an alias. -/
theorem length_text_inScope (undeclared : scope.declares (Name.quote name) = false) :
    ∀ layout : Layout, (layout.inScope scope).text.length =
      (layout.inScope (scope.declare (Name.quote name))).text.length +
        layout.columns.count name * (prefixText scope).length
  | blank => by simp [inScope, columns]
  | aliased _ => by simp [inScope, columns]
  | column _ other suffix => by
    have below := length_text_inScope undeclared suffix
    rw [inScope, inScope, text, text, String.length_append, String.length_append, below, columns]
    split
    · next raw =>
      rw [columnText_of_isExpression raw, columnText_of_isExpression raw, Nat.add_assoc]
    · next plain =>
      by_cases same : other = name
      · subst same
        rw [columnText_of_undeclared (Bool.eq_false_iff.mpr plain) undeclared,
          String.length_append, List.count_cons_self, Nat.add_one_mul]
        omega
      · rw [columnText_declare_of_ne same, List.count_cons_of_ne same, Nat.add_assoc]
  | call function argument suffix => by
    have inside := length_text_inScope undeclared argument
    have below := length_text_inScope undeclared suffix
    simp only [inScope, text, columns, callText, String.length_append, List.count_append,
      Nat.add_mul]
    omega
  | list items => length_texts_inScope undeclared items

theorem length_texts_inScope (undeclared : scope.declares (Name.quote name) = false) :
    ∀ items : List Layout, (",".intercalate (texts (allInScope scope items))).length =
      (",".intercalate (texts (allInScope (scope.declare (Name.quote name)) items))).length +
        (columnsOfItems items).count name * (prefixText scope).length
  | [] => by simp [allInScope, columnsOfItems]
  | [first] => by
    have here := length_text_inScope undeclared first
    simpa [allInScope, columnsOfItems, texts] using here
  | first :: second :: rest => by
    have here := length_text_inScope undeclared first
    have there := length_texts_inScope undeclared (second :: rest)
    have split : (columnsOfItems (first :: second :: rest)).count name =
        first.columns.count name + (columnsOfItems (second :: rest)).count name :=
      List.count_append
    simp only [allInScope, length_intercalate_texts] at there ⊢
    rw [here, there, split, Nat.add_mul]
    omega

end

/-- The text of a layout changes with an alias exactly when one of its columns has the name, and the
alias was not declared before. -/
theorem text_inScope_declare_eq_iff (layout : Layout) (scope : Scope) (name : String) :
    (layout.inScope (scope.declare (Name.quote name))).text = (layout.inScope scope).text ↔
      scope.declares (Name.quote name) = true ∨ name ∉ layout.columns := by
  constructor
  · intro same
    by_cases declared : scope.declares (Name.quote name) = true
    · exact .inl declared
    · -- the prefix is not empty, so without it no text is as long as before
      have shorter := length_text_inScope (Bool.eq_false_iff.mpr declared) layout
      have lost : 0 < (prefixText scope).length := by
        rw [prefixText, String.length_append]
        exact Nat.lt_of_lt_of_le (by decide : 0 < ".".length) (Nat.le_add_left _ _)
      rw [same, Nat.left_eq_add, Nat.mul_eq_zero] at shorter
      exact .inr (List.count_eq_zero.mp (shorter.resolve_right (Nat.ne_of_gt lost)))
  · rintro (declared | absent)
    · rw [Scope.declare_of_declares declared]
    · exact text_inScope_declare absent

end Layout

/-- Without aliases a projection leaves the scope as it is. -/
theorem scope_layout_of_unaliased {scope : Scope} {projection : Projection}
    (unaliased : projection.aliases = []) : (layout scope projection).2 = scope := by
  have after := scope_render scope projection
  rw [render_eq, unaliased] at after
  exact after

mutual

/-- Without aliases a projection shows alike in every scope, and leaves the scope as it is. -/
theorem layout_of_unaliased (scope other : Scope) : ∀ projection : Projection,
    projection.aliases = [] →
      layout other projection = ((layout scope projection).1.inScope other, other)
  | .column _, _ => rfl
  | .list items, unaliased => by
    rw [layout, layout, layoutItems_of_unaliased scope other items unaliased]
    rfl
  | .composed parts, unaliased =>
    layoutParts_of_unaliased scope other .blank parts unaliased

theorem layoutItems_of_unaliased (scope other : Scope) : ∀ items : List Projection,
    aliasesOfItems items = [] →
      layoutItems other items = (Layout.allInScope other (layoutItems scope items).1, other)
  | [], _ => rfl
  | first :: rest, unaliased => by
    obtain ⟨here, there⟩ := List.append_eq_nil_iff.mp unaliased
    rw [layoutItems, layoutItems, layout_of_unaliased scope other first here]
    dsimp only
    rw [scope_layout_of_unaliased here, layoutItems_of_unaliased scope other rest there]
    rfl

theorem layoutParts_of_unaliased (scope other : Scope) : ∀ (written : Layout)
    (parts : List (ItemPart Projection)), aliasesOfParts parts = [] →
      layoutParts other (written.inScope other) parts =
        ((layoutParts scope written parts).1.inScope other, other)
  | _, [], _ => rfl
  | written, .call function argument :: rest, unaliased => by
    obtain ⟨here, there⟩ := List.append_eq_nil_iff.mp unaliased
    rw [layoutParts, layoutParts, layout_of_unaliased scope other argument here]
    dsimp only
    rw [scope_layout_of_unaliased here, Layout.opens_inScope]
    split
    · exact layoutParts_of_unaliased scope other (.column scope function _) rest there
    · rw [Layout.suffix_inScope]
      exact layoutParts_of_unaliased scope other (.call function _ written.suffix) rest there

end

theorem inScope_layout {scope : Scope} {projection : Projection}
    (unaliased : projection.aliases = []) :
    (layout scope projection).1.inScope scope = (layout scope projection).1 :=
  (congrArg Prod.fst (layout_of_unaliased scope scope projection unaliased)).symm

theorem aliases_eq_nil {value : Value} {projection : Projection}
    (returns : (read value).Returns projection) (unnamed : ∀ other, ¬ GivesAlias value other) :
    projection.aliases = [] := by
  rw [aliases_of_read returns, List.eq_nil_iff_forall_not_mem]
  exact fun other member => unnamed other (givesAlias_of_mem value member)

theorem compile_of_yields {spec : Value} {projection : Projection}
    (yields : (read spec).Yields projection) (scope : Scope) :
    (compile scope spec).1 = .ok (projection.layout scope).1.text := by
  obtain ⟨after, ran⟩ := yields []
  rw [compile, ran]
  exact congrArg (fun rendered => Except.ok rendered.1) (render_eq scope projection)

/-- An alias changes the column that it names exactly when both have one name, and the alias was not
declared before. -/
theorem columnText_declare_eq_iff {scope : Scope} {key name : String} :
    columnText (scope.declare (Name.quote name)) key = columnText scope key ↔
      Name.isExpression key = true ∨ key ≠ name ∨ scope.declares (Name.quote name) = true := by
  have column := (Layout.column scope key .blank).text_inScope_declare_eq_iff scope name
  simp only [Layout.inScope, Layout.text, String.append_empty] at column
  rw [column, Layout.columns, Layout.columns]
  split
  · next raw => simp [raw]
  · next plain =>
    rw [List.mem_singleton, or_iff_right plain]
    exact or_comm.trans (or_congr_left ne_comm)

section

variable {key asKey name : String} {value : Value} {projection : Projection}

theorem yields_aliased {rest : List (String × Value)} {parts : List (ItemPart Projection)}
    (named : name ≠ "") (spelled : Directive.as.SpelledBy asKey)
    (there : (readParts rest).Yields parts) :
    (readParts ((asKey, .string name) :: rest)).Yields (.aliased name :: parts) :=
  keptByReading_yields.aliased (Directive.read_eq_some_iff_spelledBy.mpr spelled) named there

theorem yields_call {rest : List (String × Value)} {parts : List (ItemPart Projection)}
    (present : key ≠ "") (plain : Directive.isKey key = false)
    (here : (read value).Yields projection) (there : (readParts rest).Yields parts) :
    (readParts ((key, value) :: rest)).Yields (.call key projection :: parts) :=
  keptByReading_yields.call (Directive.read_eq_none_iff.mpr plain) present here there

/-- A column that is named is written where its alias is in force already. -/
theorem compile_named_column (present : key ≠ "") (plain : Directive.isKey key = false)
    (named : name ≠ "") (spelled : Directive.as.SpelledBy asKey) (scope : Scope) :
    (compile scope (.map ⟨[(key, .map ⟨[(asKey, .string name)]⟩)]⟩)).1 =
      .ok (columnText (scope.declare (Name.quote name)) key ++ (aliasMark ++ Name.quote name)) := by
  have inside := keptByReading_yields.map
    (yields_aliased named spelled keptByReading_yields.noEntry)
  have yields := keptByReading_yields.map
    (yields_call present plain inside keptByReading_yields.noEntry)
  rw [compile_of_yields yields]
  rfl

/-- With the alias behind it, an expression is written where the alias is not in force. -/
theorem compile_named_behind (present : key ≠ "") (plain : Directive.isKey key = false)
    (named : name ≠ "") (spelled : Directive.as.SpelledBy asKey)
    (returns : (read value).Returns projection) (unaliased : projection.aliases = [])
    (scope : Scope) :
    (compile scope (.map ⟨[(key, value), (asKey, .string name)]⟩)).1 =
      .ok ((if (projection.layout scope).1.opens then columnText scope key
          else callText key (projection.layout scope).1.text) ++
        (aliasMark ++ Name.quote name)) := by
  have argument := keptByReading_yields.of_read returns
  have yields := keptByReading_yields.map (yields_call present plain argument
    (yields_aliased named spelled keptByReading_yields.noEntry))
  rw [compile_of_yields yields, layout, layoutParts]
  dsimp only
  rw [scope_layout_of_unaliased unaliased]
  split <;> rfl

/-- With the alias in front of it, an expression is written where the alias is in force. -/
theorem compile_named_before (present : key ≠ "") (plain : Directive.isKey key = false)
    (named : name ≠ "") (spelled : Directive.as.SpelledBy asKey)
    (returns : (read value).Returns projection) (unaliased : projection.aliases = [])
    (scope : Scope) {inside : Scope} (declared : inside = scope.declare (Name.quote name)) :
    (compile scope (.map ⟨[(asKey, .string name), (key, value)]⟩)).1 =
      .ok (if (projection.layout scope).1.opens
        then columnText inside key ++ ((projection.layout scope).1.inScope inside).text
        else callText key ((projection.layout scope).1.inScope inside).text ++
          (aliasMark ++ Name.quote name)) := by
  subst declared
  have argument := keptByReading_yields.of_read returns
  have yields := keptByReading_yields.map (yields_aliased named spelled
    (yields_call present plain argument keptByReading_yields.noEntry))
  have kept := layout_of_unaliased scope (scope.declare (Name.quote name)) projection unaliased
  rw [compile_of_yields yields, layout, layoutParts, layoutParts]
  dsimp only
  rw [kept, Layout.opens_inScope]
  dsimp only
  split <;> rfl

end

theorem callText_append_inj {function argument other rest : String} :
    callText function argument ++ rest = callText function other ++ rest ↔ argument = other := by
  refine ⟨fun same => ?_, fun same => by rw [same]⟩
  have chars := congrArg String.toList same
  rw [String.toList_append, String.toList_append] at chars
  have calls := List.append_cancel_right chars
  rw [toList_callText, toList_callText] at calls
  have behind := (List.cons.inj (List.cons.inj (List.append_cancel_left calls)).2).2
  exact String.toList_inj.mp (List.append_cancel_right behind)

/-- A map that names a column is written as the column and its alias. The column is what it is
without the alias, unless it is a name, the alias has the same name, and was not declared before.
A function with an alias behind it, whose argument has no aliases, is written as the call and the
alias; with the alias in front it is written alike, unless a column of the argument has the name of
the alias, which was not declared before. (A name that is read as an alias itself makes a column of
the function, and takes the place of an alias in front of it.) -/
theorem compile_named {scope : Scope} {key asKey name : String} (present : key ≠ "")
    (plain : Directive.isKey key = false) (named : name ≠ "")
    (spelled : Directive.as.SpelledBy asKey) :
    (∃ expression, (compile scope (.map ⟨[(key, .map ⟨[(asKey, .string name)]⟩)]⟩)).1 =
        .ok (expression ++ (aliasMark ++ Name.quote name)) ∧
      (expression = columnText scope key ↔
        Name.isExpression key = true ∨ key ≠ name ∨ scope.declares (Name.quote name) = true)) ∧
    ∀ value text, (∀ other, ¬ GivesAlias value other) → (compile scope value).1 = .ok text →
      ∃ projection behind before, (read value).Returns projection ∧
        (compile scope (.map ⟨[(key, value), (asKey, .string name)]⟩)).1 = .ok behind ∧
        (compile scope (.map ⟨[(asKey, .string name), (key, value)]⟩)).1 = .ok before ∧
        (isBareAlias text = false →
          behind = callText key text ++ (aliasMark ++ Name.quote name) ∧
          (before = behind ↔ scope.declares (Name.quote name) = true ∨
            name ∉ (projection.layout scope).1.columns)) ∧
        (isBareAlias text = true →
          behind = columnText scope key ++ (aliasMark ++ Name.quote name) ∧
          ∃ later, (compile (scope.declare (Name.quote name)) value).1 = .ok later ∧
            before = columnText (scope.declare (Name.quote name)) key ++ later) := by
  have column := compile_named_column present plain named spelled scope
  refine ⟨⟨_, column, columnText_declare_eq_iff⟩, fun value text unnamed success => ?_⟩
  obtain ⟨projection, returns, rfl⟩ := read_of_compile success
  have unaliased := aliases_eq_nil returns unnamed
  have behind := compile_named_behind present plain named spelled returns unaliased scope
  have before := compile_named_before present plain named spelled returns unaliased scope rfl
  have shown : projection.text scope = (projection.layout scope).1.text :=
    congrArg Prod.fst (render_eq scope projection)
  rw [shown, Layout.isBareAlias_text]
  refine ⟨projection, _, _, returns, behind, before, fun closed => ?_, fun opened => ?_⟩
  · have changed := (projection.layout scope).1.text_inScope_declare_eq_iff scope name
    rw [inScope_layout unaliased] at changed
    simp only [closed, Bool.false_eq_true, if_false]
    exact ⟨trivial, callText_append_inj.trans changed⟩
  · have later := compile_of_yields (keptByReading_yields.of_read returns)
      (scope.declare (Name.quote name))
    rw [layout_of_unaliased scope _ projection unaliased] at later
    simp only [opened, if_true]
    exact ⟨trivial, _, later, rfl⟩

/-- Two columns, one of which names its table. -/
def columnsSample : Value := .list [.string "a", .string "i.n"]

theorem compile_named_columnsSample :
    (compile (.start "me") (.map ⟨[("max", .map ⟨[("-As", .string "n")]⟩)]⟩)).1 =
        .ok "`me`.`max` AS `n`" ∧
      (compile (.start "me") (.map ⟨[("max", columnsSample), ("-As", .string "n")]⟩)).1 =
        .ok "MAX( `me`.`a`,i.n ) AS `n`" ∧
      (compile (.start "me") (.map ⟨[("-As", .string "n"), ("max", columnsSample)]⟩)).1 =
        .ok "MAX( `me`.`a`,i.n ) AS `n`" := by
  have success : (compile (.start "me") columnsSample).1 = .ok "`me`.`a`,i.n" := by rfl
  have unnamed : ∀ other, ¬ GivesAlias columnsSample other := fun _ ⟨_, member, _⟩ => nomatch member
  have spelled := Directive.read_eq_some_iff_spelledBy.mp (rfl : Directive.read "-As" = _)
  obtain ⟨⟨expression, column, unchanged⟩, functions⟩ :=
    @compile_named (.start "me") "max" "-As" "n" (by decide) rfl (by decide) spelled
  obtain ⟨projection, _, _, returns, behind, before, called, -⟩ :=
    functions columnsSample _ unnamed success
  obtain ⟨rfl, same⟩ := called rfl
  obtain ⟨_, _, ran⟩ := returns
  cases ran
  rw [column, unchanged.mpr (.inr (.inl (by decide))), behind, before,
    same.mpr (.inr (by decide))]
  exact ⟨by rfl, by rfl, by rfl⟩

/-- An alias with the name of the column takes its prefix, within the column that it names and in
front of a call; behind the call it does not. -/
theorem sameName_compiled :
    (compile (.start "me") (.map ⟨[("id", .map ⟨[("-as", .string "id")]⟩)]⟩)).1 =
        .ok "`id` AS `id`" ∧
      columnText (.start "me") "id" = "`me`.`id`" ∧
      (∀ other, ¬ GivesAlias (.string "id") other) ∧
      (compile (.start "me") (.map ⟨[("max", .string "id"), ("-as", .string "id")]⟩)).1 =
        .ok "MAX( `me`.`id` ) AS `id`" ∧
      (compile (.start "me") (.map ⟨[("-as", .string "id"), ("max", .string "id")]⟩)).1 =
        .ok "MAX( `id` ) AS `id`" :=
  ⟨by rfl, by rfl, fun _ => not_givesAlias_scalar, by rfl, by rfl⟩

end Projection

end ParamSql
