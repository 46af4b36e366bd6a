import ParamSql.Proofs.Projection.Items

/-!
# One item for each field

The fields of a description are the strings and maps that are reached through lists only. Each has
at least one item in the text, and an empty list has an empty item. So there is one item for each
field, with an expression and at most one alias, exactly when no list is empty and every field shows
an expression, followed by nothing or by a single alias.
-/
namespace ParamSql

namespace Value

mutual

/-- The fields in a description: what is reached through lists and is no list itself. -/
def fields : Value → List Value
  | .list items => fieldsOfItems items
  | other => [other]

/-- The fields in the items of a list. -/
def fieldsOfItems : List Value → List Value
  | [] => []
  | first :: rest => fields first ++ fieldsOfItems rest

end

mutual

/-- The number of empty lists that are reached through lists. -/
def emptyLists : Value → Nat
  | .list [] => 1
  | .list (first :: rest) => emptyLists first + emptyListsOfItems rest
  | _ => 0

/-- The number of empty lists among the items of a list. -/
def emptyListsOfItems : List Value → Nat
  | [] => 0
  | first :: rest => emptyLists first + emptyListsOfItems rest

end

end Value

namespace Projection

open Text

namespace Layout

mutual

/-- The fields that show: what is reached through lists and is no list itself. -/
def fields : Layout → List Layout
  | list items => fieldsOfItems items
  | other => [other]

/-- The fields that show in the items of a list. -/
def fieldsOfItems : List Layout → List Layout
  | [] => []
  | first :: rest => fields first ++ fieldsOfItems rest

end

mutual

/-- The number of empty lists that are reached through lists. -/
def emptyLists : Layout → Nat
  | list [] => 1
  | list (first :: rest) => emptyLists first + emptyListsOfItems rest
  | _ => 0

/-- The number of empty lists among the items of a list. -/
def emptyListsOfItems : List Layout → Nat
  | [] => 0
  | first :: rest => emptyLists first + emptyListsOfItems rest

end

/-- The layout is an alias by itself, or a list of nothing else. -/
inductive IsAlias : Layout → String → Prop
  | aliased {name : String} : IsAlias (aliased name) name
  | list {only : Layout} {name : String} (inside : IsAlias only name) : IsAlias (list [only]) name

/-- Nothing stands behind the expression, or a single alias. -/
def AtMostOneAlias (layout : Layout) : Prop :=
  layout.suffix = blank ∨ ∃ name, layout.suffix.IsAlias name

/-- An expression shows, followed by nothing or by a single alias. -/
def IsField (layout : Layout) : Prop := layout.expression ≠ "" ∧ layout.AtMostOneAlias

/-- The layout of an item: what stands in the place of its alias is missing, or begins with one. -/
def Settled : Layout → Prop
  | list _ => False
  | layout => layout.suffix = blank ∨ layout.suffix.opens = true

theorem fields_of_settled {layout : Layout} (settled : layout.Settled) :
    layout.fields = [layout] := by
  cases layout with
  | list items => exact settled.elim
  | _ => rfl

theorem emptyLists_of_settled {layout : Layout} (settled : layout.Settled) :
    layout.emptyLists = 0 := by
  cases layout with
  | list items => exact settled.elim
  | _ => rfl

theorem emptyLists_list {shown : List Layout} {given : List Value}
    (same : emptyListsOfItems shown = Value.emptyListsOfItems given)
    (alike : shown.isEmpty = given.isEmpty) :
    (list shown).emptyLists = (Value.list given).emptyLists := by
  cases shown with
  | nil =>
    cases given with
    | nil => rfl
    | cons value rest => cases alike
  | cons first others =>
    cases given with
    | nil => cases alike
    | cons value rest => exact same

theorem Settled.suffix {layout : Layout} (settled : layout.Settled) :
    layout.suffix = blank ∨ layout.suffix.opens = true := by
  cases layout with
  | list items => exact settled.elim
  | _ => exact settled

mutual

/-- Every field has its items, and an empty list has one. -/
theorem length_items : ∀ layout : Layout,
    layout.items.length = layout.emptyLists + (layout.fields.flatMap items).length
  | blank => by simp [emptyLists, fields]
  | aliased _ => by simp [emptyLists, fields]
  | column _ _ _ => by simp [emptyLists, fields]
  | call _ _ _ => by simp [emptyLists, fields]
  | list [] => rfl
  | list (first :: rest) => by
    have here := length_items first
    have there := length_itemsOfAll rest
    rw [items, emptyLists, fields, fieldsOfItems, List.length_append, List.flatMap_append,
      List.length_append]
    omega

theorem length_itemsOfAll : ∀ all : List Layout,
    (itemsOfAll all).length =
      emptyListsOfItems all + ((fieldsOfItems all).flatMap items).length
  | [] => rfl
  | first :: rest => by
    have here := length_items first
    have there := length_itemsOfAll rest
    rw [itemsOfAll, emptyListsOfItems, fieldsOfItems, List.length_append, List.flatMap_append,
      List.length_append]
    omega

end

mutual

/-- Without empty lists, the items are those of the fields. -/
theorem items_eq_flatMap : ∀ layout : Layout, layout.emptyLists = 0 →
    layout.items = layout.fields.flatMap items
  | blank, _ => by simp [fields]
  | aliased _, _ => by simp [fields]
  | column _ _ _, _ => by simp [fields]
  | call _ _ _, _ => by simp [fields]
  | list (first :: rest), filled => by
    obtain ⟨here, there⟩ := Nat.add_eq_zero_iff.mp filled
    rw [items, fields, fieldsOfItems, List.flatMap_append, items_eq_flatMap first here,
      itemsOfAll_eq_flatMap rest there]

theorem itemsOfAll_eq_flatMap : ∀ all : List Layout, emptyListsOfItems all = 0 →
    itemsOfAll all = (fieldsOfItems all).flatMap items
  | [], _ => rfl
  | first :: rest, filled => by
    obtain ⟨here, there⟩ := Nat.add_eq_zero_iff.mp filled
    rw [itemsOfAll, fieldsOfItems, List.flatMap_append, items_eq_flatMap first here,
      itemsOfAll_eq_flatMap rest there]

end

theorem items_eq_suffix (layout : Layout) :
    layout.items = layout.suffix.items.modifyHead (layout.expression ++ ·) := by
  cases layout with
  | list all =>
    have missing : (list all).expression = "" := rfl
    rw [missing]
    simp only [String.empty_append]
    exact (congrFun List.modifyHead_id _).symm
  | _ => simp [items, suffix, expression]

/-- An alias by itself is written as such, in one item. -/
theorem IsAlias.text_eq {layout : Layout} {name : String} (alone : layout.IsAlias name) :
    layout.text = aliasMark ++ Name.quote name ∧ layout.items = [layout.text] := by
  induction alone with
  | aliased => exact ⟨rfl, rfl⟩
  | list inside ih =>
    rw [text, texts, texts, String.intercalate_singleton]
    exact ⟨ih.1, (List.append_nil _).trans ih.2⟩

theorem IsAlias.holds {layout : Layout} {name base : String} {holds : String → Prop}
    (alone : layout.IsAlias name) (used : layout.Uses base holds) : holds name := by
  induction alone with
  | aliased => exact used
  | list inside ih => exact ih used.1

/-- Among plain names, what begins with an alias and is one item is an alias by itself. -/
theorem exists_isAlias {base : String} : ∀ {layout : Layout}, layout.Uses base Plain →
    layout.opens = true → layout.items.length = 1 → ∃ name, layout.IsAlias name
  | aliased name, _, _, _ => ⟨name, .aliased⟩
  | column _ name _, ⟨_, ⟨_, blanks, _⟩, _⟩, opened, _ => by
    have marked := (Bool.and_eq_true_iff.mp opened).2
    exact absurd marked (Bool.eq_false_iff.mp (isBareAlias_of_avoids blanks))
  | call function _ _, ⟨named, _⟩, opened, _ => by
    obtain ⟨-, blanks, -⟩ := plain_uppercase named
    exact absurd opened (Bool.eq_false_iff.mp (isBareAlias_of_avoids blanks))
  | list (first :: rest), used, opened, single => by
    -- the first item is the one that is there, so nothing can follow it
    rw [items, List.length_append] at single
    have present := List.length_pos_iff.mpr first.items_ne_nil
    cases rest with
    | nil =>
      obtain ⟨name, alone⟩ := exists_isAlias used.1 opened (by simpa [itemsOfAll] using single)
      exact ⟨name, .list alone⟩
    | cons second others =>
      have more := List.length_pos_iff.mpr second.items_ne_nil
      rw [itemsOfAll, List.length_append] at single
      omega

/-- With at most one alias at its end, a layout is one item. -/
theorem AtMostOneAlias.items_eq {layout : Layout} (ends : layout.AtMostOneAlias) :
    layout.items = [layout.text] := by
  have alone : layout.suffix.items = [layout.suffix.text] := by
    rcases ends with missing | ⟨name, alone⟩
    · rw [missing]
      rfl
    · exact alone.text_eq.2
  rw [items_eq_suffix, alone, List.modifyHead_cons, expression_append_suffix]

/-- The layout of an item has at most one alias at its end if it is one item in the text. -/
theorem atMostOneAlias_of_length {base : String} {layout : Layout} (used : layout.Uses base Plain)
    (settled : layout.Settled) (single : layout.items.length = 1) : layout.AtMostOneAlias := by
  refine settled.suffix.imp_right fun opened => exists_isAlias used.suffix opened ?_
  rwa [items_eq_suffix, List.length_modifyHead] at single

end Layout

/-- A column, or a function with its argument in parentheses. -/
inductive IsExpression : String → Prop
  | column {text : String} (present : text ≠ "") (plain : Plain text) : IsExpression text
  | call {function argument : String} (present : function ≠ "") (plain : Plain function)
    (inside : Balanced argument) : IsExpression (function ++ "( " ++ argument ++ " )")

/-- An expression that is not empty, and at most one alias behind it. -/
inductive IsItem : String → Prop
  | bare {expression : String} (shown : IsExpression expression) : IsItem expression
  | aliased {expression name : String} (shown : IsExpression expression) (plain : Plain name) :
    IsItem (expression ++ aliasMark ++ Name.quote name)

/-- A text begins, and not with a blank. -/
def BeginsPlainly (text : String) : Prop := ∃ c, text.toList.head? = some c ∧ c ≠ ' '

theorem BeginsPlainly.append {text : String} (begins : BeginsPlainly text) (rest : String) :
    BeginsPlainly (text ++ rest) := by
  obtain ⟨c, first, other⟩ := begins
  refine ⟨c, ?_, other⟩
  rw [String.toList_append, List.head?_append, first]
  rfl

theorem beginsPlainly_of_plain {text : String} (present : text ≠ "") (plain : Plain text) :
    BeginsPlainly text := by
  obtain ⟨c, rest, split⟩ := List.exists_cons_of_ne_nil (mt String.toList_eq_nil_iff.mp present)
  refine ⟨c, by rw [split]; rfl, ?_⟩
  rintro rfl
  exact plain.2.1 (split ▸ List.mem_cons_self)

theorem IsExpression.beginsPlainly {text : String} (shown : IsExpression text) :
    BeginsPlainly text := by
  cases shown with
  | column present plain => exact beginsPlainly_of_plain present plain
  | call present plain inside =>
    exact (((beginsPlainly_of_plain present plain).append "( ").append _).append " )"

theorem IsItem.beginsPlainly {text : String} (item : IsItem text) : BeginsPlainly text := by
  cases item with
  | bare shown => exact shown.beginsPlainly
  | aliased shown plain => exact (shown.beginsPlainly.append aliasMark).append _

theorem not_isItem_empty : ¬ IsItem "" := by
  intro item
  obtain ⟨c, first, -⟩ := item.beginsPlainly
  cases first

theorem not_isItem_aliased (name : String) : ¬ IsItem (aliasMark ++ Name.quote name) := by
  intro item
  obtain ⟨c, first, other⟩ := item.beginsPlainly
  rw [String.toList_append, toList_aliasMark] at first
  exact other (Option.some.inj first).symm

namespace Layout

variable {base : String} {layout : Layout}

theorem isExpression_expression (based : Plain base)
    (used : layout.Uses base fun name => Plain name ∧ name ≠ "")
    (present : layout.expression ≠ "") : IsExpression layout.expression := by
  cases layout with
  | column scope name suffix =>
    obtain ⟨same, given, -⟩ := used
    exact .column present (plain_columnText (same ▸ based) given.1)
  | call function argument suffix =>
    obtain ⟨named, inside, -⟩ := used
    have balanced := balanced_text based (inside.imp fun _ given => given.1)
    exact .call (uppercase_ne_empty named.2) (plain_uppercase named.1) balanced
  | _ => exact absurd rfl present

theorem IsField.isItem (based : Plain base)
    (used : layout.Uses base fun name => Plain name ∧ name ≠ "") (field : layout.IsField) :
    IsItem layout.text := by
  have shown := isExpression_expression based used field.1
  rw [← expression_append_suffix]
  rcases field.2 with missing | ⟨name, alone⟩
  · rw [missing, text, String.append_empty]
    exact .bare shown
  · rw [alone.text_eq.1, ← String.append_assoc]
    exact .aliased shown (alone.holds used.suffix).1

theorem AtMostOneAlias.isField (ends : layout.AtMostOneAlias) (item : IsItem layout.text) :
    layout.IsField := by
  refine ⟨fun missing => ?_, ends⟩
  rw [← expression_append_suffix, missing, String.empty_append] at item
  rcases ends with none | ⟨name, alone⟩
  · exact not_isItem_empty (by rwa [none] at item)
  · exact not_isItem_aliased name (by rwa [alone.text_eq.1] at item)

mutual

theorem Uses.fields {holds : String → Prop} : ∀ {layout : Layout}, layout.Uses base holds →
    ∀ field ∈ layout.fields, field.Uses base holds
  | blank, used => List.forall_mem_singleton.mpr used
  | aliased _, used => List.forall_mem_singleton.mpr used
  | column _ _ _, used => List.forall_mem_singleton.mpr used
  | call _ _ _, used => List.forall_mem_singleton.mpr used
  | list _, used => AllUse.fields used

theorem AllUse.fields {holds : String → Prop} : ∀ {items : List Layout},
    AllUse base holds items → ∀ field ∈ fieldsOfItems items, field.Uses base holds
  | [], _ => nofun
  | _ :: _, used => List.forall_mem_append.mpr ⟨used.1.fields, AllUse.fields used.2⟩

end

end Layout

/-- The layouts are what shows of the fields in order, each in the scope after the ones before
it. -/
inductive ShowEach : Scope → List Value → List Layout → Scope → Prop
  | nil {scope : Scope} : ShowEach scope [] [] scope
  | cons {scope final : Scope} {field : Value} {projection : Projection} {rest : List Value}
    {others : List Layout} (returns : (read field).Returns projection)
    (there : ShowEach (projection.layout scope).2 rest others final) :
    ShowEach scope (field :: rest) ((projection.layout scope).1 :: others) final

theorem ShowEach.append {scope middle final : Scope} {fields others : List Value}
    {shown more : List Layout} (here : ShowEach scope fields shown middle)
    (there : ShowEach middle others more final) :
    ShowEach scope (fields ++ others) (shown ++ more) final := by
  induction here with
  | nil => exact there
  | cons returns _ ih => exact .cons returns (ih there)

theorem ShowEach.length_eq {scope final : Scope} {fields : List Value} {shown : List Layout}
    (each : ShowEach scope fields shown final) : shown.length = fields.length := by
  induction each with
  | nil => rfl
  | cons _ _ ih => exact congrArg (· + 1) ih

/-- An alias is put in the place of another one, and a function leaves it, or puts in its place what
begins with one. -/
theorem settled_layoutParts : ∀ (scope : Scope) (written : Layout)
    (parts : List (ItemPart Projection)), written.Settled →
      (layoutParts scope written parts).1.Settled
  | _, _, [], settled => settled
  | _, written, .aliased _ :: rest, settled => by
    rw [layoutParts]
    refine settled_layoutParts _ _ rest ?_
    cases written with
    | list items => exact settled.elim
    | _ => exact .inr rfl
  | scope, written, .call function argument :: rest, settled => by
    rw [layoutParts]
    dsimp only
    split
    · next opened => exact settled_layoutParts _ _ rest (.inr opened)
    · exact settled_layoutParts _ _ rest settled.suffix

mutual

theorem settled_fields : ∀ (scope : Scope) (projection : Projection),
    ∀ field ∈ (layout scope projection).1.fields, field.Settled
  | _, .column _ => List.forall_mem_singleton.mpr (.inl rfl)
  | scope, .list items => settled_fieldsOfItems scope items
  | scope, .composed parts => by
    have settled := settled_layoutParts scope .blank parts (.inl rfl)
    rw [layout, Layout.fields_of_settled settled]
    exact List.forall_mem_singleton.mpr settled

theorem settled_fieldsOfItems : ∀ (scope : Scope) (items : List Projection),
    ∀ field ∈ Layout.fieldsOfItems (layoutItems scope items).1, field.Settled
  | _, [] => nofun
  | scope, first :: rest => List.forall_mem_append.mpr
    ⟨settled_fields scope first, settled_fieldsOfItems (layout scope first).2 rest⟩

end

mutual

/-- The fields that show are those of the description, and so are the empty lists. -/
theorem fields_of_read : ∀ {spec : Value} {projection : Projection},
    (read spec).Returns projection → ∀ scope : Scope,
      ShowEach scope spec.fields (layout scope projection).1.fields (layout scope projection).2 ∧
        (layout scope projection).1.emptyLists = spec.emptyLists
  | .scalar (.string text), _, returns, scope => by
    obtain ⟨name, -, final⟩ := Reading.Returns.of_bind returns
    obtain rfl := final.of_pure
    exact ⟨.cons returns .nil, rfl⟩
  | .scalar .null, _, returns, _ => (Reading.not_returns_throw returns).elim
  | .scalar (.boolean _), _, returns, _ => (Reading.not_returns_throw returns).elim
  | .scalar (.integer _), _, returns, _ => (Reading.not_returns_throw returns).elim
  | .list given, _, returns, scope => by
    obtain ⟨projections, inside, final⟩ := Reading.Returns.of_bind returns
    obtain rfl := final.of_pure
    obtain ⟨each, same, alike⟩ := fields_of_readItems inside scope
    refine ⟨each, ?_⟩
    rw [layout]
    dsimp only
    exact Layout.emptyLists_list same alike
  | .map ⟨entries⟩, _, returns, scope => by
    obtain ⟨parts, -, final⟩ := Reading.Returns.of_bind returns
    obtain rfl := final.of_pure
    have settled := settled_layoutParts scope .blank parts (.inl rfl)
    rw [layout, Layout.fields_of_settled settled, Layout.emptyLists_of_settled settled]
    exact ⟨.cons returns .nil, rfl⟩

theorem fields_of_readItems : ∀ {given : List Value} {projections : List Projection},
    (readItems given).Returns projections → ∀ scope : Scope,
      ShowEach scope (Value.fieldsOfItems given)
          (Layout.fieldsOfItems (layoutItems scope projections).1)
          (layoutItems scope projections).2 ∧
        Layout.emptyListsOfItems (layoutItems scope projections).1 =
          Value.emptyListsOfItems given ∧
        (layoutItems scope projections).1.isEmpty = given.isEmpty
  | [], _, returns, scope => by
    obtain rfl := Reading.Returns.of_pure returns
    exact ⟨.nil, rfl, rfl⟩
  | value :: rest, _, returns, scope => by
    obtain ⟨projection, inside, others⟩ := Reading.Returns.of_bind returns
    obtain ⟨projections, later, final⟩ := others.of_bind
    obtain rfl := final.of_pure
    obtain ⟨here, first⟩ := fields_of_read inside scope
    obtain ⟨there, second, -⟩ := fields_of_readItems later (layout scope projection).2
    refine ⟨here.append there, ?_, rfl⟩
    rw [layoutItems, Value.emptyListsOfItems, ← first, ← second]
    rfl

end

/-- If each of them has some parts, and there are some more, there are as many parts as they are
exactly when each has one part and there are no more. -/
theorem add_length_flatMap_eq_iff {α β : Type} {all : List α} {parts : α → List β} (more : Nat)
    (present : ∀ each ∈ all, parts each ≠ []) :
    more + (all.flatMap parts).length = all.length ↔
      more = 0 ∧ ∀ each ∈ all, (parts each).length = 1 := by
  induction all generalizing more with
  | nil => simp
  | cons first rest ih =>
    obtain ⟨some, there⟩ := List.forall_mem_cons.mp present
    have here := List.length_pos_iff.mpr some
    have later := ih (more + (parts first).length - 1) there
    rw [List.flatMap_cons, List.length_append, List.length_cons, List.forall_mem_cons]
    have moved : more + ((parts first).length + (rest.flatMap parts).length) = rest.length + 1 ↔
        more + (parts first).length - 1 + (rest.flatMap parts).length = rest.length := by omega
    have split : more + (parts first).length - 1 = 0 ↔
        more = 0 ∧ (parts first).length = 1 := by omega
    rw [moved, later, split, and_assoc]

/-- The fields of a description show in order, and their items are the parts of the text, with one
more for each empty list. So the text has one item for each field, and a proper one, exactly when no
list is empty and every field shows an expression with at most one alias; the items are the texts of
the fields then. -/
theorem compile_items_iff {scope : Scope} {spec : Value} {result : String}
    (base : Plain scope.defaultAlias) (each : ∀ name ∈ spec.fieldIdentifiers, Plain name)
    (success : (compile scope spec).1 = .ok result) :
    ∃ shown final, ShowEach scope spec.fields shown final ∧
      (outerParts result).length = spec.emptyLists + (shown.flatMap Layout.items).length ∧
      ((outerParts result).length = spec.fields.length ∧ (∀ item ∈ outerParts result, IsItem item) ↔
        spec.emptyLists = 0 ∧ ∀ field ∈ shown, field.IsField) ∧
      (spec.emptyLists = 0 → (∀ field ∈ shown, field.IsField) →
        outerParts result = shown.map Layout.text) := by
  obtain ⟨projection, returns, rfl, used⟩ := layout_of_compile each success
  obtain ⟨inOrder, same⟩ := fields_of_read returns scope
  have settled := settled_fields scope projection
  generalize (projection.layout scope).1 = layout at *
  have plain := used.imp fun _ given => given.1
  have counted := layout.length_items
  rw [same] at counted
  rw [Layout.outerParts_text base plain]
  have items_eq : spec.emptyLists = 0 → (∀ field ∈ layout.fields, field.AtMostOneAlias) →
      layout.items = layout.fields.map Layout.text := by
    intro filled ends
    rw [layout.items_eq_flatMap (same.trans filled), ← List.flatMap_pure_eq_map]
    exact List.flatMap_congr fun field member => (ends field member).items_eq
  refine ⟨layout.fields, _, inOrder, counted, ⟨?_, ?_⟩, fun filled fields => ?_⟩
  · -- every field has an item, so the number leaves one to each and none to empty lists
    rintro ⟨number, proper⟩
    rw [counted, ← inOrder.length_eq,
      add_length_flatMap_eq_iff _ fun field _ => field.items_ne_nil] at number
    obtain ⟨filled, single⟩ := number
    have ends : ∀ field ∈ layout.fields, field.AtMostOneAlias := fun field member =>
      Layout.atMostOneAlias_of_length (plain.fields field member) (settled field member)
        (single field member)
    rw [items_eq filled ends, List.forall_mem_map] at proper
    exact ⟨filled, fun field member => (ends field member).isField (proper field member)⟩
  · rintro ⟨filled, fields⟩
    rw [items_eq filled fun field member => (fields field member).2]
    refine ⟨by rw [List.length_map, inOrder.length_eq], List.forall_mem_map.mpr ?_⟩
    exact fun field member => (fields field member).isItem base (used.fields field member)
  · exact items_eq filled fun field member => (fields field member).2

/-- Three fields in two lists: a column, a call with two arguments and an alias, and a column with
an alias that leaves its list. -/
def listedSample : Value := .list [.string "id",
  .list [.map ⟨[("-as", .string "n"), ("max", .list [.string "a", .string "b"])]⟩,
    .map ⟨[("price", .list [.map ⟨[("-As", .string "p")]⟩])]⟩]]

theorem compile_items_iff_listedSample :
    (compile (.start "me") listedSample).1 =
        .ok "`me`.`id`,MAX( `me`.`a`,`me`.`b` ) AS `n`,`me`.`price` AS `p`" ∧
      ∀ item ∈ outerParts "`me`.`id`,MAX( `me`.`a`,`me`.`b` ) AS `n`,`me`.`price` AS `p`",
        IsItem item := by
  have success : (compile (.start "me") listedSample).1 =
      .ok "`me`.`id`,MAX( `me`.`a`,`me`.`b` ) AS `n`,`me`.`price` AS `p`" := by rfl
  have names : ∀ name ∈ listedSample.fieldIdentifiers, Plain name := by decide
  obtain ⟨shown, final, inOrder, -, proper, -⟩ := compile_items_iff (by decide) names success
  refine ⟨success, (proper.mpr ⟨rfl, ?_⟩).2⟩
  obtain _ | ⟨⟨_, _, first⟩, _ | ⟨⟨_, _, second⟩, _ | ⟨⟨_, _, third⟩, _ | _⟩⟩⟩ := inOrder
  cases first
  cases second
  cases third
  refine List.forall_mem_cons.mpr ⟨⟨by decide, .inl rfl⟩, List.forall_mem_cons.mpr ⟨?_, ?_⟩⟩
  · exact ⟨by decide, .inr ⟨"n", .aliased⟩⟩
  · exact List.forall_mem_singleton.mpr ⟨by decide, .inr ⟨"p", .list .aliased⟩⟩

/-- Plain descriptions of one field each: a column behind an empty list, an alias without an
expression, and a function whose argument begins with an alias and goes on. -/
def misshapenSamples : List Value := [
  .list [.list [], .string "a"],
  .map ⟨[("-as", .string "x")]⟩,
  .map ⟨[("f", .list [.map ⟨[("-as", .string "x")]⟩, .string "b"])]⟩]

/-- They are accepted, but the first text has an empty item, the second no expression, and the third
two items. -/
theorem misshapenSamples_compiled :
    (∀ spec ∈ misshapenSamples,
      (∀ name ∈ spec.fieldIdentifiers, Plain name) ∧ spec.fields.length = 1) ∧
    misshapenSamples.map (fun spec => (compile (.start "me") spec).1) =
      [.ok ",`me`.`a`", .ok " AS `x`", .ok "`me`.`f` AS `x`,`me`.`b`"] ∧
    outerParts ",`me`.`a`" = ["", "`me`.`a`"] ∧ ¬ IsItem "" ∧ ¬ IsItem " AS `x`" ∧
    outerParts "`me`.`f` AS `x`,`me`.`b`" = ["`me`.`f` AS `x`", "`me`.`b`"] := by
  have plain : ∀ spec ∈ misshapenSamples,
      (∀ name ∈ spec.fieldIdentifiers, Plain name) ∧ spec.fields.length = 1 := by decide
  exact ⟨plain, by rfl, by rfl, not_isItem_empty, not_isItem_aliased "x", by rfl⟩

end Projection

end ParamSql
