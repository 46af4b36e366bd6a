import ParamSql.Proofs.Projection.Layout
import ParamSql.Proofs.Text.Nesting

/-!
# Aliases outside of calls

The mark of an alias stands within as many parentheses as calls stand around the alias. An alias
leaves a call only when the argument begins with it, and the call is a column then; so all aliases
stand outside of parentheses exactly when no call that shows has an argument that shows one.
-/
namespace ParamSql

/-- Neither a blank nor a parenthesis stands in the text. -/
abbrev Text.Closed (text : String) : Prop := Avoids ' ' text ∧ Unparenthesized text

namespace Projection

open Text

/-- The mark of an alias behind its first blank. -/
def aliasKeyword : List Char := ['A', 'S', ' ']

theorem toList_aliasMark : aliasMark.toList = ' ' :: aliasKeyword := by decide

theorem closed_columnText {scope : Scope} {name : String} (base : Closed scope.defaultAlias)
    (given : Closed name) : Closed (columnText scope name) :=
  ⟨avoids_columnText (by decide) (by decide) base.1 given.1,
    avoids_columnText (by decide) (by decide) base.2.1 given.2.1,
    avoids_columnText (by decide) (by decide) base.2.2 given.2.2⟩

theorem closed_quote {name : String} (given : Closed name) : Closed (Name.quote name) :=
  ⟨(avoids_quote (by decide)).mpr given.1, (avoids_quote (by decide)).mpr given.2.1,
    (avoids_quote (by decide)).mpr given.2.2⟩

theorem closed_uppercase {name : String} (given : Closed name) : Closed (uppercase name) :=
  ⟨avoids_uppercase uncased_blank given.1, unparenthesized_uppercase given.2⟩

/-- A text without blanks is not the keyword if it has a character that the keyword has not. -/
theorem not_keyword_prefix {text rest : List Char} {c : Char} (blank : ' ' ∉ text)
    (inside : c ∈ text) (apart : c ∉ aliasKeyword) : ¬ aliasKeyword <+: text ++ rest := by
  intro opened
  obtain shorter | longer :=
    List.prefix_or_prefix_of_prefix opened (List.prefix_append text rest)
  · exact blank (shorter.subset (by decide))
  · exact apart (longer.subset inside)

/-- A column has a quote, or else a character of an expression. -/
theorem exists_mem_columnText (scope : Scope) (name : String) :
    ∃ c ∈ (columnText scope name).toList, c ∉ aliasKeyword := by
  unfold columnText
  split
  · next raw =>
    obtain ⟨c, inside, special⟩ := List.any_eq_true.mp raw
    refine ⟨c, inside, fun member => ?_⟩
    have marked : c = 'A' ∨ c = 'S' ∨ c = ' ' := by simpa [aliasKeyword] using member
    rcases marked with rfl | rfl | rfl <;> simp at special
  · refine ⟨Name.delimiter, ?_, by decide⟩
    unfold Scope.qualify
    split <;> simp [Name.toList_quote]

namespace Layout

mutual

/-- The aliases that show, each with the number of calls around it. -/
def aliases (depth : Nat) : Layout → List (String × Nat)
  | blank => []
  | aliased name => [(name, depth)]
  | column _ _ suffix => aliases depth suffix
  | call _ argument suffix => aliases (depth + 1) argument ++ aliases depth suffix
  | list items => aliasesOfItems depth items

/-- The aliases that show in the items of a list. -/
def aliasesOfItems (depth : Nat) : List Layout → List (String × Nat)
  | [] => []
  | first :: rest => aliases depth first ++ aliasesOfItems depth rest

end

mutual

/-- The calls that show, each with its argument. -/
def calls : Layout → List (String × Layout)
  | blank => []
  | aliased _ => []
  | column _ _ suffix => calls suffix
  | call function argument suffix => (function, argument) :: (calls argument ++ calls suffix)
  | list items => callsOfItems items

/-- The calls that show in the items of a list. -/
def callsOfItems : List Layout → List (String × Layout)
  | [] => []
  | first :: rest => calls first ++ callsOfItems rest

end

mutual

/-- With one more call around everything, each alias lies one call deeper. -/
theorem aliases_succ (depth : Nat) : ∀ layout : Layout,
    layout.aliases (depth + 1) = (layout.aliases depth).map fun found => (found.1, found.2 + 1)
  | blank => rfl
  | aliased _ => rfl
  | column _ _ suffix => aliases_succ depth suffix
  | call _ argument suffix => by
    rw [aliases, aliases, aliases_succ (depth + 1) argument, aliases_succ depth suffix,
      List.map_append]
  | list items => aliasesOfItems_succ depth items

theorem aliasesOfItems_succ (depth : Nat) : ∀ items : List Layout,
    aliasesOfItems (depth + 1) items =
      (aliasesOfItems depth items).map fun found => (found.1, found.2 + 1)
  | [] => rfl
  | first :: rest => by
    rw [aliasesOfItems, aliasesOfItems, aliases_succ depth first, aliasesOfItems_succ depth rest,
      List.map_append]

end

/-- Within a call no alias lies outside of calls. -/
theorem aliases_one_iff {layout : Layout} :
    (∀ found ∈ layout.aliases 1, found.2 = 0) ↔ layout.aliases 0 = [] := by
  rw [aliases_succ, List.forall_mem_map, List.eq_nil_iff_forall_not_mem]
  exact forall₂_congr fun found _ => by simp

mutual

/-- No alias lies within a call exactly when no call has an argument that shows an alias. -/
theorem aliases_outside_iff : ∀ layout : Layout,
    (∀ found ∈ layout.aliases 0, found.2 = 0) ↔ ∀ call ∈ layout.calls, call.2.aliases 0 = []
  | blank => by simp [aliases, calls]
  | aliased _ => by simp [aliases, calls]
  | column _ _ suffix => aliases_outside_iff suffix
  | call function argument suffix => by
    have inside := aliases_outside_iff argument
    rw [aliases, calls, List.forall_mem_append, aliases_one_iff, List.forall_mem_cons,
      List.forall_mem_append, aliases_outside_iff suffix]
    refine and_congr_right fun none => (and_iff_right ?_).symm
    refine inside.mp ?_
    rw [none]
    exact nofun
  | list items => aliasesOfItems_outside_iff items

theorem aliasesOfItems_outside_iff : ∀ items : List Layout,
    (∀ found ∈ aliasesOfItems 0 items, found.2 = 0) ↔
      ∀ call ∈ callsOfItems items, call.2.aliases 0 = []
  | [] => by simp [aliasesOfItems, callsOfItems]
  | first :: rest => by
    rw [aliasesOfItems, callsOfItems, List.forall_mem_append, List.forall_mem_append,
      aliases_outside_iff first, aliasesOfItems_outside_iff rest]

end

/-- The keyword does not begin with anything but its first letter. -/
theorem not_keyword_prefix_cons {c : Char} (other : c ≠ 'A') (rest : List Char) :
    ¬ aliasKeyword <+: c :: rest :=
  fun opened => other (List.cons_prefix_cons.mp opened).1.symm

/-- A text without blanks and parentheses is passed over. -/
theorem depthsFrom_closed {text : String} (closed : Closed text) (depth : Nat) (rest : List Char) :
    depthsFrom (' ' :: aliasKeyword) depth (text.toList ++ rest) =
      depthsFrom (' ' :: aliasKeyword) depth rest :=
  depthsFrom_append_of_avoids depth closed.1 closed.2.1 closed.2.2

/-- A blank in front of anything but the keyword is passed over. -/
theorem depthsFrom_blank (depth : Nat) {rest : List Char} (apart : ¬ aliasKeyword <+: rest) :
    depthsFrom (' ' :: aliasKeyword) depth (' ' :: rest) =
      depthsFrom (' ' :: aliasKeyword) depth rest :=
  depthsFrom_cons_of_not_prefix depth fun here => apart (List.cons_prefix_cons.mp here).2

/-- The mark is found where it stands, and its last blank begins another one only in front of the
keyword. -/
theorem depthsFrom_aliasMark (depth : Nat) {rest : List Char} (apart : ¬ aliasKeyword <+: rest) :
    depthsFrom (' ' :: aliasKeyword) depth (' ' :: aliasKeyword ++ rest) =
      depth :: depthsFrom (' ' :: aliasKeyword) depth rest := by
  have found : ' ' :: aliasKeyword <+: ' ' :: (aliasKeyword ++ rest) :=
    List.prefix_append (' ' :: aliasKeyword) rest
  rw [List.cons_append, depthsFrom, if_pos found]
  refine congrArg (depth :: ·) ?_
  calc depthsFrom (' ' :: aliasKeyword) depth ('A' :: 'S' :: ' ' :: rest)
      = depthsFrom (' ' :: aliasKeyword) depth ('S' :: ' ' :: rest) :=
        depthsFrom_cons_of_ne depth (by decide)
    _ = depthsFrom (' ' :: aliasKeyword) depth (' ' :: rest) :=
        depthsFrom_cons_of_ne depth (by decide)
    _ = depthsFrom (' ' :: aliasKeyword) depth rest := depthsFrom_blank depth apart

theorem depthsFrom_aliased {name : String} (given : Closed name) (depth : Nat) (rest : List Char) :
    depthsFrom (' ' :: aliasKeyword) depth ((aliasMark ++ Name.quote name).toList ++ rest) =
      depth :: depthsFrom (' ' :: aliasKeyword) depth rest := by
  have apart : ¬ aliasKeyword <+: (Name.quote name).toList ++ rest := by
    rw [Name.toList_quote]
    exact not_keyword_prefix_cons (by decide) _
  rw [String.toList_append, toList_aliasMark, List.append_assoc, depthsFrom_aliasMark depth apart,
    depthsFrom_closed (closed_quote given)]

/-- A call is passed over to its argument, one level deeper, and from there to what follows. -/
theorem depthsFrom_callText {function argument : String} (named : Closed function) {depth : Nat}
    {inside : List Nat} {rest : List Char}
    (apart : ∀ later, ¬ aliasKeyword <+: later → ¬ aliasKeyword <+: argument.toList ++ later)
    (found : ∀ later, depthsFrom (' ' :: aliasKeyword) (depth + 1) (argument.toList ++ later) =
      inside ++ depthsFrom (' ' :: aliasKeyword) (depth + 1) later) :
    depthsFrom (' ' :: aliasKeyword) depth ((callText function argument).toList ++ rest) =
      inside ++ depthsFrom (' ' :: aliasKeyword) depth rest := by
  have split : (callText function argument).toList ++ rest =
      (uppercase function).toList ++ '(' :: ' ' :: (argument.toList ++ ' ' :: ')' :: rest) := by
    simp [toList_callText]
  have closing : depthsFrom (' ' :: aliasKeyword) (depth + 1) (' ' :: ')' :: rest) =
      depthsFrom (' ' :: aliasKeyword) depth rest := by
    rw [depthsFrom_blank _ (not_keyword_prefix_cons (by decide) rest)]
    exact depthsFrom_cons_of_ne _ (by decide)
  rw [split, depthsFrom_closed (closed_uppercase named), depthsFrom_cons_of_ne _ (by decide),
    show depthAfter depth '(' = depth + 1 from rfl,
    depthsFrom_blank _ (apart _ (not_keyword_prefix_cons (by decide) _)), found, closing]

variable {base : String}

mutual

/-- In front of anything but the keyword, a layout does not begin with the keyword. -/
theorem not_keyword_prefix_text (based : Closed base) : ∀ {layout : Layout},
    layout.Uses base Closed → ∀ {rest : List Char}, ¬ aliasKeyword <+: rest →
      ¬ aliasKeyword <+: layout.text.toList ++ rest
  | blank, _, _, apart => apart
  | aliased name, _, rest, _ => by
    rw [text, String.toList_append, toList_aliasMark]
    exact not_keyword_prefix_cons (by decide) _
  | column scope name suffix, used, rest, _ => by
    obtain ⟨same, given, -⟩ := used
    obtain ⟨c, inside, apart⟩ := exists_mem_columnText scope name
    rw [text, String.toList_append, List.append_assoc]
    exact not_keyword_prefix (closed_columnText (same ▸ based) given).1 inside apart
  | call function argument suffix, used, rest, _ => by
    have plain : ' ' ∉ (uppercase function).toList := (closed_uppercase used.1).1
    have blank : ' ' ∉ (uppercase function).toList ++ ['('] := by simp [plain]
    rw [text, String.toList_append, toList_callText, List.append_assoc, List.append_cons,
      List.append_assoc]
    exact not_keyword_prefix blank (by simp) (by decide : '(' ∉ aliasKeyword)
  | list items, used, _, apart => not_keyword_prefix_texts based used apart

theorem not_keyword_prefix_texts (based : Closed base) : ∀ {items : List Layout},
    AllUse base Closed items → ∀ {rest : List Char}, ¬ aliasKeyword <+: rest →
      ¬ aliasKeyword <+: (",".intercalate (texts items)).toList ++ rest
  | [], _, _, apart => apart
  | [first], used, rest, apart => by
    rw [texts, texts, String.intercalate_singleton]
    exact not_keyword_prefix_text based used.1 apart
  | first :: second :: others, used, rest, _ => by
    rw [toList_intercalate_texts, List.append_assoc]
    exact not_keyword_prefix_text based used.1 (not_keyword_prefix_cons (by decide) _)

end

mutual

/-- The mark stands where the aliases stand, and nowhere else. -/
theorem depthsFrom_text (based : Closed base) : ∀ {layout : Layout}, layout.Uses base Closed →
    ∀ (depth : Nat) (rest : List Char),
      depthsFrom (' ' :: aliasKeyword) depth (layout.text.toList ++ rest) =
        (layout.aliases depth).map Prod.snd ++ depthsFrom (' ' :: aliasKeyword) depth rest
  | blank, _, _, _ => rfl
  | aliased _, given, depth, rest => depthsFrom_aliased given depth rest
  | column scope name suffix, used, depth, rest => by
    obtain ⟨same, given, below⟩ := used
    rw [text, String.toList_append, List.append_assoc,
      depthsFrom_closed (closed_columnText (same ▸ based) given), depthsFrom_text based below,
      aliases]
  | call function argument suffix, used, depth, rest => by
    obtain ⟨named, inside, below⟩ := used
    have apart : ∀ later, ¬ aliasKeyword <+: later →
        ¬ aliasKeyword <+: argument.text.toList ++ later :=
      fun _ => not_keyword_prefix_text based inside
    rw [text, String.toList_append, List.append_assoc,
      depthsFrom_callText named apart (depthsFrom_text based inside (depth + 1)),
      depthsFrom_text based below, aliases, List.map_append, List.append_assoc]
  | list _, used, depth, rest => depthsFrom_texts based used depth rest

theorem depthsFrom_texts (based : Closed base) : ∀ {items : List Layout},
    AllUse base Closed items → ∀ (depth : Nat) (rest : List Char),
      depthsFrom (' ' :: aliasKeyword) depth ((",".intercalate (texts items)).toList ++ rest) =
        (aliasesOfItems depth items).map Prod.snd ++
          depthsFrom (' ' :: aliasKeyword) depth rest
  | [], _, _, _ => rfl
  | [first], used, depth, rest => by
    rw [texts, texts, String.intercalate_singleton, depthsFrom_text based used.1, aliasesOfItems,
      aliasesOfItems, List.append_nil]
  | first :: second :: others, used, depth, rest => by
    have comma : depthAfter depth ',' = depth := rfl
    rw [toList_intercalate_texts, List.append_assoc, depthsFrom_text based used.1, List.cons_append,
      depthsFrom_cons_of_ne _ (by decide), comma, depthsFrom_texts based used.2,
      ← List.append_assoc, ← List.map_append]
    rfl

end

theorem calls_suffix_subset (layout : Layout) : layout.suffix.calls ⊆ layout.calls := by
  cases layout with
  | call function argument suffix =>
    exact List.subset_cons_of_subset _ (List.subset_append_right _ _)
  | _ => exact List.Subset.refl _

/-- With an alias in the place of its suffix, a layout has no further calls. -/
theorem calls_withSuffix_subset (layout : Layout) (name : String) :
    (layout.withSuffix (aliased name)).calls ⊆ layout.calls := by
  cases layout with
  | call function argument suffix =>
    rw [withSuffix, calls, calls, calls, List.append_nil]
    exact List.cons_subset_cons _ (List.subset_append_left _ _)
  | _ => exact List.nil_subset _

end Layout

mutual

/-- A call that shows has an argument that does not begin with an alias. -/
theorem opens_of_mem_calls : ∀ (scope : Scope) (projection : Projection),
    ∀ call ∈ (layout scope projection).1.calls, call.2.opens = false
  | _, .column _ => nofun
  | scope, .list items => opens_of_mem_callsOfItems scope items
  | scope, .composed parts => opens_of_mem_callsOfParts scope .blank parts nofun

theorem opens_of_mem_callsOfItems : ∀ (scope : Scope) (items : List Projection),
    ∀ call ∈ Layout.callsOfItems (layoutItems scope items).1, call.2.opens = false
  | _, [] => nofun
  | scope, first :: rest => List.forall_mem_append.mpr
    ⟨opens_of_mem_calls scope first, opens_of_mem_callsOfItems (layout scope first).2 rest⟩

theorem opens_of_mem_callsOfParts : ∀ (scope : Scope) (written : Layout)
    (parts : List (ItemPart Projection)), (∀ call ∈ written.calls, call.2.opens = false) →
      ∀ call ∈ (layoutParts scope written parts).1.calls, call.2.opens = false
  | _, _, [], each => each
  | _, written, .aliased name :: rest, each =>
    opens_of_mem_callsOfParts _ _ rest
      fun call member => each call (written.calls_withSuffix_subset name member)
  | scope, written, .call function argument :: rest, each => by
    have inside := opens_of_mem_calls scope argument
    rw [layoutParts]
    dsimp only
    -- an argument that opens is what stands in the place of the alias, any other one is called
    split
    · exact opens_of_mem_callsOfParts _ _ rest inside
    · next closed =>
      refine opens_of_mem_callsOfParts _ _ rest (List.forall_mem_cons.mpr ⟨?_, ?_⟩)
      · exact Bool.eq_false_iff.mpr closed
      · exact List.forall_mem_append.mpr
          ⟨inside, fun call member => each call (written.calls_suffix_subset member)⟩

end

/-- An argument that begins with its alias leaves its call, at every depth. The mark of an alias
stands in the text once for each alias that shows, within the calls around it; so it stands outside
of all parentheses exactly when no call has an argument that shows an alias behind something
else. -/
theorem compile_lifts_iff {scope : Scope} {spec : Value} {result : String}
    (base : Closed scope.defaultAlias) (each : ∀ name ∈ spec.fieldIdentifiers, Closed name)
    (success : (compile scope spec).1 = .ok result) :
    ∃ projection shown, (read spec).Returns projection ∧ shown = (projection.layout scope).1 ∧
      result = shown.text ∧ (∀ call ∈ shown.calls, call.2.opens = false) ∧
      depthsOf aliasMark result = (shown.aliases 0).map Prod.snd ∧
      (Outside aliasMark result ↔ ∀ call ∈ shown.calls, call.2.aliases 0 = []) := by
  obtain ⟨projection, returns, rfl, used⟩ := layout_of_compile each success
  have closed := used.imp fun _ holds => holds.1
  have depths : depthsOf aliasMark (projection.layout scope).1.text =
      ((projection.layout scope).1.aliases 0).map Prod.snd := by
    have found := Layout.depthsFrom_text base closed 0 []
    rwa [List.append_nil, depthsFrom, List.append_nil, ← toList_aliasMark] at found
  refine ⟨projection, _, returns, rfl, rfl, opens_of_mem_calls scope projection, depths, ?_⟩
  rw [outside_iff (by decide), depths, List.forall_mem_map]
  exact Layout.aliases_outside_iff _

/-- Two aliases that leave their calls: one of a column, and one beside nested calls. -/
def liftedSample : Value := .list [
  .map ⟨[("price", .map ⟨[("-as", .string "p")]⟩)]⟩,
  .map ⟨[("-AS", .string "n"), ("max", .map ⟨[("abs", .list [.string "i.a", .string "b"])]⟩)]⟩]

theorem compile_lifts_iff_liftedSample :
    (compile (.start "me") liftedSample).1 =
        .ok "`me`.`price` AS `p`,MAX( ABS( i.a,`me`.`b` ) ) AS `n`" ∧
      Outside aliasMark "`me`.`price` AS `p`,MAX( ABS( i.a,`me`.`b` ) ) AS `n`" := by
  have success : (compile (.start "me") liftedSample).1 =
      .ok "`me`.`price` AS `p`,MAX( ABS( i.a,`me`.`b` ) ) AS `n`" := by rfl
  have names : ∀ name ∈ liftedSample.fieldIdentifiers, Closed name := by decide
  obtain ⟨projection, shown, returns, rfl, -, -, -, outside⟩ :=
    compile_lifts_iff (by decide) names success
  refine ⟨success, outside.mpr ?_⟩
  obtain ⟨before, after, ran⟩ := returns
  cases ran
  decide

/-- The argument does not begin with its alias, although it declares one: the column `id` stands
before it. -/
def enclosedSample : Value := .map ⟨[("count", .map ⟨[("id", .map ⟨[("-as", .string "x")]⟩)]⟩)]⟩

theorem enclosedSample_compiled : (compile (.start "me") enclosedSample).1 =
      .ok "COUNT( `me`.`id` AS `x` )" ∧ (∀ name ∈ enclosedSample.fieldIdentifiers, Closed name) ∧
    ¬ Outside aliasMark "COUNT( `me`.`id` AS `x` )" := by
  refine ⟨by rfl, by decide, fun outside => ?_⟩
  exact absurd (outside "COUNT( `me`.`id`" "`x` )" rfl) (by decide)

end Projection

end ParamSql
