import Mathlib.Data.List.Forall2
import ParamSql.Proofs.Modifiers.Induction
import ParamSql.Proofs.Value.Leaves

/-!
# The grammar of column lists

What a clause that lists columns accepts, said of the description alone: its leaves are names, and
its maps, if it can have any, are single directions. The clause shows the leaves in their order, so
that how they are put into lists does not matter, nor whether a direction stands above a list or
above each of its items. A grouping refuses the direction either way, but where there are no items
nothing is left of it to refuse.
-/
namespace ParamSql

/-- The keyword of a key that is a directive. -/
def Directive.keywordOf (key : String) : String := ((find? key).map keyword).getD ""

namespace Direction

theorem keywordOf_eq {key : String} {direction : Direction}
    (spelled : direction.directive.SpelledBy key) :
    Directive.keywordOf key = direction.keyword := by
  rw [Directive.keywordOf, Directive.find?_eq_some_iff.mpr spelled]
  cases direction <;> rfl

end Direction

/-- The directions of a column are written behind it, one after the other. -/
theorem ListedColumn.text_eq (scope : Scope) (column : ListedColumn) :
    column.text scope = scope.column column.name true ++
      String.join (column.directions.map fun direction => " " ++ direction.keyword) := by
  have written : ∀ (directions : List Direction) (text : String),
      directions.foldl (fun written direction => written ++ " " ++ direction.keyword) text =
        text ++ String.join (directions.map fun direction => " " ++ direction.keyword) := by
    intro directions
    induction directions with
    | nil => simp
    | cons direction rest ih =>
      intro text
      rw [List.foldl_cons, ih, List.map_cons, String.join_cons, String.append_assoc,
        String.append_assoc, String.append_assoc]
  exact written _ _

namespace Value.Leaf

/-- The name that the leaf gives. -/
def name (leaf : Leaf) : String := leaf.scalar.text?.getD ""

/-- The leaf is a string with something in it. -/
def IsName (leaf : Leaf) : Prop := ∃ name, leaf.scalar = .string name ∧ name ≠ ""

/-- The leaf as an item of a clause: the column, followed by the keywords of the maps around it, the
innermost first. -/
def text (scope : Scope) (leaf : Leaf) : String :=
  scope.column leaf.name true ++
    String.join (leaf.keys.map fun key => " " ++ Directive.keywordOf key)

/-- The leaf has the name of the column, and the maps around it set its directions. -/
structure Describes (leaf : Leaf) (column : ListedColumn) : Prop where
  scalar : leaf.scalar = .string column.name
  present : column.name ≠ ""
  directions : List.Forall₂ (fun key direction => direction.directive.SpelledBy key)
    leaf.keys column.directions

theorem Describes.isName {leaf : Leaf} {column : ListedColumn} (described : leaf.Describes column) :
    leaf.IsName :=
  ⟨column.name, described.scalar, described.present⟩

theorem Describes.name_eq {leaf : Leaf} {column : ListedColumn}
    (described : leaf.Describes column) : leaf.name = column.name := by
  rw [name, described.scalar]
  rfl

/-- A map with a direction puts it behind the directions of the columns below. -/
theorem Describes.under {leaf : Leaf} {column : ListedColumn} {key : String} {direction : Direction}
    (described : leaf.Describes column) (spelled : direction.directive.SpelledBy key) :
    (leaf.under key).Describes (column.directed direction) :=
  ⟨described.scalar, described.present,
    List.rel_append described.directions (.cons spelled .nil)⟩

/-- A leaf is written like the column that it describes. -/
theorem Describes.text_eq {leaf : Leaf} {column : ListedColumn} (described : leaf.Describes column)
    (scope : Scope) : column.text scope = leaf.text scope := by
  have keywords : column.directions.map (fun direction => " " ++ direction.keyword) =
      leaf.keys.map (fun key => " " ++ Directive.keywordOf key) := by
    rw [← List.forall₂_eq_eq_eq, List.forall₂_map_left_iff, List.forall₂_map_right_iff]
    refine described.directions.flip.imp fun direction key spelled => ?_
    rw [Direction.keywordOf_eq spelled]
  rw [ListedColumn.text_eq, text, described.name_eq, keywords]

end Value.Leaf

namespace ColumnClause

/-- The maps that the clause can have: none if it groups, and single directions if it orders. -/
def Admits : ColumnClause → KeyedMap Value → Prop
  | .groupBy, _ => False
  | .orderBy, fields => ∃ (direction : Direction) (key : String) (value : Value),
      fields = ⟨[(key, value)]⟩ ∧ direction.directive.SpelledBy key

/-- The clause admits all these maps, and these leaves describe these columns. -/
structure Lists (clause : ColumnClause) (maps : List (KeyedMap Value)) (leaves : List Value.Leaf)
    (columns : List ListedColumn) : Prop where
  admitted : ∀ fields ∈ maps, clause.Admits fields
  described : List.Forall₂ Value.Leaf.Describes leaves columns

variable {clause : ColumnClause} {maps : List (KeyedMap Value)} {leaves : List Value.Leaf}
  {columns : List ListedColumn}

theorem Lists.exists_describes (listed : clause.Lists maps leaves columns) :
    ∀ leaf ∈ leaves, ∃ column, leaf.Describes column := by
  obtain ⟨-, described⟩ := listed
  induction described with
  | nil => exact nofun
  | cons here _ ih => exact List.forall_mem_cons.mpr ⟨⟨_, here⟩, ih⟩

theorem Lists.isName (listed : clause.Lists maps leaves columns) :
    ∀ leaf ∈ leaves, leaf.IsName := by
  intro leaf member
  obtain ⟨column, described⟩ := listed.exists_describes leaf member
  exact described.isName

/-- What is read are the leaves. -/
theorem lists_of_read {spec : Value} (success : clause.read spec = .ok columns) :
    clause.Lists spec.maps spec.leaves columns := by
  suffices kept : KeptByReading clause
      (fun spec columns => clause.Lists spec.maps spec.leaves columns)
      (fun items columns =>
        clause.Lists (Value.mapsOfItems items) (Value.leavesOfItems items) columns) from
    kept.of_read success
  constructor
  case column => exact fun present => ⟨nofun, .cons ⟨rfl, present, .nil⟩ .nil⟩
  case list => exact fun inside => inside
  case noItem => exact ⟨nofun, .nil⟩
  case item =>
    intro value columns rest others here there
    exact ⟨List.forall_mem_append.mpr ⟨here.admitted, there.admitted⟩,
      List.rel_append here.described there.described⟩
  case directed =>
    intro key value columns direction orders spelled below
    have admitted : clause.Admits ⟨[(key, value)]⟩ := by
      rw [orders]
      exact ⟨direction, key, value, rfl, spelled⟩
    rw [Value.maps, Value.mapsOfEntries, Value.mapsOfEntries, List.append_nil, Value.leaves,
      Value.leavesOfEntries, Value.leavesOfEntries, List.append_nil]
    refine ⟨List.forall_mem_cons.mpr ⟨admitted, below.admitted⟩, ?_⟩
    rw [List.forall₂_map_left_iff, List.forall₂_map_right_iff]
    exact below.described.imp fun leaf column described => described.under spelled

mutual

/-- Names can be listed, in maps that the clause admits. -/
theorem exists_read (clause : ColumnClause) : ∀ {spec : Value},
    (∀ fields ∈ spec.maps, clause.Admits fields) → (∀ leaf ∈ spec.leaves, leaf.IsName) →
      ∃ columns, clause.read spec = .ok columns
  | .scalar value, _, names => by
    obtain ⟨name, same, present⟩ := names _ List.mem_cons_self
    have required : Name.require .column name = .ok name := Name.require_of_ne present
    obtain rfl : value = .string name := same
    exact ⟨[⟨name, []⟩], by simp [read, Value.requireString, required]⟩
  | .list items, admitted, names => exists_readItems clause admitted names
  | .map ⟨entries⟩, admitted, names => by
    obtain ⟨here, below⟩ := List.forall_mem_cons.mp admitted
    cases clause with
    | groupBy => exact here.elim
    | orderBy => exact exists_readDirected here below names

theorem exists_readItems (clause : ColumnClause) : ∀ {items : List Value},
    (∀ fields ∈ Value.mapsOfItems items, clause.Admits fields) →
      (∀ leaf ∈ Value.leavesOfItems items, leaf.IsName) →
      ∃ columns, clause.readItems items = .ok columns
  | [], _, _ => ⟨[], rfl⟩
  | item :: rest, admitted, names => by
    obtain ⟨admittedHere, admittedThere⟩ := List.forall_mem_append.mp admitted
    obtain ⟨namesHere, namesThere⟩ := List.forall_mem_append.mp names
    obtain ⟨columns, here⟩ := exists_read clause admittedHere namesHere
    obtain ⟨others, there⟩ := exists_readItems clause admittedThere namesThere
    exact ⟨columns ++ others, by simp [readItems, here, there]⟩

theorem exists_readDirected : ∀ {entries : List (String × Value)}, orderBy.Admits ⟨entries⟩ →
    (∀ fields ∈ Value.mapsOfEntries entries, orderBy.Admits fields) →
      (∀ leaf ∈ Value.leavesOfEntries entries, leaf.IsName) →
      ∃ columns, orderBy.readDirected entries = .ok columns
  | [(key, value)], ⟨direction, _, _, same, spelled⟩, admitted, names => by
    cases same
    have known := Direction.read_eq_ok_iff.mpr spelled
    obtain ⟨within, -⟩ := List.forall_mem_append.mp admitted
    obtain ⟨leaves, -⟩ := List.forall_mem_append.mp names
    obtain ⟨columns, inside⟩ := exists_read orderBy within fun leaf member =>
      leaves (leaf.under key) (List.mem_map_of_mem member)
    exact ⟨columns.map (·.directed direction), by simp [readDirected, known, inside]⟩

end

/-- Columns are written like the leaves that describe them, and there has to be one. -/
theorem Lists.text_eq_ok_iff (listed : clause.Lists maps leaves columns) (scope : Scope)
    (text : String) : clause.text scope columns = .ok text ↔ leaves ≠ [] ∧
      text = " " ++ clause.keyword ++ " " ++ ",".intercalate (leaves.map (·.text scope)) := by
  have texts : columns.map (·.text scope) = leaves.map (·.text scope) := by
    rw [← List.forall₂_eq_eq_eq, List.forall₂_map_left_iff, List.forall₂_map_right_iff]
    exact listed.described.flip.imp fun column leaf described => described.text_eq scope
  have none : columns.isEmpty = true ↔ leaves = [] := by
    rw [List.isEmpty_iff_length_eq_zero, ← listed.described.length_eq, List.length_eq_zero_iff]
  by_cases empty : leaves = []
  · simp [ColumnClause.text, none.mpr empty, empty]
  · rw [ColumnClause.text, if_neg (mt none.mp empty), texts]
    simp [empty, eq_comm]

/-- A description compiles when its maps are admitted, its leaves are names and there is one at
least; the text consists of the leaves. -/
theorem compile_eq_ok_iff {scope : Scope} {spec : Value} {text : String} :
    clause.compile scope spec = .ok text ↔
      (∀ fields ∈ spec.maps, clause.Admits fields) ∧
      (∀ leaf ∈ spec.leaves, leaf.IsName) ∧ spec.leaves ≠ [] ∧
      text = " " ++ clause.keyword ++ " " ++ ",".intercalate (spec.leaves.map (·.text scope)) := by
  constructor
  · intro success
    obtain ⟨columns, inside, shown⟩ := Outcome.bind_eq_ok.mp success
    have listed := lists_of_read inside
    exact ⟨listed.admitted, listed.isName, (listed.text_eq_ok_iff scope text).mp shown⟩
  · rintro ⟨admitted, names, shown⟩
    obtain ⟨columns, inside⟩ := exists_read clause admitted names
    have listed := lists_of_read inside
    exact Outcome.bind_eq_ok.mpr
      ⟨columns, inside, (listed.text_eq_ok_iff scope text).mpr shown⟩

theorem readItems_append (clause : ColumnClause) (before after : List Value) :
    clause.readItems (before ++ after) =
      (do return (← clause.readItems before) ++ (← clause.readItems after)) := by
  induction before with
  | nil =>
    rw [List.nil_append, readItems]
    cases clause.readItems after <;> rfl
  | cons item rest ih => simp [readItems, ih]

/-- The description is put into lists in another way, at one place: the items of a list inside a
list take its place, or a direction above a list of at least so many items is put above each of
them. -/
inductive Regrouped (least : Nat) : Value → Value → Prop
  | splice (before inner after : List Value) :
      Regrouped least (.list (before ++ .list inner :: after)) (.list (before ++ inner ++ after))
  | distribute {key : String} {items : List Value} (direction : Direction)
      (spelled : direction.directive.SpelledBy key) (enough : least ≤ items.length) :
      Regrouped least (.map ⟨[(key, .list items)]⟩)
        (.list (items.map fun item => .map ⟨[(key, item)]⟩))
  | item (before after : List Value) {value other : Value} (inside : Regrouped least value other) :
      Regrouped least (.list (before ++ value :: after)) (.list (before ++ other :: after))
  | entry (before after : List (String × Value)) (key : String) {value other : Value}
      (inside : Regrouped least value other) :
      Regrouped least (.map ⟨before ++ (key, value) :: after⟩)
        (.map ⟨before ++ (key, other) :: after⟩)

/-- The number of items from which on a clause reads a direction above their list like a direction
above each of them. A grouping refuses both, and so has to find one above an item. -/
def distributesFrom : ColumnClause → Nat
  | .groupBy => 1
  | .orderBy => 0

/-- Items with a direction above each of them are read like the items, and directed afterwards. -/
theorem readItems_directed {key : String} {direction : Direction}
    (known : Direction.read key = .ok direction) (items : List Value) :
    orderBy.readItems (items.map fun item => .map ⟨[(key, item)]⟩) =
      List.map (·.directed direction) <$> orderBy.readItems items := by
  induction items with
  | nil => rfl
  | cons item rest ih =>
    simp only [List.map_cons, readItems, read, readDirected, known, ih]
    cases orderBy.read item <;> cases orderBy.readItems rest <;> simp

/-- How a description is put into lists has no influence on what is read, nor on the fault. -/
theorem Regrouped.read_eq {clause : ColumnClause} {value other : Value}
    (regrouped : Regrouped clause.distributesFrom value other) :
    clause.read value = clause.read other := by
  induction regrouped with
  | splice before inner after =>
    simp only [read, readItems_append, readItems]
    cases clause.readItems before <;> cases clause.readItems inner <;>
      cases clause.readItems after <;> simp
  | @distribute key items direction spelled enough =>
    cases clause with
    | groupBy =>
      obtain ⟨item, rest, rfl⟩ := List.exists_cons_of_length_pos enough
      rfl
    | orderBy =>
      have known := Direction.read_eq_ok_iff.mpr spelled
      simp only [read, readItems_directed known, readDirected, known, Outcome.ok_bind]
      cases orderBy.readItems items <;> rfl
  | item before after inside ih => simp only [read, readItems_append, readItems, ih]
  | entry before after key inside ih =>
    cases clause with
    | groupBy => rfl
    | orderBy =>
      cases before with
      | nil => cases after <;> simp [read, readDirected, ih]
      | cons first rest => cases rest <;> simp [read, readDirected]

theorem compile_eq_of_regrouped (clause : ColumnClause) (scope : Scope) {spec other : Value}
    (regrouped : Regrouped clause.distributesFrom spec other) :
    clause.compile scope spec = clause.compile scope other := by
  rw [compile, compile, regrouped.read_eq]

/-- A grouping or ordering clause compiles exactly when its leaves are names, at least one, and its
maps are single directions, of which a grouping can have none. The text then consists of the leaves
in their order, depth first, each written as a prefixed column and followed by the keywords of the
directions around it from the innermost outwards. So an ordering, or its fault, stays the same when
the description is put into lists in another way at any depth. A grouping, or its fault, stays the
same unless a direction above an empty list is dropped in this way. -/
theorem compile_lists_leaves :
    (∀ (clause : ColumnClause) (scope : Scope) (spec : Value) (text : String),
      clause.compile scope spec = .ok text ↔
        (∀ fields ∈ spec.maps, clause.Admits fields) ∧
        (∀ leaf ∈ spec.leaves, leaf.IsName) ∧ spec.leaves ≠ [] ∧
        text = " " ++ clause.keyword ++ " " ++
          ",".intercalate (spec.leaves.map (·.text scope))) ∧
    (∀ (scope : Scope) (spec other : Value),
      Regrouped 0 spec other → orderBy.compile scope spec = orderBy.compile scope other) ∧
    ∀ (scope : Scope) (spec other : Value),
      Regrouped 1 spec other → groupBy.compile scope spec = groupBy.compile scope other := by
  refine ⟨fun _ _ _ _ => compile_eq_ok_iff, ?_, ?_⟩
  · exact fun scope _ _ regrouped => orderBy.compile_eq_of_regrouped scope regrouped
  · exact fun scope _ _ regrouped => groupBy.compile_eq_of_regrouped scope regrouped

/-- An empty list, and a direction above a list with another direction inside it. -/
def nestedOrdering : Value :=
  .list [.string "b", .list [],
    .map ⟨[("-Desc", .list [.string "a", .list [.string "u.c", .map ⟨[("-asc", .string "d")]⟩]])]⟩]

/-- The same without the empty list. -/
def splicedOrdering : Value :=
  .list [.string "b",
    .map ⟨[("-Desc", .list [.string "a", .list [.string "u.c", .map ⟨[("-asc", .string "d")]⟩]])]⟩]

/-- The same with the first direction above each item. -/
def distributedOrdering : Value :=
  .list [.string "b",
    .list [.map ⟨[("-Desc", .string "a")]⟩,
      .map ⟨[("-Desc", .list [.string "u.c", .map ⟨[("-asc", .string "d")]⟩])]⟩]]

theorem compile_lists_leaves_nestedOrdering :
    orderBy.compile (.start "me") nestedOrdering =
        .ok " ORDER BY `me`.`b`,`me`.`a` DESC,u.c DESC,`me`.`d` ASC DESC" ∧
      orderBy.compile (.start "me") splicedOrdering =
        orderBy.compile (.start "me") nestedOrdering ∧
      orderBy.compile (.start "me") distributedOrdering =
        orderBy.compile (.start "me") splicedOrdering ∧
      groupBy.compile (.start "me") (.list [.string "b", .string "a"]) =
        .ok " GROUP BY `me`.`b`,`me`.`a`" ∧
      groupBy.compile (.start "me") (.list [.map ⟨[("-Desc", .string "a")]⟩]) =
        groupBy.compile (.start "me") (.map ⟨[("-Desc", .list [.string "a"])]⟩) := by
  obtain ⟨lists, orders, groups⟩ := compile_lists_leaves
  have spelledDesc := Direction.read_eq_ok_iff.mp (rfl : Direction.read "-Desc" = .ok .descending)
  have spelledAsc := Direction.read_eq_ok_iff.mp (rfl : Direction.read "-asc" = .ok .ascending)
  have spliced : Regrouped 0 nestedOrdering splicedOrdering :=
    .splice [.string "b"] [] _
  have distributed : Regrouped 0 splicedOrdering distributedOrdering :=
    .item [.string "b"] [] (.distribute .descending spelledDesc (Nat.zero_le _))
  have grouping : Regrouped 1 (.list [.string "b", .list [.string "a"]])
      (.list [.string "b", .string "a"]) := .splice [.string "b"] [.string "a"] []
  have directed : Regrouped 1 (.map ⟨[("-Desc", .list [.string "a"])]⟩)
      (.list [.map ⟨[("-Desc", .string "a")]⟩]) :=
    .distribute .descending spelledDesc (Nat.le_refl 1)
  refine ⟨(lists _ _ _ _).mpr ⟨?_, ?_, ?_, rfl⟩, (orders _ _ _ spliced).symm,
    (orders _ _ _ distributed).symm, (groups _ _ _ grouping).symm.trans (by decide),
    (groups _ _ _ directed).symm⟩
  · exact List.forall_mem_cons.mpr ⟨⟨.descending, _, _, rfl, spelledDesc⟩,
      List.forall_mem_singleton.mpr ⟨.ascending, _, _, rfl, spelledAsc⟩⟩
  · simp [nestedOrdering, Value.leaves, Value.leavesOfItems, Value.leavesOfEntries,
      Value.Leaf.under, Value.Leaf.IsName, Value.string]
  · exact List.cons_ne_nil _ _

/-- A direction above no column. -/
def emptyDirection : Value := .map ⟨[("-asc", .list [])]⟩

/-- A grouping refuses a direction above an empty list, because that is a map. Put above each of no
items, the direction is gone: alone, the empty list that is left is another fault, and beside a
column it is none. -/
theorem groupBy_emptyDirection :
    Regrouped 0 emptyDirection (.list []) ∧
      groupBy.compile (.start "me") emptyDirection = .error .groupingByMap ∧
      groupBy.compile (.start "me") (.list []) = .error (.noColumns .groupBy) ∧
      Error.category .groupingByMap = .unknownType ∧
      (Error.noColumns .groupBy).category = .invalidArgument ∧
      Regrouped 0 (.list [.string "a", emptyDirection]) (.list [.string "a", .list []]) ∧
      groupBy.compile (.start "me") (.list [.string "a", emptyDirection]) =
        .error .groupingByMap ∧
      groupBy.compile (.start "me") (.list [.string "a", .list []]) = .ok " GROUP BY `me`.`a`" := by
  have spelled := Direction.read_eq_ok_iff.mp (rfl : Direction.read "-asc" = .ok .ascending)
  have dropped : Regrouped 0 emptyDirection (.list []) :=
    .distribute .ascending spelled (Nat.zero_le _)
  exact ⟨dropped, by decide, by decide, rfl, rfl, .item [.string "a"] [] dropped, by decide,
    by decide⟩

end ColumnClause

end ParamSql
