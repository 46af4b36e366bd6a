import ParamSql.Proofs.Filter.Readable

/-!
# Reading a filter back from its text

The text of an accepted filter determines what the filter means: parsed, it gives the tree of the
filter. This takes names that are written in letters, digits and underscores, and operators that
cannot be mistaken for keywords.
-/
namespace ParamSql.Filter

/-- A name of ASCII letters, digits and underscores. -/
structure PlainName (name : String) : Prop where
  present : name ≠ ""
  chars : ∀ c ∈ name.toList, c.isAlphanum = true ∨ c = '_'

/-- An operator of ASCII letters and comparison signs that is none of the keywords. -/
structure PlainOperator (operator : String) : Prop where
  present : operator ≠ ""
  chars : ∀ c ∈ operator.toList, c.isAlpha = true ∨ c ∈ ['<', '>', '=', '!']
  no_keyword : ∀ keyword ∈ ["AND", "OR", "IN", "BETWEEN"],
    operator.toList.map Char.toUpper ≠ keyword.toList

/-- The column of a condition and the operator that the caller gives, if there is one, are plain. -/
def Condition.Plain : Condition → Prop
  | .bare column => PlainName column
  | .entry column value => PlainName column ∧ ∀ operator operand,
    value = .map ⟨[(operator, operand)]⟩ → Directive.isKey operator = false →
      PlainOperator operator

theorem separator?_eq_none {c : Char}
    (kind : c.isAlphanum = true ∨ c ∈ ['_', Name.delimiter, '.', '<', '>', '=', '!']) :
    Token.separator? c = none := by
  unfold Token.separator?
  split <;> simp_all [Name.delimiter]

theorem isWord_of_chars {text : String} (present : text ≠ "")
    (chars : ∀ c ∈ text.toList, Token.separator? c = none)
    (no_keyword : Token.keyword? text.toList = none) : Token.IsWord text := by
  rw [Token.IsWord, Token.ofText_unbroken present chars, Token.ofWord, no_keyword]
  simp

theorem PlainOperator.isWord {operator : String} (plain : PlainOperator operator) :
    Token.IsWord operator := by
  refine isWord_of_chars plain.present ?_ ?_
  · intro c member
    apply separator?_eq_none
    rcases plain.chars c member with letter | sign
    · exact .inl (by simp [Char.isAlphanum, letter])
    · exact .inr (by simp_all)
  · have differs := plain.no_keyword
    simp only [List.forall_mem_cons] at differs
    obtain ⟨not_and, not_or, not_in, not_between, -⟩ := differs
    rw [Token.keyword?, if_neg not_and, if_neg not_or, if_neg not_in, if_neg not_between]

theorem PlainName.isQualified {name : String} (plain : PlainName name) :
    Name.isQualified name = false := by
  rw [Name.isQualified, List.any_eq_false]
  intro c member qualified
  rcases plain.chars c member with letter | underscore
  · rcases (by simpa using qualified) with rfl | rfl <;> simp [Name.delimiter] at letter
  · subst underscore
    simp [Name.delimiter] at qualified

/-- A text that begins with a quoted name and goes on with letters, digits, underscores, backticks
and points is a word. -/
theorem isWord_of_quoted {text : String} {rest : List Char}
    (quoted : text.toList = Name.delimiter :: rest)
    (chars : ∀ c ∈ text.toList, c.isAlphanum = true ∨ c ∈ ['_', Name.delimiter, '.']) :
    Token.IsWord text := by
  refine isWord_of_chars ?_ ?_ ?_
  · rintro rfl
    cases quoted
  · intro c member
    apply separator?_eq_none
    rcases chars c member with letter | sign
    · exact .inl letter
    · exact .inr (List.mem_append_left ['<', '>', '=', '!'] sign)
  · simp [quoted, Token.keyword?, Name.delimiter]

theorem PlainName.chars_quote {name : String} (plain : PlainName name) :
    ∀ c ∈ (Name.quote name).toList, c.isAlphanum = true ∨ c ∈ ['_', Name.delimiter, '.'] := by
  intro c member
  rw [Name.toList_quote] at member
  rcases List.mem_cons.mp member with rfl | member
  · simp
  · rcases List.mem_append.mp member with inside | closing
    · rcases plain.chars c inside with letter | rfl
      · exact .inl letter
      · simp
    · simp_all

/-- A plain name is written as a word, quoted and prefixed or not. -/
theorem PlainName.isWord_column {scope : Scope} {name : String} (plain : PlainName name)
    (alias_plain : PlainName scope.defaultAlias) (prefixed : Bool) :
    Token.IsWord (scope.column name prefixed) := by
  have quoted : Token.IsWord (Name.quote name) :=
    isWord_of_quoted (Name.toList_quote name) plain.chars_quote
  rw [Scope.column, plain.isQualified, if_neg Bool.false_ne_true]
  split
  · rw [Scope.qualify]
    split
    · exact quoted
    · have text : (Name.quote scope.defaultAlias ++ "." ++ Name.quote name).toList =
          (Name.quote scope.defaultAlias).toList ++ '.' :: (Name.quote name).toList := by
        simp
      apply isWord_of_quoted (text.trans (by rw [Name.toList_quote, List.cons_append]))
      intro c member
      rw [text] at member
      rcases List.mem_append.mp member with before | behind
      · exact alias_plain.chars_quote c before
      · rcases List.mem_cons.mp behind with rfl | behind
        · simp
        · exact plain.chars_quote c behind
  · exact quoted

variable {column : String → String}

/-- The term of a plain condition that is accepted can be read back. -/
theorem Condition.readable_term {condition : Condition} {leaf : SearchCondition.Leaf}
    (described : condition.Describes leaf) (plain : condition.Plain)
    (words : ∀ name, PlainName name → Token.IsWord (column name)) :
    (condition.term column).Readable := by
  have equals : Token.IsWord "=" := rfl
  cases described with
  | bare _ => exact .compared (words _ plain) equals
  | entry _ described =>
    obtain ⟨name_plain, operator_plain⟩ := plain
    cases described with
    | equality _ => exact .compared (words _ name_plain) equals
    | membership known _ present =>
      simp only [Condition.term, known]
      exact .membership (words _ name_plain) (by simpa using present)
    | range known _ two =>
      simp only [Condition.term, known, List.length_map, two]
      exact .range (words _ name_plain)
    | raw known _ =>
      simp only [Condition.term, known]
      have no_directive := Directive.read_eq_none_iff.mp known
      exact .compared (words _ name_plain) (operator_plain _ _ rfl no_directive).isWord

theorem Tree.readable_enclose {connective : Connective} {children : List Tree} {tree : Tree}
    (found : Tree.enclose connective children = some tree) (readable : Tree.AllReadable children) :
    tree.Readable := by
  rcases children with _ | ⟨first, _ | ⟨second, rest⟩⟩
  · cases found
  · cases found
    exact ⟨List.cons_ne_nil _ _, by simp, readable⟩
  · cases found
    exact ⟨List.cons_ne_nil _ _, by simp, readable⟩

theorem Tree.allReadable_enclose {connective : Connective} {children rest : List Tree}
    (readable : Tree.AllReadable children) (others : Tree.AllReadable rest) :
    Tree.AllReadable ((Tree.enclose connective children).toList ++ rest) := by
  cases found : Tree.enclose connective children with
  | none => exact others
  | some tree => exact ⟨Tree.readable_enclose found readable, others⟩

/-- The tree of a plain filter that is accepted can be read back. -/
theorem readable_tree {spec : Value} {condition : SearchCondition}
    (success : SearchCondition.read spec = .ok condition)
    (plain : ∀ given ∈ conditions spec, given.Plain)
    (words : ∀ name, PlainName name → Token.IsWord (column name)) {ambient : Connective}
    {found : Tree} (is_tree : tree column ambient spec = some found) : found.Readable := by
  have kept : SearchCondition.KeptByReading
      (fun spec _ => (∀ given ∈ conditions spec, given.Plain) → ∀ ambient found,
        tree column ambient spec = some found → found.Readable)
      (fun items _ => (∀ given ∈ itemConditions items, given.Plain) → ∀ ambient,
        Tree.AllReadable (itemTrees column ambient items))
      (fun entries _ => (∀ given ∈ entryConditions entries, given.Plain) → ∀ ambient,
        Tree.AllReadable (entryTrees column ambient entries)) :=
    { list := fun inside plain ambient _ found =>
        Tree.readable_enclose found (inside plain ambient)
      map := fun inside plain ambient _ found =>
        Tree.readable_enclose found (inside plain ambient)
      noItem := fun _ _ => trivial
      bare := fun present later plain ambient => by
        obtain ⟨here, others⟩ := List.forall_mem_cons.mp plain
        exact ⟨Condition.readable_term (.bare present) here words, later others ambient⟩
      nested := fun inside later plain ambient => by
        obtain ⟨here, others⟩ := List.forall_mem_append.mp plain
        exact Tree.allReadable_enclose (inside here ambient) (later others ambient)
      noEntry := fun _ _ => trivial
      group := fun {_ connective _ _ _ _} known inside later plain ambient => by
        cases connective <;>
          simp only [Connective.directive] at known <;>
          simp only [entryConditions, entryTrees, known] at plain ⊢ <;>
          obtain ⟨here, others⟩ := List.forall_mem_append.mp plain <;>
          exact Tree.allReadable_enclose (inside here _) (later others ambient)
      column := fun known present described later plain ambient => by
        simp only [entryConditions, entryTrees, known] at plain ⊢
        obtain ⟨here, others⟩ := List.forall_mem_cons.mp plain
        exact ⟨Condition.readable_term (.entry present described) here words,
          later others ambient⟩ }
  exact kept.of_read success plain ambient found is_tree

/-- The text of a filter can be read back to the tree of the filter: whatever the scope and the
connective, the text of an accepted filter that is not empty is parsed to exactly that tree. -/
theorem parse_compile {scope : Scope} {prefixed : Bool} {ambient : Connective} {spec : Value}
    {statement : Statement}
    (success : SearchCondition.compile scope prefixed ambient spec = .ok statement)
    (present : statement.text ≠ "") (alias_plain : PlainName scope.defaultAlias)
    (plain : ∀ given ∈ conditions spec, given.Plain) :
    ∃ found, tree (scope.column · prefixed) ambient spec = some found ∧
      parse statement.text = some found := by
  obtain ⟨condition, read, same⟩ := Outcome.bind_eq_ok.mp success
  cases same
  have text : condition.clause (scope.column · prefixed) ambient =
      ((tree (scope.column · prefixed) ambient spec).map Tree.text).getD "" :=
    clause_of_read read ambient
  cases is_tree : tree (scope.column · prefixed) ambient spec with
  | none =>
    rw [is_tree] at text
    exact absurd text present
  | some found =>
    have words : ∀ name, PlainName name → Token.IsWord (scope.column name prefixed) :=
      fun name plain => plain.isWord_column alias_plain prefixed
    have readable := readable_tree read plain words is_tree
    rw [is_tree] at text
    refine ⟨found, rfl, ?_⟩
    rw [SearchCondition.statement, text]
    exact parse_text readable

/-- A filter with an operator of the caller, a range below an OR, and a group without conditions. -/
def nestedSample : Value :=
  .map ⟨[("a", .map ⟨[("LIKE", .string "x%")]⟩),
    ("-or", .list [.map ⟨[("b", .map ⟨[("-between", .list [.integer 2, .string "9"])]⟩)]⟩,
      .string "c", .map ⟨[("-AND", .list [])]⟩])]⟩

theorem parse_compile_nestedSample :
    SearchCondition.compile (.start "me") true .and nestedSample = .ok
      ⟨"( `me`.`a` LIKE ? AND ( ( `me`.`b` BETWEEN ? AND ? ) OR `me`.`c` = ? ) )",
        [.string "x%", .integer 2, .string "9"]⟩ ∧
    ∃ found, tree ((Scope.start "me").column · true) .and nestedSample = some found ∧
      parse "( `me`.`a` LIKE ? AND ( ( `me`.`b` BETWEEN ? AND ? ) OR `me`.`c` = ? ) )" =
        some found := by
  have success : SearchCondition.compile (.start "me") true .and nestedSample = .ok
      ⟨"( `me`.`a` LIKE ? AND ( ( `me`.`b` BETWEEN ? AND ? ) OR `me`.`c` = ? ) )",
        [.string "x%", .integer 2, .string "9"]⟩ := rfl
  refine ⟨success, parse_compile success (by decide) ⟨by decide, by simp [Scope.start]⟩ ?_⟩
  intro given member
  have listed : conditions nestedSample = [.entry "a" (.map ⟨[("LIKE", .string "x%")]⟩),
      .entry "b" (.map ⟨[("-between", .list [.integer 2, .string "9"])]⟩), .bare "c"] := rfl
  rw [listed] at member
  rcases member with _ | ⟨_, _ | ⟨_, _ | ⟨_, member⟩⟩⟩
  · refine ⟨⟨by decide, by simp⟩, ?_⟩
    rintro operator operand ⟨⟩ -
    exact ⟨by decide, by simp, by decide⟩
  · refine ⟨⟨by decide, by simp⟩, ?_⟩
    rintro operator operand ⟨⟩ named
    exact absurd named (by decide)
  · exact ⟨by decide, by simp⟩
  · cases member

end ParamSql.Filter
