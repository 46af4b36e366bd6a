import ParamSql.Proofs.Filter.Parser

/-!
# Parsing what was written

The text of a tree is parsed to the tree itself, provided that its columns and operators are single
words. The parser is followed through the text of a term, then through the texts of the children of
a group, with what comes behind left open.
-/
namespace ParamSql.Filter

/-- A text that is read as a single word. -/
def Token.IsWord (text : String) : Prop := Token.ofText text = [.word text]

/-- Terms whose text is read back: of a column and an operator that are words, or with one of the
two operators that have a notation of their own. -/
inductive Term.Readable : Term → Prop
  | compared {column operator : String} (column_word : Token.IsWord column)
      (operator_word : Token.IsWord operator) : Readable ⟨column, operator, 1⟩
  | membership {column : String} {count : Nat} (column_word : Token.IsWord column)
      (some : count ≠ 0) : Readable ⟨column, "IN", count⟩
  | range {column : String} (column_word : Token.IsWord column) : Readable ⟨column, "BETWEEN", 2⟩

theorem Token.marks_succ (count : Nat) :
    marks (count + 1) = .mark :: (List.replicate count [comma, mark]).flatten := by
  induction count with
  | zero => rfl
  | succ count ih =>
    have next : marks (count + 2) = .mark :: .comma :: marks (count + 1) := by
      simp [marks, List.replicate_succ]
    rw [next, ih, List.replicate_succ, List.flatten_cons]
    rfl

variable (top : Frame) (below : List Frame) (rest : List Token)

theorem parseMarks_replicate (column : String) (count more : Nat) :
    parseMarks column count top below
        ((List.replicate more [Token.comma, Token.mark]).flatten ++ .closing :: rest) =
      parseOperator (top.add (.leaf ⟨column, "IN", count + more⟩)) below rest := by
  induction more generalizing count with
  | zero => simp [parseMarks]
  | succ more ih =>
    have step := ih (count + 1)
    rw [List.replicate_succ, List.flatten_cons]
    simp only [List.cons_append, List.nil_append, parseMarks, step]
    rw [Nat.add_assoc, Nat.add_comm 1 more]

theorem ofText_term (term : Term) : Token.ofText term.text =
    Token.ofText term.column ++ Token.ofText term.operator ++
      Token.ofText ((Operator.mk term.operator).placeholder term.placeholders) := by
  rw [Term.text, Token.separates_space, Token.separates_space]
  simp

/-- An operator that is a word has the placeholder of one value. -/
theorem placeholder_of_isWord {operator : String} (is_word : Token.IsWord operator) :
    (Operator.mk operator).placeholder 1 = "?" := by
  have not_membership : Operator.mk operator ≠ .membership := by
    intro same
    obtain rfl : operator = "IN" := Operator.mk.inj same
    cases is_word
  have not_range : Operator.mk operator ≠ .range := by
    intro same
    obtain rfl : operator = "BETWEEN" := Operator.mk.inj same
    cases is_word
  rw [Operator.placeholder, if_neg not_membership, if_neg not_range]

theorem parseFactor_term {term : Term} (readable : term.Readable) :
    parseFactor top below (Token.ofText term.text ++ rest) =
      parseOperator (top.add (.leaf term)) below rest := by
  rw [ofText_term]
  cases readable with
  | @compared column operator column_word operator_word =>
    have question : Token.ofText "?" = [.mark] := rfl
    rw [placeholder_of_isWord operator_word, question, column_word, operator_word]
    rfl
  | @membership column count column_word present =>
    obtain ⟨more, rfl⟩ := Nat.exists_eq_succ_of_ne_zero present
    have keyword : Token.ofText "IN" = [.in] := rfl
    have placeholder : (Operator.mk "IN").placeholder (more + 1) = Placeholder.tuple (more + 1) :=
      rfl
    rw [column_word, keyword, placeholder, Token.ofText_tuple, Token.marks_succ]
    simp only [List.cons_append, List.nil_append, List.append_assoc, parseFactor,
      parseMarks_replicate]
    rw [Nat.add_comm 1 more]
  | range column_word =>
    have keyword : Token.ofText "BETWEEN" = [.between] := rfl
    have placeholder : Token.ofText ((Operator.mk "BETWEEN").placeholder 2) =
        [.mark, .and, .mark] := rfl
    rw [column_word, keyword, placeholder]
    rfl

namespace Tree

mutual

/-- Every leaf can be read back, and exactly the groups with more than one child have a
connective. -/
def Readable : Tree → Prop
  | .leaf term => term.Readable
  | .group connective children =>
    children ≠ [] ∧ (connective = none ↔ children.length = 1) ∧ AllReadable children

def AllReadable : List Tree → Prop
  | [] => True
  | child :: rest => Readable child ∧ AllReadable rest

end

end Tree

namespace Frame

/-- The frame after an expression of the factors, all joined by the connective. -/
def join (connective : Connective) (frame : Frame) : List Tree → Frame
  | [] => frame
  | [factor] => frame.add factor
  | factor :: rest => join connective ((frame.add factor).proceed connective) rest

theorem join_cons (connective : Connective) (frame : Frame) (factor : Tree) {rest : List Tree}
    (more : rest ≠ []) : frame.join connective (factor :: rest) =
      ((frame.add factor).proceed connective).join connective rest := by
  cases rest with
  | nil => contradiction
  | cons second rest => rfl

theorem join_and (frame : Frame) {factors : List Tree} (present : factors ≠ []) :
    frame.join .and factors = ⟨frame.alternatives, frame.factors ++ factors⟩ := by
  induction factors generalizing frame with
  | nil => contradiction
  | cons factor rest ih =>
    by_cases more : rest = []
    · subst more
      rfl
    · rw [join_cons _ _ _ more, ih _ more]
      simp [proceed, add]

theorem join_or (alternatives : List (List Tree)) (factors : List Tree) (last : Tree) :
    (⟨alternatives, []⟩ : Frame).join .or (factors ++ [last]) =
      ⟨alternatives ++ factors.map ([·]), [last]⟩ := by
  induction factors generalizing alternatives with
  | nil => simp [join, add]
  | cons factor rest ih =>
    rw [List.cons_append, join_cons _ _ _ (by simp)]
    simp only [proceed, divide, add, List.nil_append, ih]
    simp

/-- The frame of all children of a group is the group, once it is closed. -/
theorem enclosed_join {connective : Option Connective} {children : List Tree}
    (present : children ≠ []) (shape : connective = none ↔ children.length = 1) :
    (start.join (connective.getD .and) children).enclosed = .group connective children := by
  cases connective with
  | none =>
    obtain ⟨child, rfl⟩ := List.length_eq_one_iff.mp (shape.mp rfl)
    rfl
  | some connective =>
    have several : children.length ≠ 1 := fun single => nomatch shape.mpr single
    cases connective with
    | and =>
      rw [Option.getD_some, join_and _ present]
      rcases children with _ | ⟨first, _ | ⟨second, rest⟩⟩
      · contradiction
      · simp at several
      · rfl
    | or =>
      obtain ⟨factors, last, rfl⟩ := List.eq_nil_or_concat' children |>.resolve_left present
      have before : factors ≠ [] := by
        rintro rfl
        simp at several
      obtain ⟨first, rest, rfl⟩ := List.exists_cons_of_ne_nil before
      rw [Option.getD_some, start, join_or]
      simp [enclosed, expression, conjunction, Function.comp_def]

end Frame

/-- The token of the keyword. -/
def Token.ofConnective : Connective → Token
  | .and => .and
  | .or => .or

theorem separates_connective (connective : Connective) :
    Token.Separates connective.separator [Token.ofConnective connective] := by
  have keyword : Token.ofText connective.keyword = [Token.ofConnective connective] := by
    cases connective <;> rfl
  rw [← keyword]
  exact Token.separates_spaced connective.keyword

theorem parseOperator_token (connective : Connective) :
    parseOperator top below (.ofConnective connective :: rest) =
      parseFactor (top.proceed connective) below rest := by
  cases connective <;> rfl

mutual

theorem parseFactor_tree : ∀ {tree : Tree}, tree.Readable → ∀ top below rest,
    parseFactor top below (Token.ofText tree.text ++ rest) =
      parseOperator (top.add tree) below rest
  | .leaf term, readable, top, below, rest => parseFactor_term top below rest readable
  | .group connective children, ⟨present, shape, readable⟩, top, below, rest => by
    have inside := parseFactor_trees (connective.getD .and) present readable .start (top :: below)
      (.closing :: rest)
    rw [Tree.text, Token.ofText_parenthesized, (separates_connective _).intercalate]
    simp only [List.cons_append, List.append_assoc, List.nil_append, parseFactor, inside,
      parseOperator, Frame.enclosed_join present shape]

theorem parseFactor_trees (connective : Connective) : ∀ {children : List Tree}, children ≠ [] →
    Tree.AllReadable children → ∀ top below rest,
    parseFactor top below
        ([Token.ofConnective connective].intercalate ((Tree.texts children).map Token.ofText) ++
          rest) =
      parseOperator (top.join connective children) below rest
  | [], present, _, _, _, _ => absurd rfl present
  | [child], _, ⟨readable, _⟩, top, below, rest => by
    simpa [Tree.texts, Frame.join] using parseFactor_tree readable top below rest
  | child :: second :: more, _, ⟨readable, others⟩, top, below, rest => by
    have later := parseFactor_trees connective (List.cons_ne_nil second more) others
    rw [Tree.texts, List.map_cons, List.intercalate_cons_of_ne_nil (by simp [Tree.texts])]
    rw [List.append_assoc, List.append_assoc, parseFactor_tree readable, List.cons_append,
      parseOperator_token, List.nil_append, later]
    rfl

end

/-- A readable tree is what its text is parsed to. -/
theorem parse_text {tree : Tree} (readable : tree.Readable) : parse tree.text = some tree := by
  have parsed := parseFactor_tree readable .start [] []
  rw [List.append_nil] at parsed
  rw [parse, parsed]
  rfl

/-- AND binds tighter than OR. -/
theorem parse_or_and {first second third : Term} (first_readable : first.Readable)
    (second_readable : second.Readable) (third_readable : third.Readable) :
    parse (first.text ++ Connective.or.separator ++ second.text ++ Connective.and.separator ++
        third.text) =
      some (.group (some .or)
        [.leaf first, .group (some .and) [.leaf second, .leaf third]]) := by
  have last (top : Frame) := parseFactor_term top [] [] third_readable
  simp only [List.append_nil] at last
  rw [parse, separates_connective, separates_connective, List.append_assoc, List.append_assoc,
    List.append_assoc, parseFactor_term _ _ _ first_readable, List.cons_append, List.nil_append,
    parseOperator_token, parseFactor_term _ _ _ second_readable, List.cons_append,
    List.nil_append, parseOperator_token, last]
  rfl

end ParamSql.Filter
