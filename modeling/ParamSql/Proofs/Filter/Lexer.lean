import ParamSql.Proofs.Filter.Tree

/-!
# Words and marks of a condition

The text of a condition is read as a row of tokens. Parentheses, commas and question marks are
tokens of their own, spaces separate, and any other run of characters is a word; four words are
keywords, whatever the case of their letters.
-/
namespace ParamSql.Filter

inductive Token where
  | opening | closing | comma | mark
  | and | or | in | between
  | word (text : String)
  deriving DecidableEq, Repr

namespace Token

/-- The keyword that a word is, if it is one. -/
def keyword? (word : List Char) : Option Token :=
  let folded := word.map Char.toUpper
  if folded = "AND".toList then some .and
  else if folded = "OR".toList then some .or
  else if folded = "IN".toList then some .in
  else if folded = "BETWEEN".toList then some .between
  else none

/-- The token of a run of characters that do not separate. -/
def ofWord (word : List Char) : Token := (keyword? word).getD (.word (String.ofList word))

/-- What a separating character stands for; none for a character of a word. -/
def separator? : Char → Option (List Token)
  | ' ' => some []
  | '(' => some [.opening]
  | ')' => some [.closing]
  | ',' => some [.comma]
  | '?' => some [.mark]
  | _ => none

/-- The word read so far, if any. -/
def ofRun (run : List Char) : List Token := if run.isEmpty then [] else [ofWord run]

/-- The tokens of a text behind the beginning of a word. -/
def ofChars (run : List Char) : List Char → List Token
  | [] => ofRun run
  | c :: rest =>
    match separator? c with
    | some tokens => ofRun run ++ tokens ++ ofChars [] rest
    | none => ofChars (run ++ [c]) rest

def ofText (text : String) : List Token := ofChars [] text.toList

theorem ofChars_append (run left right : List Char) {c : Char} {tokens : List Token}
    (separates : separator? c = some tokens) :
    ofChars run (left ++ c :: right) = ofChars run left ++ tokens ++ ofChars [] right := by
  induction left generalizing run with
  | nil => simp [ofChars, separates]
  | cons first rest ih =>
    simp only [List.cons_append, ofChars]
    cases separator? first with
    | none => exact ih _
    | some found => simp [ih]

/-- The text between two others separates them, and stands for the tokens. -/
def Separates (separator : String) (tokens : List Token) : Prop :=
  ∀ left right, ofText (left ++ separator ++ right) = ofText left ++ tokens ++ ofText right

theorem separates_space : Separates " " [] := by
  intro left right
  have space : separator? ' ' = some [] := rfl
  simpa [ofText] using ofChars_append [] left.toList right.toList space

theorem separates_comma : Separates "," [.comma] := by
  intro left right
  have comma : separator? ',' = some [.comma] := rfl
  simpa [ofText] using ofChars_append [] left.toList right.toList comma

/-- A text between spaces separates, with its own tokens. -/
theorem separates_spaced (text : String) : Separates (" " ++ text ++ " ") (ofText text) := by
  intro left right
  have before := separates_space (left ++ " " ++ text) right
  have behind := separates_space left text
  rw [List.append_nil] at before behind
  rw [← String.append_assoc, ← String.append_assoc, before, behind]

theorem Separates.intercalate {separator : String} {tokens : List Token}
    (separates : Separates separator tokens) (texts : List String) :
    ofText (separator.intercalate texts) = tokens.intercalate (texts.map ofText) := by
  induction texts with
  | nil => rfl
  | cons first rest ih =>
    cases rest with
    | nil => simp
    | cons second rest =>
      rw [String.intercalate_cons_cons, separates, ih]
      simp

theorem ofText_parenthesized (text : String) :
    ofText ("( " ++ text ++ " )") = .opening :: ofText text ++ [.closing] := by
  have behind := separates_space ("( " ++ text) ")"
  have opening : ofText ("( " ++ text) = .opening :: ofText text := by
    simp [ofText, ofChars, separator?, ofRun]
  have closing : ofText ")" = [.closing] := rfl
  have joined : " " ++ ")" = " )" := by decide
  rw [List.append_nil, opening, closing, String.append_assoc, joined] at behind
  exact behind

theorem ofChars_unbroken (run : List Char) {word : List Char}
    (unbroken : ∀ c ∈ word, separator? c = none) : ofChars run word = ofRun (run ++ word) := by
  induction word generalizing run with
  | nil => simp [ofChars]
  | cons c rest ih =>
    obtain ⟨here, later⟩ := List.forall_mem_cons.mp unbroken
    simp [ofChars, here, ih _ later]

/-- A text without separators is one word. -/
theorem ofText_unbroken {text : String} (present : text ≠ "")
    (unbroken : ∀ c ∈ text.toList, separator? c = none) :
    ofText text = [ofWord text.toList] := by
  have chars : text.toList ≠ [] := by simpa using present
  simp [ofText, ofChars_unbroken [] unbroken, ofRun, chars]

/-- The tokens between the parentheses of a tuple of placeholders. -/
def marks (count : Nat) : List Token := [comma].intercalate (List.replicate count [mark])

theorem ofText_tuple (count : Nat) :
    ofText (Placeholder.tuple count) = .opening :: marks count ++ [.closing] := by
  have question : ofText "?" = [.mark] := rfl
  rw [Placeholder.tuple, ofText_parenthesized, separates_comma.intercalate, List.map_replicate,
    question, marks]

end Token

end ParamSql.Filter
