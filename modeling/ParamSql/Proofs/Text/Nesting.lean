import ParamSql.Proofs.Text.Avoids

/-!
# Parentheses in a text

How many parentheses are open at each place of a text: where a mark stands in it, and which parts it
has between the commas that stand outside all parentheses.
-/
namespace ParamSql.Text

/-- The number of open parentheses behind one more character. -/
def depthAfter (depth : Nat) (c : Char) : Nat :=
  if c = '(' then depth + 1 else if c = ')' then depth - 1 else depth

/-- The number of parentheses that the text leaves open. -/
def depth (text : String) : Nat := text.toList.foldl depthAfter 0

/-- No parenthesis stands in the text. -/
abbrev Unparenthesized (text : String) : Prop := Avoids '(' text ∧ Avoids ')' text

/-- Upper-casing brings in no blanks. -/
theorem uncased_blank : Uncased ' ' :=
  uncased_of_outside (by decide) (by decide +kernel) (by decide +kernel)

/-- Upper-casing brings in no commas. -/
theorem uncased_comma : Uncased ',' :=
  uncased_of_outside (by decide) (by decide +kernel) (by decide +kernel)

/-- Upper-casing brings in no parentheses. -/
theorem unparenthesized_uppercase {text : String} (plain : Unparenthesized text) :
    Unparenthesized (uppercase text) := by
  have opening : Uncased '(' :=
    uncased_of_outside (by decide) (by decide +kernel) (by decide +kernel)
  have closing : Uncased ')' :=
    uncased_of_outside (by decide) (by decide +kernel) (by decide +kernel)
  exact ⟨avoids_uppercase opening plain.1, avoids_uppercase closing plain.2⟩

theorem depthAfter_of_ne {c : Char} (opening : c ≠ '(') (closing : c ≠ ')') (depth : Nat) :
    depthAfter depth c = depth := by
  rw [depthAfter, if_neg opening, if_neg closing]

/-! ### The depths of a mark -/

/-- The depths at which a mark stands in a text that begins at a depth. -/
def depthsFrom (mark : List Char) (depth : Nat) : List Char → List Nat
  | [] => []
  | c :: rest =>
    if mark <+: c :: rest then depth :: depthsFrom mark (depthAfter depth c) rest
    else depthsFrom mark (depthAfter depth c) rest

/-- The depths at which a mark stands in a text, from left to right. -/
def depthsOf (mark text : String) : List Nat := depthsFrom mark.toList 0 text.toList

/-- A mark stands at the beginning of a text, or behind its first character. -/
theorem exists_split_cons_iff {mark rest : List Char} {c : Char} {start found : Nat} :
    (∃ before after, c :: rest = before ++ mark ++ after ∧
        before.foldl depthAfter start = found) ↔
      (mark <+: c :: rest ∧ start = found) ∨ ∃ before after, rest = before ++ mark ++ after ∧
        before.foldl depthAfter (depthAfter start c) = found := by
  constructor
  · rintro ⟨before, after, split, here⟩
    cases before with
    | nil => exact .inl ⟨⟨after, split.symm⟩, here⟩
    | cons d before =>
      obtain ⟨rfl, behind⟩ := List.cons.inj split
      exact .inr ⟨before, after, behind, here⟩
  · rintro (⟨⟨after, split⟩, here⟩ | ⟨before, after, rfl, here⟩)
    · exact ⟨[], after, split.symm, here⟩
    · exact ⟨c :: before, after, rfl, here⟩

theorem mem_depthsFrom_iff {mark : List Char} (present : mark ≠ []) {text : List Char}
    {start found : Nat} :
    found ∈ depthsFrom mark start text ↔
      ∃ before after, text = before ++ mark ++ after ∧
        before.foldl depthAfter start = found := by
  induction text generalizing start with
  | nil => simp [depthsFrom, present]
  | cons c rest ih =>
    rw [exists_split_cons_iff, ← ih, depthsFrom]
    split
    · next here => simp [here, eq_comm]
    · next absent => simp [absent]

theorem depthsFrom_cons_of_not_prefix {mark rest : List Char} {c : Char} (start : Nat)
    (absent : ¬ mark <+: c :: rest) :
    depthsFrom mark start (c :: rest) = depthsFrom mark (depthAfter start c) rest := by
  rw [depthsFrom, if_neg absent]

/-- Only where its first character stands, a mark stands. -/
theorem depthsFrom_cons_of_ne {mark rest : List Char} {first c : Char} (start : Nat)
    (other : c ≠ first) : depthsFrom (first :: mark) start (c :: rest) =
      depthsFrom (first :: mark) (depthAfter start c) rest :=
  depthsFrom_cons_of_not_prefix start fun here => other (List.cons_prefix_cons.mp here).1.symm

/-- A text without parentheses and without the first character of the mark is passed over. -/
theorem depthsFrom_append_of_avoids {mark text rest : List Char} {first : Char} (start : Nat)
    (absent : first ∉ text) (opening : '(' ∉ text) (closing : ')' ∉ text) :
    depthsFrom (first :: mark) start (text ++ rest) = depthsFrom (first :: mark) start rest := by
  induction text with
  | nil => rfl
  | cons c text ih =>
    simp only [List.mem_cons, not_or] at absent opening closing
    rw [List.cons_append, depthsFrom_cons_of_ne start (Ne.symm absent.1),
      depthAfter_of_ne (Ne.symm opening.1) (Ne.symm closing.1),
      ih absent.2 opening.2 closing.2]

/-- The mark stands outside all parentheses wherever it stands in the text. -/
def Outside (mark text : String) : Prop :=
  ∀ before after, text = before ++ mark ++ after → depth before = 0

theorem outside_iff {mark text : String} (present : mark ≠ "") :
    Outside mark text ↔ ∀ found ∈ depthsOf mark text, found = 0 := by
  have some : mark.toList ≠ [] := by simpa using present
  constructor
  · intro outside found member
    obtain ⟨before, after, split, here⟩ := (mem_depthsFrom_iff some).mp member
    have same : text = String.ofList before ++ mark ++ String.ofList after := by
      rw [← String.toList_inj, split]
      simp
    simpa [depth, here] using outside _ _ same
  · rintro none before after rfl
    refine none _ ((mem_depthsFrom_iff some).mpr ⟨before.toList, after.toList, ?_, rfl⟩)
    simp

/-! ### The parts between outer commas -/

/-- The parts of a text that begins at a depth, between the commas at depth zero. -/
def outerPartsFrom (depth : Nat) : List Char → List (List Char)
  | [] => [[]]
  | c :: rest =>
    if c = ',' ∧ depth = 0 then [] :: outerPartsFrom 0 rest
    else (outerPartsFrom (depthAfter depth c) rest).modifyHead (c :: ·)

/-- The parts of a text between the commas that stand outside all parentheses. -/
def outerParts (text : String) : List String := (outerPartsFrom 0 text.toList).map String.ofList

/-- In front of anything, the text lies within one part. -/
def Undivided (depth : Nat) (text : String) : Prop :=
  ∀ rest, outerPartsFrom depth (text.toList ++ rest) =
    (outerPartsFrom depth rest).modifyHead (text.toList ++ ·)

namespace Undivided

variable {depth : Nat} {first second : String}

theorem empty : Undivided depth "" := fun rest => by
  rw [String.toList_empty, List.nil_append]
  exact (congrFun List.modifyHead_id _).symm

theorem append (here : Undivided depth first) (there : Undivided depth second) :
    Undivided depth (first ++ second) := fun rest => by
  rw [String.toList_append, List.append_assoc, here, there, List.modifyHead_modifyHead]
  simp [Function.comp_def]

/-- A text without parentheses is undivided, and at depth zero if it has no commas either. -/
theorem of_unparenthesized {text : String} (plain : Unparenthesized text)
    (commas : depth = 0 → Avoids ',' text) : Undivided depth text := by
  intro rest
  have opening : '(' ∉ text.toList := plain.1
  have closing : ')' ∉ text.toList := plain.2
  have comma : depth = 0 → ',' ∉ text.toList := commas
  generalize text.toList = chars at *
  induction chars with
  | nil => exact (congrFun List.modifyHead_id _).symm
  | cons c chars ih =>
    simp only [List.mem_cons, not_or] at opening closing comma
    have inside : ¬ (c = ',' ∧ depth = 0) := fun divided => (comma divided.2).1 divided.1.symm
    rw [List.cons_append, outerPartsFrom, if_neg inside,
      depthAfter_of_ne (Ne.symm opening.1) (Ne.symm closing.1),
      ih opening.2 closing.2 fun here => (comma here).2, List.modifyHead_modifyHead]
    rfl

/-- A text in parentheses is undivided when it is undivided one level deeper. -/
theorem parenthesized {text : String} (inside : Undivided (depth + 1) text) :
    Undivided depth ("(" ++ text ++ ")") := by
  intro rest
  have closed : outerPartsFrom (depth + 1) (')' :: rest) =
      (outerPartsFrom depth rest).modifyHead (')' :: ·) := rfl
  have split : ("(" ++ text ++ ")").toList ++ rest = '(' :: (text.toList ++ ')' :: rest) := by
    simp
  rw [split, outerPartsFrom, if_neg (by simp), show depthAfter depth '(' = depth + 1 from rfl,
    inside, closed, List.modifyHead_modifyHead, List.modifyHead_modifyHead]
  simp [Function.comp_def]

end Undivided

/-- Every parenthesis of the text has its counterpart in the text. -/
inductive Balanced : String → Prop
  | plain {text : String} (plain : Unparenthesized text) : Balanced text
  | append {first second : String} (here : Balanced first) (there : Balanced second) :
    Balanced (first ++ second)
  | parenthesized {text : String} (inside : Balanced text) : Balanced ("(" ++ text ++ ")")

theorem Balanced.intercalate {separator : String} (plain : Unparenthesized separator)
    {texts : List String} (each : ∀ text ∈ texts, Balanced text) :
    Balanced (separator.intercalate texts) := by
  induction texts with
  | nil => exact .plain ⟨avoids_empty, avoids_empty⟩
  | cons text rest ih =>
    obtain ⟨here, there⟩ := List.forall_mem_cons.mp each
    cases rest with
    | nil => simpa using here
    | cons next rest =>
      rw [String.intercalate_cons_cons]
      exact (here.append (.plain plain)).append (ih there)

/-- Within parentheses a balanced text is undivided, its commas notwithstanding. -/
theorem Balanced.undivided {text : String} (balanced : Balanced text) :
    ∀ depth : Nat, Undivided (depth + 1) text := by
  induction balanced with
  | plain plain => exact fun _ => .of_unparenthesized plain nofun
  | append _ _ here there => exact fun depth => (here depth).append (there depth)
  | parenthesized _ inside => exact fun depth => .parenthesized (inside (depth + 1))

end ParamSql.Text
