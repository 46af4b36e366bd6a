import ParamSql.Name
import ParamSql.Text.Uppercase

/-!
# Texts without a character

When the texts that a statement is put together from avoid a character, so does the statement. No
operation on names brings in a character either: quoting adds backticks only, and upper-casing adds
only what some mapping leads to.
-/
namespace ParamSql

namespace Text

/-- The character does not stand in the text. -/
def Avoids (c : Char) (text : String) : Prop := c ∉ text.toList

instance (c : Char) (text : String) : Decidable (Avoids c text) :=
  inferInstanceAs (Decidable (c ∉ text.toList))

variable {c : Char}

@[simp] theorem avoids_empty : Avoids c "" := by simp [Avoids]

@[simp] theorem avoids_append {first second : String} :
    Avoids c (first ++ second) ↔ Avoids c first ∧ Avoids c second := by
  simp [Avoids]

theorem avoids_intercalate {separator : String} {texts : List String}
    (separated : Avoids c separator) (each : ∀ text ∈ texts, Avoids c text) :
    Avoids c (separator.intercalate texts) := by
  induction texts with
  | nil => simp
  | cons text rest ih =>
    obtain ⟨first, others⟩ := List.forall_mem_cons.mp each
    cases rest with
    | nil => simpa using first
    | cons next rest =>
      rw [String.intercalate_cons_cons, avoids_append, avoids_append]
      exact ⟨⟨first, separated⟩, ih others⟩

theorem avoids_quote {name : String} (apart : c ≠ Name.delimiter) :
    Avoids c (Name.quote name) ↔ Avoids c name := by
  simp [Avoids, Name.toList_quote, apart]

/-- No mapping to upper case leads to the character from another one. -/
def Uncased (c : Char) : Prop :=
  (∀ entry ∈ caseExpansions, c ∉ entry.2.map Char.ofNat) ∧
  ∀ run ∈ caseRuns, ∀ code, run.holds code = true → c ≠ Char.ofNat (code + run.shift).toNat

theorem Uncased.mem_upperChar {d : Char} (uncased : Uncased c) (member : c ∈ upperChar d) :
    c = d := by
  unfold upperChar at member
  split at member
  · next codes found =>
    obtain ⟨before, after, split, -⟩ := List.lookup_eq_some_iff.mp found
    exact absurd member (uncased.1 (d.toNat, codes) (split ▸ by simp))
  · split at member
    · next run found =>
      have holds := List.find?_some found
      have listed := List.mem_of_find?_eq_some found
      exact absurd (List.mem_singleton.mp member) (uncased.2 run listed d.toNat holds)
    · exact List.mem_singleton.mp member

theorem avoids_uppercase {text : String} (uncased : Uncased c) (avoids : Avoids c text) :
    Avoids c (uppercase text) := by
  intro member
  rw [toList_uppercase, List.mem_flatMap] at member
  obtain ⟨d, inside, upper⟩ := member
  exact avoids (uncased.mem_upperChar upper ▸ inside)

theorem upperChar_ne_nil (c : Char) : upperChar c ≠ [] := by
  have expanded : ∀ entry ∈ caseExpansions, entry.2.map Char.ofNat ≠ [] := by decide +kernel
  unfold upperChar
  split
  · next codes found =>
    obtain ⟨before, after, split, -⟩ := List.lookup_eq_some_iff.mp found
    exact expanded (c.toNat, codes) (split ▸ by simp)
  · split <;> exact List.cons_ne_nil _ _

/-- Upper-casing does not empty a text. -/
theorem uppercase_ne_empty {text : String} (present : text ≠ "") : uppercase text ≠ "" := by
  obtain ⟨c, inside⟩ := List.exists_mem_of_ne_nil _ (mt String.toList_eq_nil_iff.mp present)
  obtain ⟨d, upper⟩ := List.exists_mem_of_ne_nil _ (upperChar_ne_nil c)
  have member : d ∈ (uppercase text).toList := by
    rw [toList_uppercase]
    exact List.mem_flatMap.mpr ⟨c, inside, upper⟩
  exact fun empty => by simp [empty] at member

/-- A number that gives a character other than the null character is its code. -/
theorem toNat_ofNat {code : Nat} (positive : 0 < (Char.ofNat code).toNat) :
    (Char.ofNat code).toNat = code := by
  by_cases valid : code.isValidChar
  · have encoded : Char.ofNat code = Char.ofNatAux code valid := dif_pos valid
    rw [encoded]
    rfl
  · have null : Char.ofNat code = '\x00' := dif_neg valid
    rw [null] at positive
    exact absurd positive (by decide)

/-- A character is uncased if no mapping to several characters has it, and if it lies outside the
interval to which each run of mappings leads. -/
theorem uncased_of_outside (positive : 0 < c.toNat)
    (expansions : ∀ entry ∈ caseExpansions, c ∉ entry.2.map Char.ofNat)
    (runs : ∀ run ∈ caseRuns, (c.toNat : Int) < run.first + run.shift ∨
      run.last + run.shift < (c.toNat : Int)) : Uncased c := by
  refine ⟨expansions, ?_⟩
  intro run listed code holds same
  have within : run.first ≤ code ∧ code ≤ run.last := by
    simp only [CaseRun.holds, Bool.and_eq_true, decide_eq_true_eq] at holds
    exact holds.1
  have code_eq : c.toNat = (code + run.shift).toNat := by
    rw [same] at positive ⊢
    exact toNat_ofNat positive
  have outside := runs run listed
  omega

/-- Upper-casing brings in no question marks. -/
theorem uncased_questionMark : Uncased '?' :=
  uncased_of_outside (by decide) (by decide +kernel) (by decide +kernel)

/-- Upper-casing brings in no backticks. -/
theorem uncased_delimiter : Uncased Name.delimiter :=
  uncased_of_outside (by decide) (by decide +kernel) (by decide +kernel)

/-- Without question marks: the text has no placeholder, and nothing that looks like one. -/
abbrev Unmarked (text : String) : Prop := Avoids '?' text

theorem unmarked_quote {name : String} : Unmarked (Name.quote name) ↔ Unmarked name :=
  avoids_quote (by decide)

end Text

end ParamSql
