import ParamSql.Directive.Key
import ParamSql.Proofs.Outcome
import ParamSql.Value.Require

/-!
# Recasing

A description is recased when some of its directives, at any depth, are written in letters of
another case. What is compiled from both is compared by its outcome: the same result, or a fault of
the same category. The wording of a fault may quote a key, so it is not compared.
-/
namespace ParamSql

namespace Directive

/-- The other key is the key itself or, if the key is a directive, differs from it in the case of
ASCII letters. -/
def Recased (key other : String) : Prop :=
  other = key ∨ ∃ directive, read key = .ok (some directive) ∧ folded other = folded key

/-- Only capitals are lowered, and they become letters. -/
theorem toLower_eq_dash {c : Char} (lowered : c.toLower = '-') : c = '-' := by
  unfold Char.toLower at lowered
  split at lowered
  · next capital =>
    have code : (c.toNat + 32) % 4294967296 = 45 := by
      simpa using congrArg (fun lowered : Char => lowered.val.toNat) lowered
    have bounds : 65 ≤ c.toNat ∧ c.toNat ≤ 90 := by simpa [UInt32.le_iff_toNat_le] using capital
    omega
  · exact lowered

/-- What begins like a directive still does in other letters. -/
theorem isKey_of_folded {key other : String} (same : folded other = folded key)
    (dash : isKey key = true) : isKey other = true := by
  simp only [isKey, decide_eq_true_eq] at dash ⊢
  have heads := congrArg List.head? same
  rw [folded, folded, List.head?_map, List.head?_map, dash] at heads
  obtain ⟨first, starts, lowered⟩ := Option.map_eq_some_iff.mp heads
  rw [starts, toLower_eq_dash lowered]

theorem read_key (directive : Directive) : read directive.key = .ok (some directive) :=
  read_eq_some_iff.mpr ⟨by cases directive <;> decide, find?_key directive⟩

/-- The key is the directive, written in ASCII letters of any case. -/
def SpelledBy (directive : Directive) (key : String) : Prop := folded key = directive.key.toList

/-- A key is read as a directive when it is one of its spellings; the dash is part of them. -/
theorem read_eq_some_iff_spelledBy {key : String} {directive : Directive} :
    read key = .ok (some directive) ↔ directive.SpelledBy key := by
  rw [read_eq_some_iff, find?_eq_some_iff, SpelledBy]
  refine ⟨And.right, fun same => ⟨?_, same⟩⟩
  have canonical := find?_eq_some_iff.mp (find?_key directive)
  exact isKey_of_folded (same.trans canonical.symm) (read_eq_some_iff.mp (read_key directive)).1

theorem Recased.refl (key : String) : Recased key key := .inl rfl

/-- Every directive can be written in other letters. -/
theorem Recased.of_key {directive : Directive} {other : String}
    (same : folded other = directive.key.toList) : Recased directive.key other :=
  .inr ⟨directive, read_key directive,
    same.trans (find?_eq_some_iff.mp (find?_key directive)).symm⟩

/-- A recased key is read like the key. -/
theorem Recased.read_eq {key other : String} (recased : Recased key other) :
    read other = read key := by
  obtain rfl | ⟨directive, known, same⟩ := recased
  · rfl
  · obtain ⟨dash, found⟩ := read_eq_some_iff.mp known
    rw [known]
    exact read_eq_some_iff.mpr ⟨isKey_of_folded same dash, (find?_congr same).trans found⟩

/-- Only directives are recased: a name is left as it is. -/
theorem Recased.eq_of_name {key other : String} (recased : Recased key other)
    (name : read key = .ok none) : other = key := by
  obtain same | ⟨directive, known, -⟩ := recased
  · exact same
  · cases known.symm.trans name

end Directive

namespace Value

mutual

/-- The second value is the first with recased keys. -/
inductive Recased : Value → Value → Prop
  | scalar (value : Scalar) : Recased (.scalar value) (.scalar value)
  | list {items others : List Value} (inside : RecasedItems items others) :
      Recased (.list items) (.list others)
  | map {entries others : List (String × Value)} (inside : RecasedEntries entries others) :
      Recased (.map ⟨entries⟩) (.map ⟨others⟩)

/-- The items of a list, one for one. -/
inductive RecasedItems : List Value → List Value → Prop
  | nil : RecasedItems [] []
  | cons {item other : Value} {rest others : List Value} (first : Recased item other)
      (later : RecasedItems rest others) : RecasedItems (item :: rest) (other :: others)

/-- The entries of a map, one for one. -/
inductive RecasedEntries : List (String × Value) → List (String × Value) → Prop
  | nil : RecasedEntries [] []
  | cons {key other : String} {value changed : Value} {rest others : List (String × Value)}
      (spelled : Directive.Recased key other) (first : Recased value changed)
      (later : RecasedEntries rest others) :
      RecasedEntries ((key, value) :: rest) ((other, changed) :: others)

end

end Value

namespace Outcome

variable {α β γ δ : Type}

/-- Both outcomes are results, and the results are related, or both are faults of one category. -/
inductive Alike (related : α → β → Prop) : Except Error α → Except Error β → Prop
  | ok {value : α} {other : β} (same : related value other) : Alike related (.ok value) (.ok other)
  | error {fault other : Error} (same : other.category = fault.category) :
      Alike related (.error fault) (.error other)

namespace Alike

theorem refl (outcome : Except Error α) : Alike Eq outcome outcome := by
  cases outcome with
  | ok value => exact .ok rfl
  | error fault => exact .error rfl

/-- Steps that are alike, followed by steps that are alike from related results. -/
theorem bind {related : α → β → Prop} {same : γ → δ → Prop} {step : Except Error α}
    {other : Except Error β} {next : α → Except Error γ} {after : β → Except Error δ}
    (here : Alike related step other)
    (there : ∀ value changed, related value changed → Alike same (next value) (after changed)) :
    Alike same (step >>= next) (other >>= after) := by
  cases here with
  | ok linked => exact there _ _ linked
  | error category => exact .error category

/-- The same steps after steps with the same results. -/
theorem bind_eq {step other : Except Error α} (here : Alike Eq step other)
    (next : α → Except Error β) : Alike Eq (step >>= next) (other >>= next) :=
  here.bind fun value _ same => same ▸ refl (next value)

/-- A result on one side is the result on the other side. -/
theorem eq_ok {step other : Except Error α} (here : Alike Eq step other) {result : α}
    (success : step = .ok result) : other = .ok result := by
  cases here with
  | ok same => exact same ▸ success
  | error => cases success

theorem map {step other : Except Error α} (here : Alike Eq step other) (f : α → β) :
    Alike Eq (step.map f) (other.map f) := by
  cases here with
  | ok same => exact .ok (congrArg f same)
  | error category => exact .error category

end Alike

end Outcome

open Outcome

section

variable {value changed : Value} (recased : value.Recased changed) (context : String)
include recased

theorem Value.Recased.requireScalar :
    Alike Eq (value.requireScalar context) (changed.requireScalar context) := by
  cases recased with
  | scalar value => exact .refl _
  | list | map => exact .error rfl

theorem Value.Recased.requireString :
    Alike Eq (value.requireString context) (changed.requireString context) := by
  cases recased with
  | scalar value => exact .refl _
  | list | map => exact .error rfl

theorem Value.Recased.requireList :
    Alike RecasedItems (value.requireList context) (changed.requireList context) := by
  cases recased with
  | scalar | map => exact .error rfl
  | list inside => exact .ok inside

end

end ParamSql
