import Mathlib.Data.List.TakeWhile
import Mathlib.Data.Nat.Digits.Lemmas
import ParamSql.Text.Blank
import ParamSql.Text.Numeral

/-!
# Numerals and counts

What a run of decimal digits denotes is said here by the places of the digits, apart from the way in
which it is read. Every number has one numeral without needless zeros, the one that is written for
it. A count that is read back is a numeral with at most one plus sign, below 2^64, and blanks around
it.
-/
namespace ParamSql.Text

/-- The number that a digit stands for. -/
def digitValue (digit : Char) : Nat := digit.toNat - '0'.toNat

/-- The number that digits denote: each counts by its place, the last one for itself. -/
def denoted (digits : List Char) : Nat := Nat.ofDigits 10 (digits.reverse.map digitValue)

/-- One or more decimal digits that denote the number. -/
structure IsNumeral (n : Nat) (digits : List Char) : Prop where
  present : digits ≠ []
  decimal : ∀ c ∈ digits, c.isDigit = true
  value : denoted digits = n

/-- A numeral in which zero is the first digit only if it is the only one. -/
structure IsPlainNumeral (n : Nat) (digits : List Char) : Prop extends IsNumeral n digits where
  unpadded : ∀ rest, digits = '0' :: rest → rest = []

theorem denoted_concat (digits : List Char) (digit : Char) :
    denoted (digits ++ [digit]) = 10 * denoted digits + digitValue digit := by
  rw [denoted, List.reverse_concat, List.map_cons, Nat.ofDigits_cons, denoted, Nat.add_comm]

/-- Digits are read one after the other, but denote what their places say. -/
theorem digitsValue_eq (digits : List Char) : digitsValue digits = denoted digits := by
  induction digits using List.reverseRecOn with
  | nil => rfl
  | append_singleton digits digit ih =>
    rw [denoted_concat, ← ih, digitsValue, List.foldl_concat]
    rfl

theorem digitValue_lt {c : Char} (decimal : c.isDigit = true) : digitValue c < 10 := by
  have bounds := Char.isDigit_iff_toNat.mp decimal
  have zero : '0'.toNat = 48 := rfl
  have nine : '9'.toNat = 57 := rfl
  rw [digitValue]
  omega

/-- A digit is written for the number that it stands for. -/
theorem digitChar_digitValue {c : Char} (decimal : c.isDigit = true) :
    (digitValue c).digitChar = c := by
  have bounds := Char.isDigit_iff_toNat.mp decimal
  have zero : '0'.toNat = 48 := rfl
  rw [← Char.toNat_inj, Nat.toNat_digitChar_of_lt_ten (digitValue_lt decimal), digitValue]
  omega

theorem denoted_lt {digits : List Char} (decimal : ∀ c ∈ digits, c.isDigit = true) :
    denoted digits < 10 ^ digits.length := by
  have small : ∀ value ∈ digits.reverse.map digitValue, value < 10 := by
    refine List.forall_mem_map.mpr fun c member => ?_
    exact digitValue_lt (decimal c (List.mem_reverse.mp member))
  have bound := Nat.ofDigits_lt_base_pow_length (by decide) small
  rwa [List.length_map, List.length_reverse] at bound

theorem denoted_cons_zero (rest : List Char) : denoted ('0' :: rest) = denoted rest := by
  rw [denoted, List.reverse_cons, List.map_append, Nat.ofDigits_append]
  exact Nat.add_eq_left.mpr (Nat.mul_eq_zero.mpr (.inr rfl))

/-- The digits that are written for a number denote it. -/
theorem denoted_digits (n : Nat) : denoted (digits n) = n := by
  rw [← digitsValue_eq]
  exact Nat.ofDigitChars_ten_toDigits

/-- Digits behind a first one that is not zero are the digits that are written for their number. -/
theorem digits_denoted {digits : List Char} (decimal : ∀ c ∈ digits, c.isDigit = true)
    {first : Char} (leading : first.isDigit = true) (other : first ≠ '0') :
    Text.digits (denoted (first :: digits)) = first :: digits := by
  induction digits using List.reverseRecOn with
  | nil =>
    have single : denoted [first] = digitValue first := Nat.ofDigits_singleton
    rw [single, Text.digits, Nat.toDigits_of_lt_base (digitValue_lt leading),
      digitChar_digitValue leading]
  | append_singleton digits digit ih =>
    obtain ⟨before, last⟩ := List.forall_mem_append.mp decimal
    have lastDecimal : digit.isDigit = true := last digit List.mem_cons_self
    have written := ih before
    -- the number of the digits before is not zero, for then they would be written as one zero
    have positive : 0 < denoted (first :: digits) := by
      refine Nat.pos_of_ne_zero fun none => other ?_
      rw [none] at written
      exact (List.cons.inj written).1.symm
    have next := Nat.toDigits_append_toDigits (by decide : 1 < 10) positive
      (digitValue_lt lastDecimal)
    rw [Nat.toDigits_of_lt_base (digitValue_lt lastDecimal),
      digitChar_digitValue lastDecimal] at next
    rw [← List.cons_append, denoted_concat, Text.digits, ← next]
    exact congrArg (· ++ [digit]) written

/-- What is written for a number is its one plain numeral. -/
theorem isPlainNumeral_iff {n : Nat} {digits : List Char} :
    IsPlainNumeral n digits ↔ digits = Text.digits n := by
  constructor
  · rintro ⟨⟨present, decimal, rfl⟩, unpadded⟩
    obtain ⟨first, rest, rfl⟩ := List.exists_cons_of_ne_nil present
    by_cases zero : first = '0'
    · subst zero
      obtain rfl := unpadded rest rfl
      rfl
    · obtain ⟨leading, behind⟩ := List.forall_mem_cons.mp decimal
      exact (digits_denoted behind leading zero).symm
  · rintro rfl
    have decimal : ∀ c ∈ Text.digits n, c.isDigit = true :=
      fun c member => Nat.isDigit_of_mem_toDigits (by decide) (by decide) member
    refine ⟨⟨Nat.toDigits_ne_nil, decimal, denoted_digits n⟩, fun rest padded => ?_⟩
    -- with a zero in front, the number would have fewer digits than are written for it
    have value := denoted_digits n
    rw [padded] at decimal
    rw [padded, denoted_cons_zero] at value
    have small := denoted_lt (List.forall_mem_cons.mp decimal).2
    rw [value] at small
    by_contra some
    have short := Nat.toDigits_length 10 n rest.length (List.length_pos_iff.mpr some) small
    have long : (Nat.toDigits 10 n).length = rest.length + 1 := congrArg List.length padded
    omega

/-- A numeral, with at most one plus sign in front of it. -/
def IsCount (n : Nat) (chars : List Char) : Prop :=
  IsNumeral n chars ∨ ∃ digits, chars = '+' :: digits ∧ IsNumeral n digits

theorem readNumeral_iff {digits : List Char} {n : Nat} :
    (if digits ≠ [] ∧ digits.all Char.isDigit ∧ digitsValue digits < UInt64.size then
        some (digitsValue digits)
      else none) = some n ↔ IsNumeral n digits ∧ n < 2 ^ 64 := by
  constructor
  · intro read
    split at read
    · next accepted =>
      obtain ⟨present, decimal, small⟩ := accepted
      cases read
      exact ⟨⟨present, List.all_eq_true.mp decimal, (digitsValue_eq digits).symm⟩, small⟩
    · cases read
  · rintro ⟨⟨present, decimal, rfl⟩, small⟩
    rw [← digitsValue_eq] at small ⊢
    exact if_pos ⟨present, List.all_eq_true.mpr decimal, small⟩

/-- A count is read when it is below 2^64, and nothing else is. -/
theorem readCount?_eq_some_iff {chars : List Char} {n : Nat} :
    readCount? chars = some n ↔ IsCount n chars ∧ n < 2 ^ 64 := by
  unfold readCount? IsCount
  dsimp only
  split
  · next rest =>
    have bare : ¬ IsNumeral n ('+' :: rest) := fun numeral =>
      absurd (numeral.decimal '+' List.mem_cons_self) (by decide)
    have behind : (∃ digits, '+' :: rest = '+' :: digits ∧ IsNumeral n digits) ↔
        IsNumeral n rest := by simp
    rw [or_iff_right bare, behind]
    exact readNumeral_iff
  · next unsigned =>
    have bare : ¬ ∃ digits, chars = '+' :: digits ∧ IsNumeral n digits :=
      fun ⟨digits, same, _⟩ => unsigned digits same
    rw [or_iff_left bare]
    exact readNumeral_iff

/-! ### Blanks around a text -/

theorem isBlank_eq_false_of_isDigit {c : Char} (decimal : c.isDigit = true) :
    isBlank c = false := by
  have bounds := Char.isDigit_iff_toNat.mp decimal
  have zero : '0'.toNat = 48 := rfl
  have nine : '9'.toNat = 57 := rfl
  simp only [isBlank, Bool.or_eq_false_iff, Bool.and_eq_false_iff, decide_eq_false_iff_not,
    beq_eq_false_iff_ne]
  omega

/-- There are no blanks in a count. -/
theorem IsCount.isBlank_eq_false {n : Nat} {chars : List Char} (count : IsCount n chars) :
    ∀ c ∈ chars, isBlank c = false := by
  rcases count with numeral | ⟨digits, rfl, numeral⟩
  · exact fun c member => isBlank_eq_false_of_isDigit (numeral.decimal c member)
  · exact List.forall_mem_cons.mpr ⟨rfl, fun c member =>
      isBlank_eq_false_of_isDigit (numeral.decimal c member)⟩

theorem IsCount.ne_nil {n : Nat} {chars : List Char} (count : IsCount n chars) : chars ≠ [] := by
  rcases count with numeral | ⟨digits, rfl, -⟩
  · exact numeral.present
  · exact List.cons_ne_nil _ _

theorem dropWhile_blanks {before core after : List Char}
    (blanks : ∀ c ∈ before, isBlank c = true) (present : core ≠ [])
    (solid : ∀ c ∈ core, isBlank c = false) :
    (before ++ (core ++ after)).dropWhile isBlank = core ++ after := by
  obtain ⟨first, rest, rfl⟩ := List.exists_cons_of_ne_nil present
  have head : ¬ isBlank first = true := Bool.eq_false_iff.mp (solid first List.mem_cons_self)
  rw [List.dropWhile_append_of_pos blanks, List.cons_append, List.dropWhile_cons_of_neg head]

/-- Blanks around a text without blanks are taken away. -/
theorem trimBlanks_surrounded {before core after : List Char}
    (leading : ∀ c ∈ before, isBlank c = true) (trailing : ∀ c ∈ after, isBlank c = true)
    (present : core ≠ []) (solid : ∀ c ∈ core, isBlank c = false) :
    trimBlanks (before ++ core ++ after) = core := by
  have backwards : (core ++ after).reverse = after.reverse ++ (core.reverse ++ []) := by simp
  rw [trimBlanks, List.append_assoc, dropWhile_blanks leading present solid, backwards,
    dropWhile_blanks (by simpa using trailing) (by simpa using present) (by simpa using solid)]
  simp

/-- What is taken away from a text are blanks, in front of it and behind it. -/
theorem exists_surrounded (chars : List Char) : ∃ before after,
    chars = before ++ trimBlanks chars ++ after ∧ (∀ c ∈ before, isBlank c = true) ∧
      ∀ c ∈ after, isBlank c = true := by
  have front := List.takeWhile_append_dropWhile (p := isBlank) (l := chars)
  have back := List.takeWhile_append_dropWhile (p := isBlank) (l := (chars.dropWhile isBlank).reverse)
  refine ⟨chars.takeWhile isBlank, ((chars.dropWhile isBlank).reverse.takeWhile isBlank).reverse,
    ?_, fun c => List.mem_takeWhile_imp, ?_⟩
  · rw [List.append_assoc, trimBlanks, ← List.reverse_append, back, List.reverse_reverse, front]
  · exact fun c member => List.mem_takeWhile_imp (List.mem_reverse.mp member)

/-- A text that gives the number: a count with blanks around it. -/
def Spells (n : Nat) (text : List Char) : Prop := ∃ before count after,
  text = before ++ count ++ after ∧ (∀ c ∈ before, isBlank c = true) ∧
    (∀ c ∈ after, isBlank c = true) ∧ IsCount n count

/-- A text gives the number of the count that is left without the blanks around it. -/
theorem spells_iff_trimBlanks {n : Nat} {text : List Char} :
    Spells n text ↔ IsCount n (trimBlanks text) := by
  constructor
  · rintro ⟨before, count, after, rfl, leading, trailing, isCount⟩
    rw [trimBlanks_surrounded leading trailing isCount.ne_nil isCount.isBlank_eq_false]
    exact isCount
  · intro isCount
    obtain ⟨before, after, split, leading, trailing⟩ := exists_surrounded text
    exact ⟨before, _, after, split, leading, trailing, isCount⟩

/-- A text that is read without the blanks around it gives a number below 2^64. -/
theorem readCount?_trimBlanks_eq_some_iff {text : List Char} {n : Nat} :
    readCount? (trimBlanks text) = some n ↔ Spells n text ∧ n < 2 ^ 64 := by
  rw [readCount?_eq_some_iff, spells_iff_trimBlanks]

end ParamSql.Text
