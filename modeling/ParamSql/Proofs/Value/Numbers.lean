import Mathlib.Data.List.TakeDrop
import Mathlib.Data.List.TakeWhile
import ParamSql.Proofs.Value.Document
import ParamSql.Proofs.Value.Leaves

/-!
# The numbers of a document

A document can hold numbers that no value can: fractions, and integers that do not fit 64 bits.
Such a number is the only thing that can make a document unreadable, and the fault is decided by the
numbers alone, in the order in which they stand in the document. What is read has the leaves of the
document for its scalars.
-/
namespace ParamSql

namespace Number

/-- The number is a signed 64-bit integer: at least -2^63 and less than 2^63. -/
def FitsInt64 : Number → Prop
  | .integer value => -9223372036854775808 ≤ value ∧ value < 9223372036854775808
  | .double _ => False

instance : DecidablePred FitsInt64
  | .integer value =>
    inferInstanceAs (Decidable (-9223372036854775808 ≤ value ∧ value < 9223372036854775808))
  | .double _ => inferInstanceAs (Decidable False)

theorem toInt64?_eq_none_iff {number : Number} :
    number.toInt64? = none ↔ ¬ number.FitsInt64 := by
  cases number with
  | double value => simp [toInt64?, FitsInt64]
  | integer value =>
    have low : Int64.minValue.toInt = -9223372036854775808 := by decide
    have high : Int64.maxValue.toInt = 9223372036854775807 := by decide
    rw [toInt64?, low, high, FitsInt64]
    split <;> simp <;> omega

/-- The digits before the point are digits, and nothing is left out. -/
theorem readWhole?_eq_some {chars whole rest : List Char}
    (read : readWhole? chars = some (whole, rest)) :
    chars = whole ++ rest ∧ ∀ c ∈ whole, c.isDigit := by
  have parts : whole = chars.takeWhile Char.isDigit ∧ rest = chars.dropWhile Char.isDigit := by
    unfold readWhole? at read
    rw [List.span_eq_takeWhile_dropWhile] at read
    dsimp only at read
    split at read
    · cases read
    · cases read
    · simpa [eq_comm] using read
  obtain ⟨rfl, rfl⟩ := parts
  exact ⟨List.takeWhile_append_dropWhile.symm, fun c member => List.mem_takeWhile_imp member⟩

theorem ofParts?_ne_integer (negative : Bool) (whole fraction : List Char) (exponent value : Int) :
    ofParts? negative whole fraction exponent ≠ some (.integer value) := by
  simp [ofParts?]

/-- The literal of an integer consists of digits, with a sign in front if it is negative. -/
theorem digits_of_ofLiteral? {text : String} {value : Int}
    (read : ofLiteral? text = some (.integer value)) :
    ∃ digits, (text.toList = digits ∨ text.toList = '-' :: digits) ∧ ∀ c ∈ digits, c.isDigit := by
  simp only [ofLiteral?, Option.bind_eq_bind, Option.bind_eq_some_iff] at read
  obtain ⟨⟨digits, rest⟩, start, read⟩ := read
  obtain ⟨signed, onlyDigits⟩ := readWhole?_eq_some start
  have ended : rest = [] := by
    by_contra more
    have shown : rest.isEmpty = false := by simpa using more
    simp only [shown, Bool.false_eq_true, false_and, if_false, Option.bind_eq_some_iff] at read
    obtain ⟨_, -, _, -, double⟩ := read
    exact ofParts?_ne_integer _ _ _ _ _ double
  refine ⟨digits, ?_, onlyDigits⟩
  rw [ended, List.append_nil] at signed
  split at signed
  · next minus => exact .inr (minus.trans (congrArg ('-' :: ·) signed))
  · exact .inl signed

/-- A number that is written with a point or an exponent is no 64-bit integer. -/
theorem not_fitsInt64_of_ofLiteral? {text : String} {number : Number}
    (read : ofLiteral? text = some number)
    (written : '.' ∈ text.toList ∨ 'e' ∈ text.toList ∨ 'E' ∈ text.toList) :
    ¬ number.FitsInt64 := by
  cases number with
  | double value => exact not_false
  | integer value =>
    obtain ⟨digits, signed, onlyDigits⟩ := digits_of_ofLiteral? read
    have plain : ∀ c ∈ text.toList, c = '-' ∨ c.isDigit := by
      rcases signed with same | same <;> rw [same] <;> simp +contextual [onlyDigits]
    rcases written with member | member | member
    all_goals exact absurd (plain _ member) (by decide)

end Number

namespace Json

/-- The number that a document is. -/
def number? : Json → Option Number
  | .number value => some value
  | _ => none

mutual

/-- The parts of a document that are no containers, depth first. -/
def leaves : Json → List Json
  | .array items => leavesOfItems items
  | .object ⟨entries⟩ => leavesOfEntries entries
  | leaf => [leaf]

/-- The leaves of the items of an array. -/
def leavesOfItems : List Json → List Json
  | [] => []
  | item :: rest => leaves item ++ leavesOfItems rest

/-- The leaves below the keys of an object. -/
def leavesOfEntries : List (String × Json) → List Json
  | [] => []
  | (_, item) :: rest => leaves item ++ leavesOfEntries rest

end

/-- The numbers of a document, in the order in which they stand. -/
def numbers (document : Json) : List Number := document.leaves.filterMap number?

/-- The first number among leaves that no value can hold. -/
def firstUnfit? (leaves : List Json) : Option Number :=
  (leaves.filterMap number?).find? fun number => ¬ number.FitsInt64

theorem firstUnfit?_append (first second : List Json) :
    firstUnfit? (first ++ second) = (firstUnfit? first).or (firstUnfit? second) := by
  rw [firstUnfit?, List.filterMap_append, List.find?_append, firstUnfit?, firstUnfit?]

end Json

namespace Value

open Outcome
open Json (firstUnfit? firstUnfit?_append)

mutual

/-- Reading fails with the first number that is no 64-bit integer, and with nothing else. -/
theorem fault?_ofJson : ∀ document : Json,
    fault? (ofJson document) = (firstUnfit? document.leaves).map .notInt64
  | .null => rfl
  | .bool _ => rfl
  | .string _ => rfl
  | .number number => by
    rw [ofJson]
    by_cases fits : number.FitsInt64
    · obtain ⟨integer, found⟩ := Option.ne_none_iff_exists'.mp
        (mt Number.toInt64?_eq_none_iff.mp (not_not.mpr fits))
      simp [found, fault?, Json.leaves, firstUnfit?, Json.number?, fits]
    · have none := Number.toInt64?_eq_none_iff.mpr fits
      simp [none, fault?, Json.leaves, firstUnfit?, Json.number?, fits]
  | .array items => by
    rw [ofJson, fault?_then, fault?_ofJsonItems items, Json.leaves]
  | .object ⟨entries⟩ => by
    rw [ofJson, fault?_then, fault?_ofJsonEntries entries, Json.leaves]

theorem fault?_ofJsonItems : ∀ items : List Json,
    fault? (ofJsonItems items) = (firstUnfit? (Json.leavesOfItems items)).map .notInt64
  | [] => rfl
  | item :: rest => by
    rw [ofJsonItems, fault?_both, fault?_ofJson item, fault?_ofJsonItems rest,
      Json.leavesOfItems, firstUnfit?_append, Option.map_or]

theorem fault?_ofJsonEntries : ∀ entries : List (String × Json),
    fault? (ofJsonEntries entries) = (firstUnfit? (Json.leavesOfEntries entries)).map .notInt64
  | [] => rfl
  | (key, item) :: rest => by
    rw [ofJsonEntries, fault?_both, fault?_ofJson item, fault?_ofJsonEntries rest,
      Json.leavesOfEntries, firstUnfit?_append, Option.map_or]

end

mutual

/-- The leaves of the document of a value are its scalars. -/
theorem leaves_toJson : ∀ value : Value,
    value.toJson.leaves = value.leaves.map fun leaf => leaf.scalar.toJson
  | .scalar value => by cases value <;> rfl
  | .list items => leavesOfItems_toJsonItems items
  | .map ⟨entries⟩ => leavesOfEntries_toJsonEntries entries

theorem leavesOfItems_toJsonItems : ∀ items : List Value,
    Json.leavesOfItems (toJsonItems items) =
      (leavesOfItems items).map fun leaf => leaf.scalar.toJson
  | [] => rfl
  | item :: rest => by
    rw [toJsonItems, Json.leavesOfItems, leaves_toJson item, leavesOfItems_toJsonItems rest,
      leavesOfItems, List.map_append]

theorem leavesOfEntries_toJsonEntries : ∀ entries : List (String × Value),
    Json.leavesOfEntries (toJsonEntries entries) =
      (leavesOfEntries entries).map fun leaf => leaf.scalar.toJson
  | [] => rfl
  | (key, value) :: rest => by
    rw [toJsonEntries, Json.leavesOfEntries, leaves_toJson value,
      leavesOfEntries_toJsonEntries rest, leavesOfEntries, List.map_append, List.map_map]
    rfl

end

end Value

namespace Json

theorem leavesOfItems_values (entries : List (String × Json)) :
    leavesOfItems (entries.map Prod.snd) = leavesOfEntries entries := by
  induction entries with
  | nil => rfl
  | cons entry rest ih => rw [List.map_cons, leavesOfItems, ih, leavesOfEntries]

mutual

/-- Objects with positions for keys can be turned into arrays: the leaves stay. -/
theorem leaves_listed : ∀ document : Json, document.listed.leaves = document.leaves
  | .null => rfl
  | .bool _ => rfl
  | .number _ => rfl
  | .string _ => rfl
  | .array items => leavesOfItems_listedItems items
  | .object ⟨entries⟩ => by
    rw [listed]
    split
    · rw [leaves, leavesOfItems_values, leavesOfEntries_listedEntries entries, leaves]
    · exact leavesOfEntries_listedEntries entries

theorem leavesOfItems_listedItems : ∀ items : List Json,
    leavesOfItems (listedItems items) = leavesOfItems items
  | [] => rfl
  | item :: rest => by
    rw [listedItems, leavesOfItems, leaves_listed item, leavesOfItems_listedItems rest,
      leavesOfItems]

theorem leavesOfEntries_listedEntries : ∀ entries : List (String × Json),
    leavesOfEntries (listedEntries entries) = leavesOfEntries entries
  | [] => rfl
  | (key, item) :: rest => by
    rw [listedEntries, leavesOfEntries, leaves_listed item, leavesOfEntries_listedEntries rest,
      leavesOfEntries]

end

theorem firstUnfit?_eq_none_iff {document : Json} :
    firstUnfit? document.leaves = none ↔ ∀ number ∈ document.numbers, number.FitsInt64 := by
  rw [firstUnfit?, ← numbers, List.find?_eq_none]
  simp

end Json

namespace Value

open Outcome

theorem message_notInt64 (number : Number) :
    (Error.notInt64 number).message =
      "Unknown type: number " ++ number.text ++ " is not a 64-bit integer" := by
  have opening : "Unknown type: number " = "Unknown type" ++ ": " ++ "number " := by decide
  rw [opening, String.append_assoc, String.append_assoc]
  rfl

/-- A document that holds every key once and 64-bit integers only is read, and the scalars of the
value are the leaves of the document. -/
theorem exists_ofJson {document : Json} (distinct : document.KeysDistinct)
    (fit : ∀ number ∈ document.numbers, number.FitsInt64) :
    ∃ value, ofJson document = .ok value ∧
      value.scalars.map Scalar.toJson = document.leaves := by
  have faultless : fault? (ofJson document) = none := by
    rw [fault?_ofJson, Json.firstUnfit?_eq_none_iff.mpr fit, Option.map_none]
  obtain ⟨value, success⟩ := fault?_eq_none_iff.mp faultless
  refine ⟨value, success, ?_⟩
  rw [← Json.leaves_listed, ← toJson_of_ofJson distinct success, leaves_toJson, scalars,
    List.map_map]
  rfl

/-- A document is refused exactly when one of its numbers, at any depth, is no 64-bit integer, as is
every number that is written with a point or an exponent. The fault then names the first such number
in the order of the document, and nothing but the numbers has an influence on it; so it does not
matter whether the containers around them become lists or maps. Otherwise the document is read, and
the scalars of the value are its leaves, in the same order. -/
theorem ofJson_refuses_first_unfit :
    (∀ document : Json, (∃ fault, ofJson document = .error fault) ↔
      ∃ number ∈ document.numbers, ¬ number.FitsInt64) ∧
    (∀ (document : Json) (fault : Error), ofJson document = .error fault →
      ∃ before number after, document.numbers = before ++ number :: after ∧
        (∀ earlier ∈ before, earlier.FitsInt64) ∧ ¬ number.FitsInt64 ∧
        fault = .notInt64 number ∧ fault.category = .unknownType ∧
        fault.message = "Unknown type: number " ++ number.text ++ " is not a 64-bit integer") ∧
    (∀ (document other : Json) (fault : Error), document.numbers = other.numbers →
      ofJson document = .error fault → ofJson other = .error fault) ∧
    (∀ document : Json, document.KeysDistinct →
      (∀ number ∈ document.numbers, number.FitsInt64) →
      ∃ value, ofJson document = .ok value ∧
        value.scalars.map Scalar.toJson = document.leaves) ∧
    ∀ (text : String) (number : Number), Number.ofLiteral? text = some number →
      '.' ∈ text.toList ∨ 'e' ∈ text.toList ∨ 'E' ∈ text.toList → ¬ number.FitsInt64 := by
  refine ⟨?_, ?_, ?_, fun _ => exists_ofJson, fun _ _ => Number.not_fitsInt64_of_ofLiteral?⟩
  · intro document
    simp only [← fault?_eq_some_iff, ← Option.ne_none_iff_exists', fault?_ofJson, ne_eq,
      Option.map_eq_none_iff, Json.firstUnfit?_eq_none_iff, not_forall, exists_prop]
  · intro document fault failed
    have named := fault?_eq_some_iff.mpr failed
    rw [fault?_ofJson] at named
    obtain ⟨number, first, rfl⟩ := Option.map_eq_some_iff.mp named
    obtain ⟨unfit, before, after, split, fit⟩ := List.find?_eq_some_iff_append.mp first
    refine ⟨before, number, after, split, ?_, ?_, rfl, rfl, message_notInt64 number⟩
    · simpa using fit
    · simpa using unfit
  · intro document other fault same failed
    have named := fault?_eq_some_iff.mpr failed
    rw [fault?_ofJson, Json.firstUnfit?, ← Json.numbers, same] at named
    exact fault?_eq_some_iff.mp ((fault?_ofJson other).trans named)

/-- Integers at both ends of the range, below keys that are positions and keys that are none. -/
def extremeSample : Json :=
  .object ⟨[("0", .array [.number (.integer (-9223372036854775808)), .null]),
    ("1", .object ⟨[("1", .number (.integer 9223372036854775807)), ("0", .string "x")]⟩)]⟩

/-- The same with an integer that is one too large, behind one of them and before another one. -/
def excessiveSample : Json :=
  .array [extremeSample, .object ⟨[("0", .number (.integer 9223372036854775808))]⟩,
    .number (.integer (-9223372036854775809))]

theorem ofJson_refuses_first_unfit_samples :
    (∃ value, ofJson extremeSample = .ok value ∧
      value.scalars.map Scalar.toJson = extremeSample.leaves) ∧
    (∃ before number after, excessiveSample.numbers = before ++ number :: after ∧
      (∀ earlier ∈ before, earlier.FitsInt64) ∧ ¬ number.FitsInt64 ∧
      (Error.notInt64 (.integer 9223372036854775808)) = .notInt64 number) ∧
    ofJson (.array (excessiveSample.numbers.map .number)) =
      .error (.notInt64 (.integer 9223372036854775808)) ∧
    (Error.notInt64 (.integer 9223372036854775808)).message =
      "Unknown type: number 9223372036854775808 is not a 64-bit integer" ∧
    ∃ number, Number.ofLiteral? "1e3" = some number ∧ ¬ number.FitsInt64 := by
  obtain ⟨-, names, regroups, reads, literals⟩ := ofJson_refuses_first_unfit
  have distinct : extremeSample.KeysDistinct := by
    simp [extremeSample, Json.KeysDistinct, Json.KeysDistinctInEntries, KeyedMap.KeysDistinct,
      KeyedMap.keys, Json.KeysDistinctInItems]
  have refused : ofJson excessiveSample = .error (.notInt64 (.integer 9223372036854775808)) := rfl
  have written : ∃ number, Number.ofLiteral? "1e3" = some number := ⟨_, rfl⟩
  obtain ⟨before, number, after, split, fit, unfit, same, -, -⟩ := names _ _ refused
  obtain ⟨thousand, written⟩ := written
  refine ⟨reads _ distinct (by decide), ⟨before, number, after, split, fit, unfit, same⟩,
    regroups _ _ _ rfl refused, rfl, thousand, written, literals _ _ written (by decide)⟩

end Value

end ParamSql
