import ParamSql.Proofs.Text.Avoids

/-!
# The parts of a text

Texts that are put together with a separator are its parts again, as long as none of them has the
separator in it.
-/
namespace ParamSql.Text

/-- The first text, and each of the others behind a separator. -/
theorem intercalate_cons (separator first : String) (rest : List String) :
    separator.intercalate (first :: rest) = first ++ String.join (rest.map (separator ++ ·)) := by
  induction rest generalizing first with
  | nil => simp
  | cons next rest ih =>
    rw [String.intercalate_cons_cons, ih, List.map_cons, String.join_cons, String.append_assoc,
      String.append_assoc]

/-- The parts of a text between the places where a character stands. -/
def parts (separator : Char) (text : String) : List String :=
  (text.toList.splitOn separator).map String.ofList

theorem parts_intercalate {separator : String} {c : Char} (single : separator.toList = [c])
    {texts : List String} (present : texts ≠ []) (apart : ∀ text ∈ texts, Avoids c text) :
    parts c (separator.intercalate texts) = texts := by
  have chars : ∀ text ∈ texts.map String.toList, c ∉ text := List.forall_mem_map.mpr apart
  have some : texts.map String.toList ≠ [] := mt List.map_eq_nil_iff.mp present
  rw [parts, String.toList_intercalate, single, List.splitOn_intercalate c chars some,
    List.map_map]
  simp [Function.comp_def]

end ParamSql.Text
