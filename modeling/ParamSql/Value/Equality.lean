import ParamSql.Value.Basic

/-!
# Equality of values

Equality of values can be decided. Maps are equal when they hold equal values under the same
keys in the same order.
-/
namespace ParamSql.Value

mutual

/-- Equality of two values, node by node. -/
def decideEq : (a b : Value) → Decidable (a = b)
  | .scalar x, .scalar y =>
    if same : x = y then isTrue (congrArg Value.scalar same)
    else isFalse fun h => same (Value.scalar.inj h)
  | .list xs, .list ys =>
    match decideEqItems xs ys with
    | isTrue same => isTrue (congrArg Value.list same)
    | isFalse differ => isFalse fun h => differ (Value.list.inj h)
  | .map ⟨xs⟩, .map ⟨ys⟩ =>
    match decideEqEntries xs ys with
    | isTrue same => isTrue (congrArg (fun entries => Value.map ⟨entries⟩) same)
    | isFalse differ => isFalse fun h => differ (KeyedMap.mk.inj (Value.map.inj h))
  | .scalar _, .list _ => isFalse nofun
  | .scalar _, .map _ => isFalse nofun
  | .list _, .scalar _ => isFalse nofun
  | .list _, .map _ => isFalse nofun
  | .map _, .scalar _ => isFalse nofun
  | .map _, .list _ => isFalse nofun

/-- Equality of two lists of values. -/
def decideEqItems : (xs ys : List Value) → Decidable (xs = ys)
  | [], [] => isTrue rfl
  | [], _ :: _ => isFalse nofun
  | _ :: _, [] => isFalse nofun
  | x :: xs, y :: ys =>
    match decideEq x y, decideEqItems xs ys with
    | isTrue head, isTrue tail => isTrue (head ▸ tail ▸ rfl)
    | isFalse differ, _ => isFalse fun h => differ (List.cons.inj h).1
    | _, isFalse differ => isFalse fun h => differ (List.cons.inj h).2

/-- Equality of two lists of entries. -/
def decideEqEntries : (xs ys : List (String × Value)) → Decidable (xs = ys)
  | [], [] => isTrue rfl
  | [], _ :: _ => isFalse nofun
  | _ :: _, [] => isFalse nofun
  | (k, x) :: xs, (l, y) :: ys =>
    if key : k = l then
      match decideEq x y, decideEqEntries xs ys with
      | isTrue head, isTrue tail => isTrue (key ▸ head ▸ tail ▸ rfl)
      | isFalse differ, _ => isFalse fun h => differ (Prod.mk.inj (List.cons.inj h).1).2
      | _, isFalse differ => isFalse fun h => differ (List.cons.inj h).2
    else isFalse fun h => key (Prod.mk.inj (List.cons.inj h).1).1

end

instance : DecidableEq Value := decideEq

end ParamSql.Value
