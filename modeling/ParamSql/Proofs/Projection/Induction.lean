import ParamSql.Proofs.Projection.Reading

/-!
# Induction over the reading of a projection

Reading descends through the lists and maps of a projection. What its rules keep holds of every
description that is read to its end and of the projection that is read from it; the reading is taken
apart here once.
-/
namespace ParamSql.Projection

theorem of_readAlias {value : Value} {name : String} (returns : (readAlias value).Returns name) :
    value = .string name ∧ name ≠ "" := by
  obtain ⟨text, first, rest⟩ := returns.of_bind
  obtain ⟨checked, second, last⟩ := rest.of_bind
  obtain ⟨_, -, final⟩ := last.of_bind
  obtain rfl := final.of_pure
  obtain ⟨present, rfl⟩ := Name.require_eq_ok_iff.mp second.of_lift
  exact ⟨Value.requireString_eq_ok_iff.mp first.of_lift, present⟩

/-- Properties of whole descriptions, of the items of their lists and of the entries of their maps,
each with what is read from them, which every rule of reading keeps. -/
structure KeptByReading (whole : Value → Projection → Prop)
    (items : List Value → List Projection → Prop)
    (entries : List (String × Value) → List (ItemPart Projection) → Prop) : Prop where
  column : ∀ {name}, name ≠ "" → whole (.string name) (.column name)
  list : ∀ {given projections}, items given projections → whole (.list given) (.list projections)
  map : ∀ {given parts}, entries given parts → whole (.map ⟨given⟩) (.composed parts)
  noItem : items [] []
  item : ∀ {value projection rest projections}, whole value projection → items rest projections →
    items (value :: rest) (projection :: projections)
  noEntry : entries [] []
  aliased : ∀ {key name rest parts}, Directive.read key = .ok (some .as) → name ≠ "" →
    entries rest parts → entries ((key, .string name) :: rest) (.aliased name :: parts)
  call : ∀ {key value argument rest parts}, Directive.read key = .ok none → key ≠ "" →
    whole value argument → entries rest parts →
    entries ((key, value) :: rest) (.call key argument :: parts)

namespace KeptByReading

variable {whole : Value → Projection → Prop} {items : List Value → List Projection → Prop}
  {entries : List (String × Value) → List (ItemPart Projection) → Prop}

mutual

theorem of_read (kept : KeptByReading whole items entries) :
    ∀ {spec : Value} {projection : Projection},
      (read spec).Returns projection → whole spec projection
  | .scalar (.string text), _, returns => by
    obtain ⟨name, required, final⟩ := Reading.Returns.of_bind returns
    obtain rfl := final.of_pure
    obtain ⟨present, rfl⟩ := Name.require_eq_ok_iff.mp required.of_lift
    exact kept.column present
  | .scalar .null, _, returns => (Reading.not_returns_throw returns).elim
  | .scalar (.boolean _), _, returns => (Reading.not_returns_throw returns).elim
  | .scalar (.integer _), _, returns => (Reading.not_returns_throw returns).elim
  | .list given, _, returns => by
    obtain ⟨projections, inside, final⟩ := Reading.Returns.of_bind returns
    obtain rfl := final.of_pure
    exact kept.list (kept.of_readItems inside)
  | .map ⟨given⟩, _, returns => by
    obtain ⟨parts, inside, final⟩ := Reading.Returns.of_bind returns
    obtain rfl := final.of_pure
    exact kept.map (kept.of_readParts inside)

theorem of_readItems (kept : KeptByReading whole items entries) :
    ∀ {given : List Value} {projections : List Projection},
      (readItems given).Returns projections → items given projections
  | [], _, returns => by
    obtain rfl := Reading.Returns.of_pure returns
    exact kept.noItem
  | value :: rest, _, returns => by
    obtain ⟨projection, inside, others⟩ := Reading.Returns.of_bind returns
    obtain ⟨projections, later, final⟩ := others.of_bind
    obtain rfl := final.of_pure
    exact kept.item (kept.of_read inside) (kept.of_readItems later)

theorem of_readParts (kept : KeptByReading whole items entries) :
    ∀ {given : List (String × Value)} {parts : List (ItemPart Projection)},
      (readParts given).Returns parts → entries given parts
  | [], _, returns => by
    obtain rfl := Reading.Returns.of_pure returns
    exact kept.noEntry
  | (key, value) :: rest, _, returns => by
    rw [readParts] at returns
    obtain ⟨directive, known, chosen⟩ := Reading.Returns.of_bind returns
    cases directive with
    | none =>
      obtain ⟨function, required, others⟩ := chosen.of_bind
      obtain ⟨argument, inside, last⟩ := others.of_bind
      obtain ⟨parts, later, final⟩ := last.of_bind
      obtain rfl := final.of_pure
      obtain ⟨present, rfl⟩ := Name.require_eq_ok_iff.mp required.of_lift
      exact kept.call known.of_lift present (kept.of_read inside) (kept.of_readParts later)
    | some directive =>
      cases directive with
      | as =>
        obtain ⟨name, declared, others⟩ := chosen.of_bind
        obtain ⟨parts, later, final⟩ := others.of_bind
        obtain rfl := final.of_pure
        obtain ⟨rfl, present⟩ := of_readAlias declared
        exact kept.aliased known.of_lift present (kept.of_readParts later)
      | _ => exact (Reading.not_returns_throw chosen).elim

end

end KeptByReading

theorem yields_require {name : String} (present : name ≠ "") (role : NameRole) :
    Reading.Yields (liftM (Name.require role name)) name :=
  Reading.yields_lift (Name.require_eq_ok_iff.mpr ⟨present, rfl⟩)

theorem yields_readAlias {name : String} (present : name ≠ "") :
    (readAlias (.string name)).Yields name := by
  have given : (Value.string name).requireString Directive.as.key = .ok name :=
    Value.requireString_eq_ok_iff.mpr rfl
  exact (Reading.yields_lift given).bind ((yields_require present _).bind
    ((Reading.yields_modify (Name.quote name)).bind (Reading.yields_pure name)))

/-- What is read from a description does not depend on the aliases that were collected before. -/
theorem keptByReading_yields : KeptByReading (fun spec projection => (read spec).Yields projection)
    (fun given projections => (readItems given).Yields projections)
    (fun given parts => (readParts given).Yields parts) := by
  constructor
  case column => exact fun present => (yields_require present _).bind (Reading.yields_pure _)
  case list => exact fun inside => inside.bind (Reading.yields_pure _)
  case map => exact fun inside => inside.bind (Reading.yields_pure _)
  case noItem => exact Reading.yields_pure _
  case item => exact fun here there => here.bind (there.bind (Reading.yields_pure _))
  case noEntry => exact Reading.yields_pure _
  case aliased =>
    intro key name rest parts known present there
    rw [readParts]
    exact (Reading.yields_lift known).bind
      ((yields_readAlias present).bind (there.bind (Reading.yields_pure _)))
  case call =>
    intro key value argument rest parts known present here there
    rw [readParts]
    exact (Reading.yields_lift known).bind
      ((yields_require present _).bind (here.bind (there.bind (Reading.yields_pure _))))

end ParamSql.Projection
