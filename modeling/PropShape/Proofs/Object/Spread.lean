import PropShape.Proofs.Lists
import PropShape.Proofs.Object.Lookup
import PropShape.Proofs.Validation.Object

/-!
# `PropShape.Proofs.Object.Spread`: options read as if they were declared on the object

With a spread property in the settings, a declared property that reads as
undefined on the object is read from the record under the spread property.
`spread_reads_as_absorbed` says what this amounts to: the object is validated
as if the options had been inserted into it (`Record.absorb`), under settings
without a spread property.

* `Record.mem_inherited_iff`: what there is to insert. Nothing is inherited
  if there is no spread property on the object, or if it holds something else
  than a record, and no inherited value shadows one that can be read.
* `Record.readProperty_absorb`: reading after the insertion. The rest is that
  validation looks at an object only through the declared properties that it
  reads (`Validator.failedProperties_congr`).
-/

set_option autoImplicit false

namespace PropShape

namespace Record

variable {object : Record} {spread name : String} {value : Value} {names : List String}

/-- The options for those of the names that read as undefined on the object. -/
def inherited (object : Record) (spread : String) (names : List String) : List (String × Value) :=
  names.filterMap fun name =>
    if (object.lookup? name).isNone then
      ((object.options? spread).bind (·.defined? name)).map fun value => (name, value)
    else none

/-- The object with its options inserted, for those of the names that read as undefined on
it. -/
def absorb (object : Record) (spread : String) (names : List String) : Record :=
  object.insertAll (object.inherited spread names)

/-- A field is inherited exactly under the names that the object does not define itself and the
options do. -/
theorem mem_inherited_iff :
    (name, value) ∈ object.inherited spread names ↔
      name ∈ names ∧ object.lookup? name = none ∧
        ∃ options, object.options? spread = some options ∧ options.defined? name = some value := by
  simp only [inherited, List.mem_filterMap, Option.ite_none_right_eq_some,
    Option.isNone_iff_eq_none, Option.map_eq_some_iff, Option.bind_eq_some_iff, Prod.mk.injEq]
  constructor
  · rintro ⟨_, declared, absent, _, ⟨options, held, found⟩, rfl, rfl⟩
    exact ⟨declared, absent, options, held, found⟩
  · rintro ⟨declared, absent, options, held, found⟩
    exact ⟨name, declared, absent, value, ⟨options, held, found⟩, rfl, rfl⟩

/-- A name is inherited once, if it is declared once. -/
theorem nodup_inherited (distinct : names.Nodup) :
    ((object.inherited spread names).map Prod.fst).Nodup := by
  refine distinct.sublist ?_
  rw [inherited, ← List.map_id names, List.filterMap_map]
  refine map_filterMap_sublist (fun name pair found => ?_) names
  obtain ⟨-, found⟩ := Option.ite_none_right_eq_some.mp found
  obtain ⟨_, -, rfl⟩ := Option.map_eq_some_iff.mp found
  rfl

/-- What is read with the help of the options is read from the object that has absorbed
them. -/
theorem readProperty_absorb (undotted : Path.Undotted name) (declared : name ∈ names)
    (distinct : names.Nodup) :
    (object.absorb spread names).readProperty none name =
      object.readProperty (some spread) name := by
  rw [readProperty_none, readProperty_some]
  congr 1
  have once : ((object.inherited spread names).map Prod.fst).Nodup := nodup_inherited distinct
  by_cases inherits : name ∈ (object.inherited spread names).map Prod.fst
  · obtain ⟨⟨first, value⟩, mem, same⟩ := List.mem_map.mp inherits
    obtain rfl : name = first := same.symm
    obtain ⟨-, absent, options, held, found⟩ := mem_inherited_iff.mp mem
    have now : (object.absorb spread names).get? name = some value :=
      get?_insertAll_of_mem once mem
    have defined := (defined?_eq_some_iff.mp found).2
    calc (object.absorb spread names).lookup? name
        = (object.absorb spread names).defined? name := lookup?_of_undotted undotted
      _ = some value := defined?_eq_some_iff.mpr ⟨now, defined⟩
      _ = options.lookup? name := by rw [lookup?_of_undotted undotted, found]
      _ = (object.lookup? name).or ((object.options? spread).bind (·.lookup? name)) := by
        rw [absent, held]
        rfl
  · -- The field is as it was, and if it is undefined there is no option for it either.
    have kept : (object.absorb spread names).lookup? name = object.lookup? name := by
      rw [lookup?_of_undotted undotted, lookup?_of_undotted undotted]
      exact defined?_congr (get?_insertAll_of_notMem inherits)
    rw [kept]
    cases absent : object.lookup? name with
    | some value => rfl
    | none =>
      cases found : (object.options? spread).bind (·.lookup? name) with
      | none => rfl
      | some value =>
        obtain ⟨options, held, found⟩ := Option.bind_eq_some_iff.mp found
        rw [lookup?_of_undotted undotted] at found
        exact absurd (List.mem_map_of_mem (mem_inherited_iff.mpr
          ⟨declared, absent, options, held, found⟩)) inherits

end Record

namespace Validator

/-- Options under a spread property are read as if they were declared on the object itself.
Validating an object with a spread property is validating the object that has absorbed its
options without one: the report or the error is the same, and so are the diagnostics. This
holds whatever the object has under the spread property, also if that property is declared
itself. -/
theorem spread_reads_as_absorbed (v : Validator) (context : String) (object : Record)
    (schema : Schema) (undotted : ∀ name ∈ schema.keys, Path.Undotted name)
    (settings : Settings) (spread : String) :
    v.validateProperties context object schema { settings with spreadProperty := some spread } =
      v.validateProperties context (object.absorb spread schema.keys) schema
        { settings with spreadProperty := none } := by
  -- Validation sees an object only through what it reads under the declared names.
  have reads : ∀ property ∈ schema.toList,
      object.readProperty (some spread) property.1 =
        (object.absorb spread schema.keys).readProperty none property.1 := by
    intro property mem
    have declared : property.1 ∈ schema.keys :=
      schema.keys_toList ▸ List.mem_map_of_mem mem
    exact (Record.readProperty_absorb (undotted _ declared) declared schema.nodup_keys).symm
  unfold validateProperties
  rw [failedProperties_congr reads]
  rfl

/-- The declaration of something that has to be there. -/
def obligatory : Descriptor := { type := .builtin .any, required := true }

/-- The declaration of a widget. Where it keeps its options is declared like the rest. -/
def widgetSchema : Schema :=
  .ofList
    [("size", obligatory), ("color", obligatory), ("shade", obligatory), ("options", obligatory)]

/-- A widget with a size that is undefined, and with options of some class. -/
def widget : Record :=
  ⟨none, .ofList [("size", .undefined), ("color", .string "red"),
    ("options", .object ⟨some "Options", .ofList [("size", .number .zero), ("color", .null),
      ("shade", .undefined)]⟩)]⟩

/-- The widget has its size from the options, but not its color, which it has itself, and not
its shade, which is undefined there as well. -/
theorem spread_reads_as_absorbed_widget :
    (∀ name ∈ widgetSchema.keys, Path.Undotted name) ∧
      widget.absorb "options" widgetSchema.keys = widget.insert "size" (.number .zero) ∧
      validateProperties ⟨.builtins, .memory, {}⟩ "widget" widget widgetSchema
          { spreadProperty := some "options" } =
        validateProperties ⟨.builtins, .memory, {}⟩ "widget"
          (widget.insert "size" (.number .zero)) widgetSchema {} ∧
      validateProperties ⟨.builtins, .memory, {}⟩ "widget" widget widgetSchema
          { spreadProperty := some "options" } =
        ⟨[⟨"widget", .failure (.missing "shade"), .log⟩], .ok ⟨4, ["shade"]⟩⟩ := by
  have undotted : ∀ name ∈ widgetSchema.keys, Path.Undotted name := by decide
  have absorbed : widget.absorb "options" widgetSchema.keys =
      widget.insert "size" (.number .zero) := rfl
  have same := spread_reads_as_absorbed ⟨.builtins, .memory, {}⟩ "widget" widget widgetSchema
    undotted {} "options"
  rw [absorbed] at same
  refine ⟨undotted, absorbed, same, ?_⟩
  -- Every property but one passes whatever it holds, and reports nothing.
  have passes : ∀ name value, value.isUndefined = false →
      validate ⟨.builtins, .memory, {}⟩ "widget" name value obligatory = pure true := by
    intro name value hvalue
    rw [validate_of_defined hvalue, Session.check_of_builtin (Registry.resolve_builtins .any),
      Session.checkBuiltin_eq_follow]
    rfl
  -- The loop is written out, so that the verdicts can be put in.
  show ((validate ⟨.builtins, .memory, {}⟩ "widget" "size" (.number .zero) obligatory >>= fun _ =>
    (validate ⟨.builtins, .memory, {}⟩ "widget" "color" (.string "red") obligatory >>= fun _ =>
      (validate ⟨.builtins, .memory, {}⟩ "widget" "shade" .undefined obligatory >>= fun _ =>
        (validate ⟨.builtins, .memory, {}⟩ "widget" "options" (.object _) obligatory >>= _) >>= _)
          >>= _) >>= _) >>= _) = _
  rw [passes "size" _ rfl, passes "color" _ rfl, passes "options" _ rfl]
  rfl

end Validator

end PropShape
