import PropShape.Proofs.Agreement
import PropShape.Proofs.Object.Spread

/-!
# `PropShape.Proofs.Object.Defaults`: what is read after the defaults are assigned

A host assigns the defaults of an object by inserting them into it. There is a
default to assign for a declared property that has one and that reads as
undefined on the object itself (`Schema.mem_defaultsFor_iff`); the options
under a spread property are not looked at.

* `Record.lookup?_withDefaults`: on the object itself, a default is read where
  nothing could be read before, and everything else reads as before.
* `Record.readProperty_withDefaults`: with the help of the options, a default
  comes before an option of the same name.

So the defaults leave what is read as it was exactly where
`Record.defaults_keep_supplied_iff` says, and `Validator.default_hides_option`
shows an option that is lost.
-/

set_option autoImplicit false

namespace PropShape

variable {object : Record} {schema : Schema} {name : String} {value : Value}
  {descriptor : Descriptor}

/-- The default of a descriptor, unless it is undefined. -/
def Descriptor.definedDefault? (d : Descriptor) : Option Value :=
  d.default?.filter fun value => !value.isUndefined

/-! ## The defaults to assign -/

namespace Schema

/-- A default is listed exactly for the declared names that have one and under which the object
itself has nothing defined. -/
theorem mem_defaultsFor_iff :
    (name, value) ∈ schema.defaultsFor object ↔
      ∃ descriptor, schema.get? name = some descriptor ∧ descriptor.default? = some value ∧
        object.lookup? name = none := by
  simp only [defaultsFor, List.mem_filterMap, Option.ite_none_right_eq_some,
    Option.isNone_iff_eq_none, Option.map_eq_some_iff, Prod.mk.injEq, OrderedMap.get?_eq_some_iff]
  constructor
  · rintro ⟨⟨_, descriptor⟩, mem, absent, _, default, rfl, rfl⟩
    exact ⟨descriptor, mem, default, absent⟩
  · rintro ⟨descriptor, mem, default, absent⟩
    exact ⟨(name, descriptor), mem, absent, value, default, rfl, rfl⟩

/-- Defaults are for declared properties that read as undefined. -/
theorem of_mem_defaultsFor (h : name ∈ (schema.defaultsFor object).map Prod.fst) :
    name ∈ schema.keys ∧ object.lookup? name = none := by
  obtain ⟨⟨_, default⟩, mem, rfl⟩ := List.mem_map.mp h
  obtain ⟨descriptor, declared, -, absent⟩ := mem_defaultsFor_iff.mp mem
  exact ⟨OrderedMap.mem_keys_iff.mpr ⟨descriptor, declared⟩, absent⟩

/-- Defaults come in the order of declaration. -/
theorem sublist_defaultsFor (schema : Schema) (object : Record) :
    ((schema.defaultsFor object).map Prod.fst).Sublist schema.keys := by
  rw [← OrderedMap.keys_toList, defaultsFor]
  refine map_filterMap_sublist ?_ schema.toList
  rintro ⟨name, descriptor⟩ pair found
  obtain ⟨-, found⟩ := Option.ite_none_right_eq_some.mp found
  obtain ⟨default, -, rfl⟩ := Option.map_eq_some_iff.mp found
  rfl

end Schema

/-! ## Reading -/

namespace Record

/-- The object with its defaults assigned. -/
def withDefaults (object : Record) (schema : Schema) : Record :=
  object.insertAll (schema.defaultsFor object)

/-- A property that has no default to assign keeps its field. -/
theorem get?_withDefaults_of_notMem (h : name ∈ schema.keys → object.lookup? name ≠ none) :
    (object.withDefaults schema).get? name = object.get? name :=
  get?_insertAll_of_notMem fun mem =>
    h (Schema.of_mem_defaultsFor mem).1 (Schema.of_mem_defaultsFor mem).2

/-- A declared property reads its default if nothing could be read, and reads as before
otherwise. -/
theorem lookup?_withDefaults (undotted : Path.Undotted name)
    (declared : schema.get? name = some descriptor) :
    (object.withDefaults schema).lookup? name =
      (object.lookup? name).or descriptor.definedDefault? := by
  cases absent : object.lookup? name with
  | some value =>
    -- What is defined is not among the defaults to be assigned, so it stays.
    have kept : (object.withDefaults schema).get? name = object.get? name :=
      get?_withDefaults_of_notMem fun _ lacking => by cases absent.symm.trans lacking
    rw [lookup?_of_undotted undotted] at absent ⊢
    rw [defined?_congr kept, absent]
    rfl
  | none =>
    rw [Option.none_or, lookup?_of_undotted undotted, Descriptor.definedDefault?]
    cases default : descriptor.default? with
    | some value =>
      -- The default is assigned once, because the names of a schema are distinct.
      have mem := Schema.mem_defaultsFor_iff.mpr ⟨descriptor, declared, default, absent⟩
      have distinct := (Schema.sublist_defaultsFor schema object).nodup schema.nodup_keys
      rw [defined?, withDefaults, get?_insertAll_of_mem distinct mem]
    | none =>
      -- Nothing is assigned under a name whose descriptor has no default.
      have unassigned : name ∉ (schema.defaultsFor object).map Prod.fst := by
        intro listed
        obtain ⟨pair, mem, rfl⟩ := List.mem_map.mp listed
        obtain ⟨other, declared', default', -⟩ := Schema.mem_defaultsFor_iff.mp mem
        cases declared.symm.trans declared'
        cases default.symm.trans default'
      have kept : (object.withDefaults schema).get? name = object.get? name :=
        get?_insertAll_of_notMem unassigned
      rw [defined?_congr kept, ← lookup?_of_undotted undotted, absent]
      rfl

/-- Options that the object holds are not replaced by a default. -/
theorem options?_withDefaults (undotted : ∀ name ∈ schema.keys, Path.Undotted name)
    {spread : String} {options : Record} (held : object.options? spread = some options) :
    (object.withDefaults schema).options? spread = some options := by
  obtain ⟨value, found, record⟩ := Option.bind_eq_some_iff.mp held
  have kept : (object.withDefaults schema).get? spread = object.get? spread := by
    refine get?_withDefaults_of_notMem fun declared absent => ?_
    have defined : value.isUndefined = false := by
      cases value <;> first | rfl | cases record
    rw [lookup?_of_undotted (undotted spread declared),
      defined?_eq_some_iff.mpr ⟨found, defined⟩] at absent
    cases absent
  rw [options?, kept]
  exact held

/-- What a property reads that could be read before: itself, or its default, or else the
option. -/
theorem readProperty_withDefaults (undotted : ∀ name ∈ schema.keys, Path.Undotted name)
    (declared : schema.get? name = some descriptor) {spread : Option String}
    (supplied : (object.readProperty spread name).isUndefined = false) :
    (object.withDefaults schema).readProperty spread name =
      ((object.lookup? name).or descriptor.definedDefault?).getD
        (object.readProperty spread name) := by
  have own : (object.withDefaults schema).lookup? name =
      (object.lookup? name).or descriptor.definedDefault? :=
    lookup?_withDefaults (undotted name (OrderedMap.mem_keys_iff.mpr ⟨_, declared⟩)) declared
  cases spread with
  | none =>
    rw [readProperty_none] at supplied ⊢
    rw [readProperty_none, own]
    cases found : object.lookup? name with
    | some value => rfl
    | none =>
      rw [found] at supplied
      cases supplied
  | some spread =>
    rw [readProperty_some, own]
    cases assigned : (object.lookup? name).or descriptor.definedDefault? with
    | some value => rfl
    | none =>
      -- What is read comes from the options, and they are still there.
      obtain ⟨absent, -⟩ := Option.or_eq_none_iff.mp assigned
      rw [readProperty_some, absent, Option.none_or] at supplied ⊢
      rw [Option.none_or, Option.getD_none]
      cases held : object.options? spread with
      | none =>
        rw [held] at supplied
        cases supplied
      | some options => rw [options?_withDefaults undotted held]

/-- When assigning the defaults leaves what is read as it was. A declared property that can be
read, on the object or in the options, is read with the same value after all defaults are
assigned exactly if the object has it itself, or if it has no other default than that very
value. -/
theorem defaults_keep_supplied_iff (object : Record) (schema : Schema)
    (undotted : ∀ name ∈ schema.keys, Path.Undotted name) (settings : Settings) (name : String)
    (descriptor : Descriptor) (declared : schema.get? name = some descriptor)
    (supplied : (object.readProperty settings.spreadProperty name).isUndefined = false) :
    (object.insertAll (schema.defaultsFor object)).readProperty settings.spreadProperty name =
        object.readProperty settings.spreadProperty name ↔
      (object.lookup? name).isSome = true ∨
        ∀ value, descriptor.default? = some value →
          value.isUndefined = true ∨ value = object.readProperty settings.spreadProperty name := by
  have after := readProperty_withDefaults undotted declared supplied
  rw [withDefaults] at after
  rw [after]
  cases own : object.lookup? name with
  | some value => simp [readProperty_of_lookup? own]
  -- The value is supplied by the options. A default that is assigned now hides it.
  | none =>
    rw [Option.none_or, Descriptor.definedDefault?]
    cases default : descriptor.default? with
    | none => simp
    | some value => cases undefined : value.isUndefined <;> simp [Option.filter, undefined]

end Record

namespace Validator

/-- A title, which is null by default, and a size. -/
def titled : Schema :=
  .ofList [("title", { type := .builtin .string, default? := some .null }),
    ("size", { type := .builtin .number })]

/-- An object with options. -/
def withOptions (own : List (String × Value)) : Record :=
  ⟨none, .ofList (own ++
    [("options", .ofFields [("title", .string "Hi"), ("size", .number .zero)])])⟩

/-- A title of its own is kept, and so is a size from the options, for which there is no
default. -/
theorem defaults_keep_supplied_iff_titled :
    let object := withOptions [("title", .string "Own")]
    let settings : Settings := { spreadProperty := some "options" }
    (∀ name ∈ titled.keys, Path.Undotted name) ∧
      (object.insertAll (titled.defaultsFor object)).readProperty settings.spreadProperty "title" =
        .string "Own" ∧
      (object.insertAll (titled.defaultsFor object)).readProperty settings.spreadProperty "size" =
        .number .zero := by
  intro object settings
  have undotted : ∀ name ∈ titled.keys, Path.Undotted name := by decide
  -- The object has a title of its own, and there is no default for the size.
  have title := (Record.defaults_keep_supplied_iff object titled undotted settings "title" _ rfl
    rfl).mpr (.inl rfl)
  have size := (Record.defaults_keep_supplied_iff object titled undotted settings "size" _ rfl
    rfl).mpr (.inr nofun)
  exact ⟨undotted, title, size⟩

/-- A title from the options is lost when the default title is assigned. -/
theorem default_hides_option :
    let object := withOptions []
    let settings : Settings := { spreadProperty := some "options" }
    (∀ name ∈ titled.keys, Path.Undotted name) ∧
      titled.defaultsFor object = [("title", .null)] ∧
      object.readProperty settings.spreadProperty "title" = .string "Hi" ∧
      (object.insertAll (titled.defaultsFor object)).readProperty settings.spreadProperty "title" =
        .null :=
  ⟨by decide, rfl, rfl, rfl⟩

end Validator

end PropShape
