import PropShape.Proofs.Object.Defaults
import PropShape.Proofs.Value.Path

/-!
# `PropShape.Proofs.Object.Filling`: the defaults of an object are assigned once

Assigning the defaults of an object leaves none to assign. This rests on three
facts about the insertion of several fields at once.

* `Record.names_insertAll`: the names that are new are appended in their order,
  and every other name keeps its place.
* `Record.get?_withDefaults_of_defined`: a field that is defined is not touched,
  declared or not.
* `Record.lookup?_withDefaults_of_default`: a property with a default can be
  read afterwards. None of the insertions makes another property readable or
  unreadable, so this is so for all of them at the end.
-/

set_option autoImplicit false

namespace PropShape

variable {object record : Record} {schema : Schema} {name : String} {value : Value}
  {descriptor : Descriptor} {pairs : List (String × Value)}

namespace Record

/-! ## What an insertion does to the record as a whole -/

/-- Inserting a field adds its name at the end, unless it is there already. -/
theorem names_insert (record : Record) (name : String) (value : Value) :
    (record.insert name value).names =
      if name ∈ record.names then record.names else record.names ++ [name] :=
  record.fields.keys_insert name value

/-- Inserting fields does not touch the class name. -/
@[simp] theorem className_insertAll : (record.insertAll pairs).className = record.className := by
  induction pairs generalizing record with
  | nil => rfl
  | cons pair rest ih =>
    show ((record.insert pair.1 pair.2).insertAll rest).className = record.className
    rw [ih]
    rfl

/-- Names that are new come behind the old ones, in the order of insertion. -/
theorem names_insertAll (distinct : (pairs.map Prod.fst).Nodup) :
    (record.insertAll pairs).names =
      record.names ++ (pairs.map Prod.fst).filter (· ∉ record.names) := by
  induction pairs generalizing record with
  | nil => simp [insertAll]
  | cons pair rest ih =>
    obtain ⟨fresh, distinct⟩ := List.nodup_cons.mp distinct
    show ((record.insert pair.1 pair.2).insertAll rest).names = _
    rw [ih distinct, names_insert, List.map_cons]
    split
    · next known => simp [known]
    · next new =>
      -- The other names are not the one that was just appended.
      have others : (rest.map Prod.fst).filter (· ∉ record.names ++ [pair.1]) =
          (rest.map Prod.fst).filter (· ∉ record.names) := by
        refine List.filter_congr fun other mem => ?_
        have ne : other ≠ pair.1 := fun same => fresh (same ▸ mem)
        simp [ne]
      rw [others]
      simp [new]

/-! ## What the defaults leave and what they fill in -/

/-- A field that is defined is kept. If it is declared it can be read, so no default is
assigned to it. -/
theorem get?_withDefaults_of_defined (undotted : ∀ name ∈ schema.keys, Path.Undotted name)
    (held : object.get? name = some value) (defined : value.isUndefined = false) :
    (object.withDefaults schema).get? name = some value := by
  rw [get?_withDefaults_of_notMem, held]
  intro declared
  rw [lookup?_of_undotted (undotted name declared), defined?_eq_some_iff.mpr ⟨held, defined⟩]
  exact Option.some_ne_none value

/-- A property with a default reads as what it was, or else as the default. -/
theorem lookup?_withDefaults_of_default (undotted : ∀ name ∈ schema.keys, Path.Undotted name)
    (declared : schema.get? name = some descriptor) (default : descriptor.default? = some value)
    (defined : value.isUndefined = false) :
    (object.withDefaults schema).lookup? name = some ((object.lookup? name).getD value) := by
  have mem : name ∈ schema.keys := OrderedMap.mem_keys_iff.mpr ⟨descriptor, declared⟩
  have assigned : descriptor.definedDefault? = some value := by
    simp [Descriptor.definedDefault?, default, Option.filter, defined]
  rw [lookup?_withDefaults (undotted name mem) declared, assigned]
  cases object.lookup? name <;> rfl

/-- Fields are added for declared properties with a default only. -/
theorem mem_names_withDefaults (h : name ∈ (object.withDefaults schema).names) :
    name ∈ object.names ∨
      ∃ descriptor, schema.get? name = some descriptor ∧ descriptor.default?.isSome = true := by
  have distinct := (Schema.sublist_defaultsFor schema object).nodup schema.nodup_keys
  rw [withDefaults, names_insertAll distinct] at h
  rcases List.mem_append.mp h with old | new
  · exact .inl old
  · obtain ⟨⟨_, value⟩, mem, rfl⟩ := List.mem_map.mp (List.mem_filter.mp new).1
    obtain ⟨descriptor, declared, default, -⟩ := Schema.mem_defaultsFor_iff.mp mem
    exact .inr ⟨descriptor, declared, by simp [default]⟩

/-- Assigning the defaults settles an object. There are none to assign afterwards, and every
declared property with a default can be read, with or without a spread property. Every field
that was defined keeps its value, the class is kept, and fields are added for declared
properties with a default only. The defaults name each property once at most, in the order of
declaration. -/
theorem defaults_settle (object : Record) (schema : Schema)
    (undotted : ∀ name ∈ schema.keys, Path.Undotted name)
    (defined : ∀ name descriptor value, schema.get? name = some descriptor →
      descriptor.default? = some value → value.isUndefined = false) :
    schema.defaultsFor (object.withDefaults schema) = [] ∧
    (∀ name descriptor, schema.get? name = some descriptor → descriptor.default?.isSome = true →
      ∀ spread, ((object.withDefaults schema).readProperty spread name).isUndefined = false) ∧
    (∀ name value, object.get? name = some value → value.isUndefined = false →
      (object.withDefaults schema).get? name = some value) ∧
    (object.withDefaults schema).className = object.className ∧
    (∀ name ∈ (object.withDefaults schema).names, name ∈ object.names ∨
      ∃ descriptor, schema.get? name = some descriptor ∧ descriptor.default?.isSome = true) ∧
    ((schema.defaultsFor object).map Prod.fst).Sublist schema.keys ∧
    ((schema.defaultsFor object).map Prod.fst).Nodup := by
  -- Afterwards every name with a default reads as what it held or as the default.
  have filled : ∀ name descriptor value, schema.get? name = some descriptor →
      descriptor.default? = some value →
      (object.withDefaults schema).lookup? name = some ((object.lookup? name).getD value) :=
    fun name descriptor value declared default =>
      lookup?_withDefaults_of_default undotted declared default
        (defined name descriptor value declared default)
  have ordered := Schema.sublist_defaultsFor schema object
  refine ⟨?_, fun name descriptor declared default spread => ?_, fun name value held ofValue => ?_,
    className_insertAll, fun name mem => ?_, ordered, ordered.nodup schema.nodup_keys⟩
  · -- A default that is still to be assigned would have nothing defined under its name.
    refine List.eq_nil_iff_forall_not_mem.mpr fun ⟨name, value⟩ mem => ?_
    obtain ⟨descriptor, declared, default, absent⟩ := Schema.mem_defaultsFor_iff.mp mem
    cases absent.symm.trans (filled name descriptor value declared default)
  · obtain ⟨value, default⟩ := Option.isSome_iff_exists.mp default
    have read := filled name descriptor value declared default
    rw [readProperty_of_lookup? read spread]
    exact isUndefined_of_lookup? read
  · exact get?_withDefaults_of_defined undotted held ofValue
  · exact mem_names_withDefaults mem

/-- The defaults of a post. The note has none. -/
def postSchema : Schema :=
  .ofList [("tags", { type := .builtin .array, default? := some (.array []) }),
    ("note", { type := .builtin .string }),
    ("count", { type := .builtin .number, default? := some (.number .zero) }),
    ("title", { type := .builtin .string, default? := some (.string "Untitled") })]

/-- A post with a title, with a count that is undefined, and with a field that is not declared. -/
def post : Record :=
  ⟨some "Post", .ofList [("count", .undefined), ("title", .string "Hi"), ("draft", .undefined)]⟩

/-- The count is filled in where it stands and the tags are appended. The title is kept, and then
there is nothing left to fill in. -/
theorem defaults_settle_post :
    (∀ name ∈ postSchema.keys, Path.Undotted name) ∧
      postSchema.defaultsFor post = [("tags", .array []), ("count", .number .zero)] ∧
      (post.withDefaults postSchema).names = ["count", "title", "draft", "tags"] ∧
      postSchema.defaultsFor (post.withDefaults postSchema) = [] ∧
      (post.withDefaults postSchema).get? "title" = some (.string "Hi") := by
  have undotted : ∀ name ∈ postSchema.keys, Path.Undotted name := by decide
  have defined : ∀ name descriptor value, postSchema.get? name = some descriptor →
      descriptor.default? = some value → value.isUndefined = false := by
    intro name descriptor value declared default
    -- The defaults are gone through in the list of the properties, which can be computed.
    have all : (postSchema.toList.all fun pair =>
      pair.2.default?.all fun value => !value.isUndefined) = true := rfl
    have ofPair := List.all_eq_true.mp all _ ((OrderedMap.get?_eq_some_iff _ _ _).mp declared)
    simpa [default] using ofPair
  obtain ⟨settled, -, kept, -⟩ := defaults_settle post postSchema undotted defined
  exact ⟨undotted, rfl, rfl, settled, kept "title" (.string "Hi") rfl rfl⟩

end Record

end PropShape
