import PropShape.Proofs.Validation.Silence

/-!
# `PropShape.Proofs.Validation.Object`: what validating an object comes to

Where failures are logged, only a mistake in the declaration ends the
validation of a property early. The declared properties of an object are
validated one after the other, each by itself, so the whole comes to a report
exactly if each of them comes to a verdict
(`exists_failedProperties_eq_ok_iff`), the report lists the properties whose
verdict is a failure (`mem_failed_iff`), and an error of the whole is that of
a property (`failedProperties_eq_error`).
-/

set_option autoImplicit false

namespace PropShape.Validator

variable {v : Validator} {context path : String} {value : Value} {descriptor : Descriptor}

/-- Where failures are logged, undefined comes to a verdict. -/
theorem validate_of_undefined_of_log (log : v.options.onFailure = .log)
    (h : value.isUndefined = true) :
    (v.validate context path value descriptor).result = .ok (!descriptor.required) := by
  rw [validate_of_undefined h]
  cases descriptor.required with
  | false => rfl
  | true =>
    rw [if_pos rfl, report, log]
    split <;> rfl

/-- Settings that raise nothing leave the policy as it is. -/
theorem withSettings_of_calm {settings : Settings} (calm : settings.throwErrors = false) :
    v.withSettings settings = v := by
  rw [withSettings, if_neg (by simp [calm])]

/-- Under such settings the validation of an object ends as that of its properties does. -/
theorem validateProperties_result {object : Record} {schema : Schema} {settings : Settings}
    (calm : settings.throwErrors = false) :
    (v.validateProperties context object schema settings).result =
      (v.failedProperties context object settings.spreadProperty schema.toList).result.map
        fun failed => ⟨schema.size, failed⟩ := by
  rw [validateProperties, withSettings_of_calm calm, bind_pure_comp, Run.map_result]

/-- The report on an object counts the declared properties and lists those that failed. -/
theorem validateProperties_eq_ok_iff {object : Record} {schema : Schema} {settings : Settings}
    {report : PropertiesReport} (calm : settings.throwErrors = false) :
    (v.validateProperties context object schema settings).result = .ok report ↔
      ∃ failed, (v.failedProperties context object settings.spreadProperty schema.toList).result =
        .ok failed ∧ report = ⟨schema.size, failed⟩ := by
  rw [validateProperties_result calm]
  cases (v.failedProperties context object settings.spreadProperty schema.toList).result with
  | error e => simp [Except.map]
  | ok failed => simp [Except.map, eq_comm]

/-- Where failures are logged, an error of validation is a mistake in the declaration. -/
theorem isConfiguration_of_validate (built : v.registry.Declarative)
    (log : v.options.onFailure = .log) {e : PropError}
    (h : (v.validate context path value descriptor).result = .error e) :
    e.isConfiguration = true := by
  cases hvalue : value.isUndefined with
  | true =>
    rw [validate_of_undefined_of_log log hvalue] at h
    cases h
  | false =>
    rw [validate_of_defined hvalue] at h
    exact Session.isConfiguration_of_eq_error (s := .start _ _ _) built log h

/-- The validation of one declared property of an object. -/
def validateProperty (v : Validator) (context : String) (object : Record)
    (spread : Option String) (property : String × Descriptor) : Run Bool :=
  v.validate context property.1 (object.readProperty spread property.1) property.2

variable {object : Record} {spread : Option String} {properties : List (String × Descriptor)}

/-- Validation looks at an object only through the declared properties that it reads. -/
theorem failedProperties_congr {object' : Record} {spread' : Option String}
    (reads : ∀ property ∈ properties,
      object.readProperty spread property.1 = object'.readProperty spread' property.1) :
    v.failedProperties context object spread properties =
      v.failedProperties context object' spread' properties := by
  induction properties with
  | nil => rfl
  | cons property rest ih =>
    obtain ⟨name, descriptor⟩ := property
    obtain ⟨first, others⟩ := List.forall_mem_cons.mp reads
    simp only [failedProperties, first, ih others]

/-- The loop comes to an end exactly if each property comes to a verdict. -/
theorem exists_failedProperties_eq_ok_iff :
    (∃ failed, (v.failedProperties context object spread properties).result = .ok failed) ↔
      ∀ property ∈ properties,
        ∃ passed, (v.validateProperty context object spread property).result = .ok passed := by
  induction properties with
  | nil => exact ⟨fun _ => by simp, fun _ => ⟨[], rfl⟩⟩
  | cons property rest ih =>
    -- The loop ends in a list if the first property does not raise and the rest ends in a list.
    rw [List.forall_mem_cons, ← ih]
    constructor
    · rintro ⟨failed, h⟩
      obtain ⟨passed, first, h⟩ := Run.bind_eq_ok_iff.mp h
      obtain ⟨others, hrest, -⟩ := Run.bind_eq_ok_iff.mp h
      exact ⟨⟨passed, first⟩, others, hrest⟩
    · rintro ⟨⟨passed, first⟩, others, hrest⟩
      exact ⟨_, Run.bind_eq_ok_iff.mpr ⟨passed, first, Run.bind_eq_ok_iff.mpr ⟨others, hrest, rfl⟩⟩⟩

/-- The properties that are listed are those that come to a failure. -/
theorem mem_failed_iff {failed : List String} {name : String}
    (h : (v.failedProperties context object spread properties).result = .ok failed) :
    name ∈ failed ↔ ∃ property ∈ properties, property.1 = name ∧
      (v.validateProperty context object spread property).result = .ok false := by
  induction properties generalizing failed with
  | nil =>
    cases h
    simp
  | cons property rest ih =>
    obtain ⟨passed, first, h⟩ := Run.bind_eq_ok_iff.mp h
    obtain ⟨others, hrest, h⟩ := Run.bind_eq_ok_iff.mp h
    cases h
    have verdict : (v.validateProperty context object spread property).result = .ok passed := first
    simp only [List.mem_cons, or_and_right, exists_or, exists_eq_left, ← ih hrest, verdict]
    -- A property that passed is not among the failed ones, one that did not is the first of
    -- them.
    cases passed <;> simp [eq_comm]

/-- An error of the whole is that of one of the properties. -/
theorem failedProperties_eq_error {e : PropError}
    (h : (v.failedProperties context object spread properties).result = .error e) :
    ∃ property ∈ properties,
      (v.validateProperty context object spread property).result = .error e := by
  induction properties with
  | nil => cases h
  | cons property rest ih =>
    -- The first property raises, or a later one; the end of the loop does not.
    rcases Run.bind_eq_error_iff.mp h with first | ⟨passed, -, h⟩
    · exact ⟨property, List.mem_cons_self, first⟩
    · rcases Run.bind_eq_error_iff.mp h with hrest | ⟨others, -, h⟩
      · obtain ⟨other, mem, raised⟩ := ih hrest
        exact ⟨other, List.mem_cons_of_mem _ mem, raised⟩
      · cases h

end PropShape.Validator
