import PropShape.Validation.Session

/-!
# `PropShape.Validation.Equations`: the steps of a session as equations

The matches inside `Session.check` and its parts remember what they found,
because the measure of the recursion speaks about it. The equations here say
the same without that, so that a known descriptor or value can be rewritten in
place. Proofs about sessions go by these equations.
-/

set_option autoImplicit false

namespace PropShape.Session

/-- A check goes to the rule that owns its type. -/
theorem check_eq (s : Session) (c : Check) :
    s.check c =
      match s.registry.resolve c.descriptor.type with
      | .error e => .raise e
      | .ok (_, .builtin type) => s.checkBuiltin type c
      | .ok (name, .schema stored) =>
        if (name, c.path) ∈ s.active then .raise (.descriptorCycle c.path)
        else (s.enter name c.path).check { c with descriptor := stored }
      | .ok (_, .host rule) =>
        match s.hostBudget with
        | 0 => .raise (.descriptorCycle c.path)
        | rest + 1 =>
          perform { s with hostBudget := rest } (rule ⟨s.onFailure, s.registry.size⟩ c) := by
  rw [check]
  -- The bounds that the recursion carries along are dropped.
  split
  · next h => simp only [h]
  · next h => simp only [h]
  · next h => simp only [h, dite_eq_ite]
  · next h =>
    simp only [h]
    split
    · next exhausted => simp only [exhausted]
    · next rest budget =>
      simp only [budget]
      rfl

/-- A type that does not resolve ends a check with that error. -/
theorem check_of_error {s : Session} {c : Check} {e : PropError}
    (h : s.registry.resolve c.descriptor.type = .error e) : s.check c = .raise e := by
  rw [check_eq, h]

/-- A type that resolves to a built-in one is checked by its rule. -/
theorem check_of_builtin {s : Session} {c : Check} {name : TypeName} {type : BuiltinType}
    (h : s.registry.resolve c.descriptor.type = .ok (name, .builtin type)) :
    s.check c = s.checkBuiltin type c := by
  rw [check_eq, h]

/-- A schema that is not active at the path is entered. -/
theorem check_of_schema {s : Session} {c : Check} {name : TypeName} {stored : Descriptor}
    (h : s.registry.resolve c.descriptor.type = .ok (name, .schema stored))
    (new : (name, c.path) ∉ s.active) :
    s.check c = (s.enter name c.path).check { c with descriptor := stored } := by
  rw [check_eq, h]
  exact if_neg new

/-- A schema that is active at the path is a cycle. -/
theorem check_of_active {s : Session} {c : Check} {name : TypeName} {stored : Descriptor}
    (h : s.registry.resolve c.descriptor.type = .ok (name, .schema stored))
    (active : (name, c.path) ∈ s.active) : s.check c = .raise (.descriptorCycle c.path) := by
  rw [check_eq, h]
  exact if_pos active

/-- An array is checked item by item, and reported as a whole afterwards. -/
theorem checkBuiltin_arrayOf (s : Session) (c : Check) :
    s.checkBuiltin .arrayOf c =
      match c.descriptor.element? with
      | none => s.misconfigured c .noArrayElement
      | some element =>
        match c.value with
        | .array items => do
          let passed ← s.checkItems c element 0 items
          s.expect c passed (.notArrayOf c.path element.expectedType)
        | _ => s.fail c (.notArrayOf c.path element.expectedType) := by
  rw [checkBuiltin]
  obtain ⟨context, path, value, descriptor, logErrors⟩ := c
  -- The two sides differ in how the value is matched.
  cases descriptor.element? with
  | none => rfl
  | some element => cases value <;> rfl

/-- A plain record is checked field by field, and reported as a whole afterwards. -/
theorem checkBuiltin_objectOf (s : Session) (c : Check) :
    s.checkBuiltin .objectOf c =
      match c.descriptor.element? with
      | none => s.misconfigured c .noObjectElement
      | some element =>
        match c.value with
        | .object ⟨none, ⟨_, fields⟩⟩ => do
          let passed ← s.checkFields c element fields
          s.expect c passed (.notObjectOf c.path element.expectedType)
        | _ => s.fail c (.notObjectOf c.path element.expectedType) := by
  rw [checkBuiltin]
  obtain ⟨context, path, value, descriptor, logErrors⟩ := c
  cases descriptor.element? with
  | none => rfl
  | some element =>
    cases value with
    | object record =>
      -- Only the fields of a record without class are checked.
      obtain ⟨className, ⟨keys, fields⟩⟩ := record
      cases className <;> rfl
    | _ => rfl

/-- Any record is checked property by property, and reported as a whole afterwards. -/
theorem checkBuiltin_iface (s : Session) (c : Check) :
    s.checkBuiltin .iface c =
      match c.descriptor.properties? with
      | none => s.misconfigured c (.noProperties .interface)
      | some properties =>
        match c.value with
        | .object record => do
          let passed ← s.checkProperties c record properties.entries
          s.expect c passed (.mismatch c.path .interface c.value)
        | _ => s.fail c (.mismatch c.path .interface c.value) := by
  rw [checkBuiltin]
  obtain ⟨context, path, value, descriptor, logErrors⟩ := c
  obtain ⟨_, _, _, _, _, properties, _, _, _, _⟩ := descriptor
  cases properties with
  | none => rfl
  | some properties => cases value <;> rfl

/-- A plain record is checked like an interface, and then for names that are not
declared. -/
theorem checkBuiltin_shape (s : Session) (c : Check) :
    s.checkBuiltin .shape c =
      match c.descriptor.properties? with
      | none => s.misconfigured c (.noProperties .shape)
      | some properties =>
        match c.value with
        | .object ⟨none, fields⟩ => do
          let passed ← s.checkProperties c ⟨none, fields⟩ properties.entries
          let known ← s.checkNames c properties.keys fields.keys
          s.expect c (passed && known) (.mismatch c.path .shape c.value)
        | _ => s.fail c (.mismatch c.path .shape c.value) := by
  rw [checkBuiltin]
  obtain ⟨context, path, value, descriptor, logErrors⟩ := c
  obtain ⟨_, _, _, _, _, properties, _, _, _, _⟩ := descriptor
  cases properties with
  | none => rfl
  | some properties =>
    cases value with
    | object record =>
      -- An instance of a class fails, as no record at all would.
      obtain ⟨className, fields⟩ := record
      cases className <;> rfl
    | _ => rfl

/-- A property is read as a path, and checked if it is defined. -/
theorem checkProperty_eq (s : Session) (c : Check) (record : Record) (key : String)
    (descriptor : Descriptor) :
    s.checkProperty c record key descriptor =
      match record.lookup? key with
      | none => s.expect c (!descriptor.required) (.missingKey c.path key)
      | some value => s.check { c with path := Path.key c.path key, value, descriptor } := by
  rw [checkProperty]
  split
  · next h => simp only [h]
  · next h => simp only [h]

/-! ## Programs -/

section Programs

variable (s : Session)

/-- The verdict of a program is that of the run. -/
theorem perform_answer (passed : Bool) : s.perform (.answer passed) = pure passed := rfl

/-- An error of a program ends the run. -/
theorem perform_raise (e : PropError) : s.perform (.raise e) = .raise e := rfl

/-- After a report the program goes on by how the report ended. -/
theorem perform_fail (about : Check) (text : String)
    (next : Except PropError Bool → RuleProgram) :
    s.perform (.fail about text next) =
      (s.fail about (.other text)).followedBy
        (s.perform (next (s.fail about (.other text)).result)) :=
  rfl

/-- A mistake in the declaration is reported, and the program goes on. -/
theorem perform_misconfigured (about : Check) (text : String) (next : RuleProgram) :
    s.perform (.misconfigured about text next) =
      (s.misconfigured about (.other text)).followedBy (s.perform next) :=
  rfl

/-- After a check the program goes on by its verdict or its error. -/
theorem perform_check (request : Check) (next : Except PropError Bool → RuleProgram) :
    s.perform (.check request next) =
      (s.check request).followedBy (s.perform (next (s.check request).result)) :=
  rfl

end Programs

end PropShape.Session
