import PropShape.Proofs.Report.Run
import PropShape.Validation.Equations
import PropShape.Validation.Validator

/-!
# `PropShape.Proofs.Validation.Plan`: every rule as a plan

What a check does is decided before anything is checked or reported: the rule
of its type either settles the check, or lists what is to be checked next and
what to report if that fails. `Session.plan` is that decision, a value of type
`Plan`, and `Session.follow` carries a plan out.

The main statement is `check_eq_follow`: a check does what following its plan
does. It is the only place where the rules are taken apart one by one.
Everything said about all checks goes by the few forms of a plan:

* composite rules list parts (`Plan.all`), and go on after a failure; they all
  do so in one form (`Plan.composite`);
* a union lists alternatives (`Plan.any`), and stops at the first success;
* a stored schema is entered (`Plan.enter`);
* the other rules settle the check on the spot.

A plan looks at the registry and at the schemas that are being expanded. It
knows neither sink nor policy, so sessions that differ in these only have the
same plans (`plan_congr`).
-/

set_option autoImplicit false

namespace PropShape

/-- The kind of value that a type asks for, if it asks for nothing else. -/
def BuiltinType.kind? : BuiltinType → Option Kind
  | .array => some .array
  | .bool => some .boolean
  | .date => some .date
  | .element => some .element
  | .func => some .function
  | .null => some .null
  | .number => some .number
  | .object => some .object
  | .string => some .string
  | .symbol => some .symbol
  | _ => none

/-- One requirement of a rule that goes through a value part by part. -/
inductive Part
  /-- A check of its own. -/
  | check (c : Check)
  /-- A requirement that needs no further check. -/
  | settle (passed : Bool) (failure : Failure)

/-- What the rule of a type does with a check. -/
inductive Plan
  | raise (error : PropError)
  | pass
  /-- The verdict is known; false is reported as the failure. -/
  | settle (passed : Bool) (failure : Failure)
  | misconfigured (misconfiguration : Misconfiguration)
  /-- Checks against a stored schema, under its name. -/
  | enter (name : TypeName) (c : Check)
  /-- Goes through every part, and reports a failure if one does not pass. -/
  | all (parts : List Part) (failure : Failure)
  /-- Tries alternatives up to the first that passes, and reports a failure if none does. -/
  | any (alternatives : List Check) (failure : Failure)
  | host (rule : HostRule)

namespace Check

/-- One part for each declared property. A property that reads as undefined
passes exactly if it is not required. -/
def propertyParts (c : Check) (record : Record) (properties : List (String × Descriptor)) :
    List Part :=
  properties.map fun (key, descriptor) =>
    match record.lookup? key with
    | none => .settle (!descriptor.required) (.missingKey c.path key)
    | some value => .check { c with path := Path.key c.path key, value, descriptor }

/-- One part for each item of an array, numbered from `index` on. -/
def itemParts (c : Check) (element : Descriptor) (index : Nat) (items : List Value) : List Part :=
  (items.zipIdx index).map fun (value, index) =>
    .check { c with path := Path.item c.path index, value, descriptor := element }

/-- One part for each field of a record. -/
def fieldParts (c : Check) (element : Descriptor) (fields : List (String × Value)) : List Part :=
  fields.map fun (key, value) =>
    .check { c with path := Path.key c.path key, value, descriptor := element }

/-- One part for each field name, which has to be declared. -/
def nameParts (c : Check) (declared names : List String) : List Part :=
  names.map fun name => .settle (Session.declares declared name) (.unknownKey c.path name)

/-- The checks against the alternatives of a union. They report nothing. -/
def alternatives (c : Check) : List Check :=
  c.descriptor.alternatives.map fun descriptor => { c with descriptor, logErrors := false }

/-- What a built-in type does with a check. -/
def builtinPlan (c : Check) : BuiltinType → Plan
  | .instanceOf =>
    match c.descriptor.className? with
    | none => .misconfigured .noClassName
    | some className =>
      let belongs := match c.value with
        | .object record => record.className == some className
        | _ => false
      .settle belongs (.notInstanceOf c.path className)
  | .custom =>
    match c.descriptor.predicate? with
    | none => .misconfigured .noPredicate
    | some predicate => .settle (predicate.test c.value) (.notCustom c.path)
  | .oneOf =>
    if c.descriptor.values.isEmpty then .misconfigured .noValues
    else
      .settle (c.descriptor.values.any fun allowed => allowed.equals c.value)
        (.notListed c.path c.descriptor.values)
  | .oneOfType =>
    if c.descriptor.alternatives.isEmpty then .misconfigured .noAlternatives
    else
      .any c.alternatives
        (.noAlternative c.path (c.descriptor.alternatives.map Descriptor.expectedType))
  | .arrayOf =>
    match c.descriptor.element? with
    | none => .misconfigured .noArrayElement
    | some element =>
      match c.value with
      | .array items =>
        .all (c.itemParts element 0 items) (.notArrayOf c.path element.expectedType)
      | _ => .settle false (.notArrayOf c.path element.expectedType)
  | .objectOf =>
    match c.descriptor.element? with
    | none => .misconfigured .noObjectElement
    | some element =>
      match c.value with
      | .object ⟨none, fields⟩ =>
        .all (c.fieldParts element fields.toList) (.notObjectOf c.path element.expectedType)
      | _ => .settle false (.notObjectOf c.path element.expectedType)
  | .iface =>
    match c.descriptor.properties? with
    | none => .misconfigured (.noProperties .interface)
    | some properties =>
      match c.value with
      | .object record =>
        .all (c.propertyParts record properties.toList) (.mismatch c.path .interface c.value)
      | _ => .settle false (.mismatch c.path .interface c.value)
  | .shape =>
    match c.descriptor.properties? with
    | none => .misconfigured (.noProperties .shape)
    | some properties =>
      match c.value with
      | .object ⟨none, fields⟩ =>
        .all (c.propertyParts ⟨none, fields⟩ properties.toList ++
            c.nameParts properties.keys fields.keys)
          (.mismatch c.path .shape c.value)
      | _ => .settle false (.mismatch c.path .shape c.value)
  | type =>
    match type.kind? with
    | some kind => .settle (c.value.kind == kind) (.notOfKind c.path kind)
    | none => .pass

end Check

/-- The plan of a rule that goes through a value by what its descriptor declares for the parts.
Without such a declaration the descriptor is a mistake, and a value without such parts fails. -/
def Plan.composite {α β : Type} (misconfiguration : Misconfiguration) (declared : Option α)
    (held : Option β) (parts : α → β → List Part) (failure : α → Failure) : Plan :=
  match declared with
  | none => .misconfigured misconfiguration
  | some declaration =>
    match held with
    | none => .settle false (failure declaration)
    | some content => .all (parts declaration content) (failure declaration)

namespace Check

/-- The plan of `arrayOf` as a composite: the items are checked if there is an element
descriptor and the value is an array. -/
theorem builtinPlan_arrayOf (c : Check) :
    c.builtinPlan .arrayOf =
      .composite .noArrayElement c.descriptor.element? c.value.asArray?
        (fun element items => c.itemParts element 0 items)
        (fun element => .notArrayOf c.path element.expectedType) := by
  unfold builtinPlan Plan.composite
  cases c.descriptor.element? with
  | none => rfl
  | some declaration => cases c.value <;> rfl

/-- The plan of `objectOf` as a composite: the fields of a plain record are checked. -/
theorem builtinPlan_objectOf (c : Check) :
    c.builtinPlan .objectOf =
      .composite .noObjectElement c.descriptor.element? c.value.asPlainRecord?
        (fun element record => c.fieldParts element record.fields.toList)
        (fun element => .notObjectOf c.path element.expectedType) := by
  unfold builtinPlan Plan.composite
  cases c.descriptor.element? with
  | none => rfl
  | some declaration =>
    cases c.value with
    | object record =>
      -- Only a record without class has its fields looked at.
      obtain ⟨className, fields⟩ := record
      cases className <;> rfl
    | _ => rfl

/-- The plan of `iface` as a composite: the declared properties of any record are checked. -/
theorem builtinPlan_iface (c : Check) :
    c.builtinPlan .iface =
      .composite (.noProperties .interface) c.descriptor.properties? c.value.asRecord?
        (fun properties record => c.propertyParts record properties.toList)
        (fun _ => .mismatch c.path .interface c.value) := by
  unfold builtinPlan Plan.composite
  cases c.descriptor.properties? with
  | none => rfl
  | some declaration => cases c.value <;> rfl

/-- The plan of `shape` as a composite: the declared properties of a plain record are checked,
and then its names. -/
theorem builtinPlan_shape (c : Check) :
    c.builtinPlan .shape =
      .composite (.noProperties .shape) c.descriptor.properties? c.value.asPlainRecord?
        (fun properties record => c.propertyParts record properties.toList ++
          c.nameParts properties.keys record.fields.keys)
        (fun _ => .mismatch c.path .shape c.value) := by
  unfold builtinPlan Plan.composite
  cases c.descriptor.properties? with
  | none => rfl
  | some declaration =>
    cases c.value with
    | object record =>
      -- An instance of a class is no shape.
      obtain ⟨className, fields⟩ := record
      cases className <;> rfl
    | _ => rfl

/-- An instance of a class is a record that names it. -/
theorem builtinPlan_instanceOf (c : Check) :
    c.builtinPlan .instanceOf =
      match c.descriptor.className? with
      | none => .misconfigured .noClassName
      | some className =>
        .settle (c.value.asRecord?.any fun record => record.className == some className)
          (.notInstanceOf c.path className) := by
  unfold builtinPlan
  cases c.value <;> rfl

end Check

namespace Session

/-- The plan of a check, given what its type resolves to. -/
def planOf (s : Session) (c : Check) : Except PropError (TypeName × Rule) → Plan
  | .error e => .raise e
  | .ok (_, .builtin type) => c.builtinPlan type
  | .ok (name, .schema stored) =>
    if s.active.contains (name, c.path) then .raise (.descriptorCycle c.path)
    else .enter name { c with descriptor := stored }
  | .ok (_, .host rule) => .host rule

/-- What the rule of its type does with a check. -/
def plan (s : Session) (c : Check) : Plan := s.planOf c (s.registry.resolve c.descriptor.type)

/-- Goes through one part of a check. -/
def checkPart (s : Session) (c : Check) : Part → Run Bool
  | .check inner => s.check inner
  | .settle passed failure => s.expect c passed failure

/-- Carries out a plan. -/
def follow (s : Session) (c : Check) : Plan → Run Bool
  | .raise error => .raise error
  | .pass => return true
  | .settle passed failure => s.expect c passed failure
  | .misconfigured misconfiguration => s.misconfigured c misconfiguration
  | .enter name inner => (s.enter name c.path).check inner
  | .all parts failure => do
    let passed ← Run.all (parts.map (s.checkPart c))
    s.expect c passed failure
  | .any alternatives failure => do
    let passed ← Run.any (alternatives.map s.check)
    s.expect c passed failure
  | .host rule =>
    match s.hostBudget with
    | 0 => .raise (.descriptorCycle c.path)
    | rest + 1 => perform { s with hostBudget := rest } (rule ⟨s.onFailure, s.registry.size⟩ c)

/-- Sessions with the same registry and the same expansions have the same plans. -/
theorem plan_congr {s t : Session} (registry : s.registry = t.registry)
    (active : s.active = t.active) (c : Check) : s.plan c = t.plan c := by
  unfold plan planOf
  rw [registry, active]

/-! ## Reporting -/

section Reporting

variable {s : Session} {c : Check} {passed : Bool} {failure : Failure}

/-- Reporting changes no verdict. -/
theorem expect_eq_ok {verdict : Bool} (h : (s.expect c passed failure).result = .ok verdict) :
    verdict = passed := by
  cases passed with
  | true =>
    cases h
    rfl
  | false =>
    change (s.fail c failure).result = _ at h
    unfold fail at h
    split at h
    · obtain ⟨-, -, h⟩ := Run.bind_eq_ok_iff.mp h
      cases h
      rfl
    · cases h
      rfl

/-- All that reporting a failure raises is the failure. -/
theorem expect_eq_error {e : PropError} (h : (s.expect c passed failure).result = .error e) :
    e = .failed (.failure failure) := by
  cases passed with
  | true => cases h
  | false =>
    change (s.fail c failure).result = _ at h
    unfold fail at h
    split at h
    · -- Only the report can raise, and only under the policy that says so.
      rcases Run.bind_eq_error_iff.mp h with raised | ⟨-, -, h⟩
      · cases policy : s.onFailure with
        | log =>
          rw [policy] at raised
          cases raised
        | throw =>
          rw [policy] at raised
          cases raised
          rfl
      · cases h
    · cases h

/-- Where failures are logged, a failure is a verdict. -/
theorem expect_of_log (log : s.onFailure = .log) :
    (s.expect c passed failure).result = .ok passed := by
  cases passed with
  | true => rfl
  | false =>
    show (s.fail c failure).result = _
    unfold fail
    rw [log]
    split <;> rfl

/-- There a rule that reports the failure of its parts ends as they do. -/
theorem bind_expect_of_log (log : s.onFailure = .log) (run : Run Bool) (failure : Failure) :
    (run >>= fun passed => s.expect c passed failure).result = run.result := by
  cases h : run.result with
  | ok passed =>
    rw [Run.bind_of_ok h]
    exact expect_of_log log
  | error e => rw [Run.bind_of_error h]

/-- A mistake in the declaration counts as a failure, and is never raised. -/
theorem misconfigured_result (misconfiguration : Misconfiguration) :
    (s.misconfigured c misconfiguration).result = .ok false := rfl

/-- It is written down by both sinks. -/
theorem misconfigured_diagnostics (misconfiguration : Misconfiguration) :
    (s.misconfigured c misconfiguration).diagnostics =
      [⟨c.context, .misconfiguration misconfiguration, .log⟩] := by
  show (if s.sink.keeps .log then [_] else []) ++ [] = _
  simp

end Reporting

/-! ## The loops of the rules -/

/-- Going through the items of an array is carrying out their parts. -/
theorem checkItems_eq (s : Session) (c : Check) (element : Descriptor) (index : Nat)
    (items : List Value) :
    s.checkItems c element index items =
      Run.all ((c.itemParts element index items).map (s.checkPart c)) := by
  induction items generalizing index with
  | nil =>
    rw [checkItems]
    rfl
  | cons item rest ih =>
    rw [checkItems, ih]
    rfl

/-- Going through the fields of a record is carrying out their parts. -/
theorem checkFields_eq (s : Session) (c : Check) (element : Descriptor) {keys : List String}
    (fields : Entries String Value keys) :
    s.checkFields c element fields =
      Run.all ((c.fieldParts element fields.toList).map (s.checkPart c)) := by
  induction fields with
  | nil =>
    rw [checkFields]
    rfl
  | cons key value rest fresh ih =>
    rw [checkFields, ih]
    rfl

/-- Going through the declared properties is carrying out their parts. -/
theorem checkProperties_eq (s : Session) (c : Check) (record : Record) {keys : List String}
    (properties : Entries String Descriptor keys) :
    s.checkProperties c record properties =
      Run.all ((c.propertyParts record properties.toList).map (s.checkPart c)) := by
  induction properties with
  | nil =>
    rw [checkProperties]
    rfl
  | cons key descriptor rest fresh ih =>
    -- A property that the record does not have is settled at once.
    rw [checkProperties, ih, checkProperty_eq]
    simp only [Entries.toList, Check.propertyParts, List.map_cons, Run.all]
    cases record.lookup? key <;> rfl

/-- Going through the names of a record is carrying out their parts. -/
theorem checkNames_eq (s : Session) (c : Check) (declared names : List String) :
    s.checkNames c declared names =
      Run.all ((c.nameParts declared names).map (s.checkPart c)) := by
  induction names with
  | nil => rfl
  | cons name rest ih =>
    rw [checkNames, ih]
    rfl

/-- Going through the alternatives is trying their checks. -/
theorem checkAlternatives_eq (s : Session) (c : Check) (alternatives : List Descriptor) :
    s.checkAlternatives c alternatives =
      Run.any ((alternatives.map fun descriptor =>
        { c with descriptor, logErrors := false }).map s.check) := by
  induction alternatives with
  | nil =>
    rw [checkAlternatives]
    rfl
  | cons alternative rest ih =>
    rw [checkAlternatives, ih]
    rfl

/-! ## Rules follow their plans -/

/-- The rule of a built-in type follows its plan. -/
theorem checkBuiltin_eq_follow (s : Session) (type : BuiltinType) (c : Check) :
    s.checkBuiltin type c = s.follow c (c.builtinPlan type) := by
  cases type with
  | instanceOf =>
    rw [checkBuiltin, Check.builtinPlan]
    cases c.descriptor.className? <;> rfl
  | custom =>
    rw [checkBuiltin, Check.builtinPlan]
    cases c.descriptor.predicate? <;> rfl
  | oneOf =>
    rw [checkBuiltin, Check.builtinPlan]
    split <;> rfl
  | oneOfType =>
    rw [checkBuiltin, Check.builtinPlan]
    split
    · rfl
    · rw [checkAlternatives_eq]
      rfl
  | arrayOf =>
    rw [checkBuiltin_arrayOf, Check.builtinPlan]
    cases c.descriptor.element? with
    | none => rfl
    | some element =>
      cases c.value with
      | array items => simp only [checkItems_eq, follow]
      | _ => rfl
  | objectOf =>
    rw [checkBuiltin_objectOf, Check.builtinPlan]
    cases c.descriptor.element? with
    | none => rfl
    | some element =>
      cases c.value with
      | object record =>
        obtain ⟨className, fields⟩ := record
        cases className with
        | none =>
          simp only [checkFields_eq, follow]
          rfl
        | some _ => rfl
      | _ => rfl
  | iface =>
    rw [checkBuiltin_iface, Check.builtinPlan]
    cases c.descriptor.properties? with
    | none => rfl
    | some properties =>
      cases c.value with
      | object record =>
        simp only [checkProperties_eq, follow]
        rfl
      | _ => rfl
  | shape =>
    rw [checkBuiltin_shape, Check.builtinPlan]
    cases c.descriptor.properties? with
    | none => rfl
    | some properties =>
      cases c.value with
      | object record =>
        obtain ⟨className, fields⟩ := record
        cases className with
        | none =>
          -- The two loops of the rule are one list of parts in the plan.
          simp only [checkProperties_eq, checkNames_eq, follow, List.map_append, Run.all_append,
            bind_assoc, pure_bind]
          rfl
        | some _ => rfl
      | _ => rfl
  | _ =>
    rw [checkBuiltin]
    rfl

/-- A check does what following its plan does. -/
theorem check_eq_follow (s : Session) (c : Check) : s.check c = s.follow c (s.plan c) := by
  rw [check_eq, plan]
  cases s.registry.resolve c.descriptor.type with
  | error e => rfl
  | ok resolved =>
    obtain ⟨name, rule⟩ := resolved
    cases rule with
    | builtin type => exact checkBuiltin_eq_follow s type c
    | schema stored =>
      simp only [planOf, List.contains_iff_mem]
      split <;> rfl
    | host rule => rfl

end Session

namespace Validator

variable {v : Validator} {context path : String} {value : Value} {descriptor : Descriptor}

/-- A value that is defined is checked in a fresh session. -/
theorem validate_of_defined (h : value.isUndefined = false) :
    v.validate context path value descriptor =
      (Session.start v.registry v.sink v.options.onFailure).check
        ⟨context, path, value, descriptor, v.options.logErrors⟩ := by
  rw [validate, if_neg (by simp [h])]

/-- Undefined is settled by whether it is allowed. -/
theorem validate_of_undefined (h : value.isUndefined = true) :
    v.validate context path value descriptor =
      if descriptor.required then v.report context (.missing path) >>= fun _ => pure false
      else pure true := by
  rw [validate, if_pos h]

end Validator

end PropShape
