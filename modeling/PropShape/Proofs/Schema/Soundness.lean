import PropShape.Proofs.Schema.Usable
import PropShape.Proofs.Validation.Origin
import PropShape.Proofs.Validation.Silence

/-!
# `PropShape.Proofs.Schema.Soundness`: a schema that passes the check is fit for use

The check of a schema and the rules of the types have separate ideas of what a
type needs. Here they are compared: what the check lets pass, no rule complains
about, wherever validation gets to.

* `Check.lacks_of_misconfigured`: a rule that cannot use a descriptor misses
  something that the check would have missed.
* `Session.Calls.usable`: the descriptor of a nested check lies inside the one
  of the check, or it is a stored schema. So if the schemas of the registry
  pass the check as well, all descriptors that an evaluation gets to do.
* `Session.check_wellDeclared`, `checked_schema_is_sound`: hence nothing is
  reported about the declaration, and the only error that is left is a schema
  that comes back to itself. That is no property of a single descriptor, and
  the check does not look for it.
-/

set_option autoImplicit false

namespace PropShape

open Relation (ReflTransGen)

/-- Nothing in the declaration was found to be wrong, other than that it leads back to
itself. -/
structure Run.WellDeclared {α : Type} (run : Run α) : Prop where
  reports : ∀ d ∈ run.diagnostics, ∀ m, d.message ≠ .misconfiguration m
  errors : ∀ e, run.result = .error e → ∃ path, e = .descriptorCycle path

namespace Run

variable {α β : Type}

/-- A run that does nothing has nothing to complain about. -/
theorem wellDeclared_pure (a : α) : (pure a : Run α).WellDeclared :=
  ⟨by simp, by simp⟩

/-- Two runs one after the other are well declared if both are. -/
theorem WellDeclared.bind {run : Run α} {next : α → Run β} (first : run.WellDeclared)
    (rest : ∀ a, (next a).WellDeclared) : (run >>= next).WellDeclared := by
  refine ⟨fun d h => ?_, fun e h => ?_⟩
  · rcases mem_diagnostics_bind.mp h with h | ⟨a, -, h⟩
    · exact first.reports d h
    · exact (rest a).reports d h
  · rcases bind_eq_error_iff.mp h with h | ⟨a, -, h⟩
    · exact first.errors e h
    · exact (rest a).errors e h

/-- A failure that is logged is neither about the declaration nor an error. -/
theorem wellDeclared_warn (sink : Sink) (context : String) (failure : Failure) :
    (sink.warn context (.failure failure) .log).WellDeclared := by
  refine ⟨fun d h m => ?_, fun e h => (by cases h)⟩
  have reported : d ∈ (if sink.keeps .log then
      [(⟨context, .failure failure, .log⟩ : Diagnostic)] else []) := h
  rw [if_pos sink.keeps_log] at reported
  obtain rfl := List.mem_singleton.mp reported
  exact fun about => (by cases about)

end Run

namespace Check

variable {c inner : Check} {type : BuiltinType}

/-- Whatever a rule complains about, the check of the descriptor misses it too. -/
theorem lacks_of_misconfigured {m : Misconfiguration} (h : c.builtinPlan type = .misconfigured m) :
    ∃ requirement, c.descriptor.lacks? (.builtin type) = some requirement := by
  cases type with
  | instanceOf =>
    simp only [builtinPlan] at h
    split at h
    · next missing => exact ⟨.className, by simp [Descriptor.lacks?, missing]⟩
    · cases h
  | custom =>
    simp only [builtinPlan] at h
    split at h
    · next missing => exact ⟨.predicate, by simp [Descriptor.lacks?, missing]⟩
    · cases h
  | oneOf =>
    simp only [builtinPlan] at h
    split at h
    · next missing => exact ⟨.values, if_pos missing⟩
    · cases h
  | oneOfType =>
    simp only [builtinPlan] at h
    split at h
    · next missing => exact ⟨.alternatives, if_pos missing⟩
    · cases h
  | arrayOf | objectOf =>
    simp only [builtinPlan] at h
    split at h
    · next missing => exact ⟨.element, by simp [Descriptor.lacks?, missing]⟩
    · -- Whether the value is a collection or not, the rule has what it needs.
      split at h <;> cases h
  | iface | shape =>
    simp only [builtinPlan] at h
    split at h
    · next missing => exact ⟨.properties, by simp [Descriptor.lacks?, missing]⟩
    · split at h <;> cases h
  | _ => cases h

/-- The items are checked against the element descriptor. -/
theorem descriptor_of_mem_itemParts {element : Descriptor} {index : Nat} {items : List Value}
    (h : .check inner ∈ c.itemParts element index items) : inner.descriptor = element := by
  obtain ⟨pair, -, heq⟩ := List.mem_map.mp h
  cases heq
  rfl

/-- The fields are checked against the element descriptor. -/
theorem descriptor_of_mem_fieldParts {element : Descriptor} {fields : List (String × Value)}
    (h : .check inner ∈ c.fieldParts element fields) : inner.descriptor = element := by
  obtain ⟨pair, -, heq⟩ := List.mem_map.mp h
  cases heq
  rfl

/-- A property is checked against its own descriptor, which the shape holds. -/
theorem holds_of_mem_propertyParts {record : Record} {properties : Schema}
    (declared : c.descriptor.properties? = some properties)
    (h : .check inner ∈ c.propertyParts record properties.toList) :
    c.descriptor.Holds inner.descriptor := by
  obtain ⟨⟨key, descriptor⟩, mem, heq⟩ := List.mem_map.mp h
  have listed : properties.get? key = some descriptor :=
    (OrderedMap.get?_eq_some_iff _ _ _).mpr mem
  simp only at heq
  split at heq
  · cases heq
  · cases heq
    exact .property declared listed

/-- The parts of a value are checked against descriptors that the descriptor holds. -/
theorem holds_of_builtinPlan {parts : List Part} {failure : Failure}
    (h : c.builtinPlan type = .all parts failure) (mem : .check inner ∈ parts) :
    c.descriptor.Holds inner.descriptor := by
  cases type with
  -- These types have no nested checks in sequence.
  | instanceOf | custom | oneOf | oneOfType =>
    simp only [builtinPlan] at h
    split at h <;> cases h
  | arrayOf =>
    simp only [builtinPlan] at h
    split at h
    · cases h
    · next element declared =>
      split at h
      · cases h
        rw [descriptor_of_mem_itemParts mem]
        exact .element declared
      · cases h
  | objectOf =>
    simp only [builtinPlan] at h
    split at h
    · cases h
    · next element declared =>
      split at h
      · cases h
        rw [descriptor_of_mem_fieldParts mem]
        exact .element declared
      · cases h
  | iface =>
    simp only [builtinPlan] at h
    split at h
    · cases h
    · next properties declared =>
      split at h
      · cases h
        exact holds_of_mem_propertyParts declared mem
      · cases h
  | shape =>
    simp only [builtinPlan] at h
    split at h
    · cases h
    · next properties declared =>
      split at h
      · cases h
        -- The names that a record must not have are settled without a check.
        rcases List.mem_append.mp mem with mem | mem
        · exact holds_of_mem_propertyParts declared mem
        · exact absurd mem check_notMem_nameParts
      · cases h
  | _ => cases h

end Check

namespace Session

variable {s t : Session} {c inner : Check} {moves : List Move}

/-- The nested checks of a plan are against descriptors that the descriptor holds. -/
theorem holds_of_plan {parts : List Part} {failure : Failure}
    (h : s.plan c = .all parts failure) (mem : .check inner ∈ parts) :
    c.descriptor.Holds inner.descriptor := by
  rcases plan_cases s c with ⟨-, type, -, hplan⟩ | ⟨e, hplan⟩ | ⟨name, inner, hplan⟩ | ⟨rule, hplan⟩
  · exact Check.holds_of_builtinPlan (hplan.symm.trans h) mem
  all_goals
    rw [h] at hplan
    cases hplan

/-- No rule complains about a descriptor that is usable. -/
theorem plan_ne_misconfigured (built : s.registry.Declarative)
    (usable : c.descriptor.Usable s.registry) (m : Misconfiguration) :
    s.plan c ≠ .misconfigured m := by
  intro h
  obtain ⟨owner, rule, leads, complete⟩ := usable
  rcases plan_cases s c with ⟨name, type, leads', hplan⟩ | ⟨e, hplan⟩ | ⟨name, inner, hplan⟩ |
    ⟨rule, hplan⟩
  · -- The check goes by the name of the owner, and a built-in rule is owned by its own name.
    obtain ⟨rfl, rfl⟩ := leads.unique leads'
    cases built.owns leads.owned
    obtain ⟨requirement, lacks⟩ := Check.lacks_of_misconfigured (hplan.symm.trans h)
    rw [complete] at lacks
    cases lacks
  all_goals
    rw [h] at hplan
    cases hplan

/-- All that a usable descriptor can raise is a cycle. -/
theorem eq_descriptorCycle_of_usable (usable : c.descriptor.Usable s.registry) {e : PropError}
    (h : s.plan c = .raise e) : e = .descriptorCycle c.path := by
  rcases cause_of_plan h with unresolved | ⟨name, stored, -, -, cycle⟩
  · obtain ⟨owner, rule, leads, -⟩ := usable
    rw [Registry.resolve_eq_ok_iff.mpr leads] at unresolved
    cases unresolved
  · exact cycle

/-- Nested checks have usable descriptors. -/
theorem Calls.usable (checked : s.registry.Checked) (h : s.Calls c t inner)
    (usable : c.descriptor.UsableThroughout s.registry) :
    inner.descriptor.UsableThroughout t.registry := by
  rw [h.registry_eq]
  -- A part and an alternative are held by the descriptor, and a stored schema was checked.
  cases h with
  | part h mem => exact usable.of_holds (holds_of_plan h mem)
  | enter h =>
    obtain ⟨stored, leads, -, rfl⟩ := stored_of_plan h
    exact checked.usable leads.owned
  | alternative h mem =>
    obtain ⟨-, descriptor, listed, rfl⟩ := alternative_of_plan h mem
    exact usable.of_holds (.alternative listed)

/-- Every check that is reached is against a descriptor that is usable throughout: a part of a
usable one, or a stored schema that was checked. -/
theorem Reaches.usable (checked : s.registry.Checked) (h : s.Reaches c moves t inner)
    (usable : c.descriptor.UsableThroughout s.registry) :
    inner.descriptor.UsableThroughout t.registry := by
  induction h with
  | refl => exact usable
  | head first rest ih =>
    have checked' := first.calls.registry_eq ▸ checked
    exact ih checked' (first.calls.usable checked usable)

/-- A check against a usable descriptor finds nothing wrong with the declaration, except
that it leads back to itself. -/
theorem check_wellDeclared (built : s.registry.Declarative) (checked : s.registry.Checked)
    (log : s.onFailure = .log) (usable : c.descriptor.UsableThroughout s.registry) :
    (s.check c).WellDeclared := by
  refine ⟨fun d reported m about => ?_, fun e h => ?_⟩
  · -- A report comes from a check that is reached, and its descriptor is usable as well.
    obtain ⟨moves, t, inner, reached, tells⟩ := exists_reaches_of_mem_diagnostics built reported
    have built' : t.registry.Declarative := reached.registry_eq ▸ built
    cases tells with
    | misconfiguration h =>
      exact plan_ne_misconfigured built' (reached.usable checked usable).usable _ h
    | failure => cases about
  · have notRaised : ∀ message, e ≠ .failed message := by
      rintro message rfl
      -- Under this policy no report is raised.
      cases isConfiguration_of_eq_error built log h
    obtain ⟨moves, t, inner, reached, raised⟩ := (check_eq_error_iff built notRaised).mp h
    exact ⟨_, eq_descriptorCycle_of_usable (reached.usable checked usable).usable raised⟩

end Session

namespace Validator

variable {v : Validator}

/-- Validation against a usable descriptor complains about no declaration. -/
theorem validate_wellDeclared (built : v.registry.Declarative) (checked : v.registry.Checked)
    (log : v.options.onFailure = .log) {descriptor : Descriptor}
    (usable : descriptor.UsableThroughout v.registry) (context path : String) (value : Value) :
    (v.validate context path value descriptor).WellDeclared := by
  cases hvalue : value.isUndefined with
  | true =>
    rw [validate_of_undefined hvalue]
    split
    · -- An undefined value is at most reported as missing.
      have reports : (v.report context (.missing path)).WellDeclared := by
        unfold report
        split
        · rw [log]
          exact Run.wellDeclared_warn v.sink context (.missing path)
        · exact Run.wellDeclared_pure ()
      exact reports.bind fun _ => Run.wellDeclared_pure false
    · exact Run.wellDeclared_pure true
  | false =>
    rw [validate_of_defined hvalue]
    exact Session.check_wellDeclared (s := .start v.registry v.sink v.options.onFailure) built
      checked log usable

/-- Nor does the validation of an object whose properties are usable. -/
theorem failedProperties_wellDeclared (built : v.registry.Declarative)
    (checked : v.registry.Checked) (log : v.options.onFailure = .log) (context : String)
    (object : Record) (spread : Option String) (properties : List (String × Descriptor))
    (usable : ∀ property ∈ properties, property.2.UsableThroughout v.registry) :
    (v.failedProperties context object spread properties).WellDeclared := by
  -- Property by property; each is validated against its own descriptor.
  induction properties with
  | nil => exact Run.wellDeclared_pure []
  | cons property rest ih =>
    obtain ⟨name, descriptor⟩ := property
    obtain ⟨first, others⟩ := List.forall_mem_cons.mp usable
    refine (validate_wellDeclared built checked log first context name _).bind fun passed => ?_
    exact (ih others).bind fun failed => Run.wellDeclared_pure _

/-- The check of a schema is sound. If the schema passes it, and every schema that is stored
in the registry does, then neither the validation of an object nor that of a value against
any descriptor of the schema reports a mistake in the declaration, and the only error that
they may end in, where failures are logged, is that a schema comes back to itself. -/
theorem checked_schema_is_sound (v : Validator) (built : v.registry.Declarative)
    (log : v.options.onFailure = .log) (stored : v.registry.Checked) (schema : Schema)
    (checked : schema.check v.registry = .ok ()) :
    (∀ context object settings, settings.throwErrors = false →
      (v.validateProperties context object schema settings).WellDeclared) ∧
    ∀ name declared, schema.get? name = some declared →
      ∀ descriptor, ReflTransGen Descriptor.Holds declared descriptor →
        ∀ context path value, (v.validate context path value descriptor).WellDeclared := by
  have usable := Schema.check_eq_ok_iff.mp checked
  constructor
  · intro context object settings logs
    -- Settings that do not raise leave the validator as it is.
    have same : v.withSettings settings = v := if_neg (by simp [logs])
    have listed : ∀ property ∈ schema.toList, property.2.UsableThroughout v.registry := by
      rintro ⟨name, descriptor⟩ mem
      exact usable name descriptor ((OrderedMap.get?_eq_some_iff _ _ _).mpr mem)
    unfold validateProperties
    rw [same]
    refine Run.WellDeclared.bind ?_ fun failed => Run.wellDeclared_pure _
    exact failedProperties_wellDeclared built stored log context object _ _ listed
  · intro name declared hget descriptor inside context path value
    -- A descriptor inside a usable one is usable throughout.
    have throughout : descriptor.UsableThroughout v.registry :=
      fun part deeper => usable name declared hget part (inside.trans deeper)
    exact validate_wellDeclared built stored log throughout context path value

/-- One property that holds a linked list. -/
def listSchema : Schema := .ofList [("head", .ofType (.named "node"))]

/-- The schema of linked lists passes the check, although its nodes lead back to
themselves, and so does a schema that holds a list. -/
theorem checked_schema_is_sound_list :
    Registry.linked.Declarative ∧ Registry.linked.Checked ∧
      listSchema.check .linked = .ok () ∧
      ∀ object, (validateProperties ⟨.linked, .memory, {}⟩ "list" object listSchema
        {}).WellDeclared := by
  have checked := Registry.checked_linked
  have passes : listSchema.check .linked = .ok () := by
    refine Schema.check_eq_ok_iff.mpr fun name d h => ?_
    -- There is only one property to find.
    obtain ⟨-, rfl⟩ : name = "head" ∧ Descriptor.ofType (.named "node") = d := by
      simpa [listSchema, OrderedMap.ofList, OrderedMap.get?_insert] using h
    exact Descriptor.usableThroughout_ofType Registry.leads_linked_node rfl
  have sound := checked_schema_is_sound ⟨.linked, .memory, {}⟩ Registry.declarative_linked rfl
    checked listSchema passes
  exact ⟨Registry.declarative_linked, checked, passes, fun object => sound.1 "list" object {} rfl⟩

end Validator

end PropShape
