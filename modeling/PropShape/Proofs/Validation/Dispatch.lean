import PropShape.Proofs.Validation.Options
import PropShape.Proofs.Validation.Requests

/-!
# `PropShape.Proofs.Validation.Dispatch`: schemas and the names in schema files

A schema is registered under a name, and a descriptor in a schema file refers
to it by writing this name as its type. `schemas_are_dispatched_iff` says when
that works: a name has the verdicts of whatever schema is registered under it
exactly if it is not the name of a built-in type.

The two sides turn a text into a type name differently. A schema file reads
the name of a built-in type as that type (`TypeName.ofText`), and so do rules
and aliases when they are registered; a schema is always registered under a
name of its own (`Registry.registerSchema`). A schema under the name of a
built-in type is therefore stored, and no schema file can refer to it.

For the other names there are three cases:

* in a registry with the built-in types and without rules of hosts, the mark
  of the schema changes no verdict (`Session.check_enter_named`);
* in a registry of schemas and aliases alone there are no verdicts at all
  (`Session.check_ne_ok`);
* in any registry, the mark is not noticed by an evaluation that does not come
  back to the schema at its path (`Session.check_expanding`). If the rule of a
  host comes back to it there, the mark makes this a cycle, and the rule may
  take notice.
-/

set_option autoImplicit false

namespace PropShape

open Relation (ReflTransGen)

namespace Registry

variable {registry before after : Registry} {name : String} {stored : Descriptor}

/-- The later registry comes from the earlier one by further registrations of any kind, none
of them under a type name that is written like the given one. -/
def GrowsBeside (name : String) : Registry → Registry → Prop :=
  ReflTransGen fun registry next =>
    ∃ other registration, other.text ≠ name ∧ next = registry.insert other registration

/-- A registry that grows beside a name keeps what it has under it. -/
theorem GrowsBeside.get?_eq (h : GrowsBeside name before after) {other : TypeName}
    (written : other.text = name) : after.get? other = before.get? other := by
  induction h with
  | refl => rfl
  | tail _ step ih =>
    obtain ⟨added, registration, beside, rfl⟩ := step
    have ne : other ≠ added := fun same => beside (same ▸ written)
    rw [get?_insert, if_neg ne, ih]

/-- Nobody has registered a rule: the registries that are built by aliases and schemas, from
the built-in types or from nothing. -/
inductive Hostless : Registry → Prop
  | empty : Hostless empty
  | builtins : Hostless builtins
  | registerAlias {registry : Registry} (built : Hostless registry) (name target : TypeName) :
    Hostless (registry.registerAlias name target)
  | registerSchema {registry : Registry} (built : Hostless registry) (name : String)
    (stored : Descriptor) : Hostless (registry.registerSchema name stored)

/-- Every rule is a schema. -/
def Schematic (registry : Registry) : Prop :=
  ∀ name rule, registry.get? name = some (.rule rule) → ∃ stored, rule = .schema stored

/-- A registry to which nobody has added a rule is built from the built-in types, or has no
rules but schemas. -/
theorem Hostless.declarative_or_schematic (h : registry.Hostless) :
    registry.Declarative ∨ registry.Schematic := by
  induction h with
  -- Starting from nothing, every rule there will ever be is a schema.
  | empty => exact .inr fun _ _ absent => nomatch absent
  | builtins => exact .inl .builtins
  | registerAlias built name target ih =>
    refine ih.imp (.registerAlias · name target) fun schematic other rule found => ?_
    rw [Registry.registerAlias, get?_insert] at found
    split at found
    · cases found
    · exact schematic other rule found
  | registerSchema built name stored ih =>
    refine ih.imp (.registerSchema · name stored) fun schematic other rule found => ?_
    rw [Registry.registerSchema, get?_insert] at found
    split at found
    · cases found
      exact ⟨stored, rfl⟩
    · exact schematic other rule found

/-- A schema is stored under the name it was registered with. -/
theorem get?_registerSchema_self :
    (registry.registerSchema name stored).get? (.named name) = some (.rule (.schema stored)) := by
  rw [registerSchema, get?_insert, if_pos rfl]

/-- A schema takes the place of no built-in type, whatever its name is. -/
theorem get?_registerSchema_builtin (type : BuiltinType) :
    (registry.registerSchema name stored).get? (.builtin type) = registry.get? (.builtin type) := by
  rw [registerSchema, get?_insert, if_neg (by simp)]

end Registry

namespace Session

variable {s : Session} {c : Check}

/-- Without built-in types nothing is ever decided. Schemas lead to each other until there is
a cycle or a name that does not resolve. -/
theorem check_ne_ok (schematic : s.registry.Schematic) (verdict : Bool) :
    (s.check c).result ≠ .ok verdict := by
  induction s, c using check_induction with
  | step s c ih =>
    rw [check_eq_follow]
    have fits := fits_plan s c
    rcases plan_cases s c with ⟨name, type, leads, -⟩ | ⟨e, h⟩ | ⟨name, inner, h⟩ | ⟨rule, h⟩
    · obtain ⟨_, other⟩ := schematic _ _ leads.owned
      cases other
    · rw [h]
      exact fun ended => nomatch ended
    · -- The registry is the same inside of a schema.
      rw [h]
      exact ih _ inner (.enter h) schematic
    · rw [h] at fits
      obtain ⟨_, leads⟩ := fits
      obtain ⟨_, other⟩ := schematic _ _ leads.owned
      cases other

end Session

namespace Validator

variable {registry : Registry} {sink : Sink} {options : ValidationOptions} {name : String}
  {context path : String} {value : Value} {descriptor stored : Descriptor} {verdict : Bool}

/-- By its name, a schema is entered. -/
theorem validate_of_named (registered : registry.get? (.named name) = some (.rule (.schema stored)))
    (typed : descriptor.type = .named name) (hvalue : value.isUndefined = false) :
    validate ⟨registry, sink, options⟩ context path value descriptor =
      ((Session.start registry sink options.onFailure).enter (.named name) path).check
        ⟨context, path, value, stored, options.logErrors⟩ := by
  have leads : registry.Leads descriptor.type (.named name) (.schema stored) := by
    rw [typed]
    exact ⟨.refl, registered⟩
  rw [validate_of_defined hvalue]
  exact Session.check_of_schema (Registry.resolve_eq_ok_iff.mpr leads) (by simp [Session.start])

/-- Without rules of hosts, a schema is the same by its name and as a descriptor. -/
theorem eq_ok_iff_of_named_of_declarative (built : registry.Declarative)
    (registered : registry.get? (.named name) = some (.rule (.schema stored)))
    (typed : descriptor.type = .named name) (hvalue : value.isUndefined = false) :
    (validate ⟨registry, sink, options⟩ context path value descriptor).result = .ok verdict ↔
      (validate ⟨registry, sink, options⟩ context path value stored).result = .ok verdict := by
  have compared := Session.check_enter_named (s := .start registry sink .log) built rfl rfl
    registered context path value true
  have byName : validate ⟨registry, sink, ⟨true, .log⟩⟩ context path value descriptor = _ :=
    validate_of_named registered typed hvalue
  have direct : validate ⟨registry, sink, ⟨true, .log⟩⟩ context path value stored = _ :=
    validate_of_defined hvalue
  rw [← byName, ← direct] at compared
  -- A cycle is no verdict, so it does not matter what is reported before it.
  refine eq_ok_iff_of_logging built hvalue ?_ ?_ options
  · rcases compared with same | ⟨cycle, others⟩
    · rw [same]
    · rw [cycle, others]
  · intro passed ended
    rcases compared with same | ⟨cycle, -⟩
    · rw [same]
    · rw [cycle] at ended
      cases ended

/-- A schema is the same by its name and as a descriptor, unless there are rules of hosts and
its evaluation may come back to it at the path where it is entered. -/
theorem eq_ok_iff_of_named
    (registered : registry.get? (.named name) = some (.rule (.schema stored)))
    (typed : descriptor.type = .named name) (hvalue : value.isUndefined = false)
    (unnoticed : registry.Hostless ∨
      ¬ Session.ComesTo (.named name) path (.start registry sink options.onFailure)
        ⟨context, path, value, stored, options.logErrors⟩) :
    (validate ⟨registry, sink, options⟩ context path value descriptor).result = .ok verdict ↔
      (validate ⟨registry, sink, options⟩ context path value stored).result = .ok verdict := by
  -- Either there are no host rules, or the extra mark on the name is never looked at.
  rcases unnoticed with hostless | away
  · rcases hostless.declarative_or_schematic with built | schematic
    · exact eq_ok_iff_of_named_of_declarative built registered typed hvalue
    · rw [validate_of_defined hvalue, validate_of_defined hvalue]
      exact iff_of_false (Session.check_ne_ok schematic verdict)
        (Session.check_ne_ok schematic verdict)
  · have same := Session.check_expanding (Session.adds_singleton (.named name) path) away
    rw [validate_of_named registered typed hvalue, validate_of_defined hvalue]
    exact iff_of_eq (congrArg (fun run : Run Bool => run.result = .ok verdict) same)

/-- A type that is not configured any further accepts instances of a class only if it accepts
everything. -/
theorem validate_instance (type : BuiltinType)
    (owned : registry.get? (.builtin type) = some (.rule (.builtin type))) (className : String) :
    (validate ⟨registry, sink, {}⟩ context path (.object (.ofClass className))
      (.ofType (.builtin type))).result = .ok (type == .any) := by
  rw [validate_of_defined rfl,
    Session.check_of_builtin (Registry.resolve_eq_ok_iff.mpr ⟨.refl, owned⟩),
    Session.checkBuiltin_eq_follow]
  cases type <;> rfl

/-- A registered schema is what schema files dispatch to exactly if its name is not that of a
built-in type. For any other name, a descriptor with this name as its type comes to the
verdicts of the schema: about every defined value, at every path and under every options,
whatever is registered before the schema, and after it under other names. In registries without
rules of hosts this is so without exception, and in all others whenever the evaluation of the
schema does not come back to it at the path. For the name of each built-in type there is a
schema whose verdicts are not those of the name. -/
theorem schemas_are_dispatched_iff (name : String) :
    (∀ type : BuiltinType, type.text ≠ name) ↔
      ∀ (registry after : Registry) (stored descriptor : Descriptor),
        Registry.GrowsBeside name (registry.registerSchema name stored) after →
        descriptor.type = .ofText name →
        ∀ (sink : Sink) (options : ValidationOptions) (context path : String) (value : Value),
          value.isUndefined = false →
          (after.Hostless ∨
            ¬ Session.ComesTo (.named name) path (.start after sink options.onFailure)
              ⟨context, path, value, stored, options.logErrors⟩) →
          ∀ verdict,
            (validate ⟨after, sink, options⟩ context path value descriptor).result = .ok verdict ↔
              (validate ⟨after, sink, options⟩ context path value stored).result =
                .ok verdict := by
  constructor
  · intro apart registry after stored descriptor later typed sink options context path value
      hvalue unnoticed verdict
    rw [TypeName.ofText_of_ne apart] at typed
    have written : (TypeName.named name).text = name := rfl
    have registered := (later.get?_eq written).trans Registry.get?_registerSchema_self
    exact eq_ok_iff_of_named registered typed hvalue unnoticed
  · rintro dispatched type rfl
    -- A schema that tells instances apart from the built-in type of its name.
    obtain ⟨other, differs⟩ : ∃ other : BuiltinType, (other == .any) ≠ (type == .any) := by
      cases type <;> first | exact ⟨.any, by decide⟩ | exact ⟨.null, by decide⟩
    let after := Registry.builtins.registerSchema type.text (.ofType (.builtin other))
    have owned : ∀ builtin, after.get? (.builtin builtin) = some (.rule (.builtin builtin)) :=
      fun builtin =>
        (Registry.get?_registerSchema_builtin builtin).trans (Registry.get?_builtins builtin)
    have same := dispatched .builtins after (.ofType (.builtin other)) (.ofType (.builtin type))
      .refl (TypeName.ofText_text type).symm .memory {} "object" "property"
      (.object (.ofClass "Class")) rfl (.inl (.registerSchema .builtins _ _)) (other == .any)
    rw [validate_instance type (owned type), validate_instance other (owned other)] at same
    exact differs (Except.ok.inj (same.mpr rfl)).symm

/-- A schema for numbers under the name of the built-in strings. A number conforms to the
schema, and a schema file that asks for its name rejects it. -/
theorem schema_named_string_is_ignored :
    let registry := Registry.builtins.registerSchema "string" (.ofType (.builtin .number))
    let v : Validator := ⟨registry, .memory, {}⟩
    (v.validate "ctx" "prop" (.number (.ofNat 1)) (.ofType (.builtin .number))).result =
        .ok true ∧
      (v.validate "ctx" "prop" (.number (.ofNat 1)) (.ofType (.ofText "string"))).result =
        .ok false := by
  intro registry v
  -- The built-in types keep their rules, the one with that text included.
  have owned : ∀ type, registry.resolve (.builtin type) = .ok (.builtin type, .builtin type) := by
    intro type
    refine Registry.resolve_eq_ok_iff.mpr ⟨.refl, ?_⟩
    exact (Registry.get?_registerSchema_builtin type).trans (Registry.get?_builtins type)
  constructor
  · rw [validate_of_defined rfl, Session.check_of_builtin (owned .number),
      Session.checkBuiltin_eq_follow]
    rfl
  · rw [validate_of_defined rfl, Session.check_of_builtin (owned .string),
      Session.checkBuiltin_eq_follow]
    rfl

end Validator

end PropShape
