import PropShape.Proofs.Registry.Resolution
import PropShape.Proofs.Schema.Usable

/-!
# `PropShape.Proofs.Schema.Faults`: the error of the first faulty descriptor

`Schema.check_is_exact` says what the check of a schema answers. It passes if
no descriptor in the schema has a fault, and otherwise fails with the fault
that comes first in the order of `Schema.preorder`.

The faults of a descriptor are described without the checker. Its type does
not resolve, or it lacks something of the configuration that the owner of its
type needs (`Descriptor.Lacks`). A descriptor without a fault carries the whole of
that configuration (`Descriptor.Carries`). That the checker asks for the same is
shown type by type (`Descriptor.lacks?_eq_none_iff`, `Descriptor.lacks_of_lacks?`).
-/

set_option autoImplicit false

namespace PropShape

open Relation (ReflTransGen)

namespace Descriptor

variable {registry : Registry} {d : Descriptor} {path : String} {owner : TypeName}
  {requirement : Requirement} {e : PropError}

/-! ## Configuration -/

/-- The descriptor has the configuration that its type needs, if the type is owned by the given
name. -/
def Carries (d : Descriptor) : TypeName → Prop
  | .builtin .iface | .builtin .shape =>
    ∃ properties, d.properties? = some properties ∧ properties.keys ≠ []
  | .builtin .arrayOf | .builtin .objectOf => d.element? ≠ none
  | .builtin .instanceOf => d.className? ≠ none
  | .builtin .oneOf => d.values ≠ []
  | .builtin .oneOfType => d.alternatives ≠ []
  | .builtin .custom => d.predicate? ≠ none
  | _ => True

/-- The descriptor does not have what its type needs, if the type is owned by the given name. -/
inductive Lacks (d : Descriptor) : TypeName → Requirement → Prop
  | properties {type : BuiltinType} (record : type = .iface ∨ type = .shape)
    (h : d.properties? = none) : Lacks d (.builtin type) .properties
  | someProperty {type : BuiltinType} (record : type = .iface ∨ type = .shape)
    {properties : Schema} (h : d.properties? = some properties) (none : properties.keys = []) :
    Lacks d (.builtin type) .someProperty
  | element {type : BuiltinType} (collection : type = .arrayOf ∨ type = .objectOf)
    (h : d.element? = none) : Lacks d (.builtin type) .element
  | className (h : d.className? = none) : Lacks d (.builtin .instanceOf) .className
  | values (h : d.values = []) : Lacks d (.builtin .oneOf) .values
  | alternatives (h : d.alternatives = []) : Lacks d (.builtin .oneOfType) .alternatives
  | predicate (h : d.predicate? = none) : Lacks d (.builtin .custom) .predicate

/-- What a descriptor lacks is found. -/
theorem lacks?_of_lacks (h : d.Lacks owner requirement) : d.lacks? owner = some requirement := by
  cases h with
  | properties record h => rcases record with rfl | rfl <;> simp [lacks?, h]
  | someProperty record h none =>
    rcases record with rfl | rfl <;> simp [lacks?, h, OrderedMap.isEmpty, none]
  | element collection h => rcases collection with rfl | rfl <;> simp [lacks?, h]
  | className h => simp [lacks?, h]
  | values h => simp [lacks?, h]
  | alternatives h => simp [lacks?, h]
  | predicate h => simp [lacks?, h]

/-- What is found to be lacking is lacking. -/
theorem lacks_of_lacks? (h : d.lacks? owner = some requirement) : d.Lacks owner requirement := by
  unfold lacks? at h
  split at h
  -- The cases are those of the checker, in its order: one for each type that needs something.
  case h_1 | h_2 =>
    cases configured : d.properties? with
    | none =>
      rw [configured] at h
      cases h
      exact .properties (by decide) configured
    | some properties =>
      rw [configured] at h
      obtain ⟨empty, ⟨⟩⟩ := Option.ite_none_right_eq_some.mp h
      exact .someProperty (by decide) configured (List.isEmpty_iff.mp empty)
  case h_3 | h_4 =>
    obtain ⟨absent, ⟨⟩⟩ := Option.ite_none_right_eq_some.mp h
    exact .element (by decide) (Option.isNone_iff_eq_none.mp absent)
  case h_5 =>
    obtain ⟨absent, ⟨⟩⟩ := Option.ite_none_right_eq_some.mp h
    exact .className (Option.isNone_iff_eq_none.mp absent)
  case h_6 =>
    obtain ⟨empty, ⟨⟩⟩ := Option.ite_none_right_eq_some.mp h
    exact .values (List.isEmpty_iff.mp empty)
  case h_7 =>
    obtain ⟨empty, ⟨⟩⟩ := Option.ite_none_right_eq_some.mp h
    exact .alternatives (List.isEmpty_iff.mp empty)
  case h_8 =>
    obtain ⟨absent, ⟨⟩⟩ := Option.ite_none_right_eq_some.mp h
    exact .predicate (Option.isNone_iff_eq_none.mp absent)
  case h_9 => cases h

/-- Nothing is found to be lacking exactly if the descriptor carries what its rule needs. -/
theorem lacks?_eq_none_iff : d.lacks? owner = none ↔ d.Carries owner := by
  rcases owner with type | name
  · cases type <;> simp [lacks?, Carries]
    all_goals
      cases d.properties? <;> simp [OrderedMap.isEmpty]
  · simp [lacks?, Carries]

/-- A descriptor is usable if aliases lead from its type to an owner, and it carries what the
owner needs. -/
theorem usable_iff :
    d.Usable registry ↔ ∃ owner rule, registry.Leads d.type owner rule ∧ d.Carries owner := by
  simp only [Usable, lacks?_eq_none_iff]

/-! ## Faults -/

/-- What is wrong with a descriptor at a path, as an error. -/
inductive Fault (registry : Registry) (path : String) (d : Descriptor) : PropError → Prop
  /-- Aliases do not lead from its type to an owner. -/
  | unresolved {e : PropError} (h : registry.resolveType d.type = .error e) :
    Fault registry path d e
  /-- The owner of its type needs something that the descriptor does not have. -/
  | incomplete {owner : TypeName} {rule : Rule} {requirement : Requirement}
    (leads : registry.Leads d.type owner rule) (lacks : d.Lacks owner requirement) :
    Fault registry path d (.invalidDescriptor path (d.type.text ++ " " ++ requirement.text))

/-- The check of a single descriptor fails exactly with its fault. -/
theorem checkSelf_eq_error_iff :
    d.checkSelf registry path = .error e ↔ d.Fault registry path e := by
  constructor
  · intro h
    unfold checkSelf at h
    -- The type is resolved first, and only then the configuration is looked at.
    split at h
    · next e' unresolved =>
      cases h
      exact .unresolved unresolved
    · next owner resolved =>
      split at h
      · next requirement lacking =>
        cases h
        obtain ⟨rule, found⟩ := Registry.resolveType_eq_ok_iff.mp resolved
        exact .incomplete (Registry.resolve_eq_ok_iff.mp found) (lacks_of_lacks? lacking)
      · cases h
  · intro fault
    cases fault with
    | unresolved h => rw [checkSelf, h]
    | @incomplete owner rule requirement leads lacks =>
      have resolved : registry.resolveType d.type = .ok owner :=
        Registry.resolveType_eq_ok_iff.mpr ⟨rule, Registry.resolve_eq_ok_iff.mpr leads⟩
      rw [checkSelf, resolved]
      simp only [lacks?_of_lacks lacks]

end Descriptor

/-- What the check of a schema answers. It passes exactly if aliases lead from the type of every
descriptor in the schema, at any depth and whether it is used there or not, to an owner whose
configuration the descriptor carries. It fails with an error exactly if this is the fault of a
descriptor in the schema and there is no fault in front of it: the properties come in the order
of the schema, a descriptor comes before those inside it, and these come in the order nested
properties, element, alternatives. The path in the error is the name of the property, with a
step added for every nested property and every element on the way. -/
theorem Schema.check_is_exact (schema : Schema) (registry : Registry) :
    (schema.check registry = .ok () ↔
      ∀ name d part, schema.get? name = some d → ReflTransGen Descriptor.Holds d part →
        ∃ owner rule, registry.Leads part.type owner rule ∧ part.Carries owner) ∧
    (∀ e, schema.check registry = .error e ↔
      ∃ before path d after, schema.preorder = before ++ (path, d) :: after ∧
        (∀ passed ∈ before, ∃ owner rule,
          registry.Leads passed.2.type owner rule ∧ passed.2.Carries owner) ∧
        d.Fault registry path e) ∧
    ∀ part, (∃ path, (path, part) ∈ schema.preorder) ↔
      ∃ name d, schema.get? name = some d ∧ ReflTransGen Descriptor.Holds d part := by
  refine ⟨?_, fun e => ?_, fun part => mem_preorder_iff⟩
  · rw [check_eq_ok_iff]
    constructor
    · intro usable name d part declared within
      exact Descriptor.usable_iff.mp (usable name d declared part within)
    · intro carries name d declared part within
      exact Descriptor.usable_iff.mpr (carries name d part declared within)
  · -- The check is one pass through the preorder, so its error is the fault at the first entry
    -- with one.
    rw [check_eq_forM, Except.forM_eq_error_iff]
    simp only [Prod.exists, Descriptor.checkSelf_eq_ok_iff, Descriptor.usable_iff,
      Descriptor.checkSelf_eq_error_iff]

end PropShape
