import PropShape.Proofs.Validation.Lockstep

/-!
# `PropShape.Proofs.Validation.Parallel`: one value against one descriptor, twice

Two evaluations that check the same value against the same descriptor ask for
the same nested checks, whatever else tells them apart: the path, whether
they report, the sink, the policy, or the schemas that are being expanded.

* `Check.Parallel` relates a nested check of one evaluation to the nested
  check that stands in its place in the other.
* `Check.alike_builtinPlan`: for each built-in type the two plans are alike.
* `Session.related_of_parallel` is what follows. To compare two evaluations it
  is enough to say how they report, and what they do at a schema
  (`Pairing.Parallel`); that is the only place where a session decides by
  itself how to go on.
-/

set_option autoImplicit false

namespace PropShape

/-- The nested check `other` stands in the place below `d` that `inner` has below `c`. -/
inductive Check.Parallel (c d : Check) : Check → Check → Prop
  | item (index : Nat) (value : Value) (descriptor : Descriptor) :
    Parallel c d { c with path := Path.item c.path index, value, descriptor }
      { d with path := Path.item d.path index, value, descriptor }
  | key (key : String) (value : Value) (descriptor : Descriptor) :
    Parallel c d { c with path := Path.key c.path key, value, descriptor }
      { d with path := Path.key d.path key, value, descriptor }
  | alternative (descriptor : Descriptor) :
    Parallel c d { c with descriptor, logErrors := false }
      { d with descriptor, logErrors := false }

namespace Check

variable {R : Run Bool → Run Bool → Prop} {Pair : Pairing} {s t : Session} {c d : Check}

section Parts

variable (nested : ∀ {inner other}, c.Parallel d inner other → Pair s inner t other)
  (report : ∀ passed (failure : String → Failure),
    R (s.expect c passed (failure c.path)) (t.expect d passed (failure d.path)))

include nested in
/-- The items of an array are checked alike, if the checks of the parts are. -/
theorem alike_itemParts (element : Descriptor) (index : Nat) (items : List Value) :
    List.Forall₂ (Part.Alike R Pair s c t d) (c.itemParts element index items)
      (d.itemParts element index items) := by
  refine List.forall₂_map_left_iff.mpr (List.forall₂_map_right_iff.mpr ?_)
  exact List.forall₂_same.mpr fun ⟨value, index⟩ _ => .check (nested (.item index value element))

include nested in
/-- The fields of a record are checked alike, if the checks of the parts are. -/
theorem alike_fieldParts (element : Descriptor) (fields : List (String × Value)) :
    List.Forall₂ (Part.Alike R Pair s c t d) (c.fieldParts element fields)
      (d.fieldParts element fields) := by
  refine List.forall₂_map_left_iff.mpr (List.forall₂_map_right_iff.mpr ?_)
  exact List.forall₂_same.mpr fun ⟨key, value⟩ _ => .check (nested (.key key value element))

include nested report in
/-- Declared properties are checked alike, if the checks of the parts are. -/
theorem alike_propertyParts (record : Record) (properties : List (String × Descriptor)) :
    List.Forall₂ (Part.Alike R Pair s c t d) (c.propertyParts record properties)
      (d.propertyParts record properties) := by
  refine List.forall₂_map_left_iff.mpr (List.forall₂_map_right_iff.mpr ?_)
  refine List.forall₂_same.mpr fun ⟨key, descriptor⟩ _ => ?_
  dsimp only
  cases record.lookup? key with
  | none => exact .settle (report (!descriptor.required) (.missingKey · key))
  | some value => exact .check (nested (.key key value descriptor))

include report in
/-- The names of a record are settled alike. -/
theorem alike_nameParts (declared names : List String) :
    List.Forall₂ (Part.Alike R Pair s c t d) (c.nameParts declared names)
      (d.nameParts declared names) := by
  refine List.forall₂_map_left_iff.mpr (List.forall₂_map_right_iff.mpr ?_)
  refine List.forall₂_same.mpr fun name _ => ?_
  exact .settle (report (Session.declares declared name) (.unknownKey · name))

include nested in
/-- The alternatives of one descriptor are paired one by one. -/
theorem alike_alternatives (descriptor : c.descriptor = d.descriptor) :
    List.Forall₂ (fun inner other => Pair s inner t other) c.alternatives d.alternatives := by
  unfold alternatives
  rw [descriptor]
  refine List.forall₂_map_left_iff.mpr (List.forall₂_map_right_iff.mpr ?_)
  exact List.forall₂_same.mpr fun alternative _ => nested (.alternative alternative)

end Parts

/-- A built-in type asks the same of the same value and descriptor, and has the same to say
about it, apart from the path. -/
theorem alike_builtinPlan (value : c.value = d.value) (descriptor : c.descriptor = d.descriptor)
    (nested : ∀ {inner other}, c.Parallel d inner other → Pair s inner t other)
    (report : ∀ passed (failure : String → Failure),
      R (s.expect c passed (failure c.path)) (t.expect d passed (failure d.path)))
    (misconfigured : ∀ m, R (s.misconfigured c m) (t.misconfigured d m)) (type : BuiltinType) :
    Plan.Alike R Pair s c t d (c.builtinPlan type) (d.builtinPlan type) := by
  have settle : ∀ passed (failure : String → Failure),
      Plan.Alike R Pair s c t d (.settle passed (failure c.path))
        (.settle passed (failure d.path)) :=
    fun passed failure => .settle (report passed failure)
  -- Both plans look at the same value and the same descriptor, so they branch alike.
  cases type with
  | any => exact .pass
  | instanceOf =>
    simp only [builtinPlan, value, descriptor]
    split
    · exact .misconfigured (misconfigured _)
    · next className _ => exact settle _ (.notInstanceOf · className)
  | custom =>
    simp only [builtinPlan, value, descriptor]
    split
    · exact .misconfigured (misconfigured _)
    · exact settle _ .notCustom
  | oneOf =>
    simp only [builtinPlan, value, descriptor]
    split
    · exact .misconfigured (misconfigured _)
    · exact settle _ (.notListed · d.descriptor.values)
  | oneOfType =>
    have tried := alike_alternatives nested descriptor
    simp only [builtinPlan, descriptor]
    split
    · exact .misconfigured (misconfigured _)
    · refine .any tried fun passed => ?_
      exact report passed
        (.noAlternative · (d.descriptor.alternatives.map Descriptor.expectedType))
  | arrayOf =>
    simp only [builtinPlan, value, descriptor]
    split
    · exact .misconfigured (misconfigured _)
    · next element _ =>
      have fails := fun passed => report passed (.notArrayOf · element.expectedType)
      split
      · exact .all (alike_itemParts nested _ _ _) fails
      · exact .settle (fails false)
  | objectOf =>
    simp only [builtinPlan, value, descriptor]
    split
    · exact .misconfigured (misconfigured _)
    · next element _ =>
      have fails := fun passed => report passed (.notObjectOf · element.expectedType)
      split
      · exact .all (alike_fieldParts nested _ _) fails
      · exact .settle (fails false)
  | iface =>
    have fails := fun passed => report passed (.mismatch · .interface d.value)
    simp only [builtinPlan, value, descriptor]
    split
    · exact .misconfigured (misconfigured _)
    · split
      · exact .all (alike_propertyParts nested report _ _) fails
      · exact .settle (fails false)
  | shape =>
    have fails := fun passed => report passed (.mismatch · .shape d.value)
    simp only [builtinPlan, value, descriptor]
    split
    · exact .misconfigured (misconfigured _)
    · split
      · refine .all ?_ fails
        exact List.rel_append (alike_propertyParts nested report _ _) (alike_nameParts report _ _)
      · exact .settle (fails false)
  | _ =>
    simp only [builtinPlan, BuiltinType.kind?, value]
    exact settle _ (.notOfKind · _)

end Check

/-- What it takes to compare two evaluations of the same value against the same
descriptor, with a relation between their runs. -/
structure Pairing.Parallel (R : (α : Type) → Run α → Run α → Prop) (Pair : Pairing) : Prop where
  congruence : Run.Congruence R
  built {s t : Session} {c d : Check} (pair : Pair s c t d) : s.registry.Declarative
  same {s t : Session} {c d : Check} (pair : Pair s c t d) :
    s.registry = t.registry ∧ c.value = d.value ∧ c.descriptor = d.descriptor
  /-- Nested checks are compared with those in the same place. -/
  nested {s t : Session} {c d inner other : Check} (pair : Pair s c t d)
    (h : c.Parallel d inner other) : Pair s inner t other
  /-- The verdicts are the same, and so are the failures apart from the path. -/
  report {s t : Session} {c d : Check} (pair : Pair s c t d) (passed : Bool)
    (failure : String → Failure) :
    R Bool (s.expect c passed (failure c.path)) (t.expect d passed (failure d.path))
  misconfigured {s t : Session} {c d : Check} (pair : Pair s c t d) (m : Misconfiguration) :
    R Bool (s.misconfigured c m) (t.misconfigured d m)
  /-- A mistake that is found before any rule is invoked. -/
  unresolved {registry : Registry} {name : TypeName} {e : PropError}
    (h : registry.resolve name = .error e) : R Bool (.raise e) (.raise e)
  /-- At a schema the runs are known to be related, or both evaluations enter it. -/
  schema {s t : Session} {c d : Check} {name : TypeName} {stored : Descriptor}
    (pair : Pair s c t d) (leads : s.registry.Leads c.descriptor.type name (.schema stored)) :
    R Bool (s.check c) (t.check d) ∨
      (name, c.path) ∉ s.active ∧ (name, d.path) ∉ t.active ∧
        Pair (s.enter name c.path) { c with descriptor := stored } (t.enter name d.path)
          { d with descriptor := stored }

namespace Session

variable {R : (α : Type) → Run α → Run α → Prop} {Pair : Pairing} {s t : Session} {c d : Check}

/-- Evaluations of the same value against the same descriptor have related runs, if they
report in related ways and go on alike at every schema. -/
theorem related_of_parallel (parallel : Pairing.Parallel R Pair) (pair : Pair s c t d) :
    R Bool (s.check c) (t.check d) := by
  refine related_of_related_or_alike parallel.congruence (fun s c t d pair => ?_) pair
  obtain ⟨registry, value, descriptor⟩ := parallel.same pair
  -- The type resolves to the same rule on both sides.
  cases h : s.registry.resolve c.descriptor.type with
  | error e =>
    have h' : t.registry.resolve d.descriptor.type = .error e := by rw [← registry, ← descriptor, h]
    rw [plan_of_error h, plan_of_error h']
    exact .inr (.raise (parallel.unresolved h))
  | ok resolved =>
    obtain ⟨name, rule⟩ := resolved
    have leads := Registry.resolve_eq_ok_iff.mp h
    have leads' : t.registry.Leads d.descriptor.type name rule := by
      rw [← registry, ← descriptor]
      exact leads
    cases rule with
    | builtin type =>
      rw [plan_of_builtin leads, plan_of_builtin leads']
      exact .inr (Check.alike_builtinPlan value descriptor
        (fun h => parallel.nested pair h) (parallel.report pair) (parallel.misconfigured pair) type)
    | schema stored =>
      rcases parallel.schema pair leads with related | ⟨new, new', entered⟩
      -- Both evaluations have come back to the schema.
      · exact .inl related
      · rw [plan_of_schema leads new, plan_of_schema leads' new']
        exact .inr (.enter entered)
    | host rule => cases (parallel.built pair).owns leads.owned

end Session

end PropShape
