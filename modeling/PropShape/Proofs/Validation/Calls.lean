import PropShape.Proofs.Registry.Declarative
import PropShape.Proofs.Validation.Plan
import PropShape.Proofs.StrictPart
import Mathlib.Order.WellFounded

/-!
# `PropShape.Proofs.Validation.Calls`: which checks a check may lead to

`Session.Calls` relates a check, in its session, to the checks that its plan
asks for. The statements here say everything that such a step can do.

* `fits_plan` reads a plan back, whatever its form: where it comes from, and
  what the checks in it look like (`Session.Fits`). It is used through one
  lemma for each form: `descends_of_plan`, `alternative_of_plan`,
  `stored_of_plan`, `cause_of_plan`; `plan_ne_host` leaves rules of hosts out.
* `Calls.closer`: a nested check goes into a strict part of the value, or it
  keeps value and path and enters a schema that was not active there, or it
  keeps both and goes into a strict part of the descriptor
  (`Session.Closer`).
* `wellFounded_calls`: hence nothing calls forever, and `check_induction`: a
  property of checks holds if it passes from the nested checks to a check.
-/

set_option autoImplicit false

namespace PropShape

/-! ## What a plan asks for -/

/-- The path of a field is longer than that of its record, even under an empty name. -/
theorem Path.length_lt_key (path key : String) : path.length < (Path.key path key).length := by
  simp only [Path.key, String.length_append]
  have : ".".length = 1 := rfl
  omega

/-- The path of an item is longer than that of its array. -/
theorem Path.length_lt_item (path : String) (index : Nat) :
    path.length < (Path.item path index).length := by
  simp only [Path.item, String.length_append]
  have : "[".length = 1 := rfl
  omega

namespace Check

/-- A check of a strict part of the value, one step below the path and otherwise alike. -/
inductive Descends (c : Check) : Check → Prop
  | item {index : Nat} {value : Value} {descriptor : Descriptor} (h : value.StrictPart c.value) :
    Descends c { c with path := Path.item c.path index, value, descriptor }
  | key {key : String} {value : Value} {descriptor : Descriptor} (h : value.StrictPart c.value) :
    Descends c { c with path := Path.key c.path key, value, descriptor }

variable {c inner : Check}

/-- A check that descends is about a strict part of the value. -/
theorem Descends.strictPart (h : c.Descends inner) : inner.value.StrictPart c.value := by
  cases h <;> assumption

/-- Going into the value makes the path longer. -/
theorem Descends.length_path_lt (h : c.Descends inner) : c.path.length < inner.path.length := by
  cases h with
  | item => exact Path.length_lt_item _ _
  | key => exact Path.length_lt_key _ _

/-- A check of an item descends. -/
theorem descends_of_mem_itemParts {element : Descriptor} {items : List Value}
    (value : c.value = .array items) (h : .check inner ∈ c.itemParts element 0 items) :
    c.Descends inner := by
  obtain ⟨⟨item, index⟩, hmem, heq⟩ := List.mem_map.mp h
  cases heq
  refine .item (.single ?_)
  rw [value]
  exact .item (List.fst_mem_of_mem_zipIdx hmem)

/-- A check of a field descends. -/
theorem descends_of_mem_fieldParts {element : Descriptor} {record : Record}
    (value : c.value = .object record)
    (h : .check inner ∈ c.fieldParts element record.fields.toList) : c.Descends inner := by
  obtain ⟨⟨key, held⟩, hmem, heq⟩ := List.mem_map.mp h
  cases heq
  refine .key (.single ?_)
  rw [value]
  exact .field ((OrderedMap.get?_eq_some_iff _ _ _).mpr hmem)

/-- A check of a declared property descends, even if its path has several segments. -/
theorem descends_of_mem_propertyParts {properties : List (String × Descriptor)} {record : Record}
    (value : c.value = .object record) (h : .check inner ∈ c.propertyParts record properties) :
    c.Descends inner := by
  obtain ⟨⟨key, descriptor⟩, -, heq⟩ := List.mem_map.mp h
  simp only at heq
  split at heq
  · cases heq
  · next held hlookup =>
    cases heq
    refine .key ?_
    rw [value]
    exact Record.strictPart_of_lookup? hlookup

/-- Names are settled without any check. -/
theorem check_notMem_nameParts {declared names : List String} :
    .check inner ∉ c.nameParts declared names := by
  intro h
  obtain ⟨name, -, heq⟩ := List.mem_map.mp h
  cases heq

end Check

namespace Session

variable {s t : Session} {c inner : Check} {name : TypeName} {stored : Descriptor}

/-- A type that does not resolve makes a plan that raises the error. -/
theorem plan_of_error {e : PropError} (h : s.registry.resolve c.descriptor.type = .error e) :
    s.plan c = .raise e := by
  rw [plan, h]
  rfl

/-- A type that leads to a built-in one makes the plan of that type. -/
theorem plan_of_builtin {type : BuiltinType}
    (h : s.registry.Leads c.descriptor.type name (.builtin type)) :
    s.plan c = c.builtinPlan type := by
  rw [plan, Registry.resolve_eq_ok_iff.mpr h]
  rfl

/-- A schema that is not being expanded at the path is entered. -/
theorem plan_of_schema (h : s.registry.Leads c.descriptor.type name (.schema stored))
    (new : (name, c.path) ∉ s.active) :
    s.plan c = .enter name { c with descriptor := stored } := by
  rw [plan, Registry.resolve_eq_ok_iff.mpr h]
  exact if_neg (by simpa using new)

/-- A schema that is being expanded at the path is a cycle. -/
theorem plan_of_active (h : s.registry.Leads c.descriptor.type name (.schema stored))
    (active : (name, c.path) ∈ s.active) : s.plan c = .raise (.descriptorCycle c.path) := by
  rw [plan, Registry.resolve_eq_ok_iff.mpr h]
  exact if_pos (by simpa using active)

/-- Where a plan comes from, and what the checks in it look like. -/
def Fits (s : Session) (c : Check) : Plan → Prop
  | .all parts _ => ∀ inner, .check inner ∈ parts → c.Descends inner
  | .any alternatives _ =>
    (∃ name, s.registry.Leads c.descriptor.type name (.builtin .oneOfType)) ∧
      alternatives = c.alternatives
  | .enter name inner =>
    ∃ stored, s.registry.Leads c.descriptor.type name (.schema stored) ∧
      (name, c.path) ∉ s.active ∧ inner = { c with descriptor := stored }
  | .raise e =>
    s.registry.resolve c.descriptor.type = .error e ∨
      ∃ name stored, s.registry.Leads c.descriptor.type name (.schema stored) ∧
        (name, c.path) ∈ s.active ∧ e = .descriptorCycle c.path
  | .host rule => ∃ name, s.registry.Leads c.descriptor.type name (.host rule)
  | .pass | .settle _ _ | .misconfigured _ => True

/-- The plan of a built-in type asks for checks inside the value, or of alternatives at the same
place. -/
theorem fits_builtinPlan {type : BuiltinType}
    (leads : s.registry.Leads c.descriptor.type name (.builtin type)) :
    s.Fits c (c.builtinPlan type) := by
  cases type with
  | instanceOf =>
    simp only [Check.builtinPlan]
    split <;> trivial
  | custom =>
    simp only [Check.builtinPlan]
    split <;> trivial
  | oneOf =>
    simp only [Check.builtinPlan]
    split <;> trivial
  | oneOfType =>
    simp only [Check.builtinPlan]
    split
    · trivial
    · exact ⟨⟨name, leads⟩, rfl⟩
  | arrayOf =>
    simp only [Check.builtinPlan]
    split
    · trivial
    · split
      · next hvalue => exact fun inner => Check.descends_of_mem_itemParts hvalue
      · trivial
  | objectOf =>
    simp only [Check.builtinPlan]
    split
    · trivial
    · split
      · next hvalue => exact fun inner => Check.descends_of_mem_fieldParts hvalue
      · trivial
  | iface =>
    simp only [Check.builtinPlan]
    split
    · trivial
    · split
      · next hvalue => exact fun inner => Check.descends_of_mem_propertyParts hvalue
      · trivial
  | shape =>
    simp only [Check.builtinPlan]
    split
    · trivial
    · split
      · next hvalue =>
        intro inner h
        -- Only the first half of the parts asks for checks.
        rcases List.mem_append.mp h with h | h
        · exact Check.descends_of_mem_propertyParts hvalue h
        · exact absurd h Check.check_notMem_nameParts
      · trivial
  | _ => trivial

/-- What can be read back from a plan, whatever its form. -/
theorem fits_plan (s : Session) (c : Check) : s.Fits c (s.plan c) := by
  -- The plan follows the rule that the type resolves to.
  cases h : s.registry.resolve c.descriptor.type with
  | error e =>
    rw [plan_of_error h]
    exact .inl h
  | ok resolved =>
    obtain ⟨name, rule⟩ := resolved
    have leads := Registry.resolve_eq_ok_iff.mp h
    cases rule with
    | builtin type =>
      rw [plan_of_builtin leads]
      exact fits_builtinPlan leads
    | schema stored =>
      by_cases active : (name, c.path) ∈ s.active
      · rw [plan_of_active leads active]
        exact .inr ⟨name, stored, leads, active, rfl⟩
      · rw [plan_of_schema leads active]
        exact ⟨stored, leads, active, rfl⟩
    | host rule =>
      rw [plan, h]
      exact ⟨name, leads⟩

/-- Every part that a plan has checked is one step inside the value. -/
theorem descends_of_plan {parts : List Part} {failure : Failure}
    (h : s.plan c = .all parts failure) (mem : .check inner ∈ parts) : c.Descends inner := by
  have fits := fits_plan s c
  rw [h] at fits
  exact fits inner mem

/-- Only a union tries alternatives, its own and in silence. -/
theorem alternative_of_plan {alternatives : List Check} {failure : Failure}
    (h : s.plan c = .any alternatives failure) (mem : inner ∈ alternatives) :
    (∃ owner, s.registry.Leads c.descriptor.type owner (.builtin .oneOfType)) ∧
      ∃ descriptor ∈ c.descriptor.alternatives,
        inner = { c with descriptor, logErrors := false } := by
  have fits := fits_plan s c
  rw [h] at fits
  obtain ⟨union, rfl⟩ := fits
  obtain ⟨descriptor, listed, rfl⟩ := List.mem_map.mp mem
  exact ⟨union, descriptor, listed, rfl⟩

/-- What is entered is a stored schema, under the name that owns it, for the same value. -/
theorem stored_of_plan (h : s.plan c = .enter name inner) :
    ∃ stored, s.registry.Leads c.descriptor.type name (.schema stored) ∧
      (name, c.path) ∉ s.active ∧ inner = { c with descriptor := stored } := by
  have fits := fits_plan s c
  rw [h] at fits
  exact fits

/-- A plan raises an error if the type does not resolve, and if a schema is active already. -/
theorem cause_of_plan {e : PropError} (h : s.plan c = .raise e) :
    s.registry.resolve c.descriptor.type = .error e ∨
      ∃ name stored, s.registry.Leads c.descriptor.type name (.schema stored) ∧
        (name, c.path) ∈ s.active ∧ e = .descriptorCycle c.path := by
  have fits := fits_plan s c
  rw [h] at fits
  exact fits

/-- What a plan raises is a mistake in the declaration. -/
theorem isConfiguration_of_plan_raise {e : PropError} (h : s.plan c = .raise e) :
    e.isConfiguration = true := by
  rcases cause_of_plan h with unresolved | ⟨-, -, -, -, rfl⟩
  · exact Registry.isConfiguration_of_resolve unresolved
  · rfl

/-- A plan is that of a built-in type, unless the type stands for something else. -/
theorem plan_cases (s : Session) (c : Check) :
    (∃ name type, s.registry.Leads c.descriptor.type name (.builtin type) ∧
      s.plan c = c.builtinPlan type) ∨
    (∃ e, s.plan c = .raise e) ∨ (∃ name inner, s.plan c = .enter name inner) ∨
    ∃ rule, s.plan c = .host rule := by
  cases h : s.registry.resolve c.descriptor.type with
  | error e => exact .inr (.inl ⟨e, plan_of_error h⟩)
  | ok resolved =>
    obtain ⟨name, rule⟩ := resolved
    have leads := Registry.resolve_eq_ok_iff.mp h
    cases rule with
    | builtin type => exact .inl ⟨name, type, leads, plan_of_builtin leads⟩
    | schema stored =>
      -- A schema is entered unless it is being expanded at this path already.
      by_cases active : (name, c.path) ∈ s.active
      · exact .inr (.inl ⟨_, plan_of_active leads active⟩)
      · exact .inr (.inr (.inl ⟨name, _, plan_of_schema leads active⟩))
    | host rule =>
      refine .inr (.inr (.inr ⟨rule, ?_⟩))
      rw [plan, h]
      rfl

/-- No plan runs a host's rule if no host has registered one. -/
theorem plan_ne_host (built : s.registry.Declarative) {rule : HostRule} :
    s.plan c ≠ .host rule := by
  intro h
  have fits := fits_plan s c
  rw [h] at fits
  obtain ⟨name, leads⟩ := fits
  cases built.owns leads.owned

/-! ## Nested checks -/

/-- The checks, with their sessions, that the plan of a check asks for. -/
inductive Calls (s : Session) (c : Check) : Session → Check → Prop
  | part {parts : List Part} {failure : Failure} {inner : Check}
    (h : s.plan c = .all parts failure) (mem : .check inner ∈ parts) : Calls s c s inner
  | enter {name : TypeName} {inner : Check} (h : s.plan c = .enter name inner) :
    Calls s c (s.enter name c.path) inner
  | alternative {alternatives : List Check} {failure : Failure} {inner : Check}
    (h : s.plan c = .any alternatives failure) (mem : inner ∈ alternatives) : Calls s c s inner

/-- Three ways in which a nested check `inner` in a session `t` is smaller than the check
`c` in `s` that asks for it. -/
inductive Closer (s : Session) (c : Check) (t : Session) (inner : Check) : Prop
  /-- It goes into a strict part of the value. -/
  | value (strict : inner.value.StrictPart c.value) (session : t = s)
  /-- It keeps the value and the path, and enters a named schema that was not active at
  this path. -/
  | schema (name : TypeName) (stored : Descriptor)
    (registered : s.registry.get? name = some (.rule (.schema stored)))
    (new : (name, c.path) ∉ s.active) (session : t = s.enter name c.path)
    (value : inner.value = c.value) (path : inner.path = c.path)
  /-- It keeps both, and goes into a strict part of the descriptor. -/
  | descriptor (strict : inner.descriptor.StrictPart c.descriptor) (session : t = s)
    (value : inner.value = c.value) (path : inner.path = c.path)

/-- The registry stays the same along a call. -/
theorem Calls.registry_eq (h : s.Calls c t inner) : t.registry = s.registry := by
  cases h <;> rfl

/-- Every nested check is smaller. -/
theorem Calls.closer (h : s.Calls c t inner) : s.Closer c t inner := by
  cases h with
  | part h mem => exact .value (descends_of_plan h mem).strictPart rfl
  | @enter name inner h =>
    obtain ⟨stored, leads, new, rfl⟩ := stored_of_plan h
    exact .schema name stored leads.owned new rfl rfl rfl
  | alternative h mem =>
    obtain ⟨-, descriptor, listed, rfl⟩ := alternative_of_plan h mem
    exact .descriptor (.single (.alternative listed)) rfl rfl rfl

/-- What a smaller check has less of: value, schemas left to enter at the path, descriptor. -/
noncomputable def size (s : Session) (c : Check) : Nat × Nat × Nat :=
  (sizeOf c.value, s.idle c.path, sizeOf c.descriptor)

/-- A nested check has a smaller size. The value counts first, then the schemas left to enter at
the path, then the descriptor. -/
theorem Closer.size_lt (h : s.Closer c t inner) :
    Prod.Lex (· < ·) (Prod.Lex (· < ·) (· < ·)) (t.size inner) (s.size c) := by
  cases h with
  | value strict session => exact .left _ _ strict.sizeOf_lt
  | schema name stored registered new session value path =>
    subst session
    unfold size
    -- The stored descriptor may be larger; it is compared last.
    rw [value, path]
    exact .right _ (.left _ _ (idle_enter_lt (Registry.mem_schemaNames registered) new))
  | descriptor strict session value path =>
    subst session
    unfold size
    rw [value, path]
    exact .right _ (.right _ strict.sizeOf_lt)

/-- There is no endless chain of nested checks. -/
theorem wellFounded_calls :
    WellFounded fun inner outer : Session × Check => outer.1.Calls outer.2 inner.1 inner.2 :=
  Subrelation.wf (fun h => h.closer.size_lt)
    (InvImage.wf (fun outer : Session × Check => outer.1.size outer.2)
      (WellFounded.prod_lex wellFounded_lt (WellFounded.prod_lex wellFounded_lt wellFounded_lt)))

/-- Induction over checks: what passes from the nested checks to a check holds of all. -/
theorem check_induction {motive : Session → Check → Prop}
    (step : ∀ s c, (∀ t inner, s.Calls c t inner → motive t inner) → motive s c)
    (s : Session) (c : Check) : motive s c :=
  wellFounded_calls.induction (C := fun outer => motive outer.1 outer.2) (s, c)
    fun outer ih => step outer.1 outer.2 fun t inner h => ih (t, inner) h

end Session

end PropShape
