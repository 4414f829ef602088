import PropShape.Proofs.Validation.Calls

/-!
# `PropShape.Proofs.Validation.Acceptance`: which values a descriptor accepts

`Accepts` says declaratively what a descriptor asks of a value, type by type.
It knows no paths, no reports and no order, and it is the least relation that
satisfies its clauses: a schema that leads back to itself without looking at
a part of the value accepts nothing by that.

* `Session.follow_decides`: a verdict of a plan says whether the plan's
  requirements are satisfied (`Plan.Satisfied`), as long as the verdicts of
  the nested checks say so of theirs.
* `Check.satisfied_builtinPlan_iff`: for each built-in type, these
  requirements are the clause of `AcceptsAs`.
* `Session.check_decides`, `Validator.validate_eq_true_iff`: hence a verdict is
  whether the descriptor accepts the value.

An error says nothing about acceptance. A value may be accepted and still not
come to a verdict, if an alternative or a property before leads to a cycle.
-/

set_option autoImplicit false

namespace PropShape

mutual

/-- A descriptor accepts a value if the rule that its type stands for does. -/
inductive Accepts (registry : Registry) : Descriptor → Value → Prop
  | ofBuiltin {d : Descriptor} {v : Value} {name : TypeName} {type : BuiltinType}
    (leads : registry.Leads d.type name (.builtin type)) (h : AcceptsAs registry type d v) :
    Accepts registry d v
  | ofSchema {d stored : Descriptor} {v : Value} {name : TypeName}
    (leads : registry.Leads d.type name (.schema stored)) (h : Accepts registry stored v) :
    Accepts registry d v

/-- A descriptor accepts a value as one of a built-in type. A type that lacks its
configuration accepts nothing. -/
inductive AcceptsAs (registry : Registry) : BuiltinType → Descriptor → Value → Prop
  | any {d : Descriptor} {v : Value} : AcceptsAs registry .any d v
  | ofKind {type : BuiltinType} {d : Descriptor} {v : Value} (h : type.kind? = some v.kind) :
    AcceptsAs registry type d v
  | instanceOf {d : Descriptor} {className : String} {record : Record}
    (configured : d.className? = some className) (h : record.className = some className) :
    AcceptsAs registry .instanceOf d (.object record)
  | custom {d : Descriptor} {v : Value} {predicate : Predicate}
    (configured : d.predicate? = some predicate) (h : predicate.test v = true) :
    AcceptsAs registry .custom d v
  | oneOf {d : Descriptor} {v allowed : Value} (listed : allowed ∈ d.values)
    (h : allowed.equals v = true) : AcceptsAs registry .oneOf d v
  | oneOfType {d alternative : Descriptor} {v : Value} (listed : alternative ∈ d.alternatives)
    (h : Accepts registry alternative v) : AcceptsAs registry .oneOfType d v
  | arrayOf {d element : Descriptor} {items : List Value}
    (configured : d.element? = some element)
    (h : ∀ item ∈ items, Accepts registry element item) :
    AcceptsAs registry .arrayOf d (.array items)
  | objectOf {d element : Descriptor} {fields : OrderedMap String Value}
    (configured : d.element? = some element)
    (h : ∀ key value, fields.get? key = some value → Accepts registry element value) :
    AcceptsAs registry .objectOf d (.object ⟨none, fields⟩)
  | iface {d : Descriptor} {properties : Schema} {record : Record}
    (configured : d.properties? = some properties)
    (undefined : ∀ key inner, properties.get? key = some inner → record.lookup? key = none →
      inner.required = false)
    (defined : ∀ key inner value, properties.get? key = some inner →
      record.lookup? key = some value → Accepts registry inner value) :
    AcceptsAs registry .iface d (.object record)
  /-- A plain record with no other fields than the declared ones, and those that a
  declared path goes through. -/
  | shape {d : Descriptor} {properties : Schema} {fields : OrderedMap String Value}
    (configured : d.properties? = some properties)
    (undefined : ∀ key inner, properties.get? key = some inner →
      Record.lookup? ⟨none, fields⟩ key = none → inner.required = false)
    (defined : ∀ key inner value, properties.get? key = some inner →
      Record.lookup? ⟨none, fields⟩ key = some value → Accepts registry inner value)
    (declared : ∀ name ∈ fields.keys, ∃ key ∈ properties.keys,
      key = name ∨ ∃ rest, key = name ++ "." ++ rest) :
    AcceptsAs registry .shape d (.object ⟨none, fields⟩)

end

/-! ## What a plan asks for -/

/-- A part is in order, if `A` says which checks are. -/
def Part.Satisfied (A : Check → Prop) : Part → Prop
  | .check c => A c
  | .settle passed _ => passed = true

/-- The requirements of a plan, if `A` says which checks are in order. -/
def Plan.Satisfied (A : Check → Prop) : Plan → Prop
  | .pass => True
  | .settle passed _ => passed = true
  | .enter _ c => A c
  | .all parts _ => ∀ part ∈ parts, part.Satisfied A
  | .any alternatives _ => ∃ c ∈ alternatives, A c
  | .misconfigured _ | .raise _ | .host _ => False

namespace Session

variable {s : Session} {c : Check} {A : Check → Prop} {verdict : Bool}

/-- The verdict of a part says whether the part is in order, if that goes for a nested check. -/
theorem checkPart_decides {part : Part}
    (ih : ∀ inner, part = .check inner → ∀ passed, (s.check inner).result = .ok passed →
      (passed = true ↔ A inner))
    (h : (s.checkPart c part).result = .ok verdict) : verdict = true ↔ part.Satisfied A := by
  cases part with
  | check inner => exact ih inner rfl verdict h
  | settle passed failure => rw [expect_eq_ok h, Part.Satisfied]

/-- If the verdicts of nested checks tell which of them are in order, the verdict of a
plan tells whether its requirements are satisfied. -/
theorem follow_decides (built : s.registry.Declarative)
    (ih : ∀ t inner, s.Calls c t inner → ∀ passed, (t.check inner).result = .ok passed →
      (passed = true ↔ A inner))
    (h : (s.check c).result = .ok verdict) : verdict = true ↔ (s.plan c).Satisfied A := by
  rw [check_eq_follow] at h
  cases hplan : s.plan c with
  | raise e =>
    rw [hplan] at h
    cases h
  | pass =>
    rw [hplan] at h
    cases h
    simp only [Plan.Satisfied]
  | settle passed failure =>
    rw [hplan] at h
    rw [expect_eq_ok h, Plan.Satisfied]
  | misconfigured m =>
    rw [hplan, follow, misconfigured_result] at h
    cases h
    simp [Plan.Satisfied]
  | enter name inner =>
    rw [hplan] at h
    exact ih _ inner (.enter hplan) verdict h
  | all parts failure =>
    rw [hplan] at h
    obtain ⟨passed, hparts, h⟩ := Run.bind_eq_ok_iff.mp h
    -- Every part was gone through, also after one that failed.
    obtain ⟨hok, hall⟩ := Run.of_all_map_eq_ok hparts
    rw [expect_eq_ok h, hall, Plan.Satisfied]
    refine forall₂_congr fun part hmem => ?_
    obtain ⟨partVerdict, hpart⟩ := hok part hmem
    have decides := checkPart_decides (fun inner heq => ih s inner (.part hplan (heq ▸ hmem))) hpart
    rw [← decides, hpart]
    simp
  | any alternatives failure =>
    rw [hplan] at h
    obtain ⟨passed, htried, h⟩ := Run.bind_eq_ok_iff.mp h
    -- The alternatives after the first success are not known to have a verdict.
    obtain ⟨htrue, hfalse⟩ := Run.of_any_map_eq_ok htried
    have decides := fun inner hmem => ih s inner (.alternative hplan hmem)
    rw [expect_eq_ok h, Plan.Satisfied]
    constructor
    · intro hpassed
      obtain ⟨inner, hmem, hinner⟩ := htrue hpassed
      exact ⟨inner, hmem, (decides inner hmem true hinner).mp rfl⟩
    · rintro ⟨inner, hmem, accepted⟩
      cases passed with
      | true => rfl
      | false => exact (decides inner hmem false (hfalse rfl inner hmem)).mpr accepted
  | host rule => exact absurd hplan (plan_ne_host built)

/-- A property name is declared under its own name or as the start of a dotted one. -/
theorem declares_iff {declared : List String} {name : String} :
    declares declared name = true ↔
      ∃ key ∈ declared, key = name ∨ ∃ rest, key = name ++ "." ++ rest := by
  unfold declares
  rw [List.any_eq_true]
  refine exists_congr fun key => and_congr_right fun _ => ?_
  rw [Bool.or_eq_true, beq_iff_eq, List.isPrefixOf_iff_prefix]
  refine or_congr_right ⟨?_, ?_⟩
  -- A prefix is compared by its characters, and what is left of them is the rest of the path.
  · rintro ⟨rest, h⟩
    refine ⟨String.ofList rest, ?_⟩
    rw [← String.toList_inj]
    simp [← h]
  · rintro ⟨rest, rfl⟩
    exact ⟨rest.toList, by simp⟩

end Session

/-! ## The requirements of the built-in types -/

namespace Check

variable {c : Check} {registry : Registry}

/-- The descriptor of a check accepts its value. -/
def Accepted (registry : Registry) (c : Check) : Prop := Accepts registry c.descriptor c.value

/-- The parts of an array are in order exactly if each item is accepted. -/
theorem satisfied_itemParts_iff {element : Descriptor} {items : List Value} :
    (∀ part ∈ c.itemParts element 0 items, part.Satisfied (Accepted registry)) ↔
      ∀ item ∈ items, Accepts registry element item := by
  rw [itemParts, List.forall_mem_map]
  constructor
  · intro h item hmem
    obtain ⟨index, hindex⟩ := List.mem_iff_getElem?.mp hmem
    exact h (item, index) (List.mem_zipIdx_iff_getElem?.mpr hindex)
  · rintro h ⟨item, index⟩ hmem
    exact h item (List.fst_mem_of_mem_zipIdx hmem)

/-- The parts of a dictionary are in order exactly if each field is accepted. -/
theorem satisfied_fieldParts_iff {element : Descriptor} {fields : OrderedMap String Value} :
    (∀ part ∈ c.fieldParts element fields.toList, part.Satisfied (Accepted registry)) ↔
      ∀ key value, fields.get? key = some value → Accepts registry element value := by
  rw [fieldParts, List.forall_mem_map, Prod.forall]
  simp only [OrderedMap.get?_eq_some_iff]
  rfl

/-- The parts of a record are in order exactly if what is declared is accepted where it is
defined, and is not required where it is not. -/
theorem satisfied_propertyParts_iff {properties : Schema} {record : Record} :
    (∀ part ∈ c.propertyParts record properties.toList, part.Satisfied (Accepted registry)) ↔
      (∀ key inner, properties.get? key = some inner → record.lookup? key = none →
        inner.required = false) ∧
      ∀ key inner value, properties.get? key = some inner → record.lookup? key = some value →
        Accepts registry inner value := by
  rw [propertyParts, List.forall_mem_map, Prod.forall]
  simp only [OrderedMap.get?_eq_some_iff]
  constructor
  · intro h
    refine ⟨fun key inner hmem missing => ?_, fun key inner value hmem found => ?_⟩
    · have hpart := h key inner hmem
      rw [missing] at hpart
      simpa [Part.Satisfied] using hpart
    · have hpart := h key inner hmem
      rw [found] at hpart
      exact hpart
  · rintro ⟨undefined, defined⟩ key inner hmem
    -- A property is settled if it reads as undefined, and checked otherwise.
    cases hlookup : record.lookup? key with
    | none => simpa [Part.Satisfied] using undefined key inner hmem hlookup
    | some value => exact defined key inner value hmem hlookup

/-- The names of a record are in order exactly if each is declared, by itself or as the start of
a dotted path. -/
theorem satisfied_nameParts_iff {declared names : List String} :
    (∀ part ∈ c.nameParts declared names, part.Satisfied (Accepted registry)) ↔
      ∀ name ∈ names, ∃ key ∈ declared, key = name ∨ ∃ rest, key = name ++ "." ++ rest := by
  rw [nameParts, List.forall_mem_map]
  simp only [Part.Satisfied, Session.declares_iff]

/-- A type without configuration of its own accepts by kind. -/
theorem acceptsAs_kind_iff {type : BuiltinType} {kind : Kind} {d : Descriptor} {v : Value}
    (h : type.kind? = some kind) : AcceptsAs registry type d v ↔ v.kind = kind := by
  constructor
  · intro accepted
    cases accepted with
    | ofKind hkind => simpa [h, eq_comm] using hkind
    | _ => cases h
  · rintro rfl
    exact .ofKind h

/-- The requirements of `instanceOf` are those of its clause. -/
theorem satisfied_instanceOf_iff :
    (c.builtinPlan .instanceOf).Satisfied (Accepted registry) ↔
      AcceptsAs registry .instanceOf c.descriptor c.value := by
  obtain ⟨context, path, value, d, logErrors⟩ := c
  simp only [builtinPlan]
  constructor
  · intro h
    -- Without configuration the plan is a misconfiguration, which nothing satisfies.
    cases configured : d.className? with
    | none =>
      rw [configured] at h
      exact h.elim
    | some className =>
      rw [configured] at h
      cases value with
      | object record => exact .instanceOf configured (beq_iff_eq.mp h)
      | _ => cases h
  · intro h
    cases h with
    | ofKind h => cases h
    | instanceOf configured h =>
      rw [configured]
      exact beq_iff_eq.mpr h

/-- The requirements of `custom` are those of its clause. -/
theorem satisfied_custom_iff :
    (c.builtinPlan .custom).Satisfied (Accepted registry) ↔
      AcceptsAs registry .custom c.descriptor c.value := by
  obtain ⟨context, path, value, d, logErrors⟩ := c
  simp only [builtinPlan]
  constructor
  · intro h
    cases configured : d.predicate? with
    | none =>
      rw [configured] at h
      exact h.elim
    | some predicate =>
      rw [configured] at h
      exact .custom configured h
  · intro h
    cases h with
    -- This type is that of no kind of value.
    | ofKind h => cases h
    | custom configured h =>
      rw [configured]
      exact h

/-- The requirements of `oneOf` are those of its clause. -/
theorem satisfied_oneOf_iff :
    (c.builtinPlan .oneOf).Satisfied (Accepted registry) ↔
      AcceptsAs registry .oneOf c.descriptor c.value := by
  simp only [builtinPlan]
  constructor
  · intro h
    split at h
    · exact h.elim
    · obtain ⟨allowed, listed, same⟩ := List.any_eq_true.mp h
      exact .oneOf listed same
  · intro h
    cases h with
    | ofKind h => cases h
    | oneOf listed same =>
      -- An empty list is a mistake, and lists nothing either.
      rw [if_neg (by simpa using List.ne_nil_of_mem listed)]
      exact List.any_eq_true.mpr ⟨_, listed, same⟩

/-- The requirements of `oneOfType` are those of its clause. -/
theorem satisfied_oneOfType_iff :
    (c.builtinPlan .oneOfType).Satisfied (Accepted registry) ↔
      AcceptsAs registry .oneOfType c.descriptor c.value := by
  simp only [builtinPlan]
  constructor
  · intro h
    split at h
    · exact h.elim
    · obtain ⟨inner, hmem, accepted⟩ := h
      obtain ⟨alternative, listed, rfl⟩ := List.mem_map.mp hmem
      exact .oneOfType listed accepted
  · intro h
    cases h with
    | ofKind h => cases h
    | oneOfType listed accepted =>
      -- Likewise without alternatives.
      rw [if_neg (by simpa using List.ne_nil_of_mem listed)]
      exact ⟨_, List.mem_map.mpr ⟨_, listed, rfl⟩, accepted⟩

/-- The requirements of `arrayOf` are those of its clause. -/
theorem satisfied_arrayOf_iff :
    (c.builtinPlan .arrayOf).Satisfied (Accepted registry) ↔
      AcceptsAs registry .arrayOf c.descriptor c.value := by
  obtain ⟨context, path, value, d, logErrors⟩ := c
  simp only [builtinPlan]
  constructor
  · intro h
    cases configured : d.element? with
    | none =>
      rw [configured] at h
      exact h.elim
    | some element =>
      rw [configured] at h
      -- Only an array has items to check; anything else is rejected at once.
      cases value with
      | array items => exact .arrayOf configured (satisfied_itemParts_iff.mp h)
      | _ => cases h
  · intro h
    cases h with
    | ofKind h => cases h
    | arrayOf configured h =>
      rw [configured]
      exact satisfied_itemParts_iff.mpr h

/-- The requirements of `objectOf` are those of its clause. -/
theorem satisfied_objectOf_iff :
    (c.builtinPlan .objectOf).Satisfied (Accepted registry) ↔
      AcceptsAs registry .objectOf c.descriptor c.value := by
  obtain ⟨context, path, value, d, logErrors⟩ := c
  simp only [builtinPlan]
  constructor
  · intro h
    cases configured : d.element? with
    | none =>
      rw [configured] at h
      exact h.elim
    | some element =>
      rw [configured] at h
      dsimp only at h
      split at h
      · exact .objectOf configured (satisfied_fieldParts_iff.mp h)
      · cases h
  · intro h
    cases h with
    | ofKind h => cases h
    | objectOf configured h =>
      rw [configured]
      exact satisfied_fieldParts_iff.mpr h

/-- The requirements of `iface` are those of its clause. -/
theorem satisfied_iface_iff :
    (c.builtinPlan .iface).Satisfied (Accepted registry) ↔
      AcceptsAs registry .iface c.descriptor c.value := by
  obtain ⟨context, path, value, d, logErrors⟩ := c
  simp only [builtinPlan]
  constructor
  · intro h
    cases configured : d.properties? with
    | none =>
      rw [configured] at h
      exact h.elim
    | some properties =>
      rw [configured] at h
      -- Any record will do, with or without a class name.
      cases value with
      | object record =>
        obtain ⟨undefined, defined⟩ := satisfied_propertyParts_iff.mp h
        exact .iface configured undefined defined
      | _ => cases h
  · intro h
    cases h with
    | ofKind h => cases h
    | iface configured undefined defined =>
      rw [configured]
      exact satisfied_propertyParts_iff.mpr ⟨undefined, defined⟩

/-- The requirements of `shape` are those of its clause. -/
theorem satisfied_shape_iff :
    (c.builtinPlan .shape).Satisfied (Accepted registry) ↔
      AcceptsAs registry .shape c.descriptor c.value := by
  obtain ⟨context, path, value, d, logErrors⟩ := c
  simp only [builtinPlan]
  constructor
  · intro h
    cases configured : d.properties? with
    | none =>
      rw [configured] at h
      exact h.elim
    | some properties =>
      rw [configured] at h
      dsimp only at h
      -- Only a plain record has parts: the declared properties, and then its names.
      split at h
      · obtain ⟨hproperties, hnames⟩ := List.forall_mem_append.mp h
        obtain ⟨undefined, defined⟩ := satisfied_propertyParts_iff.mp hproperties
        exact .shape configured undefined defined (satisfied_nameParts_iff.mp hnames)
      · cases h
  · intro h
    cases h with
    | ofKind h => cases h
    | shape configured undefined defined declared =>
      rw [configured]
      refine List.forall_mem_append.mpr ⟨?_, satisfied_nameParts_iff.mpr declared⟩
      exact satisfied_propertyParts_iff.mpr ⟨undefined, defined⟩

/-- What a built-in type requires is what it accepts. -/
theorem satisfied_builtinPlan_iff (type : BuiltinType) :
    (c.builtinPlan type).Satisfied (Accepted registry) ↔
      AcceptsAs registry type c.descriptor c.value := by
  cases type with
  | any => exact ⟨fun _ => .any, fun _ => trivial⟩
  | instanceOf => exact satisfied_instanceOf_iff
  | custom => exact satisfied_custom_iff
  | oneOf => exact satisfied_oneOf_iff
  | oneOfType => exact satisfied_oneOfType_iff
  | arrayOf => exact satisfied_arrayOf_iff
  | objectOf => exact satisfied_objectOf_iff
  | iface => exact satisfied_iface_iff
  | shape => exact satisfied_shape_iff
  -- The remaining types look at the kind of the value only.
  | _ =>
    rw [acceptsAs_kind_iff rfl]
    exact beq_iff_eq

end Check

/-! ## Verdicts -/

section Leads

variable {registry : Registry} {d stored : Descriptor} {v : Value} {name : TypeName}

/-- A descriptor whose type leads to a built-in one accepts what that type accepts. -/
theorem accepts_iff_of_builtin {type : BuiltinType}
    (leads : registry.Leads d.type name (.builtin type)) :
    Accepts registry d v ↔ AcceptsAs registry type d v := by
  refine ⟨fun accepted => ?_, .ofBuiltin leads⟩
  cases accepted with
  | ofBuiltin leads' h =>
    cases (leads.unique leads').2
    exact h
  | ofSchema leads' h => cases (leads.unique leads').2

/-- A descriptor whose type leads to a stored schema accepts what the schema accepts. -/
theorem accepts_iff_of_schema (leads : registry.Leads d.type name (.schema stored)) :
    Accepts registry d v ↔ Accepts registry stored v := by
  refine ⟨fun accepted => ?_, .ofSchema leads⟩
  cases accepted with
  | ofBuiltin leads' h => cases (leads.unique leads').2
  | ofSchema leads' h =>
    cases (leads.unique leads').2
    exact h

end Leads

namespace Session

variable {s : Session} {c : Check}

/-- A check that comes to a verdict satisfies the requirements of its plan exactly if its
descriptor accepts the value. -/
theorem satisfied_plan_iff (built : s.registry.Declarative) {verdict : Bool}
    (h : (s.check c).result = .ok verdict) :
    (s.plan c).Satisfied (Check.Accepted s.registry) ↔ c.Accepted s.registry := by
  cases hresolve : s.registry.resolve c.descriptor.type with
  | error e =>
    rw [check_of_error hresolve] at h
    cases h
  | ok resolved =>
    obtain ⟨name, rule⟩ := resolved
    have leads := Registry.resolve_eq_ok_iff.mp hresolve
    cases rule with
    | builtin type =>
      rw [plan_of_builtin leads, Check.satisfied_builtinPlan_iff]
      exact (accepts_iff_of_builtin leads).symm
    | schema stored =>
      by_cases active : (name, c.path) ∈ s.active
      · -- A cycle comes to no verdict.
        rw [check_of_active hresolve active] at h
        cases h
      · rw [plan_of_schema leads active]
        exact (accepts_iff_of_schema leads).symm
    | host rule => cases built.owns leads.owned

/-- The verdict of a check is whether its descriptor accepts the value. -/
theorem check_decides (built : s.registry.Declarative) {verdict : Bool}
    (h : (s.check c).result = .ok verdict) : verdict = true ↔ c.Accepted s.registry := by
  induction s, c using check_induction generalizing verdict with
  | step s c ih =>
    rw [← satisfied_plan_iff built h]
    -- What is left to know are the verdicts of the nested checks.
    refine follow_decides built (fun t inner calls passed hpassed => ?_) h
    have decides := ih t inner calls (calls.registry_eq ▸ built) hpassed
    rwa [calls.registry_eq] at decides

end Session

namespace Validator

/-- A defined value passes validation exactly if the descriptor accepts it, whenever
validation comes to a verdict. -/
theorem validate_eq_true_iff (v : Validator) (built : v.registry.Declarative)
    (context path : String) (value : Value) (defined : value ≠ .undefined)
    (descriptor : Descriptor) (verdict : Bool)
    (h : (v.validate context path value descriptor).result = .ok verdict) :
    verdict = true ↔ Accepts v.registry descriptor value := by
  have known : value.isUndefined = false := by
    cases value with
    | undefined => exact absurd rfl defined
    | _ => rfl
  rw [validate_of_defined known] at h
  exact Session.check_decides (s := .start v.registry v.sink v.options.onFailure) built h

/-- A check against the schema of nodes goes on, inside the schema, as one against a shape. -/
theorem check_tangled_node {s : Session} {path : String} (value : Value)
    (registry : s.registry = .tangled) (new : (.named "node", path) ∉ s.active) :
    s.check ⟨"list", path, value, .ofType (.named "node"), true⟩ =
      (s.enter (.named "node") path).follow ⟨"list", path, value, Registry.node, true⟩
        (Check.builtinPlan ⟨"list", path, value, Registry.node, true⟩ .shape) := by
  obtain ⟨_, sink, onFailure, active, hostBudget⟩ := s
  cases registry
  rw [Session.check_of_schema (Registry.resolve_eq_ok_iff.mpr Registry.leads_tangled_node) new,
    Session.check_of_builtin (Registry.resolve_eq_ok_iff.mpr Registry.leads_tangled_shape),
    Session.checkBuiltin_eq_follow]

/-- What a node holds under `next` is checked against the schema of nodes again, at a longer
path, so that the schema may be entered once more. -/
theorem check_tangled_next (value : Value) (defined : value ≠ .undefined) :
    let s := Session.start .tangled .memory .log
    let inside := s.enter (.named "node") "head"
    let c : Check := ⟨"list", "head", .ofFields [("next", value)], Registry.node, true⟩
    s.check { c with descriptor := .ofType (.named "node") } =
      Run.all
        [inside.check ⟨"list", "head.next", value, .ofType (.named "node"), true⟩,
          inside.expect c true (.unknownKey "head" "next")] >>=
        fun passed => inside.expect c passed (.mismatch "head" .shape c.value) := by
  intro s inside c
  rw [check_tangled_node _ rfl List.not_mem_nil]
  cases value with
  | undefined => exact absurd rfl defined
  | _ => rfl

/-- A node with a next node is accepted, and one with something else under `next` is rejected.
The next node is checked against the schema of nodes again, and the other thing too. -/
theorem validate_eq_true_iff_node :
    let v : Validator := ⟨.tangled, .memory, {}⟩
    let node : Descriptor := .ofType (.named "node")
    let linked := Value.ofFields [("next", .object .plain)]
    let broken := Value.ofFields [("next", .bool true)]
    ((v.validate "list" "head" linked node).result = .ok true ∧ Accepts v.registry node linked) ∧
      (v.validate "list" "head" broken node).result = .ok false ∧
        ¬ Accepts v.registry node broken := by
  intro v node linked broken
  let inside := (Session.start .tangled .memory .log).enter (.named "node") "head"
  -- The first node has a next one, which is the last.
  have passes : (v.validate "list" "head" linked node).result = .ok true := by
    have next : inside.check ⟨"list", "head.next", .object .plain, node, true⟩ = pure true := by
      rw [check_tangled_node _ rfl (by decide)]
      rfl
    rw [validate_of_defined rfl, check_tangled_next _ (by simp), next]
    rfl
  -- A truth value is no node, and the report about it is kept.
  have fails : (v.validate "list" "head" broken node).result = .ok false := by
    obtain ⟨reports, next⟩ : ∃ reports,
        inside.check ⟨"list", "head.next", .bool true, node, true⟩ = ⟨reports, .ok false⟩ := by
      rw [check_tangled_node _ rfl (by decide)]
      exact ⟨_, rfl⟩
    rw [validate_of_defined rfl, check_tangled_next _ (by simp), next]
    rfl
  have decides : ∀ (fields : List (String × Value)) (verdict : Bool),
      (v.validate "list" "head" (.ofFields fields) node).result = .ok verdict →
      (verdict = true ↔ Accepts v.registry node (.ofFields fields)) :=
    fun fields verdict ended =>
      validate_eq_true_iff v Registry.declarative_tangled _ _ _ (by simp [Value.ofFields]) node
        verdict ended
  refine ⟨⟨passes, (decides _ true passes).mp rfl⟩, fails, fun accepted => ?_⟩
  exact Bool.false_ne_true ((decides _ false fails).mpr accepted)

end Validator

end PropShape
