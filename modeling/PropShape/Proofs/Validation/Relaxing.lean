import PropShape.Proofs.Descriptor.Rewriting
import PropShape.Proofs.Validation.Acceptance
import PropShape.Proofs.Validation.Options

/-!
# `PropShape.Proofs.Validation.Relaxing`: relaxing a descriptor rejects nothing new

A declaration that is already in use may be relaxed: a property becomes
optional, an enumeration gets further values and a union further
alternatives, an interface forgets a property, or a part becomes optional and
of any type (`Descriptor.Relaxation`). Such changes may be made at any
positions of a descriptor (`Descriptor.Relaxes`).

What a change does to acceptance is said by `Descriptor.Milder`: the changed
descriptor accepts whatever the old one does, and is required only if the old
one is. `Descriptor.Eases` is the same of two descriptors with one type, in
terms of their parts, and `Eases.milder` goes through the built-in types once.
A name that a shape does not declare is no part of it, so the names that it
declares must stay; an interface does not look at names.

`relaxing_keeps_accepting`: since a verdict is whether the descriptor accepts
the value, a value that passes the old declaration does not fail the relaxed
one. It may still come to no verdict there, if a further alternative leads to
a mistake in the declaration.
-/

set_option autoImplicit false

namespace PropShape

open Relation (ReflTransGen)

/-- Aliases lead from a type name to the name of a built-in type. -/
def Registry.Names (registry : Registry) (name : TypeName) (type : BuiltinType) : Prop :=
  ReflTransGen registry.AliasOf name (.builtin type)

/-- The name of a built-in type owns the rule of that type. -/
def Registry.Keeps (registry : Registry) (type : BuiltinType) : Prop :=
  registry.get? (.builtin type) = some (.rule (.builtin type))

/-- A name of a built-in type leads to it, if the registry keeps its rule. -/
theorem Registry.Names.leads {registry : Registry} {name : TypeName} {type : BuiltinType}
    (h : registry.Names name type) (kept : registry.Keeps type) :
    registry.Leads name (.builtin type) (.builtin type) :=
  ⟨h, kept⟩

namespace Descriptor

/-- A change that relaxes a descriptor on the spot. Values and alternatives matter to enumerations
and to unions only, so they may be added anywhere. -/
inductive Relaxation (registry : Registry) : Descriptor → Descriptor → Prop
  | optional {d : Descriptor} : Relaxation registry d { d with required := false }
  | values {d : Descriptor} (more : List Value) :
    Relaxation registry d { d with values := d.values ++ more }
  | alternatives {d : Descriptor} (more : List Descriptor) :
    Relaxation registry d { d with alternatives := d.alternatives ++ more }
  /-- A property of an interface is no longer declared. -/
  | forget {d : Descriptor} {properties remaining : Schema} {key : String}
    (interface : registry.Names d.type .iface) (declared : d.properties? = some properties)
    (forgotten : ∀ name,
      remaining.get? name = if name = key then none else properties.get? name) :
    Relaxation registry d { d with properties? := some remaining }
  /-- A part becomes optional and of any type. -/
  | anything {d d' inner anything : Descriptor} (type : registry.Names anything.type .any)
    (optional : anything.required = false) (replaced : Replaces inner anything d d') :
    Relaxation registry d d'

/-- Any number of relaxing changes, at any positions of any depth. -/
def Relaxes (registry : Registry) : Descriptor → Descriptor → Prop :=
  ReflTransGen (Within (Relaxation registry))

variable {registry : Registry} {d d' d'' inner inner' : Descriptor}

/-- The second descriptor asks no more of a value than the first one. -/
structure Milder (registry : Registry) (d d' : Descriptor) : Prop where
  required : d'.required = true → d.required = true
  accepts : ∀ v, Accepts registry d v → Accepts registry d' v

/-- A descriptor is as mild as itself. -/
theorem Milder.refl (d : Descriptor) : Milder registry d d := ⟨id, fun _ => id⟩

/-- Being milder is transitive. -/
theorem Milder.trans (h : Milder registry d d') (h' : Milder registry d' d'') :
    Milder registry d d'' :=
  ⟨fun required => h.required (h'.required required), fun v held => h'.accepts v (h.accepts v held)⟩

/-- What is milder than an optional descriptor is optional. -/
theorem Milder.not_required (h : Milder registry d d') (optional : d.required = false) :
    d'.required = false := by
  cases required : d'.required with
  | false => rfl
  | true => exact (h.required required).symm.trans optional

/-- An optional descriptor of any type asks nothing of a value. -/
theorem milder_anything {anything : Descriptor} (kept : registry.Keeps .any)
    (type : registry.Names anything.type .any) (optional : anything.required = false) :
    Milder registry d anything where
  required required := by cases optional.symm.trans required
  accepts _ _ := .ofBuiltin (type.leads kept) .any

/-! ## Properties -/

/-- Every property that the second schema declares is declared by the first one, and milder. -/
def MilderProperties (registry : Registry) (properties properties' : Schema) : Prop :=
  ∀ key part', properties'.get? key = some part' →
    ∃ part, properties.get? key = some part ∧ Milder registry part part'

section

variable {properties properties' : Schema} {record : Record}

/-- Properties are as mild as themselves. -/
theorem MilderProperties.refl (properties : Schema) :
    MilderProperties registry properties properties :=
  fun _ part found => ⟨part, found, .refl part⟩

/-- Milder properties may be missing wherever the stricter ones may. -/
theorem MilderProperties.undefined (milder : MilderProperties registry properties properties')
    (h : ∀ key part, properties.get? key = some part → record.lookup? key = none →
      part.required = false) :
    ∀ key part, properties'.get? key = some part → record.lookup? key = none →
      part.required = false := by
  intro key part' found missing
  obtain ⟨part, declared, asks⟩ := milder key part' found
  exact asks.not_required (h key part declared missing)

/-- Milder properties accept what the stricter ones accept. -/
theorem MilderProperties.defined (milder : MilderProperties registry properties properties')
    (h : ∀ key part value, properties.get? key = some part → record.lookup? key = some value →
      Accepts registry part value) :
    ∀ key part value, properties'.get? key = some part → record.lookup? key = some value →
      Accepts registry part value := by
  intro key part' value found held
  obtain ⟨part, declared, asks⟩ := milder key part' found
  exact asks.accepts value (h key part value declared held)

end

/-! ## Easing the parts of a descriptor -/

/-- The second descriptor has the type of the first one, and asks no more in any of its parts.
All names that the first one declares stay declared, unless the type looks at no names. -/
structure Eases (registry : Registry) (d d' : Descriptor) : Prop where
  type : d'.type = d.type
  required : d'.required = true → d.required = true
  className : d'.className? = d.className?
  predicate : d'.predicate? = d.predicate?
  values : d.values ⊆ d'.values
  element : ∀ part, d.element? = some part →
    ∃ part', d'.element? = some part' ∧ Milder registry part part'
  alternatives : ∀ part ∈ d.alternatives, ∃ part' ∈ d'.alternatives, Milder registry part part'
  properties : ∀ properties, d.properties? = some properties →
    ∃ properties', d'.properties? = some properties' ∧
      MilderProperties registry properties properties' ∧
      (registry.Leads d.type (.builtin .iface) (.builtin .iface) ∨
        properties.keys ⊆ properties'.keys)

/-- Nothing is made harder by leaving a descriptor as it is. -/
theorem Eases.refl (d : Descriptor) : Eases registry d d where
  type := rfl
  required := id
  className := rfl
  predicate := rfl
  values := List.Subset.refl _
  element part held := ⟨part, held, .refl part⟩
  alternatives part listed := ⟨part, listed, .refl part⟩
  properties properties declared :=
    ⟨properties, declared, .refl properties, .inr (List.Subset.refl _)⟩

/-- Each built-in type accepts at least as much when the parts ask no more. -/
theorem Eases.acceptsAs (h : Eases registry d d') {name : TypeName} {type : BuiltinType}
    (leads : registry.Leads d.type name (.builtin type)) {v : Value}
    (accepted : AcceptsAs registry type d v) : AcceptsAs registry type d' v := by
  cases accepted with
  | any => exact .any
  | ofKind kind => exact .ofKind kind
  | instanceOf configured same => exact .instanceOf (h.className.trans configured) same
  | custom configured holds => exact .custom (h.predicate.trans configured) holds
  | oneOf listed same => exact .oneOf (h.values listed) same
  | oneOfType listed accepted =>
    obtain ⟨part', listed', milder⟩ := h.alternatives _ listed
    exact .oneOfType listed' (milder.accepts v accepted)
  | arrayOf configured items =>
    obtain ⟨part', configured', milder⟩ := h.element _ configured
    exact .arrayOf configured' fun item mem => milder.accepts item (items item mem)
  | objectOf configured fields =>
    obtain ⟨part', configured', milder⟩ := h.element _ configured
    exact .objectOf configured' fun key value held => milder.accepts value (fields key value held)
  | iface configured undefined defined =>
    obtain ⟨properties', configured', milder, -⟩ := h.properties _ configured
    exact .iface configured' (milder.undefined undefined) (milder.defined defined)
  | shape configured undefined defined declared =>
    obtain ⟨properties', configured', milder, names⟩ := h.properties _ configured
    refine .shape configured' (milder.undefined undefined) (milder.defined defined) ?_
    rcases names with interface | kept
    · -- The type is a shape, so it is no interface that forgets names.
      cases (leads.unique interface).2
    · intro name field
      obtain ⟨key, mem, covers⟩ := declared name field
      exact ⟨key, kept mem, covers⟩

/-- A descriptor that eases another one is milder. -/
theorem Eases.milder (h : Eases registry d d') : Milder registry d d' where
  required := h.required
  accepts v accepted := by
    cases accepted with
    | ofBuiltin leads accepted =>
      exact .ofBuiltin (h.type ▸ leads) (h.acceptsAs leads accepted)
    | ofSchema leads accepted => exact .ofSchema (h.type ▸ leads) accepted

/-- Replacing a part by a milder one eases the descriptor. -/
theorem Replaces.eases (replaced : Replaces inner inner' d d')
    (milder : Milder registry inner inner') : Eases registry d d' := by
  have same : Eases registry d d := .refl d
  cases replaced with
  | element held =>
    refine { same with element := fun part found => ⟨inner', rfl, ?_⟩ }
    cases held.symm.trans found
    exact milder
  | @property properties key declared held =>
    refine { same with properties := fun other found => ⟨_, rfl, ?_, .inr ?_⟩ }
    all_goals cases declared.symm.trans found
    · intro name part' found'
      rw [OrderedMap.get?_insert] at found'
      split at found'
      · next heq =>
        cases heq
        cases found'
        exact ⟨inner, held, milder⟩
      · exact ⟨part', found', .refl part'⟩
    · -- The key was there before, so it stays where it is.
      have present : key ∈ properties.keys := OrderedMap.mem_keys_iff.mpr ⟨inner, held⟩
      rw [OrderedMap.keys_insert, if_pos present]
      exact List.Subset.refl _
  | @alternative before after listed =>
    refine { same with alternatives := fun part found => ?_ }
    rw [listed] at found
    rcases List.mem_append.mp found with mem | mem
    · exact ⟨part, List.mem_append_left _ mem, .refl part⟩
    · rcases List.mem_cons.mp mem with rfl | mem
      · exact ⟨inner', by simp, milder⟩
      · exact ⟨part, by simp [mem], .refl part⟩

/-- Each of the listed changes eases a descriptor. -/
theorem Relaxation.eases (any : registry.Keeps .any) (iface : registry.Keeps .iface)
    (h : Relaxation registry d d') : Eases registry d d' := by
  have same : Eases registry d d := .refl d
  -- One field of the descriptor changes, the others are as they were.
  cases h with
  | optional => exact { same with required := fun required => by cases required }
  | values more => exact { same with values := List.subset_append_left _ _ }
  | alternatives more =>
    exact { same with
      alternatives := fun part listed => ⟨part, List.mem_append_left _ listed, .refl part⟩ }
  | forget interface declared forgotten =>
    refine { same with
      properties := fun properties found => ⟨_, rfl, ?_, .inl (interface.leads iface)⟩ }
    -- The property that is forgotten is not asked for, the others are unchanged.
    cases declared.symm.trans found
    intro name part' found'
    rw [forgotten] at found'
    split at found'
    · cases found'
    · exact ⟨part', found', .refl part'⟩
  | anything type optional replaced => exact replaced.eases (milder_anything any type optional)

/-- A change at any depth makes the whole milder. -/
theorem Within.milder (any : registry.Keeps .any) (iface : registry.Keeps .iface)
    (h : Within (Relaxation registry) d d') : Milder registry d d' := by
  induction h with
  | here change => exact (change.eases any iface).milder
  | inside _ replaced ih => exact (replaced.eases ih).milder

/-- Any number of changes makes a descriptor milder. -/
theorem Relaxes.milder (any : registry.Keeps .any) (iface : registry.Keeps .iface)
    (h : d.Relaxes registry d') : Milder registry d d' := by
  induction h with
  | refl => exact .refl d
  | tail _ step ih =>
    exact ih.trans (step.milder any iface)

end Descriptor

namespace Validator

/-- Relaxing a descriptor rejects nothing that was accepted. Where the types any and iface have
their own rules, a value that passes validation does not fail it after any relaxing changes at
any positions of the descriptor. -/
theorem relaxing_keeps_accepting (v : Validator) (built : v.registry.Declarative)
    (any : v.registry.Keeps .any) (iface : v.registry.Keeps .iface) (d d' : Descriptor)
    (relaxed : d.Relaxes v.registry d') (context path : String) (value : Value)
    (accepted : (v.validate context path value d).result = .ok true) (verdict : Bool)
    (h : (v.validate context path value d').result = .ok verdict) : verdict = true := by
  have milder := relaxed.milder any iface
  by_cases defined : value = .undefined
  · -- Then the value was accepted for being optional, and still is.
    subst defined
    have optional : d.required = false := by
      simpa using eq_not_required_of_undefined rfl accepted
    rw [eq_not_required_of_undefined rfl h, milder.not_required optional]
    rfl
  · have holds := (validate_eq_true_iff v built context path value defined d true accepted).mp rfl
    exact (validate_eq_true_iff v built context path value defined d' verdict h).mpr
      (milder.accepts value holds)

/-- A further value for the first alternative of a union, which was passed over before. -/
theorem relaxing_keeps_accepting_union :
    let v : Validator := ⟨.builtins, .memory, {}⟩
    let sizes : List Value → Descriptor := fun values =>
      { type := .builtin .oneOfType
        alternatives := [{ type := .builtin .oneOf, values }, .ofType (.builtin .string)] }
    (sizes [.string "s"]).Relaxes v.registry (sizes [.string "s", .string "m"]) ∧
      (v.validate "shirt" "size" (.string "m") (sizes [.string "s"])).result = .ok true ∧
      (v.validate "shirt" "size" (.string "m") (sizes [.string "s", .string "m"])).result =
        .ok true := by
  intro v sizes
  have relaxed : (sizes [.string "s"]).Relaxes .builtins (sizes [.string "s", .string "m"]) :=
    .single (.inside (.here (.values [.string "m"]))
      (@Descriptor.Replaces.alternative _ _ (sizes [.string "s"]) [] _ rfl))
  have enumeration := Registry.resolve_builtins .oneOf
  have string := Registry.resolve_builtins .string
  -- The enumeration does not list the size, and the alternative after it takes any text.
  have before : (v.validate "shirt" "size" (.string "m") (sizes [.string "s"])).result =
      .ok true := by
    rw [validate_of_defined rfl, Session.check_eq_follow,
      Session.plan_of_builtin (Registry.leads_builtins .oneOfType)]
    show (Run.any [Session.check _ _, Session.check _ _] >>= fun passed => _).result = _
    rw [Session.check_of_builtin enumeration, Session.check_of_builtin string,
      Session.checkBuiltin_eq_follow, Session.checkBuiltin_eq_follow]
    rfl
  -- All that the theorem asks for is that the other validation ends.
  obtain ⟨verdict, ended⟩ : ∃ verdict, (v.validate "shirt" "size" (.string "m")
      (sizes [.string "s", .string "m"])).result = .ok verdict := by
    rw [validate_of_defined rfl, Session.check_eq_follow,
      Session.plan_of_builtin (Registry.leads_builtins .oneOfType)]
    show ∃ verdict, (Run.any [Session.check _ _, Session.check _ _] >>= fun passed => _).result = _
    rw [Session.check_of_builtin enumeration, Session.checkBuiltin_eq_follow]
    exact ⟨_, rfl⟩
  have kept := relaxing_keeps_accepting v .builtins (Registry.get?_builtins _)
    (Registry.get?_builtins _) _ _ relaxed "shirt" "size" (.string "m") before verdict ended
  exact ⟨relaxed, before, kept ▸ ended⟩

end Validator

end PropShape
