import PropShape.Proofs.Descriptor.Rewriting
import PropShape.Proofs.Registry.Resolution
import PropShape.Proofs.Schema.Usable
import PropShape.Proofs.Validation.Silence

/-!
# `PropShape.Proofs.Validation.Aliases`: aliases are invisible

Two type names that aliases lead to the same owner are interchangeable in
descriptors: a check goes by the rule of the owner, a schema is entered under
the owner's name, and what a type needs is what its owner needs. Only messages
spell a type as it is written. So after a change of spelling
(`Descriptor.Respelling`) at any positions of a descriptor, validation comes
to the same result and reports as much about the same objects
(`Run.SameOutline`).

* `Check.alike_respelled`: for each built-in type the plans of aligned checks
  are alike.
* `Session.check_respelled`: hence so are the runs, for one change of
  spelling at one position.
* `Descriptor.usableThroughout_iff_of_respelled`: the check of schemas passes
  both descriptors or neither.
* `aliases_are_invisible` puts this together, for any number of changes.
-/

set_option autoImplicit false

namespace PropShape

open Relation (ReflGen ReflTransGen)

/-! ## The outline of a run -/

/-- Both runs end in the same result or in the same error, and make as many reports about the
same objects, in other words perhaps. -/
structure Run.SameOutline (α : Type) (run other : Run α) : Prop where
  result : run.result = other.result
  contexts : run.diagnostics.map Diagnostic.context = other.diagnostics.map Diagnostic.context

namespace Run

variable {α : Type} {run other third : Run α}

/-- A run has the same outline as itself. -/
theorem SameOutline.refl (run : Run α) : SameOutline α run run := ⟨rfl, rfl⟩

/-- Having the same outline is transitive. -/
theorem SameOutline.trans (h : SameOutline α run other) (h' : SameOutline α other third) :
    SameOutline α run third :=
  ⟨h.result.trans h'.result, h.contexts.trans h'.contexts⟩

/-- Outlines are put together as the runs are. -/
theorem congruence_sameOutline : Congruence SameOutline where
  pure a := .refl _
  bind := by
    intro α β run other next onward first rest
    obtain ⟨result, contexts⟩ := bind_of_same_result
      (fun ds es => ds.map Diagnostic.context = es.map Diagnostic.context)
      (fun same same' => by rw [List.map_append, List.map_append, same, same'])
      first.result first.contexts fun a => ⟨(rest a).result, (rest a).contexts⟩
    exact ⟨result, contexts⟩

end Run

/-! ## Spelling a type in another way -/

/-- A descriptor whose type is one of two names is given the other one. -/
inductive Descriptor.Respelling (first second : TypeName) : Descriptor → Descriptor → Prop
  | forth {d : Descriptor} (h : d.type = first) :
    Respelling first second d { d with type := second }
  | back {d : Descriptor} (h : d.type = second) :
    Respelling first second d { d with type := first }

/-- One of two type names is written for the other, at any positions of any depth. -/
def Descriptor.Respelled (first second : TypeName) : Descriptor → Descriptor → Prop :=
  ReflTransGen (Within (Respelling first second))

/-- Two type names resolve to the same owner and rule, or fail to resolve in the same way. -/
def Registry.Interchangeable (registry : Registry) (name other : TypeName) : Prop :=
  registry.resolve name = registry.resolve other

namespace Descriptor

variable {registry : Registry} {first second owner : TypeName} {d d' : Descriptor}

/-- The very same descriptor, or one with a single change of spelling. -/
abbrev Kin (first second : TypeName) : Descriptor → Descriptor → Prop :=
  ReflGen (Within (Respelling first second))

/-- Respelled descriptors are aligned: their types are interchangeable, and their parts are kin
again. -/
theorem Kin.aligned (same : registry.Interchangeable first second) (h : d.Kin first second d') :
    Aligned registry.Interchangeable (Kin first second) d d' := by
  have refl : ∀ p : Descriptor, p.Kin first second p := fun _ => .refl
  cases h with
  | refl => exact aligned_refl refl rfl
  | single h =>
    -- Either a part has been respelled, or the type of the descriptor itself.
    cases h with
    | inside h replaced => exact replaced.aligned (fun _ => rfl) refl (.single h)
    | here h =>
      cases h with
      | forth written =>
        refine aligned_type refl ?_
        rw [written]
        exact same
      | back written =>
        refine aligned_type refl ?_
        rw [written]
        exact Eq.symm same

end Descriptor

/-! ## Plans for aligned checks -/

section

variable {R : Run Bool → Run Bool → Prop} {Pair : Pairing} {s : Session} {c : Check}

/-- Rules that go through one value by related declarations do so alike. -/
theorem Plan.alike_composite {d : Check} {α β γ : Type} {S : α → β → Prop} {declared : Option α}
    {declared' : Option β} {held : Option γ} {m : Misconfiguration} {parts : α → γ → List Part}
    {pieces : β → γ → List Part} {failure : α → Failure} {fault : β → Failure}
    (declarations : Option.Rel S declared declared')
    (h : ∀ a b x, S a b → List.Forall₂ (Part.Alike R Pair s c s d) (parts a x) (pieces b x))
    (report : ∀ passed failure fault, R (s.expect c passed failure) (s.expect d passed fault))
    (misconfigured : ∀ m, R (s.misconfigured c m) (s.misconfigured d m)) :
    Plan.Alike R Pair s c s d (.composite m declared held parts failure)
      (.composite m declared' held pieces fault) := by
  -- Without a declaration both plans are the misconfiguration.
  cases declarations with
  | none => exact .misconfigured (misconfigured m)
  | some declares =>
    cases held with
    | none => exact .settle (report false _ _)
    | some content => exact .all (h _ _ content declares) fun passed => report passed _ _

namespace Check

variable {T : TypeName → TypeName → Prop} {K : Descriptor → Descriptor → Prop} {d' : Descriptor}
  (nested : ∀ {inner : Check} {e : Descriptor}, K inner.descriptor e →
    Pair s inner s { inner with descriptor := e })
  (report : ∀ passed failure fault,
    R (s.expect c passed failure) (s.expect { c with descriptor := d' } passed fault))
  (misconfigured : ∀ m, R (s.misconfigured c m) (s.misconfigured { c with descriptor := d' } m))

include nested in
/-- The items of an array are checked alike against related element descriptors. -/
theorem alike_itemParts_of_related {element element' : Descriptor} (h : K element element')
    (items : List Value) :
    List.Forall₂ (Part.Alike R Pair s c s { c with descriptor := d' })
      (c.itemParts element 0 items)
      (itemParts { c with descriptor := d' } element' 0 items) := by
  refine List.forall₂_map_left_iff.mpr (List.forall₂_map_right_iff.mpr ?_)
  exact List.forall₂_same.mpr fun _ _ => .check (nested h)

include nested in
/-- The fields of a record are checked alike against related element descriptors. -/
theorem alike_fieldParts_of_related {element element' : Descriptor} (h : K element element')
    (fields : List (String × Value)) :
    List.Forall₂ (Part.Alike R Pair s c s { c with descriptor := d' })
      (c.fieldParts element fields)
      (fieldParts { c with descriptor := d' } element' fields) := by
  refine List.forall₂_map_left_iff.mpr (List.forall₂_map_right_iff.mpr ?_)
  exact List.forall₂_same.mpr fun _ _ => .check (nested h)

include nested report in
/-- Whether a property is required is the same on both sides, so it is settled alike. -/
theorem alike_propertyParts_of_inPlace (required : ∀ e e', K e e' → e'.required = e.required)
    (record : Record) {properties properties' : Schema} (h : properties.InPlace K properties') :
    List.Forall₂ (Part.Alike R Pair s c s { c with descriptor := d' })
      (c.propertyParts record properties.toList)
      (propertyParts { c with descriptor := d' } record properties'.toList) := by
  refine List.forall₂_map_left_iff.mpr (List.forall₂_map_right_iff.mpr (h.imp ?_))
  rintro ⟨key, e⟩ ⟨_, e'⟩ ⟨rfl, related⟩
  dsimp only
  cases record.lookup? key with
  | none =>
    rw [required e e' related]
    exact .settle (report _ _ _)
  | some value => exact .check (nested related)

include report in
/-- The names of a record are settled alike by the same declared names. -/
theorem alike_nameParts_of_eq {declared declared' : List String} (h : declared = declared')
    (names : List String) :
    List.Forall₂ (Part.Alike R Pair s c s { c with descriptor := d' }) (c.nameParts declared names)
      (nameParts { c with descriptor := d' } declared' names) := by
  subst h
  refine List.forall₂_map_left_iff.mpr (List.forall₂_map_right_iff.mpr ?_)
  exact List.forall₂_same.mpr fun _ _ => .settle (report _ _ _)

include nested report misconfigured in
/-- A built-in type asks the same of aligned descriptors, and has as much to say about them. -/
theorem alike_respelled (aligned : Descriptor.Aligned T K c.descriptor d')
    (required : ∀ e e', K e e' → e'.required = e.required) (type : BuiltinType) :
    Plan.Alike R Pair s c s { c with descriptor := d' } (c.builtinPlan type)
      (builtinPlan { c with descriptor := d' } type) := by
  cases type with
  | any => exact .pass
  | instanceOf =>
    simp only [builtinPlan, aligned.className]
    split
    · exact .misconfigured (misconfigured _)
    · exact .settle (report _ _ _)
  | custom =>
    simp only [builtinPlan, aligned.predicate]
    split
    · exact .misconfigured (misconfigured _)
    · exact .settle (report _ _ _)
  | oneOf =>
    simp only [builtinPlan, aligned.values]
    split
    · exact .misconfigured (misconfigured _)
    · exact .settle (report _ _ _)
  | oneOfType =>
    -- The alternatives are tried in the same order on both sides.
    have tried : List.Forall₂ (fun inner other => Pair s inner s other) c.alternatives
        (alternatives { c with descriptor := d' }) := by
      refine List.forall₂_map_left_iff.mpr (List.forall₂_map_right_iff.mpr ?_)
      exact aligned.alternatives.imp fun _ _ related => nested related
    simp only [builtinPlan, isEmpty_eq_of_forall₂ aligned.alternatives]
    split
    · exact .misconfigured (misconfigured _)
    · exact .any tried fun passed => report passed _ _
  -- The composite types differ in what they check only.
  | arrayOf =>
    rw [builtinPlan_arrayOf, builtinPlan_arrayOf]
    refine Plan.alike_composite aligned.element (fun _ _ items related => ?_) report misconfigured
    exact alike_itemParts_of_related nested related items
  | objectOf =>
    rw [builtinPlan_objectOf, builtinPlan_objectOf]
    refine Plan.alike_composite aligned.element (fun _ _ record related => ?_) report misconfigured
    exact alike_fieldParts_of_related nested related record.fields.toList
  | iface =>
    rw [builtinPlan_iface, builtinPlan_iface]
    refine Plan.alike_composite aligned.properties (fun _ _ record places => ?_) report
      misconfigured
    exact alike_propertyParts_of_inPlace nested report required record places
  | shape =>
    rw [builtinPlan_shape, builtinPlan_shape]
    refine Plan.alike_composite aligned.properties (fun _ _ record places => ?_) report
      misconfigured
    exact List.rel_append (alike_propertyParts_of_inPlace nested report required record places)
      (alike_nameParts_of_eq report places.keys_eq record.fields.keys)
  | _ => exact .settle (report _ _ _)

end Check

end

namespace Session

variable {first second : TypeName} {s : Session} {c : Check} {d' : Descriptor}

/-- Where failures are logged, reports that say the same in other words have the same outline. -/
theorem expect_sameOutline (log : s.onFailure = .log) (c : Check) (d' : Descriptor)
    (passed : Bool) (failure fault : Failure) :
    Run.SameOutline Bool (s.expect c passed failure)
      (s.expect { c with descriptor := d' } passed fault) := by
  refine ⟨by rw [expect_of_log log, expect_of_log log], ?_⟩
  -- Nothing is reported if the check has passed.
  cases passed with
  | true => rfl
  | false =>
    show ((s.fail c failure).diagnostics.map _ : List String) =
      (s.fail { c with descriptor := d' } fault).diagnostics.map _
    -- The reports name the same context, and may differ in their messages.
    unfold fail
    rw [log]
    split
    · simp only [Run.bind_diagnostics, Sink.warn, Sink.keeps_log, if_true]
      rfl
    · rfl

/-- The same check in the same session, against a descriptor that is spelled differently in at
most one position. -/
inductive Spelled (first second : TypeName) : Pairing
  | intro {s : Session} {c : Check} {d' : Descriptor} (built : s.registry.Declarative)
    (log : s.onFailure = .log) (same : s.registry.Interchangeable first second)
    (kin : c.descriptor.Kin first second d') :
    Spelled first second s c s { c with descriptor := d' }

/-- The spelling of a descriptor changes neither the result of a check nor how much it reports. -/
theorem check_respelled (h : Spelled first second s c s { c with descriptor := d' }) :
    Run.SameOutline Bool (s.check c) (s.check { c with descriptor := d' }) := by
  refine related_of_alike Run.congruence_sameOutline ?_ h
  rintro s c _ _ @⟨_, _, d', built, log, same, kin⟩
  have aligned := kin.aligned same
  have resolves : s.registry.resolve c.descriptor.type = s.registry.resolve d'.type := aligned.type
  unfold plan
  rw [← resolves]
  cases h : s.registry.resolve c.descriptor.type with
  | error e => exact .raise (.refl _)
  | ok resolved =>
    obtain ⟨owner, rule⟩ := resolved
    cases rule with
    | builtin type =>
      refine Check.alike_respelled (fun {inner e} kin => .intro built log same kin)
        (expect_sameOutline log c d') (fun m => .refl _) aligned (fun e e' kin => ?_) type
      exact (kin.aligned same).required
    | schema stored =>
      -- Both checks go on with the stored descriptor, under the name of the owner.
      simp only [planOf]
      split
      · exact .raise (.refl _)
      · exact .enter (.intro built log same .refl)
    | host rule => cases built.owns (Registry.get?_of_resolve h)

end Session

/-! ## The check of schemas -/

namespace Descriptor

variable {registry : Registry} {first second : TypeName} {d d' : Descriptor}
  {T : TypeName → TypeName → Prop} {K : Descriptor → Descriptor → Prop}

/-- What a descriptor lacks is a matter of its configuration, and not of how its type is
written. -/
theorem Aligned.lacks?_eq (h : Aligned T K d d') (owner : TypeName) :
    d.lacks? owner = d'.lacks? owner := by
  have element : d.element?.isNone = d'.element?.isNone := by
    have related := h.element
    generalize d.element? = held at related
    generalize d'.element? = held' at related
    cases related <;> rfl
  have properties := h.properties
  have alternatives := isEmpty_eq_of_forall₂ h.alternatives
  cases owner with
  | named name => rfl
  | builtin type =>
    cases type with
    | iface | shape =>
      simp only [lacks?]
      generalize d.properties? = held at properties
      generalize d'.properties? = held' at properties
      cases properties with
      | none => rfl
      | @some properties properties' places =>
        -- The same keys are declared, so both are empty or neither is.
        have empty : properties.isEmpty = properties'.isEmpty :=
          congrArg List.isEmpty places.keys_eq
        simp only [empty]
    | arrayOf | objectOf => simp only [lacks?, element]
    | instanceOf => simp only [lacks?, h.className]
    | oneOf => simp only [lacks?, h.values]
    | oneOfType => simp only [lacks?, alternatives]
    | custom => simp only [lacks?, h.predicate]
    | _ => rfl

/-- Aligned descriptors are usable together, since they have the same configuration. -/
theorem Aligned.usable_iff (h : Aligned registry.Interchangeable K d d') :
    d.Usable registry ↔ d'.Usable registry := by
  have same : registry.resolve d.type = registry.resolve d'.type := h.type
  unfold Usable
  refine exists₂_congr fun owner rule => ?_
  rw [← Registry.resolve_eq_ok_iff, ← Registry.resolve_eq_ok_iff, same, h.lacks?_eq owner]

/-- A change of spelling makes nothing usable, and leaves usable what is. -/
theorem usableThroughout_iff_of_kin {d d' : Descriptor}
    (same : registry.Interchangeable first second) (kin : d.Kin first second d') :
    d.UsableThroughout registry ↔ d'.UsableThroughout registry := by
  have aligned := kin.aligned same
  -- One level on both sides; the parts are kin again and smaller.
  rw [usableThroughout_iff, usableThroughout_iff, aligned.usable_iff]
  refine and_congr_right fun _ => ⟨fun h inner' holds' => ?_, fun h inner holds => ?_⟩
  · obtain ⟨inner, holds, related⟩ := aligned.flip.holds holds'
    have smaller := holds.sizeOf_lt
    exact (usableThroughout_iff_of_kin same related).mp (h inner holds)
  · obtain ⟨inner', holds', related⟩ := aligned.holds holds
    have smaller := holds.sizeOf_lt
    exact (usableThroughout_iff_of_kin same related).mpr (h inner' holds')
termination_by sizeOf d

end Descriptor

/-- Names with the same owner stand for the same rule. -/
theorem Registry.interchangeable_of_owner {registry : Registry} {name other owner : TypeName}
    (h : registry.resolveType name = .ok owner) (h' : registry.resolveType other = .ok owner) :
    registry.Interchangeable name other := by
  obtain ⟨rule, found⟩ := resolveType_eq_ok_iff.mp h
  obtain ⟨rule', found'⟩ := resolveType_eq_ok_iff.mp h'
  have same : some (Registration.rule rule) = some (Registration.rule rule') :=
    (get?_of_resolve found).symm.trans (get?_of_resolve found')
  cases same
  exact found.trans found'.symm

/-- A registry in which arrays of a type go by another name, too. -/
def Registry.listed : Registry := builtins.registerAlias (.named "list") (.builtin .arrayOf)

namespace Validator

variable {v : Validator} {first second : TypeName} {d d' : Descriptor}

/-- Validation has the same outline for a respelled descriptor. -/
theorem validate_respelled (built : v.registry.Declarative) (log : v.options.onFailure = .log)
    (same : v.registry.Interchangeable first second) (kin : d.Kin first second d')
    (context path : String) (value : Value) :
    Run.SameOutline Bool (v.validate context path value d) (v.validate context path value d') := by
  cases hvalue : value.isUndefined with
  | true =>
    -- Undefined is settled by whether it is allowed, and the type is not looked at.
    rw [validate_of_undefined hvalue, validate_of_undefined hvalue, (kin.aligned same).required]
    exact .refl _
  | false =>
    rw [validate_of_defined hvalue, validate_of_defined hvalue]
    have pair : Session.Spelled first second (.start v.registry v.sink v.options.onFailure)
        ⟨context, path, value, d, v.options.logErrors⟩ _ _ := .intro built log same kin
    exact Session.check_respelled pair

/-- Aliases are invisible to validation. If two type names resolve to the same owner, one may
be written for the other at any positions of a descriptor: where failures are logged, every
value comes to the same verdict or to the same error, with as many reports about the same
objects; and a schema that holds the descriptor passes the check exactly if it passes with the
other spelling. -/
theorem aliases_are_invisible (v : Validator) (built : v.registry.Declarative)
    (log : v.options.onFailure = .log) (first second owner : TypeName)
    (hfirst : v.registry.resolveType first = .ok owner)
    (hsecond : v.registry.resolveType second = .ok owner)
    (d d' : Descriptor) (respelled : d.Respelled first second d') :
    (∀ context path value,
      Run.SameOutline Bool (v.validate context path value d)
        (v.validate context path value d')) ∧
    ∀ (schema : Schema) (key : String),
      Schema.check (schema.insert key d) v.registry = .ok () ↔
        Schema.check (schema.insert key d') v.registry = .ok () := by
  have same := Registry.interchangeable_of_owner hfirst hsecond
  constructor
  · intro context path value
    -- One respelled position after the other.
    induction respelled with
    | refl => exact .refl _
    | tail _ step ih =>
      exact ih.trans (validate_respelled built log same (.single step) context path value)
  · -- The check of a schema asks whether each descriptor is usable throughout.
    have usable : d.UsableThroughout v.registry ↔ d'.UsableThroughout v.registry := by
      induction respelled with
      | refl => exact Iff.rfl
      | tail _ step ih =>
        exact ih.trans (Descriptor.usableThroughout_iff_of_kin same (.single step))
    intro schema key
    rw [Schema.check_eq_ok_iff, Schema.check_eq_ok_iff]
    refine forall_congr' fun name => ?_
    rw [OrderedMap.get?_insert, OrderedMap.get?_insert]
    by_cases same : name = key
    · simp only [if_pos same, Option.some.injEq, forall_eq', usable]
    · simp only [if_neg same]

/-- The alternative of a union in the other spelling. Null is rejected, and both reports are
made that the built-in spelling makes. -/
theorem aliases_are_invisible_list :
    let v : Validator := ⟨.listed, .memory, {}⟩
    let respelled : Descriptor :=
      { type := .builtin .oneOfType, alternatives := [.ofType (.named "list")] }
    undeclaredItems.Respelled (.builtin .arrayOf) (.named "list") respelled ∧
      (v.validate "page" "items" .null respelled).result = .ok false ∧
      (v.validate "page" "items" .null respelled).diagnostics.map Diagnostic.context =
        ["page", "page"] := by
  intro v respelled
  have built : v.registry.Declarative := .registerAlias .builtins _ _
  have owned : ∀ type,
      Registry.listed.get? (.builtin type) = some (.rule (.builtin type)) := by
    intro type
    simp [Registry.listed, Registry.registerAlias, Registry.get?_insert, Registry.get?_builtins]
  have leads : ∀ type, Registry.listed.Leads (.builtin type) (.builtin type) (.builtin type) :=
    fun type => ⟨.refl, owned type⟩
  have leads' : Registry.listed.Leads (.named "list") (.builtin .arrayOf) (.builtin .arrayOf) :=
    ⟨.single (by simp [Registry.AliasOf, Registry.listed, Registry.registerAlias,
      Registry.get?_insert]), owned _⟩
  have resolved : Registry.listed.resolveType (.builtin .arrayOf) = .ok (.builtin .arrayOf) :=
    Registry.resolveType_eq_ok_iff.mpr ⟨_, Registry.resolve_eq_ok_iff.mpr (leads .arrayOf)⟩
  have resolved' : Registry.listed.resolveType (.named "list") = .ok (.builtin .arrayOf) :=
    Registry.resolveType_eq_ok_iff.mpr ⟨_, Registry.resolve_eq_ok_iff.mpr leads'⟩
  -- The one alternative of the union is respelled.
  have rewritten : undeclaredItems.Respelled (.builtin .arrayOf) (.named "list") respelled :=
    .single (.inside (.here (.forth rfl))
      (@Descriptor.Replaces.alternative _ _ undeclaredItems [] [] rfl))
  -- The validation of the descriptor as it is written is carried out step by step.
  have written : v.validate "page" "items" .null undeclaredItems =
      ⟨[⟨"page", .misconfiguration .noArrayElement, .log⟩,
        ⟨"page", .failure (.noAlternative "items" ["arrayOf"]), .log⟩], .ok false⟩ := by
    rw [validate_of_defined rfl, Session.check_eq_follow,
      Session.plan_of_builtin (leads .oneOfType)]
    show Run.any [Session.check _ _] >>= (fun passed => _) = _
    rw [Session.check_of_builtin (Registry.resolve_eq_ok_iff.mpr (leads .arrayOf)),
      Session.checkBuiltin_eq_follow]
    rfl
  have outline := (aliases_are_invisible v built rfl _ _ _ resolved resolved' _ _ rewritten).1
    "page" "items" .null
  rw [written] at outline
  exact ⟨rewritten, outline.result.symm, outline.contexts.symm⟩

end Validator

end PropShape
