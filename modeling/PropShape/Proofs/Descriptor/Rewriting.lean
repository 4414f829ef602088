import PropShape.Proofs.Agreement
import PropShape.Proofs.StrictPart

/-!
# `PropShape.Proofs.Descriptor.Rewriting`: changing a descriptor in one place

A change of descriptors is given by a relation `R` that says what may happen
to a descriptor on the spot. `Within R` carries the change out at one
position, at any depth; what surrounds the position stays as it is
(`Replaces`). Changes at several positions are such steps in a row.

`Aligned` is what a step looks like from above: apart from the type, the two
descriptors have the same switches and the same configuration, and parts in
the same places that are related. Properties keep their order, since the
order decides which of them is checked first (`Within.aligned`).
-/

set_option autoImplicit false

namespace PropShape

/-! ## Descriptors -/

namespace Descriptor

variable {R : Descriptor → Descriptor → Prop} {T : TypeName → TypeName → Prop}
  {d d' inner inner' : Descriptor}

/-- A descriptor with one of its parts replaced in its place. -/
inductive Replaces (inner inner' : Descriptor) : Descriptor → Descriptor → Prop
  | element {d : Descriptor} (h : d.element? = some inner) :
    Replaces inner inner' d { d with element? := some inner' }
  | property {d : Descriptor} {properties : Schema} {key : String}
    (declared : d.properties? = some properties) (h : properties.get? key = some inner) :
    Replaces inner inner' d { d with properties? := some (properties.insert key inner') }
  | alternative {d : Descriptor} {before after : List Descriptor}
    (h : d.alternatives = before ++ inner :: after) :
    Replaces inner inner' d { d with alternatives := before ++ inner' :: after }

/-- One change, at the descriptor itself or at a position inside it. -/
inductive Within (R : Descriptor → Descriptor → Prop) : Descriptor → Descriptor → Prop
  | here {d d' : Descriptor} (h : R d d') : Within R d d'
  | inside {d d' inner inner' : Descriptor} (h : Within R inner inner')
    (replaced : Replaces inner inner' d d') : Within R d d'

/-- Descriptors whose types are related, and whose parts are related place by place. -/
structure Aligned (T : TypeName → TypeName → Prop) (R : Descriptor → Descriptor → Prop)
    (d d' : Descriptor) : Prop where
  type : T d.type d'.type
  required : d'.required = d.required
  element : Option.Rel R d.element? d'.element?
  properties : Option.Rel (OrderedMap.InPlace R) d.properties? d'.properties?
  values : d'.values = d.values
  alternatives : List.Forall₂ R d.alternatives d'.alternatives
  className : d'.className? = d.className?
  predicate : d'.predicate? = d.predicate?

/-- A descriptor is aligned with itself for a reflexive relation of parts. -/
theorem aligned_refl (refl : ∀ p, R p p) (type : T d.type d.type) : Aligned T R d d where
  type := type
  required := rfl
  element := rel_refl fun p _ => refl p
  properties := rel_refl fun properties _ => OrderedMap.inPlace_refl refl properties
  values := rfl
  alternatives := List.forall₂_same.mpr fun p _ => refl p
  className := rfl
  predicate := rfl

/-- Another type in front of the same parts. -/
theorem aligned_type (refl : ∀ p, R p p) {type : TypeName} (h : T d.type type) :
    Aligned T R d { d with type } :=
  have same : Aligned (fun _ _ => True) R d d := aligned_refl refl trivial
  ⟨h, rfl, same.element, same.properties, rfl, same.alternatives, rfl, rfl⟩

/-- Replacing a part changes nothing else. -/
theorem Replaces.aligned (replaced : Replaces inner inner' d d') (types : ∀ type, T type type)
    (refl : ∀ p, R p p) (h : R inner inner') : Aligned T R d d' := by
  have same : Aligned T R d d := aligned_refl refl (types d.type)
  -- Only the field with the replaced part changes, and all others are aligned with themselves.
  cases replaced with
  | element held =>
    refine ⟨same.type, rfl, ?_, same.properties, rfl, same.alternatives, rfl, rfl⟩
    rw [held]
    exact .some h
  | property declared held =>
    refine ⟨same.type, rfl, same.element, ?_, rfl, same.alternatives, rfl, rfl⟩
    rw [declared]
    exact .some (OrderedMap.inPlace_insert refl held h)
  | alternative held =>
    refine ⟨same.type, rfl, same.element, same.properties, rfl, ?_, rfl, rfl⟩
    rw [held]
    -- The alternatives in front of the replaced one and behind it stay.
    have unchanged : ∀ parts : List Descriptor, List.Forall₂ R parts parts :=
      fun parts => List.forall₂_same.mpr fun p _ => refl p
    exact List.rel_append (unchanged _) (.cons h (unchanged _))

/-- An alignment may be read from the other side. -/
theorem Aligned.flip (h : Aligned T R d d') :
    Aligned (fun type type' => T type' type) (fun p q => R q p) d' d where
  type := h.type
  required := h.required.symm
  element := rel_flip h.element
  properties := rel_flip (rel_imp_mem h.properties fun _ _ _ _ places => places.flip)
  values := h.values.symm
  alternatives := h.alternatives.flip
  className := h.className.symm
  predicate := h.predicate.symm

/-- Each part of the one descriptor has its counterpart in the other. -/
theorem Aligned.holds (h : Aligned T R d d') (holds : d.Holds inner) :
    ∃ inner', d'.Holds inner' ∧ R inner inner' := by
  -- A part is found in the same place of the other descriptor.
  cases holds with
  | element held =>
    have related := h.element
    rw [held] at related
    generalize found : d'.element? = part at related
    cases related with
    | some related => exact ⟨_, .element found, related⟩
  | property declared held =>
    have related := h.properties
    rw [declared] at related
    generalize found : d'.properties? = properties at related
    cases related with
    | some places =>
      obtain ⟨inner', held', related⟩ := places.agree.exists_right held
      exact ⟨inner', .property found held', related⟩
  | alternative listed =>
    obtain ⟨inner', listed', related⟩ := (Counterparts.of_forall₂ h.alternatives).forth _ listed
    exact ⟨inner', .alternative listed', related⟩

end Descriptor

end PropShape
