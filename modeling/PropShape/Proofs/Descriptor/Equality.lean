import PropShape.Descriptor.Equality
import PropShape.Proofs.Value.Equality

/-!
# `PropShape.Proofs.Descriptor.Equality`: equal descriptors and their predicates

`Descriptor.equals_iff` reads the equality of descriptors one level at a time,
like that of values: the fields without further structure are the same,
defaults and allowed values are equal as values, and nested descriptors are
equal in the same places, properties being placed by their names.

Two predicates count as equal if they have the same identity. What that says
about their answers is a matter of the host, which hands out identities. A
`PredicateTable` is what there is to know about a host: one answer for each
identity and value, the same one for equal values. A descriptor draws its
predicates from a table (`Descriptor.Draws`) if they answer as it says.

`Descriptor.Akin` is then the relation that validation cannot tell apart: the
very same descriptor or an equal one, drawn from one table.
-/

set_option autoImplicit false

namespace PropShape

open Relation (ReflTransGen)

namespace Descriptor

/-- Two descriptors have the same type and switches, corresponding values, and
corresponding nested descriptors. -/
structure Corresponds (V : Value → Value → Prop) (R : Descriptor → Descriptor → Prop)
    (d other : Descriptor) : Prop where
  type : d.type = other.type
  required : d.required = other.required
  updatable : d.updatable = other.updatable
  default : Option.Rel V d.default? other.default?
  element : Option.Rel R d.element? other.element?
  properties : Option.Rel (OrderedMap.Agree R) d.properties? other.properties?
  values : List.Forall₂ V d.values other.values
  alternatives : List.Forall₂ R d.alternatives other.alternatives
  className : d.className? = other.className?
  predicate : Option.Rel (fun p q => p.identity = q.identity) d.predicate? other.predicate?

/-- Equality of options is the relation of options over the equality of what they hold. -/
theorem optionEquals_iff {α : Type} {equals : α → α → Bool} {a b : Option α} :
    optionEquals equals a b = true ↔ Option.Rel (fun a b => equals a b = true) a b := by
  cases a <;> cases b <;> simp [optionEquals]

/-- Equality of element descriptors as a relation of options. -/
theorem elementEquals_iff {a b : Option Descriptor} :
    elementEquals a b = true ↔ Option.Rel (fun d other => d.equals other = true) a b := by
  cases a <;> cases b <;> simp [elementEquals]

/-- One side of the comparison of properties: each pair has an equal descriptor under its name
in the map. -/
theorem propertiesWithin_iff {keys : List String} {properties : Entries String Descriptor keys}
    {map : OrderedMap String Descriptor} :
    propertiesWithin properties map = true ↔
      ∀ pair ∈ properties.toList, ∃ held, map.get? pair.1 = some held ∧
        pair.2.equals held = true := by
  induction properties with
  | nil => simp [propertiesWithin, Entries.toList]
  | cons key descriptor rest fresh ih =>
    rw [propertiesWithin, Entries.toList, List.forall_mem_cons, Bool.and_eq_true, ih]
    cases map.get? key <;> simp

/-- Equality of declared properties as agreement: the same names with equal descriptors, in any
order. -/
theorem propertiesEqual_iff {a b : Option (OrderedMap String Descriptor)} :
    propertiesEqual a b = true ↔
      Option.Rel (OrderedMap.Agree fun d other => d.equals other = true) a b := by
  cases a with
  | none => cases b <;> simp [propertiesEqual]
  | some map =>
    obtain ⟨keys, properties⟩ := map
    cases b with
    | none => simp [propertiesEqual]
    | some other =>
      rw [propertiesEqual, Bool.and_eq_true, beq_iff_eq, propertiesWithin_iff,
        Option.rel_some_some, OrderedMap.agree_iff]
      rfl

/-- Equality of alternatives as a correspondence one by one. -/
theorem alternativesEqual_iff {a b : List Descriptor} :
    alternativesEqual a b = true ↔ List.Forall₂ (fun d other => d.equals other = true) a b := by
  induction a generalizing b with
  | nil => cases b <;> simp [alternativesEqual]
  | cons alternative rest ih => cases b <;> simp [alternativesEqual, ih]

variable {d other inner : Descriptor}

/-- Equality compares values as values, and nested descriptors by itself. -/
theorem equals_iff :
    d.equals other = true ↔
      Corresponds (fun v w => v.equals w = true) (fun d other => d.equals other = true) d
        other := by
  obtain ⟨type, required, updatable, default, element, properties, values, alternatives, className,
    predicate⟩ := d
  -- Field by field: the comparison of each field is a relation of its own.
  rw [equals]
  simp only [Bool.and_eq_true, beq_iff_eq, optionEquals_iff, elementEquals_iff,
    propertiesEqual_iff, Value.equalItems_iff, alternativesEqual_iff]
  constructor
  · rintro ⟨⟨⟨⟨⟨⟨⟨⟨⟨h₁, h₂⟩, h₃⟩, h₄⟩, h₅⟩, h₆⟩, h₇⟩, h₈⟩, h₉⟩, h₁₀⟩
    exact ⟨h₁, h₂, h₃, h₄, h₅, h₆, h₇, h₈, h₉, h₁₀⟩
  · rintro ⟨h₁, h₂, h₃, h₄, h₅, h₆, h₇, h₈, h₉, h₁₀⟩
    exact ⟨⟨⟨⟨⟨⟨⟨⟨⟨h₁, h₂⟩, h₃⟩, h₄⟩, h₅⟩, h₆⟩, h₇⟩, h₈⟩, h₉⟩, h₁₀⟩

/-- The comparison of the parts may be replaced by one that holds between the parts. -/
theorem Corresponds.imp {V V' : Value → Value → Prop} {R S : Descriptor → Descriptor → Prop}
    (h : Corresponds V R d other) (values : ∀ v w, V v w → V' v w)
    (parts : ∀ p q, d.Holds p → other.Holds q → R p q → S p q) : Corresponds V' S d other where
  type := h.type
  required := h.required
  updatable := h.updatable
  default := rel_imp_mem h.default fun v w _ _ => values v w
  element := rel_imp_mem h.element fun p q hp hq => parts p q (.element hp) (.element hq)
  properties := by
    -- The relation has to be weaker on what the two descriptors hold only.
    refine rel_imp_mem h.properties fun map map' hmap hmap' agree => agree.imp ?_
    exact fun key p q hp hq => parts p q (.property hmap hp) (.property hmap' hq)
  values := h.values.imp values
  alternatives :=
    forall₂_imp_mem h.alternatives fun p q hp hq => parts p q (.alternative hp) (.alternative hq)
  className := h.className
  predicate := h.predicate

/-- A descriptor corresponds to itself for reflexive relations of values and of parts. -/
theorem Corresponds.refl {V : Value → Value → Prop} {R : Descriptor → Descriptor → Prop}
    (values : ∀ v, V v v) (parts : ∀ p, R p p) (d : Descriptor) : Corresponds V R d d where
  type := rfl
  required := rfl
  updatable := rfl
  default := rel_refl fun v _ => values v
  element := rel_refl fun p _ => parts p
  properties := rel_refl fun _ _ => OrderedMap.agree_refl fun _ p _ => parts p
  values := List.forall₂_same.mpr fun v _ => values v
  alternatives := List.forall₂_same.mpr fun p _ => parts p
  className := rfl
  predicate := rel_refl fun _ _ => rfl

/-! ## The same or an equal descriptor -/

/-- The very same descriptor, or an equal one. -/
def Same (d other : Descriptor) : Prop := d = other ∨ d.equals other = true

/-- Two equal descriptors correspond, with equal values and equal parts. -/
theorem Same.corresponds (h : d.Same other) : Corresponds Value.Same Same d other := by
  rcases h with rfl | equal
  · exact .refl Value.Same.refl (fun _ => .inl rfl) d
  · exact (equals_iff.mp equal).imp (fun _ _ => .inr) fun _ _ _ _ => .inr

end Descriptor

/-- What the predicates of a host answer, by identity. Equal values get the same answer. -/
structure PredicateTable where
  answer : Nat → Value → Bool
  respectful (identity : Nat) (v w : Value) (equal : v.equals w = true) :
    answer identity v = answer identity w

namespace Descriptor

variable {table : PredicateTable} {d other inner : Descriptor}

/-- Every predicate inside a descriptor answers as the table says. -/
def Draws (d : Descriptor) (table : PredicateTable) : Prop :=
  ∀ inner, ReflTransGen Holds d inner → ∀ predicate, inner.predicate? = some predicate →
    predicate.test = table.answer predicate.identity

/-- The parts of a descriptor draw their predicates from the same table. -/
theorem Draws.of_holds (h : d.Draws table) (holds : d.Holds inner) : inner.Draws table :=
  fun deeper inside => h deeper (.head holds inside)

/-- It is enough to look at the predicate of the descriptor and at its parts. -/
theorem draws_of_parts
    (own : ∀ predicate, d.predicate? = some predicate →
      predicate.test = table.answer predicate.identity)
    (parts : ∀ part, d.Holds part → part.Draws table) : d.Draws table := by
  intro inner inside
  rcases ReflTransGen.cases_head inside with rfl | ⟨part, holds, deeper⟩
  · exact own
  · exact parts part holds inner deeper

/-- A descriptor without parts only has its own predicate. -/
theorem draws_of_leaf (element : d.element? = none) (properties : d.properties? = none)
    (alternatives : d.alternatives = [])
    (own : ∀ predicate, d.predicate? = some predicate →
      predicate.test = table.answer predicate.identity) : d.Draws table := by
  refine draws_of_parts own fun part holds => ?_
  cases holds with
  | element h => simp [element] at h
  | property declared => simp [properties] at declared
  | alternative h => simp [alternatives] at h

/-- The very same descriptor or an equal one, with predicates of one table. -/
structure Akin (table : PredicateTable) (d other : Descriptor) : Prop where
  same : d.Same other
  draws : d.Draws table
  draws' : other.Draws table

/-- Descriptors that are akin correspond, with their parts akin again. -/
theorem Akin.corresponds (h : d.Akin table other) :
    Corresponds Value.Same (Akin table) d other :=
  h.same.corresponds.imp (fun _ _ => id) fun _ _ holds holds' same =>
    ⟨same, h.draws.of_holds holds, h.draws'.of_holds holds'⟩

/-- Predicates in the same place give the same answer to the same value. -/
theorem Akin.predicate (h : d.Akin table other) {v w : Value} (same : v.Same w) :
    Option.Rel (fun p q => p.test v = q.test w) d.predicate? other.predicate? := by
  refine rel_imp_mem h.corresponds.predicate fun p q hp hq identity => ?_
  rw [h.draws d .refl p hp, h.draws' other .refl q hq, identity]
  rcases same with rfl | equal
  · rfl
  · exact table.respectful q.identity v w equal

end Descriptor

/-- The predicates of all properties are those of the table. -/
def Schema.Draws (schema : Schema) (table : PredicateTable) : Prop :=
  ∀ name descriptor, schema.get? name = some descriptor → descriptor.Draws table

end PropShape
