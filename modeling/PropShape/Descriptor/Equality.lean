import PropShape.Descriptor.Basic
import PropShape.Value.Equality

/-!
# `PropShape.Descriptor.Equality`: when two descriptors are equal

Descriptors are equal field by field. Defaults and allowed values are
compared as values, so a NaN makes a descriptor differ from itself; nested
properties are compared as maps, whatever their order; predicates are
compared by identity.
-/

set_option autoImplicit false

namespace PropShape.Descriptor

/-- Equality of optional things: both absent, or both there and equal. -/
def optionEquals {α : Type} (equals : α → α → Bool) : Option α → Option α → Bool
  | none, none => true
  | some a, some b => equals a b
  | _, _ => false

mutual

/-- Equality of descriptors. -/
def equals : Descriptor → Descriptor → Bool
  | ⟨aType, aRequired, aUpdatable, aDefault, aElement, aProperties, aValues, aAlternatives, aClass,
      aPredicate⟩, b =>
    aType == b.type && aRequired == b.required && aUpdatable == b.updatable &&
      optionEquals Value.equals aDefault b.default? &&
      elementEquals aElement b.element? &&
      propertiesEqual aProperties b.properties? &&
      Value.equalItems aValues b.values &&
      alternativesEqual aAlternatives b.alternatives &&
      aClass == b.className? &&
      optionEquals (fun p q => p.identity == q.identity) aPredicate b.predicate?
termination_by structural x => x

/-- Equality of element descriptors, of which there may be none. -/
def elementEquals : Option Descriptor → Option Descriptor → Bool
  | none, none => true
  | some a, some b => equals a b
  | _, _ => false
termination_by structural x => x

/-- Equality of declared properties, which does not depend on their order. -/
def propertiesEqual :
    Option (OrderedMap String Descriptor) → Option (OrderedMap String Descriptor) → Bool
  | none, none => true
  | some ⟨aKeys, a⟩, some b => aKeys.length == b.size && propertiesWithin a b
  | _, _ => false
termination_by structural x => x

/-- Whether every property has an equal descriptor under its name in a map. -/
def propertiesWithin {keys : List String} :
    Entries String Descriptor keys → OrderedMap String Descriptor → Bool
  | .nil, _ => true
  | .cons key value rest _, map =>
    (match map.get? key with
      | some held => equals value held
      | none => false) && propertiesWithin rest map
termination_by structural x => x

/-- Equality of alternatives, one by one. -/
def alternativesEqual : List Descriptor → List Descriptor → Bool
  | [], [] => true
  | a :: as, b :: bs => equals a b && alternativesEqual as bs
  | _, _ => false
termination_by structural x => x

end

end PropShape.Descriptor
