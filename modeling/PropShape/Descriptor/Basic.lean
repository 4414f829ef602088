import PropShape.TypeName
import PropShape.Value.Basic

/-!
# `PropShape.Descriptor.Basic`: what a property must look like

A descriptor declares one property: its type, whether it is required, whether
it may change once it is set, its default, and the configuration that the
composite types need. Every field may be given whatever the type is; a type
reads the fields that it needs.

`Descriptor.expectedType` is the text by which messages name a descriptor.
-/

set_option autoImplicit false

namespace PropShape

/-- A check that a host supplies. Two predicates are the same when their
identities are. -/
structure Predicate where
  identity : Nat
  test : Value → Bool

/-- The declaration of one property. -/
structure Descriptor where
  type : TypeName
  /-- Whether undefined is a failure. -/
  required : Bool := false
  /-- Whether the value may change once it is set. -/
  updatable : Bool := true
  /-- The value to assign when the property is undefined. -/
  default? : Option Value := none
  /-- What the items of `arrayOf` and the fields of `objectOf` must look like. -/
  element? : Option Descriptor := none
  /-- The nested properties of `iface` and `shape`. -/
  properties? : Option (OrderedMap String Descriptor) := none
  /-- The values that `oneOf` allows. -/
  values : List Value := []
  /-- The descriptors that `oneOfType` tries in turn. -/
  alternatives : List Descriptor := []
  /-- The class of `instanceOf`. -/
  className? : Option String := none
  /-- The check of `custom`. -/
  predicate? : Option Predicate := none

instance : Inhabited Descriptor :=
  ⟨⟨.builtin .any, false, true, none, none, none, [], [], none, none⟩⟩

/-- The declared properties of an object, by name. -/
abbrev Schema := OrderedMap String Descriptor

namespace Descriptor

/-- The descriptor of a type without further configuration. -/
def ofType (type : TypeName) : Descriptor := { type }

/-- A type name, with what it holds for lists and maps. -/
def expectedType : Descriptor → String
  | ⟨.builtin .arrayOf, _, _, _, some element, _, _, _, _, _⟩ =>
    "arrayOf(" ++ element.expectedType ++ ")"
  | ⟨.builtin .objectOf, _, _, _, some element, _, _, _, _, _⟩ =>
    "objectOf(" ++ element.expectedType ++ ")"
  | ⟨type, _, _, _, _, _, _, _, _, _⟩ => type.text

/-- The element descriptor is smaller than the whole, which lets a recursion enter it. -/
theorem sizeOf_lt_of_element? {d element : Descriptor} (h : d.element? = some element) :
    sizeOf element < sizeOf d := by
  cases d
  simp only at h
  subst h
  simp only [mk.sizeOf_spec, Option.some.sizeOf_spec]
  omega

/-- The declared properties are smaller than the whole. -/
theorem sizeOf_lt_of_properties? {d : Descriptor} {properties : OrderedMap String Descriptor}
    (h : d.properties? = some properties) : sizeOf properties.entries < sizeOf d := by
  cases d
  cases properties
  simp only at h
  subst h
  simp only [mk.sizeOf_spec, OrderedMap.mk.sizeOf_spec, Option.some.sizeOf_spec]
  omega

/-- The alternatives are smaller than the whole, even if there are none. -/
theorem sizeOf_alternatives_lt (d : Descriptor) : sizeOf d.alternatives < sizeOf d := by
  cases d
  simp only [mk.sizeOf_spec]
  omega

end Descriptor

end PropShape
