import PropShape.Value.Basic

/-!
# `PropShape.Value.Equality`: when two values are equal

Numbers are equal as numbers, symbols and functions by identity, arrays item
by item. Two records are equal when they name the same class or none, have
equally many fields, and every field of the one has an equal value under the
same name in the other; the order of the fields plays no part. That this
one-sided comparison is symmetric rests on the keys of a record being
distinct.

Equality is not reflexive: a value that holds a NaN anywhere differs from
itself.
-/

set_option autoImplicit false

namespace PropShape.Value

mutual

/-- Equality of values. -/
def equals : Value → Value → Bool
  | .undefined, .undefined => true
  | .null, .null => true
  | .bool a, .bool b => a == b
  | .number a, .number b => a.equals b
  | .string a, .string b => a == b
  | .symbol a, .symbol b => a.identity == b.identity
  | .function a, .function b => a.identity == b.identity
  | .date a, .date b => a == b
  | .array a, .array b => equalItems a b
  | .object ⟨aClass, ⟨aKeys, a⟩⟩, .object b =>
    aClass == b.className && aKeys.length == b.fields.size && fieldsWithin a b.fields
  | .element a, .element b => a == b
  | _, _ => false

/-- Whether two lists have equally many items and each is equal to its counterpart. -/
def equalItems : List Value → List Value → Bool
  | [], [] => true
  | a :: as, b :: bs => equals a b && equalItems as bs
  | _, _ => false

/-- Whether every field has an equal value under its name in a map. -/
def fieldsWithin {keys : List String} : Entries String Value keys → OrderedMap String Value → Bool
  | .nil, _ => true
  | .cons key value rest _, map =>
    (match map.get? key with
      | some held => equals value held
      | none => false) && fieldsWithin rest map

end

end PropShape.Value
