import PropShape.Date
import PropShape.OrderedMap

/-!
# `PropShape.Value.Basic`: the values under validation

`Value` is the tree of data that a host hands to the validator. Undefined is
a value of its own, apart from null. A record is a plain one, or an instance
of the class that it names.

Symbols and functions have an identity, and it alone decides whether two of
them are the same. What a function does when it is called stays with the host:
a value is never called while it is validated.

`Value.kind` names what a value is. `Value.strongRecursion` is the induction
over values in which items and fields are reached through list membership.
-/

set_option autoImplicit false

namespace PropShape

/-- A unique symbol. Two symbols are the same when their identities are. -/
structure Symbol where
  identity : Nat
  description : String
  deriving DecidableEq, Inhabited

/-- A callable value. Two functions are the same when their identities are. -/
structure Function where
  identity : Nat
  name : String
  deriving DecidableEq, Inhabited

mutual

/-- A dynamic value. -/
inductive Value
  | undefined
  | null
  | bool (b : Bool)
  | number (n : Number)
  | string (s : String)
  | symbol (s : Symbol)
  | function (f : Function)
  | date (d : Date)
  | array (items : List Value)
  | object (record : Record)
  /-- An element node, known by its tag. -/
  | element (tag : String)

/-- Fields in the order of insertion, and the class of an instance. -/
structure Record where
  className : Option String
  fields : OrderedMap String Value

end

instance : Inhabited Value := ⟨.undefined⟩
instance : Inhabited Record := ⟨⟨none, .empty⟩⟩

/-- What a value is. -/
inductive Kind
  | undefined | null | boolean | number | string | symbol | function | date | array
  /-- A plain record. -/
  | object
  /-- A record that is an instance of a class. -/
  | classInstance
  | element
  deriving DecidableEq

/-- The name of a kind in messages. -/
def Kind.name : Kind → String
  | undefined => "undefined"
  | null => "null"
  | boolean => "boolean"
  | number => "number"
  | string => "string"
  | symbol => "symbol"
  | function => "function"
  | date => "date"
  | array => "array"
  | object => "object"
  | classInstance => "instance"
  | element => "element"

namespace Record

/-- The empty plain record. -/
def plain : Record := ⟨none, .empty⟩

/-- The empty instance of a class. -/
def ofClass (className : String) : Record := ⟨some className, .empty⟩

/-- Records with a class name are instances. -/
def isInstance (r : Record) : Bool := r.className.isSome

/-- The field under a name. -/
def get? (r : Record) (name : String) : Option Value := r.fields.get? name

/-- The record with a field, in its old place or at the end. -/
def insert (r : Record) (name : String) (value : Value) : Record :=
  { r with fields := r.fields.insert name value }

/-- The field names in order. -/
def names (r : Record) : List String := r.fields.keys

end Record

namespace Value

/-- The plain record with the given fields. -/
def ofFields (fields : List (String × Value)) : Value := .object ⟨none, .ofList fields⟩

/-- The kind of a value, which the rules of the primitive types compare. -/
def kind : Value → Kind
  | .undefined => .undefined
  | .null => .null
  | .bool _ => .boolean
  | .number _ => .number
  | .string _ => .string
  | .symbol _ => .symbol
  | .function _ => .function
  | .date _ => .date
  | .array _ => .array
  | .object r => if r.isInstance then .classInstance else .object
  | .element _ => .element

/-- Whether a value is the undefined one. -/
def isUndefined : Value → Bool
  | .undefined => true
  | _ => false

/-- The record that a value is, plain or an instance; only records have
properties to look up. -/
def asRecord? : Value → Option Record
  | .object r => some r
  | _ => none

/-- The record that a value is, unless it is an instance. -/
def asPlainRecord? : Value → Option Record
  | .object r => if r.isInstance then none else some r
  | _ => none

/-- The items of an array. -/
def asArray? : Value → Option (List Value)
  | .array items => some items
  | _ => none

end Value

/-! ## Sizes and induction -/

/-- A field is smaller than its record, which lets a recursion enter it. -/
theorem Record.sizeOf_lt_of_get? {r : Record} {name : String} {value : Value}
    (h : r.get? name = some value) : sizeOf value < sizeOf r := by
  have := r.fields.sizeOf_lt_of_mem ((r.fields.get?_eq_some_iff name value).mp h)
  cases r
  simp only [mk.sizeOf_spec] at *
  omega

/-- Induction over values: a property that passes from the items to an array
and from the fields to a record holds of every value. -/
theorem Value.strongRecursion {motive : Value → Prop}
    (step : ∀ v, (∀ w, sizeOf w < sizeOf v → motive w) → motive v) (v : Value) : motive v :=
  step v fun w _ => strongRecursion step w
termination_by sizeOf v

end PropShape
