/-!
# `PropShape.TypeName`: the names of property types

A type name is one of the built-in types or the name of something that a
host registers. In descriptors written as text the two are not told apart:
`TypeName.ofText` reads the name of a built-in type as that type and every
other text as a registered name. A registered name may still be spelled like
a built-in type; the two are different names with the same text.
-/

set_option autoImplicit false

namespace PropShape

/-- The built-in types. -/
inductive BuiltinType
  | any | array | arrayOf | bool | custom | date | element | func | iface | instanceOf | null
  | number | object | objectOf
  /-- One of a list of values. -/
  | oneOf
  /-- Accepted by one of a list of descriptors. -/
  | oneOfType
  | shape | string | symbol
  deriving DecidableEq, Inhabited

namespace BuiltinType

/-- Every built-in type, in the order of registration. -/
def all : List BuiltinType :=
  [.any, .array, .arrayOf, .bool, .custom, .date, .element, .func, .iface, .instanceOf, .null,
    .number, .object, .objectOf, .oneOf, .oneOfType, .shape, .string, .symbol]

/-- The name as it is written in descriptors. -/
def text : BuiltinType → String
  | any => "any"
  | array => "array"
  | arrayOf => "arrayOf"
  | bool => "bool"
  | custom => "custom"
  | date => "date"
  | element => "element"
  | func => "func"
  | iface => "iface"
  | instanceOf => "instanceOf"
  | null => "null"
  | number => "number"
  | object => "object"
  | objectOf => "objectOf"
  | oneOf => "oneOf"
  | oneOfType => "oneOfType"
  | shape => "shape"
  | string => "string"
  | symbol => "symbol"

/-- The list of the built-in types is complete. -/
theorem mem_all (t : BuiltinType) : t ∈ all := by
  cases t <;> decide

end BuiltinType

/-- The name of a property type. -/
inductive TypeName
  | builtin (type : BuiltinType)
  /-- A rule, an alias or a schema that a host registers. -/
  | named (name : String)
  deriving DecidableEq, Inhabited

namespace TypeName

/-- The name as it is written in descriptors. -/
def text : TypeName → String
  | .builtin type => type.text
  | .named name => name

/-- The type name that a text stands for. -/
def ofText (text : String) : TypeName :=
  match BuiltinType.all.find? (fun type => type.text == text) with
  | some type => .builtin type
  | none => .named text

/-- Reading a text as a type name loses nothing of the text. -/
theorem text_ofText (name : String) : (ofText name).text = name := by
  unfold ofText
  split
  · next type h =>
    have := List.find?_some h
    exact eq_of_beq this
  · rfl

/-- The text of a built-in type is read as that type. -/
theorem ofText_text (type : BuiltinType) : ofText type.text = .builtin type := by
  cases type <;> rfl

/-- A text that names no built-in type is read as a registered name. -/
theorem ofText_of_ne {name : String} (h : ∀ type : BuiltinType, type.text ≠ name) :
    ofText name = .named name := by
  unfold ofText
  split
  · next type found =>
    have written := List.find?_some found
    exact absurd (eq_of_beq written) (h type)
  · rfl

end TypeName

end PropShape
