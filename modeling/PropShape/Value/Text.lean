import PropShape.Value.Basic

/-!
# `PropShape.Value.Text`: values as text

The text of a value is what string coercion gives: the items of an array are
joined by commas, undefined and null leaving their place empty, and a record
shows nothing of its fields. Listings of allowed values are written this way.
-/

set_option autoImplicit false

namespace PropShape

namespace Symbol

/-- The symbol with its description. -/
def text (s : Symbol) : String := "Symbol(" ++ s.description ++ ")"

end Symbol

namespace Value

/-- Undefined and null. -/
def isNullish : Value → Bool
  | .undefined => true
  | .null => true
  | _ => false

mutual

/-- The value as text. -/
def text : Value → String
  | .undefined => "undefined"
  | .null => "null"
  | .bool b => if b then "true" else "false"
  | .number n => n.text plainStyle
  | .string s => s
  | .symbol s => s.text
  | .function f => "function " ++ f.name
  | .date d => d.text
  | .array items => itemsText items
  | .object _ => "[object Object]"
  | .element tag => "<" ++ tag ++ ">"

/-- The items joined by commas; undefined and null leave their place empty. -/
def itemsText : List Value → String
  | [] => ""
  | [item] => if item.isNullish then "" else text item
  | item :: rest => (if item.isNullish then "" else text item) ++ "," ++ itemsText rest

end

/-- How a symbol or a function is shown to a developer. -/
def debugText? : Value → Option String
  | .symbol s => some s.text
  | .function f => some ("Function(" ++ f.name ++ ")")
  | _ => none

end Value

end PropShape
