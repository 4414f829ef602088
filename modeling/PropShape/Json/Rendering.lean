import PropShape.Value.Basic
import PropShape.Json.Quoted

/-!
# `PropShape.Json.Rendering`: values as indented JSON

Messages about records show the value that was found. It is rendered as JSON,
one entry a line and one blank of indentation a level. What JSON cannot hold
is dropped from records and null inside arrays; NaN and the infinities are
null, dates are their RFC 3339 texts, elements are empty objects and
instances show their fields.

Rendering gives up on values nested deeper than `maxDepth`: `render?` answers
`none` exactly when `nesting` exceeds it.
-/

set_option autoImplicit false

namespace PropShape

/-- The deepest nesting of arrays and records that is rendered. -/
def maxDepth : Nat := 128

namespace Value

/-- Functions, symbols and undefined have no JSON form. -/
def isRenderable : Value → Bool
  | .undefined => false
  | .function _ => false
  | .symbol _ => false
  | _ => true

mutual

/-- The length of the longest chain of arrays and records, each inside the
one before it, that starts with the value itself. -/
def nesting : Value → Nat
  | .array items => 1 + itemsNesting items
  | .object ⟨_, ⟨_, fields⟩⟩ => 1 + fieldsNesting fields
  | _ => 0

/-- The deepest nesting among the items of an array. -/
def itemsNesting : List Value → Nat
  | [] => 0
  | item :: rest => max (nesting item) (itemsNesting rest)

/-- The deepest nesting among the fields of a record. -/
def fieldsNesting {keys : List String} : Entries String Value keys → Nat
  | .nil => 0
  | .cons _ value rest _ => max (nesting value) (fieldsNesting rest)

end

/-- Entries between brackets, one a line, or the bare brackets if there are
none. The closing bracket stands at `level`, the entries one further in. -/
def bracketed (opening closing : String) (level : Nat) (entries : List String) : String :=
  match entries with
  | [] => opening ++ closing
  | entries =>
    let indent (n : Nat) := String.ofList (List.replicate n ' ')
    opening ++ "\n" ++ indent (level + 1) ++
      String.intercalate (",\n" ++ indent (level + 1)) entries ++
      "\n" ++ indent level ++ closing

mutual

/-- The JSON of a value that stands at a level of indentation. -/
def json (level : Nat) : Value → String
  | .undefined => "null"
  | .null => "null"
  | .symbol _ => "null"
  | .function _ => "null"
  | .bool b => if b then "true" else "false"
  | .number n => n.text jsonStyle
  | .string s => Json.quoted s
  | .date d => Json.quoted d.text
  | .element _ => "\x7b\x7d"
  | .array items => bracketed "[" "]" level (jsonItems (level + 1) items)
  | .object ⟨_, ⟨_, fields⟩⟩ => bracketed "\x7b" "\x7d" level (jsonFields (level + 1) fields)

/-- The texts of the items of an array. -/
def jsonItems (level : Nat) : List Value → List String
  | [] => []
  | item :: rest => json level item :: jsonItems level rest

/-- The fields that have a JSON form. -/
def jsonFields (level : Nat) {keys : List String} : Entries String Value keys → List String
  | .nil => []
  | .cons key value rest _ =>
    if value.isRenderable then
      (Json.quoted key ++ ": " ++ json level value) :: jsonFields level rest
    else
      jsonFields level rest

end

/-- The rendering of a value, unless it is nested too deeply. A value without
JSON form reads `undefined`. -/
def render? (v : Value) : Option String :=
  if !v.isRenderable then some "undefined"
  else if maxDepth < v.nesting then none
  else some (v.json 0)

end Value

end PropShape
