import PropShape.Descriptor.Basic

/-!
# `PropShape.Document`: what a text says, whatever its notation

Reading a schema has two steps. A notation (JSON, YAML) turns text into a
`Document`: scalars, lists, and mappings whose keys are texts. The second step
turns a document into a value, a descriptor or a schema, and is the same for
all notations.

The notations disagree on what a scalar may stand for: an unquoted `5` is a
number in both, but where a text is wanted YAML takes it as one and JSON does
not. So a scalar says for itself how it reads in each role (`Scalar`).

A descriptor is read strictly: unknown fields, repeated fields and a missing
type are refused (`place?`, `Draft.finish?`). Where the notation allows it, a descriptor
may also be written as the list of its fields in the order of `Field.all`.
A repeated name in a map of properties or in a value is no fault: it keeps its
place and takes the last meaning.
-/

set_option autoImplicit false

namespace PropShape

/-- How a scalar reads in each role; `none` where it cannot stand. -/
structure Scalar where
  text : Option String
  flag : Option Bool
  /-- Whether the scalar means that an optional thing is absent. -/
  absent : Option Bool
  value : Option Value
  /-- Whether the scalar may stand for a collection without anything in it. -/
  blank : Bool

/-- The content of a text. -/
inductive Document
  | scalar (scalar : Scalar)
  /-- A list. A tagged one is of a type of its own and no plain value. -/
  | list (tagged : Bool) (items : List Document)
  /-- A mapping, with repeated keys in their order. -/
  | mapping (tagged : Bool) (pairs : List (String × Document))

instance : Inhabited Document := ⟨.list false []⟩

namespace Document

/-- Reads a text. -/
def text? : Document → Option String
  | scalar s => s.text
  | _ => none

/-- Reads a switch. -/
def flag? : Document → Option Bool
  | scalar s => s.flag
  | _ => none

/-- Whether a document means that an optional thing is absent. -/
def absent? : Document → Option Bool
  | scalar s => s.absent
  | _ => some false

/-- Reads an optional text. -/
def optionalText? (d : Document) : Option (Option String) :=
  match d.absent? with
  | none => none
  | some true => some none
  | some false => d.text?.map some

mutual

/-- Reads a value. -/
def value? : Document → Option Value
  | .scalar s => s.value
  | .list tagged items => if tagged then none else (values? items).map .array
  | .mapping tagged pairs => if tagged then none else (fields? pairs).map Value.ofFields

/-- The values that an array stands for, if each of its items stands for one. -/
def values? : List Document → Option (List Value)
  | [] => some []
  | d :: rest =>
    match value? d, values? rest with
    | some v, some vs => some (v :: vs)
    | _, _ => none

/-- The fields that an object stands for, if each of its entries stands for a value. -/
def fields? : List (String × Document) → Option (List (String × Value))
  | [] => some []
  | (name, d) :: rest =>
    match value? d, fields? rest with
    | some v, some vs => some ((name, v) :: vs)
    | _, _ => none

end

end Document

/-! ## Descriptors -/

/-- The fields of a written descriptor. -/
inductive Field
  | type | required | updatable | default
  /-- The element of a list or map type. -/
  | typeDef
  /-- The nested properties. -/
  | typeDefs
  | values
  /-- The alternatives of a union. -/
  | validators
  | className
  deriving DecidableEq

namespace Field

/-- The fields in the order in which a descriptor written as a list has them. -/
def all : List Field :=
  [type, required, updatable, default, typeDef, typeDefs, values, validators, className]

/-- The key of a field. -/
def name : Field → String
  | type => "type"
  | required => "required"
  | updatable => "updatable"
  | default => "default"
  | typeDef => "typeDef"
  | typeDefs => "typeDefs"
  | values => "values"
  | validators => "validators"
  | className => "className"

/-- The field with a key. -/
def ofName? (name : String) : Option Field := all.find? fun field => field.name == name

end Field

/-- A descriptor of which some fields have been read. -/
structure Draft where
  /-- The fields that have been read. -/
  seen : List Field
  descriptor : Descriptor

namespace Draft

/-- No field has been read; every field has its absent value. -/
def blank : Draft := ⟨[], .ofType default⟩

/-- Takes the descriptor, once its type has been read. -/
def finish? (draft : Draft) : Option Descriptor :=
  if .type ∈ draft.seen then some draft.descriptor else none

end Draft

namespace Document

mutual

/-- Reads a descriptor; `positional` says whether it may be written as a list. -/
def descriptor? (positional : Bool) (d : Document) : Option Descriptor :=
  match d with
  | .scalar _ => none
  | .list _ items =>
    if positional then (placeAll? positional .blank Field.all items).bind Draft.finish? else none
  | .mapping _ pairs => (placeNamed? positional .blank pairs).bind Draft.finish?
termination_by (sizeOf d, 0)

/-- Reads fields by their keys. -/
def placeNamed? (positional : Bool) (draft : Draft) (pairs : List (String × Document)) :
    Option Draft :=
  match pairs with
  | [] => some draft
  | (name, d) :: rest =>
    match Field.ofName? name with
    | none => none
    | some field =>
      match place? positional draft field d with
      | none => none
      | some draft => placeNamed? positional draft rest
termination_by (sizeOf pairs, 0)

/-- Reads fields by their places. -/
def placeAll? (positional : Bool) (draft : Draft) (fields : List Field) (items : List Document) :
    Option Draft :=
  match fields, items with
  | _, [] => some draft
  | [], _ :: _ => none
  | field :: fields, d :: rest =>
    match place? positional draft field d with
    | none => none
    | some draft => placeAll? positional draft fields rest
termination_by (sizeOf items, 0)

/-- Reads one field, unless it has been read before. -/
def place? (positional : Bool) (draft : Draft) (field : Field) (d : Document) : Option Draft :=
  if field ∈ draft.seen then none
  else
    let descriptor := draft.descriptor
    (match field with
      | .type => d.text?.map fun name => { descriptor with type := .ofText name }
      | .required => d.flag?.map fun required => { descriptor with required }
      | .updatable => d.flag?.map fun updatable => { descriptor with updatable }
      | .default => d.value?.map fun value => { descriptor with default? := some value }
      | .className => d.optionalText?.map fun className? => { descriptor with className? }
      | .values =>
        match d with
        | .list _ items => (values? items).map fun values => { descriptor with values }
        | .mapping _ _ => none
        | .scalar s => if s.blank then some { descriptor with values := [] } else none
      | .validators =>
        match d with
        | .list _ items =>
          (descriptors? positional items).map fun alternatives => { descriptor with alternatives }
        | .mapping _ _ => none
        | .scalar s => if s.blank then some { descriptor with alternatives := [] } else none
      | .typeDef =>
        match d.absent? with
        | none => none
        | some true => some { descriptor with element? := none }
        | some false =>
          (descriptor? positional d).map fun element => { descriptor with element? := some element }
      | .typeDefs =>
        match d with
        | .mapping _ pairs =>
          (properties? positional pairs).map fun properties =>
            { descriptor with properties? := some (.ofList properties) }
        | .list _ _ => none
        | .scalar s =>
          match s.absent, s.blank with
          | some true, _ => some { descriptor with properties? := none }
          | some false, true => some { descriptor with properties? := some .empty }
          | _, _ => none
      : Option Descriptor).map fun descriptor => ⟨field :: draft.seen, descriptor⟩
termination_by (sizeOf d, 1)

/-- The alternatives of a union, in the order in which they are written. -/
def descriptors? (positional : Bool) (items : List Document) : Option (List Descriptor) :=
  match items with
  | [] => some []
  | d :: rest =>
    match descriptor? positional d, descriptors? positional rest with
    | some descriptor, some others => some (descriptor :: others)
    | _, _ => none
termination_by (sizeOf items, 0)

/-- The declared properties of a shape, each under the name it is written with. -/
def properties? (positional : Bool) (pairs : List (String × Document)) :
    Option (List (String × Descriptor)) :=
  match pairs with
  | [] => some []
  | (name, d) :: rest =>
    match descriptor? positional d, properties? positional rest with
    | some descriptor, some others => some ((name, descriptor) :: others)
    | _, _ => none
termination_by (sizeOf pairs, 0)

end

/-- Reads a schema. -/
def schema? (positional : Bool) : Document → Option Schema
  | .mapping _ pairs => (properties? positional pairs).map .ofList
  | .list _ _ => none
  | .scalar s => if s.blank then some .empty else none

end Document

end PropShape
