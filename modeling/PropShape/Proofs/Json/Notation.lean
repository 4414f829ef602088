import PropShape.Json.Reader

/-!
# `PropShape.Proofs.Json.Notation`: documents that write values and schemas

A value that JSON knows is written as itself (`Value.WrittenAs`). A descriptor
is written as the mapping of its fields (`Descriptor.WrittenAs`): in any order,
each under its own key, and perhaps without some of the fields that have the
value they take when they are not written (`Descriptor.Omits`). A schema is
written as the mapping of its descriptors (`Schema.WrittenAs`).

The keys of a record, and the names of properties, may be arranged in another
order than that of the value or the schema. What orders are allowed is left
open: all of them with `List.Perm`, only the very same with `Eq`.
-/

set_option autoImplicit false

namespace PropShape

/-- Which orders of keys are allowed in a document, in place of the given one. -/
abbrev Arrangement := List String → List String → Prop

/-- A document writes a value: null, switches, texts and integers as themselves, an array as the
list of its items, and a plain record as the mapping of its fields. `order` says how the keys of
a mapping are arranged. -/
inductive Value.WrittenAs (order : Arrangement) : Value → Document → Prop
  | null : WrittenAs order .null Json.nullScalar
  | bool (b : Bool) : WrittenAs order (.bool b) (Json.boolScalar b)
  | integer {n : Number} {i : Int} (h : n.toInt? = some i) (small : i.natAbs ≤ Nat.pow 2 53) :
    WrittenAs order (.number n) (Json.numberScalar n)
  | string (s : String) : WrittenAs order (.string s) (Json.stringScalar s)
  | array {items : List Value} {documents : List Document}
    (length : items.length = documents.length)
    (h : ∀ {v d}, (v, d) ∈ items.zip documents → WrittenAs order v d) :
    WrittenAs order (.array items) (.list false documents)
  | record {fields : OrderedMap String Value} {names : List String} {documents : String → Document}
    (arranged : order fields.keys names)
    (h : ∀ name v, fields.get? name = some v → WrittenAs order v (documents name)) :
    WrittenAs order (.object ⟨none, fields⟩)
      (.mapping false (names.map fun name => (name, documents name)))

namespace Descriptor

/-- The field has the value that it takes when it is not written. -/
def Omits (d : Descriptor) : Field → Prop
  | .type => False
  | .required => d.required = false
  | .updatable => d.updatable = true
  | .default => d.default? = none
  | .typeDef => d.element? = none
  | .typeDefs => d.properties? = none
  | .values => d.values = []
  | .validators => d.alternatives = []
  | .className => d.className? = none

mutual

/-- A document writes a descriptor: as the mapping of its fields in any order, without some of
those that have the value they take then. Predicates are not written. -/
inductive WrittenAs (order : Arrangement) : Descriptor → Document → Prop
  | intro {d : Descriptor} {fields : List Field} {documents : Field → Document}
    (declarative : d.predicate? = none) (distinct : fields.Nodup)
    (h : ∀ field ∈ fields, FieldWrittenAs order d field (documents field))
    (omitted : ∀ field, field ∉ fields → d.Omits field) :
    WrittenAs order d (.mapping false (fields.map fun field => (field.name, documents field)))

/-- A document writes a field of a descriptor. A registered name that is spelled like a built-in
type cannot be written. -/
inductive FieldWrittenAs (order : Arrangement) :
    Descriptor → Field → Document → Prop
  | type {d : Descriptor} (named : ∀ type : BuiltinType, d.type ≠ .named type.text) :
    FieldWrittenAs order d .type (Json.stringScalar d.type.text)
  | required {d : Descriptor} : FieldWrittenAs order d .required (Json.boolScalar d.required)
  | updatable {d : Descriptor} : FieldWrittenAs order d .updatable (Json.boolScalar d.updatable)
  | default {d : Descriptor} {v : Value} {document : Document} (held : d.default? = some v)
    (h : v.WrittenAs order document) : FieldWrittenAs order d .default document
  | noElement {d : Descriptor} (absent : d.element? = none) :
    FieldWrittenAs order d .typeDef Json.nullScalar
  | element {d part : Descriptor} {document : Document} (held : d.element? = some part)
    (h : WrittenAs order part document) : FieldWrittenAs order d .typeDef document
  | noProperties {d : Descriptor} (absent : d.properties? = none) :
    FieldWrittenAs order d .typeDefs Json.nullScalar
  | properties {d : Descriptor} {properties : Schema} {names : List String}
    {documents : String → Document} (held : d.properties? = some properties)
    (arranged : order properties.keys names)
    (h : ∀ name part, properties.get? name = some part → WrittenAs order part (documents name)) :
    FieldWrittenAs order d .typeDefs
      (.mapping false (names.map fun name => (name, documents name)))
  | values {d : Descriptor} {documents : List Document}
    (length : d.values.length = documents.length)
    (h : ∀ {v document}, (v, document) ∈ d.values.zip documents → v.WrittenAs order document) :
    FieldWrittenAs order d .values (.list false documents)
  | alternatives {d : Descriptor} {documents : List Document}
    (length : d.alternatives.length = documents.length)
    (h : ∀ {part document}, (part, document) ∈ d.alternatives.zip documents →
      WrittenAs order part document) :
    FieldWrittenAs order d .validators (.list false documents)
  | noClassName {d : Descriptor} (absent : d.className? = none) :
    FieldWrittenAs order d .className Json.nullScalar
  | className {d : Descriptor} {name : String} (held : d.className? = some name) :
    FieldWrittenAs order d .className (Json.stringScalar name)

end

end Descriptor

/-- A document writes a schema: as the mapping of its descriptors. -/
inductive Schema.WrittenAs (order : Arrangement) : Schema → Document → Prop
  | intro {schema : Schema} {names : List String} {documents : String → Document}
    (arranged : order schema.keys names)
    (h : ∀ name d, schema.get? name = some d → d.WrittenAs order (documents name)) :
    WrittenAs order schema (.mapping false (names.map fun name => (name, documents name)))

end PropShape
