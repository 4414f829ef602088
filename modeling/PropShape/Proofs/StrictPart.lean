import PropShape.Descriptor.Basic
import PropShape.Value.Path
import Mathlib.Logic.Relation

/-!
# `PropShape.Proofs.StrictPart`: what lies inside a value or a descriptor

Both are trees, and `Holds` relates a node to the nodes directly below it. A
strict part is any number of such steps away, one at least
(`Value.StrictPart`, `Descriptor.StrictPart`), and is smaller
(`StrictPart.sizeOf_lt`).

`Record.strictPart_of_lookup?` says that a dotted path leads to a strict part
of the record that it is read from.
-/

set_option autoImplicit false

namespace PropShape

open Relation (TransGen)

/-- A value holds another one directly, as an item or as a field. -/
inductive Value.Holds : Value → Value → Prop
  | item {items : List Value} {item : Value} (h : item ∈ items) : Holds (.array items) item
  | field {record : Record} {name : String} {value : Value} (h : record.get? name = some value) :
    Holds (.object record) value

/-- A value lies strictly inside another one. -/
def Value.StrictPart (part whole : Value) : Prop := TransGen Value.Holds whole part

/-- A descriptor holds another one directly, whether its type uses it or not. -/
inductive Descriptor.Holds : Descriptor → Descriptor → Prop
  | element {d inner : Descriptor} (h : d.element? = some inner) : Holds d inner
  | property {d inner : Descriptor} {properties : Schema} {key : String}
    (declared : d.properties? = some properties) (h : properties.get? key = some inner) :
    Holds d inner
  | alternative {d inner : Descriptor} (h : inner ∈ d.alternatives) : Holds d inner

/-- A descriptor lies strictly inside another one. -/
def Descriptor.StrictPart (part whole : Descriptor) : Prop :=
  TransGen Descriptor.Holds whole part

/-- A value that another one holds is smaller. -/
theorem Value.Holds.sizeOf_lt {whole part : Value} (h : whole.Holds part) :
    sizeOf part < sizeOf whole := by
  cases h with
  | item h =>
    have := List.sizeOf_lt_of_mem h
    simp only [array.sizeOf_spec]
    omega
  | field h =>
    have := Record.sizeOf_lt_of_get? h
    simp only [object.sizeOf_spec]
    omega

/-- A strict part is smaller, however deep it lies. -/
theorem Value.StrictPart.sizeOf_lt {part whole : Value} (h : part.StrictPart whole) :
    sizeOf part < sizeOf whole := by
  induction h with
  | single h => exact h.sizeOf_lt
  | tail _ h ih => exact Nat.lt_trans h.sizeOf_lt ih

/-- A descriptor that another one holds is smaller. -/
theorem Descriptor.Holds.sizeOf_lt {whole part : Descriptor} (h : whole.Holds part) :
    sizeOf part < sizeOf whole := by
  cases h with
  | element h => exact sizeOf_lt_of_element? h
  | property declared h =>
    have hmem := (OrderedMap.get?_eq_some_iff _ _ _).mp h
    exact Nat.lt_trans (Entries.sizeOf_lt_of_mem _ hmem) (sizeOf_lt_of_properties? declared)
  | alternative h =>
    exact Nat.lt_trans (List.sizeOf_lt_of_mem h) (sizeOf_alternatives_lt whole)

/-- A strict part is smaller, however deep it lies. -/
theorem Descriptor.StrictPart.sizeOf_lt {part whole : Descriptor} (h : part.StrictPart whole) :
    sizeOf part < sizeOf whole := by
  induction h with
  | single h => exact h.sizeOf_lt
  | tail _ h ih => exact Nat.lt_trans h.sizeOf_lt ih

/-- A descent along a path leads to the value itself or to a strict part. -/
theorem Value.strictPart_of_descend? {v w : Value} {path : List String}
    (h : v.descend? path = some w) : w = v ∨ w.StrictPart v := by
  -- Each segment is one step into a field.
  induction path generalizing v with
  | nil =>
    cases h
    exact .inl rfl
  | cons segment rest ih =>
    cases v with
    | object record =>
      simp only [descend?] at h
      split at h
      · next next hget =>
        have first : (Value.object record).Holds next := .field hget
        rcases ih h with rfl | inside
        · exact .inr (.single first)
        · exact .inr (.head first inside)
      · cases h
    | _ => cases h

/-- What a record holds under a dotted path is a strict part of it. -/
theorem Record.strictPart_of_lookup? {record : Record} {path : String} {value : Value}
    (h : record.lookup? path = some value) : value.StrictPart (.object record) := by
  unfold lookup? at h
  split at h
  · cases h
  · split at h
    · cases h
    · next held hget =>
      split at h
      · cases h
      · -- The first segment already leads inside, so the whole record is never found.
        have first : (Value.object record).Holds held := .field hget
        rcases Value.strictPart_of_descend? h with rfl | inside
        · exact .single first
        · exact .head first inside

end PropShape
