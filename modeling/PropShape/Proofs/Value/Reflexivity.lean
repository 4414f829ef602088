import PropShape.Proofs.Json.Origin
import PropShape.Proofs.Number.Quantity

/-!
# `PropShape.Proofs.Value.Reflexivity`: which values are equal to themselves

Equality of values is symmetric and transitive. It is reflexive up to NaN:
`Value.equals_self_iff` says that a value is equal to itself exactly if no NaN
lies anywhere inside it. A NaN in an item or in a field is passed on to the
whole, one level at a time (`Value.equals_self_iff_parts`), because arrays and
records are compared part by part and nothing else about them can fail.

JSON has no NaN, so what is read from JSON is equal to itself
(`Value.JsonWithin.equals_self`).
-/

set_option autoImplicit false

namespace PropShape

open Relation (ReflTransGen)

namespace Value

variable {v w : Value}

/-- One level: a value other than NaN whose parts are equal to themselves. -/
theorem equals_self_iff_parts :
    v.equals v = true ↔
      (∀ n, v = .number n → n.isNaN = false) ∧ ∀ part, v.Holds part → part.equals part = true := by
  rw [equals_iff]
  constructor
  · intro h
    refine ⟨?_, fun part holds => ?_⟩
    · rintro n rfl
      cases h with
      | number same => exact Number.equals_self_iff.mp same
    · cases holds with
      | item mem =>
        cases h with
        | array items => exact List.forall₂_same.mp items part mem
      | field found =>
        cases h with
        | object _ fields =>
          obtain ⟨held, found', same⟩ := fields.exists_right found
          cases found.symm.trans found'
          exact same
  -- All other leaves are equal to themselves, and so are containers of such parts.
  · rintro ⟨number, parts⟩
    cases v with
    | undefined => exact .undefined
    | null => exact .null
    | bool b => exact .bool b
    | number n => exact .number (Number.equals_self_iff.mpr (number n rfl))
    | string text => exact .string text
    | symbol s => exact .symbol rfl
    | function f => exact .function rfl
    | date d => exact .date d
    | array items => exact .array (List.forall₂_same.mpr fun part mem => parts part (.item mem))
    | object record =>
      exact .object rfl (OrderedMap.agree_refl fun name part found => parts part (.field found))
    | element tag => exact .element tag

/-- A value is equal to itself exactly if there is no NaN in it, at any depth. -/
theorem equals_self_iff :
    v.equals v = true ↔ ∀ n, ReflTransGen Holds v (.number n) → n.isNaN = false := by
  induction v using strongRecursion with
  | step v ih =>
    rw [equals_self_iff_parts]
    constructor
    · rintro ⟨number, parts⟩ n within
      -- A number inside is the value itself or lies inside one of its parts.
      rcases ReflTransGen.cases_head within with rfl | ⟨part, holds, rest⟩
      · exact number n rfl
      · exact (ih part holds.sizeOf_lt).mp (parts part holds) n rest
    · intro free
      refine ⟨?_, fun part holds => ?_⟩
      · rintro n rfl
        exact free n .refl
      · exact (ih part holds.sizeOf_lt).mpr fun n rest => free n (.head holds rest)

/-- There is no NaN in JSON. -/
theorem JsonWithin.equals_self {depth : Nat} (h : v.JsonWithin depth) : v.equals v = true := by
  induction h with
  | null => simp [equals]
  | bool b => simp [equals]
  -- JSON has no notation for NaN.
  | number finite =>
    simpa only [equals] using Number.equals_self_iff.mpr (Number.isNaN_of_isFinite finite)
  | string s => simp [equals]
  | array h ih =>
    refine equals_self_iff_parts.mpr ⟨fun n same => (by cases same), fun part holds => ?_⟩
    cases holds with
    | item mem => exact ih part mem
  | object h ih =>
    refine equals_self_iff_parts.mpr ⟨fun n same => (by cases same), fun part holds => ?_⟩
    cases holds with
    | @field _ name _ found => exact ih (name, part) ((OrderedMap.get?_eq_some_iff _ _ _).mp found)

/-- Arrays are equal exactly if they are of the same length and equal at every index. -/
theorem equals_array_iff {items others : List Value} :
    (Value.array items).equals (.array others) = true ↔
      items.length = others.length ∧
        ∀ (i : Nat) (v w : Value), items[i]? = some v → others[i]? = some w →
          v.equals w = true := by
  rw [equals, equalItems_iff, List.forall₂_iff_get]
  refine and_congr_right fun _ => ?_
  constructor
  · intro h i v w hv hw
    obtain ⟨hi, rfl⟩ := List.getElem?_eq_some_iff.mp hv
    obtain ⟨hj, rfl⟩ := List.getElem?_eq_some_iff.mp hw
    exact h i hi hj
  · intro h i hi hj
    exact h i _ _ (List.getElem?_eq_getElem hi) (List.getElem?_eq_getElem hj)

/-- Equality of values is a partial equivalence, and NaN is all that keeps it from being
reflexive.

It is symmetric and transitive, and a value is equal to itself exactly if there is no NaN
anywhere inside it; so every value that is read from JSON is. Records are equal exactly if they
name the same class or none, have the same keys and have equal values under each key, in whatever
order; arrays, if they have the same length and equal items at each index. Numbers are equal
exactly if they stand for the same quantity or the same infinity, and symbols and functions if
they have the same identity. -/
theorem equality_is_partial_equivalence :
    (∀ v w : Value, v.equals w = w.equals v) ∧
    (∀ u v w : Value, u.equals v = true → v.equals w = true → u.equals w = true) ∧
    (∀ v : Value, v.equals v = true ↔ ∀ n, ReflTransGen Holds v (.number n) → n.isNaN = false) ∧
    (∀ text v, Value.parse .json text = .ok v → v.equals v = true) ∧
    (∀ record other : Record, (Value.object record).equals (.object other) = true ↔
      record.className = other.className ∧ (∀ key, key ∈ record.names ↔ key ∈ other.names) ∧
        ∀ key v w, record.get? key = some v → other.get? key = some w → v.equals w = true) ∧
    (∀ items others : List Value, (Value.array items).equals (.array others) = true ↔
      items.length = others.length ∧
        ∀ (i : Nat) (v w : Value), items[i]? = some v → others[i]? = some w →
          v.equals w = true) ∧
    (∀ m n : Number, (Value.number m).equals (.number n) = true ↔
      ∃ quantity, m.quantity? = some quantity ∧ n.quantity? = some quantity) ∧
    (∀ s t : Symbol, (Value.symbol s).equals (.symbol t) = true ↔ s.identity = t.identity) ∧
    ∀ f g : Function, (Value.function f).equals (.function g) = true ↔ f.identity = g.identity := by
  -- The clauses about one kind of value unfold the comparison of that kind.
  refine ⟨fun v w => Bool.eq_iff_iff.mpr ⟨equals_symm, equals_symm⟩, fun u v w => equals_trans,
    fun v => equals_self_iff, fun text v read => (jsonWithin_of_parse read).equals_self,
    fun record other => ?_, fun items others => equals_array_iff, fun m n => ?_, fun s t => ?_,
    fun f g => ?_⟩
  · rw [equals_object_iff, OrderedMap.agree_iff_keys]
    rfl
  · rw [equals]
    exact Number.equals_iff_quantity?
  · rw [equals, beq_iff_eq]
  · rw [equals, beq_iff_eq]

end Value

end PropShape
