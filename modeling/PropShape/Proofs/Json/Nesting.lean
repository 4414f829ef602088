import PropShape.Proofs.Json.Image
import PropShape.Proofs.StrictPart
import Mathlib.Data.List.Chain

/-!
# `PropShape.Proofs.Json.Nesting`: how deep a value is nested

A chain of a value is a list of arrays and records inside it, each of which
holds the next one directly (`Value.Chain`). `Value.lt_nesting_iff` says that the
nesting of a value is the length of its longest chain: chains of every smaller
length start at the value, and no chain inside it is longer.

Whether a value is nested too deeply can also be found out on the way down, with
a counter for the level, by stopping at the first array or record that stands
too deep (`Value.tooDeepFrom`). `Value.tooDeepFrom_iff` says that the counter
comes to the same answer, so that rendering gives up exactly on the values with a
chain that is longer than the limit (`Value.render?_eq_none_iff`).
-/

set_option autoImplicit false

namespace PropShape

open Relation (ReflTransGen)

namespace Value

variable {v w part : Value} {level k : Nat}

/-- Arrays and records. -/
inductive IsContainer : Value → Prop
  | array (items : List Value) : IsContainer (.array items)
  | object (record : Record) : IsContainer (.object record)

/-- Arrays and records that are nested in one another: each holds the next one directly. The
first of them is the value or lies anywhere inside it. -/
structure Chain (v : Value) (links : List Value) : Prop where
  inside : ∀ link ∈ links, ReflTransGen Holds v link
  containers : ∀ link ∈ links, link.IsContainer
  linked : links.IsChain Holds

/-- Only arrays and records hold something. -/
theorem Holds.isContainer (h : v.Holds part) : v.IsContainer := by
  cases h with
  | item => exact .array _
  | field => exact .object _

/-- Something is held by an array exactly if it is one of the items. -/
theorem exists_holds_array_iff {P : Value → Prop} {items : List Value} :
    (∃ part, (Value.array items).Holds part ∧ P part) ↔ ∃ item ∈ items, P item := by
  constructor
  · rintro ⟨part, holds, h⟩
    cases holds with
    | item mem => exact ⟨part, mem, h⟩
  · rintro ⟨item, mem, h⟩
    exact ⟨item, .item mem, h⟩

/-- Something is held by a record exactly if it is in one of the fields. -/
theorem exists_holds_object_iff {P : Value → Prop} {record : Record} :
    (∃ part, (Value.object record).Holds part ∧ P part) ↔
      ∃ pair ∈ record.fields.toList, P pair.2 := by
  constructor
  · rintro ⟨part, holds, h⟩
    cases holds with
    | field found => exact ⟨_, (OrderedMap.get?_eq_some_iff _ _ _).mp found, h⟩
  · rintro ⟨⟨name, held⟩, mem, h⟩
    exact ⟨held, .field ((OrderedMap.get?_eq_some_iff _ _ _).mpr mem), h⟩

/-! ## The longest chain -/

/-- One level: only containers are nested at all, and one that is nested deeper than once has a
part that is nested one level less. -/
theorem lt_nesting_iff_parts :
    k < v.nesting ↔ v.IsContainer ∧ (k = 0 ∨ ∃ part, v.Holds part ∧ k ≤ part.nesting) := by
  cases v with
  | array items =>
    rw [nesting_array, Nat.lt_succ_iff, le_foldr_max_iff, exists_holds_array_iff]
    exact (and_iff_right (.array items)).symm
  | object record =>
    rw [nesting_object, Nat.lt_succ_iff, le_foldr_max_iff, exists_holds_object_iff]
    exact (and_iff_right (.object record)).symm
  -- Nothing else is nested at all, and nothing else is a container.
  | _ => exact iff_of_false (Nat.not_lt_zero k) (by rintro ⟨⟨⟩, -⟩)

/-- What is held is nested less deeply. -/
theorem Holds.nesting_lt (h : v.Holds part) : part.nesting < v.nesting :=
  lt_nesting_iff_parts.mpr ⟨h.isContainer, .inr ⟨part, h, Nat.le_refl _⟩⟩

/-- What lies inside a value is nested at most as deep as the value. -/
theorem nesting_le_of_inside (h : ReflTransGen Holds v w) : w.nesting ≤ v.nesting := by
  induction h with
  | refl => exact Nat.le_refl _
  | tail _ holds ih => exact Nat.le_trans (Nat.le_of_lt holds.nesting_lt) ih

/-- A chain is at most as long as its first link is nested. -/
theorem length_lt_nesting {links : List Value} (container : ∀ link ∈ v :: links, link.IsContainer)
    (linked : (v :: links).IsChain Holds) : links.length < v.nesting := by
  -- On the rest of the chain, which starts with a part of the first link.
  induction links generalizing v with
  | nil => exact lt_nesting_iff_parts.mpr ⟨container v List.mem_cons_self, .inl rfl⟩
  | cons next rest ih =>
    obtain ⟨holds, linked⟩ := List.isChain_cons_cons.mp linked
    have shorter := ih (fun link mem => container link (List.mem_cons_of_mem _ mem)) linked
    exact lt_nesting_iff_parts.mpr ⟨holds.isContainer, .inr ⟨next, holds, shorter⟩⟩

/-- A value that is nested deep enough starts a chain. -/
theorem exists_chain (deep : k < v.nesting) :
    ∃ links, v.Chain (v :: links) ∧ k ≤ links.length := by
  induction v using strongRecursion generalizing k with
  | step v ih =>
    obtain ⟨container, parts⟩ := lt_nesting_iff_parts.mp deep
    cases k with
    -- A container is a chain by itself. It may hold nothing.
    | zero =>
      refine ⟨[], ⟨?_, ?_, .singleton v⟩, Nat.le_refl 0⟩
      · exact List.forall_mem_singleton.mpr .refl
      · exact List.forall_mem_singleton.mpr container
    | succ k =>
      -- The deepest part starts a chain that is one link shorter.
      obtain ⟨part, holds, deep⟩ := parts.resolve_left (Nat.succ_ne_zero k)
      obtain ⟨links, chain, long⟩ := ih part holds.sizeOf_lt deep
      refine ⟨part :: links, ⟨?_, ?_, chain.linked.cons_cons holds⟩, Nat.succ_le_succ long⟩
      · exact List.forall_mem_cons.mpr ⟨.refl, fun link mem => .head holds (chain.inside link mem)⟩
      · exact List.forall_mem_cons.mpr ⟨container, chain.containers⟩

/-- The nesting of a value is the length of its longest chain. -/
theorem lt_nesting_iff : k < v.nesting ↔ ∃ links, v.Chain links ∧ k < links.length := by
  constructor
  · intro deep
    obtain ⟨links, chain, long⟩ := exists_chain deep
    exact ⟨v :: links, chain, Nat.lt_succ_of_le long⟩
  · rintro ⟨links, chain, long⟩
    cases links with
    | nil => cases long
    -- The chain may start anywhere inside, which can only make it shorter.
    | cons first rest =>
      have top := nesting_le_of_inside (chain.inside first List.mem_cons_self)
      have bottom := length_lt_nesting chain.containers chain.linked
      rw [List.length_cons] at long
      omega

/-! ## Counting on the way down -/

mutual

/-- Whether an array or record stands at the limit of nesting or deeper, if the value stands at
a level. -/
def tooDeepFrom (level : Nat) : Value → Bool
  | .array items => decide (maxDepth ≤ level) || itemsTooDeepFrom (level + 1) items
  | .object ⟨_, ⟨_, fields⟩⟩ => decide (maxDepth ≤ level) || fieldsTooDeepFrom (level + 1) fields
  | _ => false

/-- Whether an item of an array is too deep. -/
def itemsTooDeepFrom (level : Nat) : List Value → Bool
  | [] => false
  | item :: rest => tooDeepFrom level item || itemsTooDeepFrom level rest

/-- Whether a field of a record is too deep. -/
def fieldsTooDeepFrom (level : Nat) {keys : List String} : Entries String Value keys → Bool
  | .nil => false
  | .cons _ value rest _ => tooDeepFrom level value || fieldsTooDeepFrom level rest

end

/-- An array is too deep if its own level is, or an item one level further in. -/
theorem tooDeepFrom_array (level : Nat) (items : List Value) :
    (Value.array items).tooDeepFrom level =
      (decide (maxDepth ≤ level) || items.any (tooDeepFrom (level + 1))) := by
  have some : itemsTooDeepFrom (level + 1) items = items.any (tooDeepFrom (level + 1)) := by
    induction items with
    | nil => rfl
    | cons item rest ih => rw [itemsTooDeepFrom, ih, List.any_cons]
  rw [tooDeepFrom, some]

/-- A record is too deep if its own level is, or a field one level further in. -/
theorem tooDeepFrom_object (level : Nat) (record : Record) :
    (Value.object record).tooDeepFrom level =
      (decide (maxDepth ≤ level) ||
        record.fields.toList.any fun pair => pair.2.tooDeepFrom (level + 1)) := by
  obtain ⟨className, ⟨keys, fields⟩⟩ := record
  have some : fieldsTooDeepFrom (level + 1) fields =
      fields.toList.any fun pair => pair.2.tooDeepFrom (level + 1) := by
    induction fields with
    | nil => rfl
    | cons key value rest fresh ih => rw [fieldsTooDeepFrom, ih, Entries.toList, List.any_cons]
  rw [tooDeepFrom, some]
  rfl

/-- One level: a container at the limit is too deep, and so is one with a part that is too deep
one level further down. -/
theorem tooDeepFrom_iff_parts :
    v.tooDeepFrom level = true ↔
      v.IsContainer ∧ (maxDepth ≤ level ∨
        ∃ part, v.Holds part ∧ part.tooDeepFrom (level + 1) = true) := by
  cases v with
  | array items =>
    rw [tooDeepFrom_array, Bool.or_eq_true, decide_eq_true_eq, List.any_eq_true,
      exists_holds_array_iff]
    exact (and_iff_right (.array items)).symm
  | object record =>
    rw [tooDeepFrom_object, Bool.or_eq_true, decide_eq_true_eq, List.any_eq_true,
      exists_holds_object_iff]
    exact (and_iff_right (.object record)).symm
  -- The counter stops at what is no container.
  | _ => exact iff_of_false (by rintro ⟨⟩) (by rintro ⟨⟨⟩, -⟩)

/-- The counter finds a container that is too deep exactly if the value is nested deeper than
the levels that are left. -/
theorem tooDeepFrom_iff : v.tooDeepFrom level = true ↔ maxDepth - level < v.nesting := by
  induction v using strongRecursion generalizing level with
  | step v ih =>
    -- Both sides go down to the same parts, and one level is used up.
    rw [tooDeepFrom_iff_parts, lt_nesting_iff_parts, Nat.sub_eq_zero_iff_le]
    refine and_congr_right fun _ => or_congr_right' fun below => exists_congr fun part => ?_
    refine and_congr_right fun holds => ?_
    rw [ih part holds.sizeOf_lt]
    omega

/-- From the top, too deep means that there is a chain of containers longer than the limit. -/
theorem tooDeepFrom_zero_iff :
    v.tooDeepFrom 0 = true ↔ ∃ links, v.Chain links ∧ maxDepth < links.length := by
  rw [tooDeepFrom_iff, Nat.sub_zero, lt_nesting_iff]

/-- Rendering gives up exactly on the values with a chain that is longer than the limit. -/
theorem render?_eq_none_iff :
    v.render? = none ↔ ∃ links, v.Chain links ∧ maxDepth < links.length := by
  rw [← lt_nesting_iff]
  unfold render?
  cases h : v.isRenderable with
  | true => simp
  | false =>
    -- What has no JSON form is no container, so it is not nested.
    have leaf : v.nesting = 0 := by
      cases v with
      | undefined | symbol | function => rfl
      | _ => cases h
    simp [leaf]

end Value

end PropShape
