import PropShape.Proofs.Lists
import PropShape.Proofs.StrictPart
import PropShape.Schema.Check

/-!
# `PropShape.Proofs.Schema.Preorder`: in which order a schema is checked

A descriptor is checked before those inside it, and of these the nested
properties come first, then the element, then the alternatives.
`Descriptor.preorder` lists a descriptor and all that it holds in this order,
each with the path that an error would give, and `Schema.preorder` does so for
a whole schema.

* `Descriptor.mem_preorder_iff`: the list has all that a descriptor holds, at
  whatever depth, and nothing else.
* `Schema.check_eq_forM`: the check of a schema goes through the list and looks
  at each descriptor by itself. What the check does with the descriptors inside
  a descriptor needs no further look.
-/

set_option autoImplicit false

namespace PropShape

open Relation (ReflTransGen)

/-! ## The order of descriptors -/

/-- How a descriptor holds another one. -/
inductive Inside
  /-- As the nested property of this name. -/
  | property (key : String)
  | element
  | alternative

/-- The path of what is held, below the path of the descriptor that holds it. -/
def Inside.path (outer : String) : Inside → String
  | property key => outer ++ "." ++ key
  | element => outer ++ "[]"
  | alternative => outer

namespace Descriptor

variable {registry : Registry} {d part : Descriptor} {path : String}

/-- What a descriptor holds, in order. -/
def inside (d : Descriptor) : List (Inside × Descriptor) :=
  (d.properties?.toList.flatMap fun properties =>
    properties.toList.map fun pair => (.property pair.1, pair.2)) ++
  (d.element?.toList.map fun inner => (.element, inner)) ++
  d.alternatives.map fun inner => (.alternative, inner)

/-- What a descriptor holds is what is listed as being inside it. -/
theorem holds_iff_mem_inside : d.Holds part ↔ ∃ place, (place, part) ∈ d.inside := by
  -- Each way of holding a part is one of the three lists that make up what is inside.
  simp only [inside, List.mem_append, List.mem_flatMap, List.mem_map, Option.mem_toList,
    Prod.mk.injEq]
  constructor
  · rintro (h | ⟨declared, h⟩ | h)
    · exact ⟨.element, .inl (.inr ⟨part, h, rfl, rfl⟩)⟩
    · exact ⟨.property _, .inl (.inl ⟨_, declared, _,
        (OrderedMap.get?_eq_some_iff _ _ _).mp h, rfl, rfl⟩)⟩
    · exact ⟨.alternative, .inr ⟨part, h, rfl, rfl⟩⟩
  · rintro ⟨place, (⟨properties, declared, ⟨key, inner⟩, mem, rfl, rfl⟩ | ⟨inner, h, rfl, rfl⟩) |
      ⟨inner, h, rfl, rfl⟩⟩
    · exact .property declared ((OrderedMap.get?_eq_some_iff _ _ _).mpr mem)
    · exact .element h
    · exact .alternative h

/-- A descriptor and all that it holds, each in front of what is inside it, with their paths. -/
def preorder (path : String) (d : Descriptor) : List (String × Descriptor) :=
  (path, d) :: d.inside.attach.flatMap fun held => held.val.2.preorder (held.val.1.path path)
termination_by sizeOf d
decreasing_by exact Holds.sizeOf_lt (holds_iff_mem_inside.mpr ⟨held.val.1, held.property⟩)

/-- A descriptor comes first, and then what is inside it, one after the other. -/
theorem preorder_eq (path : String) (d : Descriptor) :
    d.preorder path =
      (path, d) :: d.inside.flatMap fun held => held.2.preorder (held.1.path path) := by
  have attached : d.inside.attach.map Subtype.val = d.inside := List.attach_map_subtype_val _
  rw [preorder, ← attached, List.flatMap_map, attached]

/-- The list has the descriptor and whatever it holds at any depth, and nothing else. -/
theorem mem_preorder_iff {d : Descriptor} {path : String} :
    (∃ place, (place, part) ∈ d.preorder path) ↔ ReflTransGen Holds d part := by
  rw [preorder_eq]
  simp only [List.mem_cons, Prod.mk.injEq, List.mem_flatMap]
  constructor
  · rintro ⟨place, ⟨-, rfl⟩ | ⟨⟨step, inner⟩, mem, listed⟩⟩
    · exact .refl
    · have holds : d.Holds inner := holds_iff_mem_inside.mpr ⟨step, mem⟩
      -- The parts of a descriptor are smaller, which the recursion rests on.
      have smaller := holds.sizeOf_lt
      exact .head holds (mem_preorder_iff.mp ⟨place, listed⟩)
  · intro within
    rcases ReflTransGen.cases_head within with rfl | ⟨inner, holds, rest⟩
    · exact ⟨path, .inl ⟨rfl, rfl⟩⟩
    · obtain ⟨step, mem⟩ := holds_iff_mem_inside.mp holds
      have smaller := holds.sizeOf_lt
      obtain ⟨place, listed⟩ := mem_preorder_iff.mpr rest
      exact ⟨place, .inr ⟨(step, inner), mem, listed⟩⟩
termination_by sizeOf d

/-! ## The check goes through the list -/

/-- Properties are checked one by one, each at the path with its name. -/
theorem checkEntries_eq_forM {keys : List String} (properties : Entries String Descriptor keys) :
    checkEntries registry path properties =
      properties.toList.forM fun pair => pair.2.checkAt registry (path ++ "." ++ pair.1) := by
  induction properties with
  | nil => rfl
  | cons key inner rest fresh ih =>
    rw [checkEntries, ih]
    rfl

/-- Alternatives are checked one by one, at the path of the union. -/
theorem checkAlternatives_eq_forM (alternatives : List Descriptor) :
    checkAlternatives registry path alternatives =
      alternatives.forM fun inner => inner.checkAt registry path := by
  induction alternatives with
  | nil => rfl
  | cons first rest ih =>
    rw [checkAlternatives, ih]
    rfl

/-- A descriptor is checked by itself, and then what it holds is checked in order. -/
theorem checkAt_eq_forM_inside (registry : Registry) (path : String) (d : Descriptor) :
    d.checkAt registry path = (do
      d.checkSelf registry path
      d.inside.forM fun held => held.2.checkAt registry (held.1.path path)) := by
  -- Each of the three loops of the check becomes a loop over what is inside.
  have properties : checkProperties registry path d.properties? =
      (d.properties?.toList.flatMap fun properties =>
        properties.toList.map fun pair => (Inside.property pair.1, pair.2)).forM fun held =>
          held.2.checkAt registry (held.1.path path) := by
    cases d.properties? with
    | none => rfl
    | some properties =>
      rw [checkProperties, checkEntries_eq_forM, Option.toList_some, List.flatMap_singleton,
        List.forM_eq_forM, List.forM_eq_forM, List.forM_map]
      rfl
  have element : checkElement registry path d.element? =
      (d.element?.toList.map fun inner => (Inside.element, inner)).forM fun held =>
        held.2.checkAt registry (held.1.path path) := by
    cases d.element? with
    | none => rfl
    | some inner => simp [checkElement, Inside.path]
  have alternatives : checkAlternatives registry path d.alternatives =
      (d.alternatives.map fun inner => (Inside.alternative, inner)).forM fun held =>
        held.2.checkAt registry (held.1.path path) := by
    rw [checkAlternatives_eq_forM, List.forM_eq_forM, List.forM_eq_forM, List.forM_map]
    rfl
  -- The check itself first, and then the loops in the order in which the parts are listed.
  have parts : d.checkAt registry path = (do
      d.checkSelf registry path
      checkProperties registry path d.properties?
      checkElement registry path d.element?
      checkAlternatives registry path d.alternatives) := by
    cases d
    rw [checkAt]
  rw [parts, properties, element, alternatives, inside]
  simp only [List.forM_eq_forM, List.forM_append, bind_assoc]

/-- The check looks at each descriptor by itself, in the order of the list. -/
theorem checkAt_eq_forM (registry : Registry) (path : String) (d : Descriptor) :
    d.checkAt registry path =
      (d.preorder path).forM fun visited => visited.2.checkSelf registry visited.1 := by
  have inner : ∀ held ∈ d.inside, held.2.checkAt registry (held.1.path path) =
      (held.2.preorder (held.1.path path)).forM fun visited =>
        visited.2.checkSelf registry visited.1 := by
    intro held mem
    have smaller := (holds_iff_mem_inside.mpr ⟨held.1, mem⟩).sizeOf_lt
    exact checkAt_eq_forM registry (held.1.path path) held.2
  rw [checkAt_eq_forM_inside, preorder_eq, Except.forM_congr inner, ← Except.forM_flatMap]
  rfl
termination_by sizeOf d

end Descriptor

namespace Schema

variable {schema : Schema} {registry : Registry} {part : Descriptor}

/-- The descriptors of a schema in the order of the check, with their paths. -/
def preorder (schema : Schema) : List (String × Descriptor) :=
  schema.toList.flatMap fun property => property.2.preorder property.1

/-- They are the declared ones, and all that these hold. -/
theorem mem_preorder_iff :
    (∃ path, (path, part) ∈ schema.preorder) ↔
      ∃ name d, schema.get? name = some d ∧ ReflTransGen Descriptor.Holds d part := by
  simp only [preorder, List.mem_flatMap, Prod.exists, OrderedMap.get?_eq_some_iff]
  constructor
  · rintro ⟨path, name, d, declared, listed⟩
    exact ⟨name, d, declared, Descriptor.mem_preorder_iff.mp ⟨path, listed⟩⟩
  · rintro ⟨name, d, declared, within⟩
    obtain ⟨path, listed⟩ := Descriptor.mem_preorder_iff.mpr within
    exact ⟨path, name, d, declared, listed⟩

/-- The check of a schema looks at each descriptor by itself, in the order of the list. -/
theorem check_eq_forM (schema : Schema) (registry : Registry) :
    schema.check registry =
      schema.preorder.forM fun visited => visited.2.checkSelf registry visited.1 := by
  rw [check, preorder, Except.forM_flatMap]
  exact Except.forM_congr fun property _ =>
    Descriptor.checkAt_eq_forM registry property.1 property.2

end Schema

end PropShape
