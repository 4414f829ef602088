import PropShape.Proofs.Registry.Declarative
import PropShape.Proofs.Schema.Preorder

/-!
# `PropShape.Proofs.Schema.Usable`: what passing the check of a schema means

The check of a schema goes through a descriptor and everything inside it, with
a path that serves the messages only. `Descriptor.Usable` says what it asks of
a single descriptor, without following anything: aliases lead from its type to
an owner, and it carries what the owner needs.

`Descriptor.checkAt_eq_ok_iff` is the main statement. A descriptor passes the
check exactly if it and all that it holds, at any depth and whether its type
uses it or not, are usable. The path plays no part in that.
-/

set_option autoImplicit false

namespace PropShape

open Relation (ReflTransGen)

namespace Descriptor

/-- Aliases lead from the type to an owner, and the descriptor lacks nothing of what the
owner needs. -/
def Usable (registry : Registry) (d : Descriptor) : Prop :=
  ∃ owner rule, registry.Leads d.type owner rule ∧ d.lacks? owner = none

/-- The descriptor is usable, and so is all that it holds at any depth. -/
def UsableThroughout (registry : Registry) (d : Descriptor) : Prop :=
  ∀ part, ReflTransGen Holds d part → part.Usable registry

variable {registry : Registry} {d inner : Descriptor} {path : String}

/-- What is usable throughout is usable at the top. -/
theorem UsableThroughout.usable (h : d.UsableThroughout registry) : d.Usable registry := h d .refl

/-- What is usable throughout has parts that are. -/
theorem UsableThroughout.of_holds (h : d.UsableThroughout registry) (holds : d.Holds inner) :
    inner.UsableThroughout registry :=
  fun part inside => h part (.head holds inside)

/-- One level: a descriptor is usable throughout if it is usable and its parts are usable
throughout. -/
theorem usableThroughout_iff :
    d.UsableThroughout registry ↔
      d.Usable registry ∧ ∀ inner, d.Holds inner → inner.UsableThroughout registry := by
  constructor
  · intro h
    exact ⟨h.usable, fun inner holds => h.of_holds holds⟩
  · rintro ⟨self, below⟩ part inside
    rcases ReflTransGen.cases_head inside with rfl | ⟨inner, holds, rest⟩
    · exact self
    · exact below inner holds part rest

/-- A type without configuration holds nothing, so there is nothing else to look at. -/
theorem usableThroughout_ofType {type owner : TypeName} {rule : Rule}
    (leads : registry.Leads type owner rule) (complete : (ofType type).lacks? owner = none) :
    (ofType type).UsableThroughout registry := by
  refine usableThroughout_iff.mpr ⟨⟨owner, rule, leads, complete⟩, fun inner holds => ?_⟩
  cases holds with
  | element h => cases h
  | property declared => cases declared
  | alternative h => cases h

/-! ## Passing the check -/

/-- The check of a single descriptor passes exactly if it is usable. -/
theorem checkSelf_eq_ok_iff : d.checkSelf registry path = .ok () ↔ d.Usable registry := by
  unfold checkSelf Registry.resolveType
  cases h : registry.resolve d.type with
  | error e =>
    -- A usable descriptor has a type that leads to a rule.
    have unresolved : ¬ d.Usable registry := by
      rintro ⟨owner, rule, leads, -⟩
      rw [Registry.resolve_eq_ok_iff.mpr leads] at h
      cases h
    exact ⟨fun h => (by cases h), fun usable => absurd usable unresolved⟩
  | ok resolved =>
    obtain ⟨owner, rule⟩ := resolved
    have leads := Registry.resolve_eq_ok_iff.mp h
    simp only [Except.map]
    constructor
    · intro passed
      cases hlacks : d.lacks? owner with
      | none => exact ⟨owner, rule, leads, hlacks⟩
      | some requirement =>
        rw [hlacks] at passed
        cases passed
    · rintro ⟨owner', rule', leads', complete⟩
      -- The rule that it leads to is the one that was found.
      obtain rfl := (leads.unique leads').1
      rw [complete]

/-- A descriptor passes the check exactly if it is usable, with all that it holds. -/
theorem checkAt_eq_ok_iff {d : Descriptor} {path : String} :
    d.checkAt registry path = .ok () ↔ d.UsableThroughout registry := by
  rw [checkAt_eq_forM, Except.forM_eq_ok_iff]
  constructor
  · intro passed part within
    obtain ⟨place, listed⟩ := mem_preorder_iff.mpr within
    exact checkSelf_eq_ok_iff.mp (passed _ listed)
  · intro usable visited listed
    have within := mem_preorder_iff.mp ⟨visited.1, listed⟩
    exact checkSelf_eq_ok_iff.mpr (usable visited.2 within)

end Descriptor

/-- Every stored schema passes the check, on its own and in this registry. -/
def Registry.Checked (registry : Registry) : Prop :=
  ∀ name stored, registry.get? name = some (.rule (.schema stored)) →
    stored.checkAt registry name.text = .ok ()

/-- In a checked registry every stored schema is usable. -/
theorem Registry.Checked.usable {registry : Registry} (checked : registry.Checked)
    {name : TypeName} {stored : Descriptor}
    (h : registry.get? name = some (.rule (.schema stored))) : stored.UsableThroughout registry :=
  Descriptor.checkAt_eq_ok_iff.mp (checked name stored h)

/-- The schema of the nodes of linked lists passes the check. Its reference back to itself
is a type that resolves, and is not followed. -/
theorem Registry.checked_linked : linked.Checked := by
  intro name stored h
  obtain rfl := eq_node_of_get?_linked h
  refine Descriptor.checkAt_eq_ok_iff.mpr (Descriptor.usableThroughout_iff.mpr ⟨?_, ?_⟩)
  · exact ⟨_, _, leads_linked_shape, rfl⟩
  · intro inner holds
    -- A node holds the descriptor of the next node and nothing else.
    cases holds with
    | element h => cases h
    | alternative h => cases h
    | @property properties key declared h =>
      cases declared
      obtain ⟨-, rfl⟩ : key = "next" ∧ Descriptor.ofType (.named "node") = inner := by
        simpa [OrderedMap.ofList, OrderedMap.get?_insert] using h
      exact Descriptor.usableThroughout_ofType leads_linked_node rfl

/-- A schema passes the check exactly if all descriptors in it do. -/
theorem Schema.check_eq_ok_iff {schema : Schema} {registry : Registry} :
    schema.check registry = .ok () ↔
      ∀ name d, schema.get? name = some d → d.UsableThroughout registry := by
  rw [check_eq_forM, Except.forM_eq_ok_iff]
  constructor
  · intro passed name d declared part within
    obtain ⟨path, listed⟩ := mem_preorder_iff.mpr ⟨name, d, declared, within⟩
    exact Descriptor.checkSelf_eq_ok_iff.mp (passed _ listed)
  · intro usable visited listed
    obtain ⟨name, d, declared, within⟩ := mem_preorder_iff.mp ⟨visited.1, listed⟩
    exact Descriptor.checkSelf_eq_ok_iff.mpr (usable name d declared visited.2 within)

end PropShape
