import Mathlib.Data.List.Basic
import Mathlib.Order.MinMax

/-!
# `PropShape.Proofs.Lists`: lists that are gone through item by item

What a function does along a list is often spelled out as a recursion of its
own. The statements here say what such a recursion comes to.

* `eq_map_of_cons`, `eq_foldr_max_of_cons`: a recursion that makes a list item by
  item is a map, and one that looks for the greatest is a fold.
* `map_filterMap_sublist`: what is found for some of the items stays in order.
* `Except.forM_eq_ok_iff`, `Except.forM_eq_error_iff`: going through a list is
  ok if every item is, and ends with the error of the first item that has one.
-/

set_option autoImplicit false

namespace PropShape

/-! ## Lists that are made from lists -/

/-- A list that is made item by item. -/
theorem eq_map_of_cons {α β : Type} {f : α → β} (list : List α → List β) (nil : list [] = [])
    (cons : ∀ item rest, list (item :: rest) = f item :: list rest) (items : List α) :
    list items = items.map f := by
  induction items with
  | nil => exact nil
  | cons item rest ih => rw [cons, ih, List.map_cons]

/-- The greatest of what is assigned to the items of a list. -/
theorem eq_foldr_max_of_cons {α : Type} {f : α → Nat} (greatest : List α → Nat)
    (nil : greatest [] = 0)
    (cons : ∀ item rest, greatest (item :: rest) = max (f item) (greatest rest))
    (items : List α) : greatest items = (items.map f).foldr max 0 := by
  induction items with
  | nil => exact nil
  | cons item rest ih => rw [cons, ih, List.map_cons, List.foldr_cons]

/-- What is found for the items of a list comes in their order. -/
theorem map_filterMap_sublist {α β γ : Type} {find : α → Option β} {label : β → γ} {key : α → γ}
    (named : ∀ item found, find item = some found → label found = key item) (items : List α) :
    ((items.filterMap find).map label).Sublist (items.map key) := by
  induction items with
  | nil => exact .refl []
  | cons item rest ih =>
    rw [List.filterMap_cons]
    split
    · exact ih.cons (key item)
    · next found hfound =>
      rw [List.map_cons, List.map_cons, named item found hfound]
      exact ih.cons_cons (key item)

/-- The greatest of what is assigned to the items of a list reaches a number if the number is
zero or what is assigned to one of them reaches it. -/
theorem le_foldr_max_iff {α : Type} {f : α → Nat} {items : List α} {k : Nat} :
    k ≤ (items.map f).foldr max 0 ↔ k = 0 ∨ ∃ item ∈ items, k ≤ f item := by
  induction items with
  | nil => simp
  | cons item rest ih =>
    rw [List.map_cons, List.foldr_cons, le_max_iff, ih, List.exists_mem_cons_iff]
    exact or_left_comm

/-! ## Going through a list -/

section

variable {ε α β : Type} {check : α → Except ε Unit} {items : List α} {e : ε}

/-- Going through a list is ok exactly if every item is. -/
theorem Except.forM_eq_ok_iff :
    items.forM check = .ok () ↔ ∀ item ∈ items, check item = .ok () := by
  induction items with
  | nil => exact ⟨fun _ => List.forall_mem_nil _, fun _ => rfl⟩
  | cons first rest ih =>
    show (check first >>= fun _ => rest.forM check) = .ok () ↔ _
    -- The first check that fails ends the loop.
    cases h : check first with
    | error e =>
      constructor
      · intro passed
        cases passed
      · intro passed
        cases h.symm.trans (passed first List.mem_cons_self)
    | ok =>
      show rest.forM check = .ok () ↔ _
      rw [ih, List.forall_mem_cons]
      exact (and_iff_right h).symm

/-- There is an error exactly if an item has this error and no item in front of it has one. -/
theorem Except.forM_eq_error_iff :
    items.forM check = .error e ↔
      ∃ before item after, items = before ++ item :: after ∧
        (∀ passed ∈ before, check passed = .ok ()) ∧ check item = .error e := by
  induction items with
  | nil =>
    constructor
    · intro h
      cases h
    · rintro ⟨before, item, after, split, -⟩
      cases before <;> cases split
  | cons first rest ih =>
    show (check first >>= fun _ => rest.forM check) = .error e ↔ _
    cases h : check first with
    | error e' =>
      constructor
      · intro failed
        cases failed
        exact ⟨[], first, rest, rfl, List.forall_mem_nil _, h⟩
      · rintro ⟨before, item, after, split, passed, failed⟩
        -- The first item does not pass, so there is nothing in front of the one that fails.
        cases before with
        | nil =>
          cases split
          exact h.symm.trans failed
        | cons other before =>
          cases split
          cases h.symm.trans (passed _ List.mem_cons_self)
    | ok =>
      show rest.forM check = .error e ↔ _
      rw [ih]
      constructor
      · rintro ⟨before, item, after, rfl, passed, failed⟩
        exact ⟨first :: before, item, after, rfl, List.forall_mem_cons.mpr ⟨h, passed⟩, failed⟩
      · rintro ⟨before, item, after, split, passed, failed⟩
        cases before with
        | nil =>
          cases split
          cases h.symm.trans failed
        | cons other before =>
          cases split
          exact ⟨before, item, after, rfl, (List.forall_mem_cons.mp passed).2, failed⟩

/-- Checks that agree on the items of a list go through it alike. -/
theorem Except.forM_congr {other : α → Except ε Unit}
    (h : ∀ item ∈ items, check item = other item) : items.forM check = items.forM other := by
  induction items with
  | nil => rfl
  | cons first rest ih =>
    show (check first >>= fun _ => rest.forM check) = (other first >>= fun _ => rest.forM other)
    rw [h first List.mem_cons_self, ih fun item mem => h item (List.mem_cons_of_mem _ mem)]

/-- Going through lists one after the other is going through the items of all of them. -/
theorem Except.forM_flatMap (lists : List β) (list : β → List α) :
    (lists.flatMap list).forM check = lists.forM fun index => (list index).forM check := by
  induction lists with
  | nil => rfl
  | cons first rest ih =>
    rw [List.flatMap_cons, List.forM_eq_forM, List.forM_append]
    show (forM (list first) check >>= fun _ => (rest.flatMap list).forM check) = _
    rw [ih]
    rfl

end

end PropShape
