import PropShape.OrderedMap
import Mathlib.Data.List.Basic
import Mathlib.Tactic.Choose

/-!
# `PropShape.Proofs.OrderedMap`: maps and the lists that they are made from

A map is determined by its list of pairs (`toList_injective`), and a list with
distinct keys is the list of the map that is made from it (`toList_ofList`).
Both directions together say that maps are such lists. A list with repeated
keys makes a map as well, and the map has no other pairs than the list
(`mem_of_mem_ofList`).

A map is often made from a list of names and a function: `keys_ofList_map` and
`get?_ofList_map_iff` say what it holds.
-/

set_option autoImplicit false

namespace PropShape

universe u

/-! ## Entries as lists -/

/-- Entries with the same keys are determined by their pairs. -/
theorem Entries.toList_injective {κ : Type} {α : Type u} {keys : List κ}
    {entries others : Entries κ α keys}
    (h : entries.toList = others.toList) : entries = others := by
  induction entries with
  | nil =>
    cases others
    rfl
  | cons key value rest fresh ih =>
    cases others with
    | cons _ other others _ =>
      obtain ⟨head, tail⟩ := List.cons_eq_cons.mp h
      cases head
      rw [ih tail]

/-- A list that takes up some entries of a map one by one, in their order. -/
theorem Entries.eq_map_filter {α : Type u} {β : Type} {taken : String × α → Bool}
    {f : String × α → β}
    (list : {keys : List String} → Entries String α keys → List β) (nil : list .nil = [])
    (cons : ∀ {keys : List String} (key : String) (value : α) (rest : Entries String α keys)
      (fresh : key ∉ keys), list (.cons key value rest fresh) =
        if taken (key, value) then f (key, value) :: list rest else list rest)
    {keys : List String} (entries : Entries String α keys) :
    list entries = (entries.toList.filter taken).map f := by
  induction entries with
  | nil => exact nil
  | cons key value rest fresh ih =>
    rw [cons, Entries.toList, List.filter_cons, ih]
    split <;> rfl

namespace OrderedMap

variable {κ : Type} {α : Type u}

/-- A map is determined by its pairs. -/
theorem toList_injective {map other : OrderedMap κ α} (h : map.toList = other.toList) :
    map = other := by
  have keys : map.keys = other.keys := by rw [← keys_toList, h, keys_toList]
  obtain ⟨keys', entries⟩ := map
  cases keys
  exact congrArg _ (Entries.toList_injective h)

variable [DecidableEq κ] {map : OrderedMap κ α}

/-- The keys of a map are those with a value. -/
theorem mem_keys_iff {key : κ} : key ∈ map.keys ↔ ∃ value, map.get? key = some value := by
  simp only [get?_eq_some_iff]
  rw [← keys_toList, List.mem_map]
  constructor
  · rintro ⟨⟨other, value⟩, mem, rfl⟩
    exact ⟨value, mem⟩
  · rintro ⟨value, mem⟩
    exact ⟨(key, value), mem, rfl⟩

/-! ## Maps from lists of pairs -/

/-- A pair with a new key is inserted at the end. -/
theorem insertPair_of_fresh {key : κ} (value : α) {pairs : List (κ × α)}
    (fresh : key ∉ pairs.map Prod.fst) : insertPair key value pairs = pairs ++ [(key, value)] := by
  induction pairs with
  | nil => rfl
  | cons pair pairs ih =>
    obtain ⟨other, held⟩ := pair
    obtain ⟨apart, fresh⟩ := List.ne_and_not_mem_of_not_mem_cons fresh
    rw [insertPair, if_neg (Ne.symm apart), ih fresh, List.cons_append]

/-- Distinct keys are inserted one after the other. -/
theorem toList_ofList {pairs : List (κ × α)} (distinct : (pairs.map Prod.fst).Nodup) :
    (ofList pairs).toList = pairs := by
  -- The induction is on what is left to insert, behind whatever is in the map already.
  have onward : ∀ (pairs : List (κ × α)) (map : OrderedMap κ α),
      ((map.toList ++ pairs).map Prod.fst).Nodup →
      (pairs.foldl (fun map pair => map.insert pair.1 pair.2) map).toList =
        map.toList ++ pairs := by
    intro pairs
    induction pairs with
    | nil => intro map _; exact (List.append_nil _).symm
    | cons pair pairs ih =>
      intro map distinct
      have fresh : pair.1 ∉ map.toList.map Prod.fst := by
        rw [List.map_append, List.nodup_append] at distinct
        intro mem
        exact distinct.2.2 _ mem _ (by simp) rfl
      have inserted : (map.insert pair.1 pair.2).toList = map.toList ++ [pair] := by
        rw [toList_insert, insertPair_of_fresh _ fresh]
      rw [List.foldl_cons, ih, inserted, List.append_assoc, List.singleton_append]
      rwa [inserted, List.append_assoc, List.singleton_append]
  exact onward pairs empty distinct

/-- A map is what its entries are inserted to. -/
theorem ofList_toList (map : OrderedMap κ α) : ofList map.toList = map := by
  refine toList_injective (toList_ofList ?_)
  rw [keys_toList]
  exact map.nodup_keys

/-- An insertion brings no other pair than the inserted one. -/
theorem mem_of_mem_insertPair {key : κ} {value : α} {pairs : List (κ × α)} {pair : κ × α}
    (mem : pair ∈ insertPair key value pairs) : pair = (key, value) ∨ pair ∈ pairs := by
  induction pairs with
  | nil => exact .inl (List.mem_singleton.mp mem)
  | cons first rest ih =>
    rw [insertPair] at mem
    -- The pair with the key is replaced where it stands.
    split at mem
    · next same =>
      rcases List.mem_cons.mp mem with rfl | mem
      · exact .inl (by rw [same])
      · exact .inr (List.mem_cons_of_mem _ mem)
    · rcases List.mem_cons.mp mem with rfl | mem
      · exact .inr List.mem_cons_self
      · exact (ih mem).imp_right (List.mem_cons_of_mem _)

/-- A map has no other entries than those that were inserted. -/
theorem mem_of_mem_ofList {pairs : List (κ × α)} {pair : κ × α}
    (mem : pair ∈ (ofList pairs).toList) : pair ∈ pairs := by
  -- The induction is on what is left to insert, behind whatever is in the map already.
  have onward : ∀ (pairs : List (κ × α)) (map : OrderedMap κ α),
      pair ∈ (pairs.foldl (fun map pair => map.insert pair.1 pair.2) map).toList →
      pair ∈ map.toList ∨ pair ∈ pairs := by
    intro pairs
    induction pairs with
    | nil => exact fun map mem => .inl mem
    | cons first rest ih =>
      intro map mem
      rcases ih _ mem with mem | mem
      · rw [toList_insert] at mem
        rcases mem_of_mem_insertPair mem with rfl | mem
        · exact .inr List.mem_cons_self
        · exact .inl mem
      · exact .inr (List.mem_cons_of_mem _ mem)
  exact (onward pairs empty mem).resolve_left (List.not_mem_nil)

/-! ## Maps from a list of names -/

variable {names : List κ} {f : κ → α}

omit [DecidableEq κ] in
/-- The names that are given values are the keys. -/
theorem map_fst_map (names : List κ) (f : κ → α) :
    (names.map fun name => (name, f name)).map Prod.fst = names := by
  rw [List.map_map]
  exact List.map_id names

/-- Distinct names are the keys of the map, in their order. -/
theorem keys_ofList_map (distinct : names.Nodup) :
    (ofList (names.map fun name => (name, f name))).keys = names := by
  rw [← keys_toList, toList_ofList (by rwa [map_fst_map]), map_fst_map]

/-- The map holds what the function gives to one of the names. -/
theorem get?_ofList_map_iff (distinct : names.Nodup) {name : κ} {a : α} :
    (ofList (names.map fun name => (name, f name))).get? name = some a ↔
      name ∈ names ∧ f name = a := by
  rw [get?_eq_some_iff, toList_ofList (by rwa [map_fst_map])]
  simp only [List.mem_map, Prod.mk.injEq]
  constructor
  · rintro ⟨_, mem, rfl, rfl⟩
    exact ⟨mem, rfl⟩
  · rintro ⟨mem, rfl⟩
    exact ⟨name, mem, rfl, rfl⟩

/-- What there is for each entry of a map can be chosen for each of the names that list its
keys. -/
theorem exists_choice {β : Type} [Inhabited β] {Q : κ → α → β → Prop}
    (arranged : map.keys.Perm names) (h : ∀ name a, map.get? name = some a → ∃ b, Q name a b) :
    ∃ g : κ → β, (∀ name a, map.get? name = some a → Q name a (g name)) ∧
      ∀ name ∈ names, ∃ a, Q name a (g name) := by
  -- What is chosen under a name that the map does not have plays no part.
  have chosen : ∀ name, ∃ b, ∀ a, map.get? name = some a → Q name a b := by
    intro name
    cases found : map.get? name with
    | none => exact ⟨default, nofun⟩
    | some a =>
      obtain ⟨b, hb⟩ := h name a found
      exact ⟨b, fun _ same => Option.some.inj same ▸ hb⟩
  choose g hg using chosen
  refine ⟨g, hg, fun name mem => ?_⟩
  obtain ⟨a, found⟩ := mem_keys_iff.mp (arranged.mem_iff.mpr mem)
  exact ⟨a, hg name a found⟩

end OrderedMap

end PropShape
