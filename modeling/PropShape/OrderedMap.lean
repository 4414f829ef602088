/-!
# `PropShape.OrderedMap`: maps that keep the order of insertion

Records, schemas and registries list their entries in the order in which
the keys were first inserted. A key occurs once: inserting it again
replaces the value and keeps the place.

`Entries κ α keys` holds one value for each key of `keys`, and its
constructor asks for a key that is new, so a repeated key cannot be
written down. Because the proof speaks about the keys alone, the type may
be nested inside the type of its own values, which is how a record holds
records.

The view of a map is `toList`; every operation is pinned down through it:

* `keys_toList`, `nodup_keys`: the keys of the view are the map's keys and
  none repeats;
* `get?_eq_some_iff`: looking up reads the view;
* `get?_insert`, `keys_insert`: an insertion changes one key, and appends
  it only when it is new;
* `toList_ofNodup`: a list without repeated keys is the view of a map.
-/

set_option autoImplicit false

namespace PropShape

universe u

/-- One value for each key of the index, in the order of the index. -/
inductive Entries (κ : Type) (α : Type u) : List κ → Type u
  | nil : Entries κ α []
  | cons {keys : List κ} (key : κ) (value : α) (rest : Entries κ α keys)
      (fresh : key ∉ keys) : Entries κ α (key :: keys)

/-- A finite map with distinct keys that remembers their order. -/
structure OrderedMap (κ : Type) (α : Type u) where
  /-- The keys, oldest first. -/
  keys : List κ
  /-- The values under them. -/
  entries : Entries κ α keys

namespace Entries

variable {κ : Type} {α : Type u}

/-- The pairs in order. -/
def toList : {keys : List κ} → Entries κ α keys → List (κ × α)
  | _, nil => []
  | _, cons key value rest _ => (key, value) :: rest.toList

/-- The pairs of the entries carry the keys of their type, in order. -/
@[simp] theorem map_fst_toList {keys : List κ} (entries : Entries κ α keys) :
    entries.toList.map Prod.fst = keys := by
  induction entries with
  | nil => rfl
  | cons key value rest fresh ih => simp [toList, ih]

/-- The keys of entries are distinct, since each was fresh when it was added. -/
theorem nodup {keys : List κ} (entries : Entries κ α keys) : keys.Nodup := by
  induction entries with
  | nil => exact List.nodup_nil
  | cons key value rest fresh ih => exact List.nodup_cons.mpr ⟨fresh, ih⟩

/-- The value under a key. -/
def find? [DecidableEq κ] (key : κ) : {keys : List κ} → Entries κ α keys → Option α
  | _, nil => none
  | _, cons other value rest _ => if other = key then some value else rest.find? key

/-- A lookup finds exactly the values that stand in a pair with the key. -/
theorem find?_eq_some_iff [DecidableEq κ] (key : κ) (value : α) {keys : List κ}
    (entries : Entries κ α keys) :
    entries.find? key = some value ↔ (key, value) ∈ entries.toList := by
  induction entries with
  | nil => simp [find?, toList]
  | cons other held rest fresh ih =>
    have absent : ∀ v, (other, v) ∉ rest.toList := fun v hv =>
      fresh (rest.map_fst_toList ▸ List.mem_map_of_mem hv)
    by_cases h : other = key
    · subst h
      simp [find?, toList, absent, eq_comm]
    · have hne : (key, value) ≠ (other, held) := fun e => h (congrArg Prod.fst e).symm
      simp [find?, toList, h, ih, hne]

end Entries

namespace OrderedMap

variable {κ : Type} {α : Type u}

/-- The map without entries. -/
def empty : OrderedMap κ α := ⟨[], .nil⟩

instance : Inhabited (OrderedMap κ α) := ⟨empty⟩

/-- The pairs, oldest key first. -/
def toList (map : OrderedMap κ α) : List (κ × α) := map.entries.toList

/-- The number of entries. -/
def size (map : OrderedMap κ α) : Nat := map.keys.length

/-- Whether the map has no entries. -/
def isEmpty (map : OrderedMap κ α) : Bool := map.keys.isEmpty

/-- The keys of a map are distinct. -/
theorem nodup_keys (map : OrderedMap κ α) : map.keys.Nodup := map.entries.nodup

/-- The pairs of a map carry its keys, in order. -/
@[simp] theorem keys_toList (map : OrderedMap κ α) : map.toList.map Prod.fst = map.keys :=
  map.entries.map_fst_toList

/-- Pairs a list without repeated keys into a map, from the end. -/
def pack : (pairs : List (κ × α)) → (pairs.map Prod.fst).Nodup →
    { map : OrderedMap κ α // map.toList = pairs }
  | [], _ => ⟨empty, rfl⟩
  | (key, value) :: rest, h =>
    match pack rest (List.nodup_cons.mp h).2 with
    | ⟨⟨keys, entries⟩, view⟩ =>
      have same : rest.map Prod.fst = keys := view ▸ entries.map_fst_toList
      ⟨⟨key :: keys, .cons key value entries (same ▸ (List.nodup_cons.mp h).1)⟩,
        congrArg ((key, value) :: ·) view⟩

/-- The map whose view is a given list. -/
def ofNodup (pairs : List (κ × α)) (h : (pairs.map Prod.fst).Nodup) : OrderedMap κ α :=
  (pack pairs h).val

/-- A map made of pairs with distinct keys has just these pairs. -/
@[simp] theorem toList_ofNodup (pairs : List (κ × α)) (h : (pairs.map Prod.fst).Nodup) :
    (ofNodup pairs h).toList = pairs :=
  (pack pairs h).property

variable [DecidableEq κ]

/-- The value under a key. -/
def get? (map : OrderedMap κ α) (key : κ) : Option α := map.entries.find? key

/-- The empty map holds nothing. -/
@[simp] theorem get?_empty (key : κ) : (empty : OrderedMap κ α).get? key = none := rfl

/-- Whether a key has a value. -/
def contains (map : OrderedMap κ α) (key : κ) : Bool := map.keys.contains key

/-- A map holds exactly the values that stand in a pair with the key. -/
theorem get?_eq_some_iff (map : OrderedMap κ α) (key : κ) (value : α) :
    map.get? key = some value ↔ (key, value) ∈ map.toList :=
  Entries.find?_eq_some_iff key value map.entries

/-- Replaces the value under a key in place, or appends the pair. -/
def insertPair (key : κ) (value : α) : List (κ × α) → List (κ × α)
  | [] => [(key, value)]
  | (other, held) :: rest =>
    if other = key then (other, value) :: rest else (other, held) :: insertPair key value rest

/-- Replacing keeps the keys, and appending adds one at the end. -/
theorem map_fst_insertPair (key : κ) (value : α) (pairs : List (κ × α)) :
    (insertPair key value pairs).map Prod.fst =
      if key ∈ pairs.map Prod.fst then pairs.map Prod.fst else pairs.map Prod.fst ++ [key] := by
  induction pairs with
  | nil => simp [insertPair]
  | cons pair rest ih =>
    obtain ⟨other, held⟩ := pair
    by_cases h : other = key
    · simp [insertPair, h]
    -- The key is looked for in the rest, and goes to its end if it is not there either.
    · have h' : ¬ key = other := fun e => h e.symm
      by_cases hm : key ∈ rest.map Prod.fst
      · simp only [insertPair, if_neg h, List.map_cons, ih, List.mem_cons, hm, or_true,
          if_true]
      · simp only [insertPair, if_neg h, List.map_cons, ih, List.mem_cons, h', hm,
          or_self, if_false, List.cons_append]

/-- Inserting a pair keeps the keys distinct: it replaces a pair with its key, and goes to the
end only when there is none. -/
theorem nodup_insertPair (key : κ) (value : α) (pairs : List (κ × α))
    (h : (pairs.map Prod.fst).Nodup) : ((insertPair key value pairs).map Prod.fst).Nodup := by
  rw [map_fst_insertPair]
  split
  · exact h
  · next hk => exact List.nodup_append.mpr ⟨h, by simp, fun a ha b hb => by
      rw [List.mem_singleton] at hb
      exact fun e => hk (hb ▸ e ▸ ha)⟩

/-- The map with a value under a key: in the key's old place, or at the end. -/
def insert (map : OrderedMap κ α) (key : κ) (value : α) : OrderedMap κ α :=
  ofNodup (insertPair key value map.toList)
    (nodup_insertPair key value map.toList (map.keys_toList ▸ map.nodup_keys))

/-- Inserts pairs from left to right. -/
def ofList (pairs : List (κ × α)) : OrderedMap κ α :=
  pairs.foldl (fun map pair => map.insert pair.1 pair.2) empty

/-- The pairs of a map after an insertion. -/
@[simp] theorem toList_insert (map : OrderedMap κ α) (key : κ) (value : α) :
    (map.insert key value).toList = insertPair key value map.toList :=
  toList_ofNodup _ _

/-- An insertion adds its key at the end, unless the map has it already. -/
theorem keys_insert (map : OrderedMap κ α) (key : κ) (value : α) :
    (map.insert key value).keys = if key ∈ map.keys then map.keys else map.keys ++ [key] := by
  rw [← keys_toList, toList_insert, map_fst_insertPair, keys_toList]

/-- An inserted pair is in the view, and the pairs under other keys are untouched. -/
theorem mem_insertPair (key : κ) (value : α) (pairs : List (κ × α))
    (h : (pairs.map Prod.fst).Nodup) (k : κ) (v : α) :
    (k, v) ∈ insertPair key value pairs ↔
      if k = key then v = value else (k, v) ∈ pairs := by
  induction pairs with
  | nil => by_cases hk : k = key <;> simp [insertPair, hk]
  | cons pair rest ih =>
    obtain ⟨other, held⟩ := pair
    obtain ⟨fresh, hrest⟩ := List.nodup_cons.mp h
    -- Keys are distinct, so the pair that is replaced is the only one with its key.
    have absent : ∀ w, (other, w) ∉ rest := fun w hw => fresh (List.mem_map.mpr ⟨_, hw, rfl⟩)
    by_cases ho : other = key
    · subst ho
      by_cases hk : k = other
      · subst hk
        simp [insertPair, absent]
      · simp [insertPair, hk]
    · by_cases hk : k = key
      · subst hk
        have hne : ¬ k = other := fun e => ho e.symm
        simpa [insertPair, ho, hne] using ih hrest
      · have hi := ih hrest
        simp only [if_neg hk] at hi
        simp [insertPair, ho, hk, hi]

/-- After an insertion a lookup finds the new value under its key, and what it found before
under every other. -/
theorem get?_insert (map : OrderedMap κ α) (key : κ) (value : α) (k : κ) :
    (map.insert key value).get? k = if k = key then some value else map.get? k := by
  have h : (map.toList.map Prod.fst).Nodup := map.keys_toList ▸ map.nodup_keys
  refine Option.ext fun v => ?_
  rw [get?_eq_some_iff, toList_insert, mem_insertPair key value map.toList h]
  by_cases hk : k = key
  · simp [hk, eq_comm]
  · simp [hk, get?_eq_some_iff]

end OrderedMap

/-! ## Sizes -/

/-- A value is smaller than the entries that hold it. -/
theorem Entries.sizeOf_lt_of_mem {κ α : Type} [SizeOf κ] [SizeOf α] {keys : List κ}
    (entries : Entries κ α keys) {pair : κ × α} (h : pair ∈ entries.toList) :
    sizeOf pair.2 < sizeOf entries := by
  induction entries with
  | nil => simp [toList] at h
  | cons key value rest fresh ih =>
    rcases List.mem_cons.mp h with rfl | h
    · simp only [cons.sizeOf_spec]; omega
    · have := ih h
      simp only [cons.sizeOf_spec]; omega

/-- A value is smaller than the map that holds it. -/
theorem OrderedMap.sizeOf_lt_of_mem {κ α : Type} [SizeOf κ] [SizeOf α] (map : OrderedMap κ α)
    {pair : κ × α} (h : pair ∈ map.toList) : sizeOf pair.2 < sizeOf map := by
  have := map.entries.sizeOf_lt_of_mem h
  cases map
  simp only [mk.sizeOf_spec] at *
  omega

end PropShape
