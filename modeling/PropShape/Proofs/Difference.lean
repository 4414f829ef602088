import PropShape.Proofs.Agreement
import PropShape.Number.Basic
import Mathlib.Data.List.Nodup

/-!
# `PropShape.Proofs.Difference`: what a difference says about two maps

The difference of two maps lists names under three headings. A name is listed
under one of them exactly for a reason of its own (`mem_differentNames_iff`,
`mem_namesWithout_iff`), and the three reasons exclude each other
(`nodup_names`). The only names that are not listed are those with equal things
under them on both sides (`mem_names_iff`).

`difference_is_complete` puts this together with the order of the names and
with the messages, of which there are none exactly if the maps are equal. None
of it asks that a thing be equal to itself, which a default of NaN is not.
-/

set_option autoImplicit false

namespace PropShape

universe u

/-- Equality of maps, for an equality of what is under a key: there are equally many keys, and
under every key of the first map the second one holds an equal thing. -/
def OrderedMap.Equal {α : Type u} (equal : α → α → Bool) (map other : OrderedMap String α) : Prop :=
  map.size = other.size ∧
    ∀ pair ∈ map.toList, ∃ held, other.get? pair.1 = some held ∧ equal pair.2 held = true

namespace Difference

variable {α : Type u} {equal : α → α → Bool} {declared expected map other : OrderedMap String α}
  {name : String}

/-- Both maps have the name, with equal things under it. -/
def Settles (equal : α → α → Bool) (declared expected : OrderedMap String α) (name : String) :
    Prop :=
  ∃ found wanted, declared.get? name = some found ∧ expected.get? name = some wanted ∧
    equal found wanted = true

/-! ## Why a name is listed -/

/-- The names listed as different are those that both maps hold with unequal values. -/
theorem mem_differentNames_iff :
    name ∈ differentNames equal declared expected ↔
      ∃ found wanted, declared.get? name = some found ∧ expected.get? name = some wanted ∧
        equal found wanted = false := by
  simp only [differentNames, List.mem_map, List.mem_filter]
  constructor
  · rintro ⟨⟨_, wanted⟩, ⟨mem, differs⟩, rfl⟩
    have hwanted := (OrderedMap.get?_eq_some_iff _ _ _).mpr mem
    -- A name counts as different only if it is declared at all.
    split at differs
    · next found hfound => exact ⟨found, wanted, hfound, hwanted, by simpa using differs⟩
    · cases differs
  · rintro ⟨found, wanted, hfound, hwanted, differs⟩
    refine ⟨(name, wanted), ⟨(OrderedMap.get?_eq_some_iff _ _ _).mp hwanted, ?_⟩, rfl⟩
    simp [hfound, differs]

/-- The names listed as missing are the keys of one map that the other does not have. -/
theorem mem_namesWithout_iff :
    name ∈ namesWithout map other ↔ name ∈ map.keys ∧ name ∉ other.keys := by
  simp [namesWithout, OrderedMap.contains]

/-! ## The order of the names -/

/-- The names listed as different stand in the order of the expected map. -/
theorem sublist_differentNames :
    (differentNames equal declared expected).Sublist expected.keys := by
  rw [← OrderedMap.keys_toList]
  exact List.filter_sublist.map Prod.fst

/-- The names listed as missing stand in the order of their own map. -/
theorem sublist_namesWithout : (namesWithout map other).Sublist map.keys :=
  List.filter_sublist

/-! ## All names -/

/-- All names that are listed. -/
def names (d : Difference) : List String := d.different ++ d.missing ++ d.unexpected

/-- No name is listed twice, be it under one heading or under two. -/
theorem nodup_names : (between equal declared expected).names.Nodup := by
  have different : (differentNames equal declared expected).Nodup :=
    sublist_differentNames.nodup expected.nodup_keys
  have missing : (namesWithout expected declared).Nodup :=
    sublist_namesWithout.nodup expected.nodup_keys
  have unexpected : (namesWithout declared expected).Nodup :=
    sublist_namesWithout.nodup declared.nodup_keys
  -- What is different is on both sides, and the rest only on one.
  have both : ∀ name ∈ differentNames equal declared expected,
      name ∈ declared.keys ∧ name ∈ expected.keys := by
    intro name mem
    obtain ⟨found, wanted, hfound, hwanted, -⟩ := mem_differentNames_iff.mp mem
    exact ⟨OrderedMap.mem_keys_iff.mpr ⟨found, hfound⟩,
      OrderedMap.mem_keys_iff.mpr ⟨wanted, hwanted⟩⟩
  refine List.nodup_append'.mpr ⟨List.nodup_append'.mpr ⟨different, missing, ?_⟩, unexpected, ?_⟩
  · intro name mem absent
    exact (mem_namesWithout_iff.mp absent).2 (both name mem).1
  · intro name mem absent
    obtain ⟨present, lacking⟩ := mem_namesWithout_iff.mp absent
    rcases List.mem_append.mp mem with mem | mem
    · exact lacking (both name mem).2
    · exact (mem_namesWithout_iff.mp mem).2 present

/-- A name of either map is listed unless it has equal things under it. -/
theorem mem_names_iff :
    name ∈ (between equal declared expected).names ↔
      (name ∈ declared.keys ∨ name ∈ expected.keys) ∧ ¬ Settles equal declared expected name := by
  simp only [names, between, List.mem_append, mem_differentNames_iff, mem_namesWithout_iff, Settles,
    OrderedMap.mem_keys_iff]
  cases declared.get? name with
  | none => cases expected.get? name <;> simp
  | some found =>
    cases expected.get? name with
    | none => simp
    | some wanted => cases equal found wanted <;> simp

/-! ## Messages -/

/-- Nothing is said exactly about maps that are equal. -/
theorem messages_eq_nil_iff_equal :
    (between equal declared expected).messages = [] ↔ declared.Equal equal expected :=
  messages_eq_nil_iff.trans OrderedMap.agree_iff

/-- A difference is a failure exactly if it has something to say. -/
theorem failure?_eq_none_iff {d : Difference} : d.failure? = none ↔ d.messages = [] := by
  simp [failure?]

/-- Each of the three lists that is not empty has a line. -/
theorem messages_eq (d : Difference) :
    d.messages =
      ([("The following propTypes are different than expected", d.different),
        ("The following propTypes were not found but are expected", d.missing),
        ("The following propTypes were found but not expected in the test", d.unexpected)].filter
          fun line => !line.2.isEmpty).map
        fun line => line.1 ++ ": " ++ String.intercalate ", " line.2 := by
  obtain ⟨different, missing, unexpected⟩ := d
  cases different <;> cases missing <;> cases unexpected <;> rfl

/-- The difference of two maps is complete, and means that they are not equal. No name is listed
twice, under one heading or under two. Every name of either map is listed, or has equal things
under it on both sides, and never both. Different and missing names stand in the order of the
expected map, unexpected ones in that of the declared map. There is no message, and an assertion
does not fail, exactly if the maps are equal; otherwise there is a line for each list that is not
empty. -/
theorem difference_is_complete (equal : α → α → Bool) (declared expected : OrderedMap String α) :
    let d := between equal declared expected
    (d.different ++ d.missing ++ d.unexpected).Nodup ∧
      (∀ name, name ∈ declared.keys ∨ name ∈ expected.keys →
        Xor (name ∈ d.different ∨ name ∈ d.missing ∨ name ∈ d.unexpected)
          (Settles equal declared expected name)) ∧
      (d.different.Sublist expected.keys ∧ d.missing.Sublist expected.keys ∧
        d.unexpected.Sublist declared.keys) ∧
      (d.messages = [] ↔ declared.Equal equal expected) ∧
      (d.failure? = none ↔ declared.Equal equal expected) ∧
      d.messages =
        ([("The following propTypes are different than expected", d.different),
          ("The following propTypes were not found but are expected", d.missing),
          ("The following propTypes were found but not expected in the test", d.unexpected)].filter
            fun line => !line.2.isEmpty).map
          fun line => line.1 ++ ": " ++ String.intercalate ", " line.2 := by
  intro d
  refine ⟨nodup_names, fun name known => ?_,
    ⟨sublist_differentNames, sublist_namesWithout, sublist_namesWithout⟩,
    messages_eq_nil_iff_equal, failure?_eq_none_iff.trans messages_eq_nil_iff_equal, messages_eq d⟩
  -- A known name is in one of the lists unless it is settled, and the lists are apart.
  have listed : name ∈ d.different ∨ name ∈ d.missing ∨ name ∈ d.unexpected ↔
      ¬ Settles equal declared expected name := by
    rw [← or_assoc, ← List.mem_append, ← List.mem_append]
    exact mem_names_iff.trans (and_iff_right known)
  by_cases settled : Settles equal declared expected name
  · exact .inr ⟨settled, fun mem => listed.mp mem settled⟩
  · exact .inl ⟨listed.mpr settled, settled⟩

/-- A NaN differs from itself, so a map that holds one is not equal to itself. -/
example :
    let defaults : OrderedMap String Number := .ofList [("size", .zero), ("scale", .nan)]
    (between Number.equals defaults defaults).messages =
      ["The following propTypes are different than expected: scale"] := by
  decide +kernel

end Difference

end PropShape
