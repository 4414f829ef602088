import PropShape.Proofs.Object.Lookup

/-!
# `PropShape.Proofs.Value.Path`: reading along a path step by step

A path is cut at its dots, and a record is read along the segments. Putting
two paths together with a dot puts their segments together
(`Path.segments_append`), wherever there are dots already, so reading along
both is reading along the first one and then along the second one
(`Record.lookup?_append`).

`Record.Reaches` says which fields are passed on the way, one inside the other.
A path reads a value exactly if its segments reach it
(`Record.lookup?_eq_some_iff`). Undefined is filtered out at the end only; it
makes no difference on the way, because undefined has no fields.

No segment has a dot in it (`Path.undotted_of_mem_segments`). So a field with
a dot in its key is passed by no path, and what it holds is of no consequence
(`Record.lookup?_insert_of_dotted`).
-/

set_option autoImplicit false

namespace PropShape

namespace Path

variable {path key : String}

/-- Even an empty text has a segment. -/
theorem cut_ne_nil (chars : List Char) : cut chars ≠ [] := by
  cases chars with
  | nil => simp [cut]
  | cons c rest =>
    simp only [cut]
    split
    · simp
    · split <;> simp

/-- A character that is no dot goes to the first segment. -/
theorem exists_cut_cons {c : Char} (plain : c ≠ '.') (rest : List Char) :
    ∃ segment more, cut rest = segment :: more ∧ cut (c :: rest) = (c :: segment) :: more := by
  cases h : cut rest with
  | nil => exact absurd h (cut_ne_nil rest)
  | cons segment more => exact ⟨segment, more, rfl, by simp [cut, plain, h]⟩

/-- A dot ends a segment, whatever stands around it. -/
theorem cut_append (chars others : List Char) :
    cut (chars ++ '.' :: others) = cut chars ++ cut others := by
  induction chars with
  | nil => simp [cut]
  | cons c rest ih =>
    by_cases dot : c = '.'
    · simp [cut, dot, ih]
    · obtain ⟨segment, more, here, whole⟩ := exists_cut_cons dot rest
      obtain ⟨segment', more', here', whole'⟩ := exists_cut_cons dot (rest ++ '.' :: others)
      -- The first segment is the same, with and without what comes behind the dot.
      rw [ih, here, List.cons_append] at here'
      obtain ⟨rfl, rfl⟩ := List.cons_eq_cons.mp here'
      rw [List.cons_append, whole', whole, List.cons_append]

/-- A segment has no dot in it. -/
theorem notMem_of_mem_cut {chars segment : List Char} (h : segment ∈ cut chars) :
    '.' ∉ segment := by
  induction chars generalizing segment with
  | nil =>
    obtain rfl : segment = [] := by simpa [cut] using h
    exact List.not_mem_nil
  | cons c rest ih =>
    by_cases dot : c = '.'
    · rw [cut, if_pos dot] at h
      rcases List.mem_cons.mp h with rfl | h
      · exact List.not_mem_nil
      · exact ih h
    · -- Any other character goes in front of the first segment.
      obtain ⟨first, more, here, whole⟩ := exists_cut_cons dot rest
      rw [here] at ih
      rw [whole] at h
      rcases List.mem_cons.mp h with rfl | h
      · exact List.not_mem_cons_of_ne_of_not_mem (Ne.symm dot) (ih List.mem_cons_self)
      · exact ih (List.mem_cons_of_mem _ h)

/-- A path has a segment to start with, even the empty path. -/
theorem exists_segments (path : String) : ∃ first rest, segments path = first :: rest := by
  refine List.exists_cons_of_ne_nil fun none => cut_ne_nil path.toList ?_
  exact List.map_eq_nil_iff.mp none

/-- The segments of a joined path are those of its two parts. -/
theorem segments_append (first second : String) :
    segments (first ++ "." ++ second) = segments first ++ segments second := by
  have chars : (first ++ "." ++ second).toList = first.toList ++ '.' :: second.toList := by simp
  rw [segments, chars, cut_append, List.map_append]
  rfl

/-- Dots at the ends and dots in a row make empty segments. -/
example : segments (".a." ++ "." ++ "b") = ["", "a", "", "b"] := by decide

/-- Without a dot there is one segment, the text itself. -/
theorem segments_of_undotted (h : Undotted key) : segments key = [key] := by
  rw [segments, cut_of_undotted h]
  simp

/-- A segment is an undotted name. -/
theorem undotted_of_mem_segments (h : key ∈ segments path) : Undotted key := by
  obtain ⟨chars, mem, rfl⟩ := List.mem_map.mp h
  rw [Undotted, String.toList_ofList]
  exact notMem_of_mem_cut mem

end Path

namespace Value

/-- Descending along one path and then another is descending along both. -/
theorem descend?_append (value : Value) (keys others : List String) :
    value.descend? (keys ++ others) = (value.descend? keys).bind (·.descend? others) := by
  induction keys generalizing value with
  | nil => rfl
  | cons key rest ih =>
    cases value with
    | object record =>
      simp only [List.cons_append, descend?]
      cases record.get? key with
      | none => rfl
      | some next => exact ih next
    | _ => rfl

end Value

namespace Record

variable {record : Record} {path key : String} {value : Value} {keys : List String}

/-- Fields lead from a record to a value: one field, or a field that holds a record and the
fields on from there. -/
inductive Reaches : Record → List String → Value → Prop
  | field {record : Record} {key : String} {value : Value} (h : record.get? key = some value) :
    Reaches record [key] value
  | within {record inner : Record} {key : String} {keys : List String} {value : Value}
    (h : record.get? key = some (.object inner)) (rest : Reaches inner keys value) :
    Reaches record (key :: keys) value

/-- A descent is a way through fields. -/
theorem descend?_eq_some_iff :
    (Value.object record).descend? (key :: keys) = some value ↔
      record.Reaches (key :: keys) value := by
  induction keys generalizing record key with
  | nil =>
    constructor
    · intro h
      refine .field ?_
      simp only [Value.descend?] at h
      split at h
      · next held found => rw [found, ← h]
      · cases h
    · rintro (h | ⟨_, rest⟩)
      · simp [Value.descend?, h]
      · cases rest
  | cons next keys ih =>
    constructor
    · intro h
      simp only [Value.descend?] at h
      split at h
      · next held found =>
        -- Only a record has fields to go on with.
        cases held with
        | object inner => exact .within found (ih.mp h)
        | _ => cases h
      · cases h
    · rintro (_ | ⟨h, rest⟩)
      rw [Value.descend?, h]
      exact ih.mpr rest

/-- The value at the end of the segments is read, if it is defined. -/
theorem lookup?_eq_filter (record : Record) (path : String) :
    record.lookup? path =
      ((Value.object record).descend? (Path.segments path)).filter fun value =>
        !value.isUndefined := by
  unfold lookup? Path.segments
  cases cut : Path.cut path.toList with
  | nil => exact absurd cut (Path.cut_ne_nil _)
  | cons first rest =>
    simp only [List.map_cons, Value.descend?]
    -- Both sides descend along the same segments, and drop an undefined value at the end.
    cases record.get? (String.ofList first) with
    | none => rfl
    | some held =>
      dsimp only
      cases held.descend? (rest.map String.ofList) with
      | none => rfl
      | some value => cases value <;> rfl

/-- A path reads what its segments lead to. -/
theorem lookup?_eq_some_iff :
    record.lookup? path = some value ↔
      record.Reaches (Path.segments path) value ∧ value.isUndefined = false := by
  obtain ⟨key, keys, segments⟩ := Path.exists_segments path
  rw [lookup?_eq_filter, Option.filter_eq_some_iff, segments, descend?_eq_some_iff]
  simp

/-- What is read is defined. -/
theorem isUndefined_of_lookup? (h : record.lookup? path = some value) :
    value.isUndefined = false :=
  (lookup?_eq_some_iff.mp h).2

/-- Along two paths, the second one is read from the record that the first one reads. -/
theorem lookup?_append (record : Record) (first second : String) :
    record.lookup? (first ++ "." ++ second) =
      ((record.lookup? first).bind Value.asRecord?).bind (·.lookup? second) := by
  rw [lookup?_eq_filter, lookup?_eq_filter, Path.segments_append, Value.descend?_append]
  cases (Value.object record).descend? (Path.segments first) with
  | none => rfl
  | some held =>
    cases held with
    | object inner => exact (lookup?_eq_filter inner second).symm
    | _ =>
      -- There is a segment left, and nothing to read it from.
      obtain ⟨next, rest, segments⟩ := Path.exists_segments second
      rw [segments]
      rfl

/-- What a field with a dot in its key holds is not read along any path. -/
theorem lookup?_insert_of_dotted (dotted : ¬ Path.Undotted key) (value : Value) (path : String) :
    (record.insert key value).lookup? path = record.lookup? path := by
  have first : ∀ segment ∈ Path.segments path,
      (record.insert key value).get? segment = record.get? segment := by
    intro segment mem
    rw [get?_insert, if_neg]
    rintro rfl
    exact dotted (Path.undotted_of_mem_segments mem)
  obtain ⟨segment, rest, segments⟩ := Path.exists_segments path
  rw [lookup?_eq_filter, lookup?_eq_filter, segments, Value.descend?, Value.descend?,
    first segment (by simp [segments])]

/-- How paths are read. A path that goes on behind a dot is read in two steps: the way up to the
dot has to lead to a record, plain or an instance, and the rest is read from it. A path without
dots reads the field of that name, if it is there and defined. What is read is never undefined,
and is reached through fields that have no dot in their keys; a field with a dot in its key may
hold anything, and no path notices. -/
theorem reading_is_compositional (record : Record) :
    (∀ first second value, record.lookup? (first ++ "." ++ second) = some value ↔
      ∃ inner, record.lookup? first = some (.object inner) ∧ inner.lookup? second = some value) ∧
    (∀ name value, Path.Undotted name →
      (record.lookup? name = some value ↔
        record.get? name = some value ∧ value.isUndefined = false)) ∧
    (∀ path, record.lookup? path ≠ some .undefined) ∧
    (∀ path value, record.lookup? path = some value →
      record.Reaches (Path.segments path) value ∧
        ∀ key ∈ Path.segments path, Path.Undotted key) ∧
    ∀ key value path, ¬ Path.Undotted key →
      (record.insert key value).lookup? path = record.lookup? path := by
  refine ⟨fun first second value => ?_, fun name value undotted => ?_, fun path read => ?_,
    fun path value read => ?_, fun key value path dotted => ?_⟩
  · rw [lookup?_append, Option.bind_eq_some_iff]
    constructor
    · rintro ⟨inner, held, found⟩
      -- Only a record can be read on from.
      obtain ⟨value', read, isRecord⟩ := Option.bind_eq_some_iff.mp held
      cases value' with
      | object record =>
        cases isRecord
        exact ⟨inner, read, found⟩
      | _ => cases isRecord
    · rintro ⟨inner, read, found⟩
      exact ⟨inner, by rw [read]; rfl, found⟩
  · rw [lookup?_of_undotted undotted]
    exact defined?_eq_some_iff
  · cases isUndefined_of_lookup? read
  · exact ⟨(lookup?_eq_some_iff.mp read).1, fun key mem => Path.undotted_of_mem_segments mem⟩
  · exact lookup?_insert_of_dotted dotted value path

end Record

end PropShape
