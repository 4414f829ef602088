import PropShape.Value.Basic

/-!
# `PropShape.Value.Path`: reading a dotted path

A path such as `a.b.c` names a field of a field of a field. `segments` cuts a
path at its dots and `Record.lookup?` follows the segments. A stored
undefined reads like a missing field, wherever it stands: at the end because
the answer is never undefined, and on the way because undefined has no fields.

`sizeOf_lt_of_lookup?` says that a path leads into a strict part of the
record, which is what lets validation recurse along paths.
-/

set_option autoImplicit false

namespace PropShape

namespace Path

/-- Cuts characters at the dots; there is always at least one segment. -/
def cut : List Char → List (List Char)
  | [] => [[]]
  | c :: rest =>
    if c = '.' then [] :: cut rest
    else match cut rest with
      | segment :: more => (c :: segment) :: more
      | [] => [[c]]

/-- The segments of a dotted path. -/
def segments (path : String) : List String := (cut path.toList).map String.ofList

/-- The path of a property of the value at a path. -/
def key (path key : String) : String := path ++ "." ++ key

/-- The path of an item of the array at a path. -/
def item (path : String) (index : Nat) : String := path ++ "[" ++ Nat.repr index ++ "]"

end Path

namespace Value

/-- Follows segments through nested records. -/
def descend? : Value → List String → Option Value
  | v, [] => some v
  | v, segment :: rest =>
    match v with
    | .object r =>
      match r.get? segment with
      | some next => next.descend? rest
      | none => none
    | _ => none

/-- What is found by descending is at most as large as the value. -/
theorem sizeOf_le_of_descend? {v w : Value} {path : List String} (h : v.descend? path = some w) :
    sizeOf w ≤ sizeOf v := by
  -- Every segment leads into a field, which is smaller than its record.
  induction path generalizing v with
  | nil => cases h; exact Nat.le_refl _
  | cons segment rest ih =>
    cases v with
    | object r =>
      simp only [descend?] at h
      split at h
      · next next hget =>
        have hlt := Record.sizeOf_lt_of_get? hget
        have hle := ih h
        simp only [object.sizeOf_spec]
        omega
      · cases h
    | _ => simp [descend?] at h

end Value

namespace Record

/-- The value that a record holds under a dotted path, if it is defined. -/
def lookup? (r : Record) (path : String) : Option Value :=
  match Path.cut path.toList with
  | [] => none
  | first :: rest =>
    match r.get? (String.ofList first) with
    | none => none
    | some value =>
      match value.descend? (rest.map String.ofList) with
      | some .undefined => none
      | found => found

/-- What is read from a record is smaller than the record. -/
theorem sizeOf_lt_of_lookup? {r : Record} {path : String} {value : Value}
    (h : r.lookup? path = some value) : sizeOf value < sizeOf r := by
  unfold lookup? at h
  split at h
  · cases h
  · split at h
    · cases h
    · next held hget =>
      split at h
      · cases h
      · exact Nat.lt_of_le_of_lt (Value.sizeOf_le_of_descend? h) (sizeOf_lt_of_get? hget)

end Record

end PropShape
