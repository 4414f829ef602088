import PropShape.Validation.Validator

/-!
# `PropShape.Proofs.Object.Lookup`: names without dots

Fields are read along dotted paths. A path without a dot has a single
segment, so it reads the field of that name, and nothing but this field
matters:

* `Record.lookup?_of_undotted`: what is read is the field, if it is defined;
* `Record.lookup?_insert_self`, `Record.lookup?_insert_of_ne`: after an
  insertion, the new value is read under its name and every other name reads
  as before;
* `Record.get?_insertAll_of_mem`, `Record.get?_insertAll_of_notMem`: the same
  for the insertion of several fields with different names;
* `Record.readProperty_none`, `Record.readProperty_some`: how a declared
  property is read, without and with a spread property. What the object has
  itself comes first (`Record.readProperty_of_lookup?`).
-/

set_option autoImplicit false

namespace PropShape

namespace Path

/-- A name that is a path of a single segment. -/
def Undotted (name : String) : Prop := '.' ∉ name.toList

instance (name : String) : Decidable (Undotted name) :=
  inferInstanceAs (Decidable ('.' ∉ name.toList))

/-- Without a dot there is one segment. -/
theorem cut_of_undotted {chars : List Char} (h : '.' ∉ chars) : cut chars = [chars] := by
  induction chars with
  | nil => rfl
  | cons c rest ih =>
    obtain ⟨first, others⟩ := List.ne_and_not_mem_of_not_mem_cons h
    rw [cut, if_neg (Ne.symm first), ih others]

end Path

namespace Record

variable {record object : Record} {name other : String} {value : Value}
  {pairs : List (String × Value)}

/-- The field under a name, unless it is undefined. -/
def defined? (record : Record) (name : String) : Option Value :=
  (record.get? name).filter fun value => !value.isUndefined

/-- A field counts as defined if it is there and does not hold an undefined value. -/
theorem defined?_eq_some_iff :
    record.defined? name = some value ↔
      record.get? name = some value ∧ value.isUndefined = false := by
  simp [defined?, Option.filter_eq_some_iff]

/-- Whether a field is defined depends on what it holds only. -/
theorem defined?_congr {record' : Record} (h : record.get? name = record'.get? name) :
    record.defined? name = record'.defined? name := by
  rw [defined?, defined?, h]

/-- Under a name without dots, the field is read that has this name. -/
theorem lookup?_of_undotted (h : Path.Undotted name) :
    record.lookup? name = record.defined? name := by
  unfold lookup? defined?
  rw [Path.cut_of_undotted h]
  simp only [List.map_nil, Value.descend?, String.ofList_toList]
  cases record.get? name with
  | none => rfl
  | some value => cases value <;> rfl

/-! ## Insertion -/

/-- After an insertion the record has the new value under its name, and what it had under every
other. -/
theorem get?_insert (record : Record) (name : String) (value : Value) (other : String) :
    (record.insert name value).get? other =
      if other = name then some value else record.get? other :=
  record.fields.get?_insert name value other

/-- An inserted value is read under its name, unless it is undefined. -/
theorem lookup?_insert_self (h : Path.Undotted name) :
    (record.insert name value).lookup? name = if value.isUndefined then none else some value := by
  rw [lookup?_of_undotted h, defined?, get?_insert, if_pos rfl]
  cases value <;> rfl

/-- A name without dots reads nothing of a field with another name. -/
theorem lookup?_insert_of_ne (h : Path.Undotted other) (ne : other ≠ name) :
    (record.insert name value).lookup? other = record.lookup? other := by
  rw [lookup?_of_undotted h, lookup?_of_undotted h]
  exact defined?_congr (by rw [get?_insert, if_neg ne])

/-- The record with several fields inserted, from left to right. -/
def insertAll (record : Record) (pairs : List (String × Value)) : Record :=
  pairs.foldl (fun record pair => record.insert pair.1 pair.2) record

/-- A name that is not among those inserted keeps its value. -/
theorem get?_insertAll_of_notMem (h : name ∉ pairs.map Prod.fst) :
    (record.insertAll pairs).get? name = record.get? name := by
  induction pairs generalizing record with
  | nil => rfl
  | cons pair rest ih =>
    obtain ⟨first, others⟩ := List.ne_and_not_mem_of_not_mem_cons h
    show ((record.insert pair.1 pair.2).insertAll rest).get? name = _
    rw [ih others, get?_insert, if_neg first]

/-- Of fields with different names, none is replaced by a later one. -/
theorem get?_insertAll_of_mem (distinct : (pairs.map Prod.fst).Nodup)
    (h : (name, value) ∈ pairs) : (record.insertAll pairs).get? name = some value := by
  induction pairs generalizing record with
  | nil => cases h
  | cons pair rest ih =>
    obtain ⟨fresh, distinct⟩ := List.nodup_cons.mp distinct
    show ((record.insert pair.1 pair.2).insertAll rest).get? name = _
    rcases List.mem_cons.mp h with rfl | h
    · rw [get?_insertAll_of_notMem fresh, get?_insert, if_pos rfl]
    · exact ih distinct h

/-! ## Declared properties -/

/-- The record that an object holds as its spread property, plain or an instance. -/
def options? (object : Record) (spread : String) : Option Record :=
  (object.get? spread).bind Value.asRecord?

/-- What the object has itself is read from it, with or without a spread property. -/
theorem readProperty_of_lookup? (h : object.lookup? name = some value) (spread : Option String) :
    object.readProperty spread name = value := by
  unfold readProperty
  rw [h]

/-- Without a spread property a declared property is read as a path. -/
theorem readProperty_none (object : Record) (name : String) :
    object.readProperty none name = (object.lookup? name).getD .undefined := by
  unfold readProperty
  cases object.lookup? name <;> rfl

/-- With one, the options answer for what the object does not. -/
theorem readProperty_some (object : Record) (spread name : String) :
    object.readProperty (some spread) name =
      ((object.lookup? name).or ((object.options? spread).bind (·.lookup? name))).getD
        .undefined := by
  unfold readProperty options?
  cases object.lookup? name with
  | some value => rfl
  | none =>
    dsimp only
    cases (object.get? spread).bind Value.asRecord? <;> rfl

end Record

end PropShape
