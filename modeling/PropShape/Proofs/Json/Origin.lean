import PropShape.TextFormat
import PropShape.Proofs.Json.Image
import Mathlib.Data.List.MinMax
import Mathlib.Order.Nat

/-!
# `PropShape.Proofs.Json.Origin`: what is read from JSON

Every value that is read from JSON text is one that JSON has
(`Value.jsonWithin_of_parse`): it is made of null, switches, texts, finite
numbers, arrays and plain records, and is nested no deeper than the reader
goes. So it is its own image (`Value.JsonWithin.image_eq`).

The proof goes along the reader, which calls itself with less fuel. What a
document yields is all that is kept of it.
-/

set_option autoImplicit false

namespace PropShape

/-! ## Values that are read from JSON -/

namespace Value

variable {v : Value} {depth : Nat}

/-- A value such as JSON has, with so many levels of nesting at most. -/
inductive JsonWithin : Nat → Value → Prop
  | null {depth : Nat} : JsonWithin depth .null
  | bool {depth : Nat} (b : Bool) : JsonWithin depth (.bool b)
  | number {depth : Nat} {n : Number} (finite : n.isFinite = true) : JsonWithin depth (.number n)
  | string {depth : Nat} (s : String) : JsonWithin depth (.string s)
  | array {depth : Nat} {items : List Value} (h : ∀ item ∈ items, JsonWithin depth item) :
    JsonWithin (depth + 1) (.array items)
  | object {depth : Nat} {fields : OrderedMap String Value}
    (h : ∀ pair ∈ fields.toList, JsonWithin depth pair.2) :
    JsonWithin (depth + 1) (.object ⟨none, fields⟩)

namespace JsonWithin

/-- A value that comes from JSON has a JSON form. -/
theorem isRenderable (h : v.JsonWithin depth) : v.isRenderable = true := by
  cases h <;> rfl

/-- A value that comes from JSON is nested within the bound. -/
theorem nesting_le (h : v.JsonWithin depth) : v.nesting ≤ depth := by
  induction h with
  | null | bool | number | string => exact Nat.zero_le _
  | array h ih =>
    rw [nesting_array]
    exact Nat.succ_le_succ (List.max_le_of_forall_le _ _ (List.forall_mem_map.mpr ih))
  | object h ih =>
    rw [nesting_object]
    exact Nat.succ_le_succ (List.max_le_of_forall_le _ _ (List.forall_mem_map.mpr ih))

/-- JSON holds all of it. -/
theorem image_eq (h : v.JsonWithin depth) : v.image = v := by
  induction h with
  | null | bool | string => rfl
  | number finite => rw [image, if_pos finite]
  | array h ih => rw [image_array, List.map_congr_left ih, List.map_id']
  | @object _ fields h ih =>
    -- No field is dropped, since JSON has a form for each of them.
    have all : Record.rendered ⟨none, fields⟩ = fields.toList :=
      List.filter_eq_self.mpr fun pair mem => (h pair mem).isRenderable
    have same : fields.toList.map (fun pair => (pair.1, pair.2.image)) = fields.toList := by
      refine (List.map_congr_left fun pair mem => ?_).trans (List.map_id' _)
      rw [ih pair mem]
    rw [image_object, all, same, ofFields, OrderedMap.ofList_toList]

end JsonWithin

end Value

/-- A document stands for nothing but a value such as JSON has. -/
def Document.Yields (depth : Nat) (d : Document) : Prop :=
  ∀ v, d.value? = some v → v.JsonWithin depth

namespace Document

variable {depth : Nat}

/-- Each value that is read comes from one of the documents. -/
theorem exists_of_mem_values? {items : List Document} {values : List Value}
    (h : values? items = some values) :
    ∀ v ∈ values, ∃ d ∈ items, d.value? = some v := by
  -- Along the reader, which takes the first document and then the rest.
  induction items generalizing values with
  | nil =>
    cases h
    nofun
  | cons d items ih =>
    rw [values?] at h
    split at h
    · next first rest hfirst hrest =>
      cases h
      refine List.forall_mem_cons.mpr ⟨⟨d, List.mem_cons_self, hfirst⟩, fun v mem => ?_⟩
      obtain ⟨other, listed, read⟩ := ih hrest v mem
      exact ⟨other, List.mem_cons_of_mem _ listed, read⟩
    · cases h

/-- Each field that is read comes from one of the entries. -/
theorem exists_of_mem_fields? {pairs : List (String × Document)} {fields : List (String × Value)}
    (h : fields? pairs = some fields) :
    ∀ field ∈ fields, ∃ pair ∈ pairs, pair.2.value? = some field.2 := by
  induction pairs generalizing fields with
  | nil =>
    cases h
    nofun
  | cons pair pairs ih =>
    rw [fields?] at h
    split at h
    · next first rest hfirst hrest =>
      cases h
      refine List.forall_mem_cons.mpr ⟨⟨pair, List.mem_cons_self, hfirst⟩, fun field mem => ?_⟩
      obtain ⟨other, listed, read⟩ := ih hrest field mem
      exact ⟨other, List.mem_cons_of_mem _ listed, read⟩
    · cases h

/-- A list yields values one level deeper than its items do. -/
theorem yields_list {items : List Document} (h : ∀ item ∈ items, item.Yields depth) :
    (Document.list false items).Yields (depth + 1) := by
  intro v read
  obtain ⟨values, hvalues, rfl⟩ := Option.map_eq_some_iff.mp read
  refine .array fun item mem => ?_
  obtain ⟨d, listed, hitem⟩ := exists_of_mem_values? hvalues item mem
  exact h d listed item hitem

/-- A mapping yields values one level deeper than its entries do. -/
theorem yields_mapping {pairs : List (String × Document)}
    (h : ∀ pair ∈ pairs, pair.2.Yields depth) :
    (Document.mapping false pairs).Yields (depth + 1) := by
  intro v read
  obtain ⟨fields, hfields, rfl⟩ := Option.map_eq_some_iff.mp read
  refine .object fun field mem => ?_
  obtain ⟨pair, listed, hfield⟩ :=
    exists_of_mem_fields? hfields field (OrderedMap.mem_of_mem_ofList mem)
  exact h pair listed field.2 hfield

end Document

namespace Json

open Document (yields_list yields_mapping)

mutual

/-- What is read stands for a value such as JSON has, nested as deep as the reader went. -/
theorem yields_of_readValue? {fuel depth : Nat} {cs rest : List Char} {d : Document}
    (h : readValue? fuel depth cs = some (d, rest)) : d.Yields depth := by
  cases fuel with
  | zero => cases h
  | succ fuel =>
    rw [readValue?] at h
    -- The cases are those of the reader: three words, a string, an array, an object, a number.
    split at h
    · cases h
      rintro v ⟨⟩
      exact .null
    · cases h
      rintro v ⟨⟩
      exact .bool true
    · cases h
      rintro v ⟨⟩
      exact .bool false
    · obtain ⟨⟨s, behind⟩, -, heq⟩ := Option.map_eq_some_iff.mp h
      cases heq
      rintro v ⟨⟩
      exact .string _
    -- An array or object is read one level less deep.
    · cases depth with
      | zero => cases h
      | succ depth =>
        dsimp only at h
        split at h
        · cases h
          exact yields_list (List.forall_mem_nil _)
        · obtain ⟨⟨items, behind⟩, read, heq⟩ := Option.map_eq_some_iff.mp h
          cases heq
          exact yields_list (yields_of_readItems? read)
    · cases depth with
      | zero => cases h
      | succ depth =>
        dsimp only at h
        split at h
        · cases h
          exact yields_mapping (List.forall_mem_nil _)
        · obtain ⟨⟨pairs, behind⟩, read, heq⟩ := Option.map_eq_some_iff.mp h
          cases heq
          exact yields_mapping (yields_of_readPairs? read)
    · split at h
      · cases h
      · next parts behind scanned =>
        obtain ⟨n, number, heq⟩ := Option.map_eq_some_iff.mp h
        cases heq
        rintro v ⟨⟩
        exact .number (isFinite_of_number? number)
termination_by fuel

/-- Likewise for the items of an array. -/
theorem yields_of_readItems? {fuel depth : Nat} {cs rest : List Char} {items : List Document}
    (h : readItems? fuel depth cs = some (items, rest)) : ∀ item ∈ items, item.Yields depth := by
  cases fuel with
  | zero => cases h
  | succ fuel =>
    rw [readItems?] at h
    split at h
    · cases h
    · next item behind first =>
      split at h
      · cases h
        exact List.forall_mem_singleton.mpr (yields_of_readValue? first)
      · obtain ⟨⟨others, after⟩, read, heq⟩ := Option.map_eq_some_iff.mp h
        cases heq
        exact List.forall_mem_cons.mpr ⟨yields_of_readValue? first, yields_of_readItems? read⟩
      · cases h
termination_by fuel

/-- Likewise for the pairs of an object. -/
theorem yields_of_readPairs? {fuel depth : Nat} {cs rest : List Char}
    {pairs : List (String × Document)} (h : readPairs? fuel depth cs = some (pairs, rest)) :
    ∀ pair ∈ pairs, pair.2.Yields depth := by
  cases fuel with
  | zero => cases h
  | succ fuel =>
    rw [readPairs?] at h
    -- Nothing is answered unless a key, a colon, a value and a mark have been met in turn.
    split at h
    · split at h
      · cases h
      · next key behind named =>
        split at h
        · split at h
          · cases h
          · next d after first =>
            split at h
            · cases h
              exact List.forall_mem_singleton.mpr (yields_of_readValue? first)
            · obtain ⟨⟨others, after⟩, read, heq⟩ := Option.map_eq_some_iff.mp h
              cases heq
              exact List.forall_mem_cons.mpr ⟨yields_of_readValue? first, yields_of_readPairs? read⟩
            · cases h
        · cases h
    · cases h
termination_by fuel

end

end Json

namespace Value

variable {v : Value}

/-- A text of JSON stands for a value such as JSON has. -/
theorem jsonWithin_of_parse {text : String} (h : Value.parse .json text = .ok v) :
    v.JsonWithin Json.maxNesting := by
  rw [Value.parse, TextFormat.parse, TextFormat.read?] at h
  cases read : Json.read? text with
  | none =>
    rw [read] at h
    cases h
  | some d =>
    rw [read] at h
    -- The whole text is read from the outermost level on.
    have yields : d.Yields Json.maxNesting := by
      rw [Json.read?] at read
      split at read
      · cases read
      · next first behind hvalue =>
        split at read
        · cases read
          exact Json.yields_of_readValue? hvalue
        · cases read
    refine yields v ?_
    simp only [Option.map_some] at h
    split at h
    · next w hw =>
      cases h
      exact hw
    · cases h

end Value

end PropShape
