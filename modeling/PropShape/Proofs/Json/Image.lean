import PropShape.Json.Rendering
import PropShape.Proofs.Json.Decoding
import PropShape.Proofs.Json.Reading
import PropShape.Proofs.Lists

/-!
# `PropShape.Proofs.Json.Image`: what JSON holds of a value

`Value.image` is what is left of a value in JSON: what JSON has no form for is
null inside arrays and is dropped from records, and the rest is a value that
JSON can write. `Value.document` is the document that the rendering of a value
says. It differs from a document of the image in nothing but the sign of zero,
which is not rendered.

* `nesting_document`: the document is nested like the image. That may be one
  level deeper than the value, because an element has an empty record as its
  image.
* `value?_document`: the document is read as a value that is equal to the image
  and has the fields of every record in the same order (`Value.keyOrders`).
-/

set_option autoImplicit false

namespace PropShape

open Json (nullScalar boolScalar numberScalar stringScalar)

namespace Value

mutual

/-- What JSON holds of a value. -/
def image : Value → Value
  | .undefined => .null
  | .null => .null
  | .symbol _ => .null
  | .function _ => .null
  | .bool b => .bool b
  | .number n => if n.isFinite then .number n else .null
  | .string s => .string s
  | .date d => .string d.text
  | .element _ => .object .plain
  | .array items => .array (itemImages items)
  | .object ⟨_, ⟨_, fields⟩⟩ => .ofFields (fieldImages fields)

/-- The images of the items of an array. -/
def itemImages : List Value → List Value
  | [] => []
  | item :: rest => image item :: itemImages rest

/-- The images of the fields that have a JSON form. -/
def fieldImages {keys : List String} : Entries String Value keys → List (String × Value)
  | .nil => []
  | .cons key value rest _ =>
    if value.isRenderable then (key, image value) :: fieldImages rest else fieldImages rest

end

mutual

/-- What the rendering of a value says. -/
def document : Value → Document
  | .undefined => nullScalar
  | .null => nullScalar
  | .symbol _ => nullScalar
  | .function _ => nullScalar
  | .bool b => boolScalar b
  -- An integer is written without the sign of a zero.
  | .number n => if n.isFinite then numberScalar (if n.isZero then .zero else n) else nullScalar
  | .string s => stringScalar s
  | .date d => stringScalar d.text
  | .element _ => .mapping false []
  | .array items => .list false (itemDocuments items)
  | .object ⟨_, ⟨_, fields⟩⟩ => .mapping false (fieldDocuments fields)

/-- The documents of the items of an array. -/
def itemDocuments : List Value → List Document
  | [] => []
  | item :: rest => document item :: itemDocuments rest

/-- The documents of the fields that have a JSON form. -/
def fieldDocuments {keys : List String} : Entries String Value keys → List (String × Document)
  | .nil => []
  | .cons key value rest _ =>
    if value.isRenderable then (key, document value) :: fieldDocuments rest
    else fieldDocuments rest

end

mutual

/-- The keys of the records in a value in their order, those of a record in front of those of the
records inside it. Equal values have the same if and only if their fields are in the same order
everywhere. -/
def keyOrders : Value → List (List String)
  | .array items => itemKeyOrders items
  | .object ⟨_, ⟨keys, fields⟩⟩ => keys :: fieldKeyOrders fields
  | _ => []

/-- The keys inside the items of an array. -/
def itemKeyOrders : List Value → List (List String)
  | [] => []
  | item :: rest => keyOrders item ++ itemKeyOrders rest

/-- The keys inside the fields of a record. -/
def fieldKeyOrders {keys : List String} : Entries String Value keys → List (List String)
  | .nil => []
  | .cons _ value rest _ => keyOrders value ++ fieldKeyOrders rest

end

end Value

/-- The fields of a record that have a JSON form, in order. -/
def Record.rendered (record : Record) : List (String × Value) :=
  record.fields.toList.filter fun pair => pair.2.isRenderable

/-! ## Arrays and records as lists -/

/-- A list is nested one level deeper than the deepest of its items. -/
theorem Document.nesting_list (tagged : Bool) (items : List Document) :
    (Document.list tagged items).nesting = (items.map nesting).foldr max 0 + 1 := by
  rw [nesting, eq_foldr_max_of_cons nestingOfItems rfl fun _ _ => rfl]

/-- A mapping is nested one level deeper than the deepest of its entries. -/
theorem Document.nesting_mapping (tagged : Bool) (pairs : List (String × Document)) :
    (Document.mapping tagged pairs).nesting =
      (pairs.map fun pair => pair.2.nesting).foldr max 0 + 1 := by
  rw [nesting, eq_foldr_max_of_cons nestingOfPairs rfl fun _ _ => rfl]

namespace Value

/-- An array is nested one level deeper than the deepest of its items. -/
theorem nesting_array (items : List Value) :
    (Value.array items).nesting = (items.map nesting).foldr max 0 + 1 := by
  rw [nesting, eq_foldr_max_of_cons itemsNesting rfl fun _ _ => rfl, Nat.add_comm]

/-- A record is nested one level deeper than the deepest of its fields. -/
theorem nesting_object (record : Record) :
    (Value.object record).nesting =
      (record.fields.toList.map fun pair => pair.2.nesting).foldr max 0 + 1 := by
  obtain ⟨className, ⟨keys, fields⟩⟩ := record
  -- The entries carry their keys in their type, so the induction is on the entries and not on
  -- the list of their pairs.
  have deepest : fieldsNesting fields =
      (fields.toList.map fun pair => pair.2.nesting).foldr max 0 := by
    induction fields with
    | nil => rfl
    | cons key value rest fresh ih =>
      rw [fieldsNesting, ih, Entries.toList, List.map_cons, List.foldr_cons]
  rw [nesting, deepest, Nat.add_comm]
  rfl

/-- An array has the keys inside its items. -/
theorem keyOrders_array (items : List Value) :
    (Value.array items).keyOrders = items.flatMap keyOrders := by
  have orders : itemKeyOrders items = items.flatMap keyOrders := by
    induction items with
    | nil => rfl
    | cons item rest ih => rw [itemKeyOrders, ih, List.flatMap_cons]
  rw [keyOrders, orders]

/-- A record has its own keys, and then those inside its fields. -/
theorem keyOrders_object (record : Record) :
    (Value.object record).keyOrders =
      record.fields.keys :: record.fields.toList.flatMap fun pair => pair.2.keyOrders := by
  obtain ⟨className, ⟨keys, fields⟩⟩ := record
  have orders : fieldKeyOrders fields = fields.toList.flatMap fun pair => pair.2.keyOrders := by
    induction fields with
    | nil => rfl
    | cons key value rest fresh ih =>
      rw [fieldKeyOrders, ih, Entries.toList, List.flatMap_cons]
  rw [keyOrders, orders]
  rfl

/-- The image of an array has the images of the items. -/
theorem image_array (items : List Value) :
    (Value.array items).image = .array (items.map image) := by
  rw [image, eq_map_of_cons itemImages rfl fun _ _ => rfl]

/-- The image of a record has the images of the fields with a JSON form, and no class name. -/
theorem image_object (record : Record) :
    (Value.object record).image =
      ofFields (record.rendered.map fun pair => (pair.1, pair.2.image)) := by
  obtain ⟨className, ⟨keys, fields⟩⟩ := record
  have images : fieldImages fields =
      (fields.toList.filter fun pair => pair.2.isRenderable).map fun pair =>
        (pair.1, pair.2.image) :=
    Entries.eq_map_filter fieldImages rfl (fun _ _ _ _ => rfl) fields
  rw [image, images]
  rfl

/-- The document of an array lists the documents of the items. -/
theorem document_array (items : List Value) :
    (Value.array items).document = .list false (items.map document) := by
  rw [document, eq_map_of_cons itemDocuments rfl fun _ _ => rfl]

/-- The document of a record maps the fields with a JSON form to their documents. -/
theorem document_object (record : Record) :
    (Value.object record).document =
      .mapping false (record.rendered.map fun pair => (pair.1, pair.2.document)) := by
  obtain ⟨className, ⟨keys, fields⟩⟩ := record
  have documents : fieldDocuments fields =
      (fields.toList.filter fun pair => pair.2.isRenderable).map fun pair =>
        (pair.1, pair.2.document) :=
    Entries.eq_map_filter fieldDocuments rfl (fun _ _ _ _ => rfl) fields
  rw [document, documents]
  rfl

/-- Induction over values: a property that passes from the parts of a value to the value holds of
every value. -/
theorem partsRecursion {motive : Value → Prop}
    (step : ∀ v, (∀ part, v.Holds part → motive part) → motive v) (v : Value) : motive v := by
  induction v using strongRecursion with
  | step v ih => exact step v fun part h => ih part h.sizeOf_lt

end Value

namespace Record

variable {record : Record} {pair : String × Value}

/-- A function on the values leaves the names of the rendered fields alone. -/
theorem map_fst_rendered {α : Type} (f : Value → α) (record : Record) :
    (record.rendered.map fun pair => (pair.1, f pair.2)).map Prod.fst =
      record.rendered.map Prod.fst := by
  rw [List.map_map]
  rfl

/-- The names of the rendered fields are distinct, as all names of a record are. -/
theorem nodup_rendered (record : Record) : (record.rendered.map Prod.fst).Nodup := by
  have distinct := record.fields.nodup_keys
  rw [← OrderedMap.keys_toList] at distinct
  exact (List.filter_sublist.map Prod.fst).nodup distinct

/-- A rendered field is one that the record holds. -/
theorem holds_of_mem_rendered (mem : pair ∈ record.rendered) :
    (Value.object record).Holds pair.2 :=
  .field ((OrderedMap.get?_eq_some_iff _ _ _).mpr (List.mem_of_mem_filter mem))

end Record

namespace Number

variable {n : Number}

/-- A finite number is equal to what is written of it. -/
theorem equals_written (finite : n.isFinite = true) :
    (if n.isZero then Number.zero else n).equals n = true := by
  have number := isNaN_of_isFinite finite
  split
  · next zero =>
    have zero' : Number.zero.isNaN = false ∧ Number.zero.isZero = true := by decide
    simp [Number.equals, number, zero, zero']
  · simp [Number.equals, number]

end Number

namespace Value

variable {pairs others : List (String × Value)}

/-- The nesting of a record that is made of fields with distinct names. -/
theorem nesting_ofFields (distinct : (pairs.map Prod.fst).Nodup) :
    (ofFields pairs).nesting = (pairs.map fun pair => pair.2.nesting).foldr max 0 + 1 := by
  rw [ofFields, nesting_object, OrderedMap.toList_ofList distinct]

/-- The keys of a record that is made of fields with distinct names. -/
theorem keyOrders_ofFields (distinct : (pairs.map Prod.fst).Nodup) :
    (ofFields pairs).keyOrders =
      pairs.map Prod.fst :: pairs.flatMap fun pair => pair.2.keyOrders := by
  rw [ofFields, keyOrders_object, ← OrderedMap.keys_toList, OrderedMap.toList_ofList distinct]

/-! ## Equal values in the same order -/

/-- Two values are equal, and the fields of their records are in the same order. -/
structure EqualInOrder (v w : Value) : Prop where
  equal : v.equals w = true
  order : v.keyOrders = w.keyOrders

namespace EqualInOrder

/-- Arrays with items that are equal in order are equal in order. -/
theorem array {items others : List Value} (h : List.Forall₂ EqualInOrder items others) :
    (Value.array items).EqualInOrder (.array others) where
  equal := equals_iff.mpr (.array (h.imp fun _ _ => equal))
  order := by
    rw [keyOrders_array, keyOrders_array]
    induction h with
    | nil => rfl
    | cons first rest ih => rw [List.flatMap_cons, List.flatMap_cons, first.order, ih]

/-- Records with fields that are equal in order, under the same names in the same places, are
equal in order. -/
theorem ofFields (distinct : (pairs.map Prod.fst).Nodup)
    (h : List.Forall₂ (fun held pair => held.1 = pair.1 ∧ held.2.EqualInOrder pair.2)
      others pairs) : (ofFields others).EqualInOrder (ofFields pairs) := by
  -- The names are the same in the same places, so both records are made of distinct ones.
  have keys : others.map Prod.fst = pairs.map Prod.fst := by
    induction h with
    | nil => rfl
    | cons first rest ih =>
      rw [List.map_cons] at distinct
      rw [List.map_cons, List.map_cons, first.1, ih (List.nodup_cons.mp distinct).2]
  have distinct' : (others.map Prod.fst).Nodup := keys ▸ distinct
  constructor
  · refine equals_iff.mpr (.object rfl (OrderedMap.agree_iff.mpr ⟨?_, fun held mem => ?_⟩))
    · -- Equality looks every field up by its name.
      rw [OrderedMap.size, OrderedMap.size, ← OrderedMap.keys_toList, ← OrderedMap.keys_toList,
        OrderedMap.toList_ofList distinct, OrderedMap.toList_ofList distinct', keys]
    · rw [OrderedMap.toList_ofList distinct'] at mem
      obtain ⟨pair, listed, named, same⟩ := (Counterparts.of_forall₂ h).forth held mem
      refine ⟨pair.2, (OrderedMap.get?_eq_some_iff _ _ _).mpr ?_, same.equal⟩
      rwa [OrderedMap.toList_ofList distinct, named]
  · -- The order of the keys is compared field by field.
    have orders : (others.flatMap fun pair => pair.2.keyOrders) =
        pairs.flatMap fun pair => pair.2.keyOrders := by
      clear keys distinct distinct'
      induction h with
      | nil => rfl
      | cons first rest ih => rw [List.flatMap_cons, List.flatMap_cons, first.2.order, ih]
    rw [keyOrders_ofFields distinct, keyOrders_ofFields distinct', keys, orders]

end EqualInOrder

/-! ## The document of a value -/

/-- The document of a value is nested like its image. -/
theorem nesting_document (v : Value) : v.document.nesting = v.image.nesting := by
  induction v using partsRecursion with
  | step v ih =>
    cases v with
    -- A number is written as a number or as null, and neither is nested.
    | number n =>
      rw [document, image]
      split <;> rfl
    | array items =>
      have parts : items.map (fun item => item.document.nesting) =
          items.map fun item => item.image.nesting :=
        List.map_congr_left fun item mem => ih item (.item mem)
      rw [document_array, image_array, Document.nesting_list, nesting_array, List.map_map,
        List.map_map]
      exact congrArg (fun nestings => nestings.foldr max 0 + 1) parts
    | object record =>
      have parts : record.rendered.map (fun pair => pair.2.document.nesting) =
          record.rendered.map fun pair => pair.2.image.nesting :=
        List.map_congr_left fun pair mem => ih pair.2 (Record.holds_of_mem_rendered mem)
      have distinct := Record.map_fst_rendered image record ▸ record.nodup_rendered
      rw [document_object, image_object, Document.nesting_mapping, nesting_ofFields distinct,
        List.map_map, List.map_map]
      exact congrArg (fun nestings => nestings.foldr max 0 + 1) parts
    | _ => rfl

/-- A document is read as the image of a value. -/
def ReadsImage (d : Document) (v : Value) : Prop :=
  ∃ w, d.value? = some w ∧ w.EqualInOrder v.image

/-- If each item is read from its document as its image, so are all of them from theirs. -/
theorem values?_map_document {items : List Value}
    (h : ∀ item ∈ items, ReadsImage item.document item) :
    ∃ others, Document.values? (items.map document) = some others ∧
      List.Forall₂ EqualInOrder others (items.map image) := by
  induction items with
  | nil => exact ⟨[], rfl, .nil⟩
  | cons item rest ih =>
    obtain ⟨⟨w, first, same⟩, onward⟩ := List.forall_mem_cons.mp h
    obtain ⟨others, read, equal⟩ := ih onward
    refine ⟨w :: others, ?_, .cons same equal⟩
    rw [List.map_cons, Document.values?, first, read]

/-- If each field is read from its document as its image, so are all of them, under their names. -/
theorem fields?_map_document (h : ∀ pair ∈ pairs, ReadsImage pair.2.document pair.2) :
    ∃ others, Document.fields? (pairs.map fun pair => (pair.1, pair.2.document)) = some others ∧
      List.Forall₂ (fun held pair => held.1 = pair.1 ∧ held.2.EqualInOrder pair.2) others
        (pairs.map fun pair => (pair.1, pair.2.image)) := by
  induction pairs with
  | nil => exact ⟨[], rfl, .nil⟩
  | cons pair rest ih =>
    obtain ⟨⟨w, first, same⟩, onward⟩ := List.forall_mem_cons.mp h
    obtain ⟨others, read, equal⟩ := ih onward
    refine ⟨(pair.1, w) :: others, ?_, .cons ⟨rfl, same⟩ equal⟩
    rw [List.map_cons, Document.fields?, first, read]

/-- The document of a value is read as the image of the value. -/
theorem value?_document (v : Value) : ReadsImage v.document v := by
  induction v using partsRecursion with
  | step v ih =>
    cases v with
    | number n =>
      rw [document, ReadsImage, image]
      split
      · next finite =>
        exact ⟨_, rfl, equals_iff.mpr (.number (Number.equals_written finite)), rfl⟩
      · exact ⟨.null, rfl, rfl, rfl⟩
    | array items =>
      obtain ⟨others, read, equal⟩ := values?_map_document fun item mem => ih item (.item mem)
      rw [document_array, ReadsImage, image_array]
      refine ⟨.array others, ?_, .array equal⟩
      rw [Document.value?, read]
      rfl
    | object record =>
      obtain ⟨others, read, equal⟩ := fields?_map_document fun pair mem =>
        ih pair.2 (Record.holds_of_mem_rendered mem)
      rw [document_object, ReadsImage, image_object]
      refine ⟨.ofFields others, ?_, .ofFields ?_ equal⟩
      · rw [Document.value?, read]
        rfl
      · exact Record.map_fst_rendered image record ▸ record.nodup_rendered
    -- An element has the braces of an empty mapping as its document.
    | element tag => exact ⟨.object .plain, rfl, rfl, rfl⟩
    | bool b => exact ⟨.bool b, rfl, by simp [image, equals], rfl⟩
    | string s => exact ⟨.string s, rfl, by simp [image, equals], rfl⟩
    | date d => exact ⟨.string d.text, rfl, by simp [image, equals], rfl⟩
    | undefined | null | symbol | function => exact ⟨.null, rfl, by simp [image, equals], rfl⟩

end Value

end PropShape
