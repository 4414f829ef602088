import PropShape.Proofs.Descriptor.Equality
import PropShape.Proofs.Json.Notation
import PropShape.Proofs.Number.Exact

/-!
# `PropShape.Proofs.Json.Decoding`: what is written is read back

A document that writes a value, a descriptor or a schema is read as an equal
one, which the document writes in its own order (`Value.WrittenAs.readAs`,
`Descriptor.WrittenAs.readAs`, `Schema.WrittenAs.read`).

A descriptor is read field by field. Each field that is written puts its own
meaning into the draft and leaves the other fields alone
(`FieldWrittenAs.readAs`, `sameIn_foldl`), so the order of the fields plays no
part; a field that is not written stays as the draft had it from the start.
-/

set_option autoImplicit false

namespace PropShape

/-! ## Values -/

namespace Value

variable {v w : Value} {document : Document}

/-- A document is read as a value that is equal to the given one, and is written in the order
of the document. -/
structure ReadAs (v w : Value) (document : Document) : Prop where
  read : document.value? = some w
  equal : v.equals w = true
  written : w.WrittenAs Eq document

/-- The items of an array are read one by one. -/
theorem values?_of_readAs {items : List Value} {documents : List Document}
    (h : List.Forall₂ (fun v d => ∃ w, ReadAs v w d) items documents) :
    ∃ others, Document.values? documents = some others ∧
      List.Forall₂ (fun v w => v.equals w = true) items others ∧
      List.Forall₂ (WrittenAs Eq) others documents := by
  -- On the items and their documents side by side.
  induction h with
  | nil => exact ⟨[], rfl, .nil, .nil⟩
  | cons first rest ih =>
    obtain ⟨w, first⟩ := first
    obtain ⟨others, read, equal, written⟩ := ih
    refine ⟨w :: others, ?_, .cons first.equal equal, .cons first.written written⟩
    rw [Document.values?, first.read, read]

/-- The entries of an object are read one by one, and keep their names. -/
theorem fields?_map {names : List String} {documents : String → Document} {w : String → Value}
    (h : ∀ name ∈ names, (documents name).value? = some (w name)) :
    Document.fields? (names.map fun name => (name, documents name)) =
      some (names.map fun name => (name, w name)) := by
  induction names with
  | nil => rfl
  | cons name names ih =>
    obtain ⟨first, rest⟩ := List.forall_mem_cons.mp h
    rw [List.map_cons, Document.fields?, first, ih rest, List.map_cons]

/-- The document of a value is read as an equal value. -/
theorem WrittenAs.readAs (h : v.WrittenAs List.Perm document) : ∃ w, ReadAs v w document := by
  induction h with
  | null => exact ⟨.null, rfl, by simp [equals], .null⟩
  | bool b => exact ⟨.bool b, rfl, by simp [equals], .bool b⟩
  | integer h small =>
    have number := Number.isNaN_of_isFinite (Number.isFinite_of_toInt? h)
    exact ⟨.number _, rfl, equals_iff.mpr (.number (Number.equals_self_iff.mpr number)),
      .integer h small⟩
  | string s => exact ⟨.string s, rfl, by simp [equals], .string s⟩
  | array length h ih =>
    obtain ⟨others, read, equal, written⟩ :=
      values?_of_readAs (List.forall₂_iff_zip.mpr ⟨length, fun mem => ih mem⟩)
    obtain ⟨length, h⟩ := List.forall₂_iff_zip.mp written
    refine ⟨.array others, ?_, equals_iff.mpr (.array equal), .array length h⟩
    rw [Document.value?, read]
    rfl
  -- The document has the fields in its own order, and each is read on its own.
  | @record fields names documents arranged h ih =>
    obtain ⟨w, readAs, named⟩ := OrderedMap.exists_choice arranged ih
    have distinct : names.Nodup := arranged.nodup_iff.mp fields.nodup_keys
    refine ⟨.ofFields (names.map fun name => (name, w name)), ?_, ?_, ?_⟩
    · -- What is read of each name.
      have read : ∀ name ∈ names, (documents name).value? = some (w name) := by
        intro name mem
        obtain ⟨v, readAs⟩ := named name mem
        exact readAs.read
      rw [Document.value?, fields?_map read]
      rfl
    · -- Equality of records does not see the order.
      refine equals_iff.mpr (.object rfl ?_)
      exact OrderedMap.agree_ofList_map arranged fun name v found => (readAs name v found).equal
    · -- In the order of the document the record is written as it stands.
      refine .record (OrderedMap.keys_ofList_map distinct) fun name _ found => ?_
      obtain ⟨mem, rfl⟩ := (OrderedMap.get?_ofList_map_iff distinct).mp found
      obtain ⟨v, readAs⟩ := named name mem
      exact readAs.written

end Value

/-! ## Descriptors -/

/-- A field is found by its own name. -/
theorem Field.ofName?_name (field : Field) : ofName? field.name = some field := by
  cases field <;> rfl

namespace Descriptor

/-! ### One field at a time -/

/-- The first descriptor with a field of the second one. -/
def put (d : Descriptor) (field : Field) (other : Descriptor) : Descriptor :=
  match field with
  | .type => { d with type := other.type }
  | .required => { d with required := other.required }
  | .updatable => { d with updatable := other.updatable }
  | .default => { d with default? := other.default? }
  | .typeDef => { d with element? := other.element? }
  | .typeDefs => { d with properties? := other.properties? }
  | .values => { d with values := other.values }
  | .validators => { d with alternatives := other.alternatives }
  | .className => { d with className? := other.className? }

/-- Two descriptors have the very same in a field. -/
def SameIn (d other : Descriptor) : Field → Prop
  | .type => d.type = other.type
  | .required => d.required = other.required
  | .updatable => d.updatable = other.updatable
  | .default => d.default? = other.default?
  | .typeDef => d.element? = other.element?
  | .typeDefs => d.properties? = other.properties?
  | .values => d.values = other.values
  | .validators => d.alternatives = other.alternatives
  | .className => d.className? = other.className?

/-- Two descriptors are equal in a field. -/
def EqualIn (d other : Descriptor) : Field → Prop
  | .type => d.type = other.type
  | .required => d.required = other.required
  | .updatable => d.updatable = other.updatable
  | .default => Option.Rel (fun v w => v.equals w = true) d.default? other.default?
  | .typeDef => Option.Rel (fun p q => p.equals q = true) d.element? other.element?
  | .typeDefs =>
    Option.Rel (OrderedMap.Agree fun p q => p.equals q = true) d.properties? other.properties?
  | .values => List.Forall₂ (fun v w => v.equals w = true) d.values other.values
  | .validators =>
    List.Forall₂ (fun p q => p.equals q = true) d.alternatives other.alternatives
  | .className => d.className? = other.className?

variable {d x y : Descriptor} {field other : Field} {document : Document}
  {order : Arrangement}

/-- The field that was put in is there. -/
theorem sameIn_put : (x.put field y).SameIn y field := by
  cases field <;> rfl

/-- The other fields are left as they were. -/
theorem sameIn_put_of_ne (apart : field ≠ other) : (x.put other y).SameIn x field := by
  cases field <;> cases other <;> first | rfl | exact absurd rfl apart

/-- Having the same in a field is transitive. -/
theorem SameIn.trans {z : Descriptor} (h : x.SameIn y field) (h' : y.SameIn z field) :
    x.SameIn z field := by
  cases field <;> exact Eq.trans h h'

/-- No field brings a predicate along. -/
theorem predicate?_put : (x.put field y).predicate? = x.predicate? := by
  cases field <;> rfl

/-- Equality in a field depends on that field only. -/
theorem EqualIn.congr (h : d.EqualIn y field) (same : x.SameIn y field) : d.EqualIn x field := by
  cases field
  all_goals
    simp only [SameIn, EqualIn] at *
    rwa [same]

/-- What a document writes for a field depends on that field only. -/
theorem FieldWrittenAs.congr (h : y.FieldWrittenAs order field document)
    (same : x.SameIn y field) : x.FieldWrittenAs order field document := by
  -- Case by case, since every kind of field has its own notation.
  cases h with
  | type named =>
    have same : x.type = y.type := same
    rw [← same] at named ⊢
    exact .type named
  | required =>
    have same : x.required = y.required := same
    rw [← same]
    exact .required
  | updatable =>
    have same : x.updatable = y.updatable := same
    rw [← same]
    exact .updatable
  | default held h => exact .default (Eq.trans same held) h
  | noElement absent => exact .noElement (Eq.trans same absent)
  | element held h => exact .element (Eq.trans same held) h
  | noProperties absent => exact .noProperties (Eq.trans same absent)
  | properties held arranged h => exact .properties (Eq.trans same held) arranged h
  | values length h =>
    have same : x.values = y.values := same
    rw [← same] at length h
    exact .values length h
  | alternatives length h =>
    have same : x.alternatives = y.alternatives := same
    rw [← same] at length h
    exact .alternatives length h
  | noClassName absent => exact .noClassName (Eq.trans same absent)
  | className held => exact .className (Eq.trans same held)

/-- Whether a field may be left out depends on that field only. -/
theorem Omits.congr (h : y.Omits field) (same : x.SameIn y field) : x.Omits field := by
  cases field with
  | type => exact h.elim
  | _ => exact Eq.trans same h

/-- What is not written is what a draft starts with. -/
theorem equalIn_blank (h : d.Omits field) : d.EqualIn Draft.blank.descriptor field := by
  cases field with
  | type => exact h.elim
  | required | updatable | className => exact h
  | default | typeDef | typeDefs =>
    simp only [Omits] at h
    rw [EqualIn, h]
    exact .none
  | values | validators =>
    simp only [Omits] at h
    rw [EqualIn, h]
    exact .nil

/-- A draft starts with what is not written. -/
theorem omits_blank (noType : field ≠ .type) : Draft.blank.descriptor.Omits field := by
  cases field with
  | type => exact absurd rfl noType
  | _ => rfl

/-- A descriptor without predicate is equal to another one if it is in every field. -/
theorem equals_of_equalIn (declarative : d.predicate? = none) (declarative' : x.predicate? = none)
    (h : ∀ field, d.EqualIn x field) : d.equals x = true := by
  refine equals_iff.mpr ⟨h .type, h .required, h .updatable, h .default, h .typeDef, h .typeDefs,
    h .values, h .validators, h .className, ?_⟩
  rw [declarative, declarative']
  exact .none

/-! ### Reading -/

/-- A document is read as a descriptor that is equal to the given one, and is written in the
order of the document. -/
structure ReadAs (positional : Bool) (d x : Descriptor) (document : Document) : Prop where
  read : document.descriptor? positional = some x
  equal : d.equals x = true
  written : x.WrittenAs Eq document

/-- Likewise for the document of one field. -/
structure FieldReadAs (positional : Bool) (d x : Descriptor) (field : Field)
    (document : Document) : Prop where
  read : ∀ draft : Draft, field ∉ draft.seen →
    Document.place? positional draft field document =
      some ⟨field :: draft.seen, draft.descriptor.put field x⟩
  equal : d.EqualIn x field
  written : x.FieldWrittenAs Eq field document

variable {positional : Bool}

/-- The text of a type is read as that type, provided no stored name is spelled like a built-in
type. -/
theorem ofText_text_of_named {type : TypeName}
    (named : ∀ builtin : BuiltinType, type ≠ .named builtin.text) :
    TypeName.ofText type.text = type := by
  cases type with
  | builtin type => exact TypeName.ofText_text type
  | named name => exact TypeName.ofText_of_ne fun type same => named type (same ▸ rfl)

/-- The document of a descriptor is a mapping, and so not a value that is left out. -/
theorem WrittenAs.absent? (h : d.WrittenAs order document) : document.absent? = some false := by
  cases h
  rfl

/-- Alternatives are read one by one. -/
theorem descriptors?_of_readAs {parts : List Descriptor} {documents : List Document}
    (h : List.Forall₂ (fun p document => ∃ x, ReadAs positional p x document) parts documents) :
    ∃ others, Document.descriptors? positional documents = some others ∧
      List.Forall₂ (fun p q => p.equals q = true) parts others ∧
      List.Forall₂ (WrittenAs Eq) others documents := by
  -- On the alternatives and their documents side by side.
  induction h with
  | nil => exact ⟨[], by rw [Document.descriptors?], .nil, .nil⟩
  | cons first rest ih =>
    obtain ⟨x, first⟩ := first
    obtain ⟨others, read, equal, written⟩ := ih
    refine ⟨x :: others, ?_, .cons first.equal equal, .cons first.written written⟩
    rw [Document.descriptors?, first.read, read]

/-- Properties are read one by one, and keep their names. -/
theorem properties?_map {names : List String} {documents : String → Document}
    {x : String → Descriptor}
    (h : ∀ name ∈ names, (documents name).descriptor? positional = some (x name)) :
    Document.properties? positional (names.map fun name => (name, documents name)) =
      some (names.map fun name => (name, x name)) := by
  induction names with
  | nil => rw [List.map_nil, List.map_nil, Document.properties?]
  | cons name names ih =>
    obtain ⟨first, rest⟩ := List.forall_mem_cons.mp h
    rw [List.map_cons, Document.properties?, first, ih rest, List.map_cons]

/-- Properties are read in the order of the document, and agree with those that it writes. -/
theorem properties?_of_readAs {properties : Schema} {names : List String}
    {documents : String → Document} (arranged : properties.keys.Perm names)
    (h : ∀ name part, properties.get? name = some part →
      ∃ x, ReadAs positional part x (documents name)) :
    ∃ pairs, Document.properties? positional (names.map fun name => (name, documents name)) =
        some pairs ∧
      properties.Agree (fun p q => p.equals q = true) (.ofList pairs) ∧
      (OrderedMap.ofList pairs).keys = names ∧
      ∀ name part, (OrderedMap.ofList pairs).get? name = some part →
        part.WrittenAs Eq (documents name) := by
  -- Choose what is read of each name, so that the pairs can be written down.
  obtain ⟨x, readAs, named⟩ := OrderedMap.exists_choice arranged h
  have distinct : names.Nodup := arranged.nodup_iff.mp properties.nodup_keys
  refine ⟨names.map fun name => (name, x name), properties?_map fun name mem => ?_, ?_,
    OrderedMap.keys_ofList_map distinct, ?_⟩
  · obtain ⟨part, readAs⟩ := named name mem
    exact readAs.read
  · exact OrderedMap.agree_ofList_map arranged fun name part found => (readAs name part found).equal
  · intro name _ found
    obtain ⟨mem, rfl⟩ := (OrderedMap.get?_ofList_map_iff distinct).mp found
    obtain ⟨part, readAs⟩ := named name mem
    exact readAs.written

/-- The document of a field is read as an equal field, if that goes for the descriptors inside
it. -/
theorem FieldWrittenAs.readAs (h : d.FieldWrittenAs List.Perm field document)
    (nested : ∀ part document, d.Holds part → part.WrittenAs List.Perm document →
      ∃ x, ReadAs positional part x document) :
    ∃ x, FieldReadAs positional d x field document := by
  cases h with
  -- The type and the flags are read as they were written.
  | type named =>
    refine ⟨d, fun draft fresh => ?_, rfl, .type named⟩
    rw [Document.place?, if_neg fresh]
    simp [Document.text?, Json.stringScalar, ofText_text_of_named named, put]
  | required =>
    refine ⟨d, fun draft fresh => ?_, rfl, .required⟩
    rw [Document.place?, if_neg fresh]
    rfl
  | updatable =>
    refine ⟨d, fun draft fresh => ?_, rfl, .updatable⟩
    rw [Document.place?, if_neg fresh]
    rfl
  -- A default and the descriptors inside are read as equal ones, not as the same ones.
  | default held h =>
    obtain ⟨w, readAs⟩ := h.readAs
    refine ⟨{ d with default? := some w }, fun draft fresh => ?_, ?_, .default rfl readAs.written⟩
    · rw [Document.place?, if_neg fresh]
      simp [readAs.read, put]
    · rw [EqualIn, held]
      exact .some readAs.equal
  | noElement absent =>
    refine ⟨d, fun draft fresh => ?_, ?_, .noElement absent⟩
    · rw [Document.place?, if_neg fresh]
      simp [Json.nullScalar, Document.absent?, put, absent]
    · rw [EqualIn, absent]
      exact .none
  | @element _ part document held h =>
    obtain ⟨x, readAs⟩ := nested part document (.element held) h
    refine ⟨{ d with element? := some x }, fun draft fresh => ?_, ?_,
      .element rfl readAs.written⟩
    · rw [Document.place?, if_neg fresh]
      simp [h.absent?, readAs.read, put]
    · rw [EqualIn, held]
      exact .some readAs.equal
  | noProperties absent =>
    refine ⟨d, fun draft fresh => ?_, ?_, .noProperties absent⟩
    · rw [Document.place?, if_neg fresh]
      simp [Json.nullScalar, put, absent]
    · rw [EqualIn, absent]
      exact .none
  | @properties _ properties names documents held arranged h =>
    obtain ⟨pairs, read, equal, keys, written⟩ := properties?_of_readAs arranged
      fun name part found => nested part _ (.property held found) (h name part found)
    refine ⟨{ d with properties? := some (.ofList pairs) }, fun draft fresh => ?_, ?_,
      .properties rfl keys written⟩
    · rw [Document.place?, if_neg fresh]
      simp [read, put]
    · rw [EqualIn, held]
      exact .some equal
  | values length h =>
    obtain ⟨others, read, equal, written⟩ := Value.values?_of_readAs
      (List.forall₂_iff_zip.mpr ⟨length, fun mem => (h mem).readAs⟩)
    obtain ⟨length, written⟩ := List.forall₂_iff_zip.mp written
    refine ⟨{ d with values := others }, fun draft fresh => ?_, equal, .values length written⟩
    rw [Document.place?, if_neg fresh]
    simp [read, put]
  | alternatives length h =>
    obtain ⟨others, read, equal, written⟩ := descriptors?_of_readAs
      (List.forall₂_iff_zip.mpr ⟨length, fun mem =>
        nested _ _ (.alternative (List.of_mem_zip mem).1) (h mem)⟩)
    obtain ⟨length, written⟩ := List.forall₂_iff_zip.mp written
    refine ⟨{ d with alternatives := others }, fun draft fresh => ?_, equal,
      .alternatives length written⟩
    rw [Document.place?, if_neg fresh]
    simp [read, put]
  | noClassName absent =>
    refine ⟨d, fun draft fresh => ?_, rfl, .noClassName absent⟩
    rw [Document.place?, if_neg fresh]
    simp [Document.optionalText?, Document.absent?, Json.nullScalar, put, absent]
  | className held =>
    refine ⟨d, fun draft fresh => ?_, rfl, .className held⟩
    rw [Document.place?, if_neg fresh]
    simp [Document.optionalText?, Document.absent?, Document.text?, Json.stringScalar, put, held]

/-- Distinct fields are placed one after the other. -/
theorem placeNamed?_of_readAs {d : Descriptor} {fields : List Field} {x : Field → Descriptor}
    {documents : Field → Document} (distinct : fields.Nodup)
    (h : ∀ field ∈ fields, FieldReadAs positional d (x field) field (documents field))
    (draft : Draft) (fresh : ∀ field ∈ fields, field ∉ draft.seen) :
    Document.placeNamed? positional draft
        (fields.map fun field => (field.name, documents field)) =
      some ⟨fields.reverse ++ draft.seen,
        fields.foldl (fun y field => y.put field (x field)) draft.descriptor⟩ := by
  induction fields generalizing draft with
  | nil => rw [List.map_nil, Document.placeNamed?]; rfl
  | cons field fields ih =>
    obtain ⟨new, fresh⟩ := List.forall_mem_cons.mp fresh
    obtain ⟨first, rest⟩ := List.forall_mem_cons.mp h
    obtain ⟨apart, distinct⟩ := List.nodup_cons.mp distinct
    rw [List.map_cons, Document.placeNamed?, Field.ofName?_name]
    dsimp only
    rw [first.read draft new]
    dsimp only
    -- The fields that are left are still fresh, because this one is another field.
    rw [ih distinct rest _ ?_]
    · simp
    · intro other mem seen
      rcases List.mem_cons.mp seen with rfl | seen
      · exact apart mem
      · exact fresh other mem seen

/-- Each of the fields that were put in is the one that was put in, and the others are as before. -/
theorem sameIn_foldl (fields : List Field) (x : Field → Descriptor) (y : Descriptor)
    (field : Field) :
    (fields.foldl (fun y field => y.put field (x field)) y).SameIn
      (if field ∈ fields then x field else y) field := by
  induction fields generalizing y with
  | nil =>
    rw [if_neg List.not_mem_nil]
    cases field <;> rfl
  | cons first fields ih =>
    have onward := ih (y.put first (x first))
    -- A field that is put in more than once is the one that was put in last.
    by_cases later : field ∈ fields
    · rw [if_pos later] at onward
      rwa [if_pos (List.mem_cons_of_mem _ later)]
    · rw [if_neg later] at onward
      by_cases same : field = first
      · subst same
        rw [if_pos List.mem_cons_self]
        exact onward.trans sameIn_put
      · rw [if_neg (List.not_mem_cons_of_ne_of_not_mem same later)]
        exact onward.trans (sameIn_put_of_ne same)

/-- Putting in fields brings no predicate along. -/
theorem predicate?_foldl (fields : List Field) (x : Field → Descriptor) (y : Descriptor) :
    (fields.foldl (fun y field => y.put field (x field)) y).predicate? = y.predicate? := by
  induction fields generalizing y with
  | nil => rfl
  | cons first fields ih => rw [List.foldl_cons, ih, predicate?_put]

/-- The document of a descriptor is read as an equal descriptor. -/
theorem WrittenAs.readAs {d : Descriptor} {document : Document}
    (h : d.WrittenAs List.Perm document) : ∃ x, ReadAs positional d x document := by
  cases h with
  | @intro _ fields documents declarative distinct h omitted =>
    -- The fields are read one by one. What is read of a field that is not written plays no part.
    have chosen : ∀ field, ∃ x, field ∈ fields →
        FieldReadAs positional d x field (documents field) := by
      intro field
      by_cases mem : field ∈ fields
      · obtain ⟨x, readAs⟩ := (h field mem).readAs fun part document holds written =>
          have smaller := holds.sizeOf_lt
          written.readAs
        exact ⟨x, fun _ => readAs⟩
      · exact ⟨default, fun mem' => absurd mem' mem⟩
    choose x readAs using chosen
    have placed := placeNamed?_of_readAs distinct readAs .blank fun _ _ => List.not_mem_nil
    -- So the result has each written field as it was read, and the others as in the blank draft.
    have same := sameIn_foldl fields x Draft.blank.descriptor
    have predicate := predicate?_foldl fields x Draft.blank.descriptor
    generalize hresult : fields.foldl (fun y field => y.put field (x field))
      Draft.blank.descriptor = result at placed same predicate
    have typed : Field.type ∈ fields := by
      by_contra absent
      exact omitted .type absent
    refine ⟨result, ?_, equals_of_equalIn declarative predicate fun field => ?_,
      .intro predicate distinct (fun field mem => ?_) fun field absent => ?_⟩
    · rw [Document.descriptor?, placed]
      simp [Draft.finish?, typed]
    · have same := same field
      split at same
      · next mem => exact (readAs field mem).equal.congr same
      · next absent => exact (equalIn_blank (omitted field absent)).congr same
    · have same := same field
      rw [if_pos mem] at same
      exact (readAs field mem).written.congr same
    · have same := same field
      rw [if_neg absent] at same
      have noType : field ≠ .type := by
        rintro rfl
        exact absent typed
      exact (omits_blank noType).congr same
termination_by sizeOf d

end Descriptor

/-! ## Schemas -/

/-- The document of a schema is read as an equal schema, in the order of the document. -/
theorem Schema.WrittenAs.read {schema : Schema} {document : Document} (positional : Bool)
    (h : schema.WrittenAs List.Perm document) :
    ∃ result, document.schema? positional = some result ∧
      schema.Agree (fun d x => d.equals x = true) result ∧ result.WrittenAs Eq document := by
  cases h with
  | @intro names documents arranged h =>
    obtain ⟨pairs, read, equal, keys, written⟩ := Descriptor.properties?_of_readAs arranged
      fun name d found => (h name d found).readAs
    refine ⟨.ofList pairs, ?_, equal, .intro keys written⟩
    rw [Document.schema?, read]
    rfl

end PropShape
