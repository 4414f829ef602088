import PropShape.Document
import Mathlib.Data.List.Nodup

/-!
# `PropShape.Proofs.Document.Strictness`: descriptors are read strictly

A mapping that is read as a descriptor has the type of the descriptor, no key
that is no field, and no field twice (`Faulty`). That goes for every mapping
that a descriptor or a schema declares, at any depth (`Document.Declares`). It
does not go for mappings inside a default or an allowed value, which are data.
-/

set_option autoImplicit false

namespace PropShape

/-- No two fields have the same name, so a key stands for one field at most. -/
theorem Field.name_injective : Function.Injective Field.name := by
  intro field other same
  -- The names of different fields are different texts, which is decided pair by pair.
  cases field <;> cases other <;> first | rfl | exact absurd same (by decide)

/-- What a mapping must not have when it is read as a descriptor. -/
inductive Faulty (pairs : List (String × Document)) : Prop
  | unknown {key : String} (mem : key ∈ pairs.map Prod.fst) (h : ∀ field : Field, field.name ≠ key)
  | repeated (field : Field) (h : 2 ≤ (pairs.map Prod.fst).count field.name)
  | untyped (h : Field.type.name ∉ pairs.map Prod.fst)

namespace Document

/-- A document that is read as a descriptor declares itself, and what its fields declare. -/
inductive Declares : Document → List (String × Document) → Prop
  | self {tagged : Bool} {pairs : List (String × Document)} : Declares (.mapping tagged pairs) pairs
  | element {tagged : Bool} {pairs inner : List (String × Document)} {part : Document}
    (mem : (Field.typeDef.name, part) ∈ pairs) (h : Declares part inner) :
    Declares (.mapping tagged pairs) inner
  | property {tagged tagged' : Bool} {pairs properties inner : List (String × Document)}
    {name : String} {part : Document}
    (mem : (Field.typeDefs.name, .mapping tagged' properties) ∈ pairs)
    (named : (name, part) ∈ properties) (h : Declares part inner) :
    Declares (.mapping tagged pairs) inner
  | alternative {tagged tagged' : Bool} {pairs inner : List (String × Document)}
    {parts : List Document} {part : Document}
    (mem : (Field.validators.name, .list tagged' parts) ∈ pairs) (listed : part ∈ parts)
    (h : Declares part inner) : Declares (.mapping tagged pairs) inner

/-- A document that is read as a schema declares what its descriptors do. -/
def SchemaDeclares (document : Document) (inner : List (String × Document)) : Prop :=
  ∃ tagged pairs name part, document = .mapping tagged pairs ∧ (name, part) ∈ pairs ∧
    part.Declares inner

variable {positional : Bool} {pairs inner : List (String × Document)} {draft result : Draft}

/-- Only a mapping can declare a descriptor. -/
theorem Declares.exists_mapping {document : Document} (h : document.Declares inner) :
    ∃ tagged pairs, document = .mapping tagged pairs := by
  cases h <;> exact ⟨_, _, rfl⟩

/-- What the placed fields of a mapping are: each key is that of another field, which was not
there before, and each value has been placed. -/
structure Places (positional : Bool) (draft : Draft) (pairs : List (String × Document))
    (result : Draft) (fields : List Field) : Prop where
  keys : pairs.map Prod.fst = fields.map Field.name
  distinct : fields.Nodup
  fresh : ∀ field ∈ fields, field ∉ draft.seen
  seen : ∀ field, field ∈ result.seen ↔ field ∈ fields ∨ field ∈ draft.seen
  placed : ∀ pair ∈ pairs, ∃ field before after,
    field.name = pair.1 ∧ place? positional before field pair.2 = some after

/-- The field of a key has that key as its name. -/
theorem name_of_ofName? {key : String} {field : Field} (h : Field.ofName? key = some field) :
    field.name = key := by
  have found := List.find?_some h
  exact eq_of_beq found

/-- A field that is placed was not there before, and is there afterwards. -/
theorem seen_of_place? {field : Field} {document : Document}
    (h : place? positional draft field document = some result) :
    field ∉ draft.seen ∧ result.seen = field :: draft.seen := by
  rw [place?] at h
  split at h
  · cases h
  · next fresh =>
    obtain ⟨descriptor, -, rfl⟩ := Option.map_eq_some_iff.mp h
    exact ⟨fresh, rfl⟩

/-- A mapping that has been placed is made of fields that were not there before, each of them
once. -/
theorem exists_places (h : placeNamed? positional draft pairs = some result) :
    ∃ fields, Places positional draft pairs result fields := by
  -- Whatever has been placed before, the next field must be a new one.
  induction pairs generalizing draft with
  | nil =>
    rw [placeNamed?] at h
    cases h
    exact ⟨[], rfl, .nil, fun _ mem => absurd mem List.not_mem_nil, by simp,
      fun _ mem => absurd mem List.not_mem_nil⟩
  | cons pair pairs ih =>
    obtain ⟨key, document⟩ := pair
    rw [placeNamed?] at h
    cases hfield : Field.ofName? key with
    | none =>
      rw [hfield] at h
      cases h
    | some field =>
      rw [hfield] at h
      dsimp only at h
      cases hplace : place? positional draft field document with
      | none =>
        rw [hplace] at h
        cases h
      | some after =>
        rw [hplace] at h
        obtain ⟨fields, rest⟩ := ih h
        obtain ⟨new, seen⟩ := seen_of_place? hplace
        have named := name_of_ofName? hfield
        refine ⟨field :: fields, ?_, ?_, ?_, ?_, ?_⟩
        · rw [List.map_cons, List.map_cons, rest.keys, named]
        · have apart : field ∉ fields := by
            intro mem
            exact rest.fresh field mem (by rw [seen]; exact List.mem_cons_self)
          exact List.nodup_cons.mpr ⟨apart, rest.distinct⟩
        · rintro other mem
          rcases List.mem_cons.mp mem with rfl | mem
          · exact new
          · intro old
            exact rest.fresh other mem (by rw [seen]; exact List.mem_cons_of_mem _ old)
        · intro other
          rw [rest.seen, seen, List.mem_cons, List.mem_cons]
          tauto
        · rintro other mem
          rcases List.mem_cons.mp mem with rfl | mem
          · exact ⟨field, draft, after, named, hplace⟩
          · exact rest.placed other mem

/-- A mapping that is read as a descriptor has no faults. -/
theorem Places.not_faulty {fields : List Field} (h : Places positional .blank pairs result fields)
    (typed : Field.type ∈ result.seen) : ¬Faulty pairs := by
  intro faulty
  cases faulty with
  | unknown mem unknown =>
    rw [h.keys] at mem
    obtain ⟨field, -, rfl⟩ := List.mem_map.mp mem
    exact unknown field rfl
  -- Distinct fields have distinct names, so a name that occurs twice contradicts them.
  | repeated field repeated =>
    have distinct : (pairs.map Prod.fst).Nodup := h.keys ▸ h.distinct.map Field.name_injective
    have once := List.nodup_iff_count_le_one.mp distinct field.name
    omega
  -- A blank draft has seen nothing, so the type was seen in the mapping itself.
  | untyped absent =>
    rw [h.keys] at absent
    rcases (h.seen _).mp typed with mem | mem
    · exact absent (List.mem_map_of_mem mem)
    · cases mem

/-- What is placed under a key is placed as the field of that key. -/
theorem Places.place? {fields : List Field} (h : Places positional draft pairs result fields)
    {field : Field} {document : Document} (mem : (field.name, document) ∈ pairs) :
    ∃ before after, Document.place? positional before field document = some after := by
  obtain ⟨other, before, after, named, placed⟩ := h.placed _ mem
  cases Field.name_injective named
  exact ⟨before, after, placed⟩

/-- A mapping that is read as a descriptor is placed into a blank draft, and has a type. -/
theorem exists_of_descriptor? {tagged : Bool} {d : Descriptor}
    (h : descriptor? positional (.mapping tagged pairs) = some d) :
    ∃ result fields, Places positional .blank pairs result fields ∧ Field.type ∈ result.seen := by
  rw [descriptor?] at h
  obtain ⟨result, placed, finished⟩ := Option.bind_eq_some_iff.mp h
  obtain ⟨fields, places⟩ := exists_places placed
  refine ⟨result, fields, places, ?_⟩
  rw [Draft.finish?] at finished
  split at finished
  · assumption
  · cases finished

/-- Where a list of descriptors is read, each of them is. -/
theorem descriptor?_of_descriptors? {parts : List Document} {others : List Descriptor}
    (h : descriptors? positional parts = some others) {part : Document} (mem : part ∈ parts) :
    ∃ d, descriptor? positional part = some d := by
  induction parts generalizing others with
  | nil => cases mem
  | cons first parts ih =>
    rw [descriptors?] at h
    split at h
    · next d rest read reads =>
      rcases List.mem_cons.mp mem with rfl | mem
      · exact ⟨d, read⟩
      · exact ih reads mem
    · cases h

/-- Where properties are read, the descriptor of each of them is. -/
theorem descriptor?_of_properties? {properties : List (String × Document)}
    {others : List (String × Descriptor)} (h : properties? positional properties = some others)
    {name : String} {part : Document} (mem : (name, part) ∈ properties) :
    ∃ d, descriptor? positional part = some d := by
  induction properties generalizing others with
  | nil => cases mem
  | cons first properties ih =>
    rw [properties?] at h
    split at h
    · next d rest read reads =>
      rcases List.mem_cons.mp mem with heq | mem
      · cases heq
        exact ⟨d, read⟩
      · exact ih reads mem
    · cases h

/-! ## The nested descriptors -/

section

variable {before after : Draft} {tagged : Bool} {document : Document}

/-- The element descriptor of a placed field has been read, unless it is left out. -/
theorem descriptor?_of_place?_typeDef (present : document.absent? = some false)
    (h : place? positional before .typeDef document = some after) :
    ∃ d, document.descriptor? positional = some d := by
  rw [place?] at h
  split at h
  · cases h
  · obtain ⟨_, read, -⟩ := Option.map_eq_some_iff.mp h
    -- A document that is not left out is read as a descriptor.
    simp only [present] at read
    obtain ⟨d, read, -⟩ := Option.map_eq_some_iff.mp read
    exact ⟨d, read⟩

/-- The properties of a placed field have been read. -/
theorem properties?_of_place? {properties : List (String × Document)}
    (h : place? positional before .typeDefs (.mapping tagged properties) = some after) :
    ∃ others, properties? positional properties = some others := by
  rw [place?] at h
  split at h
  · cases h
  · obtain ⟨_, read, -⟩ := Option.map_eq_some_iff.mp h
    obtain ⟨others, read, -⟩ := Option.map_eq_some_iff.mp read
    exact ⟨others, read⟩

/-- The alternatives of a placed field have been read. -/
theorem descriptors?_of_place? {parts : List Document}
    (h : place? positional before .validators (.list tagged parts) = some after) :
    ∃ others, descriptors? positional parts = some others := by
  rw [place?] at h
  split at h
  · cases h
  · obtain ⟨_, read, -⟩ := Option.map_eq_some_iff.mp h
    obtain ⟨others, read, -⟩ := Option.map_eq_some_iff.mp read
    exact ⟨others, read⟩

end

/-- Nothing that a descriptor declares has a fault. -/
theorem not_faulty_of_declares {document : Document} (declares : document.Declares inner)
    {d : Descriptor} (h : document.descriptor? positional = some d) : ¬Faulty inner := by
  -- Each step into a part is one that the reader takes too, so the part has been read.
  induction declares generalizing d with
  | self =>
    obtain ⟨result, fields, places, typed⟩ := exists_of_descriptor? h
    exact places.not_faulty typed
  | element mem declares ih =>
    obtain ⟨result, fields, places, -⟩ := exists_of_descriptor? h
    obtain ⟨before, after, placed⟩ := places.place? mem
    obtain ⟨tagged, pairs, rfl⟩ := declares.exists_mapping
    obtain ⟨d, read⟩ := descriptor?_of_place?_typeDef rfl placed
    exact ih read
  | property mem named declares ih =>
    obtain ⟨result, fields, places, -⟩ := exists_of_descriptor? h
    obtain ⟨before, after, placed⟩ := places.place? mem
    obtain ⟨others, reads⟩ := properties?_of_place? placed
    obtain ⟨d, read⟩ := descriptor?_of_properties? reads named
    exact ih read
  | alternative mem listed declares ih =>
    obtain ⟨result, fields, places, -⟩ := exists_of_descriptor? h
    obtain ⟨before, after, placed⟩ := places.place? mem
    obtain ⟨others, reads⟩ := descriptors?_of_place? placed
    obtain ⟨d, read⟩ := descriptor?_of_descriptors? reads listed
    exact ih read

/-- A schema is refused if anything that it declares has a fault. -/
theorem schema?_eq_none_of_faulty {document : Document} (declares : document.SchemaDeclares inner)
    (faulty : Faulty inner) : document.schema? positional = none := by
  obtain ⟨tagged, pairs, name, part, rfl, mem, declares⟩ := declares
  cases read : properties? positional pairs with
  | none => rw [schema?, read, Option.map_none]
  | some others =>
    obtain ⟨d, read⟩ := descriptor?_of_properties? read mem
    exact absurd faulty (not_faulty_of_declares declares read)

end Document

end PropShape
