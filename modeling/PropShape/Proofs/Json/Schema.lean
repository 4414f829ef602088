import PropShape.TextFormat
import PropShape.Proofs.Document.Strictness
import PropShape.Proofs.Json.Decoding
import PropShape.Proofs.Json.Reading

/-!
# `PropShape.Proofs.Json.Schema`: schemas in JSON

Reading a schema from JSON undoes writing it down, and overlooks nothing
(`Schema.parse_undoes_notation`). A text that spells a document that writes a
schema is read as an equal schema, if the document is not nested too deep; a
text that spells a document with a faulty descriptor is refused.

Nesting is bounded by the JSON reader (`Json.maxNesting`), which refuses deeper
documents whatever they write (`Schema.parse_nested_too_deep`).
-/

set_option autoImplicit false

namespace PropShape

open Json (Spells SpellsText SpellsPair)

/-- What a text of JSON means is what the document means that it spells, if that is not nested too
deep. -/
theorem TextFormat.parse_of_spells {α : Type} {Means : Json.NumberMeaning} {document : Document}
    {text : String} (absent : α) (meaning : Document → Option α) (numbers : Means.Faithful)
    (spelled : SpellsText Means document text) :
    TextFormat.parse .json absent meaning text =
      if document.nesting ≤ Json.maxNesting then
        match meaning document with
        | some result => .ok result
        | none => .error .json
      else .error .json := by
  rw [TextFormat.parse, TextFormat.read?, Json.read?_of_spells numbers spelled]
  -- A text is read if its document is not nested too deeply, and only then its meaning is asked
  -- for.
  by_cases fits : document.nesting ≤ Json.maxNesting
  · rw [if_pos fits, if_pos fits, Option.map_some]
    dsimp only
    cases meaning document <;> rfl
  · rw [if_neg fits, if_neg fits]
    rfl

namespace Schema

variable {Means : Json.NumberMeaning} {document : Document} {text : String}

/-- A schema is read from the document that a text spells. -/
theorem parse_of_spells (numbers : Means.Faithful) (spelled : SpellsText Means document text)
    (fits : document.nesting ≤ Json.maxNesting) :
    Schema.parse .json text =
      match document.schema? true with
      | some schema => .ok schema
      | none => .error .json := by
  -- JSON may give the fields of a descriptor in a list.
  have positional : TextFormat.positional .json = true := rfl
  rw [Schema.parse, positional, TextFormat.parse_of_spells _ _ numbers spelled, if_pos fits]
  cases document.schema? true <;> rfl

/-- A text of a document that is nested too deeply is refused. -/
theorem parse_of_nested (numbers : Means.Faithful) (spelled : SpellsText Means document text)
    (deep : Json.maxNesting < document.nesting) : Schema.parse .json text = .error .json := by
  rw [Schema.parse, TextFormat.parse_of_spells _ _ numbers spelled, if_neg (by omega)]

/-! ## A schema with one property -/

/-- A property of any type, with a default. -/
def ofDefault (v : Value) : Schema :=
  .ofList [("data", { type := .builtin .any, default? := some v })]

/-- What is written under the fields of the property, for a notation of the default. -/
def defaultFields (default : Document) : Field → Document
  | .className => Json.nullScalar
  | .default => default
  | _ => Json.stringScalar "any"

/-- The notation of the schema, for a notation of the default. -/
def defaultDocument (default : Document) : Document :=
  .mapping false [("data", .mapping false
    [("className", Json.nullScalar), ("default", default), ("type", Json.stringScalar "any")])]

/-- The text of the schema, for a text of the default. -/
def defaultText (default : List Char) : List Char :=
  "\x7b\"data\":\x7b\"className\":null,\"default\":".toList ++ default ++
    ",\"type\":\"any\"\x7d\x7d".toList

/-- A schema with one property is written by the document with the default of that property. -/
theorem ofDefault_writtenAs {v : Value} {default : Document} (h : v.WrittenAs List.Perm default) :
    (ofDefault v).WrittenAs List.Perm (defaultDocument default) := by
  refine @WrittenAs.intro List.Perm (ofDefault v) ["data"] (fun _ => .mapping false
    ([.className, .default, .type].map fun field => (field.name, defaultFields default field)))
    (.refl _) fun name d found => ?_
  -- There is only one property to find.
  obtain ⟨-, rfl⟩ : name = "data" ∧
      ({ type := .builtin .any, default? := some v } : Descriptor) = d := by
    simpa [ofDefault, OrderedMap.ofList, OrderedMap.get?_insert] using found
  refine .intro rfl (by decide) ?_ ?_
  · simp only [List.forall_mem_cons, List.not_mem_nil, false_imp_iff, implies_true, and_true]
    exact ⟨.noClassName rfl, .default rfl h, .type fun _ same => by cases same⟩
  · -- The fields that are left out have the values of a blank draft.
    intro field absent
    cases field with
    | className | default | type => exact absurd absent (by decide)
    | _ => rfl

/-- The text of that document spells it. -/
theorem spells_defaultText {default : Document} {cs : List Char} (h : Spells Means default cs) :
    SpellsText Means (defaultDocument default) (.ofList (defaultText cs)) := by
  have className : SpellsPair Means ("className", Json.nullScalar) _ :=
    Json.spellsPair_of_plain (by decide) .null
  have default : SpellsPair Means ("default", default) _ :=
    Json.spellsPair_of_plain (by decide) h
  have type : SpellsPair Means ("type", Json.stringScalar "any") _ :=
    Json.spellsPair_of_plain (by decide) (.string (Json.spellsChars_of_plain (by decide)))
  have data : SpellsPair Means ("data", .mapping false _) _ :=
    Json.spellsPair_of_plain (by decide) (.mapping (Json.spellsPairs_more className
      (Json.spellsPairs_more default (Json.spellsPairs_last type))))
  -- The pairs put together are the text.
  refine ⟨[], _, [], Json.blanks_nil, .mapping (Json.spellsPairs_last data), Json.blanks_nil, ?_⟩
  -- no equation of the text is used here, because Lean would evaluate its strings for it
  delta defaultText
  simp only [String.toList_ofList, String.reduceToList, List.append_assoc, List.cons_append,
    List.nil_append, List.append_nil]

/-! ## Reading what was written -/

/-- Reading a schema from JSON undoes writing it, and overlooks nothing. A schema whose values
JSON can write is read from every text of every document that writes it and is nested at most
127 deep: the result is equal to the schema, and its properties are in the order of the
document. Whatever its nesting, a text is refused if its document declares a descriptor that has
a key besides the nine fields, has one of them twice, or lacks the type. -/
theorem parse_undoes_notation :
    (∀ (schema : Schema) (document : Document) (text : String),
      schema.WrittenAs List.Perm document → document.nesting ≤ 127 →
      SpellsText Json.Integers document text →
      ∃ result, Schema.parse .json text = .ok result ∧
        schema.Agree (fun d x => d.equals x = true) result ∧ result.WrittenAs Eq document) ∧
    ∀ (Means : Json.NumberMeaning) (document : Document) (text : String)
      (inner : List (String × Document)), Means.Faithful → SpellsText Means document text →
      document.SchemaDeclares inner → Faulty inner → Schema.parse .json text = .error .json := by
  constructor
  · intro schema document text written fits spelled
    -- The document is read as a schema, and the text as that document.
    obtain ⟨result, read, equal, written⟩ := written.read true
    refine ⟨result, ?_, equal, written⟩
    rw [parse_of_spells Json.faithful_integers spelled fits, read]
  · intro Means document text inner numbers spelled declares faulty
    -- A document that is nested too deep is refused for that, before its faults are met.
    by_cases fits : document.nesting ≤ Json.maxNesting
    · rw [parse_of_spells numbers spelled fits,
        Document.schema?_eq_none_of_faulty declares faulty]
    · exact parse_of_nested numbers spelled (by omega)

/-- A property with a default of -7 is read, and a property with a limit is refused. -/
theorem parse_undoes_notation_integer :
    (∃ result, Schema.parse .json (.ofList (defaultText ['-', '7'])) = .ok result ∧
      (ofDefault (.number ⟨0xC01C000000000000⟩)).Agree (fun d x => d.equals x = true) result ∧
      result.WrittenAs Eq (defaultDocument (Json.numberScalar ⟨0xC01C000000000000⟩))) ∧
    Schema.parse .json "\x7b\"data\":\x7b\"type\":\"any\",\"limit\":null\x7d\x7d" =
      .error .json := by
  constructor
  · -- These are the bits of -7.
    have integer : (Number.mk 0xC01C000000000000).toInt? = some (-7) := by decide +kernel
    have spelled : Spells Json.Integers (Json.numberScalar ⟨0xC01C000000000000⟩) ['-', '7'] :=
      .number (Json.spells_ofInteger _ 7) ⟨-7, integer, by decide, rfl⟩
    exact parse_undoes_notation.1 _ _ _ (ofDefault_writtenAs (.integer integer (by decide)))
      (by decide) (spells_defaultText spelled)
  · let pairs := [("type", Json.stringScalar "any"), ("limit", Json.nullScalar)]
    have type : SpellsPair Json.AnyNumbers ("type", Json.stringScalar "any") _ :=
      Json.spellsPair_of_plain (by decide) (.string (Json.spellsChars_of_plain (by decide)))
    have limit : SpellsPair Json.AnyNumbers ("limit", Json.nullScalar) _ :=
      Json.spellsPair_of_plain (by decide) .null
    have data : SpellsPair Json.AnyNumbers ("data", .mapping false pairs) _ :=
      Json.spellsPair_of_plain (by decide)
        (.mapping (Json.spellsPairs_more type (Json.spellsPairs_last limit)))
    -- No field is called "limit".
    have faulty : Faulty pairs := by
      refine @Faulty.unknown _ "limit" (by decide) fun field => ?_
      cases field <;> decide
    refine parse_undoes_notation.2 _ _ _ pairs Json.faithful_anyNumbers ⟨[], _, [],
      Json.blanks_nil, .mapping (Json.spellsPairs_last data), Json.blanks_nil, ?_⟩
      ⟨_, _, _, _, rfl, List.mem_singleton.mpr rfl, .self⟩ faulty
    simp only [String.reduceToList, List.cons_append, List.nil_append, List.append_nil]

end Schema

/-! ## Documents that are nested too deep -/

/-- An empty array, inside of `n` further ones. -/
def Value.nested : Nat → Value
  | 0 => .array []
  | n + 1 => .array [nested n]

/-- Empty lists, one inside the other. -/
def Document.nested : Nat → Document
  | 0 => .list false []
  | n + 1 => .list false [nested n]

/-- Nested arrays are written by the document of nested lists. -/
theorem Value.nested_writtenAs (order : Arrangement) (n : Nat) :
    (Value.nested n).WrittenAs order (.nested n) := by
  induction n with
  | zero => exact .array rfl nofun
  | succ n ih =>
    refine .array rfl fun mem => ?_
    cases List.mem_singleton.mp mem
    exact ih

/-- Nested lists are as deep as their number says. -/
theorem Document.nesting_nested (n : Nat) : (Document.nested n).nesting = n + 1 := by
  induction n with
  | zero => rfl
  | succ n ih => simp only [nested, nesting, nestingOfItems, ih, Nat.max_zero]

/-- Nested lists are spelled by brackets that open and then close. -/
theorem Json.spells_nested (Means : NumberMeaning) (n : Nat) :
    Spells Means (.nested n) (List.replicate (n + 1) '[' ++ List.replicate (n + 1) ']') := by
  induction n with
  | zero => exact .emptyList blanks_nil
  | succ n ih =>
    -- One bracket is split off at either end.
    have text : List.replicate (n + 2) '[' ++ List.replicate (n + 2) ']' =
        '[' :: ([] ++ (List.replicate (n + 1) '[' ++ List.replicate (n + 1) ']' ++
          ([] ++ [']']))) := by
      rw [List.replicate_succ, @List.replicate_succ' (n + 1) Char ']', List.nil_append,
        List.nil_append, List.cons_append, List.append_assoc]
    rw [text]
    exact .list (.last blanks_nil ih blanks_nil)

namespace Schema

/-- A schema is refused because of a deep default, though it is written as it should be. -/
theorem parse_nested_too_deep :
    (ofDefault (.nested 125)).WrittenAs List.Perm (defaultDocument (.nested 125)) ∧
      SpellsText Json.Integers (defaultDocument (.nested 125))
        (.ofList (defaultText (List.replicate 126 '[' ++ List.replicate 126 ']'))) ∧
      Schema.parse .json
        (.ofList (defaultText (List.replicate 126 '[' ++ List.replicate 126 ']'))) =
          .error .json := by
  -- The default is nested 126 deep, and two mappings are around it.
  have written := ofDefault_writtenAs (Value.nested_writtenAs List.Perm 125)
  have spelled := spells_defaultText (Json.spells_nested Json.Integers 125)
  refine ⟨written, spelled, parse_of_nested Json.faithful_integers spelled ?_⟩
  simp only [defaultDocument, Document.nesting, Document.nestingOfPairs, Document.nesting_nested]
  decide

end Schema

end PropShape
