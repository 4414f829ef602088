import PropShape.Proofs.Json.Image

/-!
# `PropShape.Proofs.Json.Spelling`: what a rendering spells

A rendering is a text of the JSON grammar, and spells the document of the
value (`spells_json`), at every level of indentation. The proof goes along the
value; what it needs of the parts of a text is stated for each of them: how
strings (`spellsChars_escape`), integers (`spells_integerText`), and entries
that stand one a line (`spellsItems_lines`, `spellsPairs_lines`) are spelled.
-/

set_option autoImplicit false

namespace PropShape

namespace Json

variable {Means : NumberMeaning} {cs text : List Char}

/-! ## Strings -/

/-- The four hexadecimal digits of a control character are read back as its code. -/
theorem hexQuad?_control :
    ∀ n < 32, hexQuad? '0' '0' (hexDigit (n / 16)) (hexDigit (n % 16)) = some n := by
  decide

/-- The escape of a character spells it in front of any other characters. -/
theorem spellsChars_escape_append (c : Char) (h : SpellsChars cs text) :
    SpellsChars (c :: cs) (escape c ++ text) := by
  unfold escape
  split
  -- Only the last case has no letter: a character is written by its code or as it is.
  case h_8 noQuote noEscape _ _ _ _ _ =>
    split
    · next control =>
      have unit := SpellsChars.unit (hexQuad?_control c.toNat control) (.inl (by omega)) h
      rwa [Char.ofNat_toNat] at unit
    · next visible =>
      exact .plain noQuote noEscape (by omega) h
  all_goals exact .letter rfl h

/-- A string is spelled by its escaped characters. -/
theorem spellsChars_escape (cs : List Char) : SpellsChars cs (cs.flatMap escape ++ ['"']) := by
  induction cs with
  | nil => exact .close
  | cons c cs ih =>
    rw [List.flatMap_cons, List.append_assoc]
    exact spellsChars_escape_append c ih

/-- A quoted text is made of the escapes of its characters, between quotes. -/
theorem toList_quoted (s : String) :
    (quoted s).toList = '"' :: (s.toList.flatMap escape ++ ['"']) := by
  rw [quoted, String.toList_ofList, List.cons_append]

/-- A quoted text spells its string. -/
theorem spells_quoted (s : String) : Spells Means (stringScalar s) (quoted s).toList := by
  rw [toList_quoted]
  exact .string (spellsChars_escape s.toList)

/-! ## Words and numbers -/

/-- The word for null spells it. -/
theorem spells_null : Spells Means nullScalar "null".toList := by
  simp only [String.reduceToList]
  exact .null

/-- The words for the truth values spell them. -/
theorem spells_bool (b : Bool) :
    Spells Means (boolScalar b) (if b then "true" else "false").toList := by
  cases b with
  | false =>
    simp only [Bool.false_eq_true, if_false, String.reduceToList]
    exact .isFalse
  | true =>
    simp only [if_true, String.reduceToList]
    exact .isTrue

/-- Two braces spell an empty mapping. -/
theorem spells_emptyMapping : Spells Means (.mapping false []) "\x7b\x7d".toList := by
  simp only [String.reduceToList]
  exact .emptyMapping blanks_nil

/-- The text of an integer is its sign and its digits. -/
theorem toList_integerText (i : Int) :
    (integerText i).toList = (if i < 0 then ['-'] else []) ++ Nat.toDigits 10 i.natAbs := by
  have digits : (Nat.repr i.natAbs).toList = Nat.toDigits 10 i.natAbs := String.toList_ofList
  unfold integerText
  split
  · rw [String.toList_append, digits]
    rfl
  · exact digits

/-- An integer is spelled by its canonical digits; a zero has no sign. -/
theorem spells_integerText {n : Number} {i : Int} (integer : n.toInt? = some i)
    (small : i.natAbs ≤ Nat.pow 2 53) :
    Spells Integers (numberScalar (if n.isZero then .zero else n)) (integerText i).toList := by
  rw [toList_integerText]
  split
  · next zero =>
    -- Both zeros are written as zero.
    rw [(Number.isZero_iff_of_toInt? integer).mp zero]
    exact .number (spells_ofInteger .zero 0) ⟨0, by decide +kernel, by decide, rfl⟩
  · next nonzero =>
    -- Of any other integer, the sign of the number is that of the integer.
    have sign : n.isNegative = decide (i < 0) :=
      Number.isNegative_of_toInt? integer fun zero =>
        nonzero ((Number.isZero_iff_of_toInt? integer).mpr zero)
    have digits := spells_ofInteger n i.natAbs
    simp only [sign, decide_eq_true_eq] at digits
    exact .number digits ⟨i, integer, small, rfl⟩

/-- A number is null if it is not finite, and otherwise the integer that it is. -/
theorem spells_number {n : Number} (integer : n.isFinite = true →
      ∃ i, n.toInt? = some i ∧ i.natAbs ≤ Nat.pow 2 53) :
    Spells Integers (Value.number n).document (n.text jsonStyle).toList := by
  rw [Value.document, Number.text]
  by_cases finite : n.isFinite = true
  · obtain ⟨i, integer, small⟩ := integer finite
    have number : n.isNaN = false := Number.isNaN_of_isFinite finite
    -- The integer is short enough to be written without an exponent.
    have short : i.natAbs < Nat.pow 10 21 := Nat.lt_of_le_of_lt small (by decide)
    simp only [finite, number, integer, short, if_true, Bool.not_true, Bool.false_eq_true, if_false]
    exact spells_integerText integer small
  · -- JSON has one word for all numbers that are not finite.
    have word : (if n.isNaN = true then jsonStyle.nan
        else if n.isNegative = true then jsonStyle.negativeInfinity else jsonStyle.infinity) =
        "null" := by
      split
      · rfl
      · split <;> rfl
    simp only [finite, Bool.not_false, if_true, Bool.false_eq_true, if_false, word]
    exact spells_null

/-! ## Entries between brackets -/

/-- What stands in front of an entry: the end of a line and the indentation of the next one. -/
def lineStart (level : Nat) : List Char := '\n' :: List.replicate level ' '

/-- The start of a line is blank. -/
theorem blanks_lineStart (level : Nat) : Blanks (lineStart level) := by
  intro c mem
  rcases List.mem_cons.mp mem with rfl | mem
  · decide
  · rw [List.eq_of_mem_replicate mem]
    decide

/-- Entries, each on a line of its own, and the end of the last line. -/
def entryLines (level : Nat) : List String → List Char
  | [] => []
  | [entry] => lineStart (level + 1) ++ (entry.toList ++ lineStart level)
  | entry :: next :: rest =>
    lineStart (level + 1) ++ (entry.toList ++ ',' :: entryLines level (next :: rest))

/-- Entries between brackets stand one a line, and none leave the bare brackets. -/
theorem toList_bracketed (opening closing : String) (level : Nat) (entries : List String) :
    (Value.bracketed opening closing level entries).toList =
      opening.toList ++ (entryLines level entries ++ closing.toList) := by
  cases entries with
  | nil => exact String.toList_append
  | cons entry rest =>
    -- The last entry has no comma behind it, so the induction is on the entries that follow the
    -- first.
    have joined : ∀ entry : String,
        lineStart (level + 1) ++ (List.intercalate (',' :: lineStart (level + 1))
          ((entry :: rest).map String.toList) ++ lineStart level) =
          entryLines level (entry :: rest) := by
      induction rest with
      | nil =>
        intro entry
        rw [List.map_singleton, List.intercalate_singleton, entryLines]
      | cons next rest ih =>
        intro entry
        rw [entryLines, ← ih next, List.map_cons, List.map_cons, List.intercalate_cons_cons]
        simp only [List.append_assoc, List.cons_append]
    rw [← joined entry]
    simp only [Value.bracketed, String.toList_append, String.toList_intercalate,
      String.toList_ofList, String.reduceToList, lineStart, List.append_assoc, List.cons_append,
      List.nil_append]

/-- The items of an array, one a line. -/
theorem spellsItems_lines {items : List Document} {entries : List String} (level : Nat)
    (filled : items ≠ [])
    (h : List.Forall₂ (fun d entry => Spells Means d entry.toList) items entries) :
    SpellsItems Means items (entryLines level entries ++ [']']) := by
  induction h with
  | nil => exact absurd rfl filled
  | cons first others ih =>
    -- Each item but the last has a comma behind it.
    cases others with
    | nil =>
      simp only [entryLines, List.append_assoc]
      exact .last (blanks_lineStart _) first (blanks_lineStart _)
    | cons second others =>
      simp only [entryLines, List.append_assoc, List.cons_append]
      exact .more (blanks_lineStart _) first blanks_nil (ih (List.cons_ne_nil _ _))

/-- How a pair stands on a line. -/
theorem spellsPair_line {value : Document} (level : Nat) (key : String) {entry : String}
    (h : Spells Means value entry.toList) :
    SpellsPair Means (key, value)
      (lineStart level ++ (quoted key ++ ": " ++ entry).toList) := by
  have blank : Blanks [' '] := by
    intro c mem
    rw [List.mem_singleton.mp mem]
    rfl
  rw [String.toList_append, String.toList_append, toList_quoted]
  simp only [String.reduceToList, List.append_assoc, List.cons_append, List.nil_append]
  have pair := SpellsPair.intro ⟨blanks_lineStart level, blanks_nil, blank⟩
    (spellsChars_escape key.toList) h
  simpa only [List.append_assoc, List.cons_append, List.nil_append] using pair

/-- The pairs of an object, one a line. -/
theorem spellsPairs_lines {pairs : List (String × Document)} {entries : List String} (level : Nat)
    (filled : pairs ≠ [])
    (h : List.Forall₂ (fun pair entry =>
      SpellsPair Means pair (lineStart (level + 1) ++ entry.toList)) pairs entries) :
    SpellsPairs Means pairs (entryLines level entries ++ ['\x7d']) := by
  induction h with
  | nil => exact absurd rfl filled
  | cons first others ih =>
    cases others with
    | nil =>
      have last := SpellsPairs.last first (blanks_lineStart level)
      simpa only [entryLines, List.append_assoc] using last
    | cons second others =>
      have more := SpellsPairs.more first blanks_nil (ih (List.cons_ne_nil _ _))
      simpa only [entryLines, List.append_assoc, List.cons_append, List.nil_append] using more

end Json

/-! ## Values -/

namespace Value

open Json (Spells)

/-- An array is written by the texts of its items, between brackets. -/
theorem json_array (level : Nat) (items : List Value) :
    (Value.array items).json level = bracketed "[" "]" level (items.map (json (level + 1))) := by
  rw [json, eq_map_of_cons (jsonItems (level + 1)) rfl fun _ _ => rfl]

/-- A record is written by its names and the texts of what it holds, between braces. -/
theorem json_object (level : Nat) (record : Record) :
    (Value.object record).json level =
      bracketed "\x7b" "\x7d" level (record.rendered.map fun pair =>
        Json.quoted pair.1 ++ ": " ++ pair.2.json (level + 1)) := by
  obtain ⟨className, ⟨keys, fields⟩⟩ := record
  have entries : jsonFields (level + 1) fields =
      (fields.toList.filter fun pair => pair.2.isRenderable).map fun pair =>
        Json.quoted pair.1 ++ ": " ++ pair.2.json (level + 1) :=
    Entries.eq_map_filter (jsonFields (level + 1)) rfl (fun _ _ _ _ => rfl) fields
  rw [json, entries]
  rfl

/-- The finite numbers in a value are integers of magnitude at most `2 ^ 53`. -/
def HoldsIntegers (v : Value) : Prop :=
  ∀ n, v = .number n ∨ (Value.number n).StrictPart v → n.isFinite = true →
    ∃ i, n.toInt? = some i ∧ i.natAbs ≤ Nat.pow 2 53

/-- If a value holds only integers, so does each of its parts. -/
theorem HoldsIntegers.of_holds {v part : Value} (h : v.HoldsIntegers) (inside : v.Holds part) :
    part.HoldsIntegers := by
  intro n occurs
  refine h n (.inr ?_)
  rcases occurs with rfl | deeper
  · exact .single inside
  · exact .head inside deeper

/-- A rendering spells the document of the value, wherever it stands. -/
theorem spells_json {v : Value} (integers : v.HoldsIntegers) (level : Nat) :
    Spells Json.Integers v.document (v.json level).toList := by
  -- The parts of a value stand one level further in, so the level is any one throughout.
  induction v using partsRecursion generalizing level with
  | step v ih =>
    have parts : ∀ part, v.Holds part → ∀ level,
        Spells Json.Integers part.document (part.json level).toList :=
      fun part inside => ih part inside (integers.of_holds inside)
    cases v with
    -- Inside an array, what has no form is written as null.
    | undefined | null | symbol | function => exact Json.spells_null
    | bool b => exact Json.spells_bool b
    | number n => exact Json.spells_number (integers n (.inl rfl))
    | string s => exact Json.spells_quoted s
    | date d => exact Json.spells_quoted d.text
    | element tag => exact Json.spells_emptyMapping
    | array items =>
      rw [document_array, json_array, Json.toList_bracketed]
      cases items with
      | nil => exact .emptyList Json.blanks_nil
      | cons item rest =>
        refine .list (Json.spellsItems_lines level (List.cons_ne_nil _ _) ?_)
        refine List.forall₂_map_left_iff.mpr (List.forall₂_map_right_iff.mpr ?_)
        exact List.forall₂_same.mpr fun part mem => parts part (.item mem) (level + 1)
    | object record =>
      rw [document_object, json_object, Json.toList_bracketed]
      have parts : ∀ pair ∈ record.rendered, ∀ level,
          Spells Json.Integers pair.2.document (pair.2.json level).toList :=
        fun pair mem => parts pair.2 (Record.holds_of_mem_rendered mem)
      -- The fields are any list from here on, because nothing else matters about them.
      generalize record.rendered = fields at parts
      cases fields with
      | nil => exact .emptyMapping Json.blanks_nil
      | cons field rest =>
        refine .mapping (Json.spellsPairs_lines level (List.cons_ne_nil _ _) ?_)
        refine List.forall₂_map_left_iff.mpr (List.forall₂_map_right_iff.mpr ?_)
        exact List.forall₂_same.mpr fun pair mem =>
          Json.spellsPair_line (level + 1) pair.1 (parts pair mem (level + 1))

end Value

end PropShape
