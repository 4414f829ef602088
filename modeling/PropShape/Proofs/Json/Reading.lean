import PropShape.Json.Reader
import PropShape.Proofs.Json.Number
import Mathlib.Data.List.DropRight

/-!
# `PropShape.Proofs.Json.Reading`: every JSON text is read

`Spells` is the grammar of JSON: which texts write a document, with any blanks
between their parts and any escapes in their strings. `Document.nesting` counts
how deep arrays and objects are nested.

A text is read as what it spells, unless that is nested too deep, in which
case it is refused (`readValue?_of_spells`, `read?_of_spells`).
-/

set_option autoImplicit false

namespace PropShape

mutual

/-- How many arrays and objects are nested in each other. -/
def Document.nesting : Document → Nat
  | .scalar _ => 0
  | .list _ items => nestingOfItems items + 1
  | .mapping _ pairs => nestingOfPairs pairs + 1

/-- The nesting of the deepest item. -/
def Document.nestingOfItems : List Document → Nat
  | [] => 0
  | item :: items => max item.nesting (nestingOfItems items)

/-- The nesting of the deepest value. -/
def Document.nestingOfPairs : List (String × Document) → Nat
  | [] => 0
  | (_, value) :: pairs => max value.nesting (nestingOfPairs pairs)

end

namespace Json

/-! ## The grammar -/

/-- Any number of blanks. -/
def Blanks (cs : List Char) : Prop := ∀ c ∈ cs, isBlank c = true

/-- How the characters of a string are written, with the closing quote. -/
inductive SpellsChars : List Char → List Char → Prop
  | close : SpellsChars [] ['"']
  | plain {c : Char} {cs text : List Char} (noQuote : c ≠ '"') (noEscape : c ≠ '\\')
    (noControl : 32 ≤ c.toNat) (h : SpellsChars cs text) : SpellsChars (c :: cs) (c :: text)
  | letter {letter c : Char} {cs text : List Char} (escape : escapeLetter? letter = some c)
    (h : SpellsChars cs text) : SpellsChars (c :: cs) ('\\' :: letter :: text)
  | unit {a b c d : Char} {unit : Nat} {cs text : List Char} (quad : hexQuad? a b c d = some unit)
    (single : unit < 0xd800 ∨ 0xdfff < unit) (h : SpellsChars cs text) :
    SpellsChars (Char.ofNat unit :: cs) ('\\' :: 'u' :: a :: b :: c :: d :: text)
  | pair {a b c d a' b' c' d' : Char} {high low : Nat} {cs text : List Char}
    (quad : hexQuad? a b c d = some high) (quad' : hexQuad? a' b' c' d' = some low)
    (first : 0xd800 ≤ high ∧ high ≤ 0xdbff) (second : 0xdc00 ≤ low ∧ low ≤ 0xdfff)
    (h : SpellsChars cs text) :
    SpellsChars (pairChar high low :: cs)
      ('\\' :: 'u' :: a :: b :: c :: d :: '\\' :: 'u' :: a' :: b' :: c' :: d' :: text)

mutual

/-- How a document is written in JSON. -/
inductive Spells (Means : NumberMeaning) : Document → List Char → Prop
  | null : Spells Means nullScalar ['n', 'u', 'l', 'l']
  | isTrue : Spells Means (boolScalar true) ['t', 'r', 'u', 'e']
  | isFalse : Spells Means (boolScalar false) ['f', 'a', 'l', 's', 'e']
  | string {s : String} {text : List Char} (h : SpellsChars s.toList text) :
    Spells Means (stringScalar s) ('"' :: text)
  | number {parts : NumberParts} {n : Number} {text : List Char} (h : parts.Spells text)
    (means : Means parts n) : Spells Means (numberScalar n) text
  | emptyList {blanks : List Char} (blank : Blanks blanks) :
    Spells Means (.list false []) ('[' :: (blanks ++ [']']))
  | list {items : List Document} {text : List Char}
    (h : SpellsItems Means items text) : Spells Means (.list false items) ('[' :: text)
  | emptyMapping {blanks : List Char} (blank : Blanks blanks) :
    Spells Means (.mapping false []) ('\x7b' :: (blanks ++ ['\x7d']))
  | mapping {pairs : List (String × Document)} {text : List Char}
    (h : SpellsPairs Means pairs text) : Spells Means (.mapping false pairs) ('\x7b' :: text)

/-- How the items of an array are written, with the closing bracket. -/
inductive SpellsItems (Means : NumberMeaning) : List Document → List Char → Prop
  | last {item : Document} {before text after : List Char} (front : Blanks before)
    (h : Spells Means item text) (back : Blanks after) :
    SpellsItems Means [item] (before ++ (text ++ (after ++ [']'])))
  | more {item : Document} {items : List Document} {before text after others : List Char}
    (front : Blanks before) (h : Spells Means item text) (back : Blanks after)
    (rest : SpellsItems Means items others) :
    SpellsItems Means (item :: items) (before ++ (text ++ (after ++ ',' :: others)))

/-- How the pairs of an object are written, with the closing bracket. -/
inductive SpellsPairs (Means : NumberMeaning) : List (String × Document) → List Char → Prop
  | last {pair : String × Document} {text after : List Char} (h : SpellsPair Means pair text)
    (back : Blanks after) : SpellsPairs Means [pair] (text ++ (after ++ ['\x7d']))
  | more {pair : String × Document} {pairs : List (String × Document)}
    {text after others : List Char} (h : SpellsPair Means pair text) (back : Blanks after)
    (rest : SpellsPairs Means pairs others) :
    SpellsPairs Means (pair :: pairs) (text ++ (after ++ ',' :: others))

/-- How a key and its value are written. -/
inductive SpellsPair (Means : NumberMeaning) : String × Document → List Char → Prop
  | intro {key : String} {value : Document} {before name after front text : List Char}
    (blanks : Blanks before ∧ Blanks after ∧ Blanks front) (named : SpellsChars key.toList name)
    (h : Spells Means value text) :
    SpellsPair Means (key, value) (before ++ '"' :: (name ++ (after ++ ':' :: (front ++ text))))

end

/-- How a text is written that is one JSON value, perhaps with blanks around it. -/
def SpellsText (Means : NumberMeaning) (d : Document) (text : String) : Prop :=
  ∃ before value after, Blanks before ∧ Spells Means d value ∧ Blanks after ∧
    text.toList = before ++ (value ++ after)

/-! ### Texts without blanks and escapes -/

section

variable {Means : NumberMeaning}

/-- Characters that stand for themselves. -/
def plain (cs : List Char) : Bool := cs.all fun c => c != '"' && c != '\\' && 32 ≤ c.toNat

/-- Characters that need no escape spell themselves, up to the closing quote. -/
theorem spellsChars_of_plain {cs : List Char} (h : plain cs = true) :
    SpellsChars cs (cs ++ ['"']) := by
  induction cs with
  | nil => exact .close
  | cons c cs ih =>
    simp only [plain, List.all_cons, Bool.and_eq_true, bne_iff_ne, decide_eq_true_eq] at h
    obtain ⟨⟨⟨noQuote, noEscape⟩, noControl⟩, rest⟩ := h
    exact .plain noQuote noEscape noControl (ih rest)

/-- No character at all counts as blank. -/
theorem blanks_nil : Blanks [] := fun _ mem => nomatch mem

/-- A pair without blanks and escapes. -/
theorem spellsPair_of_plain {key : String} {document : Document} {text : List Char}
    (h : plain key.toList = true) (value : Spells Means document text) :
    SpellsPair Means (key, document) ('"' :: (key.toList ++ ['"'] ++ ':' :: text)) :=
  .intro ⟨blanks_nil, blanks_nil, blanks_nil⟩ (spellsChars_of_plain h) value

/-- A text without blanks around the value. -/
theorem spellsText_of_spells {document : Document} {text : String}
    (h : Spells Means document text.toList) : SpellsText Means document text :=
  ⟨[], _, [], blanks_nil, h, blanks_nil, (List.append_nil _).symm⟩

/-- The last pair of a mapping is followed by the closing brace. -/
theorem spellsPairs_last {pair : String × Document} {text : List Char}
    (h : SpellsPair Means pair text) : SpellsPairs Means [pair] (text ++ ['\x7d']) :=
  .last h blanks_nil

/-- Any other pair is followed by a comma and the pairs after it. -/
theorem spellsPairs_more {pair : String × Document} {pairs : List (String × Document)}
    {text others : List Char} (h : SpellsPair Means pair text)
    (rest : SpellsPairs Means pairs others) :
    SpellsPairs Means (pair :: pairs) (text ++ ',' :: others) :=
  .more h blanks_nil rest

end

/-! ## Strings -/

/-- A string is read up to its closing quote, in every spelling. -/
theorem readString?_of_spells {cs text : List Char} (h : SpellsChars cs text) (rest : List Char) :
    readString? (text ++ rest) = some (cs, rest) := by
  induction h with
  | close => rfl
  -- A plain character matches none of the patterns for a quote or an escape.
  | @plain c cs text noQuote noEscape noControl h ih =>
    rw [List.cons_append, readString?, if_neg (by omega), ih]
    · rfl
    · exact noQuote
    · exact fun _ _ _ _ _ escape => absurd escape noEscape
    · exact fun _ _ escape => absurd escape noEscape
  | @letter letter c cs text escape h ih =>
    -- The pattern of a code unit comes first, so it has to be ruled out.
    have noUnit : letter ≠ 'u' := by
      rintro rfl
      cases escape
    rw [List.cons_append, List.cons_append, readString?, escape, ih]
    · rfl
    · exact fun _ _ _ _ _ unit => absurd unit noUnit
  | unit quad single h ih =>
    simp only [List.cons_append, readString?, quad]
    rw [if_neg (by omega), if_neg (by omega), ih]
    rfl
  -- The first unit is a high surrogate, so a second one is read behind it.
  | pair quad quad' first second h ih =>
    simp only [List.cons_append, readString?, quad, quad']
    rw [if_neg (by omega), if_pos (by omega), if_pos second, ih]
    rfl

/-! ## Blanks -/

section

variable {Means : NumberMeaning} {blanks cs rest : List Char} {c : Char} {d : Document}
  {fuel depth : Nat}

/-- Blanks in front are skipped. -/
theorem skipBlanks_append (h : Blanks blanks) (rest : List Char) :
    skipBlanks (blanks ++ rest) = skipBlanks rest :=
  List.dropWhile_append_of_pos h

/-- Nothing is skipped in front of a character that is not blank. -/
theorem skipBlanks_cons (h : isBlank c = false) : skipBlanks (c :: rest) = c :: rest := by
  rw [skipBlanks, List.dropWhile_cons_of_neg (by simp [h])]

/-- Blanks before a character that is none are skipped. -/
theorem skipBlanks_append_cons (h : Blanks blanks) (mark : isBlank c = false) :
    skipBlanks (blanks ++ c :: rest) = c :: rest := by
  rw [skipBlanks_append h, skipBlanks_cons mark]

/-- Once skipped, there are no blanks left to skip. -/
theorem skipBlanks_skipBlanks (cs : List Char) : skipBlanks (skipBlanks cs) = skipBlanks cs :=
  List.dropWhile_idempotent ..

/-- A value is read behind the blanks in front of it. -/
theorem readValue?_skipBlanks (fuel depth : Nat) (cs : List Char) :
    readValue? fuel depth (skipBlanks cs) = readValue? fuel depth cs := by
  cases fuel with
  | zero => rfl
  | succ fuel => rw [readValue?, readValue?, skipBlanks_skipBlanks]

/-- Blanks in front of a value do not change what is read. -/
theorem readValue?_append (h : Blanks blanks) (fuel depth : Nat) (rest : List Char) :
    readValue? fuel depth (blanks ++ rest) = readValue? fuel depth rest := by
  rw [← readValue?_skipBlanks, skipBlanks_append h, readValue?_skipBlanks]

/-- Nor do blanks in front of the items of an array. -/
theorem readItems?_skipBlanks (fuel depth : Nat) (cs : List Char) :
    readItems? fuel depth (skipBlanks cs) = readItems? fuel depth cs := by
  cases fuel with
  | zero => rfl
  | succ fuel => rw [readItems?, readItems?, readValue?_skipBlanks]

/-- Nor do blanks in front of the pairs of an object. -/
theorem readPairs?_skipBlanks (fuel depth : Nat) (cs : List Char) :
    readPairs? fuel depth (skipBlanks cs) = readPairs? fuel depth cs := by
  cases fuel with
  | zero => rfl
  | succ fuel => rw [readPairs?, readPairs?, skipBlanks_skipBlanks]

/-- A number may stand at the end of the text. -/
theorem endsNumber_nil : EndsNumber [] := fun _ head => nomatch head

/-- A number does not go on with a blank or with what closes or separates values. -/
theorem endsNumber_cons (mark : isBlank c = true ∨ c = ',' ∨ c = ']' ∨ c = '\x7d') :
    EndsNumber (c :: rest) := by
  rintro c head
  cases head
  simp only [isBlank, Bool.or_eq_true, beq_iff_eq, or_assoc] at mark
  -- The four blanks and the three marks are gone through one by one.
  rcases mark with rfl | rfl | rfl | rfl | rfl | rfl | rfl <;> decide

/-- A number may be followed by blanks, whatever comes after these. -/
theorem endsNumber_append (h : Blanks blanks) (ends : EndsNumber rest) :
    EndsNumber (blanks ++ rest) := by
  cases blanks with
  | nil => exact ends
  | cons c blanks => exact endsNumber_cons (.inl (h c List.mem_cons_self))

/-! ## Values -/

/-- A number starts with a sign or a digit. -/
theorem NumberParts.Spells.exists_cons {parts : NumberParts} {text : List Char}
    (h : parts.Spells text) : ∃ c cs, text = c :: cs ∧ (c = '-' ∨ c.isDigit = true) := by
  cases h with
  | intro whole leading fraction h =>
    cases parts.negative with
    | true => exact ⟨_, _, rfl, .inl rfl⟩
    | false =>
      -- Without a sign the number starts with the first digit of its whole part.
      obtain ⟨c, digits, heq⟩ := List.exists_cons_of_ne_nil whole.1
      refine ⟨c, _, by rw [heq]; rfl, .inr (whole.2 c ?_)⟩
      rw [heq]
      exact List.mem_cons_self

/-- What a number starts with starts nothing else. -/
theorem noBlank_of_number (start : c = '-' ∨ c.isDigit = true) :
    isBlank c = false ∧ c ≠ 'n' ∧ c ≠ 't' ∧ c ≠ 'f' ∧ c ≠ '"' ∧ c ≠ '[' ∧ c ≠ '\x7b' ∧
      c ≠ ']' := by
  rcases start with rfl | digit
  · decide
  · have apart : ∀ other : Char, other.isDigit = false → c ≠ other := by
      rintro other noDigit rfl
      exact absurd digit (by simp [noDigit])
    simp [isBlank, apart]

/-- A value that starts like a number is read as one. -/
theorem readValue?_of_number (start : c = '-' ∨ c.isDigit = true) :
    readValue? (fuel + 1) depth (c :: cs) =
      (scanNumber? (c :: cs)).bind fun (parts, rest) =>
        parts.number?.map fun n => (numberScalar n, rest) := by
  obtain ⟨noBlank, apart⟩ := noBlank_of_number start
  rw [readValue?, skipBlanks_cons noBlank]
  -- The patterns in front of that of numbers are those that the first character rules out.
  split
  case h_7 => cases scanNumber? (c :: cs) <;> rfl
  all_goals
    next heq =>
      cases heq
      simp at apart

/-- What a value starts with is neither a blank nor a closing bracket. -/
theorem Spells.exists_cons {text : List Char} (h : Spells Means d text) :
    ∃ c cs, text = c :: cs ∧ isBlank c = false ∧ c ≠ ']' := by
  cases h with
  | null | isTrue | isFalse | string | emptyList | list | emptyMapping | mapping =>
    exact ⟨_, _, rfl, by decide, by decide⟩
  | number h means =>
    obtain ⟨c, cs, rfl, start⟩ := h.exists_cons
    obtain ⟨noBlank, apart⟩ := noBlank_of_number start
    exact ⟨c, cs, rfl, noBlank, apart.2.2.2.2.2.2⟩

/-- Behind the blanks, items start with something else than the closing bracket. -/
theorem SpellsItems.exists_skipBlanks {items : List Document} {text : List Char}
    (h : SpellsItems Means items text) (rest : List Char) :
    ∃ c cs, skipBlanks (text ++ rest) = c :: cs ∧ c ≠ ']' := by
  cases h with
  | last front h back | more front h back others =>
    obtain ⟨c, cs, rfl, noBlank, noBracket⟩ := h.exists_cons
    simp only [List.append_assoc, List.cons_append, skipBlanks_append front]
    exact ⟨c, _, skipBlanks_cons noBlank, noBracket⟩

/-- Behind the blanks, a pair starts with the quote of its name. -/
theorem SpellsPair.exists_skipBlanks {pair : String × Document} {text : List Char}
    (h : SpellsPair Means pair text) (rest : List Char) :
    ∃ cs, skipBlanks (text ++ rest) = '"' :: cs := by
  cases h with
  | intro blanks named h =>
    simp only [List.append_assoc, List.cons_append, skipBlanks_append blanks.1]
    exact ⟨_, skipBlanks_cons (by decide)⟩

/-- Behind the blanks, pairs start with something else than the closing brace. -/
theorem SpellsPairs.exists_skipBlanks {pairs : List (String × Document)} {text : List Char}
    (h : SpellsPairs Means pairs text) (rest : List Char) :
    ∃ c cs, skipBlanks (text ++ rest) = c :: cs ∧ c ≠ '\x7d' := by
  cases h with
  | last h back | more h back others =>
    rw [List.append_assoc]
    obtain ⟨cs, quoted⟩ := h.exists_skipBlanks _
    exact ⟨_, cs, quoted, by decide⟩

/-- An array is read one level further in: it ends at once, or has items. -/
theorem readValue?_list (fuel depth : Nat) (cs : List Char) :
    readValue? (fuel + 1) (depth + 1) ('[' :: cs) =
      match skipBlanks cs with
      | ']' :: rest => some (.list false [], rest)
      | cs => (readItems? fuel depth cs).map fun (items, rest) => (.list false items, rest) := by
  rw [readValue?, skipBlanks_cons (by decide)]
  rfl

/-- An object is read one level further in: it ends at once, or has pairs. -/
theorem readValue?_mapping (fuel depth : Nat) (cs : List Char) :
    readValue? (fuel + 1) (depth + 1) ('\x7b' :: cs) =
      match skipBlanks cs with
      | '\x7d' :: rest => some (.mapping false [], rest)
      | cs => (readPairs? fuel depth cs).map fun (pairs, rest) => (.mapping false pairs, rest) := by
  rw [readValue?, skipBlanks_cons (by decide)]
  rfl

/-- An array whose bracket is not closed at once has items. -/
theorem readValue?_of_items (filled : ∃ c rest, skipBlanks cs = c :: rest ∧ c ≠ ']') :
    readValue? (fuel + 1) (depth + 1) ('[' :: cs) =
      (readItems? fuel depth cs).map fun (items, rest) => (.list false items, rest) := by
  obtain ⟨c, rest, skipped, noBracket⟩ := filled
  rw [readValue?_list, ← readItems?_skipBlanks, skipped]
  split
  · next heq =>
    cases heq
    exact absurd rfl noBracket
  · rfl

/-- An object whose bracket is not closed at once has pairs. -/
theorem readValue?_of_pairs (filled : ∃ c rest, skipBlanks cs = c :: rest ∧ c ≠ '\x7d') :
    readValue? (fuel + 1) (depth + 1) ('\x7b' :: cs) =
      (readPairs? fuel depth cs).map fun (pairs, rest) => (.mapping false pairs, rest) := by
  obtain ⟨c, rest, skipped, noBracket⟩ := filled
  rw [readValue?_mapping, ← readPairs?_skipBlanks, skipped]
  split
  · next heq =>
    cases heq
    exact absurd rfl noBracket
  · rfl

/-- Arrays and objects are not entered where no further level may be. -/
theorem readValue?_of_depth_zero (mark : c = '[' ∨ c = '\x7b') :
    readValue? (fuel + 1) 0 (c :: cs) = none := by
  rcases mark with rfl | rfl
  all_goals
    rw [readValue?, skipBlanks_cons (by decide)]
    rfl

/-- Behind a key and its colon, a value is read. -/
theorem readPairs?_of_named {key : String} {before name after : List Char} (front : Blanks before)
    (named : SpellsChars key.toList name) (back : Blanks after) (fuel depth : Nat)
    (cs : List Char) :
    readPairs? (fuel + 1) depth (before ++ '"' :: (name ++ (after ++ ':' :: cs))) =
      match readValue? fuel depth cs with
      | none => none
      | some (d, rest) =>
        match skipBlanks rest with
        | '\x7d' :: rest => some ([(key, d)], rest)
        | ',' :: rest =>
          (readPairs? fuel depth rest).map fun (pairs, rest) => ((key, d) :: pairs, rest)
        | _ => none := by
  have colon : skipBlanks (after ++ ':' :: cs) = ':' :: cs :=
    skipBlanks_append_cons back (by decide)
  rw [readPairs?, skipBlanks_append_cons front (by decide)]
  simp only [readString?_of_spells named, String.ofList_toList]
  -- What is left is one reader on both sides, once the colon is seen.
  generalize skipBlanks (after ++ ':' :: cs) = rest at colon ⊢
  subst colon
  rfl

end

/-! ## Reading what is spelled -/

section

variable {Means : NumberMeaning}

mutual

/-- A value is read as what it spells, if it is not nested too deep. -/
theorem readValue?_of_spells {d : Document} {text rest : List Char} {fuel depth : Nat}
    (numbers : Means.Faithful) (h : Spells Means d text) (enough : 2 * text.length ≤ fuel)
    (ends : EndsNumber rest) :
    readValue? fuel depth (text ++ rest) =
      if d.nesting ≤ depth then some (d, rest) else none := by
  -- Two units for each character: one for its value, and one for its place in a list.
  obtain ⟨fuel, rfl⟩ : ∃ k, fuel = k + 1 := by
    obtain ⟨c, cs, rfl, -⟩ := h.exists_cons
    rw [List.length_cons] at enough
    exact ⟨fuel - 1, by omega⟩
  cases h with
  | null | isTrue | isFalse =>
    rw [List.cons_append, readValue?, skipBlanks_cons (by decide)]
    rfl
  | string h =>
    rw [List.cons_append, readValue?, skipBlanks_cons (by decide)]
    show (readString? (_ ++ rest)).map _ = _
    rw [readString?_of_spells h]
    simp [stringScalar, Document.nesting]
  -- The scanner stops where the number does, because of what follows it.
  | number h means =>
    have scanned := scanNumber?_of_spells h ends
    obtain ⟨c, cs, rfl, start⟩ := h.exists_cons
    rw [List.cons_append] at scanned ⊢
    rw [readValue?_of_number start, scanned]
    simp [numbers _ _ means, numberScalar, Document.nesting]
  -- A list needs one more level, even an empty one.
  | emptyList blank =>
    cases depth with
    | zero => exact readValue?_of_depth_zero (.inl rfl)
    | succ depth =>
      rw [List.cons_append, readValue?_list, List.append_assoc, List.singleton_append,
        skipBlanks_append_cons blank (by decide)]
      simp [Document.nesting, Document.nestingOfItems]
  | list h =>
    cases depth with
    | zero => exact readValue?_of_depth_zero (.inl rfl)
    | succ depth =>
      rw [List.length_cons] at enough
      rw [List.cons_append, readValue?_of_items (h.exists_skipBlanks rest),
        readItems?_of_spells numbers h (by omega)]
      simp only [Document.nesting, Nat.add_le_add_iff_right]
      split <;> rfl
  | emptyMapping blank =>
    cases depth with
    | zero => exact readValue?_of_depth_zero (.inr rfl)
    | succ depth =>
      rw [List.cons_append, readValue?_mapping, List.append_assoc, List.singleton_append,
        skipBlanks_append_cons blank (by decide)]
      simp [Document.nesting, Document.nestingOfPairs]
  | mapping h =>
    cases depth with
    | zero => exact readValue?_of_depth_zero (.inr rfl)
    | succ depth =>
      rw [List.length_cons] at enough
      rw [List.cons_append, readValue?_of_pairs (h.exists_skipBlanks rest),
        readPairs?_of_spells numbers h (by omega)]
      simp only [Document.nesting, Nat.add_le_add_iff_right]
      split <;> rfl
termination_by text.length

/-- Likewise for the items of an array. -/
theorem readItems?_of_spells {items : List Document} {text rest : List Char} {fuel depth : Nat}
    (numbers : Means.Faithful) (h : SpellsItems Means items text)
    (enough : 2 * text.length < fuel) :
    readItems? fuel depth (text ++ rest) =
      if Document.nestingOfItems items ≤ depth then some (items, rest) else none := by
  obtain ⟨fuel, rfl⟩ : ∃ k, fuel = k + 1 := ⟨fuel - 1, by omega⟩
  cases h with
  -- The closing bracket ends the last item, also if it is a number.
  | @last item before text after front h back =>
    simp only [List.length_append, List.length_cons, List.length_nil] at enough
    have value : readValue? fuel depth (text ++ (after ++ ']' :: rest)) =
        if item.nesting ≤ depth then some (item, after ++ ']' :: rest) else none :=
      readValue?_of_spells numbers h (by omega)
        (endsNumber_append back (endsNumber_cons (.inr (.inr (.inl rfl)))))
    simp only [List.append_assoc, List.singleton_append, readItems?, readValue?_append front, value,
      Document.nestingOfItems, Nat.max_zero]
    by_cases fits : item.nesting ≤ depth
    · simp [fits, skipBlanks_append_cons back (show isBlank ']' = false by decide)]
    · simp [fits]
  -- The comma ends any other item. A list is refused as soon as one of its items is.
  | @more item items before text after others front h back remaining =>
    simp only [List.length_append, List.length_cons] at enough
    have value : readValue? fuel depth (text ++ (after ++ ',' :: (others ++ rest))) =
        if item.nesting ≤ depth then some (item, after ++ ',' :: (others ++ rest)) else none :=
      readValue?_of_spells numbers h (by omega)
        (endsNumber_append back (endsNumber_cons (.inr (.inl rfl))))
    have tail : readItems? fuel depth (others ++ rest) =
        if Document.nestingOfItems items ≤ depth then some (items, rest) else none :=
      readItems?_of_spells numbers remaining (by omega)
    simp only [List.append_assoc, List.cons_append, readItems?, readValue?_append front, value,
      Document.nestingOfItems, Nat.max_le]
    -- An item that is nested too deep ends the reading here, whatever comes after it.
    by_cases fits : item.nesting ≤ depth
    · simp only [fits, true_and, if_true, tail,
        skipBlanks_append_cons back (show isBlank ',' = false by decide)]
      split <;> rfl
    · simp [fits]
termination_by text.length

/-- Likewise for the pairs of an object. -/
theorem readPairs?_of_spells {pairs : List (String × Document)} {text rest : List Char}
    {fuel depth : Nat} (numbers : Means.Faithful) (h : SpellsPairs Means pairs text)
    (enough : 2 * text.length < fuel) :
    readPairs? fuel depth (text ++ rest) =
      if Document.nestingOfPairs pairs ≤ depth then some (pairs, rest) else none := by
  obtain ⟨fuel, rfl⟩ : ∃ k, fuel = k + 1 := ⟨fuel - 1, by omega⟩
  cases h with
  -- As with items, but behind a key and its colon.
  | @last pair text after h back =>
    cases h with
    | @intro key value before name middle front text blanks named h =>
      simp only [List.length_append, List.length_cons, List.length_nil] at enough
      have read : readValue? fuel depth (text ++ (after ++ '\x7d' :: rest)) =
          if value.nesting ≤ depth then some (value, after ++ '\x7d' :: rest) else none :=
        readValue?_of_spells numbers h (by omega)
          (endsNumber_append back (endsNumber_cons (.inr (.inr (.inr rfl)))))
      simp only [List.append_assoc, List.cons_append, List.nil_append,
        readPairs?_of_named blanks.1 named blanks.2.1, readValue?_append blanks.2.2, read,
        Document.nestingOfPairs, Nat.max_zero]
      by_cases fits : value.nesting ≤ depth
      · simp [fits, skipBlanks_append_cons back (show isBlank '\x7d' = false by decide)]
      · simp [fits]
  | @more pair pairs text after others h back remaining =>
    cases h with
    | @intro key value before name middle front text blanks named h =>
      simp only [List.length_append, List.length_cons] at enough
      have read : readValue? fuel depth (text ++ (after ++ ',' :: (others ++ rest))) =
          if value.nesting ≤ depth then some (value, after ++ ',' :: (others ++ rest)) else none :=
        readValue?_of_spells numbers h (by omega)
          (endsNumber_append back (endsNumber_cons (.inr (.inl rfl))))
      have tail : readPairs? fuel depth (others ++ rest) =
          if Document.nestingOfPairs pairs ≤ depth then some (pairs, rest) else none :=
        readPairs?_of_spells numbers remaining (by omega)
      simp only [List.append_assoc, List.cons_append, readPairs?_of_named blanks.1 named blanks.2.1,
        readValue?_append blanks.2.2, read, Document.nestingOfPairs, Nat.max_le]
      -- A value that is nested too deep ends the reading here, whatever comes after it.
      by_cases fits : value.nesting ≤ depth
      · simp only [fits, true_and, if_true, tail,
          skipBlanks_append_cons back (show isBlank ',' = false by decide)]
        split <;> rfl
      · simp [fits]
termination_by text.length

end

/-- A text is read as the document that it spells, if that is not nested too deep. -/
theorem read?_of_spells {d : Document} {text : String} (numbers : Means.Faithful)
    (h : SpellsText Means d text) :
    read? text = if d.nesting ≤ maxNesting then some d else none := by
  obtain ⟨before, value, after, front, h, back, heq⟩ := h
  have ends : EndsNumber after := List.append_nil after ▸ endsNumber_append back endsNumber_nil
  have enough : 2 * value.length ≤ 2 * text.toList.length + 2 := by
    rw [heq, List.length_append, List.length_append]
    omega
  -- Nothing but blanks follows the value, so the whole text is used up.
  have rest : skipBlanks after = [] := by
    rw [← List.append_nil after, skipBlanks_append back]
    rfl
  have read : readValue? (2 * text.toList.length + 2) maxNesting (value ++ after) =
      if d.nesting ≤ maxNesting then some (d, after) else none :=
    readValue?_of_spells numbers h enough ends
  rw [heq] at read
  rw [read?, heq, readValue?_append front, read]
  by_cases fits : d.nesting ≤ maxNesting <;> simp [fits, rest]

end

end Json

end PropShape
