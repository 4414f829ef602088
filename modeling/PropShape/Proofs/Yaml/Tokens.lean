import PropShape.Proofs.Yaml.Line

/-!
# `PropShape.Proofs.Yaml.Tokens`: the tokens of a block mapping

A block mapping of scalars is written on lines, each with a key, a colon and a
text (`Line`). Every line is scanned in three steps: its key turns out to be one
when the colon comes, and then the text is scanned to the end of the line.
-/

set_option autoImplicit false

namespace PropShape.Yaml

variable {c : Char} {cs tail more : List Char} {m : Mark} {indents : List Int}
  {before : List Token}

/-- A text that can be a key without any care. -/
structure IsKeyword (cs : List Char) : Prop where
  nonempty : cs ≠ []
  letters : ∀ c ∈ cs, c.isAlpha = true
  short : cs.length ≤ 256

/-- A line of a block mapping that is not indented: a key and a text in some style. -/
structure Line where
  key : String
  style : Style
  text : String
  keyword : IsKeyword key.toList
  fits : FitsLine style text.toList

namespace Line

/-- The characters of a line: its key, a colon and a space, its text, and the end of the line. -/
def chars (l : Line) : List Char :=
  l.key.toList ++ ':' :: ' ' :: (written l.style l.text.toList ++ ['\n'])

/-- What a line reads as. -/
def tokens (l : Line) : List Token :=
  [.key, .scalar .plain l.key, .value, .scalar l.style l.text]

end Line

/-! ## How words start -/

/-- Whether a character is not passed over between tokens. -/
def isText (c : Char) : Bool := !(isBlank c || isBreak c || c == '#' || c == '\ufeff')

/-- Nothing is passed over in front of a text. -/
theorem skipSpace_text {inFlow keyAllowed : Bool} (text : isText c = true) :
    Lexer.skipSpace inFlow keyAllowed false m (c :: tail) = (keyAllowed, ⟨m, c :: tail⟩) := by
  simp only [isText, isBlank, Bool.not_eq_true', Bool.or_eq_false_iff] at text
  obtain ⟨⟨⟨⟨space, tab⟩, inside⟩, comment⟩, mark⟩ := text
  rw [Lexer.skipSpace]
  simp [inside, space, tab, comment, mark]

/-- The characters that have a meaning in the syntax wherever they start a word. -/
theorem ne_of_startsIndicator (silent : startsIndicator (c :: tail) = false) :
    ∀ d ∈ ['#', ',', '[', ']', '\x7b', '\x7d', '&', '*', '!', '|', '>', '\'', '"', '%', '@',
      '\x60'], c ≠ d := by
  obtain ⟨indicators, -⟩ := Bool.or_eq_false_iff.mp silent
  rintro d mem rfl
  rw [List.contains_iff_mem.mpr mem] at indicators
  cases indicators

/-- Those that have one only at the end of a word. -/
theorem not_endsWord_of_startsIndicator (silent : startsIndicator (c :: tail) = false) :
    ∀ d ∈ ['?', ':', '-'], (c == d && endsWord tail) = false := by
  obtain ⟨-, words⟩ := Bool.or_eq_false_iff.mp silent
  intro d mem
  cases same : c == d with
  | false => rfl
  | true =>
    rw [eq_of_beq same, List.contains_iff_mem.mpr mem] at words
    exact words

/-- A text that starts with no indicator starts a plain scalar. -/
theorem startsPlain_of_silent (silent : startsIndicator (c :: tail) = false)
    (text : isText c = true) : startsPlain false (c :: tail) = true := by
  have other := ne_of_startsIndicator silent
  have word := not_endsWord_of_startsIndicator silent
  unfold startsPlain
  split
  · next h => cases h
  · next rest h =>
    cases h
    -- A dash, a question mark or a colon starts a scalar if a word goes on behind it.
    have dash : endsWord tail = false := word '-' (by decide)
    cases tail with
    | nil => rfl
    | cons d rest => simpa using (Bool.or_eq_false_iff.mp dash).1
  · next rest h =>
    cases h
    have question : endsWord tail = false := word '?' (by decide)
    rw [question]
    rfl
  · next rest h =>
    cases h
    have colon : endsWord tail = false := word ':' (by decide)
    rw [colon]
    rfl
  · next d rest _ _ _ h =>
    cases h
    simp only [isText, Bool.not_eq_true', Bool.or_eq_false_iff] at text
    obtain ⟨⟨⟨blank, inside⟩, -⟩, -⟩ := text
    simp [blank, inside, isFlowPunctuation, other]

/-- Outside brackets, what has no meaning in the syntax starts a plain scalar. -/
theorem token?_plain {s : Lexer} (flow : s.inFlow = false)
    (marker : isDocumentMarker s.cursor.mark (c :: tail) = false)
    (silent : startsIndicator (c :: tail) = false) (text : isText c = true) :
    s.token? c tail =
      s.word? ((scanPlain? false (s.indent + 1) [] .none s.cursor.mark (c :: tail)).map
        fun (read, broken, cursor) => (.scalar .plain (.ofList read.reverse), broken, cursor)) := by
  have other := ne_of_startsIndicator silent
  have word := not_endsWord_of_startsIndicator silent
  have directive : (c == '%') = false := beq_false_of_ne (other '%' (by decide))
  have literal : (c == '|') = false := beq_false_of_ne (other '|' (by decide))
  have folded : (c == '>') = false := beq_false_of_ne (other '>' (by decide))
  unfold Lexer.token?
  simp only [directive, marker, flow, literal, folded, Bool.false_and, Bool.false_or,
    Bool.false_eq_true, if_false]
  split
  -- The characters with a branch of their own have a meaning in the syntax.
  iterate 10 exact absurd rfl (other _ (by decide))
  rw [word '-' (by decide), word '?' (by decide), word ':' (by decide),
    startsPlain_of_silent silent text]
  rfl

/-- A quote starts a scalar that is scanned up to the closing quote. -/
theorem token?_quote {s : Lexer} :
    s.token? '\'' tail =
      s.word? ((scanSingle? [] .none (s.cursor.skip 1).mark (s.cursor.skip 1).rest).map
        fun (read, cursor) => (.scalar .singleQuoted (.ofList read.reverse), false, cursor)) := by
  have marker : isDocumentMarker s.cursor.mark ('\'' :: tail) = false := Bool.and_false _
  unfold Lexer.token?
  simp only [marker, Bool.false_eq_true, if_false]
  rfl

/-- A colon with a space behind it separates a key from its value. -/
theorem token?_colon {s : Lexer} : s.token? ':' (' ' :: tail) = s.colon? := by
  have marker : isDocumentMarker s.cursor.mark (':' :: ' ' :: tail) = false := Bool.and_false _
  unfold Lexer.token?
  simp only [marker, Bool.false_eq_true, if_false]
  rw [show endsWord (' ' :: tail) = true from rfl, Bool.or_true]
  rfl

/-! ## Keywords -/

section Letters

variable (letter : c.isAlpha = true)

include letter

/-- A letter is not among characters of which none is a letter. -/
theorem contains_of_letter {others : List Char} (other : others.any Char.isAlpha = false) :
    others.contains c = false := by
  rw [Bool.eq_false_iff, ne_eq, List.contains_iff_mem]
  exact fun mem => List.any_eq_false.mp other c mem letter

/-- A letter is no other character. -/
theorem beq_of_letter (d : Char) (other : d.isAlpha = false) : (c == d) = false := by
  rw [beq_eq_false_iff_ne]
  rintro rfl
  rw [other] at letter
  cases letter

/-- A letter is not blank. -/
theorem isBlank_of_letter : isBlank c = false := by
  simp only [isBlank, beq_of_letter letter ' ' rfl, beq_of_letter letter '\t' rfl,
    Bool.or_self]

/-- A letter ends no line. -/
theorem isBreak_of_letter : isBreak c = false := by
  simp only [isBreak, beq_of_letter letter '\n' rfl,
    beq_of_letter letter '\u2028' rfl, beq_of_letter letter '\u2029' rfl, Bool.or_self]

/-- A letter is not passed over between tokens. -/
theorem isText_of_letter : isText c = true := by
  simp only [isText, isBlank_of_letter letter, isBreak_of_letter letter,
    beq_of_letter letter '#' rfl, beq_of_letter letter '\ufeff' rfl, Bool.or_self,
    Bool.not_false]

/-- A letter has no meaning in the syntax. -/
theorem startsIndicator_of_letter : startsIndicator (c :: tail) = false := by
  rw [startsIndicator, contains_of_letter letter rfl, contains_of_letter letter rfl]
  rfl

/-- A letter starts no marker between documents. -/
theorem isDocumentMarker_of_letter : isDocumentMarker m (c :: tail) = false := by
  unfold isDocumentMarker
  rw [Bool.and_eq_false_iff]
  right
  split
  · next h =>
    cases h
    exact absurd letter (by decide)
  · next h =>
    cases h
    exact absurd letter (by decide)
  · rfl

end Letters

/-- Letters make up a plain scalar. -/
theorem isPlainRest_of_letters (letters : ∀ c ∈ cs, c.isAlpha = true) :
    isPlainRest false cs = true := by
  induction cs with
  | nil => rfl
  | cons c rest ih =>
    obtain ⟨letter, others⟩ := List.forall_mem_cons.mp letters
    rw [isPlainRest, isBreak_of_letter letter, isBlank_of_letter letter,
      beq_of_letter letter ':' rfl, ih others]
    rfl

/-! ## The states of the lexer on a line -/

/-- What goes on with a new line of the mapping, or ends the text. -/
def StartsLine (cs : List Char) : Prop := ∀ c ∈ cs.head?, c.isAlpha = true

/-- A plain scalar ends in front of a new line of the mapping. -/
theorem StartsLine.ends (next : StartsLine cs) : cs = [] ∨ endsWord cs = false := by
  cases cs with
  | nil => exact .inl rfl
  | cons c rest =>
    have letter : c.isAlpha = true := next c rfl
    exact .inr (by rw [endsWord, isBlank_of_letter letter, isBreak_of_letter letter]; rfl)

/-- The collections around a line of the mapping: the mapping itself, from its first line on. -/
def around (started : Bool) : List Int := if started then [0] else []

/-- The tokens before a line, last one first, with the start of the mapping. -/
def opened (started : Bool) (before : List Token) : List Token :=
  if started then before else .blockMappingStart :: before

namespace Lexer

/-- At the start of a line. -/
def atLine (started : Bool) (before : List Token) (m : Mark) (rest : List Char) : Lexer :=
  ⟨⟨m, rest⟩, before, before.length, around started, [none], true⟩

/-- Behind the first word of a line. -/
def atColon (started : Bool) (before : List Token) (m : Mark) (key : String) (rest : List Char) :
    Lexer :=
  ⟨⟨m.afterAll key.toList, ':' :: ' ' :: rest⟩, .scalar .plain key :: before, before.length + 1,
    around started, [some ⟨started, before.length, m⟩], false⟩

/-- Behind the colon, with the tokens so far. -/
def atText (before : List Token) (m : Mark) (rest : List Char) : Lexer :=
  ⟨⟨m, rest⟩, before, before.length, [0], [none], false⟩

variable {started : Bool} {key : String}

/-- No collection ends at a column that is not left of its own. -/
theorem unindent_of_le {s : Lexer} {column : Int} (reached : ∀ i ∈ s.indents.head?, i ≤ column) :
    s.unindent column = s := by
  obtain ⟨cursor, tokens, count, indents, keys, keyAllowed⟩ := s
  unfold unindent
  split
  · rfl
  · -- At the top level there is nothing to end.
    cases indents with
    | nil => rfl
    | cons i outer =>
      have deep : decide (column < i) = false := by
        have := reached i rfl
        simpa using this
      simp [deep]

/-- The mapping stands at the first column, so nothing is left of it. -/
theorem reached_around (started : Bool) {column : Nat} :
    ∀ i ∈ (around started).head?, i ≤ (column : Int) := by
  cases started with
  | false => nofun
  | true =>
    rintro _ ⟨⟩
    exact Int.natCast_nonneg _

/-- The lexer goes on to the next token. -/
theorem advance?_of {s t : Lexer}
    (skipped : skipSpace s.inFlow s.keyAllowed false s.cursor.mark s.cursor.rest =
      (t.keyAllowed, t.cursor))
    (same : { s with keyAllowed := t.keyAllowed, cursor := t.cursor } = t)
    (fresh : t.dropStaleKey? = some t) (reached : ∀ i ∈ t.indents.head?, i ≤ t.column) :
    s.advance? = some t := by
  have ahead : s.advance? = t.dropStaleKey?.bind fun t => some (t.unindent t.column) := by
    unfold advance?
    simp only [skipped, same]
    rfl
  rw [ahead, fresh, Option.bind_some, unindent_of_le reached]

/-- The first word of a line is scanned up to its colon, and may be a key. -/
theorem token?_key (word : key.toList = c :: cs) (keyword : IsKeyword key.toList)
    (start : m.column = 0) :
    (atLine started before m (c :: (cs ++ ':' :: ' ' :: more))).token? c
        (cs ++ ':' :: ' ' :: more) =
      some (atColon started before m key more) := by
  have letter : c.isAlpha = true := keyword.letters c (word ▸ List.mem_cons_self)
  -- Before its first key the mapping has not begun, and afterwards it stands at the first
  -- column.
  have shallow : (around started).headD (-1) + 1 ≤ 1 := by cases started <;> decide
  have plain := isPlainRest_of_letters keyword.letters
  -- The word is made of letters, so only the colon can end it.
  have scanned : scanPlain? false ((around started).headD (-1) + 1) [] .none m
      (c :: (cs ++ ':' :: ' ' :: more)) =
        some (key.toList.reverse, false, ⟨m.afterAll key.toList, ':' :: ' ' :: more⟩) := by
    rw [← List.cons_append, ← word, scanPlain?_word plain shallow, scanPlain?_colon]
  rw [token?_plain rfl (isDocumentMarker_of_letter letter) (startsIndicator_of_letter letter)
    (isText_of_letter letter)]
  show word? _ ((scanPlain? false ((around started).headD (-1) + 1) [] .none m _).map _) = _
  rw [scanned]
  show some (Lexer.mk _ (.scalar .plain (.ofList key.toList.reverse.reverse) :: before) _ _
    [some ⟨(around started).headD (-1) == (m.column : Int), before.length, m⟩] _) = _
  -- Inside the mapping the first word of a line has to be a key.
  have required : ((around started).headD (-1) == (m.column : Int)) = started := by
    rw [start]
    cases started <;> rfl
  rw [required, List.reverse_reverse, String.ofList_toList]
  rfl

/-- Nothing is passed over before the colon, and the key has not grown too long. -/
theorem advance?_colon (keyword : IsKeyword key.toList) :
    (atColon started before m key more).advance? = some (atColon started before m key more) := by
  have inside (c : Char) (mem : c ∈ key.toList) : isBreak c = false :=
    isBreak_of_letter (keyword.letters c mem)
  obtain ⟨line, index⟩ := Mark.afterAll_of_not_break (m := m) inside
  refine advance?_of (skipSpace_text rfl) rfl ?_ ?_
  · -- A key gets stale on the next line, or more than 1024 bytes behind its start.
    have short := keyword.short
    have fresh : ¬ (m.line < (m.afterAll key.toList).line ∨
        m.index + 1024 < (m.afterAll key.toList).index) := by
      omega
    exact if_neg fun stale =>
      fresh ((Bool.or_eq_true_iff.mp stale).imp of_decide_eq_true of_decide_eq_true)
  · exact reached_around started

/-- The colon puts a key in front of the word before it, and goes on to the text. -/
theorem token?_atColon (start : m.column = 0) :
    (atColon started before m key more).token? ':' (' ' :: more) =
      some (atText (.value :: .scalar .plain key :: .key :: opened started before)
        ((m.afterAll key.toList).after ':') (' ' :: more)) := by
  rw [token?_colon]
  have behind : before.length + 1 - before.length = 1 := by omega
  have further : before.length + 1 + 1 - before.length = 2 := by omega
  -- The first key puts the start of the mapping before itself.
  cases started with
  | true =>
    simp [colon?, atColon, atText, pushAt, indentTo, pushOver, push, indent, around, opened, start,
      behind, Cursor.skip, Mark.afterAll]
  | false =>
    simp [colon?, atColon, atText, pushAt, indentTo, pushOver, push, indent, around, opened, start,
      behind, further, Cursor.skip, Mark.afterAll, inFlow]

/-- The space behind the colon is passed over. -/
theorem advance?_text (text : isText c = true) :
    (atText before m (' ' :: c :: more)).advance? =
      some (atText before (m.after ' ') (c :: more)) := by
  have skipped : skipSpace false false false m (' ' :: c :: more) =
      (false, ⟨m.after ' ', c :: more⟩) := by
    rw [skipSpace]
    exact skipSpace_text text
  exact advance?_of skipped rfl rfl (reached_around true)

/-- Nothing is passed over in front of a new line, or at the end. -/
theorem skipSpace_startsLine {rest : List Char} (next : StartsLine rest) :
    skipSpace false true false m rest = (true, ⟨m, rest⟩) := by
  cases rest with
  | nil => rfl
  | cons c rest => exact skipSpace_text (isText_of_letter (next c rfl))

/-- The lexer is at its next token at the start of a line. -/
theorem advance?_atLine {rest : List Char} (next : StartsLine rest) :
    (atLine started before m rest).advance? = some (atLine started before m rest) :=
  advance?_of (skipSpace_startsLine next) rfl rfl (reached_around started)

/-- A text without an indicator at its start has none whatever follows it. -/
theorem startsIndicator_append (silent : startsIndicator (c :: cs) = false) :
    startsIndicator (c :: (cs ++ tail)) = false := by
  rw [startsIndicator, Bool.or_eq_false_iff] at silent ⊢
  refine ⟨silent.1, ?_⟩
  rcases Bool.and_eq_false_iff.mp silent.2 with other | word
  · rw [other, Bool.false_and]
  · rw [endsWord_append word, Bool.and_false]

/-- A text that the writer leaves plain starts with no indicator. -/
theorem startsIndicator_of_fitsPlain (fits : fitsPlain cs = true) : startsIndicator cs = false := by
  simp only [fitsPlain, Bool.and_eq_true, Bool.not_eq_true'] at fits
  exact fits.1.2

/-- A text that the writer leaves plain is not passed over. -/
theorem isText_of_fitsPlain (fits : fitsPlain (c :: cs) = true) : isText c = true := by
  have silent := startsIndicator_of_fitsPlain fits
  simp only [fitsPlain, Bool.and_eq_true, List.all_cons, List.any_cons, Bool.not_eq_true',
    Bool.or_eq_false_iff, List.head?_cons, bne_iff_ne] at fits
  obtain ⟨⟨⟨⟨⟨⟨⟨printable, -⟩, inside, -⟩, first⟩, -⟩, -⟩, -⟩, -⟩ := fits
  -- The writer puts quotes around a text that starts with a space.
  have blank : isBlank c = false := by
    rw [Bool.eq_false_iff]
    intro blank
    exact first (congrArg some (eq_space_of_isBlank printable blank))
  have comment : (c == '#') = false :=
    beq_false_of_ne (ne_of_startsIndicator silent '#' (by decide))
  have mark : (c == '\ufeff') = false := by
    rw [beq_eq_false_iff_ne]
    rintro rfl
    cases printable
  rw [isText, blank, inside, comment, mark]
  rfl

/-- A plain text is scanned together with the end of its line. -/
theorem token?_plainText {text : String} {rest : List Char} (chars : text.toList = c :: cs)
    (fits : fitsPlain (c :: cs) = true) (behind : 0 < m.column) (next : StartsLine rest) :
    (atText before m (c :: (cs ++ '\n' :: rest))).token? c (cs ++ '\n' :: rest) =
      some (atLine true (.scalar .plain text :: before)
        ((m.afterAll (c :: cs)).after '\n') rest) := by
  -- The scan of a plain scalar looks over the end of its line to see whether it goes on.
  have scanned : scanPlain? false (0 + 1) [] .none m (c :: (cs ++ '\n' :: rest)) =
      some ((c :: cs).reverse, true, ⟨(m.afterAll (c :: cs)).after '\n', rest⟩) := by
    rw [← List.cons_append, scanPlain?_word (isPlainRest_of_fitsPlain fits) (by decide)]
    exact scanPlain?_lineEnd next.ends
  rw [token?_plain rfl (isDocumentMarker_of_column behind)
    (startsIndicator_append (startsIndicator_of_fitsPlain fits)) (isText_of_fitsPlain fits)]
  show word? _ ((scanPlain? false (0 + 1) [] .none m _).map _) = _
  rw [scanned]
  show some (Lexer.mk _ (.scalar .plain (.ofList (c :: cs).reverse.reverse) :: before) _ _ _ _) = _
  rw [List.reverse_reverse, ← chars, String.ofList_toList]
  rfl

/-- A text between quotes is scanned up to the end of its line. -/
theorem token?_quotedText {text : String} {rest : List Char}
    (inside : ∀ c ∈ text.toList, isBreak c = false) :
    (atText before m ('\'' :: (singleQuoted false text.toList ++ '\'' :: '\n' :: rest))).token? '\''
        (singleQuoted false text.toList ++ '\'' :: '\n' :: rest) =
      some (atText (.scalar .singleQuoted text :: before)
        ((m.after '\'').afterAll (singleQuoted false text.toList ++ ['\''])) ('\n' :: rest)) := by
  -- The scan of a quoted scalar stops at the closing quote, in front of the end of the line.
  have scanned : scanSingle? [] .none (m.after '\'')
      (singleQuoted false text.toList ++ '\'' :: '\n' :: rest) =
        some (text.toList.reverse ++ ([] ++ []), ⟨(m.after '\'').afterAll _, '\n' :: rest⟩) :=
    scanSingle?_singleQuoted inside (Nat.succ_pos _)
  rw [token?_quote]
  show word? _ ((scanSingle? [] .none (m.after '\'')
    (singleQuoted false text.toList ++ '\'' :: '\n' :: rest)).map _) = _
  rw [scanned, List.append_nil, List.append_nil]
  show some (Lexer.mk _ (.scalar .singleQuoted (.ofList text.toList.reverse.reverse) :: before)
    _ _ _ _) = _
  rw [List.reverse_reverse, String.ofList_toList]
  rfl

/-- Behind a closing quote, the end of the line is passed over. -/
theorem advance?_lineEnd {rest : List Char} (next : StartsLine rest) :
    (atText before m ('\n' :: rest)).advance? = some (atLine true before (m.after '\n') rest) := by
  have skipped : skipSpace false false false m ('\n' :: rest) = (true, ⟨m.after '\n', rest⟩) :=
    skipSpace_startsLine next
  exact advance?_of skipped rfl rfl (reached_around true)

/-- The text of a line is scanned, and the next line begins. -/
theorem exists_token?_text {style : Style} {text : String} {rest : List Char}
    (before : List Token) (fits : FitsLine style text.toList) (behind : 0 < m.column)
    (next : StartsLine rest) :
    ∃ c tail u m', written style text.toList ++ '\n' :: rest = c :: tail ∧ isText c = true ∧
      (atText before m (c :: tail)).token? c tail = some u ∧
      u.advance? = some (atLine true (.scalar style text :: before) m' rest) ∧ m'.column = 0 := by
  generalize chars : text.toList = cs at fits
  -- The lexer gets to the next line in two ways: with the text, or in a step of its own.
  cases fits with
  | plain nonempty fits =>
    obtain ⟨c, cs, rfl⟩ := List.exists_cons_of_ne_nil nonempty
    exact ⟨c, cs ++ '\n' :: rest, _, _, rfl, isText_of_fitsPlain fits,
      token?_plainText chars fits behind next, advance?_atLine next, rfl⟩
  | quoted line =>
    subst chars
    have inside (c : Char) (mem : c ∈ text.toList) : isBreak c = false := (line c mem).2
    have layout : written .singleQuoted text.toList ++ '\n' :: rest =
        '\'' :: (singleQuoted false text.toList ++ '\'' :: '\n' :: rest) := by
      simp [written]
    exact ⟨'\'', _, _, _, layout, rfl, token?_quotedText inside, advance?_lineEnd next, rfl⟩

/-! ## Runs -/

/-- One round of the lexer: it goes on to the next token and takes it. -/
theorem run?_step {s t u : Lexer} (advanced : s.advance? = some t)
    (ahead : t.cursor.rest = c :: tail) (token : t.token? c tail = some u) (fuel : Nat) :
    run? (fuel + 1) s = run? fuel u := by
  rw [run?, advanced, Option.bind_eq_bind, Option.bind_some]
  simp only [ahead, token]
  rfl

/-- A line takes three steps, and the next line begins. -/
theorem run?_line {s : Lexer} {rest : List Char} (line : Line) (start : m.column = 0)
    (next : StartsLine rest)
    (advanced : s.advance? = some (atLine started before m (line.chars ++ rest))) :
    ∃ u m', u.advance? = some
        (atLine true (line.tokens.reverse ++ opened started before) m' rest) ∧
      m'.column = 0 ∧ ∀ fuel, run? (fuel + 3) s = run? fuel u := by
  obtain ⟨c, cs, word⟩ := List.exists_cons_of_ne_nil line.keyword.nonempty
  obtain ⟨d, tail, u, m', text, begins, token, ended, column⟩ :=
    exists_token?_text (m := ((m.afterAll line.key.toList).after ':').after ' ')
      (.value :: .scalar .plain line.key :: .key :: opened started before) line.fits
      (Nat.succ_pos _) next
  have chars : line.chars ++ rest = c :: (cs ++ ':' :: ' ' :: d :: tail) := by
    rw [Line.chars, word, ← text]
    simp
  rw [chars] at advanced
  refine ⟨u, m', ended, column, fun fuel => ?_⟩
  -- The key, the colon and the text are a step each.
  rw [run?_step advanced rfl (token?_key word line.keyword start),
    run?_step (advance?_colon line.keyword) rfl (token?_atColon start),
    run?_step (advance?_text begins) rfl token]

end Lexer

/-- Lines start with a letter, or there are none. -/
theorem startsLine_lines (lines : List Line) : StartsLine (lines.flatMap Line.chars) := by
  cases lines with
  | nil => nofun
  | cons line rest =>
    -- A key has a first letter.
    obtain ⟨c, cs, word⟩ := List.exists_cons_of_ne_nil line.keyword.nonempty
    have letter : c.isAlpha = true := line.keyword.letters c (word ▸ List.mem_cons_self)
    rw [List.flatMap_cons, Line.chars, word]
    rintro _ ⟨⟩
    exact letter

namespace Lexer

/-- The lines of a mapping that has begun are run through, and the mapping ends. -/
theorem run?_lines {s : Lexer} {fuel : Nat} (lines : List Line) (start : m.column = 0)
    (advanced : s.advance? = some (atLine true before m (lines.flatMap Line.chars)))
    (enough : 3 * lines.length < fuel) :
    run? fuel s = some (before.reverse ++ lines.flatMap Line.tokens ++ [.blockEnd]) := by
  induction lines generalizing s before m fuel with
  | nil =>
    obtain ⟨fuel, rfl⟩ := Nat.exists_eq_add_one_of_ne_zero (Nat.ne_of_gt enough)
    -- At the end of the text the mapping is closed.
    rw [run?, advanced]
    show some (Token.blockEnd :: before).reverse = _
    simp
  | cons line rest ih =>
    rw [List.length_cons] at enough
    obtain ⟨fuel, rfl⟩ : ∃ less, fuel = less + 3 := ⟨fuel - 3, by omega⟩
    -- The tokens of this line stand before those of the rest.
    obtain ⟨u, m', onward, column, run⟩ := run?_line line start (startsLine_lines rest) advanced
    rw [run, ih column onward (by omega)]
    simp [opened]

end Lexer

/-- Every line has at least three characters, as many as it takes steps. -/
theorem length_lines (lines : List Line) :
    3 * lines.length ≤ (lines.flatMap Line.chars).length := by
  induction lines with
  | nil => exact Nat.le_refl 0
  | cons line rest ih =>
    simp only [List.flatMap_cons, Line.chars, List.length_append, List.length_cons]
    omega

/-- The tokens of a mapping, line by line. -/
theorem tokens?_lines (line : Line) (rest : List Line) :
    tokens? ((line :: rest).flatMap Line.chars) =
      some (.blockMappingStart :: (line :: rest).flatMap Line.tokens ++ [.blockEnd]) := by
  have begun : (Lexer.start ((line :: rest).flatMap Line.chars)).advance? =
      some (.atLine false [] ⟨0, 0, 0⟩ (line.chars ++ rest.flatMap Line.chars)) := by
    show (Lexer.atLine false [] ⟨0, 0, 0⟩ _).advance? = _
    exact Lexer.advance?_atLine (startsLine_lines (line :: rest))
  -- The first line stands apart, since the mapping starts with its colon.
  obtain ⟨u, m', onward, column, run⟩ := Lexer.run?_line line rfl (startsLine_lines rest) begun
  have enough := length_lines (line :: rest)
  rw [List.length_cons] at enough
  obtain ⟨fuel, length⟩ : ∃ less, ((line :: rest).flatMap Line.chars).length + 1 = less + 3 :=
    ⟨((line :: rest).flatMap Line.chars).length - 2, by omega⟩
  rw [tokens?, length, run, Lexer.run?_lines rest column onward (by omega)]
  simp [opened]

end PropShape.Yaml
