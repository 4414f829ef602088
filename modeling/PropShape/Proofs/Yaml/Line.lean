import PropShape.Yaml.Token.Scan
import PropShape.Yaml.Writer

/-!
# `PropShape.Proofs.Yaml.Line`: scalars that stay on one line

A text without line breaks is written on one line, plain or between single
quotes. The statements here say how the characters of such a line are scanned.

* `scanPlain?_append`: a plain scalar is scanned up to what follows it, if none
  of its colons ends a word, none of its blanks stands before a comment, and it
  does not end with a blank (`isPlainRest`). The induction is on its characters;
  the blanks since the last word are carried along as the gap.
* `scanSingle?_singleQuoted`: quotes hold any text.
* `isPlainRest_of_fitsPlain`: the writer chooses the plain style only where the
  scan goes through.
-/

set_option autoImplicit false

namespace PropShape.Yaml

variable {c : Char} {cs tail read blanks : List Char} {m : Mark} {indent : Int}

/-! ## Positions inside a line -/

/-- Behind a character that ends no line, the position is one column further on the same line. -/
theorem Mark.after_of_not_break (inside : isBreak c = false) :
    m.after c = ⟨m.index + c.utf8Size, m.line, m.column + 1⟩ := by
  unfold Mark.after
  rw [inside, if_neg Bool.false_ne_true]

/-- A position moves on inside its line, by at most four bytes a character. -/
theorem Mark.afterAll_of_not_break (inside : ∀ c ∈ cs, isBreak c = false) :
    (m.afterAll cs).line = m.line ∧ (m.afterAll cs).index ≤ m.index + 4 * cs.length := by
  induction cs generalizing m with
  | nil => exact ⟨rfl, Nat.le_refl _⟩
  | cons c rest ih =>
    obtain ⟨first, others⟩ := List.forall_mem_cons.mp inside
    obtain ⟨line, index⟩ := ih others (m := m.after c)
    rw [after_of_not_break first] at line index
    have size := c.utf8Size_le_four
    rw [List.length_cons, afterAll, List.foldl_cons, after_of_not_break first]
    exact ⟨line, Nat.le_trans index (by simp only; omega)⟩

/-- A word that goes on does so whatever is appended. -/
theorem endsWord_append (inside : endsWord cs = false) : endsWord (cs ++ tail) = false := by
  cases cs with
  | nil => cases inside
  | cons c rest => exact inside

/-! ## Plain scalars -/

/-- The gap of some blanks inside a line, last one first. -/
def Gap.inLine (blanks : List Char) : Gap := ⟨blanks, false, Option.none, []⟩

/-- Whether a plain scalar may go on with these characters to its end, behind a blank or not:
blanks and colons have more of the scalar behind them, and no comment starts. -/
def isPlainRest (afterBlank : Bool) : List Char → Bool
  | [] => !afterBlank
  | c :: rest =>
    !isBreak c &&
      if isBlank c then isPlainRest true rest
      else !(afterBlank && c == '#') && !(c == ':' && endsWord rest) && isPlainRest false rest

/-- Behind the start of a line no marker between documents is found. -/
theorem isDocumentMarker_of_column (behind : 0 < m.column) : isDocumentMarker m cs = false := by
  unfold isDocumentMarker
  rw [beq_false_of_ne (Nat.ne_of_gt behind), Bool.false_and]

/-- A word goes on behind a gap inside its line. -/
theorem endsAtGap_inLine (behind : blanks ≠ [] → 0 < m.column) (shallow : indent ≤ 1)
    (text : (!blanks.isEmpty && c == '#') = false) :
    endsAtGap false indent (.inLine blanks) m (c :: tail) = false := by
  cases blanks with
  | nil => rfl
  | cons blank others =>
    have column := behind (List.cons_ne_nil _ _)
    have deep : ¬ (m.column : Int) < indent := by omega
    have comment : (c == '#') = false := text
    simp [endsAtGap, Gap.isNone, Gap.inLine, isDocumentMarker_of_column column, deep, comment]

/-- A plain scalar is scanned up to what follows it. -/
theorem scanPlain?_append (plain : isPlainRest (!blanks.isEmpty) cs = true)
    (behind : blanks ≠ [] → 0 < m.column) (shallow : indent ≤ 1) :
    scanPlain? false indent read (.inLine blanks) m (cs ++ tail) =
      scanPlain? false indent (cs.reverse ++ (blanks ++ read)) .none (m.afterAll cs) tail := by
  induction cs generalizing blanks read m with
  | nil =>
    cases blanks with
    | nil => rfl
    | cons blank others => cases plain
  | cons c rest ih =>
    rw [isPlainRest, Bool.and_eq_true, Bool.not_eq_true'] at plain
    obtain ⟨inside, plain⟩ := plain
    -- From the second character on, the position is behind the start of the line.
    have moved : 0 < (m.after c).column := by
      rw [Mark.after_of_not_break inside]
      exact Nat.succ_pos _
    rw [List.cons_append, scanPlain?]
    by_cases blank : isBlank c = true
    · -- One more blank belongs to the gap.
      rw [if_pos blank] at plain ⊢
      show scanPlain? false indent read (.inLine (c :: blanks)) (m.after c) (rest ++ tail) = _
      have more : isPlainRest (!(c :: blanks).isEmpty) rest = true := plain
      rw [ih more fun _ => moved]
      simp [Mark.afterAll]
    · rw [if_neg blank, Bool.and_eq_true, Bool.and_eq_true, Bool.not_eq_true',
        Bool.not_eq_true'] at plain
      obtain ⟨⟨text, colon⟩, plain⟩ := plain
      -- A colon inside the scalar has more of the word behind it.
      have word : endsPlain false c (rest ++ tail) = false := by
        show ((c == ':') && endsWord (rest ++ tail) || false) = false
        cases h : c == ':' with
        | false => rfl
        | true =>
          rw [h, Bool.true_and] at colon
          rw [endsWord_append colon]
          rfl
      have stray : isStrayColon false c (rest ++ tail) = false := rfl
      rw [if_neg blank, inside, endsAtGap_inLine behind shallow text, stray, word]
      show scanPlain? false indent (c :: (blanks ++ read)) (.inLine []) (m.after c) (rest ++ tail) =
        _
      have more : isPlainRest (!([] : List Char).isEmpty) rest = true := plain
      rw [ih more (absurd rfl)]
      simp [Mark.afterAll]

/-- From its start on. -/
theorem scanPlain?_word (plain : isPlainRest false cs = true) (shallow : indent ≤ 1) :
    scanPlain? false indent [] .none m (cs ++ tail) =
      scanPlain? false indent cs.reverse .none (m.afterAll cs) tail := by
  have more : isPlainRest (!([] : List Char).isEmpty) cs = true := plain
  refine (scanPlain?_append more (absurd rfl) shallow).trans ?_
  rw [List.nil_append, List.append_nil]

/-- It ends before the colon of a key. -/
theorem scanPlain?_colon :
    scanPlain? false indent read .none m (':' :: ' ' :: tail) =
      some (read, false, ⟨m, ':' :: ' ' :: tail⟩) := by
  rfl

/-- It ends with its line, if the next line is not indented. -/
theorem scanPlain?_lineEnd (next : tail = [] ∨ endsWord tail = false) :
    scanPlain? false 1 read .none m ('\n' :: tail) = some (read, true, ⟨m.after '\n', tail⟩) := by
  show scanPlain? false 1 read ⟨[], true, some '\n', []⟩ (m.after '\n') tail = _
  cases tail with
  | nil => rfl
  | cons c rest =>
    -- The next line starts with a word at the first column, which is left of the scalar.
    have word : (isBlank c || isBreak c) = false := next.resolve_left (List.cons_ne_nil _ _)
    obtain ⟨blank, inside⟩ := Bool.or_eq_false_iff.mp word
    have ends : endsAtGap false 1 ⟨[], true, some '\n', []⟩ (m.after '\n') (c :: rest) = true := rfl
    rw [scanPlain?, blank, inside, ends]
    rfl

/-! ## Quoted scalars -/

/-- A quote is written twice. -/
theorem singleQuoted_quote (rest : List Char) :
    singleQuoted false ('\'' :: rest) = '\'' :: '\'' :: singleQuoted false rest := by
  rfl

/-- Any other character inside a line is written as itself. -/
theorem singleQuoted_of_ne {rest : List Char} (inside : isBreak c = false) (text : c ≠ '\'') :
    singleQuoted false (c :: rest) = c :: singleQuoted false rest := by
  rw [singleQuoted, inside, if_neg Bool.false_ne_true, if_neg Bool.false_ne_true,
    if_neg (by simpa using text)]
  rfl

/-- Between single quotes any text is scanned up to the closing quote, which stands at the end of
the line. -/
theorem scanSingle?_singleQuoted (inside : ∀ c ∈ cs, isBreak c = false) (behind : 0 < m.column) :
    scanSingle? read (.inLine blanks) m (singleQuoted false cs ++ '\'' :: '\n' :: tail) =
      some (cs.reverse ++ (blanks ++ read),
        ⟨m.afterAll (singleQuoted false cs ++ ['\'']), '\n' :: tail⟩) := by
  induction cs generalizing blanks read m with
  | nil => simp [singleQuoted, scanSingle?, Gap.reading, Gap.inLine, Mark.afterAll]
  | cons c rest ih =>
    obtain ⟨first, others⟩ := List.forall_mem_cons.mp inside
    have moved (m : Mark) : 0 < (m.after c).column := by
      rw [Mark.after_of_not_break first]
      exact Nat.succ_pos _
    by_cases quote : c = '\''
    · -- A quote is written twice and scanned as one.
      subst quote
      rw [singleQuoted_quote, List.cons_append, List.cons_append, scanSingle?]
      show scanSingle? ('\'' :: (blanks ++ read)) (.inLine []) _ _ = _
      rw [ih others (moved _)]
      simp [Mark.afterAll]
    · rw [singleQuoted_of_ne first quote, List.cons_append, scanSingle?]
      · by_cases blank : isBlank c = true
        · rw [if_pos blank]
          show scanSingle? read (.inLine (c :: blanks)) _ _ = _
          rw [ih others (moved _)]
          simp [Mark.afterAll]
        · -- The gap before a word belongs to the text.
          rw [if_neg blank, first, isDocumentMarker_of_column behind]
          show scanSingle? (c :: (blanks ++ read)) (.inLine []) _ _ = _
          rw [ih others (moved _)]
          simp [Mark.afterAll]
      · exact fun _ h _ => quote h
      · exact quote

/-! ## The writer -/

/-- A text that is written on one line. -/
def IsOneLine (cs : List Char) : Prop := ∀ c ∈ cs, isPrintable c = true ∧ isBreak c = false

/-- The only blank that can be written as itself is the space. -/
theorem eq_space_of_isBlank (printable : isPrintable c = true) (blank : isBlank c = true) :
    c = ' ' := by
  unfold isBlank at blank
  rw [Bool.or_eq_true, beq_iff_eq, beq_iff_eq] at blank
  rcases blank with rfl | rfl
  · rfl
  · cases printable

/-- What holds of a text with more than one character holds without the first. -/
theorem holdsIndicator_of_cons {d : Char} {rest : List Char}
    (h : holdsIndicator (c :: d :: rest) = false) :
    (c = ':' → d ≠ ' ') ∧ (c = ' ' → d ≠ '#') ∧ holdsIndicator (d :: rest) = false := by
  simp only [holdsIndicator, hasPair, isSpace, List.getLast?_cons_cons, Bool.or_eq_false_iff,
    Bool.and_eq_false_iff, beq_eq_false_iff_ne] at h ⊢
  obtain ⟨⟨⟨colon, more⟩, last⟩, comment, others⟩ := h
  -- The first pair of characters is no indicator, and the last character is the same.
  refine ⟨?_, ?_, ⟨more, last⟩, others⟩
  · rintro rfl
    exact colon.resolve_left (fun ne => ne rfl)
  · rintro rfl
    exact comment.resolve_left (fun ne => ne rfl)

/-- A text on one line can be scanned as a plain scalar if it does not end with a blank and
holds neither the end of a key nor the start of a comment. -/
theorem isPlainRest_of_line {afterBlank : Bool} (line : IsOneLine cs)
    (last : cs.getLast? ≠ some ' ') (silent : holdsIndicator cs = false)
    (first : afterBlank = true → cs ≠ [] ∧ cs.head? ≠ some '#') :
    isPlainRest afterBlank cs = true := by
  induction cs generalizing afterBlank with
  | nil =>
    cases afterBlank with
    | false => rfl
    | true => exact absurd rfl (first rfl).1
  | cons c rest ih =>
    obtain ⟨⟨printable, inside⟩, others⟩ := List.forall_mem_cons.mp line
    rw [isPlainRest, inside, Bool.not_false, Bool.true_and]
    split
    · next blank =>
      -- A blank is not the last character, and no comment follows it.
      cases eq_space_of_isBlank printable blank
      cases rest with
      | nil => exact absurd rfl last
      | cons d rest =>
        obtain ⟨-, comment, silent⟩ := holdsIndicator_of_cons silent
        refine ih others (by simpa using last) silent fun _ => ⟨List.cons_ne_nil _ _, ?_⟩
        simpa using comment rfl
    · next blank =>
      have text : (afterBlank && c == '#') = false := by
        cases afterBlank with
        | false => rfl
        | true => simpa using (first rfl).2
      -- A colon is not the last character, and no space follows it.
      have colon : (c == ':' && endsWord rest) = false := by
        cases rest with
        | nil =>
          have other : c ≠ ':' := by
            rintro rfl
            cases silent
          simp [other]
        | cons d rest =>
          obtain ⟨⟨printable, inside⟩, -⟩ := List.forall_mem_cons.mp others
          by_cases colon : c = ':'
          · have word : isBlank d = false := by
              rw [Bool.eq_false_iff]
              intro blank
              exact (holdsIndicator_of_cons silent).1 colon (eq_space_of_isBlank printable blank)
            simp [endsWord, word, inside]
          · simp [colon]
      have onward : isPlainRest false rest = true := by
        cases rest with
        | nil => rfl
        | cons d rest =>
          exact ih others (by simpa using last) (holdsIndicator_of_cons silent).2.2
            (absurd · Bool.false_ne_true)
      rw [text, colon, onward]
      rfl

/-- The plain style stays on one line. -/
theorem isOneLine_of_fitsPlain (fits : fitsPlain cs = true) : IsOneLine cs := by
  simp only [fitsPlain, Bool.and_eq_true, List.all_eq_true, Bool.not_eq_true'] at fits
  obtain ⟨⟨⟨⟨⟨⟨printable, inside⟩, -⟩, -⟩, -⟩, -⟩, -⟩ := fits
  exact fun c mem => ⟨printable c mem, by simpa using List.any_eq_false.mp inside c mem⟩

/-- Where the writer chooses it, the scan goes through. -/
theorem isPlainRest_of_fitsPlain (fits : fitsPlain cs = true) : isPlainRest false cs = true := by
  have line := isOneLine_of_fitsPlain fits
  simp only [fitsPlain, Bool.and_eq_true, Bool.not_eq_true', bne_iff_ne] at fits
  obtain ⟨⟨⟨⟨-, last⟩, -⟩, -⟩, silent⟩ := fits
  -- There is nothing in front of the text that a comment could stand behind.
  exact isPlainRest_of_line line last silent (absurd · Bool.false_ne_true)

/-- A style holds a text on one line. -/
inductive FitsLine : Style → List Char → Prop
  | plain {cs : List Char} (nonempty : cs ≠ []) (fits : fitsPlain cs = true) : FitsLine .plain cs
  | quoted {cs : List Char} (line : IsOneLine cs) : FitsLine .singleQuoted cs

/-- The characters of a text on its line. -/
def written : Style → List Char → List Char
  | .singleQuoted, cs => '\'' :: singleQuoted false cs ++ ['\'']
  | _, cs => cs

/-- There is no pair without a character of the second kind. -/
theorem hasPair_of_second {first second : Char → Bool} (none : ∀ c ∈ cs, second c = false) :
    hasPair first second cs = false := by
  induction cs with
  | nil => rfl
  | cons c rest ih =>
    obtain ⟨-, others⟩ := List.forall_mem_cons.mp none
    -- A pair takes two characters, so a single one has none.
    cases rest with
    | nil => rfl
    | cons d rest => rw [hasPair, others d List.mem_cons_self, Bool.and_false, ih others]; rfl

/-- There is no pair without a character of the first kind. -/
theorem hasPair_of_first {first second : Char → Bool} (none : ∀ c ∈ cs, first c = false) :
    hasPair first second cs = false := by
  induction cs with
  | nil => rfl
  | cons c rest ih =>
    obtain ⟨head, others⟩ := List.forall_mem_cons.mp none
    cases rest with
    | nil => rfl
    | cons d rest => rw [hasPair, head, Bool.false_and, ih others]; rfl

/-- Quotes can hold any text on one line. -/
theorem fitsQuotes_of_line (line : IsOneLine cs) : fitsQuotes cs = true := by
  have inside (c : Char) (mem : c ∈ cs) : isBreak c = false := (line c mem).2
  rw [fitsQuotes, hasPair_of_second inside, hasPair_of_first inside, Bool.not_false, Bool.and_true,
    Bool.and_true, List.all_eq_true]
  exact fun c mem => (line c mem).1

variable {text : String}

/-- On one line the writer knows two styles. Plain texts are not read as something else. -/
theorem styleOf_cases (line : IsOneLine text.toList) :
    (styleOf text = .plain ∧ meansOther text = false ∧ fitsPlain text.toList = true) ∨
      styleOf text = .singleQuoted := by
  have unbroken : text.toList.contains '\n' = false := by
    rw [Bool.eq_false_iff, ne_eq, List.contains_iff_mem]
    exact fun mem => absurd (line _ mem).2 (by decide)
  unfold styleOf
  simp only [unbroken, fitsQuotes_of_line line, if_true, Bool.false_eq_true, if_false]
  split
  · next plain =>
    obtain ⟨same, fits⟩ := Bool.and_eq_true_iff.mp plain
    exact .inl ⟨rfl, by simpa using same, fits⟩
  · exact .inr rfl

/-- The style that the writer picks holds a text on one line. -/
theorem fitsLine_styleOf (line : IsOneLine text.toList) :
    FitsLine (styleOf text) text.toList := by
  rcases styleOf_cases line with ⟨style, same, fits⟩ | style
  · rw [style]
    refine .plain ?_ fits
    intro empty
    cases String.toList_eq_nil_iff.mp empty
    cases same
  · rw [style]
    exact .quoted line

/-- A text on one line is written in the style of the writer, with the end of the line behind
it. -/
theorem scalarText_of_line (line : IsOneLine text.toList) :
    scalarText text = .ofList (written (styleOf text) text.toList ++ ['\n']) := by
  unfold scalarText
  rcases styleOf_cases line with ⟨style, -, -⟩ | style
  · rw [style]
    show text ++ "\n" = .ofList (text.toList ++ ['\n'])
    rw [String.ofList_append, String.ofList_toList]
  · rw [style]
    simp [written]

end PropShape.Yaml
