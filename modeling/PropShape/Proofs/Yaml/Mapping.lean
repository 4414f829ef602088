import PropShape.Proofs.Yaml.Tokens
import PropShape.Yaml.Reader

/-!
# `PropShape.Proofs.Yaml.Mapping`: reading a block mapping

The lines of a block mapping are read as its pairs, in their order, and every
text keeps the style that it was written in (`read?_lines`). The text of the
mapping has no anchors, so nothing is followed on the way.
-/

set_option autoImplicit false

namespace PropShape.Yaml

variable {handles : Handles} {a : Anchors} {rest : List Token}

/-- The nodes of a line. -/
def Line.pair (line : Line) : Node × Node :=
  (.scalar .plain none line.key, .scalar line.style none line.text)

namespace Node

/-- A scalar is a node by itself. -/
theorem read?_scalar {block unindented : Bool} {fuel : Nat} {style : Style} {text : String} :
    read? handles block unindented (fuel + 1) (.scalar style text :: rest) a =
      some (.scalar style none text, rest, a.event) := by
  rw [read?]
  · rfl
  · nofun

/-- A line is read as a pair. -/
theorem blockPairs?_line {fuel : Nat} (line : Line) :
    blockPairs? handles (fuel + 3) (line.tokens ++ rest) a =
      (blockPairs? handles (fuel + 2) rest a.event.event).map fun (pairs, rest, a) =>
        (line.pair :: pairs, rest, a) := by
  show blockPairs? handles (fuel + 3)
    (.key :: .scalar .plain line.key :: .value :: .scalar line.style line.text :: rest) a = _
  simp only [blockPairs?, blockValue?, endsBlockPart, Bool.false_eq_true, if_false, read?_scalar]
  rfl

/-- The lines of a mapping are read as its pairs, up to its end. -/
theorem blockPairs?_lines {fuel : Nat} (lines : List Line) (enough : lines.length + 2 ≤ fuel) :
    ∃ b, blockPairs? handles fuel (lines.flatMap Line.tokens ++ .blockEnd :: rest) a =
      some (lines.map Line.pair, rest, b) := by
  induction lines generalizing fuel a with
  | nil =>
    obtain ⟨fuel, rfl⟩ : ∃ less, fuel = less + 1 := ⟨fuel - 1, by omega⟩
    exact ⟨a, by simp [blockPairs?]⟩
  | cons line others ih =>
    rw [List.length_cons] at enough
    -- Each pair uses up one unit of fuel. Its value needs two more, but gives them back.
    obtain ⟨fuel, rfl⟩ : ∃ less, fuel = less + 3 := ⟨fuel - 3, by omega⟩
    have enough : others.length + 2 ≤ fuel + 2 := by omega
    obtain ⟨b, read⟩ := ih (a := a.event.event) enough
    refine ⟨b, ?_⟩
    rw [List.flatMap_cons, List.append_assoc, blockPairs?_line, read]
    rfl

/-- A block mapping is read as its pairs, behind the token that starts it. -/
theorem read?_mapping {fuel : Nat} :
    read? handles true false (fuel + 1) (.blockMappingStart :: rest) a =
      (blockPairs? handles fuel rest a.event).map fun (pairs, rest, a) =>
        (.mapping none pairs, rest, a.event) := by
  rw [read?]
  · show Option.map _ (Option.map _ _) = _
    rw [Option.map_map]
    rfl
  · nofun

end Node

/-- Every line has four tokens. -/
theorem length_tokens (lines : List Line) :
    (lines.flatMap Line.tokens).length = 4 * lines.length := by
  induction lines with
  | nil => rfl
  | cons line rest ih =>
    rw [List.flatMap_cons, List.length_append, ih, List.length_cons]
    show 4 + 4 * rest.length = _
    omega

/-- The tree of a mapping. -/
theorem Tree.ofTokens?_lines (lines : List Line) :
    ∃ anchors, Tree.ofTokens? (.blockMappingStart :: lines.flatMap Line.tokens ++ [.blockEnd]) =
      some ⟨some (.mapping none (lines.map Line.pair)), anchors⟩ := by
  -- The fuel is twice the number of tokens, of which every line has four.
  have enough : lines.length + 2 ≤
      2 * (.blockMappingStart :: lines.flatMap Line.tokens ++ [Token.blockEnd]).length + 1 := by
    have tokens := length_tokens lines
    simp only [List.length_cons, List.length_append]
    omega
  have read : ∃ b, Node.blockPairs? standardHandles _ (lines.flatMap Line.tokens ++ [.blockEnd])
      Anchors.start.event = some (lines.map Line.pair, [], b) :=
    Node.blockPairs?_lines lines enough
  obtain ⟨b, pairs⟩ := read
  refine ⟨b.event, ?_⟩
  show ofRoot? (Node.read? standardHandles true false (_ + 1)
    (.blockMappingStart :: (lines.flatMap Line.tokens ++ [.blockEnd])) .start) = _
  rw [Node.read?_mapping, pairs]
  rfl

/-- What a line reads as. -/
def Line.reading (line : Line) : String × Document :=
  (line.key, .scalar (Yaml.reading line.style none line.text))

/-- Each pair of scalars is read as the meaning of its line, and costs nothing of the budget. -/
theorem pairs?_lines {anchors : Anchors} {wanted : String → Bool} {levels budget : Nat}
    (lines : List Line) (all : ∀ line ∈ lines, wanted line.key = true) :
    anchors.pairs? wanted (anchors.document? (fun _ => true) levels) (lines.map Line.pair) budget =
      some (lines.map Line.reading, budget) := by
  induction lines with
  | nil => rfl
  | cons line rest ih =>
    obtain ⟨first, others⟩ := List.forall_mem_cons.mp all
    -- A scalar is read at any depth.
    have value : anchors.document? (fun _ => true) levels (.scalar line.style none line.text)
        budget = some (.scalar (Yaml.reading line.style none line.text), budget) := by
      cases levels <;> rfl
    show (if wanted line.key then _ else _) = _
    rw [if_pos first, value]
    show Option.map _ (anchors.pairs? wanted _ (rest.map Line.pair) budget) = _
    rw [ih others]
    rfl

/-- The mapping of the lines is read as the document of what they mean. -/
theorem document?_mapping {anchors : Anchors} {wanted : String → Bool} {levels budget : Nat}
    (lines : List Line) (all : ∀ line ∈ lines, wanted line.key = true) :
    anchors.document? wanted (levels + 1) (.mapping none (lines.map Line.pair)) budget =
      some (.mapping false (lines.map Line.reading), budget) := by
  show (anchors.pairs? wanted _ _ budget).map _ = _
  rw [pairs?_lines lines all]
  rfl

/-! ## Characters -/

/-- What the writer takes for printable is allowed in a text. -/
theorem isAllowed_of_isPrintable {c : Char} (printable : isPrintable c = true) :
    isAllowed c = true := by
  simp only [isPrintable, isAllowed, Bool.or_eq_true, Bool.and_eq_true, decide_eq_true_eq,
    beq_iff_eq] at printable ⊢
  omega

/-- Printable characters need no normalization. -/
theorem normalized_of_printable {cs : List Char}
    (printable : ∀ c ∈ cs, isPrintable c = true) : normalized cs = cs := by
  induction cs with
  | nil => rfl
  | cons c rest ih =>
    obtain ⟨first, others⟩ := List.forall_mem_cons.mp printable
    -- Neither of the two characters that would be replaced is printable.
    have carriage : c ≠ '\r' := by
      rintro rfl
      cases first
    have nextLine : c ≠ '\u0085' := by
      rintro rfl
      cases first
    rw [normalized, ih others]
    · exact fun _ h _ => carriage h
    · exact carriage
    · exact nextLine

/-- Quoting brings no new characters along. -/
theorem mem_of_mem_singleQuoted {c : Char} {cs : List Char} (line : IsOneLine cs)
    (mem : c ∈ singleQuoted false cs) : c ∈ cs := by
  induction cs with
  | nil => cases mem
  | cons d rest ih =>
    obtain ⟨⟨-, inside⟩, others⟩ := List.forall_mem_cons.mp line
    -- A quote stands twice in what is written, and both come from the same one.
    by_cases quote : d = '\''
    · subst quote
      rw [singleQuoted_quote, List.mem_cons, List.mem_cons] at mem
      rcases mem with rfl | rfl | mem
      · exact List.mem_cons_self
      · exact List.mem_cons_self
      · exact List.mem_cons_of_mem _ (ih others mem)
    · rw [singleQuoted_of_ne inside quote, List.mem_cons] at mem
      rcases mem with rfl | mem
      · exact List.mem_cons_self
      · exact List.mem_cons_of_mem _ (ih others mem)

/-- What is written on a line is printable. -/
theorem isPrintable_written {style : Style} {cs : List Char} (fits : FitsLine style cs) :
    ∀ c ∈ written style cs, isPrintable c = true := by
  intro c mem
  cases fits with
  | plain nonempty fits => exact (isOneLine_of_fitsPlain fits c mem).1
  | quoted line =>
    simp only [written, List.cons_append, List.mem_cons, List.mem_append, List.not_mem_nil,
      or_false] at mem
    -- The two quotes around the text are printable too.
    rcases mem with rfl | mem | rfl
    · rfl
    · exact (line c (mem_of_mem_singleQuoted line mem)).1
    · rfl

/-- Letters are printable. -/
theorem isPrintable_of_letter {c : Char} (letter : c.isAlpha = true) : isPrintable c = true := by
  simp only [isPrintable, Bool.or_eq_true, Bool.and_eq_true, decide_eq_true_eq]
  rcases Bool.or_eq_true_iff.mp letter with upper | lower
  · obtain ⟨low, high⟩ := of_decide_eq_true upper
    have low : 65 ≤ c.toNat := UInt32.le_iff_toNat_le.mp low
    have high : c.toNat ≤ 90 := UInt32.le_iff_toNat_le.mp high
    omega
  · obtain ⟨low, high⟩ := Bool.and_eq_true_iff.mp lower
    have low : 97 ≤ c.toNat := UInt32.le_iff_toNat_le.mp (of_decide_eq_true low)
    have high : c.toNat ≤ 122 := UInt32.le_iff_toNat_le.mp (of_decide_eq_true high)
    omega

/-- All characters of a line are printable. -/
theorem isPrintable_chars (line : Line) : ∀ c ∈ line.chars, isPrintable c = true := by
  intro c mem
  simp only [Line.chars, List.mem_append, List.mem_cons, List.not_mem_nil, or_false] at mem
  rcases mem with mem | rfl | rfl | mem | rfl
  · exact isPrintable_of_letter (line.keyword.letters c mem)
  · rfl
  · rfl
  · exact isPrintable_written line.fits c mem
  · rfl

/-- The characters of lines are read as they are. -/
theorem characters?_lines (lines : List Line) :
    characters? (.ofList (lines.flatMap Line.chars)) = some (lines.flatMap Line.chars) := by
  have printable : ∀ c ∈ lines.flatMap Line.chars, isPrintable c = true := by
    intro c mem
    obtain ⟨line, -, mem⟩ := List.mem_flatMap.mp mem
    exact isPrintable_chars line c mem
  have allowed : (lines.flatMap Line.chars).all isAllowed = true :=
    List.all_eq_true.mpr fun c mem => isAllowed_of_isPrintable (printable c mem)
  rw [characters?, String.toList_ofList, if_pos allowed, normalized_of_printable printable]

/-- The text of a mapping is read as its pairs. -/
theorem read?_lines {wanted : String → Bool} (line : Line) (rest : List Line)
    (all : ∀ l ∈ line :: rest, wanted l.key = true) :
    read? wanted (.ofList ((line :: rest).flatMap Line.chars)) =
      some (some (.mapping false ((line :: rest).map Line.reading))) := by
  -- Characters, tokens, tree and document, one stage after the other.
  obtain ⟨anchors, tree⟩ := Tree.ofTokens?_lines (line :: rest)
  have document : anchors.document? wanted maxNesting
      (.mapping none ((line :: rest).map Line.pair)) (aliasesPerEvent * anchors.events) =
        some (.mapping false ((line :: rest).map Line.reading), aliasesPerEvent * anchors.events) :=
    document?_mapping (line :: rest) all
  unfold read?
  rw [characters?_lines, Option.bind_eq_bind, Option.bind_some, tokens?_lines, Option.bind_eq_bind,
    Option.bind_some, tree, Option.bind_eq_bind, Option.bind_some]
  show (anchors.document? wanted maxNesting _ _).bind _ = _
  rw [document]
  rfl

end PropShape.Yaml
