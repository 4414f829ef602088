import PropShape.Proofs.Yaml.Mapping
import PropShape.Settings.Storage

/-!
# `PropShape.Proofs.Settings.Storage`: saved settings load back

Settings are written as the lines of a block mapping, one for each key that is
written (`text_eq_lines`), so they are read as the pairs of the mapping. What is
left is what the pairs mean: a flag is a word of the core schema
(`flag?_flagLine`), and a name is never taken for something absent, since the
writer puts quotes around what would be read as null (`optionalText?_nameLine`).
-/

set_option autoImplicit false

namespace PropShape.Settings

open Yaml (Line IsKeyword IsOneLine FitsLine styleOf isPrintable isBreak)

/-! ## The lines of settings -/

/-- The key of the first flag is made of letters. -/
theorem isKeyword_throwErrors : IsKeyword throwErrorsKey.toList :=
  ⟨by decide, List.all_eq_true.mp rfl, by decide⟩

/-- The key of the second flag is made of letters. -/
theorem isKeyword_validateOnUpdate : IsKeyword validateOnUpdateKey.toList :=
  ⟨by decide, List.all_eq_true.mp rfl, by decide⟩

/-- The key of the property name is made of letters. -/
theorem isKeyword_spreadProperty : IsKeyword spreadPropertyKey.toList :=
  ⟨by decide, List.all_eq_true.mp rfl, by decide⟩

/-- A flag fits on a line as it is. -/
theorem fitsLine_flagText (flag : Bool) : FitsLine .plain (flagText flag).toList := by
  cases flag with
  | false => exact .plain (by decide) (by decide)
  | true => exact .plain (by decide) (by decide)

/-- The line of a flag. -/
def flagLine (key : String) (keyword : IsKeyword key.toList) (flag : Bool) : Line :=
  ⟨key, .plain, flagText flag, keyword, fitsLine_flagText flag⟩

/-- The line of a property name, in the style that the writer picks for it. -/
def nameLine (name : String) (line : IsOneLine name.toList) : Line :=
  ⟨spreadPropertyKey, styleOf name, name, isKeyword_spreadProperty, Yaml.fitsLine_styleOf line⟩

/-- The line of a name, if there is one. -/
def nameLines : (name? : Option String) → (∀ name ∈ name?, IsOneLine name.toList) → List Line
  | none, _ => []
  | some name, line => [nameLine name (line name rfl)]

variable {settings : Settings}

/-- Settings as lines: the flags, and the name behind them. -/
def lines (line : ∀ name ∈ settings.spreadProperty, IsOneLine name.toList) : List Line :=
  flagLine throwErrorsKey isKeyword_throwErrors settings.throwErrors ::
    flagLine validateOnUpdateKey isKeyword_validateOnUpdate settings.validateOnUpdate ::
      nameLines settings.spreadProperty line

/-- The text of a line: its key, a colon, what is written, and the end of the line. -/
theorem ofList_chars (line : Line) :
    String.ofList line.chars =
      line.key ++ ": " ++ .ofList (Yaml.written line.style line.text.toList) ++ "\n" := by
  show String.ofList (line.key.toList ++ ([':', ' '] ++ (_ ++ ['\n']))) = _
  simp only [String.ofList_append, String.ofList_toList, String.append_assoc]

/-- The text of the line of a flag. -/
theorem ofList_flagLine (key : String) (keyword : IsKeyword key.toList) (flag : Bool) :
    String.ofList (flagLine key keyword flag).chars = key ++ ": " ++ flagText flag ++ "\n" := by
  rw [ofList_chars]
  show key ++ ": " ++ .ofList (flagText flag).toList ++ "\n" = _
  rw [String.ofList_toList]

/-- The text of the line of a property name, as the writer puts it. -/
theorem ofList_nameLine (name : String) (line : IsOneLine name.toList) :
    String.ofList (nameLine name line).chars =
      spreadPropertyKey ++ ": " ++ Yaml.scalarText name := by
  rw [ofList_chars, Yaml.scalarText_of_line line, String.ofList_append, ← String.append_assoc]
  rfl

/-- Settings are written line by line. -/
theorem text_eq_lines (line : ∀ name ∈ settings.spreadProperty, IsOneLine name.toList) :
    settings.text = .ofList ((lines line).flatMap Line.chars) := by
  obtain ⟨throwErrors, validateOnUpdate, name?⟩ := settings
  simp only [lines, List.flatMap_cons, String.ofList_append, ofList_flagLine]
  cases name? with
  | none => simp only [text, nameLines, List.flatMap_nil, String.append_assoc]
  | some name =>
    simp only [text, nameLines, List.flatMap_cons, List.flatMap_nil, List.append_nil,
      ofList_nameLine, String.append_assoc]

example : Settings.text ⟨true, false, some "it's: null"⟩ =
    "throwErrors: true\nvalidateOnUpdate: false\nspreadProperty: 'it''s: null'\n" := by
  decide

/-! ## The pairs of settings -/

/-- The flag is read off its line. -/
theorem flag?_flagLine (key : String) (keyword : IsKeyword key.toList) (flag : Bool) :
    (flagLine key keyword flag).reading.2.flag? = some flag := by
  cases flag <;> rfl

/-- A name that is written is read as one. -/
theorem optionalText?_nameLine (name : String) (line : IsOneLine name.toList) :
    (nameLine name line).reading.2.optionalText? = some (some name) := by
  show (Document.scalar (Yaml.reading (styleOf name) none name)).optionalText? = _
  rcases Yaml.styleOf_cases line with ⟨style, same, -⟩ | style
  · -- A name that reads as null means something else, so it would not be plain.
    have present : (name.isEmpty || Yaml.isNull name) = false := by
      rw [Bool.eq_false_iff]
      intro absent
      rw [Yaml.meansOther, Yaml.plainValue?, if_pos absent] at same
      cases same
    have absent? : (Document.scalar (Yaml.reading .plain none name)).absent? = some false :=
      congrArg some present
    rw [style, Document.optionalText?, absent?]
    rfl
  · -- What stands between quotes is never absent.
    rw [style]
    rfl

variable {draft : Draft}

/-- The line of the first flag sets it, if it has not been set before. -/
theorem place?_throwErrors (flag : Bool) (fresh : draft.seen.contains throwErrorsKey = false) :
    draft.place? (flagLine throwErrorsKey isKeyword_throwErrors flag).reading =
      some ⟨throwErrorsKey :: draft.seen, { draft.settings with throwErrors := flag }⟩ := by
  show (if draft.seen.contains throwErrorsKey then none
    else Option.map _ (Option.map _ (flagLine throwErrorsKey _ flag).reading.2.flag?)) = _
  rw [fresh, flag?_flagLine]
  rfl

/-- The line of the second flag sets it, if it has not been set before. -/
theorem place?_validateOnUpdate (flag : Bool)
    (fresh : draft.seen.contains validateOnUpdateKey = false) :
    draft.place? (flagLine validateOnUpdateKey isKeyword_validateOnUpdate flag).reading =
      some ⟨validateOnUpdateKey :: draft.seen,
        { draft.settings with validateOnUpdate := flag }⟩ := by
  show (if draft.seen.contains validateOnUpdateKey then none
    else Option.map _ (Option.map _ (flagLine validateOnUpdateKey _ flag).reading.2.flag?)) = _
  rw [fresh, flag?_flagLine]
  rfl

/-- The line of a property name sets it, if none has been set before. -/
theorem place?_spreadProperty (name : String) (line : IsOneLine name.toList)
    (fresh : draft.seen.contains spreadPropertyKey = false) :
    draft.place? (nameLine name line).reading =
      some ⟨spreadPropertyKey :: draft.seen,
        { draft.settings with spreadProperty := some name }⟩ := by
  show (if draft.seen.contains spreadPropertyKey then none
    else Option.map _ (Option.map _ (nameLine name line).reading.2.optionalText?)) = _
  rw [fresh, optionalText?_nameLine]
  rfl

/-- The pairs of the mapping mean the settings. -/
theorem ofDocument?_lines (line : ∀ name ∈ settings.spreadProperty, IsOneLine name.toList) :
    ofDocument? (.mapping false ((lines line).map Line.reading)) = some settings := by
  obtain ⟨throwErrors, validateOnUpdate, name?⟩ := settings
  -- No key has been seen before it is placed.
  rw [ofDocument?, lines, List.map_cons, List.foldlM_cons, place?_throwErrors throwErrors rfl,
    Option.bind_eq_bind, Option.bind_some, List.map_cons, List.foldlM_cons,
    place?_validateOnUpdate validateOnUpdate rfl, Option.bind_eq_bind, Option.bind_some]
  cases name? with
  | none => rfl
  | some name =>
    rw [nameLines, List.map_cons, List.foldlM_cons, place?_spreadProperty name _ rfl]
    rfl

/-! ## Reading what has been written -/

/-- Every line that is written has a key that is known. -/
theorem keys_contains_lines (line : ∀ name ∈ settings.spreadProperty, IsOneLine name.toList) :
    ∀ l ∈ lines line, keys.contains l.key = true := by
  obtain ⟨throwErrors, validateOnUpdate, name?⟩ := settings
  cases name? with
  | none => simp [lines, nameLines, flagLine, keys]
  | some name => simp [lines, nameLines, flagLine, nameLine, keys]

/-- Settings whose name stays on one line are read from their text. -/
theorem parse_text (line : ∀ name ∈ settings.spreadProperty, IsOneLine name.toList) :
    parse settings.text = .ok settings := by
  have read : Yaml.read? keys.contains settings.text =
      some (some (.mapping false ((lines line).map Line.reading))) := by
    rw [text_eq_lines line]
    exact Yaml.read?_lines _ _ (keys_contains_lines line)
  simp only [parse, read, ofDocument?_lines line]

/-- A file that a text has been written to holds it. -/
theorem load_of_write {path text : String} {file : File}
    (written : File.write path text = .ok file) : load file = parse text := by
  unfold File.write at written
  split at written
  · next target =>
    cases written
    have bytes : File.bytes ⟨path, some text.toUTF8⟩ = .ok text.toUTF8 := by
      rw [File.bytes, target]
    have decoded : String.fromUTF8? text.toUTF8 = some text := dif_pos text.isValidUTF8
    simp only [load, bytes, decoded]
  · cases written

/-- Printable characters of ASCII stand on one line. -/
theorem isOneLine_of_ascii {cs : List Char}
    (ascii : ∀ c ∈ cs, 0x20 ≤ c.toNat ∧ c.toNat ≤ 0x7e) : IsOneLine cs := by
  intro c mem
  obtain ⟨low, high⟩ := ascii c mem
  constructor
  · simp [isPrintable, low, high]
  · -- The characters that break lines lie on both sides of the range.
    have other (d : Char) (outside : d.toNat < 0x20 ∨ 0x7e < d.toNat) : (c == d) = false := by
      rw [beq_eq_false_iff_ne]
      rintro rfl
      omega
    simp [isBreak, other '\n' (by decide), other '\u2028' (by decide), other '\u2029' (by decide)]

/-- Settings whose name, if there is one, is any printable ASCII text load back as they were
saved: from their text, and from the file that it is written to. -/
theorem saved_settings_load_back (settings : Settings)
    (printable : ∀ name, settings.spreadProperty = some name →
      ∀ c ∈ name.toList, 0x20 ≤ c.toNat ∧ c.toNat ≤ 0x7e) :
    parse settings.text = .ok settings ∧
      ∀ path file, settings.save path = .ok file → load file = .ok settings := by
  have line : ∀ name ∈ settings.spreadProperty, IsOneLine name.toList :=
    fun name some => isOneLine_of_ascii (printable name some)
  refine ⟨parse_text line, fun path file saved => ?_⟩
  rw [load_of_write saved, parse_text line]

/-- Blanks at both ends, a dash, quotes, a colon and the start of a comment: such a name is
written between quotes. -/
theorem saved_settings_load_back_quoted :
    let settings : Settings := ⟨true, false, some " - 'null': #1 "⟩
    let file : File := ⟨"settings.yaml", some settings.text.toUTF8⟩
    parse settings.text = .ok settings ∧ settings.save "settings.yaml" = .ok file ∧
      load file = .ok settings := by
  intro settings file
  have printable : ∀ name, settings.spreadProperty = some name →
      ∀ c ∈ name.toList, 0x20 ≤ c.toNat ∧ c.toNat ≤ 0x7e := by
    rintro _ ⟨⟩
    simp
  have target : Target.ofPath "settings.yaml" = .file := by decide
  have saved : settings.save "settings.yaml" = .ok file := by rw [save, File.write, if_pos target]
  obtain ⟨parsed, loaded⟩ := saved_settings_load_back settings printable
  exact ⟨parsed, saved, loaded _ _ saved⟩

end PropShape.Settings
