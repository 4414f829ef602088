/-!
# `PropShape.Yaml.Text`: the characters of a YAML text

A YAML text is a list of allowed characters. Line breaks of all kinds are
read as line feeds, except for the line and paragraph separators, which stay
what they are, so after `normalized` a line break is a single character.

A position (`Mark`) is an index in bytes, a line, and a column in characters.
-/

set_option autoImplicit false

namespace PropShape.Yaml

/-- Whether a character may stand in a YAML text at all. -/
def isAllowed (c : Char) : Bool :=
  let n := c.toNat
  n == 0x09 || n == 0x0a || n == 0x0d || (0x20 ≤ n && n ≤ 0x7e) || n == 0x85 ||
    (0xa0 ≤ n && n ≤ 0xd7ff) || (0xe000 ≤ n && n ≤ 0xfffd) || 0x10000 ≤ n

/-- Reads every line break but the separators as a line feed. -/
def normalized : List Char → List Char
  | '\r' :: '\n' :: rest => '\n' :: normalized rest
  | '\r' :: rest => '\n' :: normalized rest
  | '\u0085' :: rest => '\n' :: normalized rest
  | c :: rest => c :: normalized rest
  | [] => []

/-- A line break of a normalized text. -/
def isBreak (c : Char) : Bool := c == '\n' || c == '\u2028' || c == '\u2029'

/-- Spaces and tabs. -/
def isBlank (c : Char) : Bool := c == ' ' || c == '\t'

/-- Whether a text ends here, or goes on with a blank or a line break. -/
def endsWord : List Char → Bool
  | [] => true
  | c :: _ => isBlank c || isBreak c

/-- The characters of anchors, directives and tag handles. -/
def isWordChar (c : Char) : Bool := c.isAlphanum || c == '_' || c == '-'

/-- A position in a text. -/
structure Mark where
  /-- The bytes before it. -/
  index : Nat
  line : Nat
  column : Nat
  deriving DecidableEq, Inhabited

/-- The position behind a character. -/
def Mark.after (m : Mark) (c : Char) : Mark :=
  if isBreak c then ⟨m.index + c.utf8Size, m.line + 1, 0⟩
  else ⟨m.index + c.utf8Size, m.line, m.column + 1⟩

/-- The position behind some characters. -/
def Mark.afterAll (m : Mark) (cs : List Char) : Mark := cs.foldl Mark.after m

/-- A rest of a text and its position. -/
structure Cursor where
  mark : Mark
  rest : List Char
  deriving Inhabited

/-- The cursor behind the first `n` characters. -/
def Cursor.skip (cursor : Cursor) (n : Nat) : Cursor :=
  ⟨cursor.mark.afterAll (cursor.rest.take n), cursor.rest.drop n⟩

/-- Splits off the characters up to the first that fails a test. -/
def Cursor.span (cursor : Cursor) (test : Char → Bool) : List Char × Cursor :=
  let taken := cursor.rest.takeWhile test
  (taken, ⟨cursor.mark.afterAll taken, cursor.rest.dropWhile test⟩)

/-- Whether a line starts here with a marker of three equal characters that
separates documents. -/
def isDocumentMarker (m : Mark) (cs : List Char) : Bool :=
  m.column == 0 &&
    match cs with
    | '-' :: '-' :: '-' :: rest => endsWord rest
    | '.' :: '.' :: '.' :: rest => endsWord rest
    | _ => false

end PropShape.Yaml
