import PropShape.Yaml.Token.Block
import PropShape.Yaml.Token.Plain
import PropShape.Yaml.Token.Quoted
import PropShape.Yaml.Token.Tag

/-!
# `PropShape.Yaml.Token.Scan`: from characters to tokens

Indentation is turned into tokens while scanning: a collection starts where a
line is indented deeper than the collections around it, and ends before a line
that is indented less (`Lexer.unindent`, `Lexer.indentTo`).

A colon shows only afterwards that what stood before it was a key. So the
place of anything that may turn out to be a key is remembered, one such place
for each level of brackets, and the key token is put there when the colon
comes (`SimpleKey`). Such a key must end on its line and within 1024
bytes. Where only a key can stand, a missing colon is an error.
-/

set_option autoImplicit false

namespace PropShape.Yaml

/-- A place where a key may have started. -/
structure SimpleKey where
  /-- Whether only a key can stand there. -/
  required : Bool
  /-- How many tokens stand before it. -/
  tokens : Nat
  mark : Mark
  deriving Inhabited

/-- A scan in progress. -/
structure Lexer where
  cursor : Cursor
  /-- The tokens so far, last one first. -/
  tokens : List Token
  /-- How many tokens there are. -/
  count : Nat
  /-- The columns of the block collections around, innermost first. -/
  indents : List Int
  /-- The possible key of each level of brackets, innermost first. -/
  keys : List (Option SimpleKey)
  /-- Whether a key may start here. -/
  keyAllowed : Bool
  deriving Inhabited

namespace Lexer

/-- The start of a text. -/
def start (cs : List Char) : Lexer := ⟨⟨⟨0, 0, 0⟩, cs⟩, [], 0, [], [none], true⟩

/-- Whether brackets are open. -/
def inFlow (s : Lexer) : Bool := !(s.keys.drop 1).isEmpty

/-- The column of the innermost block collection; there is none at `-1`. -/
def indent (s : Lexer) : Int := s.indents.headD (-1)

/-- The column of the next character. -/
def column (s : Lexer) : Int := s.cursor.mark.column

/-- Appends a token. -/
def push (s : Lexer) (token : Token) : Lexer :=
  { s with tokens := token :: s.tokens, count := s.count + 1 }

/-- Appends a token and goes on behind `n` characters. -/
def pushOver (s : Lexer) (token : Token) (n : Nat) : Lexer :=
  { s.push token with cursor := s.cursor.skip n }

/-- Puts a token behind the first `n` tokens. -/
def pushAt (s : Lexer) (n : Nat) (token : Token) : Lexer :=
  let behind := s.count - n
  { s with
    tokens := s.tokens.take behind ++ token :: s.tokens.drop behind
    count := s.count + 1 }

/-- Ends the block collections that are indented deeper than a column. -/
def unindent (s : Lexer) (column : Int) : Lexer :=
  if s.inFlow then s
  else
    let ended := s.indents.takeWhile (fun i => decide (column < i))
    { s with
      indents := s.indents.dropWhile (fun i => decide (column < i))
      tokens := List.replicate ended.length .blockEnd ++ s.tokens
      count := s.count + ended.length }

/-- Starts a block collection at a column, unless one is there already. Its
first token goes behind the first `n` tokens. -/
def indentTo (s : Lexer) (column : Int) (n : Nat) (token : Token) : Lexer :=
  if s.inFlow || column ≤ s.indent then s
  else { s.pushAt n token with indents := column :: s.indents }

/-- Gives up the possible key of this level; a required one is an error. -/
def dropKey? (s : Lexer) : Option Lexer :=
  match s.keys with
  | some key :: outer => if key.required then none else some { s with keys := none :: outer }
  | _ => some s

/-- Remembers that a key may start here. -/
def saveKey? (s : Lexer) : Option Lexer :=
  if s.keyAllowed then do
    let required := !s.inFlow && s.indent == s.column
    let s ← s.dropKey?
    some { s with keys := some ⟨required, s.count, s.cursor.mark⟩ :: s.keys.drop 1 }
  else
    some s

/-- Gives up the possible key of this level if it has grown too long. The keys
of other levels wait until their brackets close: nobody asks for them before. -/
def dropStaleKey? (s : Lexer) : Option Lexer :=
  match s.keys with
  | some key :: _ =>
    if key.mark.line < s.cursor.mark.line || key.mark.index + 1024 < s.cursor.mark.index then
      s.dropKey?
    else some s
  | _ => some s

/-- Skips blanks, comments and line breaks. A tab is skipped only where it
cannot be taken for indentation. A byte order mark at the start of a line says
nothing, but takes a column. Outside brackets a key may start after a line
break. -/
def skipSpace (inFlow keyAllowed inComment : Bool) (m : Mark) : List Char → Bool × Cursor
  | [] => (keyAllowed, ⟨m, []⟩)
  | c :: rest =>
    if isBreak c then skipSpace inFlow (keyAllowed || !inFlow) false (m.after c) rest
    else if inComment || c == ' ' || (c == '\t' && (inFlow || !keyAllowed)) ||
        (c == '\ufeff' && m.column == 0) then
      skipSpace inFlow keyAllowed inComment (m.after c) rest
    else if c == '#' then skipSpace inFlow keyAllowed true (m.after c) rest
    else (keyAllowed, ⟨m, c :: rest⟩)

/-- Goes on to where the next token starts, and ends the collections that do
not reach it. -/
def advance? (s : Lexer) : Option Lexer := do
  let (keyAllowed, cursor) :=
    skipSpace s.inFlow s.keyAllowed false s.cursor.mark s.cursor.rest
  let s ← { s with keyAllowed, cursor }.dropStaleKey?
  some (s.unindent s.column)

/-! ## The kinds of tokens -/

/-- A directive or a marker between documents ends every collection. -/
def endDocument? (s : Lexer) : Option Lexer := do
  let s ← (s.unindent (-1)).dropKey?
  some { s with keyAllowed := false }

/-- Opens a flow collection. -/
def openBracket? (s : Lexer) (token : Token) : Option Lexer := do
  let s ← s.saveKey?
  some { s.pushOver token 1 with keys := none :: s.keys, keyAllowed := true }

/-- Closes a flow collection. -/
def closeBracket? (s : Lexer) (token : Token) : Option Lexer := do
  let s ← s.dropKey?
  let keys := if s.inFlow then s.keys.drop 1 else s.keys
  some { s.pushOver token 1 with keys, keyAllowed := false }

/-- Ends an entry of a flow collection. -/
def comma? (s : Lexer) : Option Lexer := do
  let s ← s.dropKey?
  some { s.pushOver .flowEntry 1 with keyAllowed := true }

/-- A dash before an item of a block sequence. -/
def dash? (s : Lexer) : Option Lexer :=
  if !s.inFlow && !s.keyAllowed then none
  else do
    let s ← (s.indentTo s.column s.count .blockSequenceStart).dropKey?
    some { s.pushOver .blockEntry 1 with keyAllowed := true }

/-- A question mark before a key. -/
def question? (s : Lexer) : Option Lexer :=
  if !s.inFlow && !s.keyAllowed then none
  else do
    let s ← (s.indentTo s.column s.count .blockMappingStart).dropKey?
    some { s.pushOver .key 1 with keyAllowed := !s.inFlow }

/-- A colon before a value. If a key may have started on its line, it did. -/
def colon? (s : Lexer) : Option Lexer :=
  match s.keys with
  | some key :: outer =>
    let s := (s.pushAt key.tokens .key).indentTo key.mark.column key.tokens .blockMappingStart
    some { s.pushOver .value 1 with keys := none :: outer, keyAllowed := false }
  | _ =>
    if !s.inFlow && !s.keyAllowed then none
    else
      let s := s.indentTo s.column s.count .blockMappingStart
      some { s.pushOver .value 1 with keyAllowed := !s.inFlow }

/-- An anchor, alias, tag or scalar that may start a key. -/
def word? (s : Lexer) (scanned : Option (Token × Bool × Cursor)) : Option Lexer := do
  let s ← s.saveKey?
  let (token, keyAllowed, cursor) ← scanned
  some { s.push token with cursor, keyAllowed }

/-- Scans a block scalar. -/
def block? (s : Lexer) (literal : Bool) : Option Lexer := do
  let s ← s.dropKey?
  let (text, cursor) ← scanBlock? literal s.indent (s.cursor.skip 1)
  let style := if literal then Style.literal else .folded
  some { s.push (.scalar style (.ofList text)) with cursor, keyAllowed := true }

/-- The token that starts with a given character. -/
def token? (s : Lexer) (c : Char) (rest : List Char) : Option Lexer :=
  let behind := s.cursor.skip 1
  let name (make : String → Token) : Option (Token × Bool × Cursor) :=
    (scanName? behind).map fun (name, cursor) => (make name, false, cursor)
  let quoted (style : Style) (scanned : Option (List Char × Cursor)) :
      Option (Token × Bool × Cursor) :=
    scanned.map fun (read, cursor) => (.scalar style (.ofList read.reverse), false, cursor)
  if c == '%' && s.column == 0 then do
    let s ← s.endDocument?
    let (token, cursor) ← scanDirective? behind
    some { s.push token with cursor }
  else if isDocumentMarker s.cursor.mark (c :: rest) then do
    let s ← s.endDocument?
    some (s.pushOver (if c == '-' then .documentStart else .documentEnd) 3)
  else match c with
  | '[' => s.openBracket? .flowSequenceStart
  | '\x7b' => s.openBracket? .flowMappingStart
  | ']' => s.closeBracket? .flowSequenceEnd
  | '\x7d' => s.closeBracket? .flowMappingEnd
  | ',' => s.comma?
  | '*' => s.word? (name .alias)
  | '&' => s.word? (name .anchor)
  | '!' => s.word? ((scanTag? s.inFlow s.cursor).map fun (token, cursor) => (token, false, cursor))
  | '\'' => s.word? (quoted .singleQuoted (scanSingle? [] .none behind.mark behind.rest))
  | '"' => s.word? (quoted .doubleQuoted (scanDouble? [] .none behind.mark behind.rest))
  | _ =>
    if c == '-' && endsWord rest then s.dash?
    else if c == '?' && (s.inFlow || endsWord rest) then s.question?
    else if c == ':' && (s.inFlow || endsWord rest) then s.colon?
    else if c == '|' && !s.inFlow then s.block? true
    else if c == '>' && !s.inFlow then s.block? false
    else if startsPlain s.inFlow (c :: rest) then
      s.word? ((scanPlain? s.inFlow (s.indent + 1) [] .none s.cursor.mark (c :: rest)).map
        fun (read, broken, cursor) => (.scalar .plain (.ofList read.reverse), broken, cursor))
    else none

/-- Scans up to the end of the text. Every token takes at least one character,
so as many steps as there are characters are enough. -/
def run? : (fuel : Nat) → Lexer → Option (List Token)
  | 0, _ => none
  | fuel + 1, s => do
    let s ← s.advance?
    match s.cursor.rest with
    | [] => do
      let s ← (s.unindent (-1)).dropKey?
      some s.tokens.reverse
    | c :: rest => do
      let s ← s.token? c rest
      run? fuel s

end Lexer

/-- The tokens of a normalized text. -/
def tokens? (cs : List Char) : Option (List Token) := (Lexer.start cs).run? (cs.length + 1)

end PropShape.Yaml
