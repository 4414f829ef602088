import PropShape.Yaml.Scalar
import PropShape.Yaml.Text

/-!
# `PropShape.Yaml.Writer`: writing a text as a YAML scalar

`scalarText` writes a text as the value of a block mapping, in the plainest
style that reads back as the same text:

* a text with line feeds is a literal block;
* a text that would be read as something else, or that has a meaning in the
  syntax, goes between single quotes;
* where neither form can hold the text, because of control characters or
  blanks next to a line break, it goes between double quotes;
* any other text is plain.

Long lines are not broken.
-/

set_option autoImplicit false

namespace PropShape.Yaml

/-- How deep the lines of a scalar are indented. -/
def indentation : Nat := 2

/-- Whether a character can be written as itself. -/
def isPrintable (c : Char) : Bool :=
  let n := c.toNat
  n == 0x0a || (0x20 ≤ n && n ≤ 0x7e) || (0xa0 ≤ n && n ≤ 0xd7ff) ||
    (0xe000 ≤ n && n ≤ 0xfffd && n != 0xfeff) || 0x10000 ≤ n

/-- The blank that a writer has to take care of; tabs are no such blank. -/
def isSpace (c : Char) : Bool := c == ' '

/-- Whether a character of one kind is followed at once by one of another. -/
def hasPair (first second : Char → Bool) : List Char → Bool
  | c :: d :: rest => (first c && second d) || hasPair first second (d :: rest)
  | _ => false

/-! ## Which styles can hold a text -/

/-- Whether a text starts like a marker between documents. -/
def startsMarker : List Char → Bool
  | '-' :: '-' :: '-' :: _ => true
  | '.' :: '.' :: '.' :: _ => true
  | _ => false

/-- Whether the first character of a text has a meaning in the syntax. -/
def startsIndicator : List Char → Bool
  | [] => false
  | c :: rest =>
    ['#', ',', '[', ']', '\x7b', '\x7d', '&', '*', '!', '|', '>', '\'', '"', '%', '@',
        '\x60'].contains c ||
      (['?', ':', '-'].contains c && endsWord rest)

/-- Whether a text holds the end of a key or the start of a comment. -/
def holdsIndicator (cs : List Char) : Bool :=
  hasPair (· == ':') isSpace cs || cs.getLast? == some ':' || hasPair isSpace (· == '#') cs

/-- Whether a text reads back from the plain style as a scalar with the same
characters. -/
def fitsPlain (cs : List Char) : Bool :=
  cs.all isPrintable && !cs.any isBreak && cs.head? != some ' ' && cs.getLast? != some ' ' &&
    !startsMarker cs && !startsIndicator cs && !holdsIndicator cs

/-- Whether single quotes can hold a text: folding must not eat its blanks. -/
def fitsQuotes (cs : List Char) : Bool :=
  cs.all isPrintable && !hasPair isSpace isBreak cs && !hasPair isBreak isSpace cs

/-- Whether a literal block can hold a text. -/
def fitsBlock (cs : List Char) : Bool :=
  cs.all isPrintable && !hasPair isSpace isBreak cs && cs.getLast? != some ' '

/-- Whether a plain scalar would be read as something else than its text, here
or by readers that take padded digits for a number. -/
def meansOther (text : String) : Bool :=
  match plainValue? text with
  | some (.string _) => isPadded text.toList
  | _ => true

/-- The style in which a text is written. -/
def styleOf (text : String) : Style :=
  let cs := text.toList
  if cs.contains '\n' then (if fitsBlock cs then .literal else .doubleQuoted)
  else if !meansOther text && fitsPlain cs then .plain
  else if fitsQuotes cs then .singleQuoted
  else .doubleQuoted

/-! ## The styles -/

/-- The blanks before a line. -/
def margin : List Char := List.replicate indentation ' '

/-- The characters between single quotes. A line break is followed by a new
margin, unless another break comes first. -/
def singleQuoted (broken : Bool) : List Char → List Char
  | [] => if broken then margin else []
  | c :: rest =>
    if isBreak c then c :: singleQuoted true rest
    else
      (if broken then margin else []) ++ (if c == '\'' then ['\'', '\''] else [c]) ++
        singleQuoted false rest

/-- The lowest digits of a number in base 16, in upper case. -/
def hexDigits : (count : Nat) → (n : Nat) → List Char
  | 0, _ => []
  | count + 1, n =>
    hexDigits count (n / 16) ++ [if n % 16 < 10 then .ofNat (48 + n % 16) else .ofNat (55 + n % 16)]

/-- The escape of a character that cannot be written as itself. -/
def escape (c : Char) : List Char :=
  let letter := match c with
    | '\x00' => some '0'
    | '\x07' => some 'a'
    | '\x08' => some 'b'
    | '\t' => some 't'
    | '\n' => some 'n'
    | '\x0b' => some 'v'
    | '\x0c' => some 'f'
    | '\r' => some 'r'
    | '\x1b' => some 'e'
    | '"' => some '"'
    | '\\' => some '\\'
    | '\u0085' => some 'N'
    | '\u2028' => some 'L'
    | '\u2029' => some 'P'
    | _ => none
  let n := c.toNat
  match letter with
  | some letter => ['\\', letter]
  | none =>
    if n ≤ 0xff then '\\' :: 'x' :: hexDigits 2 n
    else if n ≤ 0xffff then '\\' :: 'u' :: hexDigits 4 n
    else '\\' :: 'U' :: hexDigits 8 n

/-- The characters between double quotes. -/
def doubleQuoted (cs : List Char) : List Char :=
  cs.flatMap fun c =>
    if !isPrintable c || isBreak c || c == '"' || c == '\\' then escape c else [c]

/-- The indicators of a literal block. Blanks at its start would hide its
indentation, so it is given; the chomping depends on the breaks at its end. -/
def blockHeader (cs : List Char) : List Char :=
  let indent :=
    if cs.head?.elim false fun c => isSpace c || isBreak c then Nat.toDigits 10 indentation else []
  let chomping := match cs.reverse with
    | last :: rest =>
      if !isBreak last then ['-']
      else if rest.head?.elim true isBreak then ['+']
      else []
    | [] => ['-']
  '|' :: indent ++ chomping

/-- The lines of a literal block. -/
def blockLines (atStart : Bool) : List Char → List Char
  | [] => []
  | c :: rest =>
    if isBreak c then c :: blockLines true rest
    else (if atStart then margin else []) ++ c :: blockLines false rest

/-- A text as the value of a block mapping, up to the end of its line. -/
def scalarText (text : String) : String :=
  let cs := text.toList
  match styleOf text with
  | .literal | .folded =>
    let ended := cs.getLast?.elim true isBreak
    .ofList (blockHeader cs ++ '\n' :: blockLines true cs ++ if ended then [] else ['\n'])
  | .plain => text ++ "\n"
  | .singleQuoted => .ofList ('\'' :: singleQuoted false cs ++ ['\'', '\n'])
  | .doubleQuoted => .ofList ('"' :: doubleQuoted cs ++ ['"', '\n'])

end PropShape.Yaml
