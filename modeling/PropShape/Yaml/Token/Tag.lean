import PropShape.Yaml.Token.Basic
import PropShape.Yaml.Text
import PropShape.Json.Reader

/-!
# `PropShape.Yaml.Token.Tag`: tags, anchors and directives

A tag is a URI between angle brackets, a handle with a suffix, or a suffix
alone. Directives stand before a document and give the YAML version or define
a tag handle.
-/

set_option autoImplicit false

namespace PropShape.Yaml

/-- The characters of a tag's URI. Between angle brackets it may also hold the
punctuation that would end a word inside flow collections. -/
def isUriChar (verbatim : Bool) (c : Char) : Bool :=
  isWordChar c ||
    [';', '/', '?', ':', '@', '&', '=', '+', '$', '.', '%', '!', '~', '*', '\'', '(', ')'].contains
      c ||
    (verbatim && [',', '[', ']'].contains c)

/-- The escaped byte at the front of a text. -/
def escapedByte? : List Char → Option (UInt8 × List Char)
  | '%' :: a :: b :: rest => do
    let a ← Json.hexValue? a
    let b ← Json.hexValue? b
    return (.ofNat (a * 16 + b), rest)
  | _ => none

/-- How many bytes belong together by the first of them; zero if no group can
start with it. -/
def groupWidth (first : UInt8) : Nat :=
  if first < 0x80 then 1 else if first / 32 == 6 then 2 else if first / 16 == 14 then 3
  else if first / 8 == 30 then 4 else 0

/-- Reads `n` more escaped bytes of a group. -/
def escapedTail? : Nat → List Char → Option (List UInt8 × List Char)
  | 0, cs => some ([], cs)
  | n + 1, cs => do
    let (byte, rest) ← escapedByte? cs
    if byte / 64 == 2 then
      let (bytes, rest) ← escapedTail? n rest
      return (byte :: bytes, rest)
    else none

/-- Reads a group of escaped bytes. Its form is that of an encoded character,
but not every group encodes one. -/
def escapedGroup? (cs : List Char) : Option (List UInt8 × List Char) := do
  let (first, rest) ← escapedByte? cs
  match groupWidth first with
  | 0 => none
  | more + 1 =>
    let (bytes, rest) ← escapedTail? more rest
    return (first :: bytes, rest)

/-- The bytes of a URI, with its escapes resolved; `fuel` is at least its length. -/
def uriBytes? : (fuel : Nat) → List Char → Option (List UInt8)
  | 0, _ => some []
  | _ + 1, [] => some []
  | fuel + 1, '%' :: rest => do
    let (group, rest) ← escapedGroup? ('%' :: rest)
    let bytes ← uriBytes? fuel rest
    return group ++ bytes
  | fuel + 1, c :: rest => do
    let bytes ← uriBytes? fuel rest
    return .ofNat c.toNat :: bytes

/-- Scans a URI, which must not be empty. -/
def scanUri? (verbatim : Bool) (cursor : Cursor) : Option (Tag × Cursor) := do
  let (cs, cursor) := cursor.span (isUriChar verbatim)
  let bytes ← uriBytes? cs.length cs
  if bytes.isEmpty then none else some (.ofBytes bytes, cursor)

/-- Scans the name of an anchor or alias, behind its indicator. -/
def scanName? (cursor : Cursor) : Option (String × Cursor) :=
  let (name, cursor) := cursor.span isWordChar
  let ends := endsWord cursor.rest ||
    cursor.rest.head?.elim false ['?', ':', ',', ']', '\x7d', '%', '@', '\x60'].contains
  if name.isEmpty || !ends then none else some (.ofList name, cursor)

/-- Scans a tag. A tag ends with its word; inside flow collections a comma may
follow at once. -/
def scanTag? (inFlow : Bool) (cursor : Cursor) : Option (Token × Cursor) := do
  let (token, cursor) ← match cursor.rest with
    | '!' :: '<' :: _ =>
      match scanUri? true (cursor.skip 2) with
      | none => none
      | some (uri, cursor) =>
        match cursor.rest with
        | '>' :: _ => some (Token.tag "" uri, cursor.skip 1)
        | _ => none
    | _ =>
      let (word, behind) := (cursor.skip 1).span isWordChar
      match behind.rest with
      | '!' :: _ =>
        -- A handle between two exclamation marks.
        (scanUri? false (behind.skip 1)).map fun (suffix, cursor) =>
          (Token.tag (.ofList ('!' :: word ++ ['!'])) suffix, cursor)
      | _ =>
        let (more, after) := behind.span (isUriChar false)
        (uriBytes? (word ++ more).length (word ++ more)).map fun bytes =>
          let suffix := Tag.ofBytes bytes
          -- The exclamation mark alone is a tag of its own.
          if suffix.bytes.isEmpty then (.tag "" (.ofText "!"), after)
          else (.tag "!" suffix, after)
  let ends := endsWord cursor.rest || (inFlow && cursor.rest.head? == some ',')
  if ends then some (token, cursor) else none

/-- Scans the digits of a version number. -/
def scanVersionNumber? (cursor : Cursor) : Option (Nat × Cursor) :=
  let (digits, cursor) := cursor.span Char.isDigit
  if digits.isEmpty || 9 < digits.length then none
  else some (digits.foldl (fun n c => n * 10 + (c.toNat - 48)) 0, cursor)

/-- Scans a directive behind its percent sign, up to the end of its line. -/
def scanDirective? (cursor : Cursor) : Option (Token × Cursor) := do
  let (name, cursor) := cursor.span isWordChar
  if name.isEmpty || !endsWord cursor.rest then none
  let (_, cursor) := cursor.span isBlank
  let (token, cursor) ←
    if name == ['Y', 'A', 'M', 'L'] then do
      let (major, cursor) ← scanVersionNumber? cursor
      if cursor.rest.head? == some '.' then
        let (minor, cursor) ← scanVersionNumber? (cursor.skip 1)
        some (Token.versionDirective major minor, cursor)
      else none
    else if name == ['T', 'A', 'G'] then do
      if cursor.rest.head? == some '!' then
        let (word, behind) := (cursor.skip 1).span isWordChar
        let (handle, cursor) ← match behind.rest with
          | '!' :: _ => some ('!' :: word ++ ['!'], behind.skip 1)
          | _ => if word.isEmpty then some (['!'], behind) else none
        if cursor.rest.head?.elim false isBlank then
          let (_, cursor) := cursor.span isBlank
          let (expansion, cursor) ← scanUri? true cursor
          if endsWord cursor.rest then some (Token.tagDirective (.ofList handle) expansion, cursor)
          else none
        else none
      else none
    else none
  let (_, cursor) := cursor.span isBlank
  let cursor := match cursor.rest with
    | '#' :: _ => (cursor.span fun c => !isBreak c).2
    | _ => cursor
  match cursor.rest with
  | [] => some (token, cursor)
  | c :: _ => if isBreak c then some (token, cursor.skip 1) else none

end PropShape.Yaml
