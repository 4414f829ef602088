import PropShape.Json.Reader
import PropShape.Yaml.Token.Fold

/-!
# `PropShape.Yaml.Token.Quoted`: scalars between quotes

Between single quotes only the quote itself needs care: it is written twice.
Between double quotes a backslash starts an escape, and a backslash at the end
of a line joins it with the next one. Both kinds fold line ends.
-/

set_option autoImplicit false

namespace PropShape.Yaml

/-- The character of a one-letter escape. -/
def escapeLetter? : Char → Option Char
  | '0' => some '\x00'
  | 'a' => some '\x07'
  | 'b' => some '\x08'
  | 't' => some '\t'
  | '\t' => some '\t'
  | 'n' => some '\n'
  | 'v' => some '\x0b'
  | 'f' => some '\x0c'
  | 'r' => some '\r'
  | 'e' => some '\x1b'
  | ' ' => some ' '
  | '"' => some '"'
  | '/' => some '/'
  | '\\' => some '\\'
  | 'N' => some '\u0085'
  | '_' => some '\u00a0'
  | 'L' => some '\u2028'
  | 'P' => some '\u2029'
  | _ => none

/-- The character with a code in hexadecimal digits, unless there is none. -/
def hexChar? (digits : List Char) : Option Char := do
  let code ← digits.foldlM (fun n c => (Json.hexValue? c).map (n * 16 + ·)) 0
  if (0xd800 ≤ code ∧ code ≤ 0xdfff) ∨ 0x10ffff < code then none else some (.ofNat code)

/-- Scans the rest of a scalar between single quotes. -/
def scanSingle? (read : List Char) (gap : Gap) (m : Mark) :
    List Char → Option (List Char × Cursor)
  | [] => none
  | '\'' :: '\'' :: rest =>
    scanSingle? ('\'' :: (gap.reading ++ read)) .none ((m.after '\'').after '\'') rest
  | '\'' :: rest => some (gap.reading ++ read, ⟨m.after '\'', rest⟩)
  | c :: rest =>
    if isBlank c then scanSingle? read (gap.blank c) (m.after c) rest
    else if isBreak c then scanSingle? read (gap.lineBreak c) (m.after c) rest
    else if isDocumentMarker m (c :: rest) then none
    else scanSingle? (c :: (gap.reading ++ read)) .none (m.after c) rest

/-- Scans the rest of a scalar between double quotes. -/
def scanDouble? (read : List Char) (gap : Gap) (m : Mark) :
    List Char → Option (List Char × Cursor)
  | [] => none
  | '"' :: rest => some (gap.reading ++ read, ⟨m.after '"', rest⟩)
  | '\\' :: 'x' :: a :: b :: rest =>
    match hexChar? [a, b] with
    | none => none
    | some c =>
      scanDouble? (c :: (gap.reading ++ read)) .none (m.afterAll ['\\', 'x', 'x', 'x']) rest
  | '\\' :: 'u' :: a :: b :: c :: d :: rest =>
    match hexChar? [a, b, c, d] with
    | none => none
    | some c =>
      scanDouble? (c :: (gap.reading ++ read)) .none (m.afterAll (List.replicate 6 'x')) rest
  | '\\' :: 'U' :: a :: b :: c :: d :: e :: f :: g :: h :: rest =>
    match hexChar? [a, b, c, d, e, f, g, h] with
    | none => none
    | some c =>
      scanDouble? (c :: (gap.reading ++ read)) .none (m.afterAll (List.replicate 10 'x')) rest
  | '\\' :: c :: rest =>
    if isBreak c then scanDouble? (gap.reading ++ read) .escaped ((m.after '\\').after c) rest
    else match escapeLetter? c with
      | none => none
      | some escaped =>
        scanDouble? (escaped :: (gap.reading ++ read)) .none (m.afterAll ['\\', 'x']) rest
  | c :: rest =>
    if isBlank c then scanDouble? read (gap.blank c) (m.after c) rest
    else if isBreak c then scanDouble? read (gap.lineBreak c) (m.after c) rest
    else if isDocumentMarker m (c :: rest) then none
    else scanDouble? (c :: (gap.reading ++ read)) .none (m.after c) rest

end PropShape.Yaml
