import PropShape.Document
import PropShape.Json.Number

/-!
# `PropShape.Json.Reader`: JSON text

`Json.read?` reads a text that is one JSON value and nothing else. Arrays and
objects may be nested up to `maxNesting` levels. An escaped surrogate must be
part of a pair, and a control character must be escaped.

The reader walks along the characters and answers what is left of them. Each
step takes at least one character, so a budget of one step for each character
is never used up.
-/

set_option autoImplicit false

namespace PropShape.Json

/-- The deepest nesting that is read. -/
def maxNesting : Nat := 127

/-- The characters that may stand between two tokens. -/
def isBlank (c : Char) : Bool := c == ' ' || c == '\t' || c == '\n' || c == '\r'

/-- Drops blanks. -/
def skipBlanks (cs : List Char) : List Char := cs.dropWhile isBlank

/-- The value of a hexadecimal digit. -/
def hexValue? (c : Char) : Option Nat :=
  if c.isDigit then some (c.toNat - 48)
  else if 'a' ≤ c ∧ c ≤ 'f' then some (c.toNat - 87)
  else if 'A' ≤ c ∧ c ≤ 'F' then some (c.toNat - 55)
  else none

/-- The value of four hexadecimal digits. -/
def hexQuad? (a b c d : Char) : Option Nat := do
  let a ← hexValue? a
  let b ← hexValue? b
  let c ← hexValue? c
  let d ← hexValue? d
  return ((a * 16 + b) * 16 + c) * 16 + d

/-- The character of a one-letter escape. -/
def escapeLetter? : Char → Option Char
  | '"' => some '"'
  | '\\' => some '\\'
  | '/' => some '/'
  | 'b' => some '\x08'
  | 'f' => some '\x0c'
  | 'n' => some '\n'
  | 'r' => some '\r'
  | 't' => some '\t'
  | _ => none

/-- The character of a surrogate pair. -/
def pairChar (high low : Nat) : Char :=
  Char.ofNat (0x10000 + (high - 0xd800) * 0x400 + (low - 0xdc00))

/-- Reads the rest of a string, behind its opening quote. -/
def readString? : List Char → Option (List Char × List Char)
  | [] => none
  | '"' :: rest => some ([], rest)
  | '\\' :: 'u' :: a :: b :: c :: d :: rest =>
    match hexQuad? a b c d with
    | none => none
    | some unit =>
      if 0xdc00 ≤ unit ∧ unit ≤ 0xdfff then none
      else if 0xd800 ≤ unit ∧ unit ≤ 0xdbff then
        match rest with
        | '\\' :: 'u' :: a :: b :: c :: d :: rest =>
          match hexQuad? a b c d with
          | none => none
          | some low =>
            if 0xdc00 ≤ low ∧ low ≤ 0xdfff then
              (readString? rest).map fun (cs, rest) => (pairChar unit low :: cs, rest)
            else none
        | _ => none
      else (readString? rest).map fun (cs, rest) => (Char.ofNat unit :: cs, rest)
  | '\\' :: c :: rest =>
    match escapeLetter? c with
    | none => none
    | some c => (readString? rest).map fun (cs, rest) => (c :: cs, rest)
  | c :: rest =>
    if c.toNat < 32 then none
    else (readString? rest).map fun (cs, rest) => (c :: cs, rest)

/-- A string reads as a text. -/
def stringScalar (s : String) : Document :=
  .scalar ⟨some s, none, some false, some (.string s), false⟩

/-- The scalar for `true` or `false`. -/
def boolScalar (b : Bool) : Document := .scalar ⟨none, some b, some false, some (.bool b), false⟩

/-- The scalar for a number. -/
def numberScalar (n : Number) : Document :=
  .scalar ⟨none, none, some false, some (.number n), false⟩

/-- Null reads as an absent thing where one is optional. -/
def nullScalar : Document := .scalar ⟨none, none, some true, some .null, false⟩

mutual

/-- Reads one value; `depth` more levels may be entered. -/
def readValue? : (fuel depth : Nat) → List Char → Option (Document × List Char)
  | 0, _, _ => none
  | fuel + 1, depth, cs =>
    match skipBlanks cs with
    | 'n' :: 'u' :: 'l' :: 'l' :: rest => some (nullScalar, rest)
    | 't' :: 'r' :: 'u' :: 'e' :: rest => some (boolScalar true, rest)
    | 'f' :: 'a' :: 'l' :: 's' :: 'e' :: rest => some (boolScalar false, rest)
    | '"' :: rest => (readString? rest).map fun (s, rest) => (stringScalar (.ofList s), rest)
    | '[' :: rest =>
      match depth with
      | 0 => none
      | depth + 1 =>
        match skipBlanks rest with
        | ']' :: rest => some (.list false [], rest)
        | cs => (readItems? fuel depth cs).map fun (items, rest) => (.list false items, rest)
    | '\x7b' :: rest =>
      match depth with
      | 0 => none
      | depth + 1 =>
        match skipBlanks rest with
        | '\x7d' :: rest => some (.mapping false [], rest)
        | cs => (readPairs? fuel depth cs).map fun (pairs, rest) => (.mapping false pairs, rest)
    | cs =>
      match scanNumber? cs with
      | none => none
      | some (parts, rest) => parts.number?.map fun n => (numberScalar n, rest)

/-- Reads the items of an array and its closing bracket. -/
def readItems? : (fuel depth : Nat) → List Char → Option (List Document × List Char)
  | 0, _, _ => none
  | fuel + 1, depth, cs =>
    match readValue? fuel depth cs with
    | none => none
    | some (item, rest) =>
      match skipBlanks rest with
      | ']' :: rest => some ([item], rest)
      | ',' :: rest => (readItems? fuel depth rest).map fun (items, rest) => (item :: items, rest)
      | _ => none

/-- Reads the pairs of an object and its closing bracket. -/
def readPairs? : (fuel depth : Nat) → List Char → Option (List (String × Document) × List Char)
  | 0, _, _ => none
  | fuel + 1, depth, cs =>
    match skipBlanks cs with
    | '"' :: rest =>
      match readString? rest with
      | none => none
      | some (key, rest) =>
        match skipBlanks rest with
        | ':' :: rest =>
          match readValue? fuel depth rest with
          | none => none
          | some (d, rest) =>
            match skipBlanks rest with
            | '\x7d' :: rest => some ([(.ofList key, d)], rest)
            | ',' :: rest =>
              (readPairs? fuel depth rest).map fun (pairs, rest) =>
                ((.ofList key, d) :: pairs, rest)
            | _ => none
        | _ => none
    | _ => none

end

/-- Reads a text that is one JSON value. -/
def read? (text : String) : Option Document :=
  let cs := text.toList
  match readValue? (2 * cs.length + 2) maxNesting cs with
  | none => none
  | some (d, rest) => if (skipBlanks rest).isEmpty then some d else none

end PropShape.Json
