import PropShape.Text.Hidden

/-!
# `PropShape.Text.Escaped`: strings as shown to a developer

A string is shown between quotes. Quotes and backslashes get a backslash,
the common control characters their letter, and characters that would not
show by themselves are given by their code point.
-/

set_option autoImplicit false

namespace PropShape.Text

/-- How one character is shown. -/
def escapedChar (c : Char) : String :=
  match c with
  | '"' => "\\\""
  | '\\' => "\\\\"
  | '\n' => "\\n"
  | '\r' => "\\r"
  | '\t' => "\\t"
  | '\x00' => "\\0"
  | c =>
    if isHidden c then "\\u\x7b" ++ String.ofList (Nat.toDigits 16 c.toNat) ++ "\x7d"
    else String.singleton c

/-- The string between quotes. -/
def escaped (s : String) : String := "\"" ++ String.join (s.toList.map escapedChar) ++ "\""

end PropShape.Text
