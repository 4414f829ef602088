import PropShape.Document
import PropShape.Json.Reader
import PropShape.Yaml.Token.Basic

/-!
# `PropShape.Yaml.Scalar`: what a YAML scalar stands for

A plain scalar without a tag says by its spelling what it is: null, a truth
value, an integer, a decimal, or else a text (`plainValue?`). The spellings
are those of the core schema, with a few cases of their own:

* `isPadded`: digits with a needless zero in front are a text;
* `integer?`: integers may also be written in base 2, 8 and 16. Those that
  fit 128 bits but not 64 are refused; beyond 128 bits a decimal integer is
  read as a decimal and any other as a text;
* `decimal?`: a decimal too large for a finite number is a text.

A quoted scalar is a text, and a tag of the core schema overrides the
spelling (`taggedValue?`). `reading` collects how a scalar reads in each role.
-/

set_option autoImplicit false

namespace PropShape.Yaml

/-- Whether a text is a spelling of null. -/
def isNull (text : String) : Bool := ["null", "Null", "NULL", "~"].contains text

/-- Reads a truth value. -/
def bool? (text : String) : Option Bool :=
  if ["true", "True", "TRUE"].contains text then some true
  else if ["false", "False", "FALSE"].contains text then some false
  else none

/-! ## Numbers -/

/-- Splits a sign off a number: whether it is negative, and what it signs. -/
def signed : List Char → Bool × List Char
  | '-' :: rest => (true, rest)
  | '+' :: rest => (false, rest)
  | cs => (false, cs)

/-- Whether a text is digits with a needless zero in front. -/
def isPadded (cs : List Char) : Bool :=
  match (signed cs).2 with
  | '0' :: c :: rest => (c :: rest).all Char.isDigit
  | _ => false

/-- The value of digits in a base up to 16. -/
def digits? (base : Nat) (cs : List Char) : Option Nat :=
  if cs.isEmpty then none
  else cs.foldlM (fun n c =>
    match Json.hexValue? c with
    | some digit => if digit < base then some (n * base + digit) else none
    | none => none) 0

/-- The absolute value of an integer. -/
def magnitude? : List Char → Option Nat
  | '0' :: 'x' :: rest => digits? 16 rest
  | '0' :: 'o' :: rest => digits? 8 rest
  | '0' :: 'b' :: rest => digits? 2 rest
  | cs => if isPadded cs then none else digits? 10 cs

/-- Reads an integer of at most 128 bits, the sign included if there is one. -/
def integer? (cs : List Char) : Option Int :=
  let (negative, cs) := signed cs
  match cs with
  | '-' :: _ | '+' :: _ => none
  | cs =>
    match magnitude? cs with
    | none => none
    | some n =>
      if negative then (if n ≤ Nat.pow 2 127 then some (-(n : Int)) else none)
      else if n < Nat.pow 2 128 then some n
      else none

/-- Reads the exponent of a decimal, which must be the rest of it. -/
def exponent? : List Char → Option Int
  | [] => some 0
  | c :: rest =>
    if c == 'e' || c == 'E' then
      let (negative, digits) := signed rest
      (digits? 10 digits).map fun n => if negative then -(n : Int) else n
    else none

/-- Reads a finite decimal. There must be a digit before or after the point. -/
def decimal? (cs : List Char) : Option Number :=
  let (negative, cs) := signed cs
  let whole := cs.takeWhile Char.isDigit
  let cs := cs.dropWhile Char.isDigit
  let (fraction, cs) := match cs with
    | '.' :: rest => (rest.takeWhile Char.isDigit, rest.dropWhile Char.isDigit)
    | cs => ([], cs)
  match digits? 10 (whole ++ fraction), exponent? cs with
  | some digits, some exponent =>
    let number := Number.ofDecimal negative digits (exponent - fraction.length)
    if number.isFinite then some number else none
  | _, _ => none

/-- Whether a text is infinity or NaN. -/
def isNonFinite (text : String) : Bool :=
  [".inf", ".Inf", ".INF", "+.inf", "+.Inf", "+.INF", "-.inf", "-.Inf", "-.INF",
    ".nan", ".NaN", ".NAN"].contains text

/-- The value of an integer, unless 64 bits cannot hold it. -/
def integerValue? (i : Int) : Option Value :=
  if -Int.pow 2 63 ≤ i ∧ i < Int.pow 2 64 then some (.number (.ofInt i)) else none

/-- The value of a decimal; one that is not finite is null. -/
def decimalValue? (text : String) : Option Value :=
  if isNonFinite text then some .null else (decimal? text.toList).map .number

/-! ## Readings -/

/-- What a plain scalar without a tag stands for. -/
def plainValue? (text : String) : Option Value :=
  if text.isEmpty || isNull text then some .null
  else match bool? text with
    | some b => some (.bool b)
    | none =>
      match integer? text.toList with
      | some i => integerValue? i
      | none =>
        if isPadded text.toList then some (.string text)
        else match decimalValue? text with
          | some v => some v
          | none => some (.string text)

/-- What a scalar with a tag stands for. One of a type of its own is no plain
value. A local tag that cannot be read leaves a scalar without quotes to its
spelling, and every other tag outside the core schema marks a text. -/
def taggedValue? (style : Style) (tag : Tag) (text : String) : Option Value :=
  if tag.isOwnType then none
  else if tag == .core "bool" then (bool? text).map .bool
  else if tag == .core "int" then (integer? text.toList).bind integerValue?
  else if tag == .core "float" then decimalValue? text
  else if tag == .core "null" then (if isNull text then some .null else none)
  else if tag.isLocal && style == .plain then plainValue? text
  else some (.string text)

/-- How a scalar reads in each role. Every scalar may be taken as a text. -/
def reading (style : Style) (tag : Option Tag) (text : String) : Scalar where
  text := some text
  flag :=
    if style == .plain || (style == .literal && tag == some (.core "bool")) then bool? text
    else none
  absent :=
    if style != .plain then some false
    else match tag with
      | none => some (text.isEmpty || isNull text)
      | some tag =>
        if tag == .core "null" then (if isNull text then some true else none) else some false
  value :=
    match tag with
    | some tag => taggedValue? style tag text
    | none => if style == .plain then plainValue? text else some (.string text)
  blank := style == .plain && text.isEmpty

end PropShape.Yaml
