import PropShape.Yaml.Text

/-!
# `PropShape.Yaml.Token.Fold`: the gaps between the words of a scalar

Plain and quoted scalars may run over several lines. Between two words there
is a gap of blanks and line breaks. Inside a line the blanks stand for
themselves. Over a line end the blanks vanish, a single line feed reads as one
blank, and every further break stands for itself.
-/

set_option autoImplicit false

namespace PropShape.Yaml

/-- The blanks and breaks behind a word. -/
structure Gap where
  /-- The blanks before the first break, last one first. -/
  blanks : List Char
  /-- Whether the line has ended. -/
  broken : Bool
  /-- The first break; none if the line end was escaped. -/
  first : Option Char
  /-- Whatever breaks followed, last one first. -/
  more : List Char
  deriving Inhabited

namespace Gap

/-- No gap. -/
def none : Gap := ⟨[], false, Option.none, []⟩

/-- The gap behind an escaped line end. -/
def escaped : Gap := ⟨[], true, Option.none, []⟩

/-- Whether two words stand next to each other. -/
def isNone (gap : Gap) : Bool := !gap.broken && gap.blanks.isEmpty

/-- The gap with one more blank. -/
def blank (gap : Gap) (c : Char) : Gap :=
  if gap.broken then gap else { gap with blanks := c :: gap.blanks }

/-- The gap with one more line break. -/
def lineBreak (gap : Gap) (c : Char) : Gap :=
  if gap.broken then { gap with more := c :: gap.more } else ⟨[], true, some c, []⟩

/-- What a gap reads as, last character first. -/
def reading (gap : Gap) : List Char :=
  if gap.broken then
    match gap.first with
    | some '\n' => if gap.more.isEmpty then [' '] else gap.more
    | some c => gap.more ++ [c]
    | Option.none => gap.more
  else
    gap.blanks

end Gap

end PropShape.Yaml
