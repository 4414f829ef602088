import PropShape.Yaml.Token.Fold

/-!
# `PropShape.Yaml.Token.Plain`: scalars without quotes

A plain scalar goes on until a colon that ends a word, a comment, a marker
between documents, a line that is not indented enough, or, inside brackets, a
character that has a meaning there.
-/

set_option autoImplicit false

namespace PropShape.Yaml

/-- The punctuation of flow collections. -/
def isFlowPunctuation (c : Char) : Bool :=
  c == ',' || c == '[' || c == ']' || c == '\x7b' || c == '\x7d'

/-- Whether a plain scalar may start here. Dashes, question marks and colons
may start one if they do not end a word; inside brackets only the dash may. -/
def startsPlain (inFlow : Bool) (cs : List Char) : Bool :=
  match cs with
  | [] => false
  | '-' :: rest => !(rest.head?.elim false isBlank)
  | '?' :: rest => !inFlow && !endsWord rest
  | ':' :: rest => !inFlow && !endsWord rest
  | c :: _ =>
    !(isBlank c || isBreak c || isFlowPunctuation c ||
      ['#', '&', '*', '!', '|', '>', '\'', '"', '%', '@', '\x60'].contains c)

/-- Whether a plain scalar ends before a character inside a line. -/
def endsPlain (inFlow : Bool) (c : Char) (rest : List Char) : Bool :=
  (c == ':' && endsWord rest) || (inFlow && isFlowPunctuation c)

/-- Whether a colon stands before punctuation of a flow collection, where it
can be neither part of a word nor a mark of a value. -/
def isStrayColon (inFlow : Bool) (c : Char) (rest : List Char) : Bool :=
  inFlow && c == ':' && rest.head?.elim false fun d => isFlowPunctuation d || d == '?'

/-- Whether a plain scalar ends at a gap: before a marker between documents,
a comment, or, outside brackets, a word that is not indented enough. -/
def endsAtGap (inFlow : Bool) (indent : Int) (gap : Gap) (m : Mark) (cs : List Char) : Bool :=
  !gap.isNone &&
    ((!inFlow && decide ((m.column : Int) < indent)) || isDocumentMarker m cs ||
      cs.head? == some '#')

/-- Scans a plain scalar from inside it, with the characters read so far, last
one first, and the gap behind them. Answers all its characters, last one
first, whether its last gap went over a line end, and what is left. -/
def scanPlain? (inFlow : Bool) (indent : Int) (read : List Char) (gap : Gap) (m : Mark) :
    List Char → Option (List Char × Bool × Cursor)
  | [] => some (read, gap.broken, ⟨m, []⟩)
  | c :: rest =>
    if isBlank c then
      if gap.broken && c == '\t' && decide ((m.column : Int) < indent) then none
      else scanPlain? inFlow indent read (gap.blank c) (m.after c) rest
    else if isBreak c then
      scanPlain? inFlow indent read (gap.lineBreak c) (m.after c) rest
    else if endsAtGap inFlow indent gap m (c :: rest) then some (read, gap.broken, ⟨m, c :: rest⟩)
    else if isStrayColon inFlow c rest then none
    else if endsPlain inFlow c rest then some (read, gap.broken, ⟨m, c :: rest⟩)
    else scanPlain? inFlow indent (c :: (gap.reading ++ read)) .none (m.after c) rest

end PropShape.Yaml
