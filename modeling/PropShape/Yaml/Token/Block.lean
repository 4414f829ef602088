import PropShape.Yaml.Text

/-!
# `PropShape.Yaml.Token.Block`: literal and folded blocks

A block scalar starts with `|` or `>`, may say how its end is chomped and how
far it is indented, and then holds all lines that are indented at least that
far. A literal block keeps its lines; a folded one joins two lines that start
with a word. If the indentation is not given, the first line with a word
decides it, and the blank lines before it must not be indented further.
-/

set_option autoImplicit false

namespace PropShape.Yaml

/-- What becomes of the breaks at the end of a block. -/
inductive Chomping
  /-- All are dropped. -/
  | strip
  /-- The first is kept. -/
  | clip
  /-- All are kept. -/
  | keep
  deriving DecidableEq

/-- The indicators behind the start of a block: chomping and indentation, in
either order. -/
def scanBlockHeader? (cs : List Char) : Option (Chomping × Option Nat × Nat) :=
  let chomping? (c : Char) : Option Chomping :=
    if c == '+' then some .keep else if c == '-' then some .strip else none
  let digit? (c : Char) : Option Nat := if c.isDigit then some (c.toNat - 48) else none
  match cs with
  | [] => some (.clip, none, 0)
  | c :: rest =>
    let header := match chomping? c with
      | some chomping =>
        match rest.head?.bind digit? with
        | some digit => (chomping, some digit, 2)
        | none => (chomping, none, 1)
      | none =>
        match digit? c with
        | some digit =>
          match rest.head?.bind chomping? with
          | some chomping => (chomping, some digit, 2)
          | none => (.clip, some digit, 1)
        | none => (.clip, none, 0)
    if header.2.1 == some 0 then none else some header

/-- Skips indentation and collects line breaks, last one first, up to the next
line with something on it. An indentation of zero is not known yet; the
deepest indentation seen is answered. -/
def scanBreaks? (indent deepest : Nat) (breaks : List Char) (m : Mark) :
    List Char → Option (Nat × List Char × Cursor)
  | [] => some (max deepest m.column, breaks, ⟨m, []⟩)
  | c :: rest =>
    let short := indent == 0 || decide (m.column < indent)
    if c == ' ' && short then scanBreaks? indent deepest breaks (m.after c) rest
    else if c == '\t' && short then none
    else if isBreak c then scanBreaks? indent (max deepest m.column) (c :: breaks) (m.after c) rest
    else some (max deepest m.column, breaks, ⟨m, c :: rest⟩)

/-- A block of which some lines have been read. -/
structure BlockLines where
  /-- The characters of the lines, last one first. -/
  read : List Char
  /-- The break behind the last line. -/
  lineEnd : Option Char
  /-- The breaks of the blank lines after it, last one first. -/
  blankLines : List Char
  /-- Whether the last line started with a blank. -/
  startedBlank : Bool

/-- What stands between the lines read so far and a line that starts with a
blank or not. Folding joins two lines that start with a word, by a blank
unless blank lines stand between them. -/
def BlockLines.junction (lines : BlockLines) (literal startsBlank : Bool) : List Char :=
  if !literal && lines.lineEnd == some '\n' && !lines.startedBlank && !startsBlank then
    if lines.blankLines.isEmpty then [' '] else lines.blankLines
  else
    lines.blankLines ++ lines.lineEnd.toList

/-- Reads the lines that stand at the indentation, at most `fuel` of them. -/
def scanLines? (literal : Bool) (indent : Nat) : (fuel : Nat) → BlockLines → Cursor →
    Option (BlockLines × Cursor)
  | 0, lines, cursor => some (lines, cursor)
  | fuel + 1, lines, cursor =>
    match cursor.rest with
    | [] => some (lines, cursor)
    | c :: _ =>
      if cursor.mark.column != indent then some (lines, cursor)
      else
        let (line, cursor) := cursor.span (fun d => !isBreak d)
        let read := line.reverse ++ (lines.junction literal (isBlank c) ++ lines.read)
        let (lineEnd, cursor) := match cursor.rest with
          | [] => (none, cursor)
          | d :: _ => (some d, cursor.skip 1)
        match scanBreaks? indent 0 [] cursor.mark cursor.rest with
        | none => none
        | some (_, blankLines, cursor) =>
          scanLines? literal indent fuel ⟨read, lineEnd, blankLines, isBlank c⟩ cursor

/-- Scans a block scalar behind its first character, inside a collection that
is indented by `parent`. -/
def scanBlock? (literal : Bool) (parent : Int) (cursor : Cursor) :
    Option (List Char × Cursor) := do
  let (chomping, increment, width) ← scanBlockHeader? cursor.rest
  let (_, cursor) := (cursor.skip width).span isBlank
  let cursor := match cursor.rest with
    | '#' :: _ => (cursor.span fun c => !isBreak c).2
    | _ => cursor
  let cursor ← match cursor.rest with
    | [] => some cursor
    | c :: _ => if isBreak c then some (cursor.skip 1) else none
  let indent := match increment with
    | some increment => if 0 ≤ parent then parent.toNat + increment else increment
    | none => 0
  let (deepest, breaks, cursor) ← scanBreaks? indent 0 [] cursor.mark cursor.rest
  let indent := if indent == 0 then max deepest (max (parent + 1).toNat 1) else indent
  let (lines, cursor) ← scanLines? literal indent (cursor.rest.length + 1)
    ⟨[], none, breaks, false⟩ cursor
  let tail := match chomping with
    | .strip => []
    | .clip => lines.lineEnd.toList
    | .keep => lines.blankLines ++ lines.lineEnd.toList
  return ((tail ++ lines.read).reverse, cursor)

end PropShape.Yaml
