import PropShape.Report.Error

/-!
# `PropShape.File`: files by their paths

A path is followed part by part from a folder that holds at most one file.
There are no folders below it, so a path that goes through a name leads
nowhere. `Target.ofPath` says where a path leads.

Reading a file can fail in two ways: there is nothing to open, or what has been
opened is a folder.
-/

set_option autoImplicit false

namespace PropShape

/-! ## Paths -/

/-- The parts of a path, between its slashes. -/
def pathParts : List Char → List (List Char)
  | [] => [[]]
  | '/' :: rest => [] :: pathParts rest
  | c :: rest =>
    match pathParts rest with
    | [] => [[c]]
    | part :: parts => (c :: part) :: parts

/-- Whether a part of a path stays in its folder. -/
def staysInFolder (part : List Char) : Bool := part.isEmpty || part == ['.']

/-- The most bytes that the name of a file may have. -/
def maxNameBytes : Nat := 255

/-- The most bytes that a path may have. -/
def maxPathBytes : Nat := 4095

/-- What a path leads to. -/
inductive Target
  | folder
  /-- A file, or a place where one can be made. -/
  | file
  | nowhere
  deriving DecidableEq

namespace Target

/-- What the parts of a path lead to. Two dots lead to the folder around, which
is always there. -/
def ofParts : List (List Char) → Target
  | [] => folder
  | part :: parts =>
    if staysInFolder part || part == ['.', '.'] then ofParts parts
    else if parts.isEmpty && (String.ofList part).utf8ByteSize ≤ maxNameBytes then file
    else nowhere

/-- What a path leads to. A zero character cannot stand in a path. -/
def ofPath (path : String) : Target :=
  if path.toList.contains '\x00' || maxPathBytes < path.utf8ByteSize then nowhere
  else ofParts (pathParts path.toList)

end Target

/-! ## Files -/

/-- A path, and what the file there holds, if there is one. -/
structure File where
  path : String
  content : Option ByteArray

/-- Why a file has no bytes to read. -/
inductive ReadFailure
  /-- There is nothing to open. -/
  | missing
  /-- What has been opened is a folder. -/
  | folder
  deriving DecidableEq

namespace File

/-- Reads the bytes of a file. -/
def bytes (file : File) : Except ReadFailure ByteArray :=
  match Target.ofPath file.path, file.content with
  | .file, some bytes => .ok bytes
  | .folder, _ => .error .folder
  | _, _ => .error .missing

/-- Reads a file that must hold text. -/
def text (file : File) : Except PropError String :=
  match file.bytes.toOption.bind String.fromUTF8? with
  | some text => .ok text
  | none => .error .io

/-- The file at a path that holds a text, if it can be made. -/
def write (path text : String) : Except PropError File :=
  if Target.ofPath path = .file then .ok ⟨path, some text.toUTF8⟩ else .error .io

/-- What stands behind the last dot of a name. A dot at the start of a name
does not count. -/
def extension? (name : List Char) : Option (List Char) :=
  match name with
  | [] => none
  | _ :: rest =>
    if rest.contains '.' then some (rest.reverse.takeWhile (· != '.')).reverse else none

/-- The name of the file at the end of a path. -/
def name (file : File) : List Char :=
  ((pathParts file.path.toList).filter fun part => !staysInFolder part).getLastD []

end File

end PropShape
