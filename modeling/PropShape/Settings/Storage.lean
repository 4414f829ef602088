import PropShape.File
import PropShape.Settings.Basic
import PropShape.Yaml.Reader
import PropShape.Yaml.Writer

/-!
# `PropShape.Settings.Storage`: settings as YAML

Settings are kept as a YAML mapping. Every key may be left out, and has its
default then; keys of other programs are passed over. A key given twice is
refused. `Settings.text` writes the settings back.
-/

set_option autoImplicit false

namespace PropShape.Settings

/-- The key of the flag that makes failures raise. -/
def throwErrorsKey : String := "throwErrors"

/-- The key of the flag that gates updates. -/
def validateOnUpdateKey : String := "validateOnUpdate"

/-- The key of the name of the spread property. -/
def spreadPropertyKey : String := "spreadProperty"

/-- The keys of settings. -/
def keys : List String := [throwErrorsKey, validateOnUpdateKey, spreadPropertyKey]

/-- Settings of which some keys have been read. -/
structure Draft where
  seen : List String
  settings : Settings

/-- Reads one key, unless it has been read before. -/
def Draft.place? (draft : Draft) (pair : String × Document) : Option Draft :=
  let (key, d) := pair
  let settings := draft.settings
  if draft.seen.contains key then none
  else
    (if key == throwErrorsKey then d.flag?.map fun throwErrors => { settings with throwErrors }
    else if key == validateOnUpdateKey then
      d.flag?.map fun validateOnUpdate => { settings with validateOnUpdate }
    else if key == spreadPropertyKey then
      d.optionalText?.map fun spreadProperty => { settings with spreadProperty }
    else some settings).map fun settings => ⟨key :: draft.seen, settings⟩

/-- The settings of a document. -/
def ofDocument? : Document → Option Settings
  | .mapping _ pairs => (pairs.foldlM Draft.place? ⟨[], {}⟩).map Draft.settings
  | .list _ _ => none
  | .scalar s => if s.blank then some {} else none

/-- Reads settings. -/
def parse (text : String) : Except PropError Settings :=
  match Yaml.read? keys.contains text with
  | none => .error .yaml
  | some none => .ok {}
  | some (some d) =>
    match ofDocument? d with
    | some settings => .ok settings
    | none => .error .yaml

/-- Reads settings from a file. A missing file is told from one whose bytes are
not the text of settings; a folder counts as the latter. -/
def load (file : File) : Except PropError Settings :=
  match file.bytes with
  | .error .missing => .error .io
  | .error .folder => .error .yaml
  | .ok bytes =>
    match String.fromUTF8? bytes with
    | some text => parse text
    | none => .error .yaml

/-- How a flag is written. -/
def flagText (flag : Bool) : String := if flag then "true" else "false"

/-- The settings as YAML. An absent spread property is left out. -/
def text (settings : Settings) : String :=
  throwErrorsKey ++ ": " ++ flagText settings.throwErrors ++ "\n" ++
    validateOnUpdateKey ++ ": " ++ flagText settings.validateOnUpdate ++ "\n" ++
    match settings.spreadProperty with
    | some name => spreadPropertyKey ++ ": " ++ Yaml.scalarText name
    | none => ""

/-- Writes settings to a file. -/
def save (settings : Settings) (path : String) : Except PropError File :=
  File.write path settings.text

end PropShape.Settings
