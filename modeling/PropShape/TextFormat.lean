import PropShape.File
import PropShape.Json.Reader
import PropShape.Yaml.Reader

/-!
# `PropShape.TextFormat`: the formats of values and schemas

Values and schemas are written in JSON or in YAML. The formats differ in how
they turn text into documents, in the error that says they could not, and in
two more points: a YAML text may hold no document at all, and a JSON
descriptor may be written as the list of its fields.
-/

set_option autoImplicit false

namespace PropShape

/-- A format of values and schemas. -/
inductive TextFormat
  | json | yaml
  deriving DecidableEq, Inhabited

namespace TextFormat

/-- The document of a text; YAML may have none. -/
def read? : TextFormat → String → Option (Option Document)
  | json, text => (Json.read? text).map some
  | yaml, text => Yaml.read? (fun _ => true) text

/-- The error of a text that is not what was wanted. -/
def error : TextFormat → PropError
  | json => .json
  | yaml => .yaml

/-- Whether a descriptor may be written as the list of its fields. -/
def positional : TextFormat → Bool
  | json => true
  | yaml => false

/-- The format of a file: JSON by the extension of its name, otherwise YAML. -/
def ofFile (file : File) : TextFormat :=
  if File.extension? file.name == some "json".toList then json else yaml

/-- Reads a text by what its document means; `absent` is what no document means. -/
def parse {α : Type} (format : TextFormat) (absent : α) (meaning : Document → Option α)
    (text : String) : Except PropError α :=
  match format.read? text with
  | none => .error format.error
  | some none => .ok absent
  | some (some d) =>
    match meaning d with
    | some result => .ok result
    | none => .error format.error

end TextFormat

/-- Reads a value. -/
def Value.parse (format : TextFormat) (text : String) : Except PropError Value :=
  format.parse .null Document.value? text

/-- Reads a schema. -/
def Schema.parse (format : TextFormat) (text : String) : Except PropError Schema :=
  format.parse .empty (Document.schema? format.positional) text

/-- Reads a schema from a file. -/
def Schema.load (file : File) : Except PropError Schema :=
  match file.text with
  | .error e => .error e
  | .ok text => Schema.parse (.ofFile file) text

end PropShape
