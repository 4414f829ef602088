import PropShape.Yaml.Node
import PropShape.Yaml.Scalar
import PropShape.Yaml.Token.Scan

/-!
# `PropShape.Yaml.Reader`: YAML text

`Yaml.read?` reads a text that is one YAML document, or none at all. Aliases
are followed here: an alias reads as the node it stands for, read again.

Two limits keep the reading finite. Collections may be nested `maxNesting`
deep, aliases included, and the aliases that are followed may be at most
`aliasesPerEvent` times as many as the events of the document.
-/

set_option autoImplicit false

namespace PropShape.Yaml

/-- The deepest nesting that is read. -/
def maxNesting : Nat := 128

/-- How many aliases may be followed for each event of a document. -/
def aliasesPerEvent : Nat := 100

/-- Something that was read, and how many more aliases may be followed. -/
abbrev Counted (α : Type) := Option (α × Nat)

namespace Anchors

/-- Follows a node, if it is an alias, to the node it stands for. -/
def follow? (anchors : Anchors) (budget : Nat) : Node → Counted Node
  | .alias number =>
    match budget with
    | 0 => none
    | budget + 1 => (anchors.node? number).map fun node => (node, budget)
  | node => some (node, budget)

/-- Reads the key of a pair, which must be a scalar. -/
def key? (anchors : Anchors) (budget : Nat) (node : Node) : Counted String :=
  match anchors.follow? budget node with
  | some (.scalar _ _ text, budget) => some (text, budget)
  | _ => none

/-- Reads the items of a list with a reader for one of them. -/
def items? (read : Node → Nat → Counted Document) : List Node → Nat → Counted (List Document)
  | [], budget => some ([], budget)
  | node :: rest, budget =>
    match read node budget with
    | none => none
    | some (d, budget) =>
      (items? read rest budget).map fun (others, budget) => (d :: others, budget)

/-- Reads the pairs of a mapping with a reader for one value. The values of
keys that are not wanted are passed over. -/
def pairs? (anchors : Anchors) (wanted : String → Bool) (read : Node → Nat → Counted Document) :
    List (Node × Node) → Nat → Counted (List (String × Document))
  | [], budget => some ([], budget)
  | (key, value) :: rest, budget =>
    match anchors.key? budget key with
    | none => none
    | some (name, budget) =>
      if wanted name then
        match read value budget with
        | none => none
        | some (d, budget) =>
          (pairs? anchors wanted read rest budget).map fun (others, budget) =>
            ((name, d) :: others, budget)
      else pairs? anchors wanted read rest budget

/-- Reads a node; `levels` more collections may be entered. -/
def document? (anchors : Anchors) (wanted : String → Bool) :
    (levels : Nat) → Node → Nat → Counted Document
  | levels, node, budget =>
    match anchors.follow? budget node with
    | none => none
    | some (node, budget) =>
      match levels, node with
      | _, .scalar style tag text => some (.scalar (reading style tag text), budget)
      | levels + 1, .sequence tag nodes =>
        (items? (document? anchors (fun _ => true) levels) nodes budget).map
          fun (items, budget) => (.list (tag.elim false Tag.isOwnType) items, budget)
      | levels + 1, .mapping tag nodes =>
        (pairs? anchors wanted (document? anchors (fun _ => true) levels) nodes budget).map
          fun (pairs, budget) => (.mapping (tag.elim false Tag.isOwnType) pairs, budget)
      | _, _ => none

end Anchors

/-- The characters of a text, unless one of them is not allowed. -/
def characters? (text : String) : Option (List Char) :=
  if text.toList.all isAllowed then some (normalized text.toList) else none

/-- Reads a text of at most one document; a text without a document is
`some none`. Of a mapping at its root only the wanted keys are read. -/
def read? (wanted : String → Bool) (text : String) : Option (Option Document) := do
  let cs ← characters? text
  let tokens ← tokens? cs
  let tree ← Tree.ofTokens? tokens
  match tree.root with
  | none => some none
  | some root =>
    let budget := aliasesPerEvent * tree.anchors.events
    let (d, _) ← tree.anchors.document? wanted maxNesting root budget
    some (some d)

end PropShape.Yaml
