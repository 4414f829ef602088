/-!
# `PropShape.Yaml.Tag`: the tags of nodes

A tag names the type of a node. Its name is a list of bytes rather than a text,
because escapes may put any bytes into it. A zero byte ends a name.

The tags of the core schema (`Tag.core`) say how a scalar is read. A tag that
starts with an exclamation mark belongs to its document alone: its node is of a
type that nobody else knows (`Tag.isOwnType`). Only where the name is not a text
it names no type at all, and is passed over.
-/

set_option autoImplicit false

namespace PropShape.Yaml

/-- The name of a tag. -/
structure Tag where
  /-- The bytes of the name; none of them is zero. -/
  bytes : List UInt8
  deriving DecidableEq, Inhabited

namespace Tag

/-- The tag whose name is written as some bytes, up to the first zero. -/
def ofBytes (bytes : List UInt8) : Tag := ⟨bytes.takeWhile (· != 0)⟩

/-- The tag whose name is a text. -/
def ofText (name : String) : Tag := ofBytes name.toUTF8.toList

/-- The tag with a suffix behind it. -/
def append (tag suffix : Tag) : Tag := ⟨tag.bytes ++ suffix.bytes⟩

/-- What the names of the core schema start with. -/
def coreStart : String := "tag:yaml.org,2002:"

/-- A tag of the core schema. -/
def core (name : String) : Tag := ofText (coreStart ++ name)

/-- Whether a tag belongs to its document alone. -/
def isLocal (tag : Tag) : Bool := tag.bytes.head? == some 0x21

/-- Whether a tag gives its node a type of its own. -/
def isOwnType (tag : Tag) : Bool := tag.isLocal && (String.fromUTF8? ⟨tag.bytes.toArray⟩).isSome

end Tag

end PropShape.Yaml
