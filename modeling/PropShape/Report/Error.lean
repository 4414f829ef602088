import PropShape.Report.Message

/-!
# `PropShape.Report.Error`: why a run ends without a verdict

A run ends early when a declaration cannot be followed, when a failure is
raised instead of logged, and when a text cannot be read. The first four
causes are mistakes in a declaration; `isConfiguration` tells them from the
others.
-/

set_option autoImplicit false

namespace PropShape

/-- The cause of an error. -/
inductive PropError
  /-- Nothing is registered under a type name. -/
  | unknownType (name : String)
  /-- Following aliases from a type name never ends. -/
  | aliasCycle (name : String)
  /-- A named type came back to itself at one property path. -/
  | descriptorCycle (path : String)
  /-- A declaration lacks what its type needs. -/
  | invalidDescriptor (path reason : String)
  /-- A failure that was raised. -/
  | failed (message : Message)
  /-- A file could not be read or written. -/
  | io
  /-- A text is not the JSON that was wanted. -/
  | json
  /-- A text is not the YAML that was wanted. -/
  | yaml

namespace PropError

/-- The wording of an error. Reading errors have no wording of their own. -/
def text : PropError → String
  | unknownType name => "unknown property type: " ++ name
  | aliasCycle name => "alias cycle detected while resolving type: " ++ name
  | descriptorCycle path => "descriptor cycle detected at property path: " ++ path
  | invalidDescriptor path reason => "invalid descriptor at " ++ path ++ ": " ++ reason
  | failed message => message.text
  | io => "I/O error"
  | json => "JSON error"
  | yaml => "YAML error"

/-- Whether a declaration is to blame, and not the data. -/
def isConfiguration : PropError → Bool
  | unknownType _ => true
  | aliasCycle _ => true
  | descriptorCycle _ => true
  | invalidDescriptor _ _ => true
  | _ => false

end PropError

end PropShape
