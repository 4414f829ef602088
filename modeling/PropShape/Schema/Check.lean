import PropShape.Registry

/-!
# `PropShape.Schema.Check`: can a schema be used at all?

Before any value is validated, a schema can be checked against a registry:
every descriptor in it must have a type that resolves, and must carry what
that type needs. A type behind an alias needs what its owner needs, but the
error names it as it was written.

Descriptors are checked in the order in which they are written, an outer one
before those inside it, so the error is that of the first offending
descriptor.
-/

set_option autoImplicit false

namespace PropShape

/-- What a descriptor can lack. -/
inductive Requirement
  | properties
  | someProperty
  | element
  | className
  | values
  | alternatives
  | predicate
  deriving DecidableEq

/-- What is lacking, after the name of the type that needs it. -/
def Requirement.text : Requirement → String
  | properties => "requires typeDefs"
  | someProperty => "requires non-empty typeDefs"
  | element => "requires typeDef"
  | className => "requires className"
  | values => "requires values"
  | alternatives => "requires validators"
  | predicate => "requires a validator function"

namespace Descriptor

/-- What a descriptor lacks if its type is owned by the given name. -/
def lacks? (d : Descriptor) : TypeName → Option Requirement
  | .builtin .iface | .builtin .shape =>
    match d.properties? with
    | none => some .properties
    | some properties => if properties.isEmpty then some .someProperty else none
  | .builtin .arrayOf | .builtin .objectOf => if d.element?.isNone then some .element else none
  | .builtin .instanceOf => if d.className?.isNone then some .className else none
  | .builtin .oneOf => if d.values.isEmpty then some .values else none
  | .builtin .oneOfType => if d.alternatives.isEmpty then some .alternatives else none
  | .builtin .custom => if d.predicate?.isNone then some .predicate else none
  | _ => none

/-- Checks a descriptor without those inside it. -/
def checkSelf (d : Descriptor) (registry : Registry) (path : String) : Except PropError Unit :=
  match registry.resolveType d.type with
  | .error e => .error e
  | .ok owner =>
    match d.lacks? owner with
    | some requirement =>
      .error (.invalidDescriptor path (d.type.text ++ " " ++ requirement.text))
    | none => .ok ()

mutual

/-- Checks a descriptor and those inside it: its properties, its element and
its alternatives. -/
def checkAt (registry : Registry) (path : String) (d : Descriptor) : Except PropError Unit := do
  d.checkSelf registry path
  match d with
  | ⟨_, _, _, _, element, properties, _, alternatives, _, _⟩ =>
    checkProperties registry path properties
    checkElement registry path element
    checkAlternatives registry path alternatives
termination_by structural d

/-- Checks the declared properties, if there are any. -/
def checkProperties (registry : Registry) (path : String) :
    Option (OrderedMap String Descriptor) → Except PropError Unit
  | none => .ok ()
  | some ⟨_, properties⟩ => checkEntries registry path properties
termination_by structural x => x

/-- Checks properties in their order, each at the path with its name. -/
def checkEntries (registry : Registry) (path : String) {keys : List String} :
    Entries String Descriptor keys → Except PropError Unit
  | .nil => .ok ()
  | .cons key d rest _ => do
    checkAt registry (path ++ "." ++ key) d
    checkEntries registry path rest
termination_by structural x => x

/-- Checks the element descriptor, if there is one. -/
def checkElement (registry : Registry) (path : String) :
    Option Descriptor → Except PropError Unit
  | none => .ok ()
  | some d => checkAt registry (path ++ "[]") d
termination_by structural x => x

/-- Checks the alternatives in their order, at the path of the union. -/
def checkAlternatives (registry : Registry) (path : String) :
    List Descriptor → Except PropError Unit
  | [] => .ok ()
  | d :: rest => do
    checkAt registry path d
    checkAlternatives registry path rest
termination_by structural x => x

end

end Descriptor

/-- Checks every descriptor of a schema; the path of each is its name. -/
def Schema.check (schema : Schema) (registry : Registry) : Except PropError Unit :=
  schema.toList.forM fun (name, d) => d.checkAt registry name

end PropShape
