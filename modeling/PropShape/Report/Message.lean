import PropShape.Json.Rendering
import PropShape.Value.Text

/-!
# `PropShape.Report.Message`: what a check has to say

A report is about the data (`Failure`) or about the declaration it was
checked against (`Misconfiguration`). Reports are kept as what happened and
where; `Message.text` is the only place that words them.
-/

set_option autoImplicit false

namespace PropShape

/-- What the value of a property was expected to be. -/
def Kind.phrase : Kind → String
  | undefined => "undefined"
  | null => "null"
  | boolean => "a boolean"
  | number => "a number"
  | string => "a string"
  | symbol => "a symbol"
  | function => "a function"
  | date => "a date"
  | array => "an array"
  | object => "an object"
  | classInstance => "an instance"
  | element => "an element"

/-- The two ways to declare nested properties. -/
inductive Composite
  /-- Extra properties are allowed, and so are instances. -/
  | interface
  /-- Plain records without extra properties. -/
  | shape
  deriving DecidableEq

/-- The word for a composite type in a message. -/
def Composite.name : Composite → String
  | interface => "interface"
  | shape => "shape"

/-- Why a value was rejected. -/
inductive Failure
  /-- A required property is undefined. -/
  | missing (path : String)
  | notOfKind (path : String) (kind : Kind)
  | notInstanceOf (path className : String)
  /-- The predicate of a custom type said no. -/
  | notCustom (path : String)
  | notListed (path : String) (allowed : List Value)
  /-- No alternative accepts the value; `tried` names them. -/
  | noAlternative (path : String) (tried : List String)
  | notArrayOf (path type : String)
  | notObjectOf (path type : String)
  | missingKey (path key : String)
  | unknownKey (path key : String)
  | mismatch (path : String) (composite : Composite) (found : Value)
  | notUpdatable (name : String)
  /-- In the words of a host. -/
  | other (text : String)

/-- Why a declaration cannot be used. -/
inductive Misconfiguration
  | noClassName
  | noPredicate
  | noValues
  | noAlternatives
  | noArrayElement
  | noObjectElement
  | noProperties (composite : Composite)
  /-- In the words of a host. -/
  | other (text : String)
  deriving DecidableEq

/-- A report. -/
inductive Message
  | failure (failure : Failure)
  | misconfiguration (misconfiguration : Misconfiguration)

/-- The text of a failure. -/
def Failure.text : Failure → String
  | missing path => "Missing required property " ++ path
  | notOfKind path kind => "Expected property " ++ path ++ " to be " ++ kind.phrase
  | notInstanceOf path className =>
    "Expected property " ++ path ++ " to be an instance of " ++ className
  | notCustom path => "Expected property " ++ path ++ " to pass custom validation"
  | notListed path allowed =>
    "Property " ++ path ++ " is not one of: " ++ String.intercalate ", " (allowed.map Value.text)
  | noAlternative path tried =>
    "Expected property " ++ path ++ " to be one of expected types: [" ++
      String.intercalate ", " tried ++ "]"
  | notArrayOf path type => "Expected property " ++ path ++ " to be an array of type " ++ type
  | notObjectOf path type => "Expected property " ++ path ++ " to be an object of type " ++ type
  | missingKey path key => "Property " ++ path ++ " is missing required property " ++ key
  | unknownKey path key => "Property " ++ path ++ " has unknown property " ++ key
  | mismatch path composite found =>
    "Expected property " ++ path ++ " to match given " ++ composite.name ++
      (match found.render? with
        | some rendering => ", but instead got value " ++ rendering
        | none => "")
  | notUpdatable name => "Property " ++ name ++ " should not be updated"
  | other text => text

/-- The text of a misconfiguration. -/
def Misconfiguration.text : Misconfiguration → String
  | noClassName => "instanceOf() requires a class name"
  | noPredicate => "custom() requires a validator function"
  | noValues => "oneOf() requires a non-empty list of values"
  | noAlternatives => "oneOfType() requires a non-empty list of types"
  | noArrayElement => "arrayOf() requires a descriptor for its items"
  | noObjectElement => "objectOf() requires a descriptor for its values"
  | noProperties .interface => "iface() requires a plain mapping of property descriptors"
  | noProperties .shape => "shape() requires a plain mapping of property descriptors"
  | other text => text

/-- The wording of a report. -/
def Message.text : Message → String
  | failure f => f.text
  | misconfiguration m => m.text

end PropShape
