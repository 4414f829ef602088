import PropShape.Settings.Basic
import PropShape.Validation.Session

/-!
# `PropShape.Validation.Validator`: validating properties

A validator bundles a registry, a sink and options. `Validator.validate` is
the entry point for one declared property: it settles undefined values by
whether the property is required, and checks every other value in a fresh
session.

On top of it stand the operations on whole objects. `validateProperties`
validates every declared property and goes on after a failure,
`validateUpdate` decides whether a property may change, and `defaultsFor`
lists the defaults to assign. None of them changes the object.
-/

set_option autoImplicit false

namespace PropShape

/-- A registry and a sink, with the options to validate with. -/
structure Validator where
  registry : Registry
  sink : Sink
  options : ValidationOptions := {}

namespace Validator

/-- The validator of all built-in types that emits warnings. -/
def standard : Validator := { registry := .builtins, sink := .tracing }

/-- Reports a failure under the validator's options. -/
def report (v : Validator) (context : String) (failure : Failure) : Run Unit :=
  if v.options.logErrors then v.sink.warn context (.failure failure) v.options.onFailure
  else return ()

/-- Validates the value of one property. -/
def validate (v : Validator) (context path : String) (value : Value) (descriptor : Descriptor) :
    Run Bool :=
  if value.isUndefined then
    if descriptor.required then do
      v.report context (.missing path)
      return false
    else
      return true
  else
    (Session.start v.registry v.sink v.options.onFailure).check
      ⟨context, path, value, descriptor, v.options.logErrors⟩

/-- The validator that raises failures if the settings ask for it. -/
def withSettings (v : Validator) (settings : Settings) : Validator :=
  if settings.throwErrors then { v with options := { v.options with onFailure := .throw } } else v

end Validator

/-- What validating an object found out. -/
structure PropertiesReport where
  /-- The number of declared properties. -/
  declared : Nat
  /-- The declared properties that failed, in the order of declaration. -/
  failed : List String
  deriving DecidableEq, Inhabited

/-- Whether every declared property passed. -/
def PropertiesReport.isValid (report : PropertiesReport) : Bool := report.failed.isEmpty

/-- Reads a declared property: from the object, or else from the record that
the object holds as its spread property. -/
def Record.readProperty (object : Record) (spread : Option String) (name : String) : Value :=
  match object.lookup? name with
  | some value => value
  | none =>
    match spread with
    | none => .undefined
    | some spread =>
      match (object.get? spread).bind Value.asRecord? with
      | some options => (options.lookup? name).getD .undefined
      | none => .undefined

namespace Validator

/-- Validates properties in turn and lists those that failed. -/
def failedProperties (v : Validator) (context : String) (object : Record)
    (spread : Option String) : List (String × Descriptor) → Run (List String)
  | [] => return []
  | (name, descriptor) :: rest => do
    let passed ← v.validate context name (object.readProperty spread name) descriptor
    let failed ← v.failedProperties context object spread rest
    return if passed then failed else name :: failed

/-- Validates every declared property of an object. -/
def validateProperties (v : Validator) (context : String) (object : Record) (schema : Schema)
    (settings : Settings) : Run PropertiesReport := do
  let failed ← (v.withSettings settings).failedProperties context object settings.spreadProperty
    schema.toList
  return ⟨schema.size, failed⟩

/-- Decides whether a property may change from an old value to a new one. -/
def validateUpdate (v : Validator) (context name : String) (old new : Value)
    (descriptor : Descriptor) (settings : Settings) : Run Bool :=
  let v := v.withSettings settings
  if !descriptor.updatable && !old.equals new then do
    v.report context (.notUpdatable name)
    return false
  else if settings.validateOnUpdate then
    v.validate context name new descriptor
  else
    return true

end Validator

/-- The defaults to assign to an object: one for each declared property that
reads as undefined and has a default. -/
def Schema.defaultsFor (schema : Schema) (object : Record) : List (String × Value) :=
  schema.toList.filterMap fun (name, descriptor) =>
    if (object.lookup? name).isNone then descriptor.default?.map (name, ·) else none

end PropShape
