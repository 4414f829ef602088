import PropShape.Validation.Validator

/-!
# `PropShape.Trace`: events for developers

Besides its result, an operation emits events for whoever follows the log of
a host: a warning for each report that a tracing sink keeps, a note when a
registered name is given a new meaning, and a summary of each validation of an
object that came to its end.
-/

set_option autoImplicit false

namespace PropShape

/-- Something that a log shows. -/
inductive Event
  | warned (diagnostic : Diagnostic)
  /-- A registered name was registered again. -/
  | replaced (name : TypeName)
  /-- An object was validated. -/
  | validated (context : String) (report : PropertiesReport)

namespace Event

/-- How important an event is. -/
def level : Event → String
  | warned _ => "WARN"
  | replaced _ => "DEBUG"
  | validated _ _ => "DEBUG"

/-- The text of an event. -/
def message : Event → String
  | warned diagnostic => diagnostic.message.text
  | replaced _ => "Replaced registered property type"
  | validated _ _ => "Validated declared properties"

/-- The named details of an event. -/
def fields : Event → List (String × String)
  | warned diagnostic => [("context", diagnostic.context)]
  | replaced name => [("type_name", name.text)]
  | validated context report =>
    [("context", context), ("declared", Nat.repr report.declared),
      ("failed", Nat.repr report.failed.length)]

end Event

/-- The events of registering a name. -/
def Registry.eventsOfInsert (registry : Registry) (name : TypeName) : List Event :=
  if registry.contains name then [.replaced name] else []

/-- The events of reports that went to a sink. -/
def Sink.events : Sink → List Diagnostic → List Event
  | .memory, _ => []
  | .tracing, diagnostics => diagnostics.map .warned

/-- The events of validating an object. -/
def Validator.eventsOfProperties (v : Validator) (context : String)
    (run : Run PropertiesReport) : List Event :=
  match run.result with
  | .ok report => v.sink.events run.diagnostics ++ [.validated context report]
  | .error _ => v.sink.events run.diagnostics

end PropShape
