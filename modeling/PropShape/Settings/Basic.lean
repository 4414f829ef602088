import PropShape.Report.Run

/-!
# `PropShape.Settings.Basic`: the settings of an installation

Settings say how failures escalate, whether updates are validated, and where
spread options live on host objects. `ValidationOptions` are the part of
them that a single validation reads.
-/

set_option autoImplicit false

namespace PropShape

/-- What a validation does with failures. -/
structure ValidationOptions where
  /-- Whether failures are reported at all. -/
  logErrors : Bool := true
  /-- What becomes of a reported failure. -/
  onFailure : OnFailure := .log
  deriving DecidableEq

instance : Inhabited ValidationOptions := ⟨{}⟩

/-- The settings of an installation. -/
structure Settings where
  /-- Raise failures instead of logging them. -/
  throwErrors : Bool := false
  /-- Validate properties when they change. -/
  validateOnUpdate : Bool := true
  /-- The property that holds options to be read as if they were declared on
  the object itself. -/
  spreadProperty : Option String := none
  deriving DecidableEq

instance : Inhabited Settings := ⟨{}⟩

namespace Settings

/-- The policy that the settings ask for. -/
def onFailure (settings : Settings) : OnFailure := .ofThrowErrors settings.throwErrors

/-- The options of validators under these settings; they report. -/
def options (settings : Settings) : ValidationOptions := ⟨true, settings.onFailure⟩

end Settings

end PropShape
