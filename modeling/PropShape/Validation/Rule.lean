import PropShape.Descriptor.Basic
import PropShape.Report.Run

/-!
# `PropShape.Validation.Rule`: what decides a check

A check asks whether a value satisfies a descriptor at a property path. What
answers it is the rule of the descriptor's type: a built-in one, a stored
schema, or a rule of a host.

A host's rule is a program of session operations. It may check anything it
likes, as often as it likes, and may report; it has no other access to a
session. After a step that can end in an error the program is told how the step
ended, and goes on from there as it likes: it may pass the error on, ignore it,
or tell one error from another. Being data, a program says beforehand what it
does in each case, so it can be run and reasoned about by recursion on it.
-/

set_option autoImplicit false

namespace PropShape

/-- One value to check against one descriptor. -/
structure Check where
  /-- Names the object that owns the property, for reports. -/
  context : String
  /-- Where the value was found, such as `user.tags[2]`. -/
  path : String
  value : Value
  descriptor : Descriptor
  /-- Whether failures are reported. -/
  logErrors : Bool

/-- The steps of a host's rule. -/
inductive RuleProgram
  /-- The verdict. -/
  | answer (passed : Bool)
  /-- The rule ends in an error, one of its own or one that it passes on. -/
  | raise (error : PropError)
  /-- Reports a failure of the data. The report is an error where failures are raised, and a
  failed check otherwise. -/
  | fail (about : Check) (text : String) (next : Except PropError Bool → RuleProgram)
  /-- Reports a mistake in the declaration, which is never raised. -/
  | misconfigured (about : Check) (text : String) (next : RuleProgram)
  /-- Makes a check, and goes on with its verdict or its error. -/
  | check (request : Check) (next : Except PropError Bool → RuleProgram)

/-- What a host's rule can see of the session it runs in. -/
structure SessionView where
  onFailure : OnFailure
  /-- The number of registered names. -/
  registered : Nat

/-- A rule of a host: what to do for a check. -/
abbrev HostRule := SessionView → Check → RuleProgram

/-- What decides the checks of a type. -/
inductive Rule
  | builtin (type : BuiltinType)
  /-- Values of the type are checked against this descriptor. -/
  | schema (descriptor : Descriptor)
  | host (rule : HostRule)

instance : Inhabited Rule := ⟨.builtin .any⟩

end PropShape
