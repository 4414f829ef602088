import PropShape.Registry
import PropShape.Value.Equality
import PropShape.Value.Path

/-!
# `PropShape.Validation.Session`: checking values

`Session.check` decides a check by the rule of its descriptor's type. A
composite rule checks the parts of the value in the same session and goes on
after a failure, so that every fault is reported; only the alternatives of a
union are tried in silence, and stop at the first success.

A stored schema is entered under its name and the property path. Entering it
again at that path while it is being expanded is a descriptor cycle, an
error. That is also what makes the recursion end. Each step goes

* into a strict part of the value, or
* into a schema that was not active at this path, at the same value, or
* into a strict part of the descriptor, at the same value and path,

and the three are compared in this order. A host's rule may check anything,
so rules of hosts are nested at most `hostBudget` deep, which comes before
all three; a rule that goes deeper is reported as a cycle as well.
-/

set_option autoImplicit false

namespace PropShape

/-- What the checks of one run share. -/
structure Session where
  registry : Registry
  sink : Sink
  onFailure : OnFailure
  /-- The named schemas that are being expanded, each with its property path. -/
  active : List (TypeName × String)
  /-- How many more rules of hosts may be nested. -/
  hostBudget : Nat

namespace Session

/-- A session in which nothing is being expanded. Its budget for nested rules
of hosts is far beyond what a run can nest. -/
def start (registry : Registry) (sink : Sink) (onFailure : OnFailure) : Session :=
  ⟨registry, sink, onFailure, [], Nat.pow 2 32⟩

/-- The session inside a named schema. -/
def enter (s : Session) (name : TypeName) (path : String) : Session :=
  { s with active := (name, path) :: s.active }

/-- The number of schemas that could still be entered at a path. -/
def idle (s : Session) (path : String) : Nat :=
  s.registry.schemaNames.countP fun name => (name, path) ∉ s.active

/-- Entering a schema for the first time leaves fewer to enter. -/
theorem idle_enter_lt {s : Session} {name : TypeName} {path : String}
    (stored : name ∈ s.registry.schemaNames) (new : (name, path) ∉ s.active) :
    (s.enter name path).idle path < s.idle path := by
  simp only [idle, enter]
  generalize s.registry.schemaNames = names at stored
  -- Name by name: the mark takes this one off the count, and adds none.
  induction names with
  | nil => simp at stored
  | cons other rest ih =>
    have mono : rest.countP (fun n => (n, path) ∉ (name, path) :: s.active) ≤
        rest.countP (fun n => (n, path) ∉ s.active) :=
      List.countP_mono_left fun x _ hx => by simp_all
    rw [List.countP_cons, List.countP_cons]
    by_cases h : other = name
    · subst h
      rw [if_neg (by simp), if_pos (by simpa using new)]
      exact Nat.lt_succ_of_le mono
    -- Another name is counted before exactly if it is counted after.
    · have hrest := ih ((List.mem_cons.mp stored).resolve_left (Ne.symm h))
      have hsame : ((other, path) ∉ (name, path) :: s.active) ↔ ((other, path) ∉ s.active) := by
        simp [h]
      simp only [hsame]
      omega

/-! ## Reporting -/

/-- Reports a failure of the data, if the check reports at all. -/
def fail (s : Session) (c : Check) (failure : Failure) : Run Bool :=
  if c.logErrors then do
    s.sink.warn c.context (.failure failure) s.onFailure
    return false
  else
    return false

/-- Reports a mistake in the declaration. It is always logged and never raised. -/
def misconfigured (s : Session) (c : Check) (misconfiguration : Misconfiguration) : Run Bool := do
  s.sink.warn c.context (.misconfiguration misconfiguration) .log
  return false

/-- Passes, or reports a failure. -/
def expect (s : Session) (c : Check) (passed : Bool) (failure : Failure) : Run Bool :=
  if passed then return true else s.fail c failure

/-- Whether a property of a record is declared: under its own name, or as the
start of a dotted one. -/
def declares (declared : List String) (name : String) : Bool :=
  declared.any fun d => d == name || (name.toList ++ ['.']).isPrefixOf d.toList

/-- Reports every property name that is not declared. -/
def checkNames (s : Session) (c : Check) (declared : List String) : List String → Run Bool
  | [] => return true
  | name :: rest => do
    let known ← s.expect c (declares declared name) (.unknownKey c.path name)
    let others ← s.checkNames c declared rest
    return known && others

/-- Runs the program of a host's rule, given a way to make the checks that it asks for. What
comes after a step depends on how the step ended. -/
def performWith (s : Session) (ask : Check → Run Bool) : RuleProgram → Run Bool
  | .answer passed => return passed
  | .raise error => .raise error
  | .fail about text next =>
    let reported := s.fail about (.other text)
    reported.followedBy (s.performWith ask (next reported.result))
  | .misconfigured about text next => do
    let _ ← s.misconfigured about (.other text)
    s.performWith ask next
  | .check request next =>
    let checked := ask request
    checked.followedBy (s.performWith ask (next checked.result))

/-! ## Checking -/

mutual

/-- Decides a check by the rule of its descriptor's type. -/
def check (s : Session) (c : Check) : Run Bool :=
  match _found : s.registry.resolve c.descriptor.type with
  | .error e => .raise e
  | .ok (_, .builtin type) => s.checkBuiltin type c
  | .ok (name, .schema stored) =>
    if _new : (name, c.path) ∈ s.active then .raise (.descriptorCycle c.path)
    else (s.enter name c.path).check { c with descriptor := stored }
  | .ok (_, .host rule) =>
    match _budget : s.hostBudget with
    | 0 => .raise (.descriptorCycle c.path)
    | rest + 1 =>
      let nested := { s with hostBudget := rest }
      nested.performWith (fun request => nested.check request)
        (rule ⟨s.onFailure, s.registry.size⟩ c)
termination_by (s.hostBudget, sizeOf c.value, s.idle c.path, sizeOf c.descriptor, 1)
decreasing_by
  · exact .right' _ (Nat.le_refl _) (.right' _ (Nat.le_refl _) (.right' _ (Nat.le_refl _)
      (.right' _ (Nat.le_refl _) Nat.zero_lt_one)))
  · exact .right' _ (Nat.le_refl _) (.right' _ (Nat.le_refl _) (.left _ _
      (idle_enter_lt (Registry.mem_schemaNames (Registry.get?_of_resolve _found)) _new)))
  · exact .left _ _ (by rw [_budget]; exact Nat.lt_succ_self rest)

/-- Decides a check by the rule of a built-in type. -/
def checkBuiltin (s : Session) (type : BuiltinType) (c : Check) : Run Bool :=
  match type with
  | .any => return true
  | .array => s.expect c (c.value.kind == .array) (.notOfKind c.path .array)
  | .bool => s.expect c (c.value.kind == .boolean) (.notOfKind c.path .boolean)
  | .date => s.expect c (c.value.kind == .date) (.notOfKind c.path .date)
  | .element => s.expect c (c.value.kind == .element) (.notOfKind c.path .element)
  | .func => s.expect c (c.value.kind == .function) (.notOfKind c.path .function)
  | .null => s.expect c (c.value.kind == .null) (.notOfKind c.path .null)
  | .number => s.expect c (c.value.kind == .number) (.notOfKind c.path .number)
  | .object => s.expect c (c.value.kind == .object) (.notOfKind c.path .object)
  | .string => s.expect c (c.value.kind == .string) (.notOfKind c.path .string)
  | .symbol => s.expect c (c.value.kind == .symbol) (.notOfKind c.path .symbol)
  | .instanceOf =>
    match c.descriptor.className? with
    | none => s.misconfigured c .noClassName
    | some className =>
      let belongs := match c.value with
        | .object record => record.className == some className
        | _ => false
      s.expect c belongs (.notInstanceOf c.path className)
  | .custom =>
    match c.descriptor.predicate? with
    | none => s.misconfigured c .noPredicate
    | some predicate => s.expect c (predicate.test c.value) (.notCustom c.path)
  | .oneOf =>
    if c.descriptor.values.isEmpty then s.misconfigured c .noValues
    else
      s.expect c (c.descriptor.values.any (fun allowed => allowed.equals c.value))
        (.notListed c.path c.descriptor.values)
  | .oneOfType =>
    if c.descriptor.alternatives.isEmpty then s.misconfigured c .noAlternatives
    else do
      let passed ← s.checkAlternatives c c.descriptor.alternatives
      s.expect c passed
        (.noAlternative c.path (c.descriptor.alternatives.map Descriptor.expectedType))
  | .arrayOf =>
    match c.descriptor.element? with
    | none => s.misconfigured c .noArrayElement
    | some element =>
      match _value : c.value with
      | .array items => do
        let passed ← s.checkItems c element 0 items
        s.expect c passed (.notArrayOf c.path element.expectedType)
      | _ => s.fail c (.notArrayOf c.path element.expectedType)
  | .objectOf =>
    match c.descriptor.element? with
    | none => s.misconfigured c .noObjectElement
    | some element =>
      match _value : c.value with
      | .object ⟨none, ⟨_, fields⟩⟩ => do
        let passed ← s.checkFields c element fields
        s.expect c passed (.notObjectOf c.path element.expectedType)
      | _ => s.fail c (.notObjectOf c.path element.expectedType)
  | .iface =>
    match _properties : c.descriptor.properties? with
    | none => s.misconfigured c (.noProperties .interface)
    | some properties =>
      match _value : c.value with
      | .object record => do
        let passed ← s.checkProperties c record properties.entries
        s.expect c passed (.mismatch c.path .interface c.value)
      | _ => s.fail c (.mismatch c.path .interface c.value)
  | .shape =>
    match _properties : c.descriptor.properties? with
    | none => s.misconfigured c (.noProperties .shape)
    | some properties =>
      match _value : c.value with
      | .object ⟨none, fields⟩ => do
        let passed ← s.checkProperties c ⟨none, fields⟩ properties.entries
        let known ← s.checkNames c properties.keys fields.keys
        s.expect c (passed && known) (.mismatch c.path .shape c.value)
      | _ => s.fail c (.mismatch c.path .shape c.value)
termination_by (s.hostBudget, sizeOf c.value, s.idle c.path, sizeOf c.descriptor, 0)
decreasing_by
  · exact .right' _ (Nat.le_refl _) (.right' _ (Nat.le_refl _) (.right' _ (Nat.le_refl _)
      (.left _ _ c.descriptor.sizeOf_alternatives_lt)))
  · exact .right' _ (Nat.le_refl _) (.left _ _ (by rw [_value]; decreasing_trivial))
  · exact .right' _ (Nat.le_refl _) (.left _ _ (by rw [_value]; decreasing_trivial))
  · exact .right' _ (Nat.le_refl _) (.right' _ (by rw [_value]; decreasing_trivial)
      (.right' _ (Nat.le_refl _) (.left _ _ (Descriptor.sizeOf_lt_of_properties? _properties))))
  · exact .right' _ (Nat.le_refl _) (.right' _ (by rw [_value]; decreasing_trivial)
      (.right' _ (Nat.le_refl _) (.left _ _ (Descriptor.sizeOf_lt_of_properties? _properties))))

/-- Checks every item of an array, from the given index on. -/
def checkItems (s : Session) (c : Check) (element : Descriptor) (index : Nat) :
    List Value → Run Bool
  | [] => return true
  | item :: rest => do
    let passed ← s.check
      { c with path := Path.item c.path index, value := item, descriptor := element }
    let others ← s.checkItems c element (index + 1) rest
    return passed && others
termination_by items => (s.hostBudget, sizeOf items, 0, 0, 0)

/-- Checks every field of a record. -/
def checkFields (s : Session) (c : Check) (element : Descriptor) {keys : List String} :
    Entries String Value keys → Run Bool
  | .nil => return true
  | .cons key value rest _ => do
    let passed ← s.check { c with path := Path.key c.path key, value, descriptor := element }
    let others ← s.checkFields c element rest
    return passed && others
termination_by fields => (s.hostBudget, sizeOf fields, 0, 0, 0)

/-- Checks every declared property of a record. -/
def checkProperties (s : Session) (c : Check) (record : Record) {keys : List String} :
    Entries String Descriptor keys → Run Bool
  | .nil => return true
  | .cons key descriptor rest _ => do
    let passed ← s.checkProperty c record key descriptor
    let others ← s.checkProperties c record rest
    return passed && others
termination_by properties =>
  (s.hostBudget, 1 + sizeOf record, s.idle c.path, sizeOf properties, 0)

/-- Checks one declared property of a record. A property that reads as
undefined fails exactly when it is required. -/
def checkProperty (s : Session) (c : Check) (record : Record) (key : String)
    (descriptor : Descriptor) : Run Bool :=
  match _found : record.lookup? key with
  | none => s.expect c (!descriptor.required) (.missingKey c.path key)
  | some value => s.check { c with path := Path.key c.path key, value, descriptor }
termination_by (s.hostBudget, 1 + sizeOf record, s.idle c.path, sizeOf descriptor, 0)
decreasing_by
  exact .right' _ (Nat.le_refl _) (.left _ _
    (Nat.lt_add_left 1 (Record.sizeOf_lt_of_lookup? _found)))

/-- Tries alternatives in silence, up to the first that passes. -/
def checkAlternatives (s : Session) (c : Check) : List Descriptor → Run Bool
  | [] => return false
  | descriptor :: rest => do
    let passed ← s.check { c with descriptor, logErrors := false }
    if passed then return true else s.checkAlternatives c rest
termination_by alternatives =>
  (s.hostBudget, sizeOf c.value, s.idle c.path, sizeOf alternatives, 0)

end

/-- Runs the program of a host's rule. It makes its checks in the session that it runs in. -/
def perform (s : Session) (program : RuleProgram) : Run Bool := s.performWith s.check program

end Session

end PropShape
