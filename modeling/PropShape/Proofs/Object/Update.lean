import PropShape.Proofs.Object.Lookup
import PropShape.Proofs.Validation.Options
import PropShape.Proofs.Value.Equality

/-!
# `PropShape.Proofs.Object.Update`: hosts that ask before they store

A host that wants to change a property asks whether it may, and stores the
new value exactly if the answer is yes. `Attempt` is what such a host passes
along with the value that it holds, and a run of the host is a list of
attempts. There are two views of what the host holds:

* a single value under one descriptor (`Attempt.outcome`). If the property is
  declared not to be updatable, it holds the initial value or an equal one at
  every moment (`fixed_property_never_changes`). One granted attempt replaces
  the value by an equal one, and equality is transitive; it need not be
  reflexive for that.
* an object under a schema (`Attempt.update`). If updates are validated, no
  attempt makes the object worse (`gated_updates_never_worsen`). A granted
  attempt has the property pass (`validate_eq_true_of_granted`) and leaves
  alone what the other properties read (`exists_report_of_insert`); that is the step
  (`exists_report_of_update`), and the run is an induction over it
  (`exists_report_of_updates`).
-/

set_option autoImplicit false

namespace PropShape

/-- What a host passes when it asks to change a property, besides the value it holds and the
descriptor of the property. -/
structure Attempt where
  validator : Validator
  context : String
  name : String
  new : Value
  settings : Settings

namespace Attempt

variable {a : Attempt} {held initial : Value} {descriptor : Descriptor}

/-- Whether the property may change from the value that is held. Errors are no permission. -/
def granted (a : Attempt) (held : Value) (descriptor : Descriptor) : Bool :=
  match (a.validator.validateUpdate a.context a.name held a.new descriptor a.settings).result with
  | .ok answer => answer
  | .error _ => false

/-- An update is granted exactly if its validation answers true. -/
theorem granted_iff :
    a.granted held descriptor = true ↔
      (a.validator.validateUpdate a.context a.name held a.new descriptor a.settings).result =
        .ok true := by
  unfold granted
  split
  · next answer h => rw [h, Except.ok.injEq]
  · next h => simp [h]

/-! ## A property that is fixed -/

/-- What is held after an attempt. -/
def outcome (descriptor : Descriptor) (held : Value) (a : Attempt) : Value :=
  if a.granted held descriptor then a.new else held

/-- A fixed property may only be set to what it is equal to. -/
theorem equals_of_granted (fixed : descriptor.updatable = false)
    (h : a.granted held descriptor = true) : held.equals a.new = true := by
  by_contra different
  have answer := granted_iff.mp h
  unfold Validator.validateUpdate at answer
  -- The change is refused before anything is validated, and whatever the report comes to.
  rw [if_pos (by simp [fixed, different])] at answer
  obtain ⟨-, -, refused⟩ := Run.bind_eq_ok_iff.mp answer
  cases refused

/-- A property that is not updatable holds the same value, or an equal one, after an attempt. -/
theorem outcome_same (fixed : descriptor.updatable = false) :
    (outcome descriptor held a).Same held := by
  unfold outcome
  split
  · next h => exact .inr (Value.equals_symm (equals_of_granted fixed h))
  · exact .refl held

end Attempt

/-- A property that is declared not to be updatable never changes. Whatever is attempted,
under whatever options and settings, what the host holds is at every moment the initial
value itself or equal to it. -/
theorem fixed_property_never_changes (descriptor : Descriptor)
    (fixed : descriptor.updatable = false) (initial : Value) (attempts : List Attempt) :
    ∀ held ∈ attempts.scanl (Attempt.outcome descriptor) initial, held.Same initial := by
  induction attempts generalizing initial with
  | nil =>
    intro held now
    rw [List.mem_singleton.mp now]
    exact .refl initial
  | cons a rest ih =>
    intro held now
    rw [List.scanl_cons] at now
    rcases List.mem_cons.mp now with rfl | later
    · exact .refl held
    · -- Later values are the same as the outcome of the first attempt.
      exact (ih _ held later).trans (Attempt.outcome_same fixed)

/-- A number that may not change. -/
def fixedNumber : Descriptor := { type := .builtin .number, updatable := false }

/-- Two attempts at a number: negative zero without validation, and then NaN under options
that keep failures to themselves. -/
def numberAttempts : List Attempt :=
  [⟨.standard, "dial", "angle", .number (.ofCode true 0), { validateOnUpdate := false }⟩,
    ⟨⟨.builtins, .memory, ⟨false, .throw⟩⟩, "dial", "angle", .number .nan, {}⟩]

/-- Zero is replaced by negative zero, which is equal to it, and not by NaN. -/
theorem fixed_property_never_changes_zero :
    fixedNumber.updatable = false ∧
      numberAttempts.scanl (Attempt.outcome fixedNumber) (.number .zero) =
        [.number .zero, .number (.ofCode true 0), .number (.ofCode true 0)] ∧
      (Value.number (.ofCode true 0)).Same (.number .zero) := by
  have run : numberAttempts.scanl (Attempt.outcome fixedNumber) (.number .zero) =
      [.number .zero, .number (.ofCode true 0), .number (.ofCode true 0)] := rfl
  have kept := fixed_property_never_changes fixedNumber rfl (.number .zero) numberAttempts
  rw [run] at kept
  exact ⟨rfl, run, kept _ (List.mem_cons_of_mem _ List.mem_cons_self)⟩

/-! ## An object whose updates are validated -/

namespace Attempt

variable {a : Attempt} {schema : Schema} {object : Record} {descriptor : Descriptor}

/-- The attempt concerns a declared property, and the property may change from the value
that it has on the object. -/
def Succeeds (a : Attempt) (schema : Schema) (object : Record) : Prop :=
  ∃ descriptor, schema.get? a.name = some descriptor ∧
    a.granted (object.readProperty none a.name) descriptor = true

/-- The object after an attempt. -/
def update (schema : Schema) (object : Record) (a : Attempt) : Record :=
  match schema.get? a.name with
  | none => object
  | some descriptor =>
    if a.granted (object.readProperty none a.name) descriptor then object.insert a.name a.new
    else object

/-- An attempt at a declared property under settings that have updates validated. The
options of the validator and the other settings may be anything. -/
structure Gated (registry : Registry) (schema : Schema) (a : Attempt) : Prop where
  registry : a.validator.registry = registry
  declared : a.name ∈ schema.keys
  validates : a.settings.validateOnUpdate = true

/-- An attempt stores the new value, or does nothing. -/
theorem update_cases (schema : Schema) (object : Record) (a : Attempt) :
    (∃ descriptor, schema.get? a.name = some descriptor ∧
        a.granted (object.readProperty none a.name) descriptor = true ∧
        a.update schema object = object.insert a.name a.new) ∨
      ¬ a.Succeeds schema object ∧ a.update schema object = object := by
  unfold update Succeeds
  cases declared : schema.get? a.name with
  | none => exact .inr ⟨by simp, rfl⟩
  | some descriptor =>
    cases h : a.granted (object.readProperty none a.name) descriptor with
    | true => exact .inl ⟨descriptor, rfl, h, if_pos h⟩
    | false => exact .inr ⟨by simp [h], if_neg (by simp [h])⟩

end Attempt

namespace Validator

variable {v : Validator} {context : String} {schema : Schema} {settings : Settings}
  {object : Record} {a : Attempt} {descriptor : Descriptor} {held : Value}

/-- Settings leave the registry as it is. -/
theorem registry_withSettings (v : Validator) (settings : Settings) :
    (v.withSettings settings).registry = v.registry := by
  unfold withSettings
  split <;> rfl

/-- If an update is validated and granted, the new value passes under its name, also for a
validator with other options that logs failures. -/
theorem validate_eq_true_of_granted (built : v.registry.Declarative)
    (log : v.options.onFailure = .log) (gated : a.Gated v.registry schema)
    (h : a.granted held descriptor = true) (context : String) :
    (v.validate context a.name a.new descriptor).result = .ok true := by
  have answer := Attempt.granted_iff.mp h
  unfold validateUpdate at answer
  dsimp only at answer
  split at answer
  · obtain ⟨-, -, refused⟩ := Run.bind_eq_ok_iff.mp answer
    cases refused
  · -- It was validated by the validator of the attempt, which may have other options.
    rw [if_pos gated.validates] at answer
    have same : (a.validator.withSettings a.settings).registry = v.registry :=
      (registry_withSettings _ _).trans gated.registry
    exact validate_upheld (same ▸ built) same log answer

/-- Storing a value under a name without dots changes what this name reads, and nothing
else. -/
theorem readProperty_insert {name other : String} {value : Value} (undotted : Path.Undotted other) :
    (object.insert name value).readProperty none other =
      if other = name then value else object.readProperty none other := by
  rw [Record.readProperty_none, Record.readProperty_none]
  split
  · next same =>
    subst same
    rw [Record.lookup?_insert_self undotted]
    cases value <;> rfl
  · next ne => rw [Record.lookup?_insert_of_ne undotted ne]

/-- After the insertion the property is validated with the new value. -/
theorem validateProperty_insert_self {name : String} {value : Value}
    (undotted : Path.Undotted name) :
    v.validateProperty context (object.insert name value) none (name, descriptor) =
      v.validate context name value descriptor := by
  rw [validateProperty, readProperty_insert undotted, if_pos rfl]

/-- Another property is validated as before. -/
theorem validateProperty_insert_of_ne {property : String × Descriptor} {name : String}
    {value : Value} (undotted : Path.Undotted property.1) (ne : property.1 ≠ name) :
    v.validateProperty context (object.insert name value) none property =
      v.validateProperty context object none property := by
  rw [validateProperty, readProperty_insert undotted, if_neg ne, validateProperty]

/-- Storing a value that passes has the property pass, and leaves the verdicts about the other
declared properties as they are. -/
theorem validateProperty_insert (undotted : ∀ name ∈ schema.keys, Path.Undotted name)
    {name : String} {value : Value} (declared : schema.get? name = some descriptor)
    (passes : (v.validate context name value descriptor).result = .ok true)
    {property : String × Descriptor} (mem : property ∈ schema.toList) :
    (v.validateProperty context (object.insert name value) none property).result =
      if property.1 = name then .ok true
      else (v.validateProperty context object none property).result := by
  obtain ⟨other, declaration⟩ := property
  have dots : Path.Undotted other :=
    undotted other (schema.keys_toList ▸ List.mem_map_of_mem mem)
  split
  · next same =>
    obtain rfl : other = name := same
    -- A name is declared once.
    obtain rfl : descriptor = declaration := by
      simpa [declared] using (schema.get?_eq_some_iff other declaration).mpr mem
    rw [validateProperty_insert_self dots, passes]
  · next ne => rw [validateProperty_insert_of_ne dots ne]

/-- Storing a value that passes: if the object has a report, it has one afterwards, with no
new failures and without the property. -/
theorem exists_report_of_insert (undotted : ∀ name ∈ schema.keys, Path.Undotted name)
    (calm : settings.throwErrors = false) (own : settings.spreadProperty = none)
    {earlier : PropertiesReport}
    (h : (v.validateProperties context object schema settings).result = .ok earlier)
    {name : String} {value : Value} (declared : schema.get? name = some descriptor)
    (passes : (v.validate context name value descriptor).result = .ok true) :
    ∃ later, (v.validateProperties context (object.insert name value) schema settings).result =
        .ok later ∧ ∀ failing ∈ later.failed, failing ∈ earlier.failed ∧ failing ≠ name := by
  obtain ⟨failed, before, rfl⟩ := (validateProperties_eq_ok_iff calm).mp h
  rw [own] at before
  -- The updated property passes, and the others come to the same verdicts as before.
  obtain ⟨failed', after⟩ : ∃ failed', (v.failedProperties context (object.insert name value) none
      schema.toList).result = .ok failed' := by
    refine exists_failedProperties_eq_ok_iff.mpr fun property mem => ?_
    rw [validateProperty_insert undotted declared passes mem]
    split
    · exact ⟨true, rfl⟩
    · exact exists_failedProperties_eq_ok_iff.mp ⟨failed, before⟩ property mem
  refine ⟨⟨schema.size, failed'⟩, (validateProperties_eq_ok_iff calm).mpr
    ⟨failed', by rw [own, after], rfl⟩, fun failing listed => ?_⟩
  obtain ⟨property, mem, rfl, fails⟩ := (mem_failed_iff after).mp listed
  -- What fails now is another property, which failed before as well.
  rw [validateProperty_insert undotted declared passes mem] at fails
  split at fails
  · cases fails
  · next ne => exact ⟨(mem_failed_iff before).mpr ⟨property, mem, rfl, fails⟩, ne⟩

/-- One attempt: if the object has a report, it has one afterwards, with no new failures and
without the property that was updated. -/
theorem exists_report_of_update (built : v.registry.Declarative)
    (log : v.options.onFailure = .log) (undotted : ∀ name ∈ schema.keys, Path.Undotted name)
    (calm : settings.throwErrors = false) (own : settings.spreadProperty = none)
    {earlier : PropertiesReport}
    (h : (v.validateProperties context object schema settings).result = .ok earlier)
    (gated : a.Gated v.registry schema) :
    ∃ later, (v.validateProperties context (a.update schema object) schema settings).result =
        .ok later ∧ later.failed ⊆ earlier.failed ∧
      (a.Succeeds schema object → a.name ∉ later.failed) := by
  -- A refused update leaves the object as it was.
  rcases a.update_cases schema object with ⟨descriptor, declared, granted, stored⟩ | ⟨refused, kept⟩
  · have passes := validate_eq_true_of_granted built log gated granted context
    obtain ⟨later, after, fails⟩ := exists_report_of_insert undotted calm own h declared passes
    exact ⟨later, stored ▸ after, fun failing listed => (fails failing listed).1,
      fun _ listed => (fails a.name listed).2 rfl⟩
  · rw [kept]
    exact ⟨earlier, h, fun _ => id, fun success => absurd success refused⟩

/-- Any number of attempts: if the object has a report, it has one afterwards, with no new
failures. -/
theorem exists_report_of_updates (built : v.registry.Declarative)
    (log : v.options.onFailure = .log) (undotted : ∀ name ∈ schema.keys, Path.Undotted name)
    (calm : settings.throwErrors = false) (own : settings.spreadProperty = none)
    {report : PropertiesReport}
    (h : (v.validateProperties context object schema settings).result = .ok report)
    {attempts : List Attempt} (gated : ∀ a ∈ attempts, a.Gated v.registry schema) :
    ∃ later, (v.validateProperties context (attempts.foldl (Attempt.update schema) object) schema
        settings).result = .ok later ∧ later.failed ⊆ report.failed := by
  -- The report after one attempt is the starting point for those that follow.
  induction attempts generalizing object report with
  | nil => exact ⟨report, h, fun _ => id⟩
  | cons a rest ih =>
    obtain ⟨first, others⟩ := List.forall_mem_cons.mp gated
    obtain ⟨next, hnext, fewer, -⟩ := exists_report_of_update built log undotted calm own h first
    obtain ⟨later, hlater, fewer'⟩ := ih hnext others
    exact ⟨later, hlater, fun _ listed => fewer (fewer' listed)⟩

/-- Gated updates never make an object worse. A host starts with an object that validation,
without a spread property and logging failures, comes to a report about. It attempts to
update declared properties, each time under settings that have updates validated, and stores
a new value exactly if it may. Then at every step validation still comes to a report, no
property fails that did not fail before the step, and a property that was updated does not
fail. So an object that starts valid stays valid. -/
theorem gated_updates_never_worsen (v : Validator) (built : v.registry.Declarative)
    (log : v.options.onFailure = .log) (schema : Schema)
    (undotted : ∀ name ∈ schema.keys, Path.Undotted name) (context : String)
    (settings : Settings) (calm : settings.throwErrors = false)
    (own : settings.spreadProperty = none) (object : Record) (report : PropertiesReport)
    (start : (v.validateProperties context object schema settings).result = .ok report)
    (attempts : List Attempt) (gated : ∀ a ∈ attempts, a.Gated v.registry schema) :
    let after := fun attempts : List Attempt => attempts.foldl (Attempt.update schema) object
    let observed := fun object => (v.validateProperties context object schema settings).result
    (∀ before a rest, attempts = before ++ a :: rest →
      ∃ earlier later, observed (after before) = .ok earlier ∧
        observed (after (before ++ [a])) = .ok later ∧ later.failed ⊆ earlier.failed ∧
        (a.Succeeds schema (after before) → a.name ∉ later.failed)) ∧
    (report.isValid = true → ∀ before rest, attempts = before ++ rest →
      ∃ later, observed (after before) = .ok later ∧ later.isValid = true) := by
  intro after observed
  constructor
  · rintro before a rest rfl
    obtain ⟨gatedBefore, gatedRest⟩ := List.forall_mem_append.mp gated
    obtain ⟨gatedStep, -⟩ := List.forall_mem_cons.mp gatedRest
    -- The attempts before this one end in a report, and one more step leads on from it.
    obtain ⟨earlier, hearlier, -⟩ :=
      exists_report_of_updates built log undotted calm own start gatedBefore
    obtain ⟨later, hlater, fewer, updated⟩ :=
      exists_report_of_update built log undotted calm own hearlier gatedStep
    refine ⟨earlier, later, hearlier, ?_, fewer, updated⟩
    show observed ((before ++ [a]).foldl (Attempt.update schema) object) = .ok later
    rw [List.foldl_append]
    exact hlater
  · rintro valid before rest rfl
    obtain ⟨gatedBefore, -⟩ := List.forall_mem_append.mp gated
    obtain ⟨later, hlater, fewer⟩ :=
      exists_report_of_updates built log undotted calm own start gatedBefore
    refine ⟨later, hlater, ?_⟩
    -- Nothing had failed, so nothing can be left of it.
    have none : report.failed = [] := List.isEmpty_iff.mp valid
    rw [none] at fewer
    exact List.isEmpty_iff.mpr (List.subset_nil.mp fewer)

/-- The declaration of a size, which has to be there. -/
def sized : Schema := .ofList [("size", { type := .builtin .number, required := true })]

/-- An attempt at the size that is silent about its failure. -/
def nullSize : Attempt :=
  ⟨⟨.builtins, .memory, ⟨false, .throw⟩⟩, "card", "size", .null, {}⟩

/-- An attempt at the size that raises failures. -/
def zeroSize : Attempt :=
  ⟨⟨.builtins, .tracing, {}⟩, "card", "size", .number .zero, { throwErrors := true }⟩

/-- An object without a size does not get one from the first attempt, but it does from the
second one, and then it is valid. -/
theorem gated_updates_never_worsen_sized :
    Registry.builtins.Declarative ∧ (∀ name ∈ sized.keys, Path.Undotted name) ∧
      (∀ a ∈ [nullSize, zeroSize], a.Gated .builtins sized) ∧
      (validateProperties ⟨.builtins, .memory, {}⟩ "card" .plain sized {}).result =
        .ok ⟨1, ["size"]⟩ ∧
      ∃ later, (validateProperties ⟨.builtins, .memory, {}⟩ "card"
        ([nullSize, zeroSize].foldl (Attempt.update sized) .plain) sized {}).result =
        .ok later ∧ later.failed = [] := by
  have undotted : ∀ name ∈ sized.keys, Path.Undotted name := by decide
  have gated : ∀ a ∈ [nullSize, zeroSize], a.Gated .builtins sized := by
    simp only [List.forall_mem_cons]
    exact ⟨⟨rfl, List.mem_singleton.mpr rfl, rfl⟩, ⟨rfl, List.mem_singleton.mpr rfl, rfl⟩, by simp⟩
  have start : (validateProperties ⟨.builtins, .memory, {}⟩ "card" .plain sized {}).result =
      .ok ⟨1, ["size"]⟩ := rfl
  -- The size may change, so what it was before plays no part.
  have succeeds : ∀ object, zeroSize.Succeeds sized object := by
    refine fun object => ⟨{ type := .builtin .number, required := true }, rfl,
      Attempt.granted_iff.mpr ?_⟩
    show (validate ⟨.builtins, .tracing, { onFailure := .throw }⟩ "card" "size" (.number .zero)
      { type := .builtin .number, required := true }).result = .ok true
    rw [validate_of_defined rfl, Session.check_of_builtin (Registry.resolve_builtins .number),
      Session.checkBuiltin_eq_follow]
    rfl
  obtain ⟨steps, -⟩ := gated_updates_never_worsen ⟨.builtins, .memory, {}⟩ .builtins rfl sized
    undotted "card" {} rfl rfl .plain ⟨1, ["size"]⟩ start [nullSize, zeroSize] gated
  obtain ⟨initial, _, h, first, kept, -⟩ := steps [] nullSize [zeroSize] rfl
  obtain ⟨earlier, later, between, second, fewer, updated⟩ := steps [nullSize] zeroSize [] rfl
  obtain rfl : initial = ⟨1, ["size"]⟩ := by simpa using h.symm.trans start
  obtain rfl := Except.ok.inj (first.symm.trans between)
  refine ⟨.builtins, undotted, gated, start, later, second,
    List.eq_nil_iff_forall_not_mem.mpr fun failing listed => ?_⟩
  obtain rfl : failing = "size" := List.mem_singleton.mp (kept (fewer listed))
  exact updated (succeeds _) listed

end Validator

end PropShape
