import PropShape.Proofs.Validation.Object
import PropShape.Proofs.Value.Path

/-!
# `PropShape.Proofs.Validation.Relocation`: the same check further down

An object can be validated in two ways: property by property, each in a
session of its own with its name for a path, or as the value of one
declaration of type `iface`, in a single session in which every path starts
with the path of the object. `object_validation_agrees_with_interface` says
that the two come to the same.

* `Run.Relocated` compares the ends of two runs. Verdicts are the same, and a
  cycle is found at the same place, which the second run names by a longer
  path.
* `Session.check_relocated`: a check ends in the same way below another path,
  in a session whose marks below this path are those of the first session.
  Putting a path in front of others keeps different paths apart, so no mark
  is mistaken for another one.
* `Validator.failedProperties_relocated` goes through the declared properties
  in both ways.
-/

set_option autoImplicit false

namespace PropShape

/-- Different positions below a path are different paths. -/
theorem Path.key_inj {path position other : String} :
    Path.key path position = Path.key path other ↔ position = other :=
  String.append_right_inj (path ++ ".")

/-- A field below a path, below another path. -/
theorem Path.key_key (path position key : String) :
    Path.key path (Path.key position key) = Path.key (Path.key path position) key := by
  simp only [Path.key, String.append_assoc]

/-- An item below a path, below another path. -/
theorem Path.key_item (path position : String) (index : Nat) :
    Path.key path (Path.item position index) = Path.item (Path.key path position) index := by
  simp only [Path.key, Path.item, String.append_assoc]

/-- The error as it is named below a path. Only a cycle names a path of the value. -/
def PropError.below (path : String) : PropError → PropError
  | .descriptorCycle position => .descriptorCycle (Path.key path position)
  | error => error

namespace Run

variable {α : Type}

/-- The second run ends like the first one, below a path. -/
def Relocated (path : String) (α : Type) (run other : Run α) : Prop :=
  other.result = run.result.mapError (PropError.below path)

/-- Runs at two places are put together as such. -/
theorem congruence_relocated (path : String) : Congruence (Relocated path) where
  pure a := rfl
  bind := by
    intro α β run other next onward first rest
    -- An error ends both runs, at a path that is moved; otherwise they go on.
    cases h : run.result with
    | error e =>
      have h' : other.result = .error (e.below path) := by rw [first, h]; rfl
      rw [bind_of_error h, bind_of_error h']
      rfl
    | ok a =>
      have h' : other.result = .ok a := by rw [first, h]; rfl
      rw [bind_of_ok h, bind_of_ok h']
      exact rest a

end Run

namespace Session

variable {s t : Session} {c d : Check} {path : String}

/-- The same check in two sessions that log, the second time below a path. What is being
expanded below this path in the second session is being expanded in the first one. -/
structure Relocated (path : String) (s : Session) (c : Check) (t : Session) (d : Check) :
    Prop where
  built : s.registry.Declarative
  registry : s.registry = t.registry
  logs : s.onFailure = .log
  logs' : t.onFailure = .log
  value : c.value = d.value
  descriptor : c.descriptor = d.descriptor
  moved : d.path = Path.key path c.path
  marks (name : TypeName) (position : String) :
    (name, Path.key path position) ∈ t.active ↔ (name, position) ∈ s.active

/-- Entering the same schema on both sides keeps the marks in correspondence. -/
theorem Relocated.enter (h : Relocated path s c t d) (name : TypeName) (stored : Descriptor) :
    Relocated path (s.enter name c.path) { c with descriptor := stored } (t.enter name d.path)
      { d with descriptor := stored } where
  built := h.built
  registry := h.registry
  logs := h.logs
  logs' := h.logs'
  value := h.value
  descriptor := rfl
  moved := h.moved
  -- Both mark the schema, each at its own path, and moving a path loses nothing.
  marks := by
    intro other position
    simp only [Session.enter, List.mem_cons, Prod.mk.injEq, h.moved, Path.key_inj, h.marks]

/-- A session at one place goes in step with the same session at another. -/
theorem parallel_relocated (path : String) :
    Pairing.Parallel (Run.Relocated path) (Relocated path) where
  congruence := Run.congruence_relocated path
  built h := h.built
  same h := ⟨h.registry, h.value, h.descriptor⟩
  nested := by
    intro s t c d inner other h nested
    cases nested with
    | item index value descriptor =>
      have moved : Path.item d.path index = Path.key path (Path.item c.path index) := by
        rw [h.moved, Path.key_item]
      exact { h with value := rfl, descriptor := rfl, moved }
    | key key value descriptor =>
      have moved : Path.key d.path key = Path.key path (Path.key c.path key) := by
        rw [h.moved, Path.key_key]
      exact { h with value := rfl, descriptor := rfl, moved }
    | alternative descriptor => exact { h with descriptor := rfl }
  report := by
    intro s t c d h passed failure
    show (t.expect d passed _).result = Except.mapError _ (s.expect c passed _).result
    rw [expect_of_log h.logs, expect_of_log h.logs']
    rfl
  misconfigured h m := rfl
  unresolved := by
    -- A name that does not resolve is named without a path.
    intro registry name e unresolved
    rcases Registry.resolve_eq_error unresolved with ⟨_, rfl⟩ | ⟨_, rfl⟩ <;> rfl
  schema := by
    intro s t c d name stored h leads
    have leads' : t.registry.Leads d.descriptor.type name (.schema stored) := by
      rw [← h.registry, ← h.descriptor]
      exact leads
    have marks := h.marks name c.path
    rw [← h.moved] at marks
    by_cases active : (name, c.path) ∈ s.active
    · rw [check_of_active (Registry.resolve_eq_ok_iff.mpr leads) active,
        check_of_active (Registry.resolve_eq_ok_iff.mpr leads') (marks.mpr active), h.moved]
      exact .inl rfl
    · exact .inr ⟨active, mt marks.mp active, h.enter name stored⟩

/-- A check ends below a path as it does by itself. -/
theorem check_relocated (h : Relocated path s c t d) :
    Run.Relocated path Bool (s.check c) (t.check d) :=
  related_of_parallel (parallel_relocated path) h

end Session

namespace Validator

variable {v : Validator}

/-- A declared property that is validated by itself comes to what it comes to as a property
of a record at a path. -/
theorem validate_relocated (built : v.registry.Declarative) (log : v.options.onFailure = .log)
    (c : Check) (record : Record) (name : String) (descriptor : Descriptor) :
    Run.Relocated c.path Bool
      (v.validate c.context name (record.readProperty none name) descriptor)
      ((Session.start v.registry v.sink v.options.onFailure).checkProperty c record name
        descriptor) := by
  rw [Session.checkProperty_eq, Record.readProperty]
  cases found : record.lookup? name with
  | none =>
    show (Session.expect _ _ _ _).result = Except.mapError _ (v.validate _ _ .undefined _).result
    rw [Session.expect_of_log log, validate_of_undefined_of_log log rfl]
    rfl
  | some value =>
    dsimp only
    rw [validate_of_defined (Record.isUndefined_of_lookup? found)]
    -- Neither session has marks, so the marks correspond.
    refine Session.check_relocated ⟨built, rfl, log, log, rfl, rfl, rfl, fun _ _ => ?_⟩
    simp [Session.start]

/-- The properties of a record that are validated one by one, all without failure or not,
come to what they come to as the properties of a record at a path. -/
theorem failedProperties_relocated (built : v.registry.Declarative)
    (log : v.options.onFailure = .log) (c : Check) (record : Record) {keys : List String}
    (properties : Entries String Descriptor keys) :
    Run.Relocated c.path Bool
      (List.isEmpty <$> v.failedProperties c.context record none properties.toList)
      ((Session.start v.registry v.sink v.options.onFailure).checkProperties c record
        properties) := by
  have congruence := Run.congruence_relocated c.path
  -- Both loops go through the declared properties in order.
  induction properties with
  | nil =>
    rw [Session.checkProperties]
    rfl
  | cons name descriptor rest fresh ih =>
    rw [Session.checkProperties, Entries.toList, failedProperties, map_bind]
    refine congruence.bind (validate_relocated built log c record name descriptor) fun passed => ?_
    -- That nothing failed is the conjunction that the interface computes.
    have verdict : (List.isEmpty <$> do
        let failed ← v.failedProperties c.context record none rest.toList
        return if passed then failed else name :: failed) = (do
        let others ← List.isEmpty <$> v.failedProperties c.context record none rest.toList
        return passed && others) := by
      rw [map_bind, bind_map_left]
      refine bind_congr fun failed => ?_
      rw [map_pure]
      cases passed <;> rfl
    rw [verdict]
    exact congruence.bind ih fun others => congruence.pure (passed && others)

/-- Validating an object agrees with validating it as the value of an interface. Where
failures are logged and no property is read from elsewhere, the declared properties of a
record are all valid exactly if the record passes against an interface of these properties,
whatever its path; some are not exactly if it fails; and the one ends in an error exactly if
the other does. The errors are the same, except that a cycle is named below the path. -/
theorem object_validation_agrees_with_interface (v : Validator) (built : v.registry.Declarative)
    (log : v.options.onFailure = .log) (owner : TypeName)
    (kept : v.registry.resolve (.builtin .iface) = .ok (owner, .builtin .iface))
    (settings : Settings) (calm : settings.throwErrors = false)
    (plain : settings.spreadProperty = none) (context path : String) (record : Record)
    (schema : Schema) (descriptor : Descriptor) (type : descriptor.type = .builtin .iface)
    (declared : descriptor.properties? = some schema) :
    let whole := (v.validateProperties context record schema settings).result
    let nested := (v.validate context path (.object record) descriptor).result
    ((∃ report, whole = .ok report ∧ report.isValid = true) ↔ nested = .ok true) ∧
    ((∃ report, whole = .ok report ∧ report.isValid = false) ↔ nested = .ok false) ∧
    ((∃ e, whole = .error e) ↔ ∃ e, nested = .error e) ∧
    ∀ e, whole = .error e → nested = .error (e.below path) := by
  intro whole nested
  let c : Check := ⟨context, path, .object record, descriptor, v.options.logErrors⟩
  let failing := v.failedProperties context record none schema.toList
  have hwhole : whole = failing.result.map fun failed => ⟨schema.size, failed⟩ := by
    show (validateProperties _ _ _ _ _).result = _
    rw [validateProperties_result calm, plain]
  have hnested : nested = (failing.result.map List.isEmpty).mapError (PropError.below path) := by
    -- Where failures are logged the last report changes nothing, so the properties decide.
    have interface : nested =
        ((Session.start v.registry v.sink v.options.onFailure).checkProperties c record
          schema.entries).result := by
      show (v.validate _ _ _ _).result = _
      rw [validate_of_defined rfl, Session.check_of_builtin (type ▸ kept),
        Session.checkBuiltin_iface]
      simp only [declared]
      exact Session.bind_expect_of_log log _ _
    have relocated := failedProperties_relocated built log c record schema.entries
    rw [interface, relocated, Run.map_result]
    rfl
  rw [hwhole, hnested]
  -- Both are now the same loop, read in two ways.
  cases failing.result with
  | ok failed => simp [Except.map, Except.mapError, PropertiesReport.isValid]
  | error e => simp [Except.map, Except.mapError]

/-- Two properties: one is missing, and the other has a type that is nothing but itself. -/
def tangledSchema : Schema :=
  .ofList [("size", { type := .builtin .number, required := true }),
    ("loop", .ofType (.named "loop"))]

/-- An object with a tangled property is in error, and so is its validation as the value of an
interface at `page`; the property is called `page.loop` there. -/
theorem object_validation_agrees_with_interface_tangled :
    Registry.tangled.Declarative ∧
      (∃ owner, Registry.tangled.resolve (.builtin .iface) = .ok (owner, .builtin .iface)) ∧
      (validateProperties ⟨.tangled, .memory, {}⟩ "page" (.insert .plain "loop" .null)
        tangledSchema {}).result = .error (.descriptorCycle "loop") ∧
      (validate ⟨.tangled, .memory, {}⟩ "page" "page" (.object (.insert .plain "loop" .null))
        { type := .builtin .iface, properties? := some tangledSchema }).result =
        .error (.descriptorCycle "page.loop") := by
  have kept : Registry.tangled.resolve (.builtin .iface) =
      .ok (.builtin .iface, .builtin .iface) :=
    Registry.resolve_eq_ok_iff.mpr ⟨.refl, by
      simp [Registry.tangled, Registry.linked, Registry.registerAlias, Registry.registerSchema,
        Registry.get?_insert, Registry.get?_builtins]⟩
  have loop := Registry.resolve_eq_ok_iff.mpr Registry.leads_tangled_loop
  have whole : (validateProperties ⟨.tangled, .memory, {}⟩ "page" (.insert .plain "loop" .null)
      tangledSchema {}).result = .error (.descriptorCycle "loop") := by
    have cycle : (validate ⟨.tangled, .memory, {}⟩ "page" "loop" .null
        (.ofType (.named "loop"))).result = .error (.descriptorCycle "loop") := by
      rw [validate_of_defined rfl, Session.check_of_schema loop (by simp [Session.start]),
        Session.check_of_active loop (by simp [Session.enter])]
      rfl
    -- The size is not there; its failure does not keep the loop from going on.
    have missing : (validate ⟨.tangled, .memory, {}⟩ "page" "size" .undefined
        { type := .builtin .number, required := true }).result = .ok false :=
      validate_of_undefined_of_log rfl rfl
    rw [validateProperties_result rfl]
    show Except.map _ ((validate _ _ "size" .undefined _) >>= fun passed =>
      ((validate _ _ "loop" .null _) >>= fun passed => _) >>= fun failed => _).result = _
    simp only [Run.bind_result, missing, cycle]
    rfl
  have agrees := object_validation_agrees_with_interface ⟨.tangled, .memory, {}⟩
    Registry.declarative_tangled rfl _ kept {} rfl rfl "page" "page"
    (.insert .plain "loop" .null) tangledSchema
    { type := .builtin .iface, properties? := some tangledSchema } rfl rfl
  exact ⟨Registry.declarative_tangled, ⟨_, kept⟩, whole, agrees.2.2.2 _ whole⟩

end Validator

end PropShape
