import PropShape.Proofs.Json.Nesting
import PropShape.Proofs.Validation.Calls

/-!
# `PropShape.Proofs.Validation.Mismatch`: the last report about a rejected record

An interface or a shape that rejects a value says so after everything that its
properties had to say, and shows the value. This holds of every way to be
rejected: the value may not be a record at all, a property may fail, and in a
shape a name may be unknown. All of them end in one report
(`Session.getLast?_diagnostics_check`).

The report shows the rendering of the value. Rendering gives up on values that
are nested too deeply, and then the report ends after the name of what was
wanted (`Failure.text_mismatch_of_tooDeep`). Nothing else depends on the
rendering, in particular no verdict.
-/

set_option autoImplicit false

namespace PropShape

/-- The type of the descriptors that declare nested properties in this way. -/
def Composite.type : Composite → BuiltinType
  | interface => .iface
  | shape => .shape

variable {s : Session} {c : Check} {composite : Composite} {owner : TypeName}
  {properties : OrderedMap String Descriptor}

namespace Failure

variable {path rendering : String} {v : Value}

/-- The text of a mismatch shows the value if it can be rendered. -/
theorem text_mismatch :
    (mismatch path composite v).text =
      "Expected property " ++ path ++ " to match given " ++ composite.name ++
        v.render?.elim "" (", but instead got value " ++ ·) := by
  show "Expected property " ++ path ++ " to match given " ++ composite.name ++ _ = _
  cases v.render? <;> rfl

/-- The text of a mismatch ends with the rendering of the value. -/
theorem text_mismatch_of_rendering (rendered : v.render? = some rendering) :
    (mismatch path composite v).text =
      "Expected property " ++ path ++ " to match given " ++ composite.name ++
        ", but instead got value " ++ rendering := by
  rw [text_mismatch, rendered, Option.elim_some, ← String.append_assoc]

/-- The text of a mismatch shows nothing of a value that cannot be rendered. -/
theorem text_mismatch_of_tooDeep (tooDeep : v.render? = none) :
    (mismatch path composite v).text =
      "Expected property " ++ path ++ " to match given " ++ composite.name := by
  rw [text_mismatch, tooDeep, Option.elim_none, String.append_empty]

end Failure

/-- The values that an interface or a shape goes into. -/
def Composite.content? : Composite → Value → Option Record
  | interface, v => v.asRecord?
  | shape, v => v.asPlainRecord?

/-- What an interface or a shape requires of a record. -/
def Check.compositeParts (c : Check) (properties : OrderedMap String Descriptor)
    (record : Record) : Composite → List Part
  | .interface => c.propertyParts record properties.toList
  | .shape =>
    c.propertyParts record properties.toList ++ c.nameParts properties.keys record.fields.keys

/-- Interfaces and shapes have plans of the same form, up to their contents and parts. -/
theorem Check.builtinPlan_composite (c : Check) (composite : Composite) :
    c.builtinPlan composite.type =
      .composite (.noProperties composite) c.descriptor.properties?
        (composite.content? c.value) (c.compositeParts · · composite)
        (fun _ => .mismatch c.path composite c.value) := by
  cases composite with
  | interface => exact c.builtinPlan_iface
  | shape => exact c.builtinPlan_shape

namespace Session

/-- A failure that is reported and logged. -/
theorem expect_false_of_loud (loud : c.logErrors = true) (log : s.onFailure = .log)
    (failure : Failure) :
    s.expect c false failure = ⟨[⟨c.context, .failure failure, .log⟩], .ok false⟩ := by
  show s.fail c failure = _
  unfold fail Sink.warn
  rw [if_pos loud, log, if_pos s.sink.keeps_log]
  rfl

/-- What a rejected interface or shape reports last is the mismatch, whatever was reported
before it about the parts of the value. -/
theorem getLast?_diagnostics_check
    (leads : s.registry.Leads c.descriptor.type owner (.builtin composite.type))
    (declared : c.descriptor.properties? = some properties) (loud : c.logErrors = true)
    (log : s.onFailure = .log) (rejected : (s.check c).result = .ok false) :
    (s.check c).diagnostics.getLast? =
      some ⟨c.context, .failure (.mismatch c.path composite c.value), .log⟩ := by
  have reported := expect_false_of_loud loud log (.mismatch c.path composite c.value)
  rw [check_eq_follow, plan_of_builtin leads, Check.builtinPlan_composite, declared] at rejected ⊢
  cases held : composite.content? c.value with
  | none =>
    show (s.expect c false _).diagnostics.getLast? = _
    rw [reported]
    rfl
  | some record =>
    rw [held] at rejected
    -- The parts come to a verdict, and it is that of the whole.
    obtain ⟨passed, parts, rejected⟩ := Run.bind_eq_ok_iff.mp rejected
    cases expect_eq_ok rejected
    show (Run.all _ >>= fun passed => s.expect c passed _).diagnostics.getLast? = _
    rw [Run.bind_of_ok parts, reported, List.getLast?_concat]

/-- How deep a value is nested decides whether it is rendered, and that is all it decides. A value
has no rendering exactly if it holds a chain of more than 128 arrays and records, or is one; a
counter that is carried down from the value finds the same out. A loud check against an interface
or a shape, in whatever session and under whatever name, that ends in false where failures are
logged reports last that the value does not match, and shows its rendering if it has one. -/
theorem rendering_limit_is_exact :
    (∀ v : Value, (v.render? = none ↔ ∃ links, v.Chain links ∧ 128 < links.length) ∧
      (v.render? = none ↔ v.tooDeepFrom 0 = true)) ∧
    ∀ (s : Session) (c : Check) (composite : Composite) (owner : TypeName),
      s.registry.Leads c.descriptor.type owner (.builtin composite.type) →
      c.descriptor.properties?.isSome → c.logErrors = true → s.onFailure = .log →
      (s.check c).result = .ok false →
      let message := Message.failure (.mismatch c.path composite c.value)
      (s.check c).diagnostics.getLast? = some ⟨c.context, message, .log⟩ ∧
        ((∀ links, c.value.Chain links → links.length ≤ 128) →
          ∃ rendering, c.value.render? = some rendering ∧
            message.text = "Expected property " ++ c.path ++ " to match given " ++
              composite.name ++ ", but instead got value " ++ rendering) ∧
        ((∃ links, c.value.Chain links ∧ 128 < links.length) →
          message.text =
            "Expected property " ++ c.path ++ " to match given " ++ composite.name) := by
  refine ⟨fun v => ⟨Value.render?_eq_none_iff, ?_⟩, ?_⟩
  · exact Value.render?_eq_none_iff.trans Value.tooDeepFrom_zero_iff.symm
  · intro s c composite owner leads declared loud log rejected message
    obtain ⟨properties, declared⟩ := Option.isSome_iff_exists.mp declared
    refine ⟨getLast?_diagnostics_check leads declared loud log rejected, ?_, ?_⟩
    -- No chain is too long, so there is a rendering.
    · intro shallow
      cases rendered : c.value.render? with
      | none =>
        obtain ⟨links, chain, long⟩ := Value.render?_eq_none_iff.mp rendered
        exact absurd long (Nat.not_lt_of_le (shallow links chain))
      | some rendering => exact ⟨rendering, rfl, Failure.text_mismatch_of_rendering rendered⟩
    · intro tooDeep
      exact Failure.text_mismatch_of_tooDeep (Value.render?_eq_none_iff.mpr tooDeep)

end Session

/-- Null in as many arrays. -/
def Value.boxed : Nat → Value
  | 0 => .null
  | n + 1 => .array [boxed n]

/-- A boxed value is nested as deep as there are boxes. -/
theorem Value.nesting_boxed (n : Nat) : (Value.boxed n).nesting = n := by
  induction n with
  | zero => rfl
  | succ n ih =>
    rw [boxed, nesting_array, List.map_singleton, List.foldr_cons, List.foldr_nil, ih,
      Nat.max_zero]

namespace Session

/-- An interface rejects arrays. It shows one of 128 levels, and none of more. -/
theorem rendering_limit_is_exact_boxed :
    let s := start .builtins .memory .log
    let c (levels : Nat) : Check :=
      ⟨"ctx", "prop", .boxed levels,
        { type := .builtin .iface, properties? := some (.ofList []) }, true⟩
    let message (levels : Nat) := Message.failure (.mismatch "prop" .interface (.boxed levels))
    ∀ levels, (s.check (c levels)).diagnostics.getLast? = some ⟨"ctx", message levels, .log⟩ ∧
      (levels ≤ 128 → ∃ rendering, (message levels).text =
        "Expected property prop to match given interface, but instead got value " ++ rendering) ∧
      (128 < levels →
        (message levels).text = "Expected property prop to match given interface") := by
  intro s c message levels
  have leads : s.registry.Leads (.builtin .iface) (.builtin .iface)
      (.builtin Composite.interface.type) :=
    Registry.leads_builtins .iface
  -- No array is a record, whatever it holds.
  have rejected : (s.check (c levels)).result = .ok false := by
    rw [check_eq_follow, plan_of_builtin leads]
    cases levels <;> rfl
  obtain ⟨last, shallow, deep⟩ :=
    rendering_limit_is_exact.2 s (c levels) .interface _ leads rfl rfl rfl rejected
  refine ⟨last, fun few => ?_, fun many => ?_⟩
  -- A value of so few levels has no longer chain than that.
  · have short (links : List Value) (chain : (Value.boxed levels).Chain links) :
        links.length ≤ 128 := by
      refine Nat.le_of_not_lt fun long => ?_
      have deeper := Value.lt_nesting_iff.mpr ⟨links, chain, long⟩
      rw [Value.nesting_boxed] at deeper
      omega
    obtain ⟨rendering, -, shown⟩ := shallow short
    exact ⟨rendering, shown⟩
  · exact deep (Value.lt_nesting_iff.mp (many.trans_eq (Value.nesting_boxed levels).symm))

end Session

end PropShape
