import PropShape.Proofs.Validation.Silence
import PropShape.Trace

/-!
# `PropShape.Proofs.Validation.Sinks`: the two sinks are interchangeable

A memory sink keeps a report and then raises it, if the policy says so; a
tracing sink emits a report as a warning unless it is raised. So the two keep
different reports, and must still lead to the same results.
`Run.Traced` compares the recorded run with the traced one: both end alike,
and of the reports that were recorded the traced run keeps those that were
logged.

* `Run.congruence_traced`: the relation goes along with putting runs together,
  since reports are only ever added at the end and nothing but an error tells
  what follows about them.
* `Session.check_traced`: checks are related under either policy, since the
  report of a single failure is (`Run.traced_warn`).
* `sinks_are_interchangeable`: so are validation, the validation of whole
  objects and that of updates, and single reports. There the statement is about
  the events that a log shows: the warnings among them are the logged reports.
-/

set_option autoImplicit false

namespace PropShape

/-- The report was made under the policy that keeps a run going. -/
def Diagnostic.isLogged (d : Diagnostic) : Bool := d.onFailure == .log

/-- The traced run ends like the recorded one, and keeps the reports that were logged. -/
structure Run.Traced {α : Type} (recorded traced : Run α) : Prop where
  result : traced.result = recorded.result
  diagnostics : traced.diagnostics = recorded.diagnostics.filter Diagnostic.isLogged

namespace Run

variable {α β : Type} {recorded traced : Run α}

/-- A run is traced step by step. -/
theorem Traced.bind {next onward : α → Run β} (first : recorded.Traced traced)
    (rest : ∀ a, (next a).Traced (onward a)) : (recorded >>= next).Traced (traced >>= onward) := by
  obtain ⟨result, diagnostics⟩ := bind_of_same_result
    (fun ds es => ds = es.filter Diagnostic.isLogged)
    (fun logged logged' => by rw [List.filter_append, logged, logged'])
    first.result first.diagnostics fun a => ⟨(rest a).result, (rest a).diagnostics⟩
  exact ⟨result, diagnostics⟩

/-- A run that does nothing is traced by itself. -/
theorem traced_pure (a : α) : (pure a : Run α).Traced (pure a) := ⟨rfl, rfl⟩

/-- An error is the same in a traced run. -/
theorem traced_raise (e : PropError) : (raise e : Run α).Traced (raise e) := ⟨rfl, rfl⟩

/-- Traced runs are put together as the recorded ones are. -/
theorem congruence_traced : Congruence @Traced where
  pure := traced_pure
  bind := Traced.bind

/-- What a sink does with a report depends on nothing but the policy, and the sinks differ in
what they keep of a raised one. -/
theorem traced_warn (context : String) (message : Message) (policy : OnFailure) :
    (Sink.memory.warn context message policy).Traced
      (Sink.tracing.warn context message policy) := by
  cases policy <;> exact ⟨rfl, rfl⟩

end Run

namespace Session

variable {policy : OnFailure}

/-- A mistake in the declaration is logged under either policy, so both sinks keep it. -/
theorem misconfigured_traced (s : Session) (c : Check) (m : Misconfiguration) :
    ((s.under .memory policy).misconfigured c m).Traced
      ((s.under .tracing policy).misconfigured c m) :=
  (Run.traced_warn c.context (.misconfiguration m) .log).bind fun _ => Run.traced_pure false

/-- A check that reports to the one sink is related to the same check with the other. -/
theorem check_traced (s : Session) (built : s.registry.Declarative) (c : Check) :
    ((s.under .memory policy).check c).Traced ((s.under .tracing policy).check c) :=
  related_under Run.congruence_traced
    (fun context failure => Run.traced_warn context (.failure failure) policy)
    misconfigured_traced (fun e _ => Run.traced_raise e) built

end Session

namespace Validator

variable {registry : Registry} {options : ValidationOptions}

/-- A report goes to both sinks alike. -/
theorem report_traced (context : String) (failure : Failure) :
    (report ⟨registry, .memory, options⟩ context failure).Traced
      (report ⟨registry, .tracing, options⟩ context failure) := by
  unfold report
  dsimp only
  split
  · exact Run.traced_warn context (.failure failure) options.onFailure
  · exact Run.traced_pure ()

/-- A validator that traces goes in step with one that records. -/
theorem inStep_traced (built : registry.Declarative) :
    InStep @Run.Traced ⟨registry, .memory, options⟩ ⟨registry, .tracing, options⟩ where
  report := report_traced
  check _ _ _ _ := Session.check_traced (.start registry .memory options.onFailure) built _

/-- Settings change the options of a validator, and neither its registry nor its sink. -/
theorem exists_withSettings (registry : Registry) (options : ValidationOptions)
    (settings : Settings) :
    ∃ options', ∀ sink, withSettings ⟨registry, sink, options⟩ settings =
      ⟨registry, sink, options'⟩ := by
  unfold withSettings
  split
  · exact ⟨{ options with onFailure := .throw }, fun _ => rfl⟩
  · exact ⟨options, fun _ => rfl⟩

end Validator

/-! ## What a log shows -/

/-- The warnings among the events that a log shows. -/
def Event.warnings (events : List Event) : List Event :=
  events.filter fun event => event.level == "WARN"

/-- The traced run ends like the recorded one, and the warnings among its events are the
reports that were logged in the recorded run, in the same order. -/
structure Run.Shows {α : Type} (recorded traced : Run α) (events : List Event) : Prop where
  result : traced.result = recorded.result
  warnings : Event.warnings events = (recorded.diagnostics.filter Diagnostic.isLogged).map .warned

/-- The events of a traced run show the diagnostics that a recorded run keeps. -/
theorem Run.Traced.shows {α : Type} {recorded traced : Run α} (h : recorded.Traced traced) :
    recorded.Shows traced (Sink.tracing.events traced.diagnostics) where
  result := h.result
  warnings := by
    rw [← h.diagnostics, Event.warnings, Sink.events, List.filter_eq_self]
    exact List.forall_mem_map.mpr fun d _ => rfl

namespace Validator

/-- The summary of a validated object is no warning. -/
theorem warnings_eventsOfProperties (v : Validator) (context : String)
    (run : Run PropertiesReport) :
    Event.warnings (v.eventsOfProperties context run) =
      Event.warnings (v.sink.events run.diagnostics) := by
  unfold eventsOfProperties Event.warnings
  split
  · rw [List.filter_append]
    exact List.append_nil _
  · rfl

/-- The two sinks are interchangeable. Under any options and settings, the validation of a
value, of a whole object and of an update, and a single report end alike with both of them;
and the warnings that the tracing sink emits are the reports that the memory sink recorded
under the logging policy. -/
theorem sinks_are_interchangeable (registry : Registry) (built : registry.Declarative)
    (options : ValidationOptions) :
    let recording : Validator := ⟨registry, .memory, options⟩
    let tracing : Validator := ⟨registry, .tracing, options⟩
    (∀ context path value descriptor,
      let traced := tracing.validate context path value descriptor
      (recording.validate context path value descriptor).Shows traced
        (tracing.sink.events traced.diagnostics)) ∧
    (∀ context object schema settings,
      let traced := tracing.validateProperties context object schema settings
      (recording.validateProperties context object schema settings).Shows traced
        (tracing.eventsOfProperties context traced)) ∧
    (∀ context name old new descriptor settings,
      let traced := tracing.validateUpdate context name old new descriptor settings
      (recording.validateUpdate context name old new descriptor settings).Shows traced
        (tracing.sink.events traced.diagnostics)) ∧
    ∀ context failure,
      let traced := tracing.report context failure
      (recording.report context failure).Shows traced
        (tracing.sink.events traced.diagnostics) := by
  intro recording tracing
  -- Settings change the options of both validators in the same way.
  have inStep : ∀ settings : Settings,
      InStep @Run.Traced (recording.withSettings settings) (tracing.withSettings settings) := by
    intro settings
    obtain ⟨options', same⟩ := exists_withSettings registry options settings
    rw [same, same]
    exact inStep_traced built
  have together : InStep @Run.Traced recording tracing := inStep_traced built
  refine ⟨?_, ?_, ?_, ?_⟩
  · intro context path value descriptor
    exact (together.validate Run.congruence_traced context path value descriptor).shows
  · intro context object schema settings traced
    have run := (inStep settings).validateProperties Run.congruence_traced rfl context object schema
    refine ⟨run.result, ?_⟩
    -- The summary of the object is an event of its own, and no warning.
    rw [warnings_eventsOfProperties]
    exact run.shows.warnings
  · intro context name old new descriptor settings traced
    have run := (inStep settings).validateUpdate Run.congruence_traced rfl context name old new
      descriptor
    exact run.shows
  · intro context failure
    exact (together.report context failure).shows

/-- A union of which the single alternative is a mistake, where failures are raised. The
mistake is a warning, the failure is an error instead. -/
theorem sinks_are_interchangeable_union :
    let traced := validate ⟨.builtins, .tracing, ⟨true, .throw⟩⟩ "list" "head" .null undeclaredItems
    Registry.builtins.Declarative ∧
      traced.result = .error (.failed (.failure (.noAlternative "head" ["arrayOf"]))) ∧
      Event.warnings (Sink.tracing.events traced.diagnostics) =
        [.warned ⟨"list", .misconfiguration .noArrayElement, .log⟩] := by
  intro traced
  -- The recorded run is evaluated; the theorem tells about the traced one.
  have recorded : validate ⟨.builtins, .memory, ⟨true, .throw⟩⟩ "list" "head" .null
      undeclaredItems =
      ⟨[⟨"list", .misconfiguration .noArrayElement, .log⟩,
        ⟨"list", .failure (.noAlternative "head" ["arrayOf"]), .throw⟩],
        .error (.failed (.failure (.noAlternative "head" ["arrayOf"])))⟩ := by
    rw [validate_of_defined rfl, Session.check_of_builtin (Registry.resolve_builtins .oneOfType),
      Session.checkBuiltin_eq_follow]
    show Run.any [Session.check _ _] >>= (fun passed => _) = _
    rw [Session.check_of_builtin (Registry.resolve_builtins .arrayOf),
      Session.checkBuiltin_eq_follow]
    rfl
  have shows := (sinks_are_interchangeable .builtins .builtins ⟨true, .throw⟩).1 "list" "head"
    .null undeclaredItems
  rw [recorded] at shows
  exact ⟨.builtins, shows.result, shows.warnings⟩

end Validator

end PropShape
