import PropShape.Proofs.Validation.Object

/-!
# `PropShape.Proofs.Validation.Options`: verdicts under other options

Options say whether failures are reported and what becomes of the reports. A
verdict that is come to under some options is the verdict under all options
that let the validation come to an end. Two statements make this precise.

* `Validator.validate_upheld`: a verdict under any options, for any context
  and sink, is the verdict of a validator that logs failures. Only the
  converse may fail, since a failure may be raised.
* `Validator.validate_eq_ok_iff_logging`: it does fail exactly if reports are
  made, failures are raised, and the logging validator has a failure to
  report.

So if two validations come to the same verdicts and report the same when
failures are logged, then they come to the same verdicts under every options
(`Validator.eq_ok_iff_of_logging`).
-/

set_option autoImplicit false

namespace PropShape

/-- Whatever result the first run comes to, the second one comes to it as well. -/
def Run.UpheldBy (α : Type) (run other : Run α) : Prop :=
  ∀ a, run.result = .ok a → other.result = .ok a

/-- The raising run comes to a result exactly if the logging run does so without having a
failure of the data to report, and then the results are the same. -/
def Run.Unraised (α : Type) (logging raising : Run α) : Prop :=
  ∀ a, raising.result = .ok a ↔
    logging.result = .ok a ∧ ∀ d ∈ logging.diagnostics, d.message.isMisconfiguration = true

namespace Run

/-- Runs that uphold others are put together as these are. -/
theorem congruence_upheldBy : Congruence UpheldBy where
  pure a := fun _ h => h
  bind := by
    intro α β run other next onward first rest b h
    obtain ⟨a, ha, hb⟩ := bind_eq_ok_iff.mp h
    exact bind_eq_ok_iff.mpr ⟨a, first a ha, rest a b hb⟩

/-- Runs that differ in what is raised are put together as they are. -/
theorem congruence_unraised : Congruence Unraised where
  pure a := fun _ => by simp
  bind := by
    intro α β logging raising next onward first rest b
    rw [bind_eq_ok_iff, bind_eq_ok_iff]
    -- What is raised on the way is what would be logged on the way.
    constructor
    · rintro ⟨a, ha, hb⟩
      obtain ⟨ha, silent⟩ := (first a).mp ha
      obtain ⟨hb, others⟩ := (rest a b).mp hb
      refine ⟨⟨a, ha, hb⟩, ?_⟩
      rw [bind_of_ok ha]
      exact List.forall_mem_append.mpr ⟨silent, others⟩
    · rintro ⟨⟨a, ha, hb⟩, silent⟩
      rw [bind_of_ok ha] at silent
      obtain ⟨before, others⟩ := List.forall_mem_append.mp silent
      exact ⟨a, (first a).mpr ⟨ha, before⟩, (rest a b).mpr ⟨hb, others⟩⟩

/-- A logged failure is one to report, and a raised one is no result. -/
theorem unraised_warn (sink drain : Sink) (context : String) (failure : Failure) :
    Unraised Unit (sink.warn context (.failure failure) .log)
      (drain.warn context (.failure failure) .throw) := by
  intro a
  refine iff_of_false (fun h => by cases h) ?_
  rintro ⟨-, silent⟩
  have told := silent ⟨context, .failure failure, .log⟩ (by simp [Sink.warn])
  cases told

end Run

namespace Session

variable {s t : Session} {c d : Check} {sink drain : Sink}

/-! ## A verdict under some options -/

/-- The same value against the same descriptor at the same path, in two sessions of which
the second one logs failures. The objects and the options may be different. -/
inductive Logged : Pairing
  | intro {s t : Session} {c d : Check} (built : s.registry.Declarative)
    (registry : s.registry = t.registry) (active : s.active = t.active)
    (log : t.onFailure = .log) (path : c.path = d.path) (value : c.value = d.value)
    (descriptor : c.descriptor = d.descriptor) : Logged s c t d

/-- A session that logs goes in step with one that raises. -/
theorem parallel_logged : Logged.Parallel Run.UpheldBy where
  congruence := Run.congruence_upheldBy
  built := by
    rintro s t c d ⟨built, -, -, -, -, -, -⟩
    exact built
  same := by
    rintro s t c d ⟨-, registry, -, -, -, value, descriptor⟩
    exact ⟨registry, value, descriptor⟩
  nested := by
    rintro s t c d inner other ⟨built, registry, active, log, path, value, descriptor⟩ h
    cases h with
    | item index item element =>
      exact .intro built registry active log (by rw [path]) rfl rfl
    | key key item element => exact .intro built registry active log (by rw [path]) rfl rfl
    | alternative alternative => exact .intro built registry active log path value rfl
  report := by
    rintro s t c d ⟨-, -, -, log, -, -, -⟩ passed failure verdict h
    rw [expect_eq_ok h]
    exact expect_of_log log
  misconfigured := by
    rintro s t c d - m verdict h
    exact h
  unresolved := fun _ _ h => h
  schema := by
    rintro s t c d name stored ⟨built, registry, active, log, path, value, descriptor⟩ leads
    by_cases marked : (name, c.path) ∈ s.active
    · -- A cycle is no verdict.
      have cycle : s.check c = .raise (.descriptorCycle c.path) :=
        check_of_active (Registry.resolve_eq_ok_iff.mpr leads) marked
      refine .inl fun verdict h => ?_
      rw [cycle] at h
      cases h
    · have marked' : (name, d.path) ∉ t.active := by rwa [← path, ← active]
      refine .inr ⟨marked, marked', .intro built registry ?_ log path value rfl⟩
      show (name, c.path) :: s.active = (name, d.path) :: t.active
      rw [path, active]

/-- A verdict is upheld where failures are logged. -/
theorem check_upheld (h : Logged s c t d) : Run.UpheldBy Bool (s.check c) (t.check d) :=
  related_of_parallel parallel_logged h

/-! ## A verdict where failures are raised -/

/-- A mistake in the declaration is never raised. -/
theorem misconfigured_unraised (s : Session) (c : Check) (m : Misconfiguration) :
    Run.Unraised Bool ((s.under sink .log).misconfigured c m)
      ((s.under drain .throw).misconfigured c m) := by
  intro verdict
  rw [misconfigured_result, misconfigured_result, misconfigured_diagnostics]
  simp [Message.isMisconfiguration]

/-- A check that raises no failure comes to the same verdict as one that only logs. -/
theorem check_unraised (built : s.registry.Declarative) (c : Check) :
    Run.Unraised Bool ((s.under sink .log).check c) ((s.under drain .throw).check c) := by
  refine related_under Run.congruence_unraised (Run.unraised_warn sink drain)
    misconfigured_unraised ?_ built
  intro e _ verdict
  exact iff_of_false (fun h => by cases h) fun h => by cases h.1

end Session

namespace Validator

variable {v w : Validator} {registry : Registry} {sink : Sink} {context context' path : String}
  {value : Value} {descriptor descriptor' : Descriptor} {verdict : Bool}

/-- The only verdict about undefined is whether it is allowed. -/
theorem eq_not_required_of_undefined (h : value.isUndefined = true)
    (hok : (v.validate context path value descriptor).result = .ok verdict) :
    verdict = !descriptor.required := by
  rw [validate_of_undefined h] at hok
  cases hrequired : descriptor.required with
  | false =>
    rw [hrequired] at hok
    cases hok
    rfl
  | true =>
    -- A report comes first, and what is answered after it is a rejection.
    rw [hrequired, if_pos rfl] at hok
    obtain ⟨-, -, hok⟩ := Run.bind_eq_ok_iff.mp hok
    cases hok
    rfl

/-- A verdict under any options, on any object, is the verdict of a validator that logs
failures. -/
theorem validate_upheld (built : v.registry.Declarative) (same : v.registry = w.registry)
    (log : w.options.onFailure = .log)
    (h : (v.validate context path value descriptor).result = .ok verdict) :
    (w.validate context' path value descriptor).result = .ok verdict := by
  cases hvalue : value.isUndefined with
  | true =>
    rw [eq_not_required_of_undefined hvalue h]
    exact validate_of_undefined_of_log log hvalue
  | false =>
    rw [validate_of_defined hvalue] at h ⊢
    -- The context and the options of the check may differ, the rest is the same.
    have pair : Session.Logged (.start v.registry v.sink v.options.onFailure)
        ⟨context, path, value, descriptor, v.options.logErrors⟩
        (.start w.registry w.sink w.options.onFailure)
        ⟨context', path, value, descriptor, w.options.logErrors⟩ :=
      .intro built same rfl log rfl rfl rfl
    exact Session.check_upheld pair verdict h

/-- Where failures are reported and raised, there is a verdict exactly if there is one where
they are logged and no failure is reported on the way to it. -/
theorem validate_eq_ok_iff_logging (built : registry.Declarative)
    (hvalue : value.isUndefined = false) :
    (validate ⟨registry, sink, ⟨true, .throw⟩⟩ context path value descriptor).result =
        .ok verdict ↔
      (validate ⟨registry, sink, ⟨true, .log⟩⟩ context path value descriptor).result =
          .ok verdict ∧
        ∀ d ∈ (validate ⟨registry, sink, ⟨true, .log⟩⟩ context path value descriptor).diagnostics,
          d.message.isMisconfiguration = true := by
  rw [validate_of_defined hvalue, validate_of_defined hvalue]
  exact Session.check_unraised (s := .start registry sink .log) built _ verdict

/-- Descriptors that come to the same verdicts about a value, and report the same before
them, when failures are logged, come to the same verdicts under every options. -/
theorem eq_ok_iff_of_logging (built : registry.Declarative) (hvalue : value.isUndefined = false)
    (result : (validate ⟨registry, sink, ⟨true, .log⟩⟩ context path value descriptor).result =
      (validate ⟨registry, sink, ⟨true, .log⟩⟩ context path value descriptor').result)
    (reports : ∀ passed,
      (validate ⟨registry, sink, ⟨true, .log⟩⟩ context path value descriptor).result = .ok passed →
      (validate ⟨registry, sink, ⟨true, .log⟩⟩ context path value descriptor).diagnostics =
        (validate ⟨registry, sink, ⟨true, .log⟩⟩ context path value descriptor').diagnostics)
    (options : ValidationOptions) :
    (validate ⟨registry, sink, options⟩ context path value descriptor).result = .ok verdict ↔
      (validate ⟨registry, sink, options⟩ context path value descriptor').result = .ok verdict := by
  obtain ⟨logErrors, policy⟩ := options
  cases logErrors with
  | false =>
    -- A silent validation ends like one that logs failures.
    have quiet : ∀ descriptor : Descriptor,
        (validate ⟨registry, sink, ⟨false, policy⟩⟩ context path value descriptor).result =
          (validate ⟨registry, sink, ⟨true, .log⟩⟩ context path value descriptor).result := by
      intro descriptor
      rw [validate_of_defined hvalue, validate_of_defined hvalue]
      exact (Session.check_muted (.start registry sink .log) built sink policy
        ⟨context, path, value, descriptor, true⟩).result
    rw [quiet, quiet, result]
  | true =>
    cases policy with
    | log => rw [result]
    | throw =>
      rw [validate_eq_ok_iff_logging built hvalue, validate_eq_ok_iff_logging built hvalue,
        ← result]
      exact and_congr_right fun ended => by rw [reports verdict ended]

end Validator

end PropShape
