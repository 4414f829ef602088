import PropShape.Proofs.Validation.Lockstep

/-!
# `PropShape.Proofs.Validation.Raising`: raising is logging cut off

Raising failures instead of logging them must not change what is found, only
how much of it. `Run.CutOff` compares a logging run with a raising one: the
raising run stops at the first failure of the data that the logging run
writes down, and otherwise the two are the same.

* `Run.congruence_cutOff`: the relation goes along with putting runs
  together. After the cut the logging run may go on in any way, as long as it
  never raises.
* `Session.check_cutOff`: checks are related, since the report of a single
  failure is (`Run.cutOff_warn`). The alternatives of a union report no
  failure of the data, so nothing is raised there either.
* `raising_cuts_off_logging`: so are validation, the validation of whole
  objects and that of updates, no matter whether the options of the validator
  or the settings ask for raising.
-/

set_option autoImplicit false

namespace PropShape

/-- What was reported about which object, apart from the policy. -/
def Diagnostic.content (d : Diagnostic) : String × Message := (d.context, d.message)

/-- A mistake in the declaration was written down. -/
def Diagnostic.IsMisconfiguration (d : Diagnostic) : Prop :=
  d.onFailure = .log ∧ ∃ m, d.message = .misconfiguration m

/-- The raising run is the logging run up to the first failure of the data. -/
structure Run.CutOff {α : Type} (logging raising : Run α) : Prop where
  /-- Logging never raises a failure. -/
  logs : ∀ message, logging.result ≠ .error (.failed message)
  /-- The raised failure is the last report, and the only one that is not a mistake in the
  declaration. The logging run reported the same up to here. -/
  of_failed : ∀ message, raising.result = .error (.failed message) →
    raising.diagnostics.map Diagnostic.content <+: logging.diagnostics.map Diagnostic.content ∧
    ∃ earlier last, raising.diagnostics = earlier ++ [last] ∧ last.message = message ∧
      last.onFailure = .throw ∧ ∀ d ∈ earlier, d.IsMisconfiguration
  /-- Without a raised failure nothing differs, and no failure was reported. -/
  of_not_failed : (∀ message, raising.result ≠ .error (.failed message)) →
    raising.result = logging.result ∧ raising.diagnostics = logging.diagnostics ∧
    ∀ d ∈ raising.diagnostics, d.IsMisconfiguration

namespace Run

variable {α β : Type}

/-- A run that reports mistakes only, and raises no failure, is cut off nowhere. -/
theorem cutOff_self {run : Run α} (silent : ∀ d ∈ run.diagnostics, d.IsMisconfiguration)
    (logs : ∀ message, run.result ≠ .error (.failed message)) : run.CutOff run where
  logs := logs
  of_failed message failed := absurd failed (logs message)
  of_not_failed _ := ⟨rfl, rfl, silent⟩

/-- After a run that was cut off nothing is raised any more; after one that was not, the
two go on alike. -/
theorem CutOff.bind {logging raising : Run α} {next onward : α → Run β}
    (first : logging.CutOff raising) (rest : ∀ a, (next a).CutOff (onward a)) :
    (logging >>= next).CutOff (raising >>= onward) := by
  have logs : ∀ message, (logging >>= next).result ≠ .error (.failed message) := by
    intro message h
    rcases bind_eq_error_iff.mp h with h | ⟨a, -, h⟩
    · exact first.logs message h
    · exact (rest a).logs message h
  by_cases cut : ∃ message, raising.result = .error (.failed message)
  · obtain ⟨message, failed⟩ := cut
    obtain ⟨upTo, earlier, last, reports⟩ := first.of_failed message failed
    rw [bind_of_error failed]
    refine ⟨logs, fun _ h => ?_, fun h => absurd rfl (h message)⟩
    cases h
    refine ⟨upTo.trans ?_, earlier, last, reports⟩
    -- What the logging run reports after the cut comes at the end.
    rw [bind_diagnostics, List.map_append]
    exact List.prefix_append _ _
  · -- So far the two are one run.
    obtain ⟨hresult, hreports, silent⟩ := first.of_not_failed (not_exists.mp cut)
    obtain rfl : raising = logging := Run.ext hreports hresult
    cases h : raising.result with
    | error e =>
      rw [bind_of_error h, bind_of_error h]
      refine cutOff_self silent fun message failed => cut ⟨message, ?_⟩
      cases failed
      exact h
    | ok a =>
      rw [bind_of_ok h] at logs
      rw [bind_of_ok h, bind_of_ok h]
      refine ⟨logs, fun message failed => ?_, fun notFailed => ?_⟩
      · obtain ⟨upTo, earlier, last, hsplit, hmessage, hpolicy, before⟩ :=
          (rest a).of_failed message failed
        refine ⟨?_, raising.diagnostics ++ earlier, last, ?_, hmessage, hpolicy, ?_⟩
        · rw [List.map_append, List.map_append]
          exact (List.prefix_append_right_inj _).mpr upTo
        · rw [hsplit, List.append_assoc]
        · exact List.forall_mem_append.mpr ⟨silent, before⟩
      · obtain ⟨hresult, hreports, others⟩ := (rest a).of_not_failed notFailed
        exact ⟨hresult, by rw [hreports], List.forall_mem_append.mpr ⟨silent, others⟩⟩

/-- A run that is cut off somewhere is put together with one that goes on. -/
theorem congruence_cutOff : Congruence @CutOff where
  pure a := cutOff_self (by simp) (by simp)
  bind := CutOff.bind

/-- A report of a failure is where the raising run is cut off. -/
theorem cutOff_warn (context : String) (failure : Failure) :
    (Sink.memory.warn context (.failure failure) .log).CutOff
      (Sink.memory.warn context (.failure failure) .throw) where
  logs message h := by cases h
  of_failed message failed := by
    cases failed
    exact ⟨List.prefix_rfl, [], ⟨context, .failure failure, .throw⟩, rfl, rfl, rfl, by simp⟩
  of_not_failed notFailed := absurd rfl (notFailed (.failure failure))

end Run

namespace Session

/-- A mistake in the declaration is written down under either policy. -/
theorem misconfigured_cutOff (s : Session) (c : Check) (m : Misconfiguration) :
    ((s.under .memory .log).misconfigured c m).CutOff
      ((s.under .memory .throw).misconfigured c m) := by
  refine Run.cutOff_self (fun d mem => ?_) fun message h => by cases h
  rw [List.mem_singleton.mp mem]
  exact ⟨rfl, m, rfl⟩

/-- A raising check is the logging one, cut off at the first failure. -/
theorem check_cutOff (s : Session) (built : s.registry.Declarative) (c : Check) :
    ((s.under .memory .log).check c).CutOff ((s.under .memory .throw).check c) := by
  refine related_under Run.congruence_cutOff Run.cutOff_warn misconfigured_cutOff ?_ built
  intro e configuration
  refine Run.cutOff_self (by simp [Run.raise]) fun message h => ?_
  cases h
  cases configuration

end Session

/-! ## Validation -/

namespace Validator

/-- The validator that keeps every report in memory, failures included, under a policy. -/
def recording (registry : Registry) (policy : OnFailure) : Validator :=
  ⟨registry, .memory, { logErrors := true, onFailure := policy }⟩

variable {registry : Registry}

/-- The settings raise failures of a validator that would log them. -/
theorem withSettings_recording (policy : OnFailure) (throwErrors : Bool) (settings : Settings) :
    (recording registry policy).withSettings { settings with throwErrors } =
      recording registry (if throwErrors then .throw else policy) := by
  cases throwErrors <;> rfl

/-- A validator that raises goes in step with one that logs, until it is cut off. -/
theorem inStep_cutOff (built : registry.Declarative) :
    InStep @Run.CutOff (recording registry .log) (recording registry .throw) where
  report := Run.cutOff_warn
  check _ _ _ _ := Session.check_cutOff (.start registry .memory .log) built _

/-- Raising is logging cut off at the first failure of the data. This holds for the
validation of a value, of a whole object and of an update, and whether it is the options of
the validator or the settings that ask for raising. -/
theorem raising_cuts_off_logging (registry : Registry) (built : registry.Declarative) :
    (∀ context path value descriptor,
      ((recording registry .log).validate context path value descriptor).CutOff
        ((recording registry .throw).validate context path value descriptor)) ∧
    ∀ policy throwErrors, policy = .throw ∨ throwErrors = true → ∀ settings : Settings,
      (∀ context object schema,
        ((recording registry .log).validateProperties context object schema
            { settings with throwErrors := false }).CutOff
          ((recording registry policy).validateProperties context object schema
            { settings with throwErrors })) ∧
      ∀ context name old new descriptor,
        ((recording registry .log).validateUpdate context name old new descriptor
            { settings with throwErrors := false }).CutOff
          ((recording registry policy).validateUpdate context name old new descriptor
            { settings with throwErrors }) := by
  have validates := (inStep_cutOff built).validate Run.congruence_cutOff
  refine ⟨validates, fun policy throwErrors raises settings => ?_⟩
  -- Whatever asks for raising, the validator that does the work raises.
  have raising : (recording registry policy).withSettings { settings with throwErrors } =
      recording registry .throw := by
    rw [withSettings_recording]
    rcases raises with rfl | rfl
    · rw [ite_self]
    · rfl
  have inStep : InStep @Run.CutOff
      ((recording registry .log).withSettings { settings with throwErrors := false })
      ((recording registry policy).withSettings { settings with throwErrors }) := by
    rw [raising, withSettings_recording]
    exact inStep_cutOff built
  exact ⟨inStep.validateProperties Run.congruence_cutOff rfl,
    inStep.validateUpdate Run.congruence_cutOff rfl⟩

/-- A failure that is raised: null is no node. -/
theorem raising_cuts_off_logging_null :
    Registry.tangled.Declarative ∧
      ((recording .tangled .throw).validate "list" "head" .null (.ofType (.named "node"))).result =
        .error (.failed (.failure (.mismatch "head" .shape .null))) ∧
      ((recording .tangled .log).validate "list" "head" .null (.ofType (.named "node"))).CutOff
        ((recording .tangled .throw).validate "list" "head" .null (.ofType (.named "node"))) ∧
      ((recording .tangled .log).validateUpdate "list" "head" .undefined .null
          (.ofType (.named "node")) { throwErrors := false }).CutOff
        ((recording .tangled .log).validateUpdate "list" "head" .undefined .null
          (.ofType (.named "node")) { throwErrors := true }) := by
  have cuts := raising_cuts_off_logging .tangled Registry.declarative_tangled
  refine ⟨Registry.declarative_tangled, ?_, cuts.1 _ _ _ _,
    (cuts.2 .log true (.inr rfl) {}).2 _ _ _ _ _⟩
  rw [validate_of_defined rfl,
    Session.check_of_schema (Registry.resolve_eq_ok_iff.mpr Registry.leads_tangled_node)
      (by simp [Session.start]),
    Session.check_of_builtin (Registry.resolve_eq_ok_iff.mpr Registry.leads_tangled_shape),
    Session.checkBuiltin_eq_follow]
  rfl

end Validator

end PropShape
