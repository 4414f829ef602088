import PropShape.Proofs.Validation.Parallel

/-!
# `PropShape.Proofs.Validation.Silence`: switching reports off

A check carries a flag that says whether it reports failures of the data.
Every rule hands the flag on to the checks that it asks for, and a union
switches it off. Mistakes in the declaration are reported whatever the flag
is. `Run.Muted` says what the flag may change: the quiet run ends like the
loud one, and of the reports of the loud run it keeps those about the
declaration.

* `Run.congruence_muted`: the relation goes along with putting runs together.
* `Session.check_muted`: a check and its silent copy are related, since they
  ask for the same nested checks in the same places. The policy of the silent
  one is arbitrary; it is never consulted.
* `silence_keeps_verdicts`: hence validation without reports comes to the
  verdict or to the error of validation with reports.
-/

set_option autoImplicit false

namespace PropShape

/-- Whether a report is about the declaration, and not about the data. -/
def Message.isMisconfiguration : Message → Bool
  | .misconfiguration _ => true
  | .failure _ => false

/-- The quiet run ends like the loud run, and reports what the loud run reports about the
declaration. -/
structure Run.Muted {α : Type} (loud quiet : Run α) : Prop where
  result : quiet.result = loud.result
  /-- What ends the runs early is a mistake in the declaration. -/
  configuration : ∀ e, quiet.result = .error e → e.isConfiguration = true
  diagnostics : quiet.diagnostics = loud.diagnostics.filter (·.message.isMisconfiguration)
  logged : ∀ d ∈ quiet.diagnostics, d.onFailure = .log

namespace Run

variable {α β : Type} {loud quiet : Run α}

/-- A run is muted step by step. -/
theorem Muted.bind {next onward : α → Run β} (first : loud.Muted quiet)
    (rest : ∀ a, (next a).Muted (onward a)) : (loud >>= next).Muted (quiet >>= onward) := by
  have same := first.result
  -- An error ends both runs; otherwise the reports of the rest come after those so far.
  cases h : loud.result with
  | error e =>
    rw [h] at same
    rw [bind_of_error h, bind_of_error same]
    refine ⟨rfl, fun e' he => ?_, first.diagnostics, first.logged⟩
    cases he
    exact first.configuration e same
  | ok a =>
    rw [h] at same
    rw [bind_of_ok h, bind_of_ok same]
    have onwards := rest a
    refine ⟨onwards.result, onwards.configuration, ?_, ?_⟩
    · show quiet.diagnostics ++ (onward a).diagnostics = _
      rw [List.filter_append, first.diagnostics, onwards.diagnostics]
    · exact List.forall_mem_append.mpr ⟨first.logged, onwards.logged⟩

/-- A run that does nothing is muted by itself. -/
theorem muted_pure (a : α) : (pure a : Run α).Muted (pure a) :=
  ⟨rfl, by simp, rfl, by simp⟩

/-- An error of configuration is the same in a muted run. -/
theorem muted_raise {e : PropError} (configuration : e.isConfiguration = true) :
    (raise e : Run α).Muted (raise e) := by
  refine ⟨rfl, fun e' h => ?_, rfl, by simp [raise]⟩
  cases h
  exact configuration

/-- Muted runs are put together as the loud ones are. -/
theorem congruence_muted : Congruence @Muted where
  pure := muted_pure
  bind := Muted.bind

/-- Of a logged failure the quiet run keeps nothing. -/
theorem muted_warn (sink : Sink) (context : String) (failure : Failure) :
    (sink.warn context (.failure failure) .log).Muted (pure ()) := by
  have dropped : (sink.warn context (.failure failure) .log).diagnostics.filter
      (·.message.isMisconfiguration) = [] := by
    cases sink <;> rfl
  exact ⟨rfl, by simp, dropped.symm, by simp⟩

end Run

/-- The same check, without reports. -/
def Check.silent (c : Check) : Check := { c with logErrors := false }

namespace Session

variable {s : Session} {sink : Sink} {policy : OnFailure}

/-- A silent expectation comes to the same verdict and reports nothing. -/
theorem expect_muted (s : Session) (c : Check) (passed : Bool) (failure : Failure) :
    ((s.under sink .log).expect c passed failure).Muted
      ((s.under sink policy).expect c.silent passed failure) := by
  cases passed with
  | true => exact Run.muted_pure true
  | false =>
    show ((s.under sink .log).fail c failure).Muted (pure false)
    unfold fail
    split
    -- The quiet run makes no report where the loud one makes it.
    · have quiet : (pure false : Run Bool) = (pure () >>= fun _ => pure false) :=
        (pure_bind () fun _ => pure false).symm
      rw [quiet]
      exact (Run.muted_warn sink c.context failure).bind fun _ => Run.muted_pure false
    · exact Run.muted_pure false

/-- A mistake in the declaration is reported either way. -/
theorem misconfigured_muted (s : Session) (c : Check) (m : Misconfiguration) :
    ((s.under sink .log).misconfigured c m).Muted
      ((s.under sink policy).misconfigured c.silent m) := by
  refine ⟨rfl, fun e h => (by cases h), ?_, ?_⟩
  · rw [misconfigured_diagnostics, misconfigured_diagnostics]
    rfl
  · rw [misconfigured_diagnostics]
    simp

/-- A logging check, and its silent copy under some policy. -/
inductive Silenced (sink : Sink) (policy : OnFailure) : Pairing
  | intro (s : Session) (c : Check) (built : s.registry.Declarative) :
    Silenced sink policy (s.under sink .log) c (s.under sink policy) c.silent

/-- A silenced session goes in step with the loud one. -/
theorem parallel_silenced : (Silenced sink policy).Parallel @Run.Muted where
  congruence := Run.congruence_muted
  built := by
    rintro _ _ c _ ⟨s, _, built⟩
    exact built
  same := by
    rintro _ _ c _ ⟨s, _, built⟩
    exact ⟨rfl, rfl, rfl⟩
  nested := by
    rintro _ _ c _ inner other ⟨s, _, built⟩ h
    -- The silent copy of a nested check is the nested check of the silent copy.
    cases h <;> exact .intro s _ built
  report := by
    rintro _ _ c _ ⟨s, _, built⟩ passed failure
    exact expect_muted s c passed (failure c.path)
  misconfigured := by
    rintro _ _ c _ ⟨s, _, built⟩ m
    exact misconfigured_muted s c m
  unresolved := by
    intro registry name e h
    exact Run.muted_raise (Registry.isConfiguration_of_resolve h)
  schema := by
    rintro _ _ c _ name stored ⟨s, _, built⟩ leads
    by_cases active : (name, c.path) ∈ s.active
    · -- Both evaluations are at the same cycle.
      have loud := plan_of_active (s := s.under sink .log) leads active
      have quiet := plan_of_active (s := s.under sink policy) (c := c.silent) leads active
      rw [check_eq_follow, check_eq_follow, loud, quiet]
      exact .inl (Run.muted_raise rfl)
    · exact .inr ⟨active, active, .intro (s.enter name c.path) _ built⟩

/-- A check and its silent copy end alike, whatever the policy of the silent one is. -/
theorem check_muted (s : Session) (built : s.registry.Declarative) (sink : Sink)
    (policy : OnFailure) (c : Check) :
    ((s.under sink .log).check c).Muted ((s.under sink policy).check c.silent) :=
  related_of_parallel parallel_silenced (.intro s c built)

/-- Where failures are logged nothing is raised, so what ends a check early is a mistake in
the declaration. -/
theorem isConfiguration_of_eq_error (built : s.registry.Declarative) (log : s.onFailure = .log)
    {c : Check} {e : PropError} (h : (s.check c).result = .error e) : e.isConfiguration = true := by
  have muted := check_muted s built s.sink .log c
  rw [under_self log] at muted
  exact muted.configuration e (muted.result.trans h)

/-- There a check ends in the same way whether it reports or not. -/
theorem result_eq_of_silent_eq (built : s.registry.Declarative) (log : s.onFailure = .log)
    {c d : Check} (same : c.silent = d.silent) : (s.check c).result = (s.check d).result := by
  have first := check_muted s built s.sink .log c
  have second := check_muted s built s.sink .log d
  rw [under_self log] at first second
  rw [← first.result, ← second.result, same]

end Session

namespace Validator

/-- A validator without reports goes in step with one that logs. Reports are made by the
logging one only. -/
theorem inStep_muted {registry : Registry} (built : registry.Declarative) (sink : Sink)
    (policy : OnFailure) :
    InStep @Run.Muted ⟨registry, sink, { logErrors := true, onFailure := .log }⟩
      ⟨registry, sink, { logErrors := false, onFailure := policy }⟩ where
  report := Run.muted_warn sink
  check _ _ _ _ := Session.check_muted (.start registry sink .log) built sink policy _

/-- Switching reports off changes no verdict. Without them validation ends, under either
policy, as it does with reports under the logging policy, never in a raised failure; and
what is still reported are the mistakes in the declaration that are reported with them. -/
theorem silence_keeps_verdicts (registry : Registry) (built : registry.Declarative) (sink : Sink)
    (policy : OnFailure) (context path : String) (value : Value) (descriptor : Descriptor) :
    (validate ⟨registry, sink, { logErrors := true, onFailure := .log }⟩ context path value
        descriptor).Muted
      (validate ⟨registry, sink, { logErrors := false, onFailure := policy }⟩ context path value
        descriptor) ∧
    ∀ message, (validate ⟨registry, sink, { logErrors := false, onFailure := policy }⟩ context path
      value descriptor).result ≠ .error (.failed message) := by
  have muted := (inStep_muted built sink policy).validate Run.congruence_muted context path value
    descriptor
  refine ⟨muted, fun message failed => ?_⟩
  have configuration := muted.configuration _ failed
  cases configuration

/-- A union with a single alternative, an array whose items are not declared. -/
def undeclaredItems : Descriptor :=
  { type := .builtin .oneOfType, alternatives := [.ofType (.builtin .arrayOf)] }

/-- Null is rejected with and without reports. Both runs report that the items are not
declared, and one of them that there is no alternative for null. -/
theorem silence_keeps_verdicts_union :
    Registry.builtins.Declarative ∧
      (validate ⟨.builtins, .memory, { logErrors := true, onFailure := .log }⟩ "list" "head" .null
        undeclaredItems).diagnostics =
        [⟨"list", .misconfiguration .noArrayElement, .log⟩,
          ⟨"list", .failure (.noAlternative "head" ["arrayOf"]), .log⟩] ∧
      (validate ⟨.builtins, .memory, { logErrors := false, onFailure := .throw }⟩ "list" "head"
        .null undeclaredItems).diagnostics =
        [⟨"list", .misconfiguration .noArrayElement, .log⟩] := by
  have built : Registry.builtins.Declarative := .builtins
  have loud : (validate ⟨.builtins, .memory, { logErrors := true, onFailure := .log }⟩ "list"
      "head" .null undeclaredItems).diagnostics =
      [⟨"list", .misconfiguration .noArrayElement, .log⟩,
        ⟨"list", .failure (.noAlternative "head" ["arrayOf"]), .log⟩] := by
    rw [validate_of_defined rfl, Session.check_of_builtin (Registry.resolve_builtins .oneOfType),
      Session.checkBuiltin_eq_follow]
    show (Run.any [Session.check _ _] >>= fun passed => _).diagnostics = _
    rw [Session.check_of_builtin (Registry.resolve_builtins .arrayOf),
      Session.checkBuiltin_eq_follow]
    rfl
  refine ⟨built, loud, ?_⟩
  -- The silent run need not be evaluated: its reports are among the loud ones.
  have muted := (silence_keeps_verdicts .builtins built .memory .throw "list" "head" .null
    undeclaredItems).1
  rw [muted.diagnostics, loud]
  rfl

end Validator

end PropShape
