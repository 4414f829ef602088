import PropShape.Proofs.Schema.Soundness

/-!
# `PropShape.Proofs.Validation.Reporting`: reports and verdicts agree

Rules compute their verdict and make their reports side by side, and unions
silence their alternatives. So it has to be proved that the two tell the same
story when failures are logged:

* no rejection in silence: after the verdict false something was reported;
* no false alarm: after the verdict true nothing was reported, except that a
  declaration inside an alternative of a union cannot be used
  (`Validator.ReportsInside`). An alternative that is tried first and cannot
  be used does not keep a later one from accepting the value;
* in a schema that passes the check there are no such alternatives, so the
  verdict is true exactly if nothing was reported.

`reports_agree_with_verdict` puts these together.
-/

set_option autoImplicit false

namespace PropShape

namespace Validator

/-- The evaluation of a validation reaches a check by some moves. Undefined is settled
without any check. -/
def Reaches (v : Validator) (context path : String) (value : Value) (descriptor : Descriptor)
    (moves : List Move) (t : Session) (inner : Check) : Prop :=
  value.isUndefined = false ∧
    (Session.start v.registry v.sink v.options.onFailure).Reaches
      ⟨context, path, value, descriptor, v.options.logErrors⟩ moves t inner

/-- The report that a declaration cannot be used, made inside an alternative of a union. -/
def ReportsInside (v : Validator) (context path : String) (value : Value)
    (descriptor : Descriptor) (d : Diagnostic) : Prop :=
  ∃ moves t inner m, v.Reaches context path value descriptor moves t inner ∧
    .alternative ∈ moves ∧ t.plan inner = .misconfigured m ∧
    d = ⟨context, .misconfiguration m, .log⟩

/-- The validator that reports failures and logs them. -/
def logging (registry : Registry) (sink : Sink) : Validator :=
  ⟨registry, sink, { logErrors := true, onFailure := .log }⟩

variable {registry : Registry} {sink : Sink} {context path : String} {value : Value}
  {descriptor : Descriptor} {verdict : Bool} {d : Diagnostic}

/-- Validation that logs failures accepts undefined, reports a required property that is
undefined, or checks the value in a fresh session. -/
theorem logging_cases (registry : Registry) (sink : Sink) (context path : String) (value : Value)
    (descriptor : Descriptor) :
    (logging registry sink).validate context path value descriptor = pure true ∨
    (logging registry sink).validate context path value descriptor =
      ⟨[⟨context, .failure (.missing path), .log⟩], .ok false⟩ ∨
    value.isUndefined = false ∧
      (logging registry sink).validate context path value descriptor =
        (Session.start registry sink .log).check ⟨context, path, value, descriptor, true⟩ := by
  cases hvalue : value.isUndefined with
  | false => exact .inr (.inr ⟨rfl, validate_of_defined hvalue⟩)
  | true =>
    rw [validate_of_undefined hvalue]
    cases hrequired : descriptor.required with
    | false => exact .inl (if_neg (by simp))
    | true =>
      refine .inr (.inl ?_)
      rw [if_pos rfl]
      cases sink <;> rfl

/-- The verdict false does not come in silence. -/
theorem diagnostics_ne_nil_of_false (built : registry.Declarative)
    (h : ((logging registry sink).validate context path value descriptor).result = .ok false) :
    ((logging registry sink).validate context path value descriptor).diagnostics ≠ [] := by
  rcases logging_cases registry sink context path value descriptor with run | run | ⟨-, run⟩
  · rw [run] at h
    cases h
  · rw [run]
    simp
  · rw [run] at h ⊢
    exact Session.diagnostics_ne_nil (s := .start registry sink .log) built rfl h

/-- After the verdict true, all that was reported are alternatives that cannot be used. -/
theorem reportsInside_of_true (built : registry.Declarative)
    (h : ((logging registry sink).validate context path value descriptor).result = .ok true)
    (reported : d ∈ ((logging registry sink).validate context path value descriptor).diagnostics) :
    (logging registry sink).ReportsInside context path value descriptor d := by
  rcases logging_cases registry sink context path value descriptor with run | run | ⟨defined, run⟩
  · rw [run] at reported
    cases reported
  · rw [run] at h
    cases h
  · rw [run] at h reported
    obtain ⟨moves, t, inner, reached, tells⟩ :=
      Session.exists_reaches_of_mem_diagnostics (s := .start registry sink .log) built reported
    have inside : .alternative ∈ moves := by
      by_contra outside
      -- Outside of alternatives the check passes, so it had nothing to report.
      have accepted := reached.eq_true outside h
      cases tells with
      | misconfiguration unusable =>
        rw [Session.check_eq_follow, unusable] at accepted
        cases accepted
      | failure loud rejected => exact rejected accepted
    cases tells with
    | @misconfiguration m unusable =>
      refine ⟨moves, t, inner, m, ⟨defined, reached⟩, inside, unusable, ?_⟩
      rw [reached.context_eq]
    | failure loud =>
      rw [reached.logErrors_eq_false inside] at loud
      cases loud

/-- Every report names the object that was validated. -/
theorem context_of_mem_diagnostics (built : registry.Declarative)
    (reported : d ∈ ((logging registry sink).validate context path value descriptor).diagnostics) :
    d.context = context := by
  rcases logging_cases registry sink context path value descriptor with run | run | ⟨-, run⟩
  · rw [run] at reported
    cases reported
  · rw [run, List.mem_singleton] at reported
    rw [reported]
  · rw [run] at reported
    -- Whatever check reported, it was asked for in the same context.
    obtain ⟨moves, t, inner, reached, tells⟩ :=
      Session.exists_reaches_of_mem_diagnostics (s := .start registry sink .log) built reported
    cases tells with
    | misconfiguration => exact reached.context_eq
    | failure => exact reached.context_eq

/-- Reports and verdicts agree where failures are logged. After the verdict false something
was reported. After the verdict true, whatever was reported is that a declaration inside an
alternative cannot be used, and every check outside of alternatives passed. If the
descriptor and all stored schemas pass the check of schemas, the verdict is true exactly if
nothing was reported. And every report names the object that was validated. -/
theorem reports_agree_with_verdict (registry : Registry) (built : registry.Declarative)
    (sink : Sink) (context path : String) (value : Value) (descriptor : Descriptor) :
    let v := logging registry sink
    let run := v.validate context path value descriptor
    (run.result = .ok false → run.diagnostics ≠ []) ∧
    (run.result = .ok true →
      (∀ d ∈ run.diagnostics, v.ReportsInside context path value descriptor d) ∧
      ∀ moves t inner, v.Reaches context path value descriptor moves t inner →
        .alternative ∉ moves → (t.check inner).result = .ok true) ∧
    (registry.Checked → ∀ name, descriptor.checkAt registry name = .ok () →
      ∀ verdict, run.result = .ok verdict → (verdict = true ↔ run.diagnostics = [])) ∧
    ∀ d ∈ run.diagnostics, d.context = context := by
  intro v run
  refine ⟨diagnostics_ne_nil_of_false built, fun accepted => ⟨?_, ?_⟩, ?_, ?_⟩
  · intro d reported
    exact reportsInside_of_true built accepted reported
  · rintro moves t inner ⟨defined, reached⟩ outside
    have start : run = (Session.start registry sink .log).check
        ⟨context, path, value, descriptor, true⟩ := validate_of_defined defined
    rw [start] at accepted
    exact reached.eq_true outside accepted
  -- A checked schema makes no mistakes in the declaration, so a report is about the data.
  · intro checked name passes verdict h
    have usable := Descriptor.checkAt_eq_ok_iff.mp passes
    have declared : run.WellDeclared :=
      validate_wellDeclared (v := v) built checked rfl usable context path value
    cases verdict with
    | false => exact iff_of_false (by simp) (diagnostics_ne_nil_of_false built h)
    | true =>
      refine iff_of_true rfl (List.eq_nil_iff_forall_not_mem.mpr fun d reported => ?_)
      obtain ⟨-, -, -, m, -, -, -, rfl⟩ := reportsInside_of_true built h reported
      exact declared.reports _ reported m rfl
  · intro d reported
    exact context_of_mem_diagnostics built reported

/-- A union whose first alternative cannot be used, and whose second one is null. -/
def unusableOrNull : Descriptor :=
  { type := .builtin .oneOfType
    alternatives := [.ofType (.builtin .arrayOf), .ofType (.builtin .null)] }

/-- Null is accepted, and still there is a report, made inside of the first alternative. -/
theorem reports_agree_with_verdict_union :
    Registry.builtins.Declarative ∧
      ((logging .builtins .memory).validate "list" "head" .null unusableOrNull).result = .ok true ∧
      ((logging .builtins .memory).validate "list" "head" .null unusableOrNull).diagnostics =
        [⟨"list", .misconfiguration .noArrayElement, .log⟩] ∧
      (logging .builtins .memory).ReportsInside "list" "head" .null unusableOrNull
        ⟨"list", .misconfiguration .noArrayElement, .log⟩ := by
  have built : Registry.builtins.Declarative := .builtins
  -- The first alternative is a mistake and counts as a rejection, the second one takes null.
  have run : (logging .builtins .memory).validate "list" "head" .null unusableOrNull =
      ⟨[⟨"list", .misconfiguration .noArrayElement, .log⟩], .ok true⟩ := by
    rw [validate_of_defined rfl, Session.check_of_builtin (Registry.resolve_builtins .oneOfType),
      Session.checkBuiltin_eq_follow]
    show (Run.any [Session.check _ _, Session.check _ _] >>= fun passed => _) = _
    rw [Session.check_of_builtin (Registry.resolve_builtins .arrayOf),
      Session.check_of_builtin (Registry.resolve_builtins .null),
      Session.checkBuiltin_eq_follow, Session.checkBuiltin_eq_follow]
    rfl
  have agrees := reports_agree_with_verdict .builtins built .memory "list" "head" .null
    unusableOrNull
  refine ⟨built, by rw [run], by rw [run], ?_⟩
  exact (agrees.2.1 (by rw [run])).1 _ (by rw [run]; exact List.mem_singleton.mpr rfl)

end Validator

end PropShape
