import PropShape.Proofs.Validation.Reach

/-!
# `PropShape.Proofs.Validation.Origin`: where a report comes from

The reports of an evaluation come in one list, whatever check made them.
`Session.Tells` relates a single check to the reports that it makes itself,
apart from those of its nested checks.

* `Session.exists_reaches_of_mem_diagnostics`: every report was made by a
  check that the evaluation reached. So what is known about the checks on a
  chain of moves is known about reports.
* `Reaches.context_eq`: they all speak about the same object.
* `Reaches.logErrors_eq_false`: beyond an alternative of a union no check
  reports a failure of the data.
* `Reaches.eq_true`: if the verdict is true, so is the verdict of every check
  that is reached without going through an alternative.
* `Session.diagnostics_ne_nil`: a check that may report does not come to the
  verdict false in silence.
-/

set_option autoImplicit false

namespace PropShape

namespace Session

/-- A report that a check makes itself: that its declaration cannot be used, or, if it may
report failures, that the value is not what was asked for. -/
inductive Tells (s : Session) (c : Check) : Diagnostic → Prop
  | misconfiguration {m : Misconfiguration} (h : s.plan c = .misconfigured m) :
    Tells s c ⟨c.context, .misconfiguration m, .log⟩
  | failure {failure : Failure} (loud : c.logErrors = true)
    (rejected : (s.check c).result ≠ .ok true) :
    Tells s c ⟨c.context, .failure failure, s.onFailure⟩

variable {s t : Session} {c inner : Check} {move : Move} {moves : List Move} {d : Diagnostic}

/-! ## Reports of a single check -/

/-- The only report of an expectation is that it was not met. -/
theorem of_mem_diagnostics_expect {passed : Bool} {failure : Failure}
    (h : d ∈ (s.expect c passed failure).diagnostics) :
    passed = false ∧ c.logErrors = true ∧ d = ⟨c.context, .failure failure, s.onFailure⟩ := by
  cases passed with
  | true => cases h
  | false =>
    change d ∈ (s.fail c failure).diagnostics at h
    unfold fail at h
    split at h
    · next loud =>
      -- The answer after the report reports nothing.
      rcases Run.mem_diagnostics_bind.mp h with h | ⟨-, -, h⟩
      · have reported : d ∈ (if s.sink.keeps s.onFailure then
            [⟨c.context, .failure failure, s.onFailure⟩] else []) := h
        split at reported
        · exact ⟨rfl, loud, List.mem_singleton.mp reported⟩
        · cases reported
      · cases h
    · cases h

/-- What is not met is written down before the verdict is false. -/
theorem diagnostics_expect_ne_nil {passed : Bool} {failure : Failure} (loud : c.logErrors = true)
    (h : (s.expect c passed failure).result = .ok false) :
    (s.expect c passed failure).diagnostics ≠ [] := by
  obtain rfl := expect_eq_ok h
  change (s.fail c failure).result = _ at h
  show (s.fail c failure).diagnostics ≠ []
  have unfolded : s.fail c failure =
      (s.sink.warn c.context (.failure failure) s.onFailure >>= fun _ => pure false) := if_pos loud
  rw [unfolded] at h ⊢
  cases policy : s.onFailure with
  | throw =>
    -- A raised failure is no verdict.
    rw [policy] at h
    cases h
  | log =>
    rw [Run.bind_diagnostics]
    show (if s.sink.keeps .log then _ else []) ++ _ ≠ []
    rw [if_pos s.sink.keeps_log]
    simp

/-! ## Reports of an evaluation -/

/-- A requirement that is not met is no success, whatever was done before. -/
theorem bind_expect_ne_true {run : Run Bool} {failure : Failure} (h : run.result = .ok false) :
    (run >>= fun passed => s.expect c passed failure).result ≠ .ok true := by
  intro accepted
  obtain ⟨passed, hpassed, accepted⟩ := Run.bind_eq_ok_iff.mp accepted
  rw [h] at hpassed
  cases hpassed
  cases expect_eq_ok accepted

/-- A check that goes through a value part by part rejects it if one requirement is not
met. -/
theorem ne_true_of_settle_false {parts : List Part} {failure fault : Failure}
    (h : s.plan c = .all parts failure) (mem : .settle false fault ∈ parts) :
    (s.check c).result ≠ .ok true := by
  intro accepted
  rw [check_eq_follow, h] at accepted
  obtain ⟨passed, hparts, accepted⟩ := Run.bind_eq_ok_iff.mp accepted
  have verdict : true = passed := expect_eq_ok accepted
  have each := (Run.of_all_map_eq_ok hparts).2.mp verdict.symm
  have settled : (s.expect c false fault).result = .ok true := each _ mem
  cases expect_eq_ok settled

/-- Every report was made by a check that the evaluation reached. -/
theorem exists_reaches_of_mem_diagnostics (built : s.registry.Declarative)
    (h : d ∈ (s.check c).diagnostics) :
    ∃ moves t inner, s.Reaches c moves t inner ∧ t.Tells inner d := by
  induction s, c using check_induction with
  | step s c ih =>
    -- A report of a nested check was made by a check that the nested one reached.
    have nested : ∀ {move t inner}, s.Makes c move t inner → d ∈ (t.check inner).diagnostics →
        ∃ moves u target, s.Reaches c moves u target ∧ u.Tells target d := by
      intro move t inner first reported
      have built' : t.registry.Declarative := first.calls.registry_eq ▸ built
      obtain ⟨moves, u, target, rest, tells⟩ := ih t inner first.calls built' reported
      exact ⟨move :: moves, u, target, .head first rest, tells⟩
    -- A report of the check itself that the value is rejected.
    have own : ∀ {passed failure}, d ∈ (s.expect c passed failure).diagnostics →
        (s.check c).result ≠ .ok true → ∃ moves u target, s.Reaches c moves u target ∧
          u.Tells target d := by
      intro passed failure reported rejected
      obtain ⟨-, loud, rfl⟩ := of_mem_diagnostics_expect reported
      exact ⟨[], s, c, .refl s c, .failure loud rejected⟩
    have runs : s.check c = s.follow c (s.plan c) := check_eq_follow s c
    rw [runs] at h
    cases hplan : s.plan c with
    | raise e =>
      rw [hplan] at h
      cases h
    | pass =>
      rw [hplan] at h
      cases h
    | settle passed failure =>
      rw [hplan] at h runs
      obtain ⟨rfl, -, -⟩ := of_mem_diagnostics_expect h
      refine own h fun accepted => ?_
      rw [runs] at accepted
      cases expect_eq_ok accepted
    | misconfigured m =>
      rw [hplan] at h
      rw [follow, misconfigured_diagnostics, List.mem_singleton] at h
      subst h
      exact ⟨[], s, c, .refl s c, .misconfiguration hplan⟩
    | enter name inner =>
      rw [hplan] at h
      exact nested (.expand hplan) h
    | all parts failure =>
      rw [hplan] at h runs
      rcases Run.mem_diagnostics_bind.mp h with h | ⟨passed, hparts, h⟩
      · obtain ⟨before, part, after, rfl, earlier, h⟩ := Run.of_mem_diagnostics_all_map h
        cases part with
        | check inner => exact nested (.part hplan earlier) h
        | settle passed fault =>
          obtain ⟨rfl, -, -⟩ := of_mem_diagnostics_expect h
          exact own h (ne_true_of_settle_false hplan (List.mem_append_right _ List.mem_cons_self))
      · obtain ⟨rfl, -, -⟩ := of_mem_diagnostics_expect h
        refine own h ?_
        rw [runs]
        exact bind_expect_ne_true hparts
    | any alternatives failure =>
      rw [hplan] at h runs
      rcases Run.mem_diagnostics_bind.mp h with h | ⟨passed, htried, h⟩
      · obtain ⟨before, inner, after, rfl, earlier, h⟩ := Run.of_mem_diagnostics_any_map h
        exact nested (.alternative hplan earlier) h
      · obtain ⟨rfl, -, -⟩ := of_mem_diagnostics_expect h
        refine own h ?_
        rw [runs]
        exact bind_expect_ne_true htried
    | host rule => exact absurd hplan (plan_ne_host built)

/-- A check that may report failures comes to the verdict false only after a report. -/
theorem diagnostics_ne_nil (built : s.registry.Declarative) (loud : c.logErrors = true)
    (h : (s.check c).result = .ok false) : (s.check c).diagnostics ≠ [] := by
  induction s, c using check_induction with
  | step s c ih =>
    -- What is reported at the end of a rule is not taken back.
    have last : ∀ {run : Run Bool} {failure : Failure},
        (run >>= fun passed => s.expect c passed failure).result = .ok false →
        (run >>= fun passed => s.expect c passed failure).diagnostics ≠ [] := by
      intro run failure h silent
      obtain ⟨passed, hrun, h⟩ := Run.bind_eq_ok_iff.mp h
      rw [Run.bind_of_ok hrun] at silent
      exact diagnostics_expect_ne_nil loud h (List.append_eq_nil_iff.mp silent).2
    rw [check_eq_follow] at h ⊢
    cases hplan : s.plan c with
    | raise e =>
      rw [hplan] at h
      cases h
    | pass =>
      rw [hplan] at h
      cases h
    | settle passed failure =>
      rw [hplan] at h
      exact diagnostics_expect_ne_nil loud h
    | misconfigured m =>
      rw [follow, misconfigured_diagnostics]
      simp
    | enter name inner =>
      rw [hplan] at h
      obtain ⟨stored, -, -, rfl⟩ := stored_of_plan hplan
      exact ih _ _ (.enter hplan) built loud h
    | all parts failure =>
      rw [hplan] at h
      exact last h
    | any alternatives failure =>
      rw [hplan] at h
      exact last h
    | host rule => exact absurd hplan (plan_ne_host built)

/-! ## What is the same all along a chain -/

/-- A nested check speaks about the same object. -/
theorem Makes.context_eq (h : s.Makes c move t inner) : inner.context = c.context := by
  cases h with
  | part h => cases descends_of_plan h (List.mem_append_right _ List.mem_cons_self) <;> rfl
  | expand h =>
    obtain ⟨stored, -, -, rfl⟩ := stored_of_plan h
    rfl
  | alternative h =>
    obtain ⟨-, descriptor, -, rfl⟩ :=
      alternative_of_plan h (List.mem_append_right _ List.mem_cons_self)
    rfl

/-- All checks that are reached are made in the same context. -/
theorem Reaches.context_eq (h : s.Reaches c moves t inner) : inner.context = c.context := by
  induction h with
  | refl => rfl
  | head first rest ih => exact ih.trans first.context_eq

/-- A check that reports nothing asks for checks that report nothing. -/
theorem Makes.silent (h : s.Makes c move t inner) (silent : c.logErrors = false) :
    inner.logErrors = false := by
  -- Parts and stored schemas inherit the flag, alternatives have it off.
  cases h with
  | part h =>
    cases descends_of_plan h (List.mem_append_right _ List.mem_cons_self) <;> exact silent
  | expand h =>
    obtain ⟨stored, -, -, rfl⟩ := stored_of_plan h
    exact silent
  | alternative h =>
    obtain ⟨-, descriptor, -, rfl⟩ :=
      alternative_of_plan h (List.mem_append_right _ List.mem_cons_self)
    rfl

/-- A silent check reaches silent checks only. -/
theorem Reaches.silent (h : s.Reaches c moves t inner) (silent : c.logErrors = false) :
    inner.logErrors = false := by
  induction h with
  | refl => exact silent
  | head first rest ih => exact ih (first.silent silent)

/-- Beyond an alternative nothing is reported about the data. -/
theorem Reaches.logErrors_eq_false (h : s.Reaches c moves t inner) (inside : .alternative ∈ moves) :
    inner.logErrors = false := by
  -- Either the first step enters the alternative, or a later one does.
  induction h with
  | refl => cases inside
  | head first rest ih =>
    rcases List.mem_cons.mp inside with rfl | inside
    -- From the alternative on nothing switches the reports on again.
    · refine rest.silent ?_
      cases first with
      | alternative h =>
        obtain ⟨-, descriptor, -, rfl⟩ :=
          alternative_of_plan h (List.mem_append_right _ List.mem_cons_self)
        rfl
    · exact ih inside

/-- If a check passes, so do the nested checks that are no alternatives. -/
theorem Makes.eq_true (h : s.Makes c move t inner) (required : move ≠ .alternative)
    (accepted : (s.check c).result = .ok true) : (t.check inner).result = .ok true := by
  rw [check_eq_follow] at accepted
  cases h with
  | part h =>
    rw [h] at accepted
    obtain ⟨passed, hparts, accepted⟩ := Run.bind_eq_ok_iff.mp accepted
    -- The verdict of the whole is that of its parts, each of which has passed.
    have verdict : true = passed := expect_eq_ok accepted
    have each := (Run.of_all_map_eq_ok hparts).2.mp verdict.symm
    exact each (.check inner) (List.mem_append_right _ List.mem_cons_self)
  | expand h =>
    rw [h] at accepted
    exact accepted
  | alternative => exact absurd rfl required

/-- In a check that answers true, every check that is reached answers true too, unless it was
one of several alternatives. -/
theorem Reaches.eq_true (h : s.Reaches c moves t inner) (required : .alternative ∉ moves)
    (accepted : (s.check c).result = .ok true) : (t.check inner).result = .ok true := by
  induction h with
  | refl => exact accepted
  | head first rest ih =>
    obtain ⟨hmove, hmoves⟩ := List.ne_and_not_mem_of_not_mem_cons required
    exact ih hmoves (first.eq_true (Ne.symm hmove) accepted)

end Session

end PropShape
