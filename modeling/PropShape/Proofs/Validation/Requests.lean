import PropShape.Proofs.Validation.Transparency

/-!
# `PropShape.Proofs.Validation.Requests`: marks that nothing comes back to

While a schema is expanded it is marked in the session, with the path. The
mark is looked at in one place only: when a check comes to this schema at this
path. A rule of a host may check anything, so nothing can be said in general
about where its checks lead; what can be said is that an evaluation that does
not come back to the schema is the same with the mark and without it
(`check_expanding`). No assumption is made about the registry.

* `RuleProgram.Requests`: the checks that the program of a rule may ask for.
* `Session.Asks`: the checks that a check may lead to in one step. These are
  its nested checks (`Session.Calls`), and what the rule of a host requests.
* `Session.ComesTo`: on the way of a check there is a check against the schema
  of a name, at a path.
-/

set_option autoImplicit false

namespace PropShape

/-- A program may ask for a check: there are outcomes of its earlier steps with which it does.
A report may end in any way but with a passed check. -/
inductive RuleProgram.Requests : RuleProgram → Check → Prop
  | now {request : Check} {next : Except PropError Bool → RuleProgram} :
    Requests (.check request next) request
  | later {request asked : Check} {next : Except PropError Bool → RuleProgram}
    {outcome : Except PropError Bool} (h : Requests (next outcome) asked) :
    Requests (.check request next) asked
  | reported {about asked : Check} {text : String} {next : Except PropError Bool → RuleProgram}
    {outcome : Except PropError Bool} (possible : outcome ≠ .ok true)
    (h : Requests (next outcome) asked) : Requests (.fail about text next) asked
  | misconfigured {about asked : Check} {text : String} {next : RuleProgram}
    (h : Requests next asked) : Requests (.misconfigured about text next) asked

namespace Session

/-- The checks, with their sessions, that a check may lead to in one step. -/
inductive Asks (s : Session) (c : Check) : Session → Check → Prop
  | calls {t : Session} {inner : Check} (h : s.Calls c t inner) : Asks s c t inner
  | host {rule : HostRule} {rest : Nat} {request : Check} (h : s.plan c = .host rule)
    (budget : s.hostBudget = rest + 1)
    (requests : (rule ⟨s.onFailure, s.registry.size⟩ c).Requests request) :
    Asks s c { s with hostBudget := rest } request

/-- Nested checks leave alone how many rules of hosts may be nested. -/
theorem Calls.hostBudget_eq {s t : Session} {c inner : Check} (h : s.Calls c t inner) :
    t.hostBudget = s.hostBudget := by
  cases h <;> rfl

/-- Induction over checks, with rules of hosts: what passes to a check from those that it may
lead to in one step holds of all. Each rule of a host uses up some of the budget, and between
two of them the induction is that over nested checks. -/
theorem asks_induction {motive : Session → Check → Prop}
    (step : ∀ s c, (∀ t inner, s.Asks c t inner → motive t inner) → motive s c)
    (s : Session) (c : Check) : motive s c := by
  -- A request of a host rule may be about anything, but it costs budget.
  induction budget : s.hostBudget using Nat.strong_induction_on generalizing s c with
  | _ n fewer =>
    -- With the budget unchanged the induction is that on checks.
    induction s, c using check_induction with
    | step s c nested =>
      refine step s c fun t inner asks => ?_
      cases asks with
      | calls h => exact nested t inner h (h.hostBudget_eq.trans budget)
      | @host rule rest _ h left requests =>
        have less : rest < n := by omega
        exact fewer rest less { s with hostBudget := rest } inner rfl

/-- The check is one against the schema of the name, at the path, or it may lead to one. -/
inductive ComesTo (name : TypeName) (path : String) : Session → Check → Prop
  | here {s : Session} {c : Check} {stored : Descriptor}
    (leads : s.registry.Leads c.descriptor.type name (.schema stored)) (at_path : c.path = path) :
    ComesTo name path s c
  | later {s t : Session} {c inner : Check} (asks : s.Asks c t inner)
    (h : ComesTo name path t inner) : ComesTo name path s c

variable {s : Session} {c : Check} {name : TypeName} {path : String}
  {marks : List (TypeName × String)}

/-- Reporting a failure is no way to pass. -/
theorem fail_ne_true (failure : Failure) : (s.fail c failure).result ≠ .ok true := by
  intro passed
  have reported : (s.expect c false failure).result = .ok true := passed
  cases expect_eq_ok reported

/-- A program does the same with other marks if every check that it may ask for does. It looks
at the session in no other way. -/
theorem perform_expanding (program : RuleProgram)
    (same : ∀ request, program.Requests request →
      (s.expanding marks).check request = s.check request) :
    (s.expanding marks).perform program = s.perform program := by
  induction program with
  | answer passed => rfl
  | raise e => rfl
  | fail about text next ih =>
    -- The report is the same, since it is made under the same policy.
    have onward := ih (s.fail about (.other text)).result fun request h =>
      same request (.reported (fail_ne_true _) h)
    exact congrArg (s.fail about (.other text)).followedBy onward
  | misconfigured about text next ih =>
    have onward := ih fun request h => same request (.misconfigured h)
    exact congrArg (s.misconfigured about (.other text)).followedBy onward
  | check request next ih =>
    have onward := ih (s.check request).result fun asked h => same asked (.later h)
    rw [perform_check, perform_check, same request .now, onward]

/-- The mark plays no part in the plan of a check that does not come to the schema at the
path. -/
theorem plan_expanding (adds : Adds (name = ·) path s.active marks)
    (away : ¬ ComesTo name path s c) :
    (s.expanding marks).plan c = s.plan c := by
  show (s.expanding marks).planOf c (s.registry.resolve c.descriptor.type) =
    s.planOf c (s.registry.resolve c.descriptor.type)
  cases h : s.registry.resolve c.descriptor.type with
  | error e => rfl
  | ok resolved =>
    obtain ⟨owner, rule⟩ := resolved
    cases rule with
    | schema stored =>
      -- A plan looks for one mark only, that of the schema which it is about to enter.
      have other : ¬ (c.path = path ∧ name = owner) := by
        rintro ⟨at_path, rfl⟩
        exact away (.here (Registry.resolve_eq_ok_iff.mp h) at_path)
      have marked : (owner, c.path) ∈ (s.expanding marks).active ↔ (owner, c.path) ∈ s.active :=
        (adds owner c.path).trans (or_iff_left other)
      simp only [planOf, List.contains_iff_mem, marked]
    | _ => rfl

/-- An evaluation that does not come to the schema at the path is the same with and without
the mark for it. -/
theorem check_expanding (adds : Adds (name = ·) path s.active marks)
    (away : ¬ ComesTo name path s c) :
    (s.expanding marks).check c = s.check c := by
  induction s, c using asks_induction generalizing marks with
  | step s c ih =>
    have onward : ∀ t inner, s.Asks c t inner → ¬ ComesTo name path t inner :=
      fun t inner asks h => away (.later asks h)
    have nested : ∀ inner, s.Calls c s inner →
        (s.expanding marks).check inner = s.check inner := fun inner h =>
      ih s inner (.calls h) adds (onward s inner (.calls h))
    rw [check_eq_follow, check_eq_follow, plan_expanding adds away]
    cases h : s.plan c with
    | enter owner inner =>
      have asks : s.Asks c (s.enter owner c.path) inner := .calls (.enter h)
      exact ih _ inner asks (adds.enter (owner, c.path)) (onward _ inner asks)
    | all parts failure =>
      have same : parts.map ((s.expanding marks).checkPart c) = parts.map (s.checkPart c) := by
        refine List.map_congr_left fun part mem => ?_
        cases part with
        | check inner => exact nested inner (.part h mem)
        | settle passed fault => rfl
      exact congrArg (fun runs => Run.all runs >>= fun passed => s.expect c passed failure) same
    | any alternatives failure =>
      have same : alternatives.map (s.expanding marks).check = alternatives.map s.check :=
        List.map_congr_left fun inner mem => nested inner (.alternative h mem)
      exact congrArg (fun runs => Run.any runs >>= fun passed => s.expect c passed failure) same
    | host rule =>
      cases budget : s.hostBudget with
      | zero =>
        have budget' : (s.expanding marks).hostBudget = 0 := budget
        unfold follow
        rw [budget, budget']
      | succ rest =>
        have budget' : (s.expanding marks).hostBudget = rest + 1 := budget
        unfold follow
        rw [budget, budget']
        -- The program of the rule is the same in both, since it is told nothing about marks.
        refine perform_expanding (s := { s with hostBudget := rest }) _ fun request requests => ?_
        have asks : s.Asks c { s with hostBudget := rest } request := .host h budget requests
        exact ih _ request asks adds (onward _ request asks)
    | _ => rfl

end Session

end PropShape
