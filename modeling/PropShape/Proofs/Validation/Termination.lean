import PropShape.Proofs.Validation.Calls

/-!
# `PropShape.Proofs.Validation.Termination`: validation ends

`Session.Evaluates` says how validation proceeds without promising that it
ends: which rule is invoked next, what it asks for, and when it goes on or
gives up. A derivation is finite, and its index counts the invocations of
rules. Aliases are followed one at a time (`Registry.Walks`), and nested
checks may be as large as they like. Nothing in it refers to a measure.

* `Evaluates.run_eq`: an evaluation that ends does so as the session says.
* `exists_evaluates`: in a registry built from the built-in types by aliases
  and schemas, every evaluation ends. The induction is over nested checks,
  which are smaller (`Calls.closer`); the work lists of a single rule are
  finite.
* `validate_terminates`: hence every validation ends after finitely many
  invocations of rules, with a verdict or an error, and every nested check is
  smaller than the one that asks for it.

The schemas of the registry may refer to themselves and to each other in any
way, and aliases may point in circles or away from a built-in type.
-/

set_option autoImplicit false

namespace PropShape

namespace Registry

variable {registry : Registry} {start : TypeName}

/-- Following aliases from `current`, after the names in `met` and for the sake of `start`,
has an outcome. -/
inductive Walks (registry : Registry) (start : TypeName) :
    TypeName → List TypeName → Except PropError (TypeName × Rule) → Prop
  | unknown {current : TypeName} {met : List TypeName} (h : registry.get? current = none) :
    Walks registry start current met (.error (.unknownType current.text))
  | owner {current : TypeName} {met : List TypeName} {rule : Rule}
    (h : registry.get? current = some (.rule rule)) :
    Walks registry start current met (.ok (current, rule))
  | circle {current target : TypeName} {met : List TypeName}
    (h : registry.get? current = some (.alias target)) (old : current ∈ met) :
    Walks registry start current met (.error (.aliasCycle start.text))
  | onward {current target : TypeName} {met : List TypeName}
    {outcome : Except PropError (TypeName × Rule)}
    (h : registry.get? current = some (.alias target)) (new : current ∉ met)
    (rest : Walks registry start target (current :: met) outcome) :
    Walks registry start current met outcome

/-- The walk through the aliases is one of finitely many steps. -/
theorem walks_walk (current : TypeName) (met : List TypeName) :
    registry.Walks start current met (registry.walk start current met) := by
  fun_induction walk registry start current met with
  | case1 current met h => exact .unknown h
  | case2 current met rule h => exact .owner h
  | case3 current met target h old => exact .circle h old
  | case4 current met target h new ih => exact .onward h new ih

/-- A walk of finitely many steps ends as the walk of the resolver does. -/
theorem Walks.eq_walk {current : TypeName} {met : List TypeName}
    {outcome : Except PropError (TypeName × Rule)}
    (h : registry.Walks start current met outcome) : outcome = registry.walk start current met := by
  -- Along the walk: the function takes the branch that the rule of the relation names.
  induction h with
  | unknown h => rw [walk_eq, h]
  | owner h => rw [walk_eq, h]
  | circle h old =>
    rw [walk_eq, h]
    simp only [if_pos old]
  | onward h new rest ih =>
    rw [walk_eq, h]
    simp only [if_neg new, ih]

end Registry

namespace Session

/-- What an evaluation has to do. -/
inductive Work
  | check (s : Session) (c : Check)
  | plan (s : Session) (c : Check) (next : Plan)
  | part (s : Session) (c : Check) (part : Part)
  | parts (s : Session) (c : Check) (parts : List Part)
  | alternatives (s : Session) (alternatives : List Check)

/-- The run that the work comes to. -/
def Work.run : Work → Run Bool
  | .check s c => s.check c
  | .plan s c next => s.follow c next
  | .part s c one => s.checkPart c one
  | .parts s c many => Run.all (many.map (s.checkPart c))
  | .alternatives s many => Run.any (many.map s.check)

/-- `Evaluates work n run`: the work invokes `n` rules, one after the other or one inside
the other, and then ends as `run`. -/
inductive Evaluates : Work → Nat → Run Bool → Prop
  | unresolved {s : Session} {c : Check} {e : PropError}
    (h : s.registry.Walks c.descriptor.type c.descriptor.type [] (.error e)) :
    Evaluates (.check s c) 0 (.raise e)
  /-- The rule of the type is invoked. -/
  | invoke {s : Session} {c : Check} {owner : TypeName × Rule} {n : Nat} {run : Run Bool}
    (h : s.registry.Walks c.descriptor.type c.descriptor.type [] (.ok owner))
    (rest : Evaluates (.plan s c (s.planOf c (.ok owner))) n run) :
    Evaluates (.check s c) (n + 1) run
  | raise {s : Session} {c : Check} {e : PropError} : Evaluates (.plan s c (.raise e)) 0 (.raise e)
  | pass {s : Session} {c : Check} : Evaluates (.plan s c .pass) 0 (pure true)
  | settle {s : Session} {c : Check} {passed : Bool} {failure : Failure} :
    Evaluates (.plan s c (.settle passed failure)) 0 (s.expect c passed failure)
  | misconfigured {s : Session} {c : Check} {m : Misconfiguration} :
    Evaluates (.plan s c (.misconfigured m)) 0 (s.misconfigured c m)
  | enter {s : Session} {c inner : Check} {name : TypeName} {n : Nat} {run : Run Bool}
    (rest : Evaluates (.check (s.enter name c.path) inner) n run) :
    Evaluates (.plan s c (.enter name inner)) n run
  | all {s : Session} {c : Check} {parts : List Part} {failure : Failure} {n : Nat}
    {run : Run Bool} (rest : Evaluates (.parts s c parts) n run) :
    Evaluates (.plan s c (.all parts failure)) n (run >>= fun passed => s.expect c passed failure)
  | any {s : Session} {c : Check} {alternatives : List Check} {failure : Failure} {n : Nat}
    {run : Run Bool} (rest : Evaluates (.alternatives s alternatives) n run) :
    Evaluates (.plan s c (.any alternatives failure)) n
      (run >>= fun passed => s.expect c passed failure)
  | partSettle {s : Session} {c : Check} {passed : Bool} {failure : Failure} :
    Evaluates (.part s c (.settle passed failure)) 0 (s.expect c passed failure)
  | partCheck {s : Session} {c inner : Check} {n : Nat} {run : Run Bool}
    (rest : Evaluates (.check s inner) n run) : Evaluates (.part s c (.check inner)) n run
  | noParts {s : Session} {c : Check} : Evaluates (.parts s c []) 0 (pure true)
  /-- After a part with a verdict come the others. -/
  | partsOnward {s : Session} {c : Check} {part : Part} {parts : List Part} {passed : Bool}
    {n m : Nat} {run others : Run Bool} (first : Evaluates (.part s c part) n run)
    (verdict : run.result = .ok passed) (rest : Evaluates (.parts s c parts) m others) :
    Evaluates (.parts s c (part :: parts)) (n + m)
      (run >>= fun passed => others >>= fun rest => pure (passed && rest))
  /-- After an error comes nothing. -/
  | partsEnd {s : Session} {c : Check} {part : Part} {parts : List Part} {e : PropError} {n : Nat}
    {run : Run Bool} (first : Evaluates (.part s c part) n run) (error : run.result = .error e) :
    Evaluates (.parts s c (part :: parts)) n run
  | noAlternatives {s : Session} : Evaluates (.alternatives s []) 0 (pure false)
  /-- After an alternative that does not pass come the others. -/
  | alternativesOnward {s : Session} {c : Check} {alternatives : List Check} {n m : Nat}
    {run others : Run Bool} (first : Evaluates (.check s c) n run)
    (verdict : run.result = .ok false) (rest : Evaluates (.alternatives s alternatives) m others) :
    Evaluates (.alternatives s (c :: alternatives)) (n + m) (run >>= fun _ => others)
  /-- After a success or an error comes nothing. -/
  | alternativesEnd {s : Session} {c : Check} {alternatives : List Check} {n : Nat}
    {run : Run Bool} (first : Evaluates (.check s c) n run) (ended : run.result ≠ .ok false) :
    Evaluates (.alternatives s (c :: alternatives)) n run

/-- An evaluation that ends does so as the session says. -/
theorem Evaluates.run_eq {work : Work} {n : Nat} {run : Run Bool} (h : Evaluates work n run) :
    run = work.run := by
  -- One rule of the relation at a time; each is a branch of the evaluation.
  induction h with
  | @unresolved s c e h =>
    have hplan := plan_of_error (s := s) h.eq_walk.symm
    rw [Work.run, check_eq_follow, hplan]
    rfl
  | @invoke s c owner n run h rest ih =>
    have hresolve : s.registry.resolve c.descriptor.type = .ok owner := h.eq_walk.symm
    rw [ih, Work.run, Work.run, check_eq_follow, plan, hresolve]
  | raise => rfl
  | pass => rfl
  | settle => rfl
  | misconfigured => rfl
  | enter rest ih => exact ih
  | all rest ih =>
    rw [ih]
    rfl
  | any rest ih =>
    rw [ih]
    rfl
  | partSettle => rfl
  | partCheck rest ih => exact ih
  | noParts => rfl
  | partsOnward first verdict rest ihFirst ihRest =>
    rw [ihFirst, ihRest]
    rfl
  | partsEnd first error ih =>
    subst ih
    exact (Run.all_cons_of_error error).symm
  | noAlternatives => rfl
  | alternativesOnward first verdict rest ihFirst ihRest =>
    subst ihFirst ihRest
    exact (Run.any_cons_of_false verdict).symm
  | alternativesEnd first ended ih =>
    subst ih
    exact (Run.any_cons_of_ended ended).symm

/-- However the end of an evaluation was found, it is the run that the work comes to. -/
theorem Evaluates.of_run {work : Work} {n : Nat} {run : Run Bool} (h : Evaluates work n run) :
    Evaluates work n work.run := by
  rw [← h.run_eq]
  exact h

/-! ## Every evaluation ends -/

variable {s : Session} {c : Check}

/-- The parts of a rule are gone through, if the checks among them end. -/
theorem exists_evaluates_parts {parts : List Part}
    (ends : ∀ inner, .check inner ∈ parts → ∃ n, Evaluates (.check s inner) n (s.check inner)) :
    ∃ n, Evaluates (.parts s c parts) n (Run.all (parts.map (s.checkPart c))) := by
  induction parts with
  | nil => exact ⟨0, .noParts⟩
  | cons part rest ih =>
    obtain ⟨n, first⟩ : ∃ n, Evaluates (.part s c part) n (s.checkPart c part) := by
      cases part with
      | check inner =>
        obtain ⟨n, h⟩ := ends inner List.mem_cons_self
        exact ⟨n, .partCheck h⟩
      | settle passed failure => exact ⟨0, .partSettle⟩
    obtain ⟨m, others⟩ := ih fun inner hmem => ends inner (List.mem_cons_of_mem _ hmem)
    rw [List.map_cons, Run.all]
    -- The others are evaluated only after a verdict.
    cases hresult : (s.checkPart c part).result with
    | ok passed => exact ⟨n + m, .partsOnward first hresult others⟩
    | error e =>
      rw [Run.bind_of_error hresult, ← hresult]
      exact ⟨n, .partsEnd first hresult⟩

/-- The alternatives of a union are tried, if each of them ends. -/
theorem exists_evaluates_alternatives {alternatives : List Check}
    (ends : ∀ inner ∈ alternatives, ∃ n, Evaluates (.check s inner) n (s.check inner)) :
    ∃ n, Evaluates (.alternatives s alternatives) n (Run.any (alternatives.map s.check)) := by
  induction alternatives with
  | nil => exact ⟨0, .noAlternatives⟩
  | cons inner rest ih =>
    obtain ⟨n, first⟩ := ends inner List.mem_cons_self
    obtain ⟨m, others⟩ := ih fun other hmem => ends other (List.mem_cons_of_mem _ hmem)
    -- Only a rejection leads on to the next alternative.
    by_cases onward : (s.check inner).result = .ok false
    · have second := Evaluates.alternativesOnward first onward others
      exact ⟨n + m, second.of_run⟩
    · have ended : Evaluates (.alternatives s (inner :: rest)) n (s.check inner) :=
        .alternativesEnd first onward
      exact ⟨n, ended.of_run⟩

/-- A plan is carried out, if the checks that it asks for end. -/
theorem exists_evaluates_plan (built : s.registry.Declarative)
    (ends : ∀ t inner, s.Calls c t inner → ∃ n, Evaluates (.check t inner) n (t.check inner)) :
    ∃ n, Evaluates (.plan s c (s.plan c)) n (s.follow c (s.plan c)) := by
  -- Plans without nested checks end at once, the others when these have ended.
  cases h : s.plan c with
  | raise e => exact ⟨0, .raise⟩
  | pass => exact ⟨0, .pass⟩
  | settle passed failure => exact ⟨0, .settle⟩
  | misconfigured m => exact ⟨0, .misconfigured⟩
  | enter name inner =>
    obtain ⟨n, rest⟩ := ends _ _ (.enter h)
    exact ⟨n, .enter rest⟩
  | all parts failure =>
    obtain ⟨n, rest⟩ := exists_evaluates_parts fun inner mem => ends _ _ (.part h mem)
    exact ⟨n, .all rest⟩
  | any alternatives failure =>
    obtain ⟨n, rest⟩ := exists_evaluates_alternatives fun inner mem => ends _ _ (.alternative h mem)
    exact ⟨n, .any rest⟩
  | host rule => exact absurd h (plan_ne_host built)

/-- Every check ends, after finitely many invocations of rules. -/
theorem exists_evaluates (built : s.registry.Declarative) :
    ∃ n, Evaluates (.check s c) n (s.check c) := by
  induction s, c using check_induction with
  | step s c ih =>
    have walks : s.registry.Walks c.descriptor.type c.descriptor.type []
        (s.registry.walk c.descriptor.type c.descriptor.type []) := Registry.walks_walk _ _
    cases h : s.registry.resolve c.descriptor.type with
    | error e =>
      -- The name leads to no rule, so none is invoked.
      rw [show s.registry.walk _ _ _ = .error e from h] at walks
      exact ⟨0, (Evaluates.unresolved walks).of_run⟩
    | ok owner =>
      rw [show s.registry.walk _ _ _ = .ok owner from h] at walks
      have hplan : s.planOf c (.ok owner) = s.plan c := by rw [plan, h]
      -- Nested checks end by induction; their sessions have the same registry.
      obtain ⟨n, rest⟩ := exists_evaluates_plan built fun t inner calls =>
        ih t inner calls (calls.registry_eq ▸ built)
      rw [← hplan] at rest
      exact ⟨n + 1, (Evaluates.invoke walks rest).of_run⟩

end Session

namespace Validator

/-- `v.Evaluates context path value descriptor n run`: validating the value invokes `n`
rules and ends as `run`. Undefined is settled without any. -/
inductive Evaluates (v : Validator) (context path : String) (value : Value)
    (descriptor : Descriptor) : Nat → Run Bool → Prop
  | optional (undefined : value.isUndefined = true) (h : descriptor.required = false) :
    Evaluates v context path value descriptor 0 (pure true)
  | missing (undefined : value.isUndefined = true) (h : descriptor.required = true) :
    Evaluates v context path value descriptor 0
      (v.report context (.missing path) >>= fun _ => pure false)
  | defined {n : Nat} {run : Run Bool} (h : value.isUndefined = false)
    (rest : Session.Evaluates (.check (.start v.registry v.sink v.options.onFailure)
      ⟨context, path, value, descriptor, v.options.logErrors⟩) n run) :
    Evaluates v context path value descriptor n run

variable {v : Validator} {context path : String} {value : Value} {descriptor : Descriptor}

/-- An evaluation of a validation that ends does so as the validator says. -/
theorem Evaluates.run_eq {n : Nat} {run : Run Bool}
    (h : v.Evaluates context path value descriptor n run) :
    run = v.validate context path value descriptor := by
  cases h with
  | optional undefined h => rw [validate_of_undefined undefined, if_neg (by simp [h])]
  | missing undefined h => rw [validate_of_undefined undefined, if_pos h]
  | defined h rest =>
    rw [validate_of_defined h]
    exact rest.run_eq

/-- Validation comes to an end in finitely many steps. -/
theorem exists_evaluates (built : v.registry.Declarative) :
    ∃ n run, v.Evaluates context path value descriptor n run := by
  cases hvalue : value.isUndefined with
  | false =>
    have started : (Session.start v.registry v.sink v.options.onFailure).registry.Declarative :=
      built
    obtain ⟨n, rest⟩ := Session.exists_evaluates started
    exact ⟨n, _, .defined hvalue rest⟩
  | true =>
    cases hrequired : descriptor.required with
    | false => exact ⟨0, _, .optional hvalue hrequired⟩
    | true => exact ⟨0, _, .missing hvalue hrequired⟩

/-- Validation ends. Whatever aliases and schemas were registered, the evaluation of every
input is finite: it invokes some number of rules and ends in a verdict or in an error, and
no other way of evaluating the input ends differently. Each nested check in this registry
goes into a strict part of the value, or keeps value and path and enters a schema that was
not active there, or keeps both and goes into a strict part of the descriptor. -/
theorem validate_terminates (v : Validator) (built : v.registry.Declarative)
    (context path : String) (value : Value) (descriptor : Descriptor) :
    (∃ n run, v.Evaluates context path value descriptor n run ∧
      ((∃ verdict, run.result = .ok verdict) ∨ ∃ e, run.result = .error e)) ∧
    (∀ n run, v.Evaluates context path value descriptor n run →
      run = v.validate context path value descriptor) ∧
    (∀ s c t inner, s.registry = v.registry → Session.Calls s c t inner →
      Session.Closer s c t inner) := by
  -- Uniqueness and the measure hold as such; it is left to show that there is a run.
  refine ⟨?_, fun n run h => h.run_eq, fun s c t inner _ calls => calls.closer⟩
  obtain ⟨n, run, h⟩ := exists_evaluates built
  refine ⟨n, run, h, ?_⟩
  cases run.result with
  | ok verdict => exact .inl ⟨verdict, rfl⟩
  | error e => exact .inr ⟨e, rfl⟩

/-- It ends where schemas lead back to themselves and aliases go around in a circle. -/
theorem validate_terminates_tangled :
    Registry.tangled.Declarative ∧
      Relation.TransGen Registry.tangled.AliasOf (.builtin .string) (.builtin .string) ∧
      ∃ n run, Evaluates ⟨.tangled, .memory, {}⟩ "list" "head" (.object .plain)
        (.ofType (.named "loop")) n run ∧
        ((∃ verdict, run.result = .ok verdict) ∨ ∃ e, run.result = .error e) :=
  ⟨Registry.declarative_tangled, Registry.circle_tangled,
    (validate_terminates ⟨.tangled, .memory, {}⟩ Registry.declarative_tangled _ _ _ _).1⟩

end Validator

end PropShape
