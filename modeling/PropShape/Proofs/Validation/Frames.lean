import PropShape.Proofs.Validation.Requests

/-!
# `PropShape.Proofs.Validation.Frames`: every check restores the session

`Session.check` hands a session on to nested checks and keeps its own, so it
needs no bookkeeping. A session that lives in one place has to be put back in
order instead: before a stored schema is expanded a mark is set
(`Session.enter?`), afterwards the latest mark is dropped, whichever it is
(`Session.leave`), and rules of hosts are counted in the same way
(`Session.nest?`, `Session.unnest`). Whatever is done in between, and however it
ends, comes back with a session of its own, and the next step starts from that
one. `Session.Leaves` is the evaluation with all this done by hand.

* `Leaves.restores`: the session that is left behind is the one from before.
  The induction is over the evaluation. A mark is set and dropped around an
  evaluation that restores the session by induction; one that is refused was
  never set; a rule of a host goes on after an error in a restored session.
* `does_check`: every check has such an evaluation, whatever the registry.
  The induction is over checks with the requests of hosts (`asks_induction`).
* `check_restores_session`: hence the evaluation by hand is the session's own,
  and a second check is not affected by the first.
-/

set_option autoImplicit false

namespace PropShape

namespace Session

variable {s t : Session} {c : Check} {name : TypeName} {path : String}

/-! ## Keeping the books by hand -/

/-- Sets the mark of a schema at a path. A schema that is marked there already is refused. -/
def enter? (s : Session) (name : TypeName) (path : String) : Except PropError Session :=
  if s.active.contains (name, path) then .error (.descriptorCycle path)
  else .ok (s.enter name path)

/-- Drops the latest mark, whichever it is. -/
def leave (s : Session) : Session := { s with active := s.active.tail }

/-- Counts one more nested rule of a host, at a path. The count is limited. -/
def nest? (s : Session) (path : String) : Except PropError Session :=
  match s.hostBudget with
  | 0 => .error (.descriptorCycle path)
  | rest + 1 => .ok { s with hostBudget := rest }

/-- Counts one nested rule less. -/
def unnest (s : Session) : Session := { s with hostBudget := s.hostBudget + 1 }

/-- The mark that was set is dropped again. -/
theorem leave_of_enter? (h : s.enter? name path = .ok t) : t.leave = s := by
  unfold enter? at h
  split at h
  · cases h
  · cases h
    rfl

/-- Coming back from a nested budget undoes going into it. -/
theorem unnest_of_nest? (h : s.nest? path = .ok t) : t.unnest = s := by
  unfold nest? at h
  split at h
  · cases h
  · next rest budget =>
    cases h
    obtain ⟨registry, sink, onFailure, active, hostBudget⟩ := s
    cases budget
    rfl

/-- A check against a stored schema goes on inside the schema, once that has been entered. -/
theorem check_of_enter?_ok {stored : Descriptor}
    (h : s.registry.resolve c.descriptor.type = .ok (name, .schema stored))
    (entered : s.enter? name c.path = .ok t) :
    s.check c = t.check { c with descriptor := stored } := by
  unfold enter? at entered
  split at entered
  · cases entered
  · next new =>
    cases entered
    exact check_of_schema h (mt List.contains_iff_mem.mpr new)

/-- A check against a stored schema ends in the error if the schema may not be entered. -/
theorem check_of_enter?_error {stored : Descriptor} {e : PropError}
    (h : s.registry.resolve c.descriptor.type = .ok (name, .schema stored))
    (refused : s.enter? name c.path = .error e) : s.check c = .raise e := by
  unfold enter? at refused
  split at refused
  · next active =>
    cases refused
    exact check_of_active h (List.contains_iff_mem.mp active)
  · cases refused

/-- A rule of a host runs in the session that counts it. -/
theorem check_of_nest?_ok {rule : HostRule}
    (h : s.registry.resolve c.descriptor.type = .ok (name, .host rule))
    (nested : s.nest? c.path = .ok t) :
    s.check c = t.perform (rule ⟨s.onFailure, s.registry.size⟩ c) := by
  rw [check_eq, h]
  unfold nest? at nested
  cases budget : s.hostBudget with
  | zero =>
    rw [budget] at nested
    cases nested
  | succ rest =>
    rw [budget] at nested
    cases nested
    rfl

/-- A rule of a host that is nested too deep is not run. -/
theorem check_of_nest?_error {rule : HostRule} {e : PropError}
    (h : s.registry.resolve c.descriptor.type = .ok (name, .host rule))
    (exhausted : s.nest? c.path = .error e) : s.check c = .raise e := by
  rw [check_eq, h]
  unfold nest? at exhausted
  cases budget : s.hostBudget with
  | zero =>
    rw [budget] at exhausted
    cases exhausted
    rfl
  | succ rest =>
    rw [budget] at exhausted
    cases exhausted

/-- What there is to do in a session. -/
inductive Job
  | check (c : Check)
  /-- What a built-in type does with a check. -/
  | plan (c : Check) (next : Plan)
  | part (c : Check) (part : Part)
  | parts (c : Check) (parts : List Part)
  | alternatives (alternatives : List Check)
  | program (steps : RuleProgram)

/-- The run that a job comes to if each step has the session to itself. -/
def Job.run (s : Session) : Job → Run Bool
  | .check c => s.check c
  | .plan c next => s.follow c next
  | .part c one => s.checkPart c one
  | .parts c many => Run.all (many.map (s.checkPart c))
  | .alternatives many => Run.any (many.map s.check)
  | .program steps => s.perform steps

/-- `s.Leaves job run t`: the job is done in the session `s` as `run`, and leaves the session
`t` behind. -/
inductive Leaves : Session → Job → Run Bool → Session → Prop
  | unresolved {s : Session} {c : Check} {e : PropError}
    (h : s.registry.resolve c.descriptor.type = .error e) : Leaves s (.check c) (.raise e) s
  | builtin {s t : Session} {c : Check} {name : TypeName} {type : BuiltinType} {run : Run Bool}
    (h : s.registry.resolve c.descriptor.type = .ok (name, .builtin type))
    (rest : Leaves s (.plan c (c.builtinPlan type)) run t) : Leaves s (.check c) run t
  /-- Nothing was marked, so there is nothing to drop. -/
  | refused {s : Session} {c : Check} {name : TypeName} {stored : Descriptor} {e : PropError}
    (h : s.registry.resolve c.descriptor.type = .ok (name, .schema stored))
    (refused : s.enter? name c.path = .error e) : Leaves s (.check c) (.raise e) s
  /-- The mark is dropped however the expansion ends. -/
  | expanded {s inside t : Session} {c : Check} {name : TypeName} {stored : Descriptor}
    {run : Run Bool} (h : s.registry.resolve c.descriptor.type = .ok (name, .schema stored))
    (entered : s.enter? name c.path = .ok inside)
    (rest : Leaves inside (.check { c with descriptor := stored }) run t) :
    Leaves s (.check c) run t.leave
  | exhausted {s : Session} {c : Check} {name : TypeName} {rule : HostRule} {e : PropError}
    (h : s.registry.resolve c.descriptor.type = .ok (name, .host rule))
    (exhausted : s.nest? c.path = .error e) : Leaves s (.check c) (.raise e) s
  | hosted {s inside t : Session} {c : Check} {name : TypeName} {rule : HostRule}
    {run : Run Bool} (h : s.registry.resolve c.descriptor.type = .ok (name, .host rule))
    (nested : s.nest? c.path = .ok inside)
    (rest : Leaves inside (.program (rule ⟨s.onFailure, s.registry.size⟩ c)) run t) :
    Leaves s (.check c) run t.unnest
  | pass {s : Session} {c : Check} : Leaves s (.plan c .pass) (pure true) s
  | settle {s : Session} {c : Check} {passed : Bool} {failure : Failure} :
    Leaves s (.plan c (.settle passed failure)) (s.expect c passed failure) s
  | misconfigured {s : Session} {c : Check} {m : Misconfiguration} :
    Leaves s (.plan c (.misconfigured m)) (s.misconfigured c m) s
  /-- The failure is reported in the session that the parts have left. -/
  | all {s t : Session} {c : Check} {parts : List Part} {failure : Failure} {run : Run Bool}
    (rest : Leaves s (.parts c parts) run t) :
    Leaves s (.plan c (.all parts failure)) (run >>= fun passed => t.expect c passed failure) t
  | any {s t : Session} {c : Check} {alternatives : List Check} {failure : Failure}
    {run : Run Bool} (rest : Leaves s (.alternatives alternatives) run t) :
    Leaves s (.plan c (.any alternatives failure))
      (run >>= fun passed => t.expect c passed failure) t
  | partSettle {s : Session} {c : Check} {passed : Bool} {failure : Failure} :
    Leaves s (.part c (.settle passed failure)) (s.expect c passed failure) s
  | partCheck {s t : Session} {c inner : Check} {run : Run Bool}
    (rest : Leaves s (.check inner) run t) : Leaves s (.part c (.check inner)) run t
  | noParts {s : Session} {c : Check} : Leaves s (.parts c []) (pure true) s
  /-- The other parts find the session as the first part has left it. -/
  | partsOnward {s t u : Session} {c : Check} {part : Part} {parts : List Part} {passed : Bool}
    {run others : Run Bool} (first : Leaves s (.part c part) run t)
    (verdict : run.result = .ok passed) (rest : Leaves t (.parts c parts) others u) :
    Leaves s (.parts c (part :: parts))
      (run >>= fun passed => others >>= fun rest => pure (passed && rest)) u
  | partsEnd {s t : Session} {c : Check} {part : Part} {parts : List Part} {e : PropError}
    {run : Run Bool} (first : Leaves s (.part c part) run t) (error : run.result = .error e) :
    Leaves s (.parts c (part :: parts)) run t
  | noAlternatives {s : Session} : Leaves s (.alternatives []) (pure false) s
  | alternativesOnward {s t u : Session} {c : Check} {alternatives : List Check}
    {run others : Run Bool} (first : Leaves s (.check c) run t)
    (verdict : run.result = .ok false) (rest : Leaves t (.alternatives alternatives) others u) :
    Leaves s (.alternatives (c :: alternatives)) (run >>= fun _ => others) u
  | alternativesEnd {s t : Session} {c : Check} {alternatives : List Check} {run : Run Bool}
    (first : Leaves s (.check c) run t) (ended : run.result ≠ .ok false) :
    Leaves s (.alternatives (c :: alternatives)) run t
  | answer {s : Session} {passed : Bool} : Leaves s (.program (.answer passed)) (pure passed) s
  | raise {s : Session} {e : PropError} : Leaves s (.program (.raise e)) (.raise e) s
  | reported {s t : Session} {about : Check} {text : String}
    {next : Except PropError Bool → RuleProgram} {others : Run Bool}
    (rest : Leaves s (.program (next (s.fail about (.other text)).result)) others t) :
    Leaves s (.program (.fail about text next))
      ((s.fail about (.other text)).followedBy others) t
  | noted {s t : Session} {about : Check} {text : String} {next : RuleProgram}
    {others : Run Bool} (rest : Leaves s (.program next) others t) :
    Leaves s (.program (.misconfigured about text next))
      ((s.misconfigured about (.other text)).followedBy others) t
  /-- The rule goes on in the session that its check has left, also after an error. -/
  | requested {s t u : Session} {request : Check} {next : Except PropError Bool → RuleProgram}
    {run others : Run Bool} (first : Leaves s (.check request) run t)
    (rest : Leaves t (.program (next run.result)) others u) :
    Leaves s (.program (.check request next)) (run.followedBy others) u

/-- Whatever was done, and however it ended, the session is as it was before, and what was done
is what the job comes to. -/
theorem Leaves.restores {job : Job} {run : Run Bool} (h : s.Leaves job run t) :
    t = s ∧ run = job.run s := by
  induction h with
  | unresolved h => exact ⟨rfl, (check_of_error h).symm⟩
  | builtin h rest ih =>
    obtain ⟨rfl, rfl⟩ := ih
    refine ⟨rfl, ?_⟩
    rw [Job.run, Job.run, check_of_builtin h, checkBuiltin_eq_follow]
  | refused h refused => exact ⟨rfl, (check_of_enter?_error h refused).symm⟩
  | expanded h entered rest ih =>
    -- The expansion has left the session with its own mark, so that is the one dropped.
    obtain ⟨rfl, rfl⟩ := ih
    exact ⟨leave_of_enter? entered, (check_of_enter?_ok h entered).symm⟩
  | exhausted h exhausted => exact ⟨rfl, (check_of_nest?_error h exhausted).symm⟩
  | hosted h nested rest ih =>
    obtain ⟨rfl, rfl⟩ := ih
    exact ⟨unnest_of_nest? nested, (check_of_nest?_ok h nested).symm⟩
  | pass => exact ⟨rfl, rfl⟩
  | settle => exact ⟨rfl, rfl⟩
  | misconfigured => exact ⟨rfl, rfl⟩
  | all rest ih =>
    obtain ⟨rfl, rfl⟩ := ih
    exact ⟨rfl, rfl⟩
  | any rest ih =>
    obtain ⟨rfl, rfl⟩ := ih
    exact ⟨rfl, rfl⟩
  | partSettle => exact ⟨rfl, rfl⟩
  | partCheck rest ih => exact ih
  | noParts => exact ⟨rfl, rfl⟩
  | partsOnward first verdict rest ihFirst ihRest =>
    obtain ⟨rfl, rfl⟩ := ihFirst
    obtain ⟨rfl, rfl⟩ := ihRest
    exact ⟨rfl, rfl⟩
  | partsEnd first error ih =>
    obtain ⟨rfl, rfl⟩ := ih
    exact ⟨rfl, (Run.all_cons_of_error error).symm⟩
  | noAlternatives => exact ⟨rfl, rfl⟩
  | alternativesOnward first verdict rest ihFirst ihRest =>
    obtain ⟨rfl, rfl⟩ := ihFirst
    obtain ⟨rfl, rfl⟩ := ihRest
    exact ⟨rfl, (Run.any_cons_of_false verdict).symm⟩
  | alternativesEnd first ended ih =>
    obtain ⟨rfl, rfl⟩ := ih
    exact ⟨rfl, (Run.any_cons_of_ended ended).symm⟩
  | answer => exact ⟨rfl, (perform_answer _ _).symm⟩
  | raise => exact ⟨rfl, (perform_raise _ _).symm⟩
  | reported rest ih =>
    obtain ⟨rfl, rfl⟩ := ih
    exact ⟨rfl, (perform_fail _ _ _ _).symm⟩
  | noted rest ih =>
    obtain ⟨rfl, rfl⟩ := ih
    exact ⟨rfl, (perform_misconfigured _ _ _ _).symm⟩
  | requested first rest ihFirst ihRest =>
    -- The rule goes on where it started, whether the request ended in an error or not.
    obtain ⟨rfl, rfl⟩ := ihFirst
    obtain ⟨rfl, rfl⟩ := ihRest
    exact ⟨rfl, (perform_check _ _ _).symm⟩

/-! ## Every check is carried out -/

/-- The job can be done in the session, and comes to what the session says. -/
def Does (s : Session) (job : Job) : Prop := s.Leaves job (job.run s) s

/-- A job that leaves a session behind is done. -/
theorem Leaves.does {job : Job} {run : Run Bool} (h : s.Leaves job run t) : s.Does job := by
  obtain ⟨rfl, rfl⟩ := h.restores
  exact h

/-- Parts are done if their checks are. -/
theorem does_parts {parts : List Part}
    (nested : ∀ inner, .check inner ∈ parts → s.Does (.check inner)) : s.Does (.parts c parts) := by
  induction parts with
  | nil => exact .noParts
  | cons part rest ih =>
    have first : s.Does (.part c part) := by
      cases part with
      | check inner => exact .partCheck (nested inner List.mem_cons_self)
      | settle passed failure => exact .partSettle
    have others := ih fun inner mem => nested inner (List.mem_cons_of_mem _ mem)
    -- The others are gone through only after a verdict.
    cases verdict : (s.checkPart c part).result with
    | ok passed => exact (Leaves.partsOnward first verdict others).does
    | error e => exact (Leaves.partsEnd first verdict).does

/-- Alternatives are done if their checks are. -/
theorem does_alternatives {alternatives : List Check}
    (nested : ∀ inner ∈ alternatives, s.Does (.check inner)) :
    s.Does (.alternatives alternatives) := by
  induction alternatives with
  | nil => exact .noAlternatives
  | cons inner rest ih =>
    obtain ⟨first, others⟩ := List.forall_mem_cons.mp nested
    by_cases onward : (s.check inner).result = .ok false
    · exact (Leaves.alternativesOnward first onward (ih others)).does
    · exact (Leaves.alternativesEnd first onward).does

/-- The plan of a built-in type is done if the checks that it asks for are. -/
theorem does_builtin {type : BuiltinType}
    (leads : s.registry.Leads c.descriptor.type name (.builtin type))
    (nested : ∀ inner, s.Calls c s inner → s.Does (.check inner)) :
    s.Does (.plan c (c.builtinPlan type)) := by
  have fits := fits_builtinPlan leads
  have planned := plan_of_builtin leads
  cases h : c.builtinPlan type with
  | pass => exact .pass
  | settle passed failure => exact .settle
  | misconfigured m => exact .misconfigured
  | all parts failure =>
    exact .all (does_parts fun inner mem => nested inner (.part (planned.trans h) mem))
  | any alternatives failure =>
    refine .any (does_alternatives fun inner mem => ?_)
    exact nested inner (.alternative (planned.trans h) mem)
  -- The other plans are not those of a built-in type.
  | raise e =>
    rw [h] at fits
    rcases fits with unresolved | ⟨owner, stored, other, -, -⟩
    · cases (Registry.resolve_eq_ok_iff.mpr leads).symm.trans unresolved
    · cases (leads.unique other).2
  | enter owner inner =>
    rw [h] at fits
    obtain ⟨stored, other, -, -⟩ := fits
    cases (leads.unique other).2
  | host rule =>
    rw [h] at fits
    obtain ⟨owner, other⟩ := fits
    cases (leads.unique other).2

/-- A program is carried out if every check is that it may ask for. The induction is over the
program, since what comes after a step is one of the programs inside it. -/
theorem does_program (program : RuleProgram)
    (asked : ∀ request, program.Requests request → s.Does (.check request)) :
    s.Does (.program program) := by
  -- On the rule's own program: each request is answered, and what follows is a program again.
  induction program with
  | answer passed => exact Leaves.answer.does
  | raise e => exact Leaves.raise.does
  | fail about text next ih =>
    have onward := ih (s.fail about (.other text)).result fun request h =>
      asked request (.reported (fail_ne_true _) h)
    exact (Leaves.reported onward).does
  | misconfigured about text next ih =>
    have onward := ih fun request h => asked request (.misconfigured h)
    exact (Leaves.noted onward).does
  | check request next ih =>
    have onward := ih (s.check request).result fun later h => asked later (.later h)
    exact (Leaves.requested (asked request .now) onward).does

/-- Every check is carried out, in every session. -/
theorem does_check (s : Session) (c : Check) : s.Does (.check c) := by
  -- Every check that this one may ask for restores its session, requests of host rules included.
  induction s, c using asks_induction with
  | step s c ih =>
    cases h : s.registry.resolve c.descriptor.type with
    | error e => exact (Leaves.unresolved h).does
    | ok resolved =>
      obtain ⟨name, rule⟩ := resolved
      have leads := Registry.resolve_eq_ok_iff.mp h
      cases rule with
      | builtin type =>
        have done := does_builtin leads fun inner calls => ih s inner (.calls calls)
        exact (Leaves.builtin h done).does
      | schema stored =>
        by_cases active : (name, c.path) ∈ s.active
        -- The mark is there already, so none is made and none has to be taken back.
        · exact (Leaves.refused h (if_pos (List.contains_iff_mem.mpr active))).does
        · have calls : s.Calls c (s.enter name c.path) { c with descriptor := stored } :=
            .enter (plan_of_schema leads active)
          have done := ih _ _ (.calls calls)
          exact (Leaves.expanded h (if_neg (mt List.contains_iff_mem.mp active)) done).does
      | host rule =>
        have planned : s.plan c = .host rule := by
          rw [plan, h]
          rfl
        cases budget : s.hostBudget with
        | zero =>
          have exhausted : s.nest? c.path = .error (.descriptorCycle c.path) := by
            simp only [nest?, budget]
          exact (Leaves.exhausted h exhausted).does
        | succ rest =>
          have nested : s.nest? c.path = .ok { s with hostBudget := rest } := by
            simp only [nest?, budget]
          have done := does_program (s := { s with hostBudget := rest })
            (rule ⟨s.onFailure, s.registry.size⟩ c) fun request requests =>
              ih _ request (.host planned budget requests)
          exact (Leaves.hosted h nested done).does

/-- A check is carried out in one way, and that is the session's own. -/
theorem leaves_check_iff {run : Run Bool} :
    s.Leaves (.check c) run t ↔ t = s ∧ run = s.check c := by
  constructor
  · exact Leaves.restores
  · rintro ⟨rfl, rfl⟩
    exact does_check t c

/-- Every check restores the session. Whatever is registered, which marks are set already, and
whether the check ends in a verdict or in an error: the marks, the registry and the policy are
those from before the call. A second check in the session that the first one has left is the check
that it would have been before the first. -/
theorem check_restores_session (s : Session) (c : Check) :
    (∃ run t, s.Leaves (.check c) run t) ∧
    ∀ run t, s.Leaves (.check c) run t →
      run = s.check c ∧
      t.active = s.active ∧ t.registry = s.registry ∧ t.onFailure = s.onFailure ∧
      ∀ next others u, t.Leaves (.check next) others u ↔ s.Leaves (.check next) others u := by
  refine ⟨⟨_, _, does_check s c⟩, fun run t h => ?_⟩
  obtain ⟨rfl, rfl⟩ := leaves_check_iff.mp h
  exact ⟨rfl, rfl, rfl, rfl, fun next others u => Iff.rfl⟩

end Session

namespace Registry

/-- A rule that makes do with cycles, and with no other error: it asks for a schema that is
nothing but itself, and then for the schema that the rule stands in. -/
def patientRule : HostRule := fun _ c =>
  .check { c with descriptor := .ofType (.named "loop") } fun
    | .error (.descriptorCycle _) =>
      .check { c with descriptor := .ofType (.named "outer") } fun
        | .error (.descriptorCycle _) => .answer true
        | .error e => .raise e
        | .ok _ => .answer false
    | .error e => .raise e
    | .ok _ => .answer false

/-- A registry with a host rule that looks at the errors of the checks it asks for. -/
def patient : Registry :=
  (tangled.registerSchema "outer" (.ofType (.named "patient"))).register (.named "patient")
    patientRule

/-- The outer schema is stored under its own name; it hands its values to the rule of the host. -/
theorem leads_patient_outer :
    patient.Leads (.named "outer") (.named "outer") (.schema (.ofType (.named "patient"))) :=
  ⟨.refl, by simp [patient, register, registerSchema, get?_insert]⟩

/-- The loop has itself as its stored schema. -/
theorem leads_patient_loop :
    patient.Leads (.named "loop") (.named "loop") (.schema (.ofType (.named "loop"))) := by
  refine ⟨.refl, ?_⟩
  simp [patient, register, registerSchema, get?_insert, leads_tangled_loop.owned]

/-- The name of the host rule leads to it. -/
theorem leads_patient :
    patient.Leads (.named "patient") (.named "patient") (.host patientRule) :=
  ⟨.refl, by simp [patient, register, get?_insert]⟩

end Registry

namespace Session

/-- Two errors are ignored inside a schema, and one mark was set before: it is still there
afterwards, and no other. -/
theorem check_restores_session_patient :
    let s : Session := ⟨.patient, .memory, .throw, [(.named "node", "list")], 1⟩
    let c : Check := ⟨"ctx", "prop", .null, .ofType (.named "outer"), true⟩
    (s.check c).result = .ok true ∧
      ∃ run t, s.Leaves (.check c) run t ∧ run = s.check c ∧
        t.active = [(.named "node", "list")] ∧ t.registry = .patient ∧ t.onFailure = .throw := by
  intro s c
  refine ⟨?_, ?_⟩
  · have outer := Registry.resolve_eq_ok_iff.mpr Registry.leads_patient_outer
    have loop := Registry.resolve_eq_ok_iff.mpr Registry.leads_patient_loop
    have patient := Registry.resolve_eq_ok_iff.mpr Registry.leads_patient
    -- Inside the rule, its schema and none other is being expanded at the path.
    let inside : Session := { s.enter (.named "outer") "prop" with hostBudget := 0 }
    have looped : (inside.check { c with descriptor := .ofType (.named "loop") }).result =
        .error (.descriptorCycle "prop") := by
      rw [check_of_schema loop (by decide), check_of_active loop (by decide)]
      rfl
    have again : (inside.check { c with descriptor := .ofType (.named "outer") }).result =
        .error (.descriptorCycle "prop") := by
      rw [check_of_active outer (by decide)]
      rfl
    rw [check_of_schema outer (by decide), check_of_nest?_ok patient rfl]
    -- Both checks end in a cycle, and the rule goes on after either.
    show (inside.perform (.check _ _)).result = _
    rw [perform_check, Run.followedBy_result, looped]
    show (inside.perform (.check _ _)).result = _
    rw [perform_check, Run.followedBy_result, again]
    rfl
  · obtain ⟨⟨run, t, h⟩, restored⟩ := check_restores_session s c
    obtain ⟨same, active, registry, onFailure, -⟩ := restored run t h
    exact ⟨run, t, h, same, active, registry, onFailure⟩

end Session

end PropShape
