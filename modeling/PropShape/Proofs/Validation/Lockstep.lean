import PropShape.Proofs.Validation.Calls
import Mathlib.Data.List.Forall2

/-!
# `PropShape.Proofs.Validation.Lockstep`: two evaluations side by side

Much of what can be said about validation compares two evaluations: the same
input under another policy, with another sink, or against a descriptor that
asks for the same in other words. As long as the two ask the same questions in
the same order, a comparison of what they report at each step is a comparison
of the whole.

* `Run.Congruence` is what a relation between runs must satisfy for that: it
  goes along with putting runs together.
* `Plan.Alike` relates plans that ask for related checks in the same places.
* `Session.related_of_alike` is the principle: if related checks have plans
  that are alike, their runs are related.
* `Session.related_under` is the case of two sessions that differ in sink and
  policy only. Their plans are the same, so all that is left to compare is how
  a single failure is reported.
* `Validator.InStep` carries a comparison of checks and reports to the
  validation of values, of whole objects and of updates.
-/

set_option autoImplicit false

namespace PropShape

/-- A relation between runs that goes along with putting runs together. -/
structure Run.Congruence (R : (α : Type) → Run α → Run α → Prop) : Prop where
  pure {α : Type} (a : α) : R α (pure a) (pure a)
  bind {α β : Type} {run other : Run α} {next onward : α → Run β} (first : R α run other)
    (rest : ∀ a, R β (next a) (onward a)) : R β (run >>= next) (other >>= onward)

section

variable {R : (α : Type) → Run α → Run α → Prop} {runs others : List (Run Bool)}

/-- Runs that are related one by one are related as a whole. -/
theorem Run.Congruence.all (congruence : Run.Congruence R)
    (h : List.Forall₂ (R Bool) runs others) : R Bool (Run.all runs) (Run.all others) := by
  induction h with
  | nil => exact congruence.pure true
  | cons first rest ih =>
    refine congruence.bind first fun passed => ?_
    exact congruence.bind ih fun others => congruence.pure (passed && others)

/-- Alternatives that are related one by one are related as a whole. -/
theorem Run.Congruence.any (congruence : Run.Congruence R)
    (h : List.Forall₂ (R Bool) runs others) : R Bool (Run.any runs) (Run.any others) := by
  induction h with
  | nil => exact congruence.pure false
  | cons first rest ih =>
    refine congruence.bind first fun passed => ?_
    cases passed with
    | true => exact congruence.pure true
    | false => exact ih

end

/-! ## Plans that are alike -/

/-- The check `inner` of one evaluation is compared with the check `other` of the
second one, each in its session. -/
abbrev Pairing := Session → Check → Session → Check → Prop

section

variable (R : Run Bool → Run Bool → Prop) (Pair : Pairing) (s : Session) (c : Check)
  (t : Session) (d : Check)

/-- Two parts ask for checks that are compared, or report alike. -/
inductive Part.Alike : Part → Part → Prop
  | check {inner other : Check} (h : Pair s inner t other) : Alike (.check inner) (.check other)
  | settle {passed settled : Bool} {failure fault : Failure}
    (h : R (s.expect c passed failure) (t.expect d settled fault)) :
    Alike (.settle passed failure) (.settle settled fault)

/-- Two plans ask for checks that are compared, in the same places, and report alike. -/
inductive Plan.Alike : Plan → Plan → Prop
  | raise {error e : PropError} (h : R (.raise error) (.raise e)) : Alike (.raise error) (.raise e)
  | pass : Alike .pass .pass
  | settle {passed settled : Bool} {failure fault : Failure}
    (h : R (s.expect c passed failure) (t.expect d settled fault)) :
    Alike (.settle passed failure) (.settle settled fault)
  | misconfigured {m n : Misconfiguration} (h : R (s.misconfigured c m) (t.misconfigured d n)) :
    Alike (.misconfigured m) (.misconfigured n)
  | enter {name title : TypeName} {inner other : Check}
    (h : Pair (s.enter name c.path) inner (t.enter title d.path) other) :
    Alike (.enter name inner) (.enter title other)
  | all {parts pieces : List Part} {failure fault : Failure}
    (h : List.Forall₂ (Part.Alike R Pair s c t d) parts pieces)
    (report : ∀ passed, R (s.expect c passed failure) (t.expect d passed fault)) :
    Alike (.all parts failure) (.all pieces fault)
  | any {alternatives choices : List Check} {failure fault : Failure}
    (h : List.Forall₂ (fun inner other => Pair s inner t other) alternatives choices)
    (report : ∀ passed, R (s.expect c passed failure) (t.expect d passed fault)) :
    Alike (.any alternatives failure) (.any choices fault)

end

namespace Session

variable {R : (α : Type) → Run α → Run α → Prop} {Pair : Pairing} {s t : Session} {c d : Check}

/-- Parts that are alike come to related runs, if their checks do. -/
theorem forall₂_checkPart {parts pieces : List Part}
    (nested : ∀ inner other, .check inner ∈ parts → Pair s inner t other →
      R Bool (s.check inner) (t.check other))
    (h : List.Forall₂ (Part.Alike (R Bool) Pair s c t d) parts pieces) :
    List.Forall₂ (R Bool) (parts.map (s.checkPart c)) (pieces.map (t.checkPart d)) := by
  -- Part by part; the hypothesis on nested checks is handed on to the parts that are left.
  induction h with
  | nil => exact .nil
  | @cons part piece parts pieces first rest ih =>
    have others := ih fun inner other mem => nested inner other (List.mem_cons_of_mem _ mem)
    refine .cons ?_ others
    cases first with
    | check pair => exact nested _ _ List.mem_cons_self pair
    | settle related => exact related

/-- Alternatives that correspond are checked in step. -/
theorem forall₂_check {alternatives choices : List Check}
    (nested : ∀ inner other, inner ∈ alternatives → Pair s inner t other →
      R Bool (s.check inner) (t.check other))
    (h : List.Forall₂ (fun inner other => Pair s inner t other) alternatives choices) :
    List.Forall₂ (R Bool) (alternatives.map s.check) (choices.map t.check) := by
  induction h with
  | nil => exact .nil
  | cons first rest ih =>
    have others := ih fun inner other mem => nested inner other (List.mem_cons_of_mem _ mem)
    exact .cons (nested _ _ List.mem_cons_self first) others

/-- If checks that are compared are related on the spot or have plans that are alike, their
runs are related. -/
theorem related_of_related_or_alike (congruence : Run.Congruence R)
    (alike : ∀ s c t d, Pair s c t d →
      R Bool (s.check c) (t.check d) ∨
        Plan.Alike (R Bool) Pair s c t d (s.plan c) (t.plan d))
    (pair : Pair s c t d) : R Bool (s.check c) (t.check d) := by
  -- On the first evaluation. The second one need not be well-founded; it follows the first.
  induction s, c using check_induction generalizing t d with
  | step s c ih =>
    rcases alike s c t d pair with related | h
    · exact related
    -- From here on only the two plans matter.
    rw [check_eq_follow, check_eq_follow]
    generalize hplan : s.plan c = plan at h
    generalize t.plan d = other at h
    cases h with
    | raise related => exact related
    | pass => exact congruence.pure true
    | settle related => exact related
    | misconfigured related => exact related
    | enter nested => exact ih _ _ (.enter hplan) nested
    | all parts report =>
      refine congruence.bind (congruence.all ?_) report
      exact forall₂_checkPart (fun inner other mem => ih s inner (.part hplan mem)) parts
    | any alternatives report =>
      refine congruence.bind (congruence.any ?_) report
      exact forall₂_check (fun inner other mem => ih s inner (.alternative hplan mem)) alternatives

/-- If checks that are compared have plans that are alike, their runs are related. -/
theorem related_of_alike (congruence : Run.Congruence R)
    (alike : ∀ s c t d, Pair s c t d →
      Plan.Alike (R Bool) Pair s c t d (s.plan c) (t.plan d))
    (pair : Pair s c t d) : R Bool (s.check c) (t.check d) :=
  related_of_related_or_alike congruence (fun s c t d pair => .inr (alike s c t d pair)) pair

/-! ## Another sink, another policy -/

/-- The session with another sink and another policy. -/
def under (s : Session) (sink : Sink) (policy : OnFailure) : Session :=
  { s with sink, onFailure := policy }

/-- A session under its own sink and policy is the session itself. -/
theorem under_self (log : s.onFailure = .log) : s.under s.sink .log = s := by
  cases s
  cases log
  rfl

/-- The same check, at the same point of two evaluations under different sinks and
policies. -/
inductive UnderBoth (sink drain : Sink) (policy course : OnFailure) : Pairing
  | intro (s : Session) (c : Check) (built : s.registry.Declarative) :
    UnderBoth sink drain policy course (s.under sink policy) c (s.under drain course) c

/-- Expectations are related if the reports of a failure are: the flag of the check says
whether there is one, and it is the same on both sides. -/
theorem expect_under (congruence : Run.Congruence R) {sink drain : Sink}
    {policy course : OnFailure}
    (warn : ∀ context failure, R Unit (sink.warn context (.failure failure) policy)
      (drain.warn context (.failure failure) course))
    (s : Session) (c : Check) (passed : Bool) (failure : Failure) :
    R Bool ((s.under sink policy).expect c passed failure)
      ((s.under drain course).expect c passed failure) := by
  cases passed with
  | true => exact congruence.pure true
  | false =>
    show R Bool ((s.under sink policy).fail c failure) ((s.under drain course).fail c failure)
    unfold fail
    split
    · exact congruence.bind (warn c.context failure) fun _ => congruence.pure false
    · exact congruence.pure false

/-- Two evaluations that differ in sink and policy only are related if they report single
failures and mistakes in related ways. -/
theorem related_under (congruence : Run.Congruence R) {sink drain : Sink}
    {policy course : OnFailure}
    (warn : ∀ context failure, R Unit (sink.warn context (.failure failure) policy)
      (drain.warn context (.failure failure) course))
    (misconfigured : ∀ (s : Session) c m,
      R Bool ((s.under sink policy).misconfigured c m) ((s.under drain course).misconfigured c m))
    (raise : ∀ e : PropError, e.isConfiguration = true → R Bool (.raise e) (.raise e))
    (built : s.registry.Declarative) :
    R Bool ((s.under sink policy).check c) ((s.under drain course).check c) := by
  have pair : UnderBoth sink drain policy course (s.under sink policy) c (s.under drain course) c :=
    .intro s c built
  have report := expect_under congruence warn
  refine related_of_alike congruence ?_ pair
  rintro _ c _ _ ⟨s, _, built⟩
  -- A plan looks at neither sink nor policy.
  have same : (s.under drain course).plan c = (s.under sink policy).plan c := plan_congr rfl rfl c
  rw [same]
  cases hplan : (s.under sink policy).plan c with
  | raise e => exact .raise (raise e (isConfiguration_of_plan_raise hplan))
  | pass => exact .pass
  | settle passed failure => exact .settle (report s c passed failure)
  | misconfigured m => exact .misconfigured (misconfigured s c m)
  | enter name inner => exact .enter (.intro (s.enter name c.path) inner built)
  | all parts failure =>
    refine .all (List.forall₂_same.mpr fun part _ => ?_) fun passed => report s c passed failure
    cases part with
    | check inner => exact .check (.intro s inner built)
    | settle passed fault => exact .settle (report s c passed fault)
  | any alternatives failure =>
    refine .any (List.forall₂_same.mpr fun inner _ => ?_) fun passed => report s c passed failure
    exact .intro s inner built
  | host rule =>
    have built' : (s.under sink policy).registry.Declarative := built
    exact absurd hplan (plan_ne_host built')

end Session

/-! ## Validators -/

namespace Validator

variable {R : (α : Type) → Run α → Run α → Prop} {v w : Validator}

/-- Two validators report in related ways, and the checks that they start are related. -/
structure InStep (R : (α : Type) → Run α → Run α → Prop) (v w : Validator) : Prop where
  report (context : String) (failure : Failure) :
    R Unit (v.report context failure) (w.report context failure)
  check (context path : String) (value : Value) (descriptor : Descriptor) :
    R Bool
      ((Session.start v.registry v.sink v.options.onFailure).check
        ⟨context, path, value, descriptor, v.options.logErrors⟩)
      ((Session.start w.registry w.sink w.options.onFailure).check
        ⟨context, path, value, descriptor, w.options.logErrors⟩)

/-- The validation of a value is a check, or the report that the value is missing. -/
theorem InStep.validate (congruence : Run.Congruence R) (h : InStep R v w)
    (context path : String) (value : Value) (descriptor : Descriptor) :
    R Bool (v.validate context path value descriptor)
      (w.validate context path value descriptor) := by
  cases hvalue : value.isUndefined with
  | true =>
    rw [validate_of_undefined hvalue, validate_of_undefined hvalue]
    split
    · exact congruence.bind (h.report context (.missing path)) fun _ => congruence.pure false
    · exact congruence.pure true
  | false =>
    rw [validate_of_defined hvalue, validate_of_defined hvalue]
    exact h.check context path value descriptor

/-- The validation of properties in turn is put together from that of each of them. -/
theorem InStep.failedProperties (congruence : Run.Congruence R) (h : InStep R v w)
    (context : String) (object : Record) (spread : Option String)
    (properties : List (String × Descriptor)) :
    R (List String) (v.failedProperties context object spread properties)
      (w.failedProperties context object spread properties) := by
  induction properties with
  | nil => exact congruence.pure []
  | cons property rest ih =>
    obtain ⟨name, descriptor⟩ := property
    refine congruence.bind (h.validate congruence context name _ descriptor) fun passed => ?_
    exact congruence.bind ih fun failed => congruence.pure _

variable {settings settings' : Settings}

/-- Objects are validated in step if the settings make validators that go in step, and name
the same spread property. -/
theorem InStep.validateProperties (congruence : Run.Congruence R)
    (h : InStep R (v.withSettings settings) (w.withSettings settings'))
    (spread : settings.spreadProperty = settings'.spreadProperty) (context : String)
    (object : Record) (schema : Schema) :
    R PropertiesReport (v.validateProperties context object schema settings)
      (w.validateProperties context object schema settings') := by
  unfold Validator.validateProperties
  rw [spread]
  have loop := h.failedProperties congruence context object settings'.spreadProperty schema.toList
  exact congruence.bind loop fun failed => congruence.pure _

/-- Updates are decided in step if the settings make validators that go in step, and both or
neither ask for the new value to be validated. -/
theorem InStep.validateUpdate (congruence : Run.Congruence R)
    (h : InStep R (v.withSettings settings) (w.withSettings settings'))
    (asked : settings.validateOnUpdate = settings'.validateOnUpdate) (context name : String)
    (old new : Value) (descriptor : Descriptor) :
    R Bool (v.validateUpdate context name old new descriptor settings)
      (w.validateUpdate context name old new descriptor settings') := by
  unfold Validator.validateUpdate
  rw [asked]
  dsimp only
  split
  · exact congruence.bind (h.report context (.notUpdatable name)) fun _ => congruence.pure false
  · split
    · exact h.validate congruence context name new descriptor
    · exact congruence.pure true

end Validator

end PropShape
