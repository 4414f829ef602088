import PropShape.Proofs.Descriptor.Equality
import PropShape.Proofs.Validation.Object

/-!
# `PropShape.Proofs.Validation.Respect`: equal inputs get equal verdicts

Equality of values and descriptors ignores the order of fields and of nested
properties. Validation goes through them in order, and ends at the first
error. `equality_is_respected` says that it comes to the same verdict all the
same, or to some error on both sides; which error is met first may differ.

* `Run.SameVerdict` compares runs that far. Going through all of a list of
  runs comes to the same verdict as going through their counterparts in
  another order (`Run.sameVerdict_all_map`).
* `Check.matches_builtinPlan`: for each built-in type the plans for akin
  checks match. Where a plan goes through everything the order may differ, and
  where it stops at a success, as a union does, the order is the same.
* `Session.check_akin` follows by induction over nested checks.

Comparing declared properties with expected ones in a test is a comparison of
this kind: two schemas between which no difference is found fail the same
properties on every object.
-/

set_option autoImplicit false

namespace PropShape

/-! ## Verdicts -/

namespace Run

variable {α ι κ : Type} {run other : Run α}

/-- Both runs come to the same result, or each ends in an error. -/
def SameVerdict (α : Type) (run other : Run α) : Prop :=
  run.result.toOption = other.result.toOption

/-- Runs with the same verdict both answer, or both end in an error. -/
theorem SameVerdict.cases (h : SameVerdict α run other) :
    (∃ a, run.result = .ok a ∧ other.result = .ok a) ∨
      ∃ e e', run.result = .error e ∧ other.result = .error e' := by
  unfold SameVerdict at h
  cases hrun : run.result <;> cases hother : other.result <;> rw [hrun, hother] at h <;> cases h
  · exact .inr ⟨_, _, rfl, rfl⟩
  · exact .inl ⟨_, rfl, rfl⟩

/-- Runs with the same verdict have the same answers. -/
theorem SameVerdict.eq_ok_iff (h : SameVerdict α run other) {a : α} :
    run.result = .ok a ↔ other.result = .ok a := by
  rcases h.cases with ⟨b, hrun, hother⟩ | ⟨e, e', hrun, hother⟩ <;> simp [hrun, hother]

/-- Runs with the same verdicts are put together as such. -/
theorem congruence_sameVerdict : Congruence SameVerdict where
  pure a := rfl
  bind := by
    intro α β run other next onward first rest
    rcases first.cases with ⟨a, hrun, hother⟩ | ⟨e, e', hrun, hother⟩
    · rw [bind_of_ok hrun, bind_of_ok hother]
      exact rest a
    · -- Both runs are over, with whatever error.
      rw [bind_of_error hrun, bind_of_error hother]
      rfl

variable {f : ι → Run Bool} {g : κ → Run Bool} {items : List ι} {others : List κ}

/-- Carrying out all runs comes to an end exactly if each of them does. -/
theorem exists_all_map_eq_ok_iff :
    (∃ verdict, (all (items.map f)).result = .ok verdict) ↔
      ∀ item ∈ items, ∃ passed, (f item).result = .ok passed := by
  constructor
  · rintro ⟨verdict, h⟩
    exact (of_all_map_eq_ok h).1
  · intro h
    -- If the whole raises, it is because one of the runs does.
    cases ended : (all (items.map f)).result with
    | ok verdict => exact ⟨verdict, rfl⟩
    | error e =>
      obtain ⟨before, item, after, rfl, -, raised⟩ := all_map_eq_error_iff.mp ended
      obtain ⟨passed, hok⟩ := h item (by simp)
      rw [raised] at hok
      cases hok

/-- Runs that are counterparts, carried out in whatever order, come to the same verdict. -/
theorem sameVerdict_all_map
    (h : Counterparts (fun item other => SameVerdict Bool (f item) (g other)) items others) :
    SameVerdict Bool (all (items.map f)) (all (others.map g)) := by
  have ended : (∀ item ∈ items, ∃ passed, (f item).result = .ok passed) ↔
      ∀ other ∈ others, ∃ passed, (g other).result = .ok passed :=
    h.forall_iff fun _ _ same => exists_congr fun _ => same.eq_ok_iff
  have passed : (∀ item ∈ items, (f item).result = .ok true) ↔
      ∀ other ∈ others, (g other).result = .ok true :=
    h.forall_iff fun _ _ same => same.eq_ok_iff
  -- The order may differ, so which error comes first may differ; that there is one may not.
  unfold SameVerdict
  rw [← exists_all_map_eq_ok_iff, ← exists_all_map_eq_ok_iff] at ended
  cases hitems : (all (items.map f)).result with
  | ok verdict =>
    obtain ⟨verdict', hothers⟩ := ended.mp ⟨verdict, hitems⟩
    have same : verdict = verdict' := by
      rw [Bool.eq_iff_iff, (of_all_map_eq_ok hitems).2, (of_all_map_eq_ok hothers).2, passed]
    rw [hothers, same]
  | error e =>
    cases hothers : (all (others.map g)).result with
    | ok verdict =>
      obtain ⟨verdict', h⟩ := ended.mpr ⟨verdict, hothers⟩
      rw [hitems] at h
      cases h
    | error e' => rfl

end Run

/-! ## Plans that match -/

/-- Two parts ask for checks that are compared, or are settled alike. -/
inductive Part.Matches (Pair : Check → Check → Prop) : Part → Part → Prop
  | check {inner other : Check} (h : Pair inner other) : Matches Pair (.check inner) (.check other)
  | settle (passed : Bool) (failure fault : Failure) :
    Matches Pair (.settle passed failure) (.settle passed fault)

/-- Two plans of built-in types ask for checks that are compared, or are settled alike. Parts
may stand in another order, alternatives may not. -/
inductive Plan.Matches (Pair : Check → Check → Prop) : Plan → Plan → Prop
  | pass : Matches Pair .pass .pass
  | settle (passed : Bool) (failure fault : Failure) :
    Matches Pair (.settle passed failure) (.settle passed fault)
  | misconfigured (m : Misconfiguration) : Matches Pair (.misconfigured m) (.misconfigured m)
  | all {parts pieces : List Part} (failure fault : Failure)
    (h : Counterparts (Part.Matches Pair) parts pieces) :
    Matches Pair (.all parts failure) (.all pieces fault)
  | any {alternatives choices : List Check} (failure fault : Failure)
    (h : List.Forall₂ Pair alternatives choices) :
    Matches Pair (.any alternatives failure) (.any choices fault)

/-- Composite plans match if their declarations and contents correspond, and so their parts do. -/
theorem Plan.matches_composite {Pair : Check → Check → Prop} {α β γ δ : Type}
    {R : α → β → Prop} {S : γ → δ → Prop} {declared : Option α} {declared' : Option β}
    {held : Option γ} {held' : Option δ} {m : Misconfiguration} {parts : α → γ → List Part}
    {pieces : β → δ → List Part} {failure : α → Failure} {fault : β → Failure}
    (descriptor : Option.Rel R declared declared') (value : Option.Rel S held held')
    (h : ∀ a b x y, R a b → S x y → Counterparts (Part.Matches Pair) (parts a x) (pieces b y)) :
    Plan.Matches Pair (.composite m declared held parts failure)
      (.composite m declared' held' pieces fault) := by
  -- Neither declares anything, or both do; the value is looked at only then.
  cases descriptor with
  | none => exact .misconfigured m
  | some declares =>
    cases value with
    | none => exact .settle _ _ _
    | some holds => exact .all _ _ (h _ _ _ _ declares holds)

/-- Two checks of the same or equal values against the same or equal descriptors, at one
path. -/
structure Check.Akin (table : PredicateTable) (c d : Check) : Prop where
  path : c.path = d.path
  value : c.value.Same d.value
  descriptor : c.descriptor.Akin table d.descriptor

namespace Check

variable {table : PredicateTable} {c d : Check}

/-- The items of equal arrays are checked alike against akin element descriptors. -/
theorem matches_itemParts (path : c.path = d.path) {element element' : Descriptor}
    (descriptor : element.Akin table element') {items others : List Value}
    (h : List.Forall₂ Value.Same items others) :
    Counterparts (Part.Matches (Akin table)) (c.itemParts element 0 items)
      (d.itemParts element' 0 others) := by
  refine (Counterparts.of_forall₂ (forall₂_zipIdx h 0)).map ?_
  rintro ⟨value, index⟩ ⟨value', _⟩ ⟨rfl, same⟩
  exact .check ⟨by rw [path], same, descriptor⟩

/-- The fields of equal records are checked alike, in whatever order. -/
theorem matches_fieldParts (path : c.path = d.path) {element element' : Descriptor}
    (descriptor : element.Akin table element') {record other : Record} (h : record.Same other) :
    Counterparts (Part.Matches (Akin table)) (c.fieldParts element record.fields.toList)
      (d.fieldParts element' other.fields.toList) := by
  refine h.fields.counterparts.map ?_
  rintro ⟨key, value⟩ ⟨_, value'⟩ ⟨rfl, same⟩
  exact .check ⟨by rw [path], same, descriptor⟩

/-- The same declared properties, in whatever order, are checked alike on equal records. -/
theorem matches_propertyParts (path : c.path = d.path) {properties properties' : Schema}
    (h : properties.Agree (Descriptor.Akin table) properties') {record other : Record}
    (same : record.Same other) :
    Counterparts (Part.Matches (Akin table)) (c.propertyParts record properties.toList)
      (d.propertyParts other properties'.toList) := by
  refine h.counterparts.map ?_
  rintro ⟨key, descriptor⟩ ⟨_, descriptor'⟩ ⟨rfl, akin⟩
  have held := same.lookup? key
  dsimp only
  -- Found in both records or in neither.
  generalize record.lookup? key = found at held
  generalize other.lookup? key = found' at held
  cases held with
  | none =>
    rw [akin.corresponds.required]
    exact .settle _ _ _
  | some same => exact .check ⟨by rw [path], same, akin⟩

/-- The same names, in whatever order, are settled alike. -/
theorem matches_nameParts {declared declared' names names' : List String}
    (h : declared.Perm declared') (same : names.Perm names') :
    Counterparts (Part.Matches (Akin table)) (c.nameParts declared names)
      (d.nameParts declared' names') := by
  refine (Counterparts.of_perm same).map ?_
  rintro name _ rfl
  have declares : Session.declares declared name = Session.declares declared' name := h.any_eq
  rw [declares]
  exact .settle _ _ _

/-- Alternatives are tried in the same order. -/
theorem matches_alternatives (h : c.Akin table d) :
    List.Forall₂ (Akin table) c.alternatives d.alternatives := by
  refine List.forall₂_map_left_iff.mpr (List.forall₂_map_right_iff.mpr ?_)
  exact h.descriptor.corresponds.alternatives.imp fun _ _ akin => ⟨h.path, h.value, akin⟩

/-- A built-in type asks akin checks the same. -/
theorem matches_builtinPlan (h : c.Akin table d) (type : BuiltinType) :
    Plan.Matches (Akin table) (c.builtinPlan type) (d.builtinPlan type) := by
  have fields := h.descriptor.corresponds
  -- What a type looks at is the same up to equality, so the plans branch alike.
  cases type with
  | any => exact .pass
  | instanceOf =>
    rw [builtinPlan_instanceOf, builtinPlan_instanceOf, fields.className]
    cases d.descriptor.className? with
    | none => exact .misconfigured _
    | some className =>
      have belongs : (c.value.asRecord?.any fun record => record.className == some className) =
          d.value.asRecord?.any fun record => record.className == some className :=
        any_eq_of_rel h.value.asRecord? fun _ _ same => by rw [same.className]
      dsimp only
      rw [belongs]
      exact .settle _ _ _
  | custom =>
    have predicate := h.descriptor.predicate h.value
    simp only [builtinPlan]
    generalize c.descriptor.predicate? = p at predicate
    generalize d.descriptor.predicate? = q at predicate
    cases predicate with
    | none => exact .misconfigured _
    | some same =>
      simp only [same]
      exact .settle _ _ _
  | oneOf =>
    have listed := Value.any_equals_of_same fields.values h.value
    have empty := isEmpty_eq_of_forall₂ fields.values
    simp only [builtinPlan, listed, empty]
    split
    · exact .misconfigured _
    · exact .settle _ _ _
  | oneOfType =>
    have empty := isEmpty_eq_of_forall₂ fields.alternatives
    simp only [builtinPlan, empty]
    split
    · exact .misconfigured _
    · exact .any _ _ (matches_alternatives h)
  | arrayOf =>
    rw [builtinPlan_arrayOf, builtinPlan_arrayOf]
    refine Plan.matches_composite fields.element h.value.asArray? ?_
    exact fun _ _ _ _ element items => matches_itemParts h.path element items
  | objectOf =>
    rw [builtinPlan_objectOf, builtinPlan_objectOf]
    refine Plan.matches_composite fields.element h.value.asPlainRecord? ?_
    exact fun _ _ _ _ element record => matches_fieldParts h.path element record
  | iface =>
    rw [builtinPlan_iface, builtinPlan_iface]
    refine Plan.matches_composite fields.properties h.value.asRecord? ?_
    exact fun _ _ _ _ agree record => matches_propertyParts h.path agree record
  | shape =>
    rw [builtinPlan_shape, builtinPlan_shape]
    refine Plan.matches_composite fields.properties h.value.asPlainRecord? ?_
    intro _ _ _ _ agree record
    exact (matches_propertyParts h.path agree record).append
      (matches_nameParts agree.keys_perm record.fields.keys_perm)
  | _ =>
    simp only [builtinPlan, BuiltinType.kind?, h.value.kind_eq]
    exact .settle _ _ _

end Check

/-- The predicates of stored schemas are those of the table. -/
def Registry.Draws (registry : Registry) (table : PredicateTable) : Prop :=
  ∀ name stored, registry.get? name = some (.rule (.schema stored)) → stored.Draws table

namespace Session

variable {table : PredicateTable} {s : Session} {c d : Check}

/-- An expectation answers its verdict, whatever it reports. -/
theorem sameVerdict_expect (log : s.onFailure = .log) (c d : Check) (passed : Bool)
    (failure fault : Failure) :
    Run.SameVerdict Bool (s.expect c passed failure) (s.expect d passed fault) := by
  unfold Run.SameVerdict
  rw [expect_of_log log, expect_of_log log]

/-- Following plans that match comes to the same verdict, if the nested checks do. -/
theorem sameVerdict_follow (log : s.onFailure = .log) {plan other : Plan}
    (h : Plan.Matches (Check.Akin table) plan other)
    (part : ∀ inner outer parts failure, plan = .all parts failure → .check inner ∈ parts →
      inner.Akin table outer → Run.SameVerdict Bool (s.check inner) (s.check outer))
    (alternative : ∀ inner outer alternatives failure, plan = .any alternatives failure →
      inner ∈ alternatives → inner.Akin table outer →
        Run.SameVerdict Bool (s.check inner) (s.check outer)) :
    Run.SameVerdict Bool (s.follow c plan) (s.follow d other) := by
  have congruence := Run.congruence_sameVerdict
  cases h with
  | pass => rfl
  | settle passed failure fault => exact sameVerdict_expect log c d passed failure fault
  | misconfigured m => rfl
  | @all parts pieces failure fault matched =>
    refine congruence.bind ?_ fun passed => sameVerdict_expect log c d passed failure fault
    refine Run.sameVerdict_all_map (matched.imp fun item piece mem _ same => ?_)
    cases same with
    | check akin => exact part _ _ parts failure rfl mem akin
    | settle passed failure fault => exact sameVerdict_expect log c d passed failure fault
  | @any alternatives choices failure fault matched =>
    -- Alternatives are tried in the same order, so the runs correspond one by one.
    refine congruence.bind (congruence.any ?_) fun passed =>
      sameVerdict_expect log c d passed failure fault
    refine List.forall₂_map_left_iff.mpr (List.forall₂_map_right_iff.mpr ?_)
    exact forall₂_imp_mem matched fun inner outer mem _ akin =>
      alternative inner outer alternatives failure rfl mem akin

/-- Akin checks in the same session come to the same verdict. -/
theorem check_akin (built : s.registry.Declarative) (draws : s.registry.Draws table)
    (log : s.onFailure = .log) (h : c.Akin table d) :
    Run.SameVerdict Bool (s.check c) (s.check d) := by
  induction s, c using check_induction generalizing d with
  | step s c ih =>
    have type : c.descriptor.type = d.descriptor.type := h.descriptor.corresponds.type
    cases resolved : s.registry.resolve c.descriptor.type with
    | error e =>
      have resolved' : s.registry.resolve d.descriptor.type = .error e := type ▸ resolved
      rw [check_of_error resolved, check_of_error resolved']
      rfl
    | ok owned =>
      obtain ⟨name, rule⟩ := owned
      have leads := Registry.resolve_eq_ok_iff.mp resolved
      have leads' : s.registry.Leads d.descriptor.type name rule := type ▸ leads
      cases rule with
      | builtin type =>
        have hplan := plan_of_builtin (s := s) leads
        rw [check_eq_follow, check_eq_follow, hplan, plan_of_builtin leads']
        refine sameVerdict_follow log (Check.matches_builtinPlan h type) ?_ ?_
        · intro inner outer parts failure hparts mem akin
          exact ih s inner (.part (hplan.trans hparts) mem) built draws log akin
        · intro inner outer alternatives failure halternatives mem akin
          exact ih s inner (.alternative (hplan.trans halternatives) mem) built draws log akin
      | schema stored =>
        -- Both checks go on with one stored descriptor, which need not be equal to itself.
        have resolved' := Registry.resolve_eq_ok_iff.mpr leads'
        have entered : Check.Akin table { c with descriptor := stored }
            { d with descriptor := stored } :=
          ⟨h.path, h.value, .inl rfl, draws name stored leads.owned, draws name stored leads.owned⟩
        by_cases active : (name, c.path) ∈ s.active
        · rw [check_of_active resolved active, check_of_active resolved' (h.path ▸ active)]
          rfl
        · have marked : s.enter name d.path = s.enter name c.path := by rw [h.path]
          rw [check_of_schema resolved active, check_of_schema resolved' (h.path ▸ active), marked]
          exact ih _ _ (.enter (plan_of_schema leads active)) built draws log entered
      | host rule => cases built.owns leads.owned

end Session

namespace Validator

variable {table : PredicateTable} {v : Validator}

/-- Validation comes to the same verdict for equal values and akin descriptors. -/
theorem validate_akin (built : v.registry.Declarative) (draws : v.registry.Draws table)
    (log : v.options.onFailure = .log) (context path : String) {value value' : Value}
    (same : value.Same value') {descriptor descriptor' : Descriptor}
    (akin : descriptor.Akin table descriptor') :
    Run.SameVerdict Bool (v.validate context path value descriptor)
      (v.validate context path value' descriptor') := by
  have undefined := same.isUndefined_eq
  cases hvalue : value.isUndefined with
  | true =>
    rw [hvalue] at undefined
    unfold Run.SameVerdict
    -- Undefined is accepted by both or by neither.
    rw [validate_of_undefined_of_log log hvalue, validate_of_undefined_of_log log undefined.symm,
      akin.corresponds.required]
  | false =>
    rw [hvalue] at undefined
    rw [validate_of_defined hvalue, validate_of_defined undefined.symm]
    exact Session.check_akin (s := .start _ _ _) built draws log ⟨rfl, same, akin⟩

/-- Schemas that agree fail the same properties of an object, or both end in an error. -/
theorem failedProperties_of_agree (built : v.registry.Declarative)
    (draws : v.registry.Draws table) (log : v.options.onFailure = .log) (context : String)
    (object : Record) (spread : Option String) {declared expected : Schema}
    (agree : declared.Agree (Descriptor.Akin table) expected) :
    (∃ failed failed',
      (v.failedProperties context object spread declared.toList).result = .ok failed ∧
      (v.failedProperties context object spread expected.toList).result = .ok failed' ∧
      ∀ name, name ∈ failed ↔ name ∈ failed') ∨
    ∃ e e', (v.failedProperties context object spread declared.toList).result = .error e ∧
      (v.failedProperties context object spread expected.toList).result = .error e' := by
  -- The schemas list the same names, perhaps in another order.
  have matched : Counterparts (fun p q => p.1 = q.1 ∧ Run.SameVerdict Bool
      (v.validateProperty context object spread p) (v.validateProperty context object spread q))
      declared.toList expected.toList := by
    refine agree.counterparts.imp ?_
    rintro ⟨name, descriptor⟩ ⟨_, descriptor'⟩ - - ⟨rfl, akin⟩
    exact ⟨rfl, validate_akin built draws log context name (.refl _) akin⟩
  have ended :
      (∃ failed, (v.failedProperties context object spread declared.toList).result = .ok failed) ↔
        ∃ failed, (v.failedProperties context object spread expected.toList).result =
          .ok failed := by
    rw [exists_failedProperties_eq_ok_iff, exists_failedProperties_eq_ok_iff]
    exact matched.forall_iff fun _ _ same => exists_congr fun _ => same.2.eq_ok_iff
  cases first : (v.failedProperties context object spread declared.toList).result with
  | ok failed =>
    obtain ⟨failed', second⟩ := ended.mp ⟨failed, first⟩
    refine .inl ⟨failed, failed', rfl, second, fun name => ?_⟩
    rw [mem_failed_iff first, mem_failed_iff second]
    exact matched.exists_iff fun p q same => by rw [same.1, same.2.eq_ok_iff]
  | error e =>
    cases second : (v.failedProperties context object spread expected.toList).result with
    | ok failed' =>
      obtain ⟨failed, h⟩ := ended.mpr ⟨failed', second⟩
      rw [first] at h
      cases h
    | error e' => exact .inr ⟨e, e', rfl, rfl⟩

/-- Validation respects equality. Where failures are logged, the same or equal values come to
the same verdict against equal descriptors, or both validations end in a mistake of the
declaration. So if no difference is found between two schemas, they fail the same properties
of every object, or both end in such a mistake. Predicates are those of a host that answers
alike for equal values. -/
theorem equality_is_respected (v : Validator) (built : v.registry.Declarative)
    (log : v.options.onFailure = .log) (table : PredicateTable)
    (draws : v.registry.Draws table) :
    (∀ (context path : String) (value value' : Value) (descriptor descriptor' : Descriptor),
      descriptor.equals descriptor' = true → value.Same value' →
      descriptor.Draws table → descriptor'.Draws table →
      let first := (v.validate context path value descriptor).result
      let second := (v.validate context path value' descriptor').result
      (∃ verdict, first = .ok verdict ∧ second = .ok verdict) ∨
        ∃ e e', first = .error e ∧ second = .error e' ∧
          e.isConfiguration = true ∧ e'.isConfiguration = true) ∧
    ∀ (context : String) (object : Record) (declared expected : Schema) (settings : Settings),
      settings.throwErrors = false → declared.Draws table → expected.Draws table →
      (Difference.between Descriptor.equals declared expected).messages = [] →
      let first := (v.validateProperties context object declared settings).result
      let second := (v.validateProperties context object expected settings).result
      (∃ report report', first = .ok report ∧ second = .ok report' ∧
        ∀ name, name ∈ report.failed ↔ name ∈ report'.failed) ∨
        ∃ e e', first = .error e ∧ second = .error e' ∧
          e.isConfiguration = true ∧ e'.isConfiguration = true := by
  constructor
  · intro context path value value' descriptor descriptor' equal same drawn drawn' first second
    have akin : descriptor.Akin table descriptor' := ⟨.inr equal, drawn, drawn'⟩
    rcases (validate_akin built draws log context path same akin).cases with agreed |
      ⟨e, e', hfirst, hsecond⟩
    · exact .inl agreed
    · exact .inr ⟨e, e', hfirst, hsecond, isConfiguration_of_validate built log hfirst,
        isConfiguration_of_validate built log hsecond⟩
  · intro context object declared expected settings calm drawn drawn' silent first second
    have agree : declared.Agree (Descriptor.Akin table) expected := by
      refine (Difference.messages_eq_nil_iff.mp silent).imp fun name d d' hd hd' equal => ?_
      exact ⟨.inr equal, drawn name d hd, drawn' name d' hd'⟩
    have hfirst : first = _ := validateProperties_result calm
    have hsecond : second = _ := validateProperties_result calm
    have compared := failedProperties_of_agree built draws log context object
      settings.spreadProperty agree
    rcases compared with ⟨failed, failed', h, h', same⟩ | ⟨e, e', h, h'⟩
    · rw [hfirst, hsecond, h, h']
      exact .inl ⟨_, _, rfl, rfl, same⟩
    · rw [hfirst, hsecond, h, h']
      -- The errors may come from different properties.
      obtain ⟨property, -, raised⟩ := failedProperties_eq_error h
      obtain ⟨property', -, raised'⟩ := failedProperties_eq_error h'
      exact .inr ⟨e, e', rfl, rfl, isConfiguration_of_validate built log raised,
        isConfiguration_of_validate built log raised'⟩

/-- A host with a predicate for being zero. -/
def zeroTable : PredicateTable where
  answer _ value :=
    match value with
    | .number n => n.isZero
    | _ => false
  respectful identity v w equal := by
    cases Value.equals_iff.mp equal with
    | number h => exact Number.isZero_eq_of_equals h
    | _ => rfl

/-- A property that has to be zero. -/
def zeroProperty : Descriptor :=
  { type := .builtin .custom, predicate? := some ⟨0, zeroTable.answer 0⟩ }

/-- A property that has to be there, and to be a number. -/
def numberProperty : Descriptor := { type := .builtin .number, required := true }

/-- Two properties, of which one has a predicate. -/
def axes : Schema := .ofList [("x", zeroProperty), ("y", numberProperty)]

/-- The same properties, declared the other way around. -/
def axesReordered : Schema := .ofList [("y", numberProperty), ("x", zeroProperty)]

/-- The shape of a record with some properties. -/
def shapeOf (schema : Schema) : Descriptor :=
  { type := .builtin .shape, properties? := some schema }

/-- The predicate of the first property is in the table. -/
theorem draws_zeroProperty : zeroProperty.Draws zeroTable := by
  refine Descriptor.draws_of_leaf rfl rfl rfl fun predicate h => ?_
  cases h
  rfl

/-- The second property has no predicate. -/
theorem draws_numberProperty : numberProperty.Draws zeroTable :=
  Descriptor.draws_of_leaf rfl rfl rfl fun _ h => nomatch h

/-- A shape draws its predicates from a table if its properties do. -/
theorem draws_shapeOf {schema : Schema} (h : schema.Draws zeroTable) :
    (shapeOf schema).Draws zeroTable := by
  refine Descriptor.draws_of_parts (fun _ own => nomatch own) fun part holds => ?_
  cases holds with
  | element inner => cases inner
  | property declared listed =>
    cases declared
    exact h _ _ listed
  | alternative listed => cases listed

/-- So do properties, if each of them is one of the two. -/
theorem draws_of_listed {schema : Schema}
    (h : ∀ pair ∈ schema.toList, pair.2 = zeroProperty ∨ pair.2 = numberProperty) :
    schema.Draws zeroTable := by
  intro name descriptor listed
  rcases h _ ((OrderedMap.get?_eq_some_iff _ _ _).mp listed) with rfl | rfl
  · exact draws_zeroProperty
  · exact draws_numberProperty

/-- A point whose fields are in another order and whose `x` is the other zero conforms to the
reordered shape as the point does to the shape, and the empty record misses its `y` in both. -/
theorem equality_is_respected_reordered :
    Registry.builtins.Declarative ∧ Registry.builtins.Draws zeroTable ∧
      (shapeOf axes).equals (shapeOf axesReordered) = true ∧
      (Difference.between Descriptor.equals axes axesReordered).messages = [] ∧
      (validate ⟨.builtins, .memory, {}⟩ "page" "origin"
        (.ofFields [("y", .number .zero), ("x", .number (.ofCode true 0))])
        (shapeOf axesReordered)).result = .ok true ∧
      ∃ report, (validateProperties ⟨.builtins, .memory, {}⟩ "page" .plain axesReordered
        {}).result = .ok report ∧ "y" ∈ report.failed := by
  have drawn : Schema.Draws axes zeroTable := by
    refine draws_of_listed ?_
    show ∀ pair ∈ [("x", zeroProperty), ("y", numberProperty)], _
    simp
  have drawn' : Schema.Draws axesReordered zeroTable := by
    refine draws_of_listed ?_
    show ∀ pair ∈ [("y", numberProperty), ("x", zeroProperty)], _
    simp
  have draws : Registry.builtins.Draws zeroTable := by
    intro name stored h
    cases Registry.Declarative.builtins.owns h with
    | schema name => cases h
  have equal : (shapeOf axes).equals (shapeOf axesReordered) = true := by decide
  have silent : (Difference.between Descriptor.equals axes axesReordered).messages = [] := rfl
  have same : (Value.ofFields [("x", .number .zero), ("y", .number .zero)]).equals
      (.ofFields [("y", .number .zero), ("x", .number (.ofCode true 0))]) = true := by decide
  -- The first run is evaluated, the second one follows from it.
  have first : (validate ⟨.builtins, .memory, {}⟩ "page" "origin"
      (.ofFields [("x", .number .zero), ("y", .number .zero)]) (shapeOf axes)).result =
      .ok true := by
    rw [validate_of_defined rfl, Session.check_of_builtin (Registry.resolve_builtins .shape),
      Session.checkBuiltin_eq_follow]
    show (Run.all [Session.check _ ⟨"page", "origin.x", .number .zero, zeroProperty, true⟩,
      Session.check _ ⟨"page", "origin.y", .number .zero, numberProperty, true⟩, _, _] >>=
        fun passed => _).result = _
    rw [Session.check_of_builtin (Registry.resolve_builtins .custom),
      Session.check_of_builtin (Registry.resolve_builtins .number),
      Session.checkBuiltin_eq_follow, Session.checkBuiltin_eq_follow]
    rfl
  have missing : (validateProperties ⟨.builtins, .memory, {}⟩ "page" .plain axes {}).result =
      .ok ⟨2, ["y"]⟩ := rfl
  obtain ⟨values, objects⟩ := equality_is_respected ⟨.builtins, .memory, {}⟩ .builtins rfl
    zeroTable draws
  have point := values "page" "origin" _ _ _ _ equal (.inr same) (draws_shapeOf drawn)
    (draws_shapeOf drawn')
  have record := objects "page" .plain axes axesReordered {} rfl drawn drawn' silent
  refine ⟨.builtins, draws, equal, silent, ?_, ?_⟩
  · rcases point with ⟨verdict, hfirst, hsecond⟩ | ⟨e, e', hfirst, -⟩
    · rw [first] at hfirst
      cases hfirst
      exact hsecond
    · rw [first] at hfirst
      cases hfirst
  · rcases record with ⟨report, report', hfirst, hsecond, failed⟩ | ⟨e, e', hfirst, -⟩
    · rw [missing] at hfirst
      cases hfirst
      exact ⟨report', hsecond, (failed "y").mp List.mem_cons_self⟩
    · rw [missing] at hfirst
      cases hfirst

end Validator

end PropShape
