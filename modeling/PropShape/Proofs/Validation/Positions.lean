import PropShape.Proofs.Validation.Parallel

/-!
# `PropShape.Proofs.Validation.Positions`: reports are put together from parts

The positions of a check are the values that it goes on to, each with its path
and its descriptor: defined properties, items and fields, at any depth, and
the same value against a stored schema. `Check.StepsTo` is one step, read off
the descriptor and the value alone. Alternatives of a union are no positions.

`positions_report_in_blocks` says that a check which comes to a verdict has
come to a verdict at each of its positions, the verdict of a check of this
position alone, and that what is reported there is one block of all reports.
Nothing is left out because something else failed before.

## Why a position may be checked alone

In the evaluation of the whole, schemas are marked as being expanded when it
comes to a position, and a fresh session has no such marks. Marks make a
difference at a cycle only, and a cycle ends the evaluation. So without them
a check that came to a verdict runs as before (`Session.check_of_relieves`).
-/

set_option autoImplicit false

namespace PropShape

open Relation (ReflTransGen)

/-! ## Blocks of reports -/

namespace Run

variable {ι : Type} {verdict : Bool}

/-- If all runs were carried out, their reports follow one another. -/
theorem all_map_diagnostics {f : ι → Run Bool} {items : List ι}
    (h : (all (items.map f)).result = .ok verdict) :
    (all (items.map f)).diagnostics = items.flatMap fun item => (f item).diagnostics := by
  induction items generalizing verdict with
  | nil => rfl
  | cons item rest ih =>
    rw [List.map_cons, all] at h ⊢
    obtain ⟨passed, hitem, h⟩ := bind_eq_ok_iff.mp h
    obtain ⟨others, hrest, -⟩ := bind_eq_ok_iff.mp h
    rw [bind_of_ok hitem, bind_of_ok hrest, List.flatMap_cons, ← ih hrest]
    simp only [pure_diagnostics, List.append_nil]

/-- The reports of one of them are a block. -/
theorem infix_all_map {f : ι → Run Bool} {items : List ι} {item : ι} (mem : item ∈ items)
    (h : (all (items.map f)).result = .ok verdict) :
    (f item).diagnostics <:+: (all (items.map f)).diagnostics := by
  rw [all_map_diagnostics h, List.flatMap_def]
  exact List.infix_of_mem_flatten (List.mem_map.mpr ⟨item, mem, rfl⟩)

end Run

/-! ## Fewer marks -/

/-- The runs are the same, unless the second one ends in a cycle. -/
def Run.SameUnlessCycle (α : Type) (run marked : Run α) : Prop :=
  run = marked ∨ ∃ path, marked.result = .error (.descriptorCycle path)

/-- Runs that are the same unless there is a cycle are put together as such. -/
theorem Run.congruence_sameUnlessCycle : Congruence SameUnlessCycle where
  pure a := .inl rfl
  bind := by
    intro α β run marked next onward first rest
    -- Once the marked run has ended in a cycle, nothing follows that could differ.
    rcases first with rfl | ⟨path, cycle⟩
    · cases h : run.result with
      | error e =>
        rw [bind_of_error h, bind_of_error h]
        exact .inl rfl
      | ok a =>
        rw [bind_of_ok h, bind_of_ok h]
        rcases rest a with same | ⟨path, cycle⟩
        · rw [same]
          exact .inl rfl
        · exact .inr ⟨path, cycle⟩
    · rw [bind_of_error cycle]
      exact .inr ⟨path, rfl⟩

namespace Session

variable {s t : Session} {c inner : Check}

/-- A session that differs in the schemas being expanded, of which it has no others. -/
structure Relieves (s t : Session) : Prop where
  registry : s.registry = t.registry
  sink : s.sink = t.sink
  onFailure : s.onFailure = t.onFailure
  active : ∀ mark ∈ s.active, mark ∈ t.active

/-- A fresh session has nothing marked, and so it relieves any other one. -/
theorem relieves_start (s : Session) : (start s.registry s.sink s.onFailure).Relieves s :=
  ⟨rfl, rfl, rfl, by simp [start]⟩

/-- Entering a schema on both sides marks the same name on both. -/
theorem Relieves.enter (h : s.Relieves t) (name : TypeName) (path : String) :
    (s.enter name path).Relieves (t.enter name path) where
  registry := h.registry
  sink := h.sink
  onFailure := h.onFailure
  active := by
    intro mark mem
    rcases List.mem_cons.mp mem with rfl | mem
    · exact List.mem_cons_self
    · exact List.mem_cons_of_mem _ (h.active mark mem)

/-- The same check, in a session and in one with more marks. -/
inductive Relieved : Pairing
  | intro {s t : Session} (c : Check) (built : s.registry.Declarative) (h : s.Relieves t) :
    Relieved s c t c

/-- A relieved session goes in step with the other one, unless there is a cycle. -/
theorem parallel_relieved : Relieved.Parallel Run.SameUnlessCycle where
  congruence := Run.congruence_sameUnlessCycle
  built := by
    rintro _ _ _ _ ⟨c, built, h⟩
    exact built
  same := by
    rintro _ _ _ _ ⟨c, built, h⟩
    exact ⟨h.registry, rfl, rfl⟩
  nested := by
    rintro _ _ _ _ inner other ⟨c, built, h⟩ nested
    cases nested <;> exact .intro _ built h
  report := by
    -- Reporting looks at the sink and at the policy.
    rintro s t c _ ⟨_, built, h⟩ passed failure
    have same : s.expect c passed (failure c.path) = t.expect c passed (failure c.path) := by
      unfold expect fail
      rw [h.sink, h.onFailure]
    exact .inl same
  misconfigured := by
    rintro s t c _ ⟨_, built, h⟩ m
    have same : s.misconfigured c m = t.misconfigured c m := by
      unfold misconfigured
      rw [h.sink]
    exact .inl same
  unresolved := fun _ => .inl rfl
  schema := by
    rintro s t c _ name stored ⟨_, built, h⟩ leads
    by_cases marked : (name, c.path) ∈ t.active
    · have leads' : t.registry.Leads c.descriptor.type name (.schema stored) := h.registry ▸ leads
      have cycle := check_of_active (Registry.resolve_eq_ok_iff.mpr leads') marked
      rw [cycle]
      exact .inl (.inr ⟨c.path, rfl⟩)
    · have new : (name, c.path) ∉ s.active := fun old => marked (h.active _ old)
      exact .inr ⟨new, marked, .intro _ built (h.enter name c.path)⟩

/-- A check that comes to a verdict does the same with fewer schemas being expanded. -/
theorem check_of_relieves (built : s.registry.Declarative) (h : s.Relieves t) {verdict : Bool}
    (ended : (t.check c).result = .ok verdict) : s.check c = t.check c := by
  have compared : Run.SameUnlessCycle Bool (s.check c) (t.check c) :=
    related_of_parallel parallel_relieved (.intro c built h)
  rcases compared with same | ⟨path, cycle⟩
  · exact same
  · rw [cycle] at ended
    cases ended

end Session

/-! ## Positions -/

namespace Check

/-- One step from a position to another one: into a property that is defined, into an item,
into a field, or into a stored schema at the same value. A step is taken where the type goes
into the value at all, so below `shape` and `objectOf` the value is a plain record. -/
inductive StepsTo (registry : Registry) (c : Check) : Check → Prop
  | iface {owner : TypeName} {properties : Schema} {record : Record} {key : String}
    {descriptor : Descriptor} {value : Value}
    (leads : registry.Leads c.descriptor.type owner (.builtin .iface))
    (declared : c.descriptor.properties? = some properties) (holds : c.value = .object record)
    (listed : properties.get? key = some descriptor) (defined : record.lookup? key = some value) :
    StepsTo registry c { c with path := Path.key c.path key, value, descriptor }
  | shape {owner : TypeName} {properties : Schema} {fields : OrderedMap String Value}
    {key : String} {descriptor : Descriptor} {value : Value}
    (leads : registry.Leads c.descriptor.type owner (.builtin .shape))
    (declared : c.descriptor.properties? = some properties)
    (holds : c.value = .object ⟨none, fields⟩) (listed : properties.get? key = some descriptor)
    (defined : Record.lookup? ⟨none, fields⟩ key = some value) :
    StepsTo registry c { c with path := Path.key c.path key, value, descriptor }
  | item {owner : TypeName} {descriptor : Descriptor} {items : List Value} {index : Nat}
    {value : Value} (leads : registry.Leads c.descriptor.type owner (.builtin .arrayOf))
    (declared : c.descriptor.element? = some descriptor) (holds : c.value = .array items)
    (listed : items[index]? = some value) :
    StepsTo registry c { c with path := Path.item c.path index, value, descriptor }
  | field {owner : TypeName} {descriptor : Descriptor} {fields : OrderedMap String Value}
    {key : String} {value : Value}
    (leads : registry.Leads c.descriptor.type owner (.builtin .objectOf))
    (declared : c.descriptor.element? = some descriptor)
    (holds : c.value = .object ⟨none, fields⟩) (listed : fields.get? key = some value) :
    StepsTo registry c { c with path := Path.key c.path key, value, descriptor }
  | schema {name : TypeName} {stored : Descriptor}
    (leads : registry.Leads c.descriptor.type name (.schema stored)) :
    StepsTo registry c { c with descriptor := stored }

/-- A check that is any number of steps away. -/
def Position (registry : Registry) (c inner : Check) : Prop :=
  ReflTransGen (StepsTo registry) c inner

variable {c : Check}

/-- A declared property that is defined has its part. -/
theorem mem_propertyParts {record : Record} {properties : Schema} {key : String}
    {descriptor : Descriptor} {value : Value} (listed : properties.get? key = some descriptor)
    (defined : record.lookup? key = some value) :
    .check { c with path := Path.key c.path key, value, descriptor } ∈
      c.propertyParts record properties.toList := by
  refine List.mem_map.mpr ⟨(key, descriptor), (OrderedMap.get?_eq_some_iff _ _ _).mp listed, ?_⟩
  simp only [defined]

/-- A nested check among the parts of a record is that of a declared property that is defined. -/
theorem of_mem_propertyParts {record : Record} {properties : Schema} {inner : Check}
    (mem : .check inner ∈ c.propertyParts record properties.toList) :
    ∃ key descriptor value, properties.get? key = some descriptor ∧
      record.lookup? key = some value ∧
      inner = { c with path := Path.key c.path key, value, descriptor } := by
  obtain ⟨⟨key, descriptor⟩, listed, heq⟩ := List.mem_map.mp mem
  simp only at heq
  -- An absent property is settled without a check.
  split at heq
  · cases heq
  · next value defined =>
    cases heq
    exact ⟨key, descriptor, value, (OrderedMap.get?_eq_some_iff _ _ _).mpr listed, defined, rfl⟩

/-- Every item has its part. -/
theorem mem_itemParts {descriptor : Descriptor} {items : List Value} {index : Nat} {value : Value}
    (listed : items[index]? = some value) :
    .check { c with path := Path.item c.path index, value, descriptor } ∈
      c.itemParts descriptor 0 items :=
  List.mem_map.mpr ⟨(value, index), List.mem_zipIdx_iff_getElem?.mpr listed, rfl⟩

/-- Every field has its part. -/
theorem mem_fieldParts {descriptor : Descriptor} {fields : OrderedMap String Value} {key : String}
    {value : Value} (listed : fields.get? key = some value) :
    .check { c with path := Path.key c.path key, value, descriptor } ∈
      c.fieldParts descriptor fields.toList :=
  List.mem_map.mpr ⟨(key, value), (OrderedMap.get?_eq_some_iff _ _ _).mp listed, rfl⟩

/-- A check that a built-in type asks for among its parts is one step away. -/
theorem stepsTo_of_builtinPlan {registry : Registry} {owner : TypeName} {type : BuiltinType}
    {inner : Check} {parts : List Part} {failure : Failure}
    (leads : registry.Leads c.descriptor.type owner (.builtin type))
    (h : c.builtinPlan type = .all parts failure) (mem : .check inner ∈ parts) :
    c.StepsTo registry inner := by
  cases type with
  -- The types without parts.
  | instanceOf | custom | oneOf | oneOfType =>
    simp only [builtinPlan] at h
    split at h <;> cases h
  | arrayOf =>
    simp only [builtinPlan] at h
    split at h
    · cases h
    · next descriptor declared =>
      split at h
      · next items holds =>
        cases h
        obtain ⟨⟨value, index⟩, listed, heq⟩ := List.mem_map.mp mem
        cases heq
        exact .item leads declared holds (List.mem_zipIdx_iff_getElem?.mp listed)
      · cases h
  | objectOf =>
    simp only [builtinPlan] at h
    split at h
    · cases h
    · next descriptor declared =>
      split at h
      · next fields holds =>
        cases h
        obtain ⟨⟨key, value⟩, listed, heq⟩ := List.mem_map.mp mem
        cases heq
        exact .field leads declared holds ((OrderedMap.get?_eq_some_iff _ _ _).mpr listed)
      · cases h
  | iface =>
    simp only [builtinPlan] at h
    split at h
    · cases h
    · next properties declared =>
      split at h
      · next record holds =>
        cases h
        obtain ⟨key, descriptor, value, listed, defined, rfl⟩ := of_mem_propertyParts mem
        exact .iface leads declared holds listed defined
      · cases h
  | shape =>
    simp only [builtinPlan] at h
    split at h
    · cases h
    · next properties declared =>
      split at h
      · next fields holds =>
        cases h
        rcases List.mem_append.mp mem with mem | mem
        · obtain ⟨key, descriptor, value, listed, defined, rfl⟩ := of_mem_propertyParts mem
          exact .shape leads declared holds listed defined
        · exact absurd mem check_notMem_nameParts
      · cases h
  | _ => cases h

end Check

namespace Session

variable {s : Session} {c inner : Check} {verdict : Bool}

/-- A step into the value is a part of the plan, and any other step goes to a schema. -/
theorem part_or_schema_of_stepsTo (step : c.StepsTo s.registry inner) :
    (∃ parts failure, s.plan c = .all parts failure ∧ .check inner ∈ parts) ∨
      ∃ name stored, s.registry.Leads c.descriptor.type name (.schema stored) ∧
        inner = { c with descriptor := stored } := by
  -- In each case the plan of the check is known, and the step is one of its parts.
  cases step with
  | @iface _ properties record _ _ _ leads declared holds listed defined =>
    have hplan : s.plan c = .all (c.propertyParts record properties.toList)
        (.mismatch c.path .interface (.object record)) := by
      rw [plan_of_builtin leads, Check.builtinPlan, declared, holds]
    exact .inl ⟨_, _, hplan, Check.mem_propertyParts listed defined⟩
  | @shape _ properties fields _ _ _ leads declared holds listed defined =>
    have hplan : s.plan c = .all (c.propertyParts ⟨none, fields⟩ properties.toList ++
        c.nameParts properties.keys fields.keys)
        (.mismatch c.path .shape (.object ⟨none, fields⟩)) := by
      rw [plan_of_builtin leads, Check.builtinPlan, declared, holds]
    exact .inl ⟨_, _, hplan, List.mem_append_left _ (Check.mem_propertyParts listed defined)⟩
  | @item _ descriptor items _ _ leads declared holds listed =>
    have hplan : s.plan c = .all (c.itemParts descriptor 0 items)
        (.notArrayOf c.path descriptor.expectedType) := by
      rw [plan_of_builtin leads, Check.builtinPlan, declared, holds]
    exact .inl ⟨_, _, hplan, Check.mem_itemParts listed⟩
  | @field _ descriptor fields _ _ leads declared holds listed =>
    have hplan : s.plan c = .all (c.fieldParts descriptor fields.toList)
        (.notObjectOf c.path descriptor.expectedType) := by
      rw [plan_of_builtin leads, Check.builtinPlan, declared, holds]
    exact .inl ⟨_, _, hplan, Check.mem_fieldParts listed⟩
  | schema leads => exact .inr ⟨_, _, leads, rfl⟩

/-- The checks among the parts of a plan are those that are one step away. -/
theorem check_mem_parts_iff {parts : List Part} {failure : Failure}
    (h : s.plan c = .all parts failure) :
    .check inner ∈ parts ↔ c.StepsTo s.registry inner := by
  constructor
  · intro mem
    rcases plan_cases s c with ⟨owner, type, leads, hplan⟩ | ⟨e, hplan⟩ | ⟨name, next, hplan⟩ |
      ⟨rule, hplan⟩
    · exact Check.stepsTo_of_builtinPlan leads (hplan.symm.trans h) mem
    all_goals
      rw [h] at hplan
      cases hplan
  · intro step
    rcases part_or_schema_of_stepsTo step with ⟨parts', failure', hplan, mem⟩ |
      ⟨name, stored, leads, -⟩
    · cases h.symm.trans hplan
      exact mem
    · -- A type that stands for a schema does not go through parts.
      by_cases active : (name, c.path) ∈ s.active
      · cases h.symm.trans (plan_of_active leads active)
      · cases h.symm.trans (plan_of_schema leads active)

/-- The reports of a check that goes through a value part by part are those of the parts,
one after the other, and then its own. -/
theorem diagnostics_of_parts {parts : List Part} {failure : Failure}
    (h : (s.check c).result = .ok verdict) (hplan : s.plan c = .all parts failure) :
    (s.check c).diagnostics = (parts.flatMap fun part => (s.checkPart c part).diagnostics) ++
      (s.expect c verdict failure).diagnostics := by
  rw [check_eq_follow, hplan, follow] at h ⊢
  obtain ⟨passed, hparts, own⟩ := Run.bind_eq_ok_iff.mp h
  obtain rfl : verdict = passed := expect_eq_ok own
  rw [Run.bind_of_ok hparts, Run.all_map_diagnostics hparts]

/-- What is one step away was checked in a session like this one, came to a verdict, and
reported one block. -/
theorem block_of_stepsTo (h : (s.check c).result = .ok verdict)
    (step : c.StepsTo s.registry inner) :
    ∃ t passed, (start s.registry s.sink s.onFailure).Relieves t ∧
      (t.check inner).result = .ok passed ∧
      (t.check inner).diagnostics <:+: (s.check c).diagnostics := by
  rcases part_or_schema_of_stepsTo step with ⟨parts, failure, hplan, mem⟩ |
    ⟨name, stored, leads, rfl⟩
  · rw [check_eq_follow, hplan] at h ⊢
    obtain ⟨passed, hparts, -⟩ := Run.bind_eq_ok_iff.mp h
    obtain ⟨innerVerdict, hinner⟩ := (Run.of_all_map_eq_ok hparts).1 (.check inner) mem
    have block := Run.infix_all_map mem hparts
    refine ⟨s, innerVerdict, relieves_start s, hinner, block.trans ?_⟩
    rw [follow, Run.bind_of_ok hparts]
    exact (List.prefix_append _ _).isInfix
  · have resolved := Registry.resolve_eq_ok_iff.mpr leads
    by_cases active : (name, c.path) ∈ s.active
    · -- A cycle comes to no verdict.
      rw [check_of_active resolved active] at h
      cases h
    · rw [check_of_schema resolved active] at h ⊢
      exact ⟨s.enter name c.path, verdict, relieves_start (s.enter name c.path), h, List.infix_rfl⟩

/-- Reports are exhaustive and put together from parts. If a check comes to a verdict, then
at each of its positions a check of this position alone, in a fresh session, comes to a
verdict too, and what it reports is one block of what the whole reports. So no failure keeps
a later one from being reported, and no mistake in the declaration of a position is passed
over. At a position whose type goes through the value part by part, the block consists of
the blocks of the parts, in their order, and of the report of the position itself; and the
checks among these parts are the positions that are one step away. -/
theorem positions_report_in_blocks (s : Session) (built : s.registry.Declarative) (c : Check)
    (verdict : Bool) (h : (s.check c).result = .ok verdict) (inner : Check)
    (position : c.Position s.registry inner) :
    let fresh := start s.registry s.sink s.onFailure
    ∃ passed, (fresh.check inner).result = .ok passed ∧
      (fresh.check inner).diagnostics <:+: (s.check c).diagnostics ∧
      ∀ parts failure, fresh.plan inner = .all parts failure →
        (∀ next, .check next ∈ parts ↔ inner.StepsTo s.registry next) ∧
        (fresh.check inner).diagnostics =
          (parts.flatMap fun part => (fresh.checkPart inner part).diagnostics) ++
            (fresh.expect inner passed failure).diagnostics := by
  intro fresh
  have built' : fresh.registry.Declarative := built
  have block : ∃ passed, (fresh.check inner).result = .ok passed ∧
      (fresh.check inner).diagnostics <:+: (s.check c).diagnostics := by
    induction position with
    | refl =>
      rw [check_of_relieves built' (relieves_start s) h]
      exact ⟨verdict, h, List.infix_rfl⟩
    | @tail middle inner _ step ih =>
      obtain ⟨middleVerdict, hmiddle, outer⟩ := ih
      obtain ⟨t, passed, relieves, hinner, within⟩ := block_of_stepsTo hmiddle step
      -- In the evaluation of the middle position some more schemas may be marked.
      have alone : fresh.check inner = t.check inner := check_of_relieves built' relieves hinner
      rw [alone]
      exact ⟨passed, hinner, within.trans outer⟩
  obtain ⟨passed, hinner, within⟩ := block
  refine ⟨passed, hinner, within, fun parts failure hplan => ⟨fun next => ?_, ?_⟩⟩
  · exact check_mem_parts_iff (s := fresh) hplan
  · exact diagnostics_of_parts hinner hplan

/-- A node that holds null where the next node should be. -/
def brokenList : Value := .ofFields [("next", .null)]

/-- The failure at the next node and the one at the list are both reported, and the first
one is the block of the next node. -/
theorem positions_report_in_blocks_list :
    Registry.linked.Declarative ∧
      (start .linked .memory .log).check ⟨"list", "head", brokenList, .ofType (.named "node"),
          true⟩ =
        ⟨[⟨"list", .failure (.mismatch "head.next" .shape .null), .log⟩,
          ⟨"list", .failure (.mismatch "head" .shape brokenList), .log⟩], .ok false⟩ ∧
      Check.Position .linked ⟨"list", "head", brokenList, .ofType (.named "node"), true⟩
        ⟨"list", "head.next", .null, .ofType (.named "node"), true⟩ ∧
      ((start .linked .memory .log).check ⟨"list", "head.next", .null, .ofType (.named "node"),
          true⟩).diagnostics <:+:
        [⟨"list", .failure (.mismatch "head.next" .shape .null), .log⟩,
          ⟨"list", .failure (.mismatch "head" .shape brokenList), .log⟩] := by
  have node := Registry.resolve_eq_ok_iff.mpr Registry.leads_linked_node
  have shape := Registry.resolve_eq_ok_iff.mpr Registry.leads_linked_shape
  have run : (start .linked .memory .log).check
      ⟨"list", "head", brokenList, .ofType (.named "node"), true⟩ =
      ⟨[⟨"list", .failure (.mismatch "head.next" .shape .null), .log⟩,
        ⟨"list", .failure (.mismatch "head" .shape brokenList), .log⟩], .ok false⟩ := by
    rw [check_of_schema node (by simp [start]), check_of_builtin shape, checkBuiltin_eq_follow]
    show (Run.all [check _ ⟨"list", "head.next", .null, .ofType (.named "node"), true⟩, _] >>=
      fun passed => _) = _
    rw [check_of_schema node (by simp [start, enter]), check_of_builtin shape,
      checkBuiltin_eq_follow]
    rfl
  -- From the stored schema of the node to its property.
  have position : Check.Position .linked ⟨"list", "head", brokenList, .ofType (.named "node"), true⟩
      ⟨"list", "head.next", .null, .ofType (.named "node"), true⟩ := by
    have declared : Registry.node.properties? =
        some (.ofList [("next", .ofType (.named "node"))]) := rfl
    have listed : (OrderedMap.ofList [("next", Descriptor.ofType (.named "node"))]).get? "next" =
        some (.ofType (.named "node")) := rfl
    have defined : Record.lookup? ⟨none, .ofList [("next", .null)]⟩ "next" = some .null := rfl
    refine .head (.schema Registry.leads_linked_node) (.single ?_)
    exact .shape Registry.leads_linked_shape declared rfl listed defined
  have blocks := positions_report_in_blocks (start .linked .memory .log)
    Registry.declarative_linked _ false (by rw [run]) _ position
  obtain ⟨passed, -, block, -⟩ := blocks
  rw [run] at block
  exact ⟨Registry.declarative_linked, run, position, block⟩

end Session

end PropShape
