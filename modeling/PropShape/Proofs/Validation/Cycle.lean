import PropShape.Proofs.Validation.Reach

/-!
# `PropShape.Proofs.Validation.Cycle`: when a declaration is a cycle

A session recognises a cycle by comparing names and paths with those on its
stack of active schemas. What a cycle is can be said without either stack or
comparison: an evaluation enters a schema, and comes back to the schema while
it is still being expanded, without having gone into the value
(`Session.Reenters`).

* `validate_descriptorCycle_iff`: validation ends in a descriptor cycle
  exactly in this case, and names the path at which it happens.
* It also says when this never happens. `Registry.Guarded` asks that no schema
  comes back to itself by aliases, alternatives and other schemas alone.

## The two halves of the equivalence

A schema that is active at the path was entered on the chain that leads here
(`Reaches.of_mem_active`), so schemas that were expanded beside the chain
raise no false alarm. It was entered at a path of the same length, so the
chain has not gone into the value since (`Reaches.path_eq_iff`), whatever the
properties are called. The other way around, a chain that does not go into
the value keeps the path, and what was entered on it is still active at its
end, so no cycle is missed.
-/

set_option autoImplicit false

namespace PropShape

open Relation (ReflTransGen TransGen)

namespace Session

/-- On the way, the evaluation of a check enters a schema under its name, and comes to a
check at the given path whose type stands for the schema again. The schema is still being
expanded there, and no move since its entry went into a field or an item. -/
def Reenters (s : Session) (c : Check) (name : TypeName) (path : String) : Prop :=
  ∃ before u outer entered between t inner stored,
    s.Reaches c before u outer ∧
    u.Makes outer (.expand name) (u.enter name outer.path) entered ∧
    (u.enter name outer.path).Reaches entered between t inner ∧ .part ∉ between ∧
    inner.path = path ∧ t.registry.Leads inner.descriptor.type name (.schema stored)

variable {s t : Session} {c inner : Check} {path : String}

/-- The plan of a check is a cycle exactly if its type stands for a schema that is active
at its path. -/
theorem plan_eq_descriptorCycle_iff :
    s.plan c = .raise (.descriptorCycle path) ↔
      c.path = path ∧ ∃ name stored, s.registry.Leads c.descriptor.type name (.schema stored) ∧
        (name, path) ∈ s.active := by
  constructor
  · intro h
    rcases cause_of_plan h with unresolved | ⟨name, stored, leads, active, heq⟩
    · -- A name that does not resolve is another kind of mistake.
      rcases Registry.resolve_eq_error unresolved with ⟨_, heq⟩ | ⟨_, heq⟩ <;> cases heq
    · cases heq
      exact ⟨rfl, name, stored, leads, active⟩
  · rintro ⟨rfl, name, stored, leads, active⟩
    exact plan_of_active leads active

/-- A check in a fresh session ends in a descriptor cycle exactly if a schema is entered
again without a step into the value. -/
theorem check_eq_descriptorCycle_iff (built : s.registry.Declarative) (fresh : s.active = []) :
    (s.check c).result = .error (.descriptorCycle path) ↔ ∃ name, s.Reenters c name path := by
  rw [check_eq_error_iff built (by simp)]
  constructor
  · rintro ⟨moves, t, inner, reached, cycle⟩
    obtain ⟨hpath, name, stored, leads, active⟩ := plan_eq_descriptorCycle_iff.mp cycle
    -- The entry on the stack was made on the chain, since the session was fresh.
    rcases reached.of_mem_active active with old | ⟨before, u, outer, entered, between, hbefore,
      houter, expand, onward⟩
    · simp [fresh] at old
    · have start : entered.path = outer.path := expand.path_eq (by simp)
      have stays : .part ∉ between :=
        onward.path_eq_iff.mp (by rw [hpath, start, houter])
      exact ⟨name, before, u, outer, entered, between, t, inner, stored, hbefore, expand, onward,
        stays, hpath, leads⟩
  · rintro ⟨name, before, u, outer, entered, between, t, inner, stored, hbefore, expand, onward,
      stays, hpath, leads⟩
    -- The path is where it was, so the entry of the schema is found on the stack.
    have start : entered.path = outer.path := expand.path_eq (by simp)
    have same : inner.path = outer.path := (onward.path_eq stays).trans start
    have active : (name, path) ∈ t.active := by
      rw [← hpath, same]
      exact onward.mem_active List.mem_cons_self
    have cycle := plan_eq_descriptorCycle_iff.mpr ⟨hpath, name, stored, leads, active⟩
    exact ⟨_, t, inner, hbefore.append (.head expand onward), cycle⟩

end Session

/-! ## Registries without cycles -/

namespace Registry

/-- A type stands for a schema, or some alternative of it does. -/
inductive Exposes (registry : Registry) : Descriptor → TypeName → Prop
  | named {d stored : Descriptor} {name : TypeName}
    (leads : registry.Leads d.type name (.schema stored)) : Exposes registry d name
  | alternative {d inner : Descriptor} {owner name : TypeName}
    (union : registry.Leads d.type owner (.builtin .oneOfType))
    (listed : inner ∈ d.alternatives) (h : Exposes registry inner name) : Exposes registry d name

/-- A schema leads to another one, or to itself, for the same value: by aliases and
alternatives, and not below a property or an item. -/
def Refers (registry : Registry) (name target : TypeName) : Prop :=
  ∃ stored, registry.get? name = some (.rule (.schema stored)) ∧ registry.Exposes stored target

/-- No schema comes back to itself for the same value. -/
def Guarded (registry : Registry) : Prop := ∀ name, ¬ TransGen registry.Refers name name

/-- Nodes of linked lists refer to nodes below a property only. -/
theorem guarded_linked : linked.Guarded := by
  intro name circle
  obtain ⟨target, ⟨stored, registered, exposes⟩, -⟩ := TransGen.head'_iff.mp circle
  obtain rfl := eq_node_of_get?_linked registered
  -- A shape stands for no schema, and has no alternatives.
  cases exposes with
  | named leads => cases (leads.unique leads_linked_shape).2
  | alternative union => cases (union.unique leads_linked_shape).2

/-- Expanding a descriptor may come to a schema, for the same value. -/
def Unfolds (registry : Registry) (d : Descriptor) (name : TypeName) : Prop :=
  ∃ first, registry.Exposes d first ∧ ReflTransGen registry.Refers first name

end Registry

namespace Session

variable {s t : Session} {c inner : Check} {move : Move} {moves : List Move} {name : TypeName}
  {path : String}

/-- What a nested check unfolds to, at the same value, the outer one unfolds to. -/
theorem Makes.unfolds (h : s.Makes c move t inner) (stays : move ≠ .part)
    (unfolds : s.registry.Unfolds inner.descriptor name) :
    s.registry.Unfolds c.descriptor name := by
  obtain ⟨first, exposes, onward⟩ := unfolds
  cases h with
  | part => exact absurd rfl stays
  | @expand entered inner h =>
    obtain ⟨stored, leads, -, rfl⟩ := stored_of_plan h
    -- The descriptor exposes the schema, and the schema goes on as its stored descriptor.
    exact ⟨entered, .named leads, .head ⟨stored, leads.owned, exposes⟩ onward⟩
  | alternative h =>
    obtain ⟨⟨owner, union⟩, descriptor, listed, rfl⟩ :=
      alternative_of_plan h (List.mem_append_right _ List.mem_cons_self)
    exact ⟨first, .alternative union listed exposes, onward⟩

/-- What a descriptor at the end of a chain unfolds to, the first one unfolds to as well, if the
chain stays at one place. -/
theorem Reaches.unfolds (h : s.Reaches c moves t inner) (stays : .part ∉ moves)
    (unfolds : t.registry.Unfolds inner.descriptor name) :
    s.registry.Unfolds c.descriptor name := by
  induction h with
  | refl => exact unfolds
  | head first rest ih =>
    obtain ⟨hmove, hmoves⟩ := List.ne_and_not_mem_of_not_mem_cons stays
    have nested := ih hmoves unfolds
    rw [first.calls.registry_eq] at nested
    exact first.unfolds (Ne.symm hmove) nested

/-- A schema that is entered again in this way comes back to itself in the registry. -/
theorem Reenters.refers (h : s.Reenters c name path) :
    TransGen s.registry.Refers name name := by
  -- A schema that is entered again at the same place is one that it unfolds to.
  obtain ⟨before, u, outer, entered, between, t, inner, stored, hbefore, expand, onward, stays,
    -, leads⟩ := h
  have unfolds : u.registry.Unfolds entered.descriptor name :=
    onward.unfolds stays ⟨name, .named leads, .refl⟩
  rw [← hbefore.registry_eq]
  cases expand with
  | expand hplan =>
    obtain ⟨schema, leads, -, rfl⟩ := stored_of_plan hplan
    obtain ⟨first, exposes, back⟩ := unfolds
    exact .head' ⟨schema, leads.owned, exposes⟩ back

end Session

namespace Validator

/-- Validating a value enters a schema again at the path. Undefined is settled without
looking at the descriptor's type. -/
def Reenters (v : Validator) (context path : String) (value : Value) (descriptor : Descriptor)
    (name : TypeName) (position : String) : Prop :=
  value.isUndefined = false ∧
    (Session.start v.registry v.sink v.options.onFailure).Reenters
      ⟨context, path, value, descriptor, v.options.logErrors⟩ name position

/-- Reporting a failure does not raise a cycle. -/
theorem report_ne_descriptorCycle (v : Validator) (context : String) (failure : Failure)
    (path : String) : (v.report context failure).result ≠ .error (.descriptorCycle path) := by
  unfold report
  split
  · cases v.options.onFailure with
    | log => simp [Sink.warn, OnFailure.escalate]
    | throw => simp [Sink.warn, OnFailure.escalate]
  · simp

/-- The guard against cycles is exact. Validation ends in a descriptor cycle at a path
exactly if it enters some schema again there, while the schema is still being expanded and
without a step into the value since. So it never does if no schema of the registry comes
back to itself by aliases, alternatives and schemas alone. -/
theorem validate_descriptorCycle_iff (v : Validator) (built : v.registry.Declarative)
    (context path : String) (value : Value) (descriptor : Descriptor) :
    (∀ position,
      (v.validate context path value descriptor).result = .error (.descriptorCycle position) ↔
        ∃ name, v.Reenters context path value descriptor name position) ∧
    (v.registry.Guarded → ∀ position,
      (v.validate context path value descriptor).result ≠ .error (.descriptorCycle position)) := by
  -- An undefined value is settled without a check, and any other is checked from a fresh
  -- session.
  have guard : ∀ position,
      (v.validate context path value descriptor).result = .error (.descriptorCycle position) ↔
        ∃ name, v.Reenters context path value descriptor name position := by
    intro position
    cases hvalue : value.isUndefined with
    | true =>
      -- A report is raised as a failure, never as a cycle.
      have settled : (v.validate context path value descriptor).result ≠
          .error (.descriptorCycle position) := by
        rw [validate_of_undefined hvalue]
        split
        · intro h
          rcases Run.bind_eq_error_iff.mp h with h | ⟨-, -, h⟩
          · exact v.report_ne_descriptorCycle _ _ _ h
          · cases h
        · simp
      simp [settled, Reenters, hvalue]
    | false =>
      rw [validate_of_defined hvalue, Session.check_eq_descriptorCycle_iff built rfl]
      simp only [Reenters, hvalue, true_and]
  -- In a guarded registry no schema refers back to itself without a descent.
  refine ⟨guard, fun guarded position cycle => ?_⟩
  obtain ⟨name, -, reenters⟩ := (guard position).mp cycle
  exact guarded name reenters.refers

/-- A schema that is nothing but itself is entered again at once; nodes of linked lists
never are. -/
theorem validate_descriptorCycle_iff_examples :
    Registry.tangled.Declarative ∧
      (∃ name, Reenters ⟨.tangled, .memory, {}⟩ "list" "head" .null (.ofType (.named "loop")) name
        "head") ∧
      Registry.linked.Declarative ∧ Registry.linked.Guarded ∧
      ∀ value, (validate ⟨.linked, .memory, {}⟩ "list" "head" value
        (.ofType (.named "node"))).result ≠ .error (.descriptorCycle "head") := by
  have loop := Registry.resolve_eq_ok_iff.mpr Registry.leads_tangled_loop
  -- The loop is entered once, and then it is active at its own path.
  have cycle : (validate ⟨.tangled, .memory, {}⟩ "list" "head" .null
      (.ofType (.named "loop"))).result = .error (.descriptorCycle "head") := by
    rw [validate_of_defined rfl, Session.check_of_schema loop (by simp [Session.start]),
      Session.check_of_active loop (by simp [Session.enter])]
    rfl
  refine ⟨Registry.declarative_tangled, ?_, Registry.declarative_linked, Registry.guarded_linked,
    fun value => ?_⟩
  · exact ((validate_descriptorCycle_iff _ Registry.declarative_tangled _ _ _ _).1 _).mp cycle
  · exact (validate_descriptorCycle_iff _ Registry.declarative_linked _ _ _ _).2
      Registry.guarded_linked _

end Validator

end PropShape
