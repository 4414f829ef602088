import PropShape.Registry
import Mathlib.Logic.Relation

/-!
# `PropShape.Proofs.Registry.Declarative`: where aliases lead

Two facts about registries that everything said about validation rests on.

* `resolve_eq_ok_iff`: a type name resolves to a rule exactly if following
  alias entries from it reaches the name that owns the rule
  (`Registry.Leads`). The resolver gives up on a name that it has met before;
  that this never hides a rule is `Stops.not_circular`: a name from which
  aliases lead to an end lies on no circle of aliases.
* `Declarative.owns`: a registry that is built from the built-in types by
  aliases and schemas alone (`Registry.Declarative`) owns nothing but the
  built-in rules, each under its own name, and schemas under registered
  names. Aliases may point the name of a built-in type elsewhere, but no name
  ever owns the rule of another one.
-/

set_option autoImplicit false

namespace PropShape.Registry

open Relation (ReflTransGen TransGen)

/-- The registries that are built from the built-in types by registering aliases and
schemas, in any order and number. -/
inductive Declarative : Registry → Prop
  | builtins : Declarative builtins
  | registerAlias {registry : Registry} (built : Declarative registry) (name target : TypeName) :
    Declarative (registry.registerAlias name target)
  | registerSchema {registry : Registry} (built : Declarative registry) (name : String)
    (descriptor : Descriptor) : Declarative (registry.registerSchema name descriptor)

/-- The rules that a name may own without the help of a host. -/
inductive Owns : TypeName → Rule → Prop
  | builtin (type : BuiltinType) : Owns (.builtin type) (.builtin type)
  | schema (name : String) (stored : Descriptor) : Owns (.named name) (.schema stored)

/-- The registry of the built-in types has nothing under a name of another kind. -/
theorem get?_builtins_named (name : String) : builtins.get? (.named name) = none := rfl

/-- In a registry of schemas and aliases, a rule is a built-in type under its own name or a
stored schema. -/
theorem Declarative.owns {registry : Registry} (built : registry.Declarative) {name : TypeName}
    {rule : Rule} (h : registry.get? name = some (.rule rule)) : Owns name rule := by
  -- The latest registration under a name is the one that counts.
  induction built with
  | builtins =>
    cases name with
    | builtin type =>
      rw [get?_builtins] at h
      cases h
      exact .builtin type
    | named name =>
      rw [get?_builtins_named] at h
      cases h
  | registerAlias built other target ih =>
    rw [Registry.registerAlias, get?_insert] at h
    split at h
    · cases h
    · exact ih h
  | registerSchema built other stored ih =>
    rw [Registry.registerSchema, get?_insert] at h
    split at h
    · next same =>
      cases h
      rw [same]
      exact .schema other stored
    · exact ih h

/-! ## Following aliases -/

variable {registry : Registry} {name target owner other : TypeName} {rule rule' : Rule}

/-- One name is registered to stand for another. -/
def AliasOf (registry : Registry) (name target : TypeName) : Prop :=
  registry.get? name = some (.alias target)

/-- Following aliases from a name reaches an owner, which owns a rule. -/
structure Leads (registry : Registry) (name owner : TypeName) (rule : Rule) : Prop where
  reached : ReflTransGen registry.AliasOf name owner
  owned : registry.get? owner = some (.rule rule)

/-- A name is an alias of at most one other. -/
theorem AliasOf.unique (h : registry.AliasOf name target) (h' : registry.AliasOf name other) :
    target = other := by
  have heq : some (Registration.alias target) = some (Registration.alias other) := h.symm.trans h'
  cases heq
  rfl

/-- Following aliases from a name reaches a last name, which stands for no other. -/
structure Stops (registry : Registry) (name last : TypeName) : Prop where
  reached : ReflTransGen registry.AliasOf name last
  ended : ∀ target, ¬ registry.AliasOf last target

/-- A name that owns a rule stands for nothing else. -/
theorem not_aliasOf_of_owned (h : registry.get? name = some (.rule rule)) :
    ¬ registry.AliasOf name target := by
  intro step
  have heq : some (Registration.rule rule) = some (Registration.alias target) := h.symm.trans step
  cases heq

/-- The name that owns the rule is where the aliases stop. -/
theorem Leads.stops (h : registry.Leads name owner rule) : registry.Stops name owner :=
  ⟨h.reached, fun _ => not_aliasOf_of_owned h.owned⟩

/-- A name from which aliases lead to an end lies on no circle of aliases. Each name has at
most one alias entry, so the way to the end would have to run around the circle. -/
theorem Stops.not_circular (h : registry.Stops name other) :
    ¬ TransGen registry.AliasOf name name := by
  obtain ⟨reached, ended⟩ := h
  induction reached using ReflTransGen.head_induction_on with
  | refl =>
    intro circle
    obtain ⟨next, step, -⟩ := TransGen.head'_iff.mp circle
    exact ended next step
  | head step rest ih =>
    intro circle
    obtain ⟨next, first, back⟩ := TransGen.head'_iff.mp circle
    -- The circle begins with the step of the walk, so it also runs through the next name.
    rw [← step.unique first] at back
    exact ih (TransGen.tail' back step)

/-- A name that leads to a rule is on no circle of aliases. -/
theorem Leads.not_circular (h : registry.Leads name owner rule) :
    ¬ TransGen registry.AliasOf name name :=
  h.stops.not_circular

/-- A walk that ends at a rule has followed aliases to it. -/
theorem leads_of_walk {start current : TypeName} {met : List TypeName}
    (h : registry.walk start current met = .ok (owner, rule)) :
    registry.Leads current owner rule := by
  fun_induction walk registry start current met with
  | case1 => cases h
  | case2 current met rule' hget =>
    cases h
    exact ⟨.refl, hget⟩
  | case3 => cases h
  | case4 current met target hget new ih =>
    obtain ⟨reached, owned⟩ := ih h
    exact ⟨.head hget reached, owned⟩

/-- At a name that stands for no other it makes no difference what was met before. -/
theorem walk_of_ended {start last : TypeName} (ended : ∀ target, ¬ registry.AliasOf last target)
    (met : List TypeName) : registry.walk start last met = registry.walk start last [] := by
  rw [walk_eq, walk_eq]
  cases h : registry.get? last with
  | none => rfl
  | some registration =>
    rcases registration with rule | target
    · rfl
    · exact absurd h (ended target)

/-- A walk comes to the last name, as long as it has met none of the names that are still
ahead. -/
theorem Stops.walk_eq {start current last : TypeName} (h : registry.Stops current last)
    {met : List TypeName} (ahead : ∀ name ∈ met, ¬ ReflTransGen registry.AliasOf current name) :
    registry.walk start current met = registry.walk start last [] := by
  obtain ⟨reached, ended⟩ := h
  induction reached using ReflTransGen.head_induction_on generalizing met with
  | refl => exact walk_of_ended ended met
  | @head current target step rest ih =>
    have noCircle := Stops.not_circular ⟨.head step rest, ended⟩
    have new : current ∉ met := fun hmem => ahead current hmem .refl
    have hget : registry.get? current = some (.alias target) := step
    rw [Registry.walk_eq, hget]
    simp only [if_neg new]
    refine ih fun name hname onward => ?_
    -- A name that was met and still lies ahead would close a circle.
    rcases List.mem_cons.mp hname with rfl | hname
    · exact noCircle (.head' step onward)
    · exact ahead name hname (.head step onward)

/-- The walk finds the rule, provided none of the names it has met lies ahead of it. -/
theorem walk_of_leads {start current : TypeName} (h : registry.Leads current owner rule)
    {met : List TypeName} (ahead : ∀ name ∈ met, ¬ ReflTransGen registry.AliasOf current name) :
    registry.walk start current met = .ok (owner, rule) := by
  rw [h.stops.walk_eq ahead, walk_eq, h.owned]

/-- A type name resolves to a rule exactly if aliases lead to it. -/
theorem resolve_eq_ok_iff :
    registry.resolve name = .ok (owner, rule) ↔ registry.Leads name owner rule :=
  ⟨leads_of_walk, fun h => walk_of_leads h (by simp)⟩

/-- In the registry of the built-in types, each type is under its own name. -/
theorem leads_builtins (type : BuiltinType) :
    builtins.Leads (.builtin type) (.builtin type) (.builtin type) :=
  ⟨.refl, get?_builtins type⟩

/-- There each built-in type resolves to itself. -/
theorem resolve_builtins (type : BuiltinType) :
    builtins.resolve (.builtin type) = .ok (.builtin type, .builtin type) :=
  resolve_eq_ok_iff.mpr (leads_builtins type)

/-- A walk that ends in an error has reached a name that is not registered, or has met a
name twice. -/
theorem walk_eq_error {start current : TypeName} {met : List TypeName} {e : PropError}
    (h : registry.walk start current met = .error e) :
    (∃ last, ReflTransGen registry.AliasOf current last ∧ registry.get? last = none ∧
      e = .unknownType last.text) ∨ e = .aliasCycle start.text := by
  -- Along the walk: it ends at a name without entry, or at one that it has met.
  fun_induction walk registry start current met with
  | case1 current met hget =>
    cases h
    exact .inl ⟨current, .refl, hget, rfl⟩
  | case2 => cases h
  | case3 =>
    cases h
    exact .inr rfl
  | case4 current met target hget new ih =>
    rcases ih h with ⟨last, reached, missing, same⟩ | cycle
    · exact .inl ⟨last, .head hget reached, missing, same⟩
    · exact .inr cycle

/-- A name that does not resolve is unknown, or its aliases go around in a circle. -/
theorem resolve_eq_error {e : PropError} (h : registry.resolve name = .error e) :
    (∃ text, e = .unknownType text) ∨ ∃ text, e = .aliasCycle text := by
  rcases walk_eq_error h with ⟨last, -, -, same⟩ | cycle
  · exact .inl ⟨_, same⟩
  · exact .inr ⟨_, cycle⟩

/-- Either way the declaration is to blame. -/
theorem isConfiguration_of_resolve {e : PropError} (h : registry.resolve name = .error e) :
    e.isConfiguration = true := by
  rcases resolve_eq_error h with ⟨_, rfl⟩ | ⟨_, rfl⟩ <;> rfl

/-- Aliases lead to one owner and one rule at most. -/
theorem Leads.unique (h : registry.Leads name owner rule) (h' : registry.Leads name other rule') :
    owner = other ∧ rule = rule' := by
  have heq := (resolve_eq_ok_iff.mpr h).symm.trans (resolve_eq_ok_iff.mpr h')
  simpa using heq

/-! ## Two registries -/

/-- Linked lists: a node is a record that may hold another node under `next`. -/
def node : Descriptor :=
  { type := .builtin .shape
    properties? := some (.ofList [("next", .ofType (.named "node"))]) }

/-- A registry with a schema for linked lists. -/
def linked : Registry := builtins.registerSchema "node" node

/-- A registry that also has a schema that is nothing but itself, and a circle of aliases
through the name of a built-in type. -/
def tangled : Registry :=
  ((linked.registerSchema "loop" (.ofType (.named "loop"))).registerAlias (.builtin .string)
    (.named "text")).registerAlias (.named "text") (.builtin .string)

/-- The registry of linked lists is built from schemas only. -/
theorem declarative_linked : linked.Declarative := .registerSchema .builtins _ _

/-- The tangled registry is built from schemas and aliases only. -/
theorem declarative_tangled : tangled.Declarative :=
  .registerAlias (.registerAlias (.registerSchema declarative_linked _ _) _ _) _ _

/-- In the registry of linked lists, shapes are still the built-in type. -/
theorem leads_linked_shape : linked.Leads (.builtin .shape) (.builtin .shape) (.builtin .shape) :=
  ⟨.refl, by simp [linked, registerSchema, get?_insert, get?_builtins]⟩

/-- In the registry of linked lists, a node has its stored schema. -/
theorem leads_linked_node : linked.Leads (.named "node") (.named "node") (.schema node) :=
  ⟨.refl, by simp [linked, registerSchema, get?_insert]⟩

/-- The only schema of linked lists is that of their nodes. -/
theorem eq_node_of_get?_linked {stored : Descriptor}
    (h : linked.get? name = some (.rule (.schema stored))) : stored = node := by
  rw [linked, registerSchema, get?_insert] at h
  split at h
  · cases h
    rfl
  · cases Declarative.builtins.owns h with
    | schema name stored => cases h

/-- In the tangled registry, a node has its stored schema. -/
theorem leads_tangled_node :
    tangled.Leads (.named "node") (.named "node") (.schema node) :=
  ⟨.refl, by simp [tangled, linked, registerAlias, registerSchema, get?_insert]⟩

/-- In the tangled registry, the loop has itself as its stored schema. -/
theorem leads_tangled_loop :
    tangled.Leads (.named "loop") (.named "loop") (.schema (.ofType (.named "loop"))) :=
  ⟨.refl, by simp [tangled, linked, registerAlias, registerSchema, get?_insert]⟩

/-- In the tangled registry, shapes are still the built-in type. -/
theorem leads_tangled_shape :
    tangled.Leads (.builtin .shape) (.builtin .shape) (.builtin .shape) :=
  ⟨.refl, by simp [tangled, linked, registerAlias, registerSchema, get?_insert, get?_builtins]⟩

/-- Aliases lead from the name of the built-in type back to it. -/
theorem circle_tangled : TransGen tangled.AliasOf (.builtin .string) (.builtin .string) :=
  .tail (.single (show tangled.AliasOf _ (.named "text") by
    simp [AliasOf, tangled, linked, registerAlias, registerSchema, get?_insert]))
    (by simp [AliasOf, tangled, linked, registerAlias, registerSchema, get?_insert])

end PropShape.Registry
