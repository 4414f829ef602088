import PropShape.Proofs.Registry.Declarative
import Mathlib.Logic.Function.Iterate

/-!
# `PropShape.Proofs.Registry.Resolution`: the three ends of following aliases

From a type name, alias entries may be followed as long as there is one. This
either stops at a name that owns a rule, or stops at a name that is not
registered, or goes on without end. The resolver answers which, and it needs
no more than one round for each registered name to do so.

* `Stops.not_endless`, `endless_of_not_stops`: an endless way and an end
  exclude each other, and there is always one of the two.
* `resolve_eq_unknownType_iff`, `resolve_eq_aliasCycle_iff`: the two errors
  are the second and the third case; `resolve_eq_ok_iff` is the first. A name
  that leads into a circle is an alias cycle too, also when it does not lie on
  the circle itself.
* `walkWithin_eq`: the walk, written as a loop that counts its rounds, ends
  before the count does.
* `ruleOf_eq`: asking again for the rule of the name that was found cannot
  fail.

Nothing is assumed about the registry. Names may have been registered again
and again, as rules, aliases and schemas in turn.
-/

set_option autoImplicit false

namespace PropShape.Registry

open Relation (ReflTransGen)

variable {registry : Registry} {name last target owner : TypeName} {rule : Rule} {text : String}

/-! ## Ways without end -/

/-- Following aliases from a name goes on without end. -/
def Endless (registry : Registry) (name : TypeName) : Prop :=
  ∃ way : Nat → TypeName, way 0 = name ∧ ∀ n, registry.AliasOf (way n) (way (n + 1))

/-- A way without end goes through the only name that there is to go on to. -/
theorem Endless.of_aliasOf (h : registry.Endless name) (step : registry.AliasOf name target) :
    registry.Endless target := by
  obtain ⟨way, rfl, onward⟩ := h
  have first : way 1 = target := (onward 0).unique step
  exact ⟨fun n => way (n + 1), first, fun n => onward (n + 1)⟩

/-- An alias of an endless name is endless. -/
theorem Endless.head (h : registry.Endless target) (step : registry.AliasOf name target) :
    registry.Endless name := by
  obtain ⟨way, rfl, onward⟩ := h
  refine ⟨fun n => n.casesOn name way, rfl, fun n => ?_⟩
  cases n with
  | zero => exact step
  | succ n => exact onward n

/-- Where there is an end, no way goes on without one. -/
theorem Stops.not_endless (h : registry.Stops name last) : ¬ registry.Endless name := by
  obtain ⟨reached, ended⟩ := h
  induction reached using ReflTransGen.head_induction_on with
  | refl =>
    rintro ⟨way, rfl, onward⟩
    exact ended (way 1) (onward 0)
  | head step rest ih =>
    intro endless
    exact ih (endless.of_aliasOf step)

/-- The name that a name stands for, if it is an alias, and else the name itself. -/
def next (registry : Registry) (name : TypeName) : TypeName :=
  match registry.get? name with
  | some (.alias target) => target
  | _ => name

/-- The step from an alias goes to the name that it is an alias of. -/
theorem AliasOf.next_eq (step : registry.AliasOf name target) : registry.next name = target := by
  have hget : registry.get? name = some (.alias target) := step
  rw [next, hget]

/-- Without an end the way goes on and on. -/
theorem endless_of_not_stops (h : ∀ last, ¬ registry.Stops name last) :
    registry.Endless name := by
  -- From every name that is reached there is a further step, or the walk would stop there.
  have onward : ∀ reached, ReflTransGen registry.AliasOf name reached →
      registry.AliasOf reached (registry.next reached) := by
    intro reached hreached
    by_contra stuck
    refine h reached ⟨hreached, fun target step => stuck ?_⟩
    rw [step.next_eq]
    exact step
  -- So the steps can be iterated for ever.
  have reached : ∀ n, ReflTransGen registry.AliasOf name (registry.next^[n] name) := by
    intro n
    induction n with
    | zero => exact .refl
    | succ n ih =>
      rw [Function.iterate_succ_apply']
      exact ih.tail (onward _ ih)
  refine ⟨fun n => registry.next^[n] name, rfl, fun n => ?_⟩
  dsimp only
  rw [Function.iterate_succ_apply']
  exact onward _ (reached n)

/-! ## What the resolver answers -/

/-- The resolver answers for a name as it does for the last name that aliases lead to. -/
theorem Stops.resolve_eq (h : registry.Stops name last) :
    registry.resolve name = registry.walk name last [] :=
  h.walk_eq (by simp)

/-- A type name is unknown exactly if aliases lead to a name that is not registered. -/
theorem resolve_eq_unknownType_iff :
    registry.resolve name = .error (.unknownType text) ↔
      ∃ last, ReflTransGen registry.AliasOf name last ∧ registry.get? last = none ∧
        text = last.text := by
  constructor
  · intro h
    rcases walk_eq_error h with ⟨last, reached, missing, same⟩ | same
    · exact ⟨last, reached, missing, by simpa using same⟩
    · cases same
  · rintro ⟨last, reached, missing, rfl⟩
    have stops : registry.Stops name last := ⟨reached, fun target => by simp [AliasOf, missing]⟩
    rw [stops.resolve_eq, walk_eq, missing]

/-- A type name is an alias cycle exactly if its aliases go on without end. -/
theorem resolve_eq_aliasCycle_iff :
    registry.resolve name = .error (.aliasCycle text) ↔
      text = name.text ∧ registry.Endless name := by
  constructor
  · intro h
    rcases walk_eq_error h with ⟨last, -, -, same⟩ | same
    · cases same
    · refine ⟨by simpa using same, endless_of_not_stops fun last stops => ?_⟩
      -- At an end the resolver knows a rule, or that the name is not registered.
      rw [stops.resolve_eq, walk_eq] at h
      rcases hget : registry.get? last with _ | rule | target
      · rw [hget] at h
        cases h
      · rw [hget] at h
        cases h
      · exact stops.ended target hget
  · rintro ⟨rfl, endless⟩
    cases h : registry.resolve name with
    | ok resolved =>
      have leads : registry.Leads name resolved.1 resolved.2 := resolve_eq_ok_iff.mp h
      exact absurd endless leads.stops.not_endless
    | error e =>
      rcases walk_eq_error h with ⟨last, reached, missing, -⟩ | rfl
      · have stops : registry.Stops name last := ⟨reached, fun target => by simp [AliasOf, missing]⟩
        exact absurd endless stops.not_endless
      · rfl

/-- Resolving a type answers the owner of its rule. -/
theorem resolveType_eq_ok_iff :
    registry.resolveType name = .ok owner ↔ ∃ rule, registry.resolve name = .ok (owner, rule) := by
  unfold resolveType
  rcases registry.resolve name with e | ⟨found, rule⟩
  · simp [Except.map]
  · simp [Except.map, and_comm]

/-- Resolving a type fails as finding its rule does. -/
theorem resolveType_eq_error_iff {e : PropError} :
    registry.resolveType name = .error e ↔ registry.resolve name = .error e := by
  unfold resolveType
  rcases registry.resolve name with e' | resolved <;> simp [Except.map]

/-! ## How long it takes -/

/-- Follows aliases like `walk`, but gives up after a number of rounds. -/
def walkWithin (registry : Registry) (start : TypeName) :
    Nat → TypeName → List TypeName → Option (Except PropError (TypeName × Rule))
  | 0, _, _ => none
  | rounds + 1, current, met =>
    match registry.get? current with
    | none => some (.error (.unknownType current.text))
    | some (.rule rule) => some (.ok (current, rule))
    | some (.alias target) =>
      if current ∈ met then some (.error (.aliasCycle start.text))
      else registry.walkWithin start rounds target (current :: met)

/-- With more rounds than there are names left to meet, the walk does not give up. -/
theorem walkWithin_eq {start current : TypeName} {met : List TypeName} {rounds : Nat}
    (h : registry.unmet met < rounds) :
    registry.walkWithin start rounds current met = some (registry.walk start current met) := by
  induction rounds generalizing current met with
  | zero => omega
  | succ rounds ih =>
    rw [walkWithin, walk_eq]
    rcases hget : registry.get? current with _ | rule | target
    · rfl
    · rfl
    · by_cases old : current ∈ met
      · simp only [if_pos old]
      · simp only [if_neg old]
        -- Each step of the walk meets a new name of the registry, so the rounds suffice.
        have fewer := unmet_lt (mem_keys_of_get? hget) old
        exact ih (by omega)

/-- In the beginning no name has been met. -/
theorem unmet_nil : registry.unmet [] = registry.size := by
  simp [unmet, size, OrderedMap.size]

/-! ## The rule of a type -/

/-- The rule of a type, found in two steps: first the name that owns it, and then what the
registry holds under this name. -/
def ruleOf (registry : Registry) (name : TypeName) : Except PropError Rule :=
  match registry.resolveType name with
  | .error e => .error e
  | .ok owner =>
    match registry.get? owner with
    | some (.rule rule) => .ok rule
    | _ => .error (.unknownType name.text)

/-- The second step finds the rule that the first one has seen. -/
theorem ruleOf_eq : registry.ruleOf name = (registry.resolve name).map Prod.snd := by
  unfold ruleOf resolveType
  cases h : registry.resolve name with
  | error e => rfl
  | ok resolved =>
    have owned := get?_of_resolve h
    simp only [Except.map, owned]

/-! ## Aliases and their targets -/

/-- An alias leads where its target leads. -/
theorem AliasOf.leads_iff (step : registry.AliasOf name target) :
    registry.Leads name owner rule ↔ registry.Leads target owner rule := by
  constructor
  · rintro ⟨reached, owned⟩
    rcases ReflTransGen.cases_head reached with rfl | ⟨other, first, rest⟩
    · exact absurd step (not_aliasOf_of_owned owned)
    · rw [first.unique step] at rest
      exact ⟨rest, owned⟩
  · rintro ⟨reached, owned⟩
    exact ⟨.head step reached, owned⟩

/-- An alias is unknown, with the same name in the error, exactly if its target is. -/
theorem AliasOf.unknown_iff (step : registry.AliasOf name target) :
    registry.resolve name = .error (.unknownType text) ↔
      registry.resolve target = .error (.unknownType text) := by
  rw [resolve_eq_unknownType_iff, resolve_eq_unknownType_iff]
  refine exists_congr fun last => ⟨?_, ?_⟩
  · rintro ⟨reached, missing, rfl⟩
    rcases ReflTransGen.cases_head reached with rfl | ⟨other, first, rest⟩
    · -- The walk does not end at the alias itself, which is registered.
      have registered : registry.get? name = some (.alias target) := step
      rw [registered] at missing
      cases missing
    · rw [first.unique step] at rest
      exact ⟨rest, missing, rfl⟩
  · rintro ⟨reached, missing, rfl⟩
    exact ⟨.head step reached, missing, rfl⟩

/-- Resolution decides where aliases lead. Following alias entries from a name either
reaches a name that owns a rule, which is the answer; or reaches a name that is not
registered, which is then reported as unknown; or never ends, which is reported as an alias
cycle of the name asked for. The walk is over after one round more than there are registered
names. The rule of the type is the one stored under the answer, and looking it up there
brings no error of its own. An alias resolves, at any moment, to what its target resolves to
in the registry of that moment. -/
theorem resolution_is_exact (registry : Registry) (name : TypeName) :
    (∀ owner, registry.resolveType name = .ok owner ↔
      ReflTransGen registry.AliasOf name owner ∧
        ∃ rule, registry.get? owner = some (.rule rule)) ∧
    (∀ text, registry.resolveType name = .error (.unknownType text) ↔
      ∃ last, ReflTransGen registry.AliasOf name last ∧ registry.get? last = none ∧
        text = last.text) ∧
    (∀ text, registry.resolveType name = .error (.aliasCycle text) ↔
      text = name.text ∧ registry.Endless name) ∧
    (∀ e, registry.resolveType name = .error e →
      (∃ text, e = .unknownType text) ∨ e = .aliasCycle name.text) ∧
    registry.walkWithin name (registry.size + 1) name [] = some (registry.resolve name) ∧
    (∀ owner, registry.resolveType name = .ok owner →
      ∃ rule, registry.get? owner = some (.rule rule) ∧
        registry.resolve name = .ok (owner, rule) ∧ registry.ruleOf name = .ok rule) ∧
    (∀ e, registry.resolveType name = .error e →
      registry.resolve name = .error e ∧ registry.ruleOf name = .error e) ∧
    ∀ target, registry.AliasOf name target →
      (∀ resolved, registry.resolve name = .ok resolved ↔
        registry.resolve target = .ok resolved) ∧
      (∀ text, registry.resolve name = .error (.unknownType text) ↔
        registry.resolve target = .error (.unknownType text)) ∧
      (registry.resolve name = .error (.aliasCycle name.text) ↔
        registry.resolve target = .error (.aliasCycle target.text)) := by
  -- One part for each clause; the last three are about a single alias step.
  refine ⟨fun owner => ?_, fun text => ?_, fun text => ?_, fun e h => ?_, ?_, fun owner h => ?_,
    fun e h => ?_, fun target step => ⟨fun resolved => ?_, fun text => step.unknown_iff, ?_⟩⟩
  · rw [resolveType_eq_ok_iff]
    constructor
    · rintro ⟨rule, h⟩
      obtain ⟨reached, owned⟩ := resolve_eq_ok_iff.mp h
      exact ⟨reached, rule, owned⟩
    · rintro ⟨reached, rule, owned⟩
      exact ⟨rule, resolve_eq_ok_iff.mpr ⟨reached, owned⟩⟩
  · rw [resolveType_eq_error_iff, resolve_eq_unknownType_iff]
  · rw [resolveType_eq_error_iff, resolve_eq_aliasCycle_iff]
  · rcases walk_eq_error (resolveType_eq_error_iff.mp h) with ⟨last, -, -, same⟩ | same
    · exact .inl ⟨last.text, same⟩
    · exact .inr same
  -- No name has been met at the start, so all names of the registry are left.
  · exact walkWithin_eq (by rw [unmet_nil]; omega)
  · obtain ⟨rule, found⟩ := resolveType_eq_ok_iff.mp h
    refine ⟨rule, get?_of_resolve found, found, ?_⟩
    rw [ruleOf_eq, found]
    rfl
  · have missed := resolveType_eq_error_iff.mp h
    refine ⟨missed, ?_⟩
    rw [ruleOf_eq, missed]
    rfl
  · rw [show resolved = (resolved.1, resolved.2) from rfl, resolve_eq_ok_iff, resolve_eq_ok_iff]
    exact step.leads_iff
  · rw [resolve_eq_aliasCycle_iff, resolve_eq_aliasCycle_iff]
    -- An endless walk stays endless with one step more or less.
    have same : registry.Endless name ↔ registry.Endless target :=
      ⟨fun endless => endless.of_aliasOf step, fun endless => endless.head step⟩
    simp only [same, true_and]

end PropShape.Registry
