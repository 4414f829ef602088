import PropShape.Validation.Rule
import PropShape.Text.Escaped

/-!
# `PropShape.Registry`: what type names stand for

A registry maps type names to rules and aliases. The last registration of a
name wins. An alias stands for whatever its target stands for at the time of
asking, so aliases may point at names that come later, or in circles.

`Registry.resolve` follows aliases to the name that owns a rule. It gives up
on a name that it has met before; the names met so far are all registered,
which bounds the walk (`unmet_lt`).
-/

set_option autoImplicit false

namespace PropShape

/-- What one type name stands for. -/
inductive Registration
  | rule (rule : Rule)
  | alias (target : TypeName)

instance : Inhabited Registration := ⟨.rule default⟩

/-- Registered type names. -/
structure Registry where
  entries : OrderedMap TypeName Registration

namespace Registry

instance : Inhabited Registry := ⟨⟨.empty⟩⟩

/-- The registry without any entry. -/
def empty : Registry := ⟨.empty⟩

/-- What is registered under a name. -/
def get? (registry : Registry) (name : TypeName) : Option Registration :=
  registry.entries.get? name

/-- Whether a name is registered, as a rule or as an alias. -/
def contains (registry : Registry) (name : TypeName) : Bool := registry.entries.contains name

/-- The number of registered names. -/
def size (registry : Registry) : Nat := registry.entries.size

/-- Registers something under a name, in place of what was registered there. -/
def insert (registry : Registry) (name : TypeName) (registration : Registration) : Registry :=
  ⟨registry.entries.insert name registration⟩

/-- After a registration only the registered name means something else. -/
theorem get?_insert (registry : Registry) (name : TypeName) (registration : Registration)
    (other : TypeName) :
    (registry.insert name registration).get? other =
      if other = name then some registration else registry.get? other :=
  registry.entries.get?_insert name registration other

/-- Registers a rule of a host. -/
def register (registry : Registry) (name : TypeName) (rule : HostRule) : Registry :=
  registry.insert name (.rule (.host rule))

/-- Makes a name stand for whatever another one stands for. -/
def registerAlias (registry : Registry) (name target : TypeName) : Registry :=
  registry.insert name (.alias target)

/-- Registers a schema: values of the named type are checked against the
descriptor. The descriptor may refer back to the name, as long as every such
reference is below a property of the value. -/
def registerSchema (registry : Registry) (name : String) (descriptor : Descriptor) : Registry :=
  registry.insert (.named name) (.rule (.schema descriptor))

/-- The registry of all built-in types. -/
def builtins : Registry :=
  BuiltinType.all.foldl (fun r t => r.insert (.builtin t) (.rule (.builtin t))) empty

/-- The registry of the built-in types has a rule for each of them. -/
theorem get?_builtins (type : BuiltinType) :
    builtins.get? (.builtin type) = some (.rule (.builtin type)) := by
  cases type <;> rfl

/-- The names registered as schemas. -/
def schemaNames (registry : Registry) : List TypeName :=
  registry.entries.toList.filterMap fun (name, registration) =>
    match registration with
    | .rule (.schema _) => some name
    | _ => none

/-- A name with a stored schema is listed among the names of schemas. -/
theorem mem_schemaNames {registry : Registry} {name : TypeName} {descriptor : Descriptor}
    (h : registry.get? name = some (.rule (.schema descriptor))) :
    name ∈ registry.schemaNames :=
  List.mem_filterMap.mpr ⟨_, (registry.entries.get?_eq_some_iff _ _).mp h, rfl⟩

/-! ## Following aliases -/

/-- The registered names that a walk has not met. -/
def unmet (registry : Registry) (met : List TypeName) : Nat :=
  registry.entries.keys.countP (· ∉ met)

/-- A name under which something is registered is among the keys. -/
theorem mem_keys_of_get? {registry : Registry} {name : TypeName} {registration : Registration}
    (h : registry.get? name = some registration) : name ∈ registry.entries.keys := by
  have := (registry.entries.get?_eq_some_iff _ _).mp h
  exact registry.entries.keys_toList ▸ List.mem_map.mpr ⟨_, this, rfl⟩

/-- Meeting a registered name for the first time leaves fewer names unmet. -/
theorem unmet_lt {registry : Registry} {met : List TypeName} {name : TypeName}
    (registered : name ∈ registry.entries.keys) (new : name ∉ met) :
    registry.unmet (name :: met) < registry.unmet met := by
  unfold unmet
  generalize registry.entries.keys = keys at registered
  -- On the keys of the registry: the new name is one of them and is counted no more, and no
  -- other count changes.
  induction keys with
  | nil => simp at registered
  | cons k rest ih =>
    have mono : rest.countP (· ∉ name :: met) ≤ rest.countP (· ∉ met) :=
      List.countP_mono_left fun x _ hx => by simp_all
    rw [List.countP_cons, List.countP_cons]
    by_cases hk : k = name
    · subst hk
      rw [if_neg (by simp), if_pos (by simpa using new)]
      omega
    · have hrest := ih ((List.mem_cons.mp registered).resolve_left (Ne.symm hk))
      have hsame : (k ∉ name :: met) ↔ (k ∉ met) := by simp [hk]
      simp only [hsame]
      omega

/-- Follows aliases from `current`, with the aliases met on the way from
`start`, to the name that owns a rule. -/
def walk (registry : Registry) (start current : TypeName) (met : List TypeName) :
    Except PropError (TypeName × Rule) :=
  match _found : registry.get? current with
  | none => .error (.unknownType current.text)
  | some (.rule rule) => .ok (current, rule)
  | some (.alias target) =>
    if _new : current ∈ met then .error (.aliasCycle start.text)
    else registry.walk start target (current :: met)
termination_by registry.unmet met
decreasing_by exact unmet_lt (mem_keys_of_get? _found) _new

/-- One step of a walk. -/
theorem walk_eq (registry : Registry) (start current : TypeName) (met : List TypeName) :
    registry.walk start current met =
      match registry.get? current with
      | none => .error (.unknownType current.text)
      | some (.rule rule) => .ok (current, rule)
      | some (.alias target) =>
        if current ∈ met then .error (.aliasCycle start.text)
        else registry.walk start target (current :: met) := by
  rw [walk]
  split
  · next h => simp only [h]
  · next h => simp only [h]
  · next h => simp only [h, dite_eq_ite]

/-- The name that owns the rule of a type, and the rule. -/
def resolve (registry : Registry) (name : TypeName) : Except PropError (TypeName × Rule) :=
  registry.walk name name []

/-- The name that owns the rule of a type. -/
def resolveType (registry : Registry) (name : TypeName) : Except PropError TypeName :=
  (registry.resolve name).map Prod.fst

/-- A resolved name owns its rule. -/
theorem get?_of_walk {registry : Registry} {start current owner : TypeName}
    {met : List TypeName} {rule : Rule} (h : registry.walk start current met = .ok (owner, rule)) :
    registry.get? owner = some (.rule rule) := by
  fun_induction walk registry start current met with
  | case1 => cases h
  | case2 current met rule' hget => cases h; exact hget
  | case3 => cases h
  | case4 _ _ _ _ _ ih => exact ih h

/-- The name that a type resolves to has the rule that it resolves to. -/
theorem get?_of_resolve {registry : Registry} {name owner : TypeName} {rule : Rule}
    (h : registry.resolve name = .ok (owner, rule)) : registry.get? owner = some (.rule rule) :=
  get?_of_walk h

/-- How a registry is shown to a developer: its names in order. -/
def debugText (registry : Registry) : String :=
  let names := (registry.entries.keys.map TypeName.text).mergeSort (fun a b => decide (a ≤ b))
  "Registry \x7b types: [" ++ String.intercalate ", " (names.map Text.escaped) ++ "] \x7d"

end Registry

end PropShape
