import PropShape.Proofs.Validation.Silence

/-!
# `PropShape.Proofs.Validation.Transparency`: a named schema stands for its descriptor

A check against the name of a stored schema marks the schema as being expanded
at the path and goes on as a check against the stored descriptor. A direct
check against the descriptor goes without the mark. `named_schema_is_transparent`
says that the mark never changes the outcome.

## Why the mark does no harm

`Session.Marked` pairs two evaluations of one check at a path, the second with
more schemas marked at that path. They differ only where the plain evaluation
enters a schema that is marked in the other: there the marked one ends in a
cycle at the path (`check_marked`).

Compare the direct check with the one that has the mark. Where they differ,
the direct evaluation has come back to the schema at the path and enters it,
so the stored descriptor is checked there for a second time, now with the
mark, and with more of them. If the direct evaluation does not end in the
cycle, neither does this nested check. Taking marks away does not bring a cycle
about, by `check_marked` once more, so the check with only the one mark does
not end in the cycle either. But then the two evaluations never differ.

The nested check may come from inside an alternative of a union and be silent
where the direct one is not. This is where `check_muted` is needed.
-/

set_option autoImplicit false

namespace PropShape

/-- The marked run is the plain run. Or it ends in the cycle at the path, and then the plain
run does so too, or there is another reason for the difference. -/
def Run.CyclesAt (path : String) (reason : Prop) (α : Type) (plain marked : Run α) : Prop :=
  marked = plain ∨
    marked.result = .error (.descriptorCycle path) ∧
      (plain.result = .error (.descriptorCycle path) ∨ reason)

/-- A cycle of the marked run ends it. The plain run ends with it, or has a reason not to. -/
theorem Run.congruence_cyclesAt (path : String) (reason : Prop) :
    Congruence (CyclesAt path reason) where
  pure a := .inl rfl
  bind := by
    intro α β plain marked next onward first rest
    -- Alike so far, or at a cycle already, which ends the marked run.
    rcases first with rfl | ⟨cycle, plain | reason⟩
    · cases h : marked.result with
      | error e =>
        rw [bind_of_error h, bind_of_error h]
        exact .inl rfl
      | ok a =>
        rw [bind_of_ok h, bind_of_ok h]
        rcases rest a with same | ⟨cycle, others⟩
        · rw [same]
          exact .inl rfl
        · exact .inr ⟨cycle, others⟩
    · rw [bind_of_error cycle, bind_of_error plain]
      exact .inr ⟨rfl, .inl rfl⟩
    · rw [bind_of_error cycle]
      exact .inr ⟨rfl, .inr reason⟩

namespace Session

/-- The session with the given schemas marked as being expanded. -/
def expanding (s : Session) (active : List (TypeName × String)) : Session := { s with active }

/-- A check of the value at the path, all marks being at the path too; or a check inside the
value, below the path. -/
def Within (context path : String) (value : Value) (marks : List (TypeName × String))
    (c : Check) : Prop :=
  (c.context = context ∧ c.path = path ∧ c.value = value ∧ ∀ mark ∈ marks, mark.2 = path) ∨
    path.length < c.path.length

/-- `more` are the marks in `old`, and those of the given names at the path. -/
def Adds (names : TypeName → Prop) (path : String) (old more : List (TypeName × String)) : Prop :=
  ∀ name position, (name, position) ∈ more ↔
    (name, position) ∈ old ∨ position = path ∧ names name

/-- The same check, in sessions that differ in the marks at one path. -/
inductive Marked (s : Session) (names : TypeName → Prop) (context path : String) (value : Value) :
    Pairing
  | intro {old more : List (TypeName × String)} {c : Check}
    (adds : Adds names path old more) (within : Within context path value old c) :
    Marked s names context path value (s.expanding old) c (s.expanding more) c

variable {s : Session} {names : TypeName → Prop} {context path : String} {value : Value}
  {old more : List (TypeName × String)} {c : Check}

/-- One mark is added to none. -/
theorem adds_singleton (name : TypeName) (path : String) :
    Adds (name = ·) path [] [(name, path)] := by
  intro other position
  simp [and_comm, eq_comm]

/-- A mark that both sides add does not change what else is added. -/
theorem Adds.enter (adds : Adds names path old more) (mark : TypeName × String) :
    Adds names path (mark :: old) (mark :: more) := by
  intro name position
  rw [List.mem_cons, List.mem_cons, adds, or_assoc]

/-- A check that has entered a stored schema is still within the same place. -/
theorem Within.enter {name : TypeName} {stored : Descriptor}
    (within : Within context path value old c) :
    Within context path value ((name, c.path) :: old) { c with descriptor := stored } := by
  rcases within with ⟨hcontext, hpath, hvalue, marks⟩ | below
  · refine .inl ⟨hcontext, hpath, hvalue, List.forall_mem_cons.mpr ⟨hpath, marks⟩⟩
  · exact .inr below

/-- Going into the value leads below the path, and going to an alternative keeps value and
path. -/
theorem Within.nested {inner other : Check} (within : Within context path value old c)
    (h : c.Parallel c inner other) : other = inner ∧ Within context path value old inner := by
  -- A nested check is at the path of this one or below it.
  have deeper : path.length ≤ c.path.length := by
    rcases within with ⟨-, rfl, -, -⟩ | below
    · exact Nat.le_refl _
    · exact Nat.le_of_lt below
  cases h with
  | item index item element =>
    have longer := Path.length_lt_item c.path index
    exact ⟨rfl, .inr (Nat.lt_of_le_of_lt deeper longer)⟩
  | key key item element =>
    have longer := Path.length_lt_key c.path key
    exact ⟨rfl, .inr (Nat.lt_of_le_of_lt deeper longer)⟩
  | alternative descriptor => exact ⟨rfl, within⟩

/-- `reason` is at hand as soon as a schema of one of the names is entered at the path, for
the value and with marks at the path only, and does not end in the cycle there. -/
def Explains (s : Session) (names : TypeName → Prop) (context path : String) (value : Value)
    (reason : Prop) : Prop :=
  ∀ marks name stored logErrors, names name →
    s.registry.get? name = some (.rule (.schema stored)) → (∀ mark ∈ marks, mark.2 = path) →
    ((s.expanding ((name, path) :: marks)).check
      ⟨context, path, value, stored, logErrors⟩).result ≠ .error (.descriptorCycle path) →
    reason

/-- At a schema the two evaluations are at a cycle, one of them at least, or both enter it. -/
theorem cyclesAt_or_unmarked {reason : Prop} {name : TypeName} {stored : Descriptor}
    (adds : Adds names path old more) (within : Within context path value old c)
    (explains : s.Explains names context path value reason)
    (leads : s.registry.Leads c.descriptor.type name (.schema stored)) :
    Run.CyclesAt path reason Bool ((s.expanding old).check c) ((s.expanding more).check c) ∨
      (name, c.path) ∉ old ∧ (name, c.path) ∉ more := by
  have resolved := Registry.resolve_eq_ok_iff.mpr leads
  by_cases marked : (name, c.path) ∈ more
  · have cycle : (s.expanding more).check c = .raise (.descriptorCycle c.path) :=
      check_of_active (s := s.expanding more) resolved marked
    by_cases before : (name, c.path) ∈ old
    · -- The mark is there in both, and so is the cycle.
      have plain : (s.expanding old).check c = .raise (.descriptorCycle c.path) :=
        check_of_active (s := s.expanding old) resolved before
      exact .inl (.inl (cycle.trans plain.symm))
    · obtain ⟨here, added⟩ := ((adds name c.path).mp marked).resolve_left before
      have plain : (s.expanding old).check c =
          (s.expanding ((name, c.path) :: old)).check { c with descriptor := stored } :=
        check_of_schema (s := s.expanding old) resolved before
      rw [cycle, plain]
      rcases within with ⟨rfl, rfl, rfl, marks⟩ | below
      · refine .inl (.inr ⟨rfl, or_iff_not_imp_left.mpr fun onward => ?_⟩)
        exact explains old name stored c.logErrors added leads.owned marks onward
      · -- Below the path nothing was added.
        rw [here] at below
        exact absurd below (Nat.lt_irrefl _)
  · exact .inr ⟨fun before => marked ((adds name c.path).mpr (.inl before)), marked⟩

/-- Two evaluations that differ in the marks at the path go side by side until the marked
one ends in the cycle. -/
theorem parallel_marked (built : s.registry.Declarative) {reason : Prop}
    (explains : s.Explains names context path value reason) :
    (Marked s names context path value).Parallel (Run.CyclesAt path reason) where
  congruence := Run.congruence_cyclesAt path reason
  built := by
    rintro _ _ _ _ ⟨adds, within⟩
    exact built
  same := by
    rintro _ _ _ _ ⟨adds, within⟩
    exact ⟨rfl, rfl, rfl⟩
  nested := by
    rintro _ _ _ _ inner other ⟨adds, within⟩ h
    obtain ⟨rfl, within'⟩ := within.nested h
    exact .intro adds within'
  report := by
    -- Reporting does not look at the marks.
    rintro _ _ _ _ ⟨adds, within⟩ passed failure
    exact .inl rfl
  misconfigured := by
    rintro _ _ _ _ ⟨adds, within⟩ m
    exact .inl rfl
  unresolved := fun _ => .inl rfl
  schema := by
    rintro _ _ c _ name stored ⟨adds, within⟩ leads
    refine (cyclesAt_or_unmarked adds within explains leads).imp_right fun ⟨new, new'⟩ => ?_
    exact ⟨new, new', .intro (adds.enter (name, c.path)) within.enter⟩

/-- More marks at the path change nothing, or make the evaluation end in the cycle at the
path. In the second case the plain evaluation ends in the cycle as well, unless there is
another explanation. -/
theorem check_marked (built : s.registry.Declarative) (reason : Prop)
    (explains : s.Explains names context path value reason) (adds : Adds names path old more)
    (within : Within context path value old c) :
    Run.CyclesAt path reason Bool ((s.expanding old).check c) ((s.expanding more).check c) :=
  related_of_parallel (parallel_marked built explains) (.intro adds within)

/-- If a schema that is entered at the path, with any marks there, does not end in the cycle,
then neither does a check of its descriptor with its own mark alone. -/
theorem explains_ne_cycle (built : s.registry.Declarative) (log : s.onFailure = .log)
    {name : TypeName} {stored : Descriptor}
    (registered : s.registry.get? name = some (.rule (.schema stored))) (logErrors : Bool) :
    s.Explains (name = ·) context path value
      (((s.expanding [(name, path)]).check ⟨context, path, value, stored, logErrors⟩).result ≠
        .error (.descriptorCycle path)) := by
  rintro marks _ again flag rfl h here notCycle
  obtain rfl : stored = again := by simpa using registered.symm.trans h
  have fewer : Adds (fun other => (other, path) ∈ marks) path [(name, path)]
      ((name, path) :: marks) := by
    intro other position
    rw [List.mem_cons, List.mem_singleton]
    refine or_congr_right ⟨fun mem => ?_, fun ⟨same, mem⟩ => same ▸ mem⟩
    obtain rfl : position = path := here _ mem
    exact ⟨rfl, mem⟩
  have within : Within context path value [(name, path)] ⟨context, path, value, stored, flag⟩ :=
    .inl ⟨rfl, rfl, rfl, by simp⟩
  -- Taking the other marks away brings no cycle about.
  have removed := check_marked built True (fun _ _ _ _ _ _ _ _ => trivial) fewer within
  have same := removed.resolve_right fun cycles => notCycle cycles.1
  rw [same] at notCycle
  have flags : ((s.expanding [(name, path)]).check
      ⟨context, path, value, stored, logErrors⟩).result =
      ((s.expanding [(name, path)]).check ⟨context, path, value, stored, flag⟩).result :=
    result_eq_of_silent_eq (s := s.expanding [(name, path)]) built log rfl
  rwa [flags]

/-- The mark of a schema at a path changes nothing for a check against its descriptor, other
than what is reported before the cycle at the path, if there is one. -/
theorem check_enter_named (built : s.registry.Declarative) (log : s.onFailure = .log)
    (fresh : s.active = []) {name : TypeName} {stored : Descriptor}
    (registered : s.registry.get? name = some (.rule (.schema stored)))
    (context path : String) (value : Value) (logErrors : Bool) :
    (s.enter name path).check ⟨context, path, value, stored, logErrors⟩ =
        s.check ⟨context, path, value, stored, logErrors⟩ ∨
      ((s.enter name path).check ⟨context, path, value, stored, logErrors⟩).result =
          .error (.descriptorCycle path) ∧
        (s.check ⟨context, path, value, stored, logErrors⟩).result =
          .error (.descriptorCycle path) := by
  -- The two sessions differ in a single mark.
  have plain : s.expanding [] = s := by
    cases s
    cases fresh
    rfl
  have marked : s.expanding [(name, path)] = s.enter name path := by
    cases s
    cases fresh
    rfl
  have within : Within context path value [] ⟨context, path, value, stored, logErrors⟩ :=
    .inl ⟨rfl, rfl, rfl, by simp⟩
  have compared :=
    check_marked built _ (explains_ne_cycle built log registered logErrors)
      (adds_singleton name path) within
  rw [plain, marked] at compared
  -- A cycle of the marked run is one of the other run: here it ends at the same path.
  rcases compared with same | ⟨cycle, others | notCycle⟩
  · exact .inl same
  · exact .inr ⟨cycle, others⟩
  · exact absurd cycle notCycle

/-- A named schema stands for its descriptor. A check against a type that is the name of a
schema comes, in a fresh session that logs failures, to the verdict or to the error of the
check against the descriptor that is stored under the name; and before a verdict the two
report the same. -/
theorem named_schema_is_transparent (registry : Registry) (built : registry.Declarative)
    (sink : Sink) (name : String) (stored : Descriptor)
    (registered : registry.get? (.named name) = some (.rule (.schema stored)))
    (context path : String) (value : Value) (logErrors : Bool) (descriptor : Descriptor)
    (typed : descriptor.type = .named name) :
    let s := Session.start registry sink .log
    let byName := s.check ⟨context, path, value, descriptor, logErrors⟩
    let direct := s.check ⟨context, path, value, stored, logErrors⟩
    byName.result = direct.result ∧
      ∀ verdict, byName.result = .ok verdict → byName.diagnostics = direct.diagnostics := by
  intro s byName direct
  have leads : registry.Leads descriptor.type (.named name) (.schema stored) := by
    rw [typed]
    exact ⟨.refl, registered⟩
  -- By its name the schema is entered; directly it is checked without the mark.
  have enters : byName =
      (s.enter (.named name) path).check ⟨context, path, value, stored, logErrors⟩ :=
    check_of_schema (s := s) (Registry.resolve_eq_ok_iff.mpr leads) (by simp [s, Session.start])
  have compared := check_enter_named (s := s) built rfl rfl registered context path value logErrors
  rw [← enters] at compared
  rcases compared with same | ⟨cycle, others⟩
  · rw [same]
    exact ⟨rfl, fun _ _ => rfl⟩
  · refine ⟨cycle.trans others.symm, fun verdict h => ?_⟩
    rw [cycle] at h
    cases h

/-- Two schemas that are nothing but each other. -/
def circular : Registry :=
  (Registry.builtins.registerSchema "hen" (.ofType (.named "egg"))).registerSchema "egg"
    (.ofType (.named "hen"))

/-- By its name the first schema is in a cycle when the second one comes back to it. A check
against its descriptor starts with the second schema and goes once around, to the same
error. -/
theorem named_schema_is_transparent_circular :
    circular.Declarative ∧
      circular.get? (.named "hen") = some (.rule (.schema (.ofType (.named "egg")))) ∧
      ((start circular .memory .log).check
        ⟨"farm", "first", .null, .ofType (.named "hen"), true⟩).result =
        .error (.descriptorCycle "first") ∧
      ((start circular .memory .log).check
        ⟨"farm", "first", .null, .ofType (.named "egg"), true⟩).result =
        .error (.descriptorCycle "first") := by
  have built : circular.Declarative := .registerSchema (.registerSchema .builtins _ _) _ _
  have hen : circular.get? (.named "hen") = some (.rule (.schema (.ofType (.named "egg")))) := by
    simp [circular, Registry.registerSchema, Registry.get?_insert]
  have egg : circular.get? (.named "egg") = some (.rule (.schema (.ofType (.named "hen")))) := by
    simp [circular, Registry.registerSchema, Registry.get?_insert]
  have toHen := Registry.resolve_eq_ok_iff.mpr ⟨.refl, hen⟩
  have toEgg := Registry.resolve_eq_ok_iff.mpr ⟨.refl, egg⟩
  have byName : ((start circular .memory .log).check
      ⟨"farm", "first", .null, .ofType (.named "hen"), true⟩).result =
      .error (.descriptorCycle "first") := by
    rw [check_of_schema toHen (by simp [start]), check_of_schema toEgg (by simp [start, enter]),
      check_of_active toHen (by simp [start, enter])]
    rfl
  -- The direct check need not be evaluated.
  have transparent := named_schema_is_transparent circular built .memory "hen" _ hen "farm" "first"
    .null true (.ofType (.named "hen")) rfl
  exact ⟨built, hen, byName, transparent.1.symm.trans byName⟩

end Session

end PropShape
