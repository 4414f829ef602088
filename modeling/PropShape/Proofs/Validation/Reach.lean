import PropShape.Proofs.Validation.Calls

/-!
# `PropShape.Proofs.Validation.Reach`: the checks that an evaluation comes to

A plan may ask for more checks than an evaluation gets to, because an error
ends it early and a union stops at the first success. `Session.Makes` is a
move from a check to a nested one that the evaluation does get to, and
`Session.Reaches` is a chain of moves. All checks on a chain are being decided
at the same time, the outer ones waiting for the inner ones.

* `check_eq_error_iff`: a check ends in an error that is not a raised failure
  exactly if it reaches a check whose own plan is to raise it.
* `Reaches.of_mem_active`, `Reaches.mem_active`: the schemas marked as being
  expanded at the end of a chain are those that were entered on it. Nothing is
  left of the schemas that were entered beside the chain, in parts that are
  done with or in alternatives that failed.
* `Reaches.path_eq_iff`: the path is still the same exactly if no move went
  into the value. Paths are compared as texts, and names may contain dots and
  brackets or be empty; what tells two paths on a chain apart is their length.
-/

set_option autoImplicit false

namespace PropShape

/-- How an evaluation goes from a check to a nested one. -/
inductive Move
  /-- Into a field or an item of the value. -/
  | part
  /-- Into a stored schema, entered under a name. -/
  | expand (name : TypeName)
  /-- To an alternative of a union. -/
  | alternative

namespace Session

/-- The evaluation of a check gets to a nested check: all that comes before it in the plan
has ended, and in a way that lets the evaluation go on. -/
inductive Makes (s : Session) (c : Check) : Move → Session → Check → Prop
  | part {before after : List Part} {inner : Check} {failure : Failure}
    (h : s.plan c = .all (before ++ .check inner :: after) failure)
    (earlier : ∀ part ∈ before, ∃ passed, (s.checkPart c part).result = .ok passed) :
    Makes s c .part s inner
  | expand {name : TypeName} {inner : Check} (h : s.plan c = .enter name inner) :
    Makes s c (.expand name) (s.enter name c.path) inner
  | alternative {before after : List Check} {inner : Check} {failure : Failure}
    (h : s.plan c = .any (before ++ inner :: after) failure)
    (earlier : ∀ other ∈ before, (s.check other).result = .ok false) :
    Makes s c .alternative s inner

/-- A chain of moves from one check to another. -/
inductive Reaches : Session → Check → List Move → Session → Check → Prop
  | refl (s : Session) (c : Check) : Reaches s c [] s c
  | head {s t u : Session} {c inner target : Check} {move : Move} {moves : List Move}
    (first : s.Makes c move t inner) (rest : Reaches t inner moves u target) :
    Reaches s c (move :: moves) u target

variable {s t : Session} {c inner : Check} {move : Move} {moves : List Move}

/-- A move goes to one of the checks that the plan asks for. -/
theorem Makes.calls (h : s.Makes c move t inner) : s.Calls c t inner := by
  cases h with
  | part h earlier => exact .part h (List.mem_append_right _ List.mem_cons_self)
  | expand h => exact .enter h
  | alternative h earlier => exact .alternative h (List.mem_append_right _ List.mem_cons_self)

/-- A chain may be followed by another one. -/
theorem Reaches.append {u : Session} {target : Check} {more : List Move}
    (h : s.Reaches c moves t inner) (onward : t.Reaches inner more u target) :
    s.Reaches c (moves ++ more) u target := by
  induction h with
  | refl => exact onward
  | head first rest ih => exact .head first (ih onward)

/-- The registry stays the same along a chain. -/
theorem Reaches.registry_eq (h : s.Reaches c moves t inner) : t.registry = s.registry := by
  induction h with
  | refl => rfl
  | head first rest ih => exact ih.trans first.calls.registry_eq

/-! ## Errors -/

/-- An error of a nested check that the evaluation gets to ends the evaluation. -/
theorem Makes.eq_error {e : PropError} (h : s.Makes c move t inner)
    (error : (t.check inner).result = .error e) : (s.check c).result = .error e := by
  rw [check_eq_follow]
  -- The parts before this one did not raise, so the loop comes to it.
  cases h with
  | @part before after inner failure h earlier =>
    rw [h]
    refine Run.bind_eq_error_iff.mpr (.inl ?_)
    exact Run.all_map_eq_error_iff.mpr ⟨before, .check inner, after, rfl, earlier, error⟩
  | expand h =>
    rw [h]
    exact error
  | @alternative before after inner failure h earlier =>
    rw [h]
    refine Run.bind_eq_error_iff.mpr (.inl ?_)
    exact Run.any_map_eq_error_iff.mpr ⟨before, inner, after, rfl, earlier, error⟩

/-- An error at the end of a chain is the error of the whole. -/
theorem Reaches.eq_error {e : PropError} (h : s.Reaches c moves t inner)
    (error : (t.check inner).result = .error e) : (s.check c).result = .error e := by
  induction h with
  | refl => exact error
  | head first rest ih => exact first.eq_error (ih error)

/-- An error that is not raised on the spot comes from a nested check that the evaluation
gets to. -/
theorem raise_or_makes_of_eq_error (built : s.registry.Declarative) {e : PropError}
    (notRaised : ∀ message, e ≠ .failed message) (h : (s.check c).result = .error e) :
    s.plan c = .raise e ∨ ∃ move t inner, s.Makes c move t inner ∧
      (t.check inner).result = .error e := by
  rw [check_eq_follow] at h
  cases hplan : s.plan c with
  | raise error =>
    rw [hplan] at h
    cases h
    exact .inl rfl
  | pass =>
    rw [hplan] at h
    cases h
  | settle passed failure =>
    rw [hplan] at h
    exact absurd (expect_eq_error h) (notRaised _)
  | misconfigured m =>
    rw [hplan] at h
    cases h
  | enter name inner =>
    rw [hplan] at h
    exact .inr ⟨_, _, inner, .expand hplan, h⟩
  | all parts failure =>
    rw [hplan] at h
    rcases Run.bind_eq_error_iff.mp h with h | ⟨passed, -, h⟩
    · -- All parts before the one that errs came to a verdict.
      obtain ⟨before, part, after, rfl, earlier, h⟩ := Run.all_map_eq_error_iff.mp h
      cases part with
      | check inner => exact .inr ⟨_, s, inner, .part hplan earlier, h⟩
      | settle passed failure => exact absurd (expect_eq_error h) (notRaised _)
    · exact absurd (expect_eq_error h) (notRaised _)
  | any alternatives failure =>
    rw [hplan] at h
    rcases Run.bind_eq_error_iff.mp h with h | ⟨passed, -, h⟩
    · -- All alternatives before the one that errs failed.
      obtain ⟨before, inner, after, rfl, earlier, h⟩ := Run.any_map_eq_error_iff.mp h
      exact .inr ⟨_, s, inner, .alternative hplan earlier, h⟩
    · exact absurd (expect_eq_error h) (notRaised _)
  | host rule => exact absurd hplan (plan_ne_host built)

/-- An error that is not a raised failure ends a check exactly if the check reaches one
whose plan is to raise it. -/
theorem check_eq_error_iff (built : s.registry.Declarative) {e : PropError}
    (notRaised : ∀ message, e ≠ .failed message) :
    (s.check c).result = .error e ↔
      ∃ moves t inner, s.Reaches c moves t inner ∧ t.plan inner = .raise e := by
  constructor
  · intro h
    -- An error is raised here, or it is that of a nested check that was made.
    induction s, c using check_induction with
    | step s c ih =>
      rcases raise_or_makes_of_eq_error built notRaised h with raised | ⟨_, t, inner, first, h⟩
      · exact ⟨[], s, c, .refl s c, raised⟩
      · have built' : t.registry.Declarative := first.calls.registry_eq ▸ built
        obtain ⟨moves, u, target, rest, raised⟩ := ih t inner first.calls built' h
        exact ⟨_, u, target, .head first rest, raised⟩
  · rintro ⟨moves, t, inner, reached, raised⟩
    refine reached.eq_error ?_
    rw [check_eq_follow, raised]
    rfl

/-! ## Schemas that are being expanded -/

/-- A schema that is being expanded stays so along a move. -/
theorem Makes.mem_active {entry : TypeName × String} (h : s.Makes c move t inner)
    (mem : entry ∈ s.active) : entry ∈ t.active := by
  cases h with
  | part h earlier => exact mem
  | expand h => exact List.mem_cons_of_mem _ mem
  | alternative h earlier => exact mem

/-- A schema that is being expanded stays so along a chain. -/
theorem Reaches.mem_active {entry : TypeName × String} (h : s.Reaches c moves t inner)
    (mem : entry ∈ s.active) : entry ∈ t.active := by
  induction h with
  | refl => exact mem
  | head first rest ih => exact ih (first.mem_active mem)

/-- A schema is being expanded at the end of a chain only if it was before, or if it was
entered on the chain. -/
theorem Reaches.of_mem_active {name : TypeName} {path : String} (h : s.Reaches c moves t inner)
    (mem : (name, path) ∈ t.active) :
    (name, path) ∈ s.active ∨ ∃ before u outer entered between,
      s.Reaches c before u outer ∧ outer.path = path ∧
      u.Makes outer (.expand name) (u.enter name outer.path) entered ∧
      (u.enter name outer.path).Reaches entered between t inner := by
  induction h with
  | refl => exact .inl mem
  | @head s t u c inner target move moves first rest ih =>
    rcases ih mem with before | ⟨before, v, outer, entered, between, reached, onward⟩
    · -- The entry is as old as the first move, or older.
      cases first with
      | part => exact .inl before
      | alternative => exact .inl before
      | expand h =>
        rcases List.mem_cons.mp before with heq | older
        · cases heq
          exact .inr ⟨[], s, c, inner, moves, .refl s c, rfl, .expand h, rest⟩
        · exact .inl older
    · exact .inr ⟨_, v, outer, entered, between, .head first reached, onward⟩

/-! ## Paths -/

/-- A move that does not go into the value stays at its path. -/
theorem Makes.path_eq (h : s.Makes c move t inner) (stays : move ≠ .part) :
    inner.path = c.path := by
  cases h with
  | part => exact absurd rfl stays
  | expand h =>
    obtain ⟨stored, -, -, rfl⟩ := stored_of_plan h
    rfl
  | alternative h =>
    obtain ⟨-, descriptor, -, rfl⟩ :=
      alternative_of_plan h (List.mem_append_right _ List.mem_cons_self)
    rfl

/-- A move into the value makes the path longer. -/
theorem Makes.length_path_lt (h : s.Makes c .part t inner) :
    c.path.length < inner.path.length := by
  cases h with
  | part h earlier =>
    exact (descends_of_plan h (List.mem_append_right _ List.mem_cons_self)).length_path_lt

/-- A chain that does not go into the value stays at its path. -/
theorem Reaches.path_eq (h : s.Reaches c moves t inner) (stays : .part ∉ moves) :
    inner.path = c.path := by
  induction h with
  | refl => rfl
  | head first rest ih =>
    obtain ⟨hmove, hmoves⟩ := List.ne_and_not_mem_of_not_mem_cons stays
    exact (ih hmoves).trans (first.path_eq (Ne.symm hmove))

/-- The path does not get shorter along a chain. -/
theorem Reaches.length_path_le (h : s.Reaches c moves t inner) :
    c.path.length ≤ inner.path.length := by
  induction h with
  | refl => exact Nat.le_refl _
  | @head s t u c inner target move moves first rest ih =>
    cases move with
    | part =>
      have := first.length_path_lt
      omega
    | expand name => rwa [← first.path_eq (by simp)]
    | alternative => rwa [← first.path_eq (by simp)]

/-- A chain ends at the path where it starts exactly if it does not go into the value. -/
theorem Reaches.path_eq_iff (h : s.Reaches c moves t inner) :
    inner.path = c.path ↔ .part ∉ moves := by
  refine ⟨fun same inside => ?_, h.path_eq⟩
  induction h with
  | refl => simp at inside
  | @head s t u c inner target move moves first rest ih =>
    have onward := rest.length_path_le
    cases move with
    | part =>
      -- The path has grown, and never shrinks again.
      have := first.length_path_lt
      rw [same] at onward
      omega
    | expand name =>
      rw [← first.path_eq (by simp)] at same
      exact ih same (by simpa using inside)
    | alternative =>
      rw [← first.path_eq (by simp)] at same
      exact ih same (by simpa using inside)

end Session

end PropShape
