import PropShape.Report.Run

/-!
# `PropShape.Proofs.Report.Run`: laws of runs

Runs form a lawful monad (`instLawfulMonad`): reports are appended, and an
error skips what follows. Two ways to put a list of runs together are all
that rules need:

* `Run.all` carries out every run, also after a verdict of false, and passes
  if each one does;
* `Run.any` stops at the first run that passes.

Both end early at an error, and only there. `all_map_eq_error_iff` and
`any_map_eq_error_iff` say which error comes out: that of the first run that
errs, with every run before it ended in a verdict. `of_all_map_eq_ok` and
`of_any_map_eq_ok` say what a verdict means for the single runs.
-/

set_option autoImplicit false

namespace PropShape

/-- Both sinks keep what is logged. -/
@[simp] theorem Sink.keeps_log (sink : Sink) : sink.keeps .log = true := by
  cases sink <;> rfl

namespace Run

variable {ι α β : Type}

/-- A run is its diagnostics and its result. -/
@[ext] theorem ext {run other : Run α} (diagnostics : run.diagnostics = other.diagnostics)
    (result : run.result = other.result) : run = other := by
  cases run
  cases other
  cases diagnostics
  cases result
  rfl

/-- After a result the run goes on, and the reports are appended. -/
theorem bind_of_ok {run : Run α} {a : α} (h : run.result = .ok a) (next : α → Run β) :
    run >>= next = ⟨run.diagnostics ++ (next a).diagnostics, (next a).result⟩ := by
  ext1
  · simp only [bind_diagnostics, h]
  · simp only [bind_result, h]

/-- After an error the run is over. -/
theorem bind_of_error {run : Run α} {e : PropError} (h : run.result = .error e)
    (next : α → Run β) : run >>= next = ⟨run.diagnostics, .error e⟩ := by
  ext1
  · simp only [bind_diagnostics, h, List.append_nil]
  · simp only [bind_result, h]

/-- A run that ends in a result went through a result of its first part. -/
theorem bind_eq_ok_iff {run : Run α} {next : α → Run β} {b : β} :
    (run >>= next).result = .ok b ↔ ∃ a, run.result = .ok a ∧ (next a).result = .ok b := by
  rw [bind_result]
  cases run.result <;> simp

/-- A run ends in an error of its first part, or in one of what follows. -/
theorem bind_eq_error_iff {run : Run α} {next : α → Run β} {e : PropError} :
    (run >>= next).result = .error e ↔
      run.result = .error e ∨ ∃ a, run.result = .ok a ∧ (next a).result = .error e := by
  rw [bind_result]
  cases run.result <;> simp

/-- A report is one of the first part, or one of what follows its result. -/
theorem mem_diagnostics_bind {run : Run α} {next : α → Run β} {d : Diagnostic} :
    d ∈ (run >>= next).diagnostics ↔
      d ∈ run.diagnostics ∨ ∃ a, run.result = .ok a ∧ d ∈ (next a).diagnostics := by
  rw [bind_diagnostics]
  cases run.result <;> simp

/-- Runs with the same result go on with the same value or not at all, so what relates their
reports relates them to the end if it goes along with appending. -/
theorem bind_of_same_result (R : List Diagnostic → List Diagnostic → Prop)
    (append : ∀ {ds es ds' es'}, R ds es → R ds' es' → R (ds ++ ds') (es ++ es'))
    {run other : Run α} {next onward : α → Run β} (same : run.result = other.result)
    (kept : R run.diagnostics other.diagnostics)
    (rest : ∀ a, (next a).result = (onward a).result ∧
      R (next a).diagnostics (onward a).diagnostics) :
    (run >>= next).result = (other >>= onward).result ∧
      R (run >>= next).diagnostics (other >>= onward).diagnostics := by
  -- The results are the same, so the same continuation is taken on both sides.
  cases h : run.result with
  | error e =>
    rw [bind_of_error h, bind_of_error (same ▸ h)]
    exact ⟨rfl, kept⟩
  | ok a =>
    rw [bind_of_ok h, bind_of_ok (same ▸ h)]
    exact ⟨(rest a).1, append kept (rest a).2⟩

instance instLawfulMonad : LawfulMonad Run :=
  LawfulMonad.mk' Run
    (fun run => by
      show (run >>= fun a => pure a) = run
      cases h : run.result with
      | ok a =>
        rw [bind_of_ok h]
        ext1 <;> simp [h]
      | error e =>
        rw [bind_of_error h]
        ext1 <;> simp [h])
    (fun a next => by
      rw [bind_of_ok (pure_result a)]
      rfl)
    (fun run f g => by
      cases h : run.result with
      | ok a =>
        rw [bind_of_ok h, bind_of_ok h]
        ext1
        · simp only [bind_diagnostics]
          rw [List.append_assoc]
        · simp only [bind_result]
      | error e => rw [bind_of_error h, bind_of_error h, bind_of_error rfl])

/-- A function on the result leaves errors as they are. -/
theorem map_result (f : α → β) (run : Run α) : (f <$> run).result = run.result.map f := by
  rw [map_eq_pure_bind, bind_result]
  cases run.result <;> rfl

/-- Carries out every run in turn, and passes if each one does. -/
def all : List (Run Bool) → Run Bool
  | [] => return true
  | run :: rest => do
    let passed ← run
    let others ← all rest
    return passed && others

/-- Carries out runs in turn, up to the first that passes. -/
def any : List (Run Bool) → Run Bool
  | [] => return false
  | run :: rest => do
    let passed ← run
    if passed then return true else any rest

/-- Going through two lists of runs is going through one and then the other. -/
theorem all_append (first second : List (Run Bool)) :
    all (first ++ second) = do
      let passed ← all first
      let others ← all second
      return passed && others := by
  induction first with
  | nil =>
    show all second = (pure true >>= fun passed => all second >>= fun others => _)
    simp only [pure_bind, Bool.true_and, bind_pure]
  | cons run rest ih =>
    show (run >>= fun passed => all (rest ++ second) >>= fun others => _) = _
    -- The verdict of the first run moves out of both conjunctions.
    simp only [ih, all, bind_assoc, pure_bind, Bool.and_assoc]

section Ends

variable {run : Run Bool} {rest : List (Run Bool)}

/-- An error ends the runs, and nothing after it is carried out. -/
theorem all_cons_of_error {e : PropError} (error : run.result = .error e) :
    all (run :: rest) = run := by
  rw [all, bind_of_error error, ← error]

/-- After a verdict of false the next run is tried, with the reports kept. -/
theorem any_cons_of_false (verdict : run.result = .ok false) :
    any (run :: rest) = run >>= fun _ => any rest := by
  rw [any, bind_of_ok verdict, bind_of_ok verdict, if_neg Bool.false_ne_true]

/-- Any other end of the first run ends the whole. -/
theorem any_cons_of_ended (ended : run.result ≠ .ok false) : any (run :: rest) = run := by
  cases h : run.result with
  | error e => rw [any, bind_of_error h, ← h]
  | ok verdict =>
    cases verdict with
    | false => exact absurd h ended
    | true =>
      rw [any, bind_of_ok h, if_pos rfl]
      exact ext (List.append_nil _) h.symm

end Ends

/-- If all runs were carried out, each ended in a verdict, and the whole passed
exactly if each one did. -/
theorem of_all_map_eq_ok {f : ι → Run Bool} {items : List ι} {verdict : Bool}
    (h : (all (items.map f)).result = .ok verdict) :
    (∀ item ∈ items, ∃ passed, (f item).result = .ok passed) ∧
      (verdict = true ↔ ∀ item ∈ items, (f item).result = .ok true) := by
  -- The verdict of the whole is the conjunction, taken from the front.
  induction items generalizing verdict with
  | nil =>
    cases h
    simp
  | cons item rest ih =>
    obtain ⟨passed, hitem, h⟩ := bind_eq_ok_iff.mp h
    obtain ⟨others, hrest, h⟩ := bind_eq_ok_iff.mp h
    cases h
    obtain ⟨hok, hall⟩ := ih hrest
    refine ⟨?_, ?_⟩
    · intro other hother
      rcases List.mem_cons.mp hother with rfl | hother
      · exact ⟨passed, hitem⟩
      · exact hok other hother
    · rw [Bool.and_eq_true, hall, List.forall_mem_cons, hitem]
      simp

/-- The error of carrying out all runs is that of the first run that errs. -/
theorem all_map_eq_error_iff {f : ι → Run Bool} {items : List ι} {e : PropError} :
    (all (items.map f)).result = .error e ↔
      ∃ before item after, items = before ++ item :: after ∧
        (∀ other ∈ before, ∃ passed, (f other).result = .ok passed) ∧
        (f item).result = .error e := by
  induction items with
  | nil => simp [all]
  | cons first rest ih =>
    rw [List.map_cons, all, bind_eq_error_iff]
    constructor
    · rintro (herr | ⟨passed, hok, herr⟩)
      · exact ⟨[], first, rest, rfl, by simp, herr⟩
      · -- The error is one of the rest. Putting the verdicts together raises none.
        rcases bind_eq_error_iff.mp herr with herr | ⟨others, -, herr⟩
        · obtain ⟨before, item, after, rfl, hbefore, hitem⟩ := ih.mp herr
          refine ⟨first :: before, item, after, rfl, ?_, hitem⟩
          exact List.forall_mem_cons.mpr ⟨⟨passed, hok⟩, hbefore⟩
        · cases herr
    · rintro ⟨before, item, after, hsplit, hbefore, hitem⟩
      cases before with
      | nil =>
        obtain ⟨rfl, rfl⟩ := List.cons_eq_cons.mp hsplit
        exact .inl hitem
      | cons other before =>
        obtain ⟨rfl, rfl⟩ := List.cons_eq_cons.mp hsplit
        obtain ⟨⟨passed, hok⟩, hbefore⟩ := List.forall_mem_cons.mp hbefore
        refine .inr ⟨passed, hok, bind_eq_error_iff.mpr (.inl ?_)⟩
        exact ih.mpr ⟨before, item, after, rfl, hbefore, hitem⟩

/-- A report of carrying out all runs was made by a run that was got to. -/
theorem of_mem_diagnostics_all_map {f : ι → Run Bool} {items : List ι} {d : Diagnostic}
    (h : d ∈ (all (items.map f)).diagnostics) :
    ∃ before item after, items = before ++ item :: after ∧
      (∀ other ∈ before, ∃ passed, (f other).result = .ok passed) ∧ d ∈ (f item).diagnostics := by
  induction items with
  | nil => cases h
  | cons first rest ih =>
    rw [List.map_cons, all] at h
    rcases mem_diagnostics_bind.mp h with h | ⟨passed, hok, h⟩
    · exact ⟨[], first, rest, rfl, by simp, h⟩
    · -- Putting the verdicts together reports nothing.
      rcases mem_diagnostics_bind.mp h with h | ⟨others, -, h⟩
      · obtain ⟨before, item, after, rfl, hbefore, hitem⟩ := ih h
        refine ⟨first :: before, item, after, rfl, ?_, hitem⟩
        exact List.forall_mem_cons.mpr ⟨⟨passed, hok⟩, hbefore⟩
      · cases h

/-- If trying the runs ended in a verdict, it is whether one of them passed; and if
none did, each was tried. -/
theorem of_any_map_eq_ok {f : ι → Run Bool} {items : List ι} {verdict : Bool}
    (h : (any (items.map f)).result = .ok verdict) :
    (verdict = true → ∃ item ∈ items, (f item).result = .ok true) ∧
      (verdict = false → ∀ item ∈ items, (f item).result = .ok false) := by
  induction items with
  | nil =>
    cases h
    simp
  | cons item rest ih =>
    obtain ⟨passed, hitem, h⟩ := bind_eq_ok_iff.mp h
    cases passed with
    | true =>
      -- The rest was not tried, and nothing is claimed about it.
      cases h
      exact ⟨fun _ => ⟨item, List.mem_cons_self, hitem⟩, by simp⟩
    | false =>
      obtain ⟨htrue, hfalse⟩ := ih h
      refine ⟨fun hv => ?_, fun hv => List.forall_mem_cons.mpr ⟨hitem, hfalse hv⟩⟩
      obtain ⟨other, hmem, hother⟩ := htrue hv
      exact ⟨other, List.mem_cons_of_mem _ hmem, hother⟩

/-- The error of trying runs is that of the first run that errs, and none before it
passed. -/
theorem any_map_eq_error_iff {f : ι → Run Bool} {items : List ι} {e : PropError} :
    (any (items.map f)).result = .error e ↔
      ∃ before item after, items = before ++ item :: after ∧
        (∀ other ∈ before, (f other).result = .ok false) ∧ (f item).result = .error e := by
  -- An error ends the runs only where all runs before it came to a verdict of false.
  induction items with
  | nil => simp [any]
  | cons first rest ih =>
    rw [List.map_cons, any, bind_eq_error_iff]
    constructor
    · rintro (herr | ⟨passed, hok, herr⟩)
      · exact ⟨[], first, rest, rfl, by simp, herr⟩
      · cases passed with
        | true => cases herr
        | false =>
          obtain ⟨before, item, after, rfl, hbefore, hitem⟩ := ih.mp herr
          exact ⟨first :: before, item, after, rfl, List.forall_mem_cons.mpr ⟨hok, hbefore⟩, hitem⟩
    · rintro ⟨before, item, after, hsplit, hbefore, hitem⟩
      cases before with
      -- The first run itself ends in the error.
      | nil =>
        obtain ⟨rfl, rfl⟩ := List.cons_eq_cons.mp hsplit
        exact .inl hitem
      | cons other before =>
        obtain ⟨rfl, rfl⟩ := List.cons_eq_cons.mp hsplit
        obtain ⟨hok, hbefore⟩ := List.forall_mem_cons.mp hbefore
        exact .inr ⟨false, hok, ih.mpr ⟨before, item, after, rfl, hbefore, hitem⟩⟩

/-- A report of trying runs was made by a run that was tried. -/
theorem of_mem_diagnostics_any_map {f : ι → Run Bool} {items : List ι} {d : Diagnostic}
    (h : d ∈ (any (items.map f)).diagnostics) :
    ∃ before item after, items = before ++ item :: after ∧
      (∀ other ∈ before, (f other).result = .ok false) ∧ d ∈ (f item).diagnostics := by
  induction items with
  | nil => cases h
  | cons first rest ih =>
    rw [List.map_cons, any] at h
    rcases mem_diagnostics_bind.mp h with h | ⟨passed, hok, h⟩
    · exact ⟨[], first, rest, rfl, by simp, h⟩
    · -- After a success nothing more is carried out, so nothing more is reported.
      cases passed with
      | true => cases h
      | false =>
        obtain ⟨before, item, after, rfl, hbefore, hitem⟩ := ih h
        exact ⟨first :: before, item, after, rfl, List.forall_mem_cons.mpr ⟨hok, hbefore⟩, hitem⟩

end Run

end PropShape
