import PropShape.Report.Error

/-!
# `PropShape.Report.Run`: runs and what they report

A run ends in a result or in an error, and what it reported on the way stays
reported either way. Reports go to a sink under a policy. `OnFailure.log`
keeps the run going, `OnFailure.throw` ends it with the report as its error.

The two sinks differ in what they keep of a raised report: a memory sink
keeps it like any other, a tracing sink lets the error speak for it. That is
all they differ in, so a sink is described by what it keeps (`Sink.keeps`).

`Run.bind_diagnostics` says that reports are only ever added at the end.
-/

set_option autoImplicit false

namespace PropShape

/-- What becomes of a reported failure. -/
inductive OnFailure
  /-- It is written down and the run goes on. -/
  | log
  /-- It ends the run. -/
  | throw
  deriving DecidableEq, Inhabited

/-- The policy of a switch for raising failures. -/
def OnFailure.ofThrowErrors (throwErrors : Bool) : OnFailure :=
  if throwErrors then .throw else .log

/-- A report as a sink received it. -/
structure Diagnostic where
  /-- Names the object that was validated. -/
  context : String
  message : Message
  onFailure : OnFailure

/-- Where reports go. -/
inductive Sink
  /-- Keeps every report. -/
  | memory
  /-- Emits every report as a warning, unless it is raised. -/
  | tracing
  deriving DecidableEq, Inhabited

/-- Whether a sink keeps a report made under a policy. -/
def Sink.keeps : Sink → OnFailure → Bool
  | .memory, _ => true
  | .tracing, .log => true
  | .tracing, .throw => false

/-- What a computation reported, and how it ended. -/
structure Run (α : Type) where
  diagnostics : List Diagnostic
  result : Except PropError α

namespace Run

variable {α β : Type}

/-- Ends with an error. -/
def raise (error : PropError) : Run α := ⟨[], .error error⟩

/-- Goes on with a result; an error skips what follows. -/
def andThen (run : Run α) (next : α → Run β) : Run β :=
  match run.result with
  | .ok a =>
    let rest := next a
    ⟨run.diagnostics ++ rest.diagnostics, rest.result⟩
  | .error e => ⟨run.diagnostics, .error e⟩

/-- Goes on with another run, after a result and after an error alike. -/
def followedBy (run : Run α) (rest : Run β) : Run β :=
  ⟨run.diagnostics ++ rest.diagnostics, rest.result⟩

instance : Monad Run where
  pure a := ⟨[], .ok a⟩
  bind := andThen

/-- A run that does nothing reports nothing. -/
@[simp] theorem pure_diagnostics (a : α) : (pure a : Run α).diagnostics = [] := rfl

/-- A run that does nothing has the result it was given. -/
@[simp] theorem pure_result (a : α) : (pure a : Run α).result = .ok a := rfl

/-- The second run decides the result, whatever came of the first. -/
@[simp] theorem followedBy_result (run : Run α) (rest : Run β) :
    (run.followedBy rest).result = rest.result := rfl

/-- What comes second adds its reports, unless an error has skipped it. -/
theorem bind_diagnostics (run : Run α) (next : α → Run β) :
    (run >>= next).diagnostics =
      run.diagnostics ++ (match run.result with
        | .ok a => (next a).diagnostics
        | .error _ => []) := by
  show (andThen run next).diagnostics = _
  unfold andThen
  split <;> simp_all

/-- What comes second decides the result, unless an error has skipped it. -/
theorem bind_result (run : Run α) (next : α → Run β) :
    (run >>= next).result =
      (match run.result with
        | .ok a => (next a).result
        | .error e => .error e) := by
  show (andThen run next).result = _
  unfold andThen
  split <;> simp_all

end Run

/-- Ends the run with a report if the policy says so. -/
def OnFailure.escalate (policy : OnFailure) (message : Message) : Except PropError Unit :=
  match policy with
  | .log => .ok ()
  | .throw => .error (.failed message)

/-- Hands a report to the sink, which keeps it and then applies the policy. -/
def Sink.warn (sink : Sink) (context : String) (message : Message) (policy : OnFailure) :
    Run Unit :=
  ⟨if sink.keeps policy then [⟨context, message, policy⟩] else [], policy.escalate message⟩

end PropShape
