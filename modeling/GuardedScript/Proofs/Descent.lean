import GuardedScript.Proofs.Discipline

/-!
# From one level of nesting to all

A discipline judges what a task comes to by the tasks that it leads to.  If it also holds of runs
that are out of fuel, and of the few operations by which a call goes from the caller to the body,
then it holds of all tasks, however much fuel there is, as soon as calls by name are as they should
be: `Calls.perform_holds`.  The induction on the fuel is made here once.  Where all functions may be
looked up, a look-up is as it should be too, and the discipline holds of all requests:
`Descends.holds_serve`.
-/

set_option autoImplicit false

namespace GuardedScript

namespace Discipline

variable {terms : Terms} {discipline : Discipline terms}

/-- What a discipline has to hold of for it to go from a caller into the body of a function. -/
structure Calls (discipline : Discipline terms) : Prop where
  fails : ∀ {α : Type} {P : α → Prop}, discipline.Holds (fun _ => failure) P
  admits : ∀ {caller : Context} (lookup : Option Lookup) (function : Function),
    discipline.Hosts caller →
    discipline.Holds (fun _ => liftM (caller.grantCall lookup function))
      (fun admitted => ∀ callee, admitted = .ok callee →
        discipline.Hosts callee ∧ callee.kind = .call function)
  begins : ∀ {context : Context} {function : Function}, discipline.Hosts context →
    context.kind = .call function →
    discipline.Holds (fun _ => liftM (record (.began context function))) (fun _ => True)

/-- What it has to hold of besides for it to go through calls by name. -/
structure Descends (discipline : Discipline terms) : Prop extends discipline.Calls where
  overloads : ∀ {context : Context} {key : String} {store : Store}, discipline.Hosts context →
    context.Permits store (.askForFunction key) → ∀ scope : Context,
    discipline.Holds (fun _ => liftM (scope.overloads key))
      (fun functions => ∀ function ∈ functions, function.Abides terms)

/-- The bodies of functions are run as they should be, in the contexts of their calls. -/
def Bodies (discipline : Discipline terms) (perform : Evaluator) : Prop :=
  ∀ {callee : Context} {function : Function} {bindings : Bindings}, discipline.Hosts callee →
    callee.kind = .call function → function.Abides terms → terms.Binds bindings →
    discipline.Holds (fun _ => perform callee (.run function bindings)) terms.Answers

namespace Calls

variable (calls : discipline.Calls) {perform : Evaluator}

include calls

/-- A call of a function that abides is as it should be if bodies are. -/
theorem holds_call (bodies : discipline.Bodies perform) {caller : Context}
    (hosts : discipline.Hosts caller) (lookup : Option Lookup) {function : Function}
    {bindings : Bindings} (abides : function.Abides terms) (binds : terms.Binds bindings) :
    discipline.Holds (fun _ => invokeObject perform lookup caller function bindings)
      terms.Answers := by
  refine holds_invokeObject (calls.admits lookup function hosts) ?_
  rintro callee ⟨hcallee, hkind⟩
  exact bodies hcallee hkind abides binds

variable (serves : ∀ {perform : Evaluator}, discipline.Bodies perform →
  discipline.Performs (fun _ => perform) → discipline.Serves (fun _ => perform))

include serves

omit calls in
/-- One more level of nesting performs tasks as it should. -/
theorem performs_step (bodies : discipline.Bodies perform)
    (performs : discipline.Performs (fun _ => perform)) :
    discipline.Performs (fun _ => step perform) where
  evaluate := by
    intro context value hosts
    have hserves := serves bodies performs
    exact holds_evaluateStep hserves hosts (fun part _ => performs.resolve hosts part)
  act := by
    intro context action hosts abides
    refine holds_actStep hosts (performs.resolve hosts) abides ?_
    rintro block rfl scope hscope inner hmem
    cases abides with
    | block actions => exact performs.act hscope (actions inner hmem)

/-- One more level of nesting runs bodies as it should. -/
theorem bodies_step (bodies : discipline.Bodies perform)
    (performs : discipline.Performs (fun _ => perform)) : discipline.Bodies (step perform) := by
  intro callee function bindings hosts hkind abides binds
  have hserves := serves bodies performs
  refine discipline.holds_bind (calls.begins hosts hkind) (fun _ _ => ?_)
  exact holds_runBody hserves hosts (performs.resolve hosts)
    (fun _ habides => performs.act hosts habides) abides binds

/-- If calls are as they should be whenever the tasks below them are, then all tasks are, with
whatever fuel. -/
theorem perform_holds (fuel : Nat) :
    discipline.Bodies (GuardedScript.perform fuel) ∧
      discipline.Performs (fun _ => GuardedScript.perform fuel) := by
  induction fuel with
  | zero =>
    refine ⟨?_, ?_, ?_⟩
    · intro callee function bindings _ _ _ _
      exact calls.fails
    · intro context value _
      exact calls.fails
    · intro context action _ _
      exact calls.fails
  | succ fuel ih =>
    obtain ⟨bodies, performs⟩ := ih
    exact ⟨calls.bodies_step serves bodies performs, performs_step serves bodies performs⟩

end Calls

namespace Descends

variable (descends : discipline.Descends) {perform : Evaluator}

include descends

/-- Calls by name are as they should be if the tasks below them are. -/
theorem serves (bodies : discipline.Bodies perform)
    (performs : discipline.Performs (fun _ => perform)) :
    discipline.Serves (fun _ => perform) where
  invoke := by
    intro context name arguments hosts passes
    refine holds_guarded (asks_self hosts) rfl
      (fun _ => discipline.holds_pure (terms.answers_failure _)) (fun _ asked => ?_)
    -- the caller was permitted to look for the key, which settles all scopes of the search
    have hoverloads := descends.overloads hosts asked
    refine holds_search ?_ passes (fun scope _ _ => hoverloads scope)
      (discipline.asks_around hosts) asked {}
    intro lookup function bindings abides binds
    exact descends.holds_call bodies hosts lookup abides binds
  again := fun hosts _ => performs.resolve hosts _

/-- All tasks are as they should be, with whatever fuel. -/
theorem perform_holds (fuel : Nat) :
    discipline.Bodies (GuardedScript.perform fuel) ∧
      discipline.Performs (fun _ => GuardedScript.perform fuel) :=
  descends.toCalls.perform_holds descends.serves fuel

/-- Every request is served as it should be, with whatever fuel. -/
theorem holds_serve (fuel : Nat) {context : Context} (hosts : discipline.Hosts context)
    {request : Request} (abides : request.Abides terms) :
    discipline.Holds (fun _ => request.serve (GuardedScript.perform fuel) context)
      terms.Answers := by
  obtain ⟨bodies, performs⟩ := descends.perform_holds fuel
  exact Discipline.holds_serve (descends.serves bodies performs) performs hosts abides

end Descends

end Discipline

end GuardedScript
