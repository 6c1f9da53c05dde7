/-!
# Runs

A run is a state together with what happened on the way to it, the newest first. A command changes
the state and leaves one event; what a command does may depend on what happened before.
-/

namespace Underlay

structure Run (State Event : Type) where
  state : State
  history : List Event := []

namespace Run

section Commands

variable {State Event Command : Type} (perform : Run State Event → Command → Event × State)

def step (run : Run State Event) (command : Command) : Run State Event :=
  let (event, state) := perform run command
  { state, history := event :: run.history }

def steps (run : Run State Event) (commands : List Command) : Run State Event :=
  commands.foldl (step perform) run

/-- What happens when the commands are given, the newest first. -/
def events (run : Run State Event) : List Command → List Event
  | [] => []
  | command :: commands =>
      (run.step perform command).events commands ++ [(perform run command).1]

theorem steps_append (run : Run State Event) (commands later : List Command) :
    run.steps perform (commands ++ later) = (run.steps perform commands).steps perform later :=
  List.foldl_append

theorem steps_concat (run : Run State Event) (commands : List Command) (command : Command) :
    run.steps perform (commands ++ [command]) = (run.steps perform commands).step perform command :=
  steps_append perform run commands [command]

theorem history_steps (run : Run State Event) (commands : List Command) :
    (run.steps perform commands).history = run.events perform commands ++ run.history := by
  induction commands generalizing run with
  | nil => rfl
  | cons command commands inductionHypothesis =>
      rw [steps, List.foldl_cons, ← steps, inductionHypothesis, events, List.append_assoc]
      rfl

/-- What every command preserves holds along the whole run. -/
theorem steps_induction {Invariant : Run State Event → Prop}
    (preserved : ∀ run command, Invariant run → Invariant (run.step perform command))
    {run : Run State Event} (start : Invariant run) (commands : List Command) :
    Invariant (run.steps perform commands) := by
  induction commands generalizing run with
  | nil => exact start
  | cons command commands inductionHypothesis =>
      exact inductionHypothesis (preserved run command start)

end Commands

end Run

end Underlay
