import PlotStream.Listener
import PlotStream.Machine

/-!
A whole run of the machine. Steps are made until one ends the parse or the listener refuses a
notice; a refused notice does not enter the account.
-/

namespace PlotStream

/-- The end of a run: how it came out, who listened, and the account. -/
structure Run where
  last : Machine
  listener : Listener
  trace : List Notice
  outcome : Except Fault Nat

namespace Machine

/-- Go on to the end, given the account so far in reverse. -/
def runFrom (m : Machine) (listener : Listener) (told : List Notice) : Run :=
  match _hstep : m.step with
  | .moved next none => next.runFrom listener told
  | .moved next (some notice) =>
    match listener.hear notice with
    | (listener, none) => next.runFrom listener (notice :: told)
    | (listener, some fault) => ⟨next, listener, told.reverse, .error fault⟩
  | .finished last =>
    ⟨last, listener, (.finished last.count :: told).reverse, .ok last.count⟩
  | .failed last fault => ⟨last, listener, told.reverse, .error fault⟩
termination_by m.effort
decreasing_by all_goals exact effort_step_lt _hstep

def run (m : Machine) (listener : Listener) : Run := m.runFrom listener []

end Machine

end PlotStream
