import TargetBuilder.World

/-!
# Runners

Operations on sessions run tasks: the block of a context, the operation of a provider, the work that was
deferred. What a task does is the business of the script language, which in turn uses these operations.
The knot is tied outside: every operation is written for a given runner, and a runner for one level of
nesting more is made from the operations.

A runner also bounds how often an operation repeats a step, such as a pass over deferred work.
-/

namespace TargetBuilder

/-- How tasks are run. -/
structure Runner where
  /-- How often a step may be repeated. -/
  fuel : Nat
  /-- Runs a task on a session. -/
  exec : Task → SessionId → Action World Value

namespace Runner

/-- Runs a task for what it does. -/
def perform (R : Runner) (task : Task) (s : SessionId) : Action World Unit := do
  let _ ← R.exec task s
  pure ()

end Runner

end TargetBuilder
