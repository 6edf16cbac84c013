/-
**Scripts on the logger.**

The logger is installed once, with a sink; to install it again is refused, and a board that insists
on installing its own runs into a fault.

Main definitions:

* `Reclock.Bench.LogStep`, `LogAnswer` — the steps and their answers;
* `Reclock.Bench.LogStep.run` — what a step does, given whether a logger is installed.
-/

import Reclock.Bench.Steps
import Reclock.System

set_option relaxedAutoImplicit false
set_option autoImplicit false

namespace Reclock

namespace Bench

/-- A step on the logger. -/
inductive LogStep
  /-- Emits a record. -/
  | record (r : LogRecord)
  /-- Flushes the sink. -/
  | flush
  /-- Installs a logger. -/
  | install
  /-- Lets the board install its logger. -/
  | installBoard
  /-- Does nothing. -/
  | nothing
  deriving DecidableEq

/-- What a step on the logger answers. -/
inductive LogAnswer
  /-- What reached the sink, and whether there is one. -/
  | reached (events : List Event) (sink : Bool)
  /-- A logger was installed. -/
  | installed
  /-- A logger is installed already. -/
  | refused
  deriving DecidableEq

/-- The text of the refusal to install a logger. -/
def installedMessage : String :=
  "attempted to set a logger after the logging system was already initialized"

/-- **What a step does**, given whether a logger is installed. -/
def LogStep.run (step : LogStep) (installed : Bool) : EStateM.Result Halt Bool LogAnswer :=
  match step with
  | .record r => .ok (.reached (if installed && r.passes then [.log r] else []) installed) installed
  | .flush => .ok (.reached (if installed then [.logFlush] else []) installed) installed
  | .install => if installed then .ok .refused true else .ok .installed true
  | .installBoard =>
      if installed then .error (.fault .loggerInstalled) true else .ok .installed true
  | .nothing => .ok (.reached [] installed) installed

end Bench

end Reclock
