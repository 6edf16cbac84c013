/-
**Operations: what a core does to carry out a transition.**

An operation is a procedure whose actions are register accesses, signals to other cores, log
records, and steps on the two memories that all cores share.  The same definition of an operation
is run against modelled hardware, and taken apart action by action where the actions of several
cores interleave.

Main definitions:

* `Reclock.Signal`, `Reclock.Action` — the actions, and `Reclock.Operation`, the procedures of
  them;
* `Reclock.Operation.registers` — a register sequence as an operation;
* `Reclock.Session` — the exclusive claim on the subsystem, with `begin`, `finish` and `cancel`;
* `Reclock.Operation.quiesce`, `release` — parking the other cores, and letting them go.
-/

import Reclock.Barrier
import Reclock.Log
import Reclock.Retention
import Reclock.TransitionError

set_option relaxedAutoImplicit false
set_option autoImplicit false

namespace Reclock

/-! ### Actions -/

/-- What a core signals to the others, or to its caches. -/
inductive Signal
  /-- Sends the quiesce interrupt to every core of a set. -/
  | interrupt (targets : CoreMask)
  /-- Sends an event to every core. -/
  | event
  /-- Cleans and invalidates the core's data caches. -/
  | flush
  deriving DecidableEq

/-- **One action of an operation.** -/
inductive Action
  /-- Accesses a register. -/
  | access (a : Access)
  /-- Signals. -/
  | signal (s : Signal)
  /-- Emits a log record. -/
  | log (r : LogRecord)
  /-- Makes a step on the memory of the barrier. -/
  | barrier (a : BarrierAccess)
  /-- Makes a step on the memory of retention. -/
  | retention (a : RetentionAccess)
  /-- Runs into a fault, so that nothing follows. -/
  | abort (f : Fault)
  deriving DecidableEq

/-- What an action is answered with. -/
abbrev Action.Reply : Action → Type
  | .access a => a.Reply
  | .signal _ => Unit
  | .log _ => Unit
  | .barrier a => a.Reply
  | .retention a => a.Reply
  | .abort _ => Empty

/-- **An operation of a core**, with result `α` or error `ε`. -/
abbrev Operation (ε α : Type) := Procedure Action.Reply ε α

namespace Operation

variable {ε α : Type}

/-- A register sequence as an operation. -/
def registers (p : Sequence ε α) : Operation ε α := p.embed Action.access fun _ reply => reply

/-- Signals. -/
def signal (s : Signal) : Operation ε Unit := .act (.signal s) .done

/-- Emits a log record. -/
def log (level : LogLevel) (message : String) : Operation ε Unit :=
  .act (.log ⟨level, message⟩) .done

/-- Makes a step on the memory of the barrier. -/
def barrier (a : BarrierAccess) : Operation ε a.Reply := .act (.barrier a) .done

/-- Makes a step on the memory of retention. -/
def retention (a : RetentionAccess) : Operation ε a.Reply := .act (.retention a) .done

/-- Runs into a fault. -/
def abort (f : Fault) : Operation ε α := .act (.abort f) fun reply => nomatch reply

/-- Checks a core number. -/
def checkCore (core : Nat) : Operation ε CoreId :=
  match CoreId.ofNat core with
  | .ok c => .done c
  | .error f => abort f

/-- The current frequency point. -/
def currentFrequency : Operation ε FrequencyIndex := barrier .readCurrent

end Operation

/-! ### Sessions -/

/-- **The exclusive claim on the subsystem** for one transition. -/
structure Session where
  /-- The frequency point that was current when the session began. -/
  current : FrequencyIndex
  deriving DecidableEq, Inhabited

namespace Session

open Operation

/-- Claims the subsystem; refused without any effect while another session is in flight. -/
def begin : Operation TransitionError Session := do
  let free ← barrier .claim
  if free then do
    let current ← barrier .readCurrent
    return ⟨current⟩
  else .fail .busy

/-- Ends a session and records the frequency point that is now current. -/
def finish {ε : Type} (current : FrequencyIndex) : Operation ε Unit := do
  barrier (.writeCurrent current)
  barrier .unclaim

/-- Ends a session without changing the current point. -/
def cancel {ε : Type} (s : Session) : Operation ε Unit := finish s.current

/-- Ends a session without changing the current point, and gives up. -/
def refuse {ε α : Type} (s : Session) (e : ε) : Operation ε α := do
  s.cancel
  .fail e

end Session

/-! ### Parking the other cores -/

namespace Operation

variable {ε : Type}

/-- Interrupts cores, unless there are none. -/
def interrupt (targets : CoreMask) : Operation ε Unit :=
  if targets.isEmpty then pure () else signal (.interrupt targets)

/-- **Parks every online core but the one that runs this**, and goes on once all have arrived.
Nothing bounds the wait: an online core must be able to take the interrupt. -/
def quiesce (core : Nat) (online : CoreMask) : Operation ε Unit := do
  let own ← checkCore core
  let others := online.erase own
  barrier .clearArrived
  barrier .hold
  interrupt others
  barrier (.awaitArrival others)

/-- **Lets the parked cores go.**  The epoch advances before the hold is dropped, so that a core
that is slow to look is not caught by the next session. -/
def release : Operation ε Unit := do
  barrier .advanceEpoch
  barrier .unhold
  signal .event

end Operation

end Reclock
