/-
**Scripts of secure monitor calls.**

Main definitions:

* `Reclock.Bench.Provider` — the services that a script can line up;
* `Reclock.Bench.callStep` — a call dispatched to a list of services;
* `Reclock.Bench.BoardStep` — calls and interrupts on the sample board.
-/

import Reclock.Bench.Stations
import Reclock.Board

set_option relaxedAutoImplicit false
set_option autoImplicit false

namespace Reclock

namespace Bench

/-! ### Services in a row -/

/-- A service that a script can line up. -/
inductive Provider
  /-- The DRAM service of the script's controller. -/
  | dram
  /-- A service that answers the fast calls of an entity with the entity and the first two
  registers. -/
  | echo (entity : UInt8)
  /-- A service that owns the fast calls of an entity and provides none. -/
  | silent (entity : UInt8)
  deriving DecidableEq

/-- The service of a provider. -/
def Provider.service (c : Controller) : Provider → Service
  | .dram => DramService.service c 0
  | .echo entity =>
      .ofEntity entity fun regs => .done (.ofWords [entity.toUInt64, regs.value 0, regs.value 1])
  | .silent entity => .ofEntity entity Handler.none

/-- Which services own the function of a call, its SVE hint included. -/
def owners (services : List Service) (regs : CallRegisters) : List Bool :=
  services.map fun service => service.owns (.ofRegister (regs.value 0))

/-- A call dispatched to a list of services. -/
def callStep (services : List Service) (regs : CallRegisters) (before : Station) :
    EStateM.Result Halt Station (CallReturn × Station) :=
  let s := before.forget
  match s.system.run (dispatch services regs) with
  | .ok (.ok r) system => .ok (r, { s with system }) { s with system }
  | .error halt system => .error halt { s with system }

/-! ### The sample board -/

/-- A step on the sample board. -/
inductive BoardStep
  /-- A secure monitor call on the first core. -/
  | call (regs : CallRegisters)
  /-- The quiesce interrupt, sent to a core that then answers it. -/
  | interrupt (core : Nat)
  deriving DecidableEq

/-- What a step on the sample board answers. -/
inductive BoardAnswer
  /-- The registers written back, the current point, and what happened. -/
  | returned (r : CallReturn) (current : FrequencyIndex) (events : Array Event)
  /-- Whether the interrupt was pending before and after, how many interrupts were ended, and
  which cores have arrived. -/
  | answered (pendingBefore pendingAfter : Bool) (ended : Nat) (arrived : CoreMask)

/-- Sends the interrupt to a core and lets that core alone answer it. -/
def BoardStep.interruptCore (n : Nat) (s : System Hardware) :
    EStateM.Result Halt (System Hardware) BoardAnswer :=
  match CoreId.ofNat n with
  | .error f => .error (.fault f) s
  | .ok c =>
      match s.raise (.single c) with
      | .error f => .error (.fault f) s
      | .ok raised =>
          let before := raised.cores.getD n {}
          let (after, barrier) := before.settle n raised.barrier
          .ok (.answered before.pending after.pending (after.ended - before.ended) barrier.arrived)
            { raised with cores := raised.cores.set n after, barrier }

/-- **What a step on the sample board does.** -/
def BoardStep.run (step : BoardStep) (before : System Hardware) :
    EStateM.Result Halt (System Hardware) BoardAnswer :=
  let s := { before with events := #[] }
  match step with
  | .call regs =>
      match s.run (Board.handleCall regs) with
      | .ok (.ok r) s' => .ok (.returned r s'.barrier.current s'.events) s'
      | .error halt s' => .error halt s'
  | .interrupt core => interruptCore core s

end Bench

end Reclock
