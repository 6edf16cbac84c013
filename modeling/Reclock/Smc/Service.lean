/-
**Services and dispatch.**

A service answers the calls of some functions.  A call goes to the first service that owns the
function, the SVE hint left out of account, and to no other; a call with an invalid identifier, or
one that nobody owns, is answered with the code for an unknown function.

Main definitions:

* `Reclock.Service` — a service, and `Reclock.Service.ofEntity`, one for the fast calls of an
  entity;
* `Reclock.dispatch` — **a call handed to its service**.
-/

import Reclock.Operation
import Reclock.Smc.CallReturn
import Reclock.Smc.FunctionId

set_option relaxedAutoImplicit false
set_option autoImplicit false

namespace Reclock

/-- What answers calls: an operation that always has a result. -/
abbrev Handler := CallRegisters → Operation Empty CallReturn

/-- A handler of a service that provides no functions. -/
def Handler.none : Handler := fun _ => .done .notSupported

/-- **A service**: which functions are its own, and how it answers a call. -/
structure Service where
  /-- Whether the service answers calls of a function. -/
  owns : FunctionId → Bool
  /-- Answers a call. -/
  handle : Handler := Handler.none

namespace Service

/-- The service of all fast calls of an owning entity. -/
def ofEntity (entity : UInt8) (handle : Handler) : Service where
  owns function := function.owner == entity && function.isFast
  handle

end Service

/-- **Hands a call to the first service that owns its function.** -/
def dispatch (services : List Service) : Handler := fun regs =>
  let function := FunctionId.ofRegister (regs.value 0)
  if function.isValid then
    match services.find? fun service => service.owns function.withoutSveHint with
    | some service => service.handle regs
    | none => .done .notSupported
  else .done .notSupported

end Reclock
