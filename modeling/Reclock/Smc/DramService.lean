/-
**The DRAM service.**

Callers ask for the frequency points and request switches through silicon partner calls.  Each call
answers with a status in the first register, unless it is a plain query.

Main definitions:

* `Reclock.DramService.frequencyCount`, … — the functions;
* `Reclock.DramService.handle` — **the answer to a call**, in terms of the controller's operations;
* `Reclock.DramService.service` — the service of a controller.
-/

import Reclock.Smc.Service
import Reclock.Transition.FastSwitch

set_option relaxedAutoImplicit false
set_option autoImplicit false

namespace Reclock

namespace DramService

open Operation

/-! ### Functions -/

/-- The entity of silicon partner calls. -/
def siliconPartner : UInt8 := 2

/-- Answers with the number of frequency points. -/
def frequencyCount : FunctionId := ⟨0x82000100⟩

/-- Takes a frequency point.  Answers with the status, and on success with the data rate in
mega-transfers per second and the source of the clock. -/
def frequencyInfo : FunctionId := ⟨0x82000101⟩

/-- Answers with the current frequency point. -/
def currentPoint : FunctionId := ⟨0x82000102⟩

/-- Takes a frequency point and the set of online cores, and switches. -/
def requestSwitch : FunctionId := ⟨0x82000103⟩

/-- Takes a speed and the set of online cores, and switches by the hardware sequencer. -/
def fastSwitch : FunctionId := ⟨0x82000104⟩

/-- Answers with the service's UUID. -/
def callUid : FunctionId := .make .fast32 siliconPartner 0xff01

/-- Answers with the major and the minor revision. -/
def revision : FunctionId := .make .fast32 siliconPartner 0xff03

/-- The service's UUID. -/
def uuid : List UInt8 :=
  [0x5e, 0x0d, 0x7c, 0x2a, 0x91, 0xb4, 0x4f, 0x6e, 0xa3, 0xc8, 0x0d, 0x27, 0x6b, 0x15, 0xe9, 0x40]

/-! ### Answers -/

/-- The frequency point that a 32-bit argument names; a number above 255 names none. -/
def pointArgument (n : UInt32) : Option FrequencyIndex :=
  if n ≤ 255 then some ⟨n.toUInt8⟩ else none

/-- The number of a point's clock source: zero for the PLL, one for the bypass divider. -/
def clockSource (bypass : Bool) : UInt64 := if bypass then 1 else 0

/-- The answer about a frequency point. -/
def describePoint (c : Controller) (n : UInt32) : CallReturn :=
  match pointArgument n with
  | none => .ofStatus .invalidIndex
  | some index =>
      match c.frequencyInfo index with
      | .ok point =>
          .ofWords [Status.success.word, point.dataRate.toUInt64, clockSource point.bypass]
      | .error e => .ofStatus e.status

/-- An operation answered by the status of its outcome. -/
def answerStatus (p : Operation TransitionError Unit) : Operation Empty CallReturn := do
  let outcome ← p.attempt
  return .ofStatus (.ofOutcome outcome)

/-- The answer to a call of an unknown function. -/
def unsupported (function : FunctionId) : Operation Empty CallReturn := do
  log .debug ("Unsupported SiP call " ++ function.inspect)
  return .notSupported

/-- **The answer to a call**, made on a core. -/
def handle (c : Controller) (core : Nat) : Handler := fun regs =>
  let function := (FunctionId.ofRegister (regs.value 0)).withoutSveHint
  let first := (regs.value 1).toUInt32
  let online : CoreMask := ⟨(regs.value 2).toUInt32⟩
  if function = frequencyCount then pure (.ofWord (UInt64.ofNat c.table.size))
  else if function = frequencyInfo then pure (describePoint c first)
  else if function = currentPoint then do
    let current ← currentFrequency
    return .ofWord current.val.toUInt64
  else if function = requestSwitch then
    match pointArgument first with
    | some target => answerStatus (c.switchFrequency core target online)
    | none => pure (.ofStatus .invalidIndex)
  else if function = fastSwitch then
    match Speed.ofNumber? first with
    | some speed => answerStatus (c.fastSwitch core speed online)
    | none => pure (.ofStatus .invalidTransition)
  else if function = callUid then pure (.ofUuid uuid)
  else if function = revision then pure (.ofWords [1, 0])
  else unsupported function

/-- **The service of a controller**, for calls made on a core. -/
def service (c : Controller) (core : Nat) : Service :=
  .ofEntity siliconPartner (handle c core)

end DramService

end Reclock
