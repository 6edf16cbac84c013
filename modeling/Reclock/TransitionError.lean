/-
**Why a transition was refused or failed.**

Main definitions:

* `Reclock.TransitionError` — the causes;
* `Reclock.TransitionError.message`, `inspect` — their texts;
* `Reclock.Status` — the codes that callers of the services see, and
  `Reclock.TransitionError.status`, the code of each cause.
-/

import Reclock.CoreMask
import Reclock.Timing

set_option relaxedAutoImplicit false
set_option autoImplicit false

namespace Reclock

/-! ### Causes -/

/-- **Why a transition did not happen.** -/
inductive TransitionError
  /-- The frequency point does not exist, or lacks a register program that it needs. -/
  | invalidIndex (index : FrequencyIndex)
  /-- Another transition is in flight, or the subsystem is in retention. -/
  | busy
  /-- The hardware sequencer cannot switch between these points. -/
  | invalidTransition (source target : FrequencyIndex)
  /-- A poll timed out on the way; the subsystem must be taken for wedged. -/
  | pollTimeout (timeout : PollTimeout)
  /-- There is no retention to leave. -/
  | notRetained
  /-- The set of online cores names a core that does not exist. -/
  | invalidCoreMask (online : CoreMask)
  deriving DecidableEq

namespace TransitionError

/-- The name of an error's kind. -/
def name : TransitionError → String
  | invalidIndex _ => "InvalidIndex"
  | busy => "Busy"
  | invalidTransition _ _ => "InvalidTransition"
  | pollTimeout _ => "PollTimeout"
  | notRetained => "NotRetained"
  | invalidCoreMask _ => "InvalidCoreMask"

/-- **The text of an error.** -/
def message : TransitionError → String
  | invalidIndex index => "invalid frequency point index " ++ toString index.toNat
  | busy => "DRAM transition already in progress"
  | invalidTransition source target =>
      "no hardware-assisted switch from " ++ source.text ++ " to " ++ target.text
  | pollTimeout timeout => timeout.message
  | notRetained => "DRAM subsystem is not in retention"
  | invalidCoreMask online => "invalid online core mask " ++ hex online.bits.toNat

/-- The field by field text of an error. -/
def inspect : TransitionError → String
  | invalidIndex index => "InvalidIndex(" ++ toString index.toNat ++ ")"
  | busy => "Busy"
  | invalidTransition source target =>
      "InvalidTransition \x7b from: " ++ source.inspect ++ ", to: " ++ target.inspect ++ " \x7d"
  | pollTimeout timeout => "PollTimeout(" ++ timeout.inspect ++ ")"
  | notRetained => "NotRetained"
  | invalidCoreMask online => "InvalidCoreMask(" ++ toString online.bits.toNat ++ ")"

end TransitionError

/-! ### Status codes -/

/-- What callers of the services see of an outcome. -/
inductive Status
  /-- The operation completed. -/
  | success
  /-- There is no such function. -/
  | notSupported
  /-- See `TransitionError.invalidIndex`. -/
  | invalidIndex
  /-- See `TransitionError.busy`. -/
  | busy
  /-- See `TransitionError.invalidTransition`. -/
  | invalidTransition
  /-- See `TransitionError.pollTimeout`. -/
  | pollTimeout
  /-- See `TransitionError.notRetained`. -/
  | notRetained
  /-- See `TransitionError.invalidCoreMask`. -/
  | invalidCoreMask
  deriving DecidableEq

namespace Status

/-- The code of a status: zero for success, negative otherwise. -/
def code : Status → Int32
  | success => 0
  | notSupported => -1
  | invalidIndex => -2
  | busy => -3
  | invalidTransition => -4
  | pollTimeout => -5
  | notRetained => -6
  | invalidCoreMask => -7

/-- The code in a 64-bit register, its sign extended. -/
def word (s : Status) : UInt64 := s.code.toInt64.toUInt64

end Status

/-- The status of an error. -/
def TransitionError.status : TransitionError → Status
  | invalidIndex _ => .invalidIndex
  | busy => .busy
  | invalidTransition _ _ => .invalidTransition
  | pollTimeout _ => .pollTimeout
  | notRetained => .notRetained
  | invalidCoreMask _ => .invalidCoreMask

/-- The status of an operation's outcome. -/
def Status.ofOutcome : Except TransitionError Unit → Status
  | .ok () => .success
  | .error e => e.status

end Reclock
