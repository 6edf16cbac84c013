/-
**A whole system, run in sequence.**

A system is a register file, the cores, and the two memories that the cores share.  One core runs
an operation; whenever it sends the interrupt or an event, the other cores make their steps until
they are at rest, so that nothing is left open between two actions of the operation.  What an
operation does to registers, cores, caches and the log is recorded in order.

Main definitions:

* `Reclock.Event`, `Reclock.Event.text` — what is recorded, and how it is shown;
* `Reclock.Trace.render` — a record as lines, equal neighbours merged;
* `Reclock.System` — the systems over a register file;
* `Reclock.System.answer` — **what an action does**, and `Reclock.System.run`, an operation run.
-/

import Reclock.Operation
import Reclock.Responder

set_option relaxedAutoImplicit false
set_option autoImplicit false

namespace Reclock

/-! ### What is recorded -/

/-- Something that an operation did, as seen from outside. -/
inductive Event
  /-- A register was read, with this value. -/
  | read (r : Register) (value : UInt32)
  /-- A register was written. -/
  | write (r : Register) (value : UInt32)
  /-- Cores were interrupted, or an event sent, or caches flushed. -/
  | signal (s : Signal)
  /-- A log record reached the sink. -/
  | log (r : LogRecord)
  /-- The sink was flushed. -/
  | logFlush
  deriving DecidableEq

namespace Event

/-- The text of something that happened. -/
def text : Event → String
  | read r value => "R " ++ r.text ++ " " ++ hex value.toNat
  | write r value => "W " ++ r.text ++ " " ++ hex value.toNat
  | signal (.interrupt targets) => "irq " ++ hex targets.bits.toNat
  | signal .event => "sev"
  | signal .flush => "flush"
  | log r => "L " ++ r.line
  | logFlush => "log flush"

/-- What happened when an access was answered. -/
def ofAccess : (a : Access) → a.Reply → Event
  | .read r, value => .read r value
  | .write r value, _ => .write r value

end Event

namespace Trace

/-- Adds one more of an event to a record of events with their counts, newest first. -/
def push : List (Event × Nat) → Event → List (Event × Nat)
  | (last, count) :: rest, e =>
      if e = last then (last, count + 1) :: rest else (e, 1) :: (last, count) :: rest
  | [], e => [(e, 1)]

/-- An event that happened some number of times in a row, as a line. -/
def line : Event × Nat → String
  | (e, count) => if count ≤ 1 then e.text else e.text ++ " x" ++ toString count

/-- **A record as lines**, oldest first, equal neighbours merged into one. -/
def render (events : Array Event) : List String := ((events.foldl push []).map line).reverse

/-- The log records of a record of events. -/
def logged (events : Array Event) : Array Event :=
  events.filter fun
    | .log _ => true
    | _ => false

end Trace

/-! ### Systems -/

/-- **A system** over a register file. -/
structure System (H : Type) where
  /-- The registers. -/
  hardware : H
  /-- The cores, in the order of their numbers. -/
  cores : List Core
  /-- The memory of the barrier. -/
  barrier : Barrier
  /-- The memory of retention. -/
  retention : Retention := {}
  /-- What has happened. -/
  events : Array Event := #[]
  /-- How many interrupts have been sent. -/
  raised : Nat := 0
  /-- How often caches have been flushed. -/
  flushes : Nat := 0

namespace System

variable {H : Type}

/-- A system in which nothing has happened, with its cores idle and its subsystem running at a
frequency point. -/
def start (hardware : H) (coreCount : Nat) (current : FrequencyIndex) : System H :=
  { hardware, cores := List.replicate coreCount {}, barrier := .start current }

/-- Records that something happened. -/
def record (s : System H) (e : Event) : System H := { s with events := s.events.push e }

/-- Lets the cores make their steps until they are at rest. -/
def settle (s : System H) : System H :=
  let (cores, barrier) := Core.settleAll 0 s.cores s.barrier
  { s with cores, barrier }

/-- The first core of a set that the system does not have. -/
def missing? (s : System H) (targets : CoreMask) : Option Nat :=
  targets.cores.find? fun core => s.cores.length ≤ core

/-- Makes the interrupt pending on the cores of a set, all of which must exist. -/
def raise (s : System H) (targets : CoreMask) : Except Fault (System H) :=
  match s.missing? targets with
  | some core => .error (.indexOutOfBounds s.cores.length core)
  | none =>
      .ok { s with
        cores := s.cores.mapIdx fun n core =>
          if targets.contains n then { core with pending := true } else core
        raised := s.raised + targets.size }

/-- Latches an event on every core. -/
def sendEvent (s : System H) : System H :=
  { s with cores := s.cores.map fun core => { core with event := true } }

/-- What a signal does, the cores' answers included. -/
def signal (s : System H) : Signal → Except Fault (System H)
  | .interrupt targets => (s.raise targets).map settle
  | .event => .ok s.sendEvent.settle
  | .flush => .ok { s with flushes := s.flushes + 1 }

/-- **What an action does.** -/
def answer [RegisterFile H] : (a : Action) → System H → EStateM.Result Halt (System H) a.Reply
  | .access a, s =>
      match RegisterFile.answer a s.hardware with
      | .ok reply hardware => .ok reply ({ s with hardware }.record (.ofAccess a reply))
      | .error halt hardware => .error halt { s with hardware }
  | .signal signal, s =>
      match s.signal signal with
      | .ok s' => .ok () (s'.record (.signal signal))
      | .error f => .error (.fault f) s
  -- A record below the level of this build leaves no trace.
  | .log r, s => .ok () (if r.passes then s.record (.log r) else s)
  | .barrier a, s =>
      match a.apply s.barrier with
      | some (reply, barrier) => .ok reply { s with barrier }
      | none => .error .stalled s
  | .retention a, s =>
      let (reply, retention) := a.apply s.retention
      .ok reply { s with retention }
  | .abort f, s => .error (.fault f) s

/-- **Runs an operation** in a system. -/
def run [RegisterFile H] {ε α : Type} (p : Operation ε α) (s : System H) :
    EStateM.Result Halt (System H) (Except ε α) :=
  Procedure.run answer p s

end System

end Reclock
