/-
**Scripts on controllers.**

A station is a controller in a system whose registers are the modelled hardware, with a script for
some of the reads.  Several stations can share one retention snapshot, as when a subsystem is taken
over by a second controller.

Main definitions:

* `Reclock.Bench.Station` — a station, and `Reclock.Bench.Station.fresh`, a new one;
* `Reclock.Bench.StationStep`, `StationAnswer` — the steps and their answers;
* `Reclock.Bench.StationStep.run` — what a step does;
* `Reclock.Bench.Stations` — several stations, and `Reclock.Bench.Stations.run`, a step of one.
-/

import Reclock.Bench.Registers
import Reclock.Bench.Sessions
import Reclock.Smc.DramService
import Reclock.Transition.Retention

set_option relaxedAutoImplicit false
set_option autoImplicit false

namespace Reclock

namespace Bench

/-- **A controller in a system** on modelled hardware. -/
structure Station where
  /-- The controller. -/
  controller : Controller
  /-- The system. -/
  system : System (Scripted Hardware)
  /-- The sessions and tokens of the script. -/
  holdings : Holdings := {}

namespace Station

/-- A station in which nothing has happened. -/
def fresh (controller : Controller) (hardware : Hardware) (current : FrequencyIndex) : Station where
  controller
  system := .start { inner := hardware } controller.coreCount current

/-- The modelled hardware of a station. -/
def hardware (s : Station) : Hardware := s.system.hardware.inner

/-- The station with other modelled hardware. -/
def withHardware (s : Station) (h : Hardware) : Station :=
  { s with system := { s.system with hardware := { s.system.hardware with inner := h } } }

/-- The station with its record of events emptied. -/
def forget (s : Station) : Station := { s with system := { s.system with events := #[] } }

/-- The station with a retention snapshot from elsewhere. -/
def withSnapshot (snapshot : Snapshot) (s : Station) : Station :=
  { s with system := { s.system with retention := { s.system.retention with snapshot } } }

end Station

/-! ### Steps -/

/-- A step on a station. -/
inductive StationStep
  /-- Switches the frequency. -/
  | switch (core : Nat) (target : FrequencyIndex) (online : CoreMask)
  /-- Switches the speed. -/
  | fast (core : Nat) (speed : Speed) (online : CoreMask)
  /-- Powers the subsystem down. -/
  | enter
  /-- Powers the subsystem up. -/
  | exit
  /-- Makes a secure monitor call. -/
  | call (core : Nat) (regs : CallRegisters)
  /-- Asks about a frequency point. -/
  | info (index : FrequencyIndex)
  /-- Asks for the number of points, twice, and of cores. -/
  | count
  /-- Asks for the retention snapshot. -/
  | snapshot
  /-- Gives the answers to the next reads of a register. -/
  | script (r : Register) (values : List UInt32)
  /-- A step on the barrier. -/
  | session (step : SessionStep)
  /-- A step on the modelled hardware, which the station's record does not show. -/
  | model (step : ModelStep)
  deriving DecidableEq

/-- What a step on a station answers. -/
inductive StationAnswer
  /-- It did what it should. -/
  | done
  /-- It failed or was refused. -/
  | failed (e : TransitionError)
  /-- The registers written back to a caller. -/
  | returned (r : CallReturn)
  /-- The description of a point. -/
  | point (p : FrequencyPoint)
  /-- Numbers. -/
  | counts (numbers : List Nat)
  /-- A retention snapshot. -/
  | snapshot (s : Snapshot)
  /-- What a step on the barrier answered. -/
  | session (answer : SessionAnswer)
  /-- What a step on the modelled hardware answered. -/
  | model (answer : ModelAnswer)

namespace StationStep

/-- Runs an operation that has no result of its own. -/
def operate (p : Operation TransitionError Unit) (s : Station) :
    EStateM.Result Halt Station StationAnswer :=
  match s.system.run p with
  | .ok (.ok _) system => .ok .done { s with system }
  | .ok (.error e) system => .ok (.failed e) { s with system }
  | .error halt system => .error halt { s with system }

/-- Runs the answer to a secure monitor call. -/
def answerCall (p : Operation Empty CallReturn) (s : Station) :
    EStateM.Result Halt Station StationAnswer :=
  match s.system.run p with
  | .ok (.ok r) system => .ok (.returned r) { s with system }
  | .error halt system => .error halt { s with system }

/-- **What a step does**, its events recorded from an empty record on. -/
def run (step : StationStep) (before : Station) : EStateM.Result Halt Station StationAnswer :=
  let s := before.forget
  let c := s.controller
  match step with
  | switch core target online => operate (c.switchFrequency core target online) s
  | fast core speed online => operate (c.fastSwitch core speed online) s
  | enter => operate c.enterRetention s
  | exit => operate c.exitRetention s
  | call core regs => answerCall (dispatch [DramService.service c core] regs) s
  | info index =>
      match c.frequencyInfo index with
      | .ok p => .ok (.point p) s
      | .error e => .ok (.failed e) s
  | count => .ok (.counts [c.table.size, c.table.size, c.coreCount]) s
  | snapshot => .ok (.snapshot s.system.retention.snapshot) s
  | script r values =>
      .ok .done { s with
        system := { s.system with hardware := s.system.hardware.extend r values } }
  | session step =>
      match step.run (s.system, s.holdings) with
      | .ok answer (system, holdings) => .ok (.session answer) { s with system, holdings }
      | .error halt (system, holdings) => .error halt { s with system, holdings }
  | model step =>
      match step.run s.hardware with
      | .ok answer h => .ok (.model answer) (s.withHardware h)
      | .error halt h => .error halt (s.withHardware h)

end StationStep

/-! ### Several stations -/

/-- Stations that may share a retention snapshot. -/
structure Stations where
  /-- The stations. -/
  list : List Station
  /-- Whether they share a snapshot. -/
  sharedSnapshot : Bool

namespace Stations

/-- Puts a station back, and its snapshot into all others if it is shared. -/
def update (all : Stations) (n : Nat) (s : Station) : Stations :=
  let list := all.list.set n s
  { all with
    list := if all.sharedSnapshot then list.map (·.withSnapshot s.system.retention.snapshot)
      else list }

/-- **A step of station number `n`**: its answer and the station after it. -/
def run (step : Nat × StationStep) (all : Stations) :
    EStateM.Result Halt Stations (StationAnswer × Station) :=
  match all.list[step.1]? with
  | none => .error (.fault (.indexOutOfBounds all.list.length step.1)) all
  | some s =>
      match step.2.run s with
      | .ok answer s' => .ok (answer, s') (all.update step.1 s')
      | .error halt s' => .error halt (all.update step.1 s')

end Stations

end Bench

end Reclock
