/-
**Scripts on register files.**

Main definitions:

* `Reclock.Bench.RegisterStep` — accesses of any register file, and what they do as sequences;
* `Reclock.Bench.HardwareStep` — looking into the modelled hardware and changing it from outside;
* `Reclock.Bench.ModelStep` — either;
* `Reclock.Bench.poll` — a poll of a condition whose answers are given beforehand.
-/

import Reclock.Bench.Steps
import Reclock.Hardware

set_option relaxedAutoImplicit false
set_option autoImplicit false

namespace Reclock

namespace Bench

/-! ### Accesses -/

/-- A step on a register file. -/
inductive RegisterStep
  /-- Reads a register. -/
  | read (r : Register)
  /-- Writes a register. -/
  | write (r : Register) (value : UInt32)
  /-- Sets bits. -/
  | set (r : Register) (bits : UInt32)
  /-- Clears bits. -/
  | clear (r : Register) (bits : UInt32)
  /-- Inverts bits. -/
  | invert (r : Register) (bits : UInt32)
  /-- Applies a register program. -/
  | apply (w : Window) (program : RegisterProgram)
  /-- Polls for a value of some bits. -/
  | wait (r : Register) (limit mask want : UInt32)
  deriving DecidableEq

/-- **The accesses of a step**, and the value that it answers with, if any. -/
def RegisterStep.sequence : RegisterStep → Sequence PollTimeout (Option UInt32)
  | .read r => do
      let value ← Sequence.read r
      return some value
  | .write r value => do
      Sequence.write r value
      return none
  | .set r bits => do
      Sequence.setBits r bits
      return none
  | .clear r bits => do
      Sequence.clearBits r bits
      return none
  | .invert r bits => do
      Sequence.modify r (· ^^^ bits)
      return none
  | .apply w program => do
      Sequence.applyProgram w program
      return none
  | .wait r limit mask want => do
      let value ← Sequence.waitUntil r limit (· &&& mask == want)
      return some value

/-- What a step on a register file answers. -/
abbrev RegisterAnswer := Except PollTimeout (Option UInt32)

/-- Runs a step on a register file. -/
def RegisterStep.run {H : Type} [RegisterFile H] (step : RegisterStep) (h : H) :
    EStateM.Result Halt H RegisterAnswer :=
  RegisterFile.run step.sequence h

/-! ### The modelled hardware from outside -/

/-- A step that looks into the modelled hardware or changes it from outside. -/
inductive HardwareStep
  /-- Asks what a register holds. -/
  | value (r : Register)
  /-- Pins the reads of a register. -/
  | pin (r : Register) (value : UInt32)
  /-- Undoes a pin. -/
  | unpin (r : Register)
  /-- Gives registers the values of a program. -/
  | preload (w : Window) (program : RegisterProgram)
  /-- Asks for the writes so far. -/
  | writes
  /-- Forgets the writes so far. -/
  | clearWrites
  /-- Asks for the mode register writes so far. -/
  | modeWrites
  /-- Asks where among the writes a register was given a value of some bits. -/
  | positions (r : Register) (mask want : UInt32)
  /-- Asks whether the power domain is on. -/
  | powered
  deriving DecidableEq

/-- What such a step finds. -/
inductive Finding
  /-- There was nothing to find. -/
  | nothing
  /-- The value of a register. -/
  | value (v : UInt32)
  /-- Writes, as registers and values. -/
  | writes (entries : List (Register × UInt32))
  /-- Mode register writes, as numbers and values. -/
  | modeWrites (entries : List (UInt32 × UInt32))
  /-- Positions among the writes. -/
  | positions (entries : List Nat)
  /-- Yes or no. -/
  | flag (b : Bool)
  deriving DecidableEq

/-- **What such a step finds and changes.** -/
def HardwareStep.run : HardwareStep → Hardware → Finding × Hardware
  | .value r, h => (.value (h.value r), h)
  | .pin r v, h => (.nothing, h.pin r v)
  | .unpin r, h => (.nothing, h.unpin r)
  | .preload w program, h => (.nothing, h.preload w program)
  | .writes, h => (.writes h.writes.toList, h)
  | .clearWrites, h => (.nothing, h.clearWrites)
  | .modeWrites, h => (.modeWrites h.modeWrites.toList, h)
  | .positions r mask want, h =>
      (.positions (h.writePositions fun s v => s == r && v &&& mask == want), h)
  | .powered, h => (.flag h.powered, h)

/-- A step on the modelled hardware, through its registers or from outside. -/
inductive ModelStep
  /-- Through its registers. -/
  | registers (step : RegisterStep)
  /-- From outside. -/
  | outside (step : HardwareStep)
  deriving DecidableEq

/-- What a step on the modelled hardware answers. -/
inductive ModelAnswer
  /-- What its registers answered. -/
  | registers (answer : RegisterAnswer)
  /-- What was found. -/
  | outside (finding : Finding)

/-- Runs a step on the modelled hardware. -/
def ModelStep.run : ModelStep → Hardware → EStateM.Result Halt Hardware ModelAnswer
  | .registers step, h =>
      match step.run h with
      | .ok answer h' => .ok (.registers answer) h'
      | .error halt h' => .error halt h'
  | .outside step, h =>
      let (finding, h') := step.run h
      .ok (.outside finding) h'

/-! ### Polls with given answers -/

/-- The one thing a poll asks: whether its condition holds now. -/
inductive Question
  /-- Does it hold? -/
  | holds
  deriving DecidableEq

/-- A question is answered by yes or no. -/
abbrev Question.Reply : Question → Type := fun _ => Bool

/-- The answers to come, after which all are no, and how many have been given. -/
structure Answers where
  /-- The answers to come. -/
  upcoming : List Bool
  /-- How many have been given. -/
  given : Nat := 0
  deriving DecidableEq

/-- Gives the next answer. -/
def Answers.next : (q : Question) → Answers → EStateM.Result Halt Answers q.Reply
  | .holds, a =>
      match a.upcoming with
      | [] => .ok false { a with given := a.given + 1 }
      | b :: rest => .ok b ⟨rest, a.given + 1⟩

/-- The poll of a condition, at most `limit` times. -/
def pollCondition (r : Register) (limit : UInt32) : Procedure Question.Reply PollTimeout Unit :=
  .pollUntil ⟨r, limit⟩ (.act .holds fun b => .done (if b then some () else none)) limit.toNat

/-- **A poll whose answers are given beforehand**: its outcome, and how often it asked. -/
def poll (r : Register) (limit : UInt32) (results : List Bool) :
    Except PollTimeout Unit × Nat :=
  match (pollCondition r limit).run Answers.next ⟨results, 0⟩ with
  | .ok outcome a => (outcome, a.given)
  | .error _ a => (.ok (), a.given)

end Bench

end Reclock
