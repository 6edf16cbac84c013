/-
**Reading and writing registers.**

Everything that the state machines do to the hardware is a sequence of single reads and writes.
A read-modify-write is a read and a write; a register program is one write per entry, in order;
a poll is one read per attempt and nothing else.

Main definitions:

* `Reclock.Access` — one read or write, and `Reclock.Sequence`, the procedures of accesses;
* `Reclock.Sequence.modify`, `setBits`, `clearBits`, `applyProgram` — the accesses built from them;
* `Reclock.Sequence.waitUntil` — a bounded poll, and `Reclock.PollTimeout`, its error;
* `Reclock.RegisterFile` — what answers accesses, and `Reclock.RegisterFile.run`, a sequence run
  against it.
-/

import Reclock.Procedure

set_option relaxedAutoImplicit false
set_option autoImplicit false

namespace Reclock

/-! ### Register programs -/

/-- One entry of a register program. -/
structure RegisterValue where
  /-- The register's offset in the window that the program is for. -/
  offset : UInt32
  /-- The value to write. -/
  value : UInt32
  deriving DecidableEq, Inhabited

/-- **A register program**: the writes to make in a window, in order. -/
abbrev RegisterProgram := List RegisterValue

/-! ### Accesses -/

/-- A single register access. -/
inductive Access
  /-- Reads a register. -/
  | read (r : Register)
  /-- Writes a register. -/
  | write (r : Register) (value : UInt32)
  deriving DecidableEq

/-- What an access is answered with. -/
abbrev Access.Reply : Access → Type
  | .read _ => UInt32
  | .write _ _ => Unit

/-- **A sequence of register accesses**, each of which may depend on the values read before. -/
abbrev Sequence (ε α : Type) := Procedure Access.Reply ε α

/-- A poll that ran out of attempts. -/
structure PollTimeout where
  /-- The register polled. -/
  register : Register
  /-- The bound on its attempts. -/
  iterations : UInt32
  deriving DecidableEq

namespace PollTimeout

/-- The text of a timeout. -/
def message (t : PollTimeout) : String :=
  "timed out polling " ++ t.register.text ++ " after " ++ toString t.iterations.toNat ++
    " iterations"

/-- The field by field text of a timeout. -/
def inspect (t : PollTimeout) : String :=
  "PollTimeout \x7b register: " ++ t.register.inspect ++ ", iterations: " ++
    toString t.iterations.toNat ++ " \x7d"

end PollTimeout

namespace Sequence

variable {ε : Type}

/-- Reads a register. -/
def read (r : Register) : Sequence ε UInt32 := .act (.read r) .done

/-- Writes a register. -/
def write (r : Register) (value : UInt32) : Sequence ε Unit := .act (.write r value) .done

/-- Reads a register and writes back a value made from what was read. -/
def modify (r : Register) (f : UInt32 → UInt32) : Sequence ε Unit := do
  let value ← read r
  write r (f value)

/-- Sets bits of a register. -/
def setBits (r : Register) (bits : UInt32) : Sequence ε Unit := modify r (· ||| bits)

/-- Clears bits of a register. -/
def clearBits (r : Register) (bits : UInt32) : Sequence ε Unit := modify r (· &&& ~~~bits)

/-- Writes every entry of a register program, in order. -/
def applyProgram (w : Window) (program : RegisterProgram) : Sequence ε Unit :=
  .forEach program fun entry => write ⟨w, entry.offset⟩ entry.value

/-- **Reads a register until its value satisfies a condition**, at most `limit` times; the result
is the first value that does. -/
def waitUntil (r : Register) (limit : UInt32) (condition : UInt32 → Bool) :
    Sequence PollTimeout UInt32 :=
  .pollUntil ⟨r, limit⟩ (do
    let value ← read r
    return if condition value then some value else none) limit.toNat

end Sequence

/-! ### Register files -/

/-- **What answers register accesses**: a state that a read may change as well as a write, and
faults for the accesses that it does not allow. -/
class RegisterFile (H : Type) where
  /-- The value of a register, and the state after the read. -/
  read : Register → H → Except Fault (UInt32 × H)
  /-- The state after a write. -/
  write : Register → UInt32 → H → Except Fault H

namespace RegisterFile

variable {H : Type} [RegisterFile H]

/-- Answers one access.  A fault leaves the state as it was before the access. -/
def answer : (a : Access) → H → EStateM.Result Halt H a.Reply
  | .read r, h =>
      match RegisterFile.read r h with
      | .ok (value, h') => .ok value h'
      | .error f => .error (.fault f) h
  | .write r value, h =>
      match RegisterFile.write r value h with
      | .ok h' => .ok () h'
      | .error f => .error (.fault f) h

/-- Runs a sequence against a register file. -/
def run {ε α : Type} (p : Sequence ε α) (h : H) : EStateM.Result Halt H (Except ε α) :=
  Procedure.run answer p h

end RegisterFile

end Reclock
