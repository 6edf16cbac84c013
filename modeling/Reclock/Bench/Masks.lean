/-
**Scripts on sets of cores.**

Main definitions:

* `Reclock.Bench.MaskStep` — a step that replaces the set or asks about it;
* `Reclock.Bench.MaskStep.run` — what it does.
-/

import Reclock.CoreMask

set_option relaxedAutoImplicit false
set_option autoImplicit false

namespace Reclock

namespace Bench

/-- A step on a set of cores. -/
inductive MaskStep
  /-- Takes the set of a word. -/
  | fromBits (bits : UInt32)
  /-- Takes the cores below a number. -/
  | all (count : Nat)
  /-- Takes the set of one core. -/
  | single (core : Nat)
  /-- Takes the set without cores. -/
  | empty
  /-- Adds a core. -/
  | insert (core : Nat)
  /-- Removes a core. -/
  | erase (core : Nat)
  /-- Asks whether a core is in the set. -/
  | contains (core : Nat)
  /-- Asks whether all cores of a word are in the set. -/
  | containsAll (bits : UInt32)
  deriving DecidableEq

/-- What a step answers, the set aside: the reply to a question. -/
abbrev MaskAnswer := Option Bool

/-- Replaces a set by one made from a core number, which must be below 32. -/
private def replace (core : Nat) (f : CoreId → CoreMask) (m : CoreMask) :
    EStateM.Result Halt CoreMask (CoreMask × MaskAnswer) :=
  match CoreId.ofNat core with
  | .ok c => .ok (f c, none) (f c)
  | .error fault => .error (.fault fault) m

/-- **What a step does**: the set after it, and the reply to a question. -/
def MaskStep.run : MaskStep → CoreMask → EStateM.Result Halt CoreMask (CoreMask × MaskAnswer)
  | .fromBits bits, _ => .ok (⟨bits⟩, none) ⟨bits⟩
  | .all count, _ => .ok (.all count, none) (.all count)
  | .single core, m => replace core .single m
  | .empty, _ => .ok (.empty, none) .empty
  | .insert core, m => replace core m.insert m
  | .erase core, m => replace core m.erase m
  | .contains core, m => .ok (m, some (m.contains core)) m
  | .containsAll bits, m => .ok (m, some (m.containsAll ⟨bits⟩)) m

end Bench

end Reclock
