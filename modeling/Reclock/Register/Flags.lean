/-
**Words as sets of named flags.**

Some registers are shown as the names of the flags that are set.  The names come in the order of
their declaration, the bits without a name follow as one number, and the parts are joined by
` | `; a word without bits is shown as the number zero.

Main definitions:

* `Reclock.FlagSet` — a register's name and its named flags;
* `Reclock.FlagSet.inspect` — the text of a word, `Pwrctl(SELFREF_EN | SELFREF_SW | 0x40)`;
* `Reclock.FlagSet.pwrctl`, `dfimisc`, `dbg1`, `dbgcam` — the registers shown this way.
-/

import Reclock.Register.Layout

set_option relaxedAutoImplicit false
set_option autoImplicit false

namespace Reclock

/-- The named flags of a register, in the order of their declaration. -/
structure FlagSet where
  /-- The name of the register. -/
  name : String
  /-- The flags: a name and the bits that it stands for. -/
  flags : List (String × UInt32)

namespace FlagSet

/-- The bits that have a name. -/
def named (s : FlagSet) : UInt32 := s.flags.foldl (fun bits flag => bits ||| flag.2) 0

/-- The parts of a word's text: the names of the flags set in it, then the rest. -/
def parts (s : FlagSet) (w : UInt32) : List String :=
  let names := (s.flags.filter fun flag => w &&& flag.2 == flag.2).map (·.1)
  let rest := w &&& ~~~s.named
  if rest == 0 then names else names ++ [hex rest.toNat]

/-- **The text of a word**, by the names of its flags. -/
def inspect (s : FlagSet) (w : UInt32) : String :=
  let body := if w == 0 then hex 0 else " | ".intercalate (s.parts w)
  s.name ++ "(" ++ body ++ ")"

/-- Low power control. -/
def pwrctl : FlagSet :=
  ⟨"Pwrctl", [("SELFREF_EN", Ddrc.selfRefreshAuto), ("POWERDOWN_EN", Ddrc.powerDownAuto),
    ("SELFREF_SW", Ddrc.selfRefreshForced)]⟩

/-- DFI miscellaneous control. -/
def dfimisc : FlagSet :=
  ⟨"Dfimisc", [("DFI_INIT_COMPLETE_EN", Ddrc.dfiCompleteEnable),
    ("DFI_INIT_START", Ddrc.dfiInitStart)]⟩

/-- Debug register 1. -/
def dbg1 : FlagSet := ⟨"Dbg1", [("DIS_DQ", Ddrc.noDequeue), ("DIS_HIF", Ddrc.noHostCommands)]⟩

/-- Queue and pipeline status. -/
def dbgcam : FlagSet :=
  ⟨"Dbgcam", [("RD_Q_EMPTY", Ddrc.readQueueEmpty), ("WR_Q_EMPTY", Ddrc.writeQueueEmpty),
    ("RD_DATA_PIPELINE_EMPTY", Ddrc.readPipelineEmpty),
    ("WR_DATA_PIPELINE_EMPTY", Ddrc.writePipelineEmpty)]⟩

end FlagSet

end Reclock
