/-
**Clock dividers.**

The DRAM core clock runs at a quarter of the data rate.  It comes from the PLL, whose oscillator
must reach a minimum frequency before it is divided down by a power of two, or from the bypass
divider, which divides a fixed source.

Main definitions:

* `Reclock.PllDividers.forDataRate` — the PLL's three dividers for a data rate;
* `Reclock.PllDividers.word` — the dividers packed into their register;
* `Reclock.bypassRatio` — the ratio of the bypass divider for a data rate.
-/

import Reclock.Config
import Reclock.Register.Layout

set_option relaxedAutoImplicit false
set_option autoImplicit false

namespace Reclock

/-- The dividers of the DRAM PLL. -/
structure PllDividers where
  /-- The feedback divider. -/
  main : UInt32
  /-- The divider of the reference. -/
  pre : UInt32
  /-- The divider of the output, as a power of two. -/
  post : UInt32
  deriving DecidableEq, Inhabited

namespace PllDividers

/-- The reference divider of every setting. -/
def preDivider : UInt32 := 3

/-- The frequency in MHz that the PLL's oscillator must reach. -/
def minOscillatorMhz : UInt32 := 1600

/-- The largest power of two in the output divider. -/
def maxPost : Nat := 6

/-- The first power of two, from `post` and at most `room` further on, that lifts the output to
the oscillator's minimum; the last one tried if none does. -/
def postFrom (outputMhz : UInt32) : (room : Nat) → (post : UInt32) → UInt32
  | 0, post => post
  | room + 1, post =>
      if outputMhz <<< post < minOscillatorMhz then postFrom outputMhz room (post + 1) else post

/-- **The dividers that make the PLL run at a quarter of a data rate**, in MHz, from a reference.
A reference of zero counts as one. -/
def forDataRate (dataRate referenceMhz : UInt32) : PllDividers :=
  let outputMhz := dataRate / 4
  let post := postFrom outputMhz maxPost 0
  ⟨(outputMhz * preDivider) <<< post / max referenceMhz 1, preDivider, post⟩

/-- The dividers as their register holds them. -/
def word (d : PllDividers) : UInt32 :=
  d.main <<< Clock.mainShift ||| d.pre <<< Clock.preShift ||| d.post <<< Clock.postShift

end PllDividers

/-- **The ratio by which the bypass divider makes a quarter of a data rate**, in MHz, from its
source: at least one, and a quarter of zero counts as one. -/
def bypassRatio (config : Config) (dataRate : UInt32) : UInt32 :=
  max (config.bypassSourceMhz / max (dataRate / 4) 1) 1

end Reclock
