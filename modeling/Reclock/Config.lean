/-
**What a board says about its DRAM subsystem.**

Main definitions:

* `Reclock.Config` — the parameters of the sequences;
* `Reclock.Config.standard` — one rank and one port, fed from a 24 MHz reference.
-/

set_option relaxedAutoImplicit false
set_option autoImplicit false

namespace Reclock

/-- Parameters of the DRAM subsystem. -/
structure Config where
  /-- The largest number of attempts of every register poll. -/
  pollLimit : UInt32
  /-- The frequency in MHz of the clock that feeds the bypass divider. -/
  bypassSourceMhz : UInt32
  /-- The frequency in MHz of the PLL's reference clock. -/
  referenceMhz : UInt32
  /-- The ranks that mode register writes address, one bit per rank. -/
  modeRanks : UInt32
  /-- The number of AXI ports of the controller. -/
  axiPorts : UInt8
  deriving DecidableEq, Inhabited

namespace Config

/-- The usual bound on register polls. -/
def standardPollLimit : UInt32 := 0x100000

/-- A controller with one rank and one AXI port, fed from a 24 MHz reference. -/
def standard : Config := ⟨standardPollLimit, 800, 24, 0x1, 1⟩

/-- The AXI ports of the controller. -/
def ports (c : Config) : List UInt8 := (List.range c.axiPorts.toNat).map UInt8.ofNat

/-- They are numbered from zero. -/
theorem mem_ports {c : Config} {port : UInt8} :
    port ∈ c.ports ↔ port.toNat < c.axiPorts.toNat := by
  rw [ports, List.mem_map]
  constructor
  · rintro ⟨n, hn, rfl⟩
    rw [List.mem_range] at hn
    rwa [UInt8.toNat_ofNat_of_lt' (Nat.lt_trans hn c.axiPorts.toNat_lt)]
  · exact fun hport => ⟨port.toNat, List.mem_range.2 hport, UInt8.ofNat_toNat⟩

end Config

end Reclock
