/-
**The registers that the sequences name, and the bits in them.**

One namespace per window holds its registers, each as a `Reclock.Register`, and beside a register
the bits and fields of it that are used.  A name that ends in `Mask` is a field in place, one that
ends in `Shift` the position of a field.
-/

import Reclock.Register

set_option relaxedAutoImplicit false
set_option autoImplicit false

namespace Reclock

/-! ### The memory controller -/

namespace Ddrc

/-- Operating mode status. -/
def stat : Register := ⟨.ddrc, 0x004⟩
/-- Mode register control 0, which starts a mode register write. -/
def mrctrl0 : Register := ⟨.ddrc, 0x010⟩
/-- Mode register control 1, the data to write. -/
def mrctrl1 : Register := ⟨.ddrc, 0x014⟩
/-- Mode register write status. -/
def mrstat : Register := ⟨.ddrc, 0x018⟩
/-- Master register 2, the target frequency selector. -/
def mstr2 : Register := ⟨.ddrc, 0x028⟩
/-- Low power control. -/
def pwrctl : Register := ⟨.ddrc, 0x030⟩
/-- Refresh control 3. -/
def rfshctl3 : Register := ⟨.ddrc, 0x060⟩
/-- ZQ calibration control 0. -/
def zqctl0 : Register := ⟨.ddrc, 0x180⟩
/-- DFI miscellaneous control. -/
def dfimisc : Register := ⟨.ddrc, 0x1b0⟩
/-- DFI status. -/
def dfistat : Register := ⟨.ddrc, 0x1bc⟩
/-- Debug register 1, which halts the host interface. -/
def dbg1 : Register := ⟨.ddrc, 0x304⟩
/-- Command queue and data pipeline status. -/
def dbgcam : Register := ⟨.ddrc, 0x308⟩
/-- Commands triggered by software. -/
def dbgcmd : Register := ⟨.ddrc, 0x30c⟩
/-- Status of the commands triggered by software. -/
def dbgstat : Register := ⟨.ddrc, 0x310⟩
/-- Quasi-dynamic programming control. -/
def swctl : Register := ⟨.ddrc, 0x320⟩
/-- Quasi-dynamic programming status. -/
def swstat : Register := ⟨.ddrc, 0x324⟩
/-- Outstanding transactions of the AXI ports, zero when all are idle. -/
def pstat : Register := ⟨.ddrc, 0x3fc⟩
/-- Control of an AXI port. -/
def pctrl (port : UInt8) : Register := ⟨.ddrc, 0x490 + port.toUInt32 * 0xb0⟩

/-- `stat`: the operating mode. -/
def operatingModeMask : UInt32 := 0x7
/-- `stat`: the operating mode of normal operation. -/
def modeNormal : UInt32 := 0x1
/-- `stat`: the operating mode of self-refresh. -/
def modeSelfRefresh : UInt32 := 0x3
/-- `stat`: who entered self-refresh. -/
def selfRefreshTypeMask : UInt32 := 0x30
/-- `stat`: self-refresh entered by software. -/
def selfRefreshSoftware : UInt32 := 0x20
/-- `mrctrl0`: starts a mode register write. -/
def modeWrite : UInt32 := 0x80000000
/-- `mrctrl0`: the mode register number. -/
def modeAddressShift : UInt32 := 12
/-- `mrctrl0`: the width of the mode register number. -/
def modeAddressMask : UInt32 := 0xff
/-- `mrctrl0`: the ranks addressed. -/
def modeRankShift : UInt32 := 4
/-- `mrstat`: a mode register write is under way. -/
def modeBusy : UInt32 := 0x1
/-- `mstr2`: the selected frequency point. -/
def targetFrequencyMask : UInt32 := 0x3
/-- `pwrctl`: automatic self-refresh on idle. -/
def selfRefreshAuto : UInt32 := 0x1
/-- `pwrctl`: automatic power-down on idle. -/
def powerDownAuto : UInt32 := 0x2
/-- `pwrctl`: self-refresh forced by software. -/
def selfRefreshForced : UInt32 := 0x20
/-- `rfshctl3`: no automatic refresh. -/
def noAutoRefresh : UInt32 := 0x1
/-- `zqctl0`: no automatic ZQ calibration. -/
def noAutoZq : UInt32 := 0x80000000
/-- `dfimisc`: lets the controller act on the completion of initialisation. -/
def dfiCompleteEnable : UInt32 := 0x1
/-- `dfimisc`: asks the PHY to initialise. -/
def dfiInitStart : UInt32 := 0x20
/-- `dfimisc`: the position of the selected frequency point. -/
def dfiFrequencyShift : UInt32 := 8
/-- `dfimisc`: the selected frequency point. -/
def dfiFrequencyMask : UInt32 := 0x1f00
/-- `dfistat`: initialisation is complete. -/
def dfiComplete : UInt32 := 0x1
/-- `dbg1`: no dequeueing of commands. -/
def noDequeue : UInt32 := 0x1
/-- `dbg1`: no new commands from the host interface. -/
def noHostCommands : UInt32 := 0x2
/-- `dbg1`: both bits that halt the controller. -/
def halted : UInt32 := noDequeue ||| noHostCommands
/-- `dbgcam`: the read queue is empty. -/
def readQueueEmpty : UInt32 := 0x02000000
/-- `dbgcam`: the write queue is empty. -/
def writeQueueEmpty : UInt32 := 0x04000000
/-- `dbgcam`: the read data pipeline is empty. -/
def readPipelineEmpty : UInt32 := 0x10000000
/-- `dbgcam`: the write data pipeline is empty. -/
def writePipelineEmpty : UInt32 := 0x20000000
/-- `dbgcam`: every queue and pipeline is empty. -/
def drained : UInt32 :=
  readQueueEmpty ||| writeQueueEmpty ||| readPipelineEmpty ||| writePipelineEmpty
/-- `dbgcmd`: starts a short ZQ calibration. -/
def zqCalibrate : UInt32 := 0x10
/-- `dbgstat`: a short ZQ calibration is under way. -/
def zqBusy : UInt32 := 0x10
/-- `swctl`: quasi-dynamic registers are closed. -/
def swDone : UInt32 := 0x1
/-- `swstat`: the closing of the quasi-dynamic registers is acknowledged. -/
def swDoneAck : UInt32 := 0x1
/-- `pctrl`: the port accepts transactions. -/
def portEnable : UInt32 := 0x1

end Ddrc

/-! ### The PHY -/

namespace Phy

/-- Who owns the bus to the PHY's registers. -/
def busOwner : Register := ⟨.phy, 0xd0000⟩
/-- Low power control. -/
def lpCtrl : Register := ⟨.phy, 0x20100⟩
/-- Low power status. -/
def lpStat : Register := ⟨.phy, 0x20101⟩
/-- Reset status. -/
def resetStat : Register := ⟨.phy, 0x20102⟩

/-- `busOwner`: software owns the bus. -/
def ownedBySoftware : UInt32 := 0
/-- `busOwner`: the PHY owns its bus. -/
def ownedByPhy : UInt32 := 1
/-- `lpCtrl`: asks to hold calibration. -/
def holdRequest : UInt32 := 0x1
/-- `lpStat`: calibration is held. -/
def holdActive : UInt32 := 0x1
/-- `resetStat`: the cold reset is complete. -/
def coldResetDone : UInt32 := 0x1

/-- The PHY registers that can be reached whoever owns the bus. -/
def alwaysReachable : List Register := [busOwner, lpCtrl, lpStat, resetStat]

end Phy

/-! ### Clock generation -/

namespace Clock

/-- PLL general control. -/
def pllControl : Register := ⟨.clock, 0x50⟩
/-- PLL dividers. -/
def pllDividers : Register := ⟨.clock, 0x54⟩
/-- Clock gate of the DRAM subsystem. -/
def dramGate : Register := ⟨.clock, 0x4050⟩
/-- Source of the DRAM core clock. -/
def coreSelect : Register := ⟨.clock, 0x9800⟩
/-- Bypass divider. -/
def bypassDivider : Register := ⟨.clock, 0xa080⟩
/-- Bypass divider status. -/
def bypassStat : Register := ⟨.clock, 0xa08c⟩

/-- `pllControl`: the PLL runs. -/
def pllRun : UInt32 := 0x200
/-- `pllControl`: the PLL is locked. -/
def pllLock : UInt32 := 0x80000000
/-- `pllDividers`: the position of the feedback divider. -/
def mainShift : UInt32 := 12
/-- `pllDividers`: the position of the reference divider. -/
def preShift : UInt32 := 4
/-- `pllDividers`: the position of the output divider. -/
def postShift : UInt32 := 0
/-- `dramGate`: every DRAM clock runs. -/
def gateOn : UInt32 := 0x3
/-- `coreSelect`: the core clock comes from the bypass divider. -/
def selectBypass : UInt32 := 0x01000000
/-- `bypassDivider`: the ratio less one. -/
def bypassDividerMask : UInt32 := 0x3f
/-- `bypassStat`: the last update has taken effect. -/
def bypassUpdated : UInt32 := 0x1

end Clock

/-! ### Power and reset -/

namespace Power

/-- Power-up request, which clears once the domain is on. -/
def upRequest : Register := ⟨.power, 0xf8⟩
/-- Power-down request, which clears once the domain is off. -/
def downRequest : Register := ⟨.power, 0x104⟩

/-- Both requests: the DRAM power domain. -/
def dramDomain : UInt32 := 0x20

end Power

namespace Reset

/-- Reset control of the controller and the PHY. -/
def control : Register := ⟨.reset, 0x1000⟩

/-- `control`: the controller core is in reset. -/
def coreReset : UInt32 := 0x1
/-- `control`: the controller's register interface is in reset. -/
def interfaceReset : UInt32 := 0x2
/-- `control`: the PHY is in reset. -/
def phyReset : UInt32 := 0x4
/-- `control`: the PHY's power-ok input. -/
def phyPowerOk : UInt32 := 0x8
/-- `control`: the three resets. -/
def allResets : UInt32 := coreReset ||| interfaceReset ||| phyReset

end Reset

/-! ### The sequencer for two speeds -/

namespace FastSwitch

/-- Speed selection and stop request. -/
def ctrl : Register := ⟨.fastSwitch, 0x0⟩
/-- Status. -/
def stat : Register := ⟨.fastSwitch, 0x4⟩

/-- `ctrl`: half speed. -/
def halfSpeed : UInt32 := 0x1
/-- `ctrl`: asks the sequencer to stop the controller and apply the selected speed. -/
def stopRequest : UInt32 := 0x2
/-- `stat`: the controller has stopped. -/
def stopped : UInt32 := 0x1

end FastSwitch

end Reclock
