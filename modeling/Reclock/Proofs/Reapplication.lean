/-
**Applying a register program again.**

A register program may name a register more than once, and writes have effects on other registers,
so that the order of its entries matters.  But what a write leaves in a register is the same
whatever the register held before, and so is what a whole program leaves.  Only the status of the
DFI is different: it reacts to a *change* of its control, and what it shows in the end depends on
where the program found it.  A second pass starts where the first one ended, and can change the
status only if the entries themselves disagree; but then the first pass has already left it as they
ask.  So a program that is applied again changes nothing.

That is no longer so if a program writes the status of the DFI itself, starts a mode register write,
or takes the PHY's bus away.

Main definitions:

* `Reclock.Register.unrepeatable` — the registers that a program must not name;
* `Reclock.Hardware.Admits` — hardware that a window can be programmed on;
* `Reclock.Hardware.imposed`, `Reclock.RegisterProgram.imposed` — what a write, or a program, leaves
  in a register whatever that held before;
* `Reclock.Hardware.Wrote`, `Reclock.Hardware.Applied` — **what has become of the registers**.

Main results:

* `Reclock.Hardware.Admits.run_applyProgram` — a program is applied without a fault;
* `Reclock.Hardware.Applied.value` — what it leaves in the registers;
* `Reclock.Hardware.Applied.again` — **a second pass changes nothing**;
* `Reclock.Hardware.reapplied` — the two passes, and the last value given to each register.
-/

import Reclock.Proofs.Programming
import Reclock.Proofs.Service

set_option relaxedAutoImplicit false
set_option autoImplicit false

namespace Reclock

namespace Register

/-- **The registers that a program must not name** if it is to be applied again: one starts a mode
register write, one is the status that reacts to changes, and one hands over the PHY's bus. -/
def unrepeatable : List Register := [Ddrc.mrctrl0, Ddrc.dfistat, Phy.busOwner]

/-- The registers that do not hold what a program gave them last: one clears itself, and the others
follow their controls. -/
def derived : List Register := [Ddrc.dbgcmd, Ddrc.stat, Ddrc.swstat, Phy.lpStat]

end Register

namespace Hardware

variable {h h' h₁ h₂ : Hardware} {r q : Register} {v : UInt32} {w : Window}
  {program : RegisterProgram}

/-! ### What a write leaves behind -/

/-- **What a write leaves in a register**, whatever that held before; nothing if it leaves the
register alone. -/
def imposed (r : Register) (v : UInt32) (q : Register) : Option UInt32 :=
  if q = r then some (if r = Ddrc.dbgcmd then 0 else v)
  else if r = Ddrc.pwrctl ∧ q = Ddrc.stat then
    some (if v &&& Ddrc.selfRefreshForced == Ddrc.selfRefreshForced then forcedSelfRefresh
      else Ddrc.modeNormal)
  else if r = Ddrc.swctl ∧ q = Ddrc.swstat then some (v &&& Ddrc.swDoneAck)
  else if r = Phy.lpCtrl ∧ q = Phy.lpStat then some (v &&& Phy.holdActive)
  else none

/-- A register that is not derived from others is left with the value itself by a write to it, and
alone by all others. -/
theorem imposed_of_not_derived (hq : q ∉ Register.derived) (r : Register) (v : UInt32) :
    imposed r v q = if q = r then some v else none := by
  simp only [Register.derived, List.mem_cons, List.not_mem_nil, or_false, not_or] at hq
  obtain ⟨hdbgcmd, hstat, hswstat, hlpStat⟩ := hq
  simp only [imposed, hstat, hswstat, hlpStat, and_false, if_false]
  by_cases hr : q = r
  · rw [if_pos hr, if_pos hr, if_neg (hr ▸ hdbgcmd)]
  · rw [if_neg hr, if_neg hr]

/-- **What has become of the registers** after a value has been written to one of them. -/
structure Wrote (r : Register) (v : UInt32) (h h' : Hardware) : Prop where
  powered : h'.powered = h.powered
  value : ∀ q, q ≠ Ddrc.dfistat → h'.value q = (imposed r v q).getD (h.value q)
  status : h'.value Ddrc.dfistat =
    if r = Ddrc.dfimisc then statusAfter (h.value Ddrc.dfimisc) v (h.value Ddrc.dfistat)
    else h.value Ddrc.dfistat

/-- A register is stored and nothing else. -/
theorem wrote_store (hvalue : ∀ q, imposed r v q = if q = r then some v else none)
    (hstatus : r ≠ Ddrc.dfistat) (hcontrol : r ≠ Ddrc.dfimisc) (h : Hardware) :
    Wrote r v h (h.store r v) where
  powered := rfl
  value q _ := by
    rw [hvalue, value_store]
    split <;> rfl
  status := by rw [if_neg hcontrol, value_store_of_ne (Ne.symm hstatus)]

/-- A register is stored, and the status that follows it. -/
theorem wrote_store_followed {status : Register} {s : UInt32}
    (hvalue : ∀ q, imposed r v q = if q = r then some v else if q = status then some s else none)
    (hne : status ≠ r) (hstatus : r ≠ Ddrc.dfistat) (hcontrol : r ≠ Ddrc.dfimisc)
    (hother : status ≠ Ddrc.dfistat) (h : Hardware) :
    Wrote r v h ((h.store r v).store status s) where
  powered := rfl
  value q _ := by
    rw [hvalue, value_store, value_store]
    by_cases hq : q = r
    · subst hq
      rw [if_neg (Ne.symm hne), if_pos rfl, if_pos rfl]
      rfl
    · rw [if_neg hq, if_neg hq]
      split <;> rfl
  status := by
    rw [if_neg hcontrol, value_store_of_ne (Ne.symm hother), value_store_of_ne (Ne.symm hstatus)]

theorem wrote_dbgcmd (h : Hardware) (v : UInt32) :
    Wrote Ddrc.dbgcmd v h (h.store Ddrc.dbgcmd 0) where
  powered := rfl
  value q _ := by
    rw [value_store]
    by_cases hq : q = Ddrc.dbgcmd
    · simp [imposed, hq]
    · simp +decide [imposed, hq]
  status := by rw [if_neg (by decide), value_store_of_ne (by decide)]

theorem wrote_dfimisc (h : Hardware) (v : UInt32) : Wrote Ddrc.dfimisc v h (h.writeDfimisc v) where
  powered := (kept_writeDfimisc (by rfl) h v : Kept (· = Ddrc.dfimisc) h (h.writeDfimisc v)).powered
  value q hstatus := by
    obtain ⟨hcontrol, -⟩ := value_writeDfimisc h v
    by_cases hq : q = Ddrc.dfimisc
    · subst hq
      rw [hcontrol]
      rfl
    · have hkept : Kept (· = Ddrc.dfimisc) h (h.writeDfimisc v) := kept_writeDfimisc (by rfl) h v
      rw [hkept.value q ?_]
      · simp +decide [imposed, hq]
      · rintro s rfl (hsame | hfollowed)
        · exact hq hsame
        · have hunique : ∀ entry ∈ Register.followed, entry.1 = Ddrc.dfimisc →
              entry.2 = Ddrc.dfistat := by decide
          exact hstatus (hunique _ hfollowed rfl)
  status := by
    rw [if_pos rfl]
    exact (value_writeDfimisc h v).2

/-- **A write that a program may make** is carried out, and leaves what it imposes. -/
theorem exists_wrote (hr : r ∉ Register.unrepeatable) (hdomain : r.window.inDramDomain = true)
    (h : Hardware) (v : UInt32) : ∃ h', h.effect r v = .ok h' ∧ Wrote r v h h' := by
  by_cases hreactive : r ∈ Register.reactive
  case neg =>
    refine ⟨_, effect_of_not_reactive hreactive h v, ?_⟩
    simp only [Register.reactive, List.mem_cons, List.not_mem_nil, or_false, not_or] at hreactive
    refine wrote_store (fun q => ?_) (by rintro rfl; exact hr (by decide)) hreactive.2.2.1 h
    simp only [imposed, hreactive, false_and, if_false]
  simp only [Register.reactive, List.mem_cons, List.not_mem_nil, or_false] at hreactive
  rcases hreactive with rfl | rfl | rfl | rfl | rfl | rfl | rfl | rfl | rfl | rfl | rfl | rfl
  case inl => exact absurd (by decide) hr
  · refine ⟨_, effect_pwrctl h v, wrote_store_followed (fun q => ?_) ?_ ?_ ?_ ?_ h⟩ <;>
      simp +decide [imposed]
  · exact ⟨_, effect_dfimisc h v, wrote_dfimisc h v⟩
  · refine ⟨_, effect_swctl h v, wrote_store_followed (fun q => ?_) ?_ ?_ ?_ ?_ h⟩ <;>
      simp +decide [imposed]
  · exact ⟨_, effect_dbgcmd h v, wrote_dbgcmd h v⟩
  · refine ⟨_, effect_lpCtrl h v, wrote_store_followed (fun q => ?_) ?_ ?_ ?_ ?_ h⟩ <;>
      simp +decide [imposed]
  all_goals cases hdomain

/-- The control of the DFI holds what it was given last. -/
theorem Wrote.control (hwrote : Wrote r v h h') :
    h'.value Ddrc.dfimisc = if r = Ddrc.dfimisc then v else h.value Ddrc.dfimisc := by
  rw [hwrote.value _ (by decide), imposed_of_not_derived (by decide)]
  by_cases hr : r = Ddrc.dfimisc
  · rw [if_pos hr, if_pos hr.symm]
    rfl
  · rw [if_neg hr, if_neg (Ne.symm hr)]
    rfl

end Hardware

/-! ### What a program leaves behind -/

/-- **What a program leaves in a register**, whatever that held before: what the last of its writes
leaves that does not leave the register alone. -/
def RegisterProgram.imposed (w : Window) : RegisterProgram → Register → Option UInt32
  | [], _ => none
  | entry :: program, q =>
      (imposed w program q).or (Hardware.imposed ⟨w, entry.offset⟩ entry.value q)

/-- What a program leaves in a register that is not derived from others is the last value that it
gives it. -/
theorem RegisterProgram.imposed_eq_last? {w : Window} {offset : UInt32}
    (hq : ⟨w, offset⟩ ∉ Register.derived) (program : RegisterProgram) :
    program.imposed w ⟨w, offset⟩ = program.last? offset := by
  induction program with
  | nil => rfl
  | cons entry program ih =>
      rw [imposed, ih, RegisterProgram.last?_cons, Hardware.imposed_of_not_derived hq]
      simp only [Register.mk.injEq, true_and, eq_comm]

namespace Hardware

variable {h h' h₁ h₂ : Hardware} {r q : Register} {v : UInt32} {w : Window}
  {program : RegisterProgram}

/-- **What has become of the registers** after the entries of a program have been written, one
after another. -/
inductive Applied (w : Window) : RegisterProgram → Hardware → Hardware → Prop
  | nil (h : Hardware) : Applied w [] h h
  | cons {entry : RegisterValue} {program : RegisterProgram} {h h₁ h' : Hardware}
      (hfirst : Wrote ⟨w, entry.offset⟩ entry.value h h₁) (hrest : Applied w program h₁ h') :
      Applied w (entry :: program) h h'

/-- The registers hold what the program leaves in them, or what they held before. -/
theorem Applied.value (happlied : Applied w program h h') (hq : q ≠ Ddrc.dfistat) :
    h'.value q = (program.imposed w q).getD (h.value q) := by
  induction happlied with
  | nil h => rfl
  | @cons entry program h h₁ h' hfirst _ ih =>
      rw [ih, hfirst.value q hq, RegisterProgram.imposed]
      cases program.imposed w q <;> rfl

/-- A register that is not derived from others holds the last value that the program gives it. -/
theorem Applied.last {offset : UInt32} (happlied : Applied w program h h')
    (hlast : program.last? offset = some v) (hderived : ⟨w, offset⟩ ∉ Register.derived)
    (hstatus : ⟨w, offset⟩ ≠ Ddrc.dfistat) : h'.value ⟨w, offset⟩ = v := by
  rw [happlied.value hstatus, RegisterProgram.imposed_eq_last? hderived, hlast]
  rfl

/-! ### Programs that are not refused -/

/-- **Hardware that a window can be programmed on**: it has power, and software owns the PHY's bus
if the window is the PHY's. -/
structure Admits (h : Hardware) (w : Window) : Prop where
  powered : h.powered = true
  owned : w = .phy → h.value Phy.busOwner = Phy.ownedBySoftware

theorem Admits.wrote (hadmits : h.Admits w) (hr : r ∉ Register.unrepeatable)
    (hwrote : Wrote r v h h') : h'.Admits w where
  powered := hwrote.powered.trans hadmits.powered
  owned hphy := by
    have hne : Phy.busOwner ≠ r := by
      rintro rfl
      exact hr (by decide)
    rw [hwrote.value _ (by decide), imposed_of_not_derived (by decide), if_neg hne]
    exact hadmits.owned hphy

theorem Admits.applied (hadmits : h.Admits w)
    (hclear : ∀ r ∈ program.registers w, r ∉ Register.unrepeatable)
    (happlied : Applied w program h h') : h'.Admits w := by
  induction happlied with
  | nil h => exact hadmits
  | cons hfirst _ ih =>
      simp only [RegisterProgram.registers, List.map_cons, List.forall_mem_cons] at hclear
      exact ih (hadmits.wrote hclear.1 hfirst) hclear.2

/-- **A program is applied without a fault.** -/
theorem Admits.completes_applyProgram {ε : Type} (hadmits : h.Admits w)
    (hdomain : w.inDramDomain = true)
    (hclear : ∀ r ∈ program.registers w, r ∉ Register.unrepeatable) :
    (Sequence.applyProgram w program : Sequence ε Unit).Completes RegisterFile.answer h
      fun _ h' => Applied w program h h' := by
  induction program generalizing h with
  | nil => exact Procedure.completes_of_run rfl (.nil h)
  | cons entry program ih =>
      simp only [RegisterProgram.registers, List.map_cons, List.forall_mem_cons] at hclear
      obtain ⟨hentry, hrest⟩ := hclear
      have hfree : h.busDenied ⟨w, entry.offset⟩ = false := by
        by_cases hphy : w = .phy
        · exact Reaches.free (.inr (hadmits.owned hphy))
        · exact Reaches.free (.inl (.inl hphy))
      have hwrite : (Sequence.write ⟨w, entry.offset⟩ entry.value : Sequence ε Unit).Completes
          RegisterFile.answer h fun _ h₁ => Wrote ⟨w, entry.offset⟩ entry.value h h₁ := by
        refine completes_write hfree (by simp [hadmits.powered]) fun writes => ?_
        obtain ⟨h₁, heffect, hwrote⟩ := exists_wrote hentry hdomain { h with writes } entry.value
        exact ⟨h₁, heffect, hwrote.powered, hwrote.value, hwrote.status⟩
      refine hwrite.andThen fun _ h₁ hfirst => ?_
      exact (ih (hadmits.wrote hentry hfirst) hrest).mono fun _ _ happlied => .cons hfirst happlied

/-! ### The status that reacts to changes -/

/-- The status of the DFI is in step with its control. -/
def InStep (h : Hardware) : Prop :=
  h.value Ddrc.dfistat = if asksInit (h.value Ddrc.dfimisc) then 0 else Ddrc.dfiComplete

/-- All that a program writes to the control of the DFI asks for the same as a given word. -/
def Concurs (w : Window) (program : RegisterProgram) (control : UInt32) : Prop :=
  ∀ entry ∈ program, ⟨w, entry.offset⟩ = Ddrc.dfimisc → asksInit entry.value = asksInit control

/-- A status that was as asked for is so again. -/
theorem statusAfter_inStep (before after : UInt32) :
    statusAfter before after (if asksInit before then 0 else Ddrc.dfiComplete) =
      if asksInit after then 0 else Ddrc.dfiComplete := by
  unfold statusAfter
  cases asksInit before <;> cases asksInit after <;> rfl

/-- Whatever the status was, it is as asked for once something else is asked for. -/
theorem statusAfter_of_change {before after : UInt32}
    (hchange : asksInit after ≠ asksInit before) (status : UInt32) :
    statusAfter before after status = if asksInit after then 0 else Ddrc.dfiComplete := by
  unfold statusAfter
  cases hbefore : asksInit before <;> cases hafter : asksInit after
  · exact absurd (hafter.trans hbefore.symm) hchange
  · rfl
  · rfl
  · exact absurd (hafter.trans hbefore.symm) hchange

/-- A status that is as asked for follows every write. -/
theorem InStep.wrote (hinStep : h.InStep) (hwrote : Wrote r v h h') : h'.InStep := by
  rw [InStep, hwrote.status, hwrote.control, hinStep]
  split
  · exact statusAfter_inStep _ v
  · rfl

/-- A write that asks for something else makes the status follow. -/
theorem Wrote.inStep (hwrote : Wrote Ddrc.dfimisc v h h')
    (hchange : asksInit v ≠ asksInit (h.value Ddrc.dfimisc)) : h'.InStep := by
  rw [InStep, hwrote.status, hwrote.control, if_pos rfl, if_pos rfl]
  exact statusAfter_of_change hchange _

/-- A write that asks for the same leaves the status alone. -/
theorem Wrote.undisturbed (hwrote : Wrote r v h h')
    (hsame : r = Ddrc.dfimisc → asksInit v = asksInit (h.value Ddrc.dfimisc)) :
    h'.value Ddrc.dfistat = h.value Ddrc.dfistat ∧
      asksInit (h'.value Ddrc.dfimisc) = asksInit (h.value Ddrc.dfimisc) := by
  rw [hwrote.status, hwrote.control]
  by_cases hr : r = Ddrc.dfimisc
  · rw [if_pos hr, if_pos hr, statusAfter, hsame hr]
    cases asksInit (h.value Ddrc.dfimisc) <;> simp
  · rw [if_neg hr, if_neg hr]
    exact ⟨rfl, rfl⟩

theorem InStep.applied (hinStep : h.InStep) (happlied : Applied w program h h') :
    h'.InStep := by
  induction happlied with
  | nil h => exact hinStep
  | cons hfirst _ ih => exact ih (hinStep.wrote hfirst)

/-- **Either the program has made the status follow, or it has asked for nothing else** than was
asked for before. -/
theorem Applied.inStep_or_concurs (happlied : Applied w program h h') :
    h'.InStep ∨ Concurs w program (h.value Ddrc.dfimisc) := by
  induction happlied with
  | nil h => exact .inr nofun
  | @cons entry program h h₁ h' hfirst hrest ih =>
      by_cases hsame : ⟨w, entry.offset⟩ = Ddrc.dfimisc →
          asksInit entry.value = asksInit (h.value Ddrc.dfimisc)
      · refine ih.imp_right fun hconcurs => ?_
        refine List.forall_mem_cons.2 ⟨hsame, fun other hother hr => ?_⟩
        rw [hconcurs other hother hr]
        exact (hfirst.undisturbed hsame).2
      · obtain ⟨hr, hchange⟩ := Classical.not_imp.1 hsame
        rw [hr] at hfirst
        exact .inl ((hfirst.inStep hchange).applied hrest)

theorem Applied.undisturbed (happlied : Applied w program h h')
    (hconcurs : Concurs w program (h.value Ddrc.dfimisc)) :
    h'.value Ddrc.dfistat = h.value Ddrc.dfistat ∧
      asksInit (h'.value Ddrc.dfimisc) = asksInit (h.value Ddrc.dfimisc) := by
  induction happlied with
  | nil h => exact ⟨rfl, rfl⟩
  | cons hfirst _ ih =>
      obtain ⟨hsame, hothers⟩ := List.forall_mem_cons.1 hconcurs
      obtain ⟨hstatus, hasks⟩ := hfirst.undisturbed hsame
      obtain ⟨hstatus', hasks'⟩ := ih fun entry hentry hr =>
        (hothers entry hentry hr).trans hasks.symm
      exact ⟨hstatus'.trans hstatus, hasks'.trans hasks⟩

/-! ### The second pass -/

/-- **A second pass changes nothing.** -/
theorem Applied.again (hfirst : Applied w program h h₁) (hsecond : Applied w program h₁ h₂)
    (q : Register) : h₂.value q = h₁.value q := by
  have hothers : ∀ q, q ≠ Ddrc.dfistat → h₂.value q = h₁.value q := by
    intro q hq
    rw [hsecond.value hq, hfirst.value hq]
    cases program.imposed w q <;> rfl
  by_cases hq : q = Ddrc.dfistat
  · subst hq
    rcases hfirst.inStep_or_concurs with hinStep | hconcurs
    · have hinStep₂ : h₂.InStep := hinStep.applied hsecond
      rw [hinStep₂, hinStep, hothers _ (by decide)]
    · have hasks := (hfirst.undisturbed hconcurs).2
      exact (hsecond.undisturbed fun entry hentry hr =>
        (hconcurs entry hentry hr).trans hasks.symm).1
  · exact hothers q hq

/-- **Applying a program is idempotent, and the last entry for a register counts.**  On hardware
that has power, and whose bus software owns if the program is for the PHY, a program that names none
of the unrepeatable registers is applied without a fault, and so it is a second time.  Every
register then holds what it did after the first time; and each register that the program names, but
for the derived ones, holds the value of the last entry that names it. -/
theorem reapplied {ε : Type} (hdomain : w.inDramDomain = true) (hadmits : h.Admits w)
    (hclear : ∀ r ∈ program.registers w, r ∉ Register.unrepeatable) :
    ∃ h₁ h₂ : Hardware,
      RegisterFile.run (Sequence.applyProgram w program : Sequence ε Unit) h = .ok (.ok ()) h₁ ∧
      RegisterFile.run (Sequence.applyProgram w program : Sequence ε Unit) h₁ = .ok (.ok ()) h₂ ∧
      (∀ q, h₂.value q = h₁.value q) ∧
      ∀ offset v, program.last? offset = some v → ⟨w, offset⟩ ∉ Register.derived →
        h₁.value ⟨w, offset⟩ = v := by
  obtain ⟨_, h₁, hrun₁, hfirst⟩ := hadmits.completes_applyProgram (ε := ε) hdomain hclear
  obtain ⟨_, h₂, hrun₂, hsecond⟩ :=
    (hadmits.applied hclear hfirst).completes_applyProgram (ε := ε) hdomain hclear
  refine ⟨h₁, h₂, hrun₁, hrun₂, hfirst.again hsecond, fun offset v hlast hderived => ?_⟩
  refine hfirst.last hlast hderived fun hstatus => ?_
  exact hclear _ (RegisterProgram.mem_registers_of_last? hlast) (hstatus ▸ by decide)

/-- A program for the controller that asks for initialisation and takes it back, forces self-refresh
and gives one register two values. -/
def overlappingProgram : RegisterProgram :=
  [⟨0x1b0, 0x20⟩, ⟨0x64, 1⟩, ⟨0x1b0, 0⟩, ⟨0x30, 0x20⟩, ⟨0x4, 7⟩, ⟨0x64, 2⟩, ⟨0x30c, 0x10⟩]

/-- It can be applied twice to hardware that has just booted, and the second of the two values is
what counts. -/
theorem reapplied_overlapping : booted.Admits .ddrc ∧
    (∀ r ∈ overlappingProgram.registers .ddrc, r ∉ Register.unrepeatable) ∧
    ∃ h₁ h₂ : Hardware,
      RegisterFile.run (Sequence.applyProgram .ddrc overlappingProgram : Sequence PollTimeout Unit)
        booted = .ok (.ok ()) h₁ ∧
      RegisterFile.run (Sequence.applyProgram .ddrc overlappingProgram : Sequence PollTimeout Unit)
        h₁ = .ok (.ok ()) h₂ ∧
      (∀ q, h₂.value q = h₁.value q) ∧ h₁.value ⟨.ddrc, 0x64⟩ = 2 := by
  have hadmits : booted.Admits .ddrc := ⟨rfl, nofun⟩
  have hclear : ∀ r ∈ overlappingProgram.registers .ddrc, r ∉ Register.unrepeatable := by decide
  obtain ⟨h₁, h₂, hfirst, hsecond, hsame, hlast⟩ :=
    reapplied (ε := PollTimeout) rfl hadmits hclear
  exact ⟨hadmits, hclear, h₁, h₂, hfirst, hsecond, hsame, hlast 0x64 2 rfl (by decide)⟩

end Hardware

end Reclock
