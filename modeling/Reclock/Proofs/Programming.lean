/-
**What register programs leave in the registers.**

A program may write a register more than once, and programs that are applied one after another may
write the same registers.  What counts in the end is the value that a register was given last.

Main definitions:

* `Reclock.RegisterProgram.last?` — **the value that a program gives a register last**;
* `Reclock.Hardware.Holds` — the registers of a program hold the values that it gives them last.

Main results:

* `Reclock.RegisterProgram.last?_append` — of two programs in a row the later one counts;
* `Reclock.Hardware.Ready.serves_applyProgram` — **a program that is written is held**.
-/

import Reclock.Proofs.HardwareState

set_option relaxedAutoImplicit false
set_option autoImplicit false

namespace Reclock

/-! ### The last value -/

namespace RegisterProgram

variable {program : RegisterProgram} {w : Window} {offset : UInt32}

/-- **The value that a program gives a register last**, if it gives it one. -/
def last? (program : RegisterProgram) (offset : UInt32) : Option UInt32 :=
  ((program.filter fun entry => entry.offset == offset).getLast?).map (·.value)

/-- **Of two programs in a row the later one counts**, for the registers that it writes. -/
theorem last?_append (first second : RegisterProgram) (offset : UInt32) :
    last? (first ++ second) offset = (last? second offset).or (last? first offset) := by
  simp only [last?, List.filter_append, List.getLast?_append, Option.map_or]

theorem last?_cons (entry : RegisterValue) (program : RegisterProgram) (offset : UInt32) :
    last? (entry :: program) offset =
      (last? program offset).or (if entry.offset = offset then some entry.value else none) := by
  rw [← List.singleton_append, last?_append]
  by_cases h : entry.offset = offset <;> simp [last?, h]

/-- A register has no last value if and only if the program does not write it. -/
theorem last?_eq_none : last? program offset = none ↔ ∀ entry ∈ program, entry.offset ≠ offset := by
  simp [last?]

/-- A program gives no value to the registers that it does not write. -/
theorem last?_of_not_mem (h : (⟨w, offset⟩ : Register) ∉ program.registers w) :
    last? program offset = none := by
  rw [last?_eq_none]
  rintro entry hentry rfl
  exact h (List.mem_map_of_mem hentry)

/-- The last value is that of an entry. -/
theorem exists_of_last? {v : UInt32} (h : last? program offset = some v) :
    (⟨offset, v⟩ : RegisterValue) ∈ program := by
  obtain ⟨entry, hentry, rfl⟩ := Option.map_eq_some_iff.1 h
  obtain ⟨hmem, hoffset⟩ := List.mem_filter.1 (List.mem_of_getLast? hentry)
  rw [← beq_iff_eq.1 hoffset]
  exact hmem

theorem mem_registers_of_last? {v : UInt32} (h : last? program offset = some v) :
    (⟨w, offset⟩ : Register) ∈ program.registers w :=
  List.mem_map_of_mem (exists_of_last? h)

/-- A program whose values depend on the offsets alone gives them last. -/
theorem last?_map {f : UInt32 → UInt32} {entry : RegisterValue} (hentry : entry ∈ program) :
    last? (program.map fun entry => ⟨entry.offset, f entry.offset⟩) entry.offset =
      some (f entry.offset) := by
  cases hlast : last? (program.map fun entry => ⟨entry.offset, f entry.offset⟩) entry.offset with
  | none =>
      have hwritten : (⟨entry.offset, f entry.offset⟩ : RegisterValue) ∈
          program.map fun entry => ⟨entry.offset, f entry.offset⟩ := List.mem_map_of_mem hentry
      exact (last?_eq_none.1 hlast _ hwritten rfl).elim
  | some v =>
      obtain ⟨written, -, heq⟩ := List.mem_map.1 (exists_of_last? hlast)
      obtain ⟨hoffset, hvalue⟩ := RegisterValue.mk.inj heq
      rw [← hvalue, hoffset]

theorem window_of_mem_registers {r : Register} (h : r ∈ program.registers w) : r.window = w := by
  obtain ⟨entry, -, rfl⟩ := List.mem_map.1 h
  rfl

end RegisterProgram

/-- The programs of a point are for the controller and for the PHY. -/
theorem PointTimings.inDramDomain_of_mem {timings : PointTimings} {r : Register}
    (h : r ∈ timings.registers) : r.window.inDramDomain = true := by
  simp only [registers, List.mem_append] at h
  rcases h with ((h | h) | h) | h <;> rw [RegisterProgram.window_of_mem_registers h] <;> rfl

namespace Hardware

variable {ε : Type} {h : Hardware} {w : Window} {program : RegisterProgram}

/-! ### Loading without effect -/

/-- A program that is loaded leaves the registers alone that it does not name. -/
theorem value_preload_of_not_mem {q : Register} (hq : q ∉ program.registers w) (h : Hardware) :
    (h.preload w program).value q = h.value q := by
  induction program generalizing h with
  | nil => rfl
  | cons entry program ih =>
      rw [RegisterProgram.registers, List.map_cons, List.mem_cons, not_or] at hq
      exact (ih hq.2 _).trans (value_store_of_ne hq.1 h entry.value)

/-- Nothing but the values of registers changes when a program is loaded. -/
theorem exists_preload_eq (h : Hardware) (w : Window) (program : RegisterProgram) :
    ∃ values, h.preload w program = { h with values } := by
  induction program generalizing h with
  | nil => exact ⟨h.values, rfl⟩
  | cons entry program ih => exact ih (h.store ⟨w, entry.offset⟩ entry.value)

/-- Programs of a point are loaded into hardware that runs. -/
theorem exists_bootedAt_eq (timings : PointTimings) :
    ∃ values, bootedAt timings = { booted with values } := by
  obtain ⟨values₁, h₁⟩ := exists_preload_eq booted .ddrc timings.controller
  obtain ⟨values₂, h₂⟩ := exists_preload_eq { booted with values := values₁ } .phy timings.phyInit
  obtain ⟨values₃, h₃⟩ := exists_preload_eq { booted with values := values₂ } .phy timings.phyTrained
  obtain ⟨values₄, h₄⟩ := exists_preload_eq { booted with values := values₃ } .phy timings.phyEngine
  exact ⟨values₄, by rw [bootedAt, h₁, h₂, h₃, h₄]⟩

/-! ### Holding a program -/

/-- **The hardware holds a program**: its registers hold the values that it gives them last. -/
def Holds (h : Hardware) (w : Window) (program : RegisterProgram) : Prop :=
  ∀ offset v, program.last? offset = some v → h.value ⟨w, offset⟩ = v

/-- It depends on the registers of the program only. -/
theorem Holds.of_values {h' : Hardware} (hholds : h.Holds w program)
    (hsame : ∀ r ∈ program.registers w, h'.value r = h.value r) : h'.Holds w program := by
  intro offset v hlast
  rw [hsame _ (RegisterProgram.mem_registers_of_last? hlast)]
  exact hholds offset v hlast

/-- A program is still held after writes to other registers. -/
theorem Holds.kept {h' : Hardware} {set : Register → Prop} (hholds : h.Holds w program)
    (hkept : Kept set h h') (hdomain : w.inDramDomain = true)
    (hclear : ∀ r ∈ program.registers w, r ∉ Register.reserved)
    (hset : ∀ r ∈ program.registers w, ¬ set r) : h'.Holds w program := by
  refine hholds.of_values fun r hr => hkept.unwritten ?_ (hset r hr)
  refine Register.not_status_of_not_reserved (hclear r hr) ?_
  rw [RegisterProgram.window_of_mem_registers hr]
  exact hdomain

/-- A program is held after its first entry has been written and then the rest. -/
theorem Holds.cons {entry : RegisterValue} (hholds : h.Holds w program)
    (hentry : ⟨w, entry.offset⟩ ∉ program.registers w →
      h.value ⟨w, entry.offset⟩ = entry.value) : h.Holds w (entry :: program) := by
  intro offset v hlast
  rw [RegisterProgram.last?_cons] at hlast
  cases hlater : RegisterProgram.last? program offset with
  | some v' =>
      rw [hlater] at hlast
      cases hlast
      exact hholds offset v hlater
  | none =>
      -- Only the first entry writes the register.
      rw [hlater, Option.none_or] at hlast
      split at hlast
      case isTrue heq =>
        cases hlast
        subst heq
        refine hentry fun hmem => ?_
        obtain ⟨other, hother, heq⟩ := List.mem_map.1 hmem
        exact RegisterProgram.last?_eq_none.1 hlater other hother (Register.mk.inj heq).2
      case isFalse => cases hlast

/-- A program that has been loaded is held. -/
theorem holds_preload (h : Hardware) (w : Window) (program : RegisterProgram) :
    (h.preload w program).Holds w program := by
  induction program generalizing h with
  | nil => exact fun _ _ hlast => nomatch hlast
  | cons entry program ih =>
      refine (ih (h.store ⟨w, entry.offset⟩ entry.value)).cons fun hunwritten => ?_
      exact (value_preload_of_not_mem hunwritten _).trans (value_store_self ..)

/-- The later of two programs is held with them, for the registers that it writes. -/
theorem Holds.later {first second : RegisterProgram} (h' : h.Holds w (first ++ second)) :
    h.Holds w second := by
  intro offset v hlast
  exact h' offset v (by rw [RegisterProgram.last?_append, hlast, Option.some_or])

/-- The earlier one is held where the later one does not write. -/
theorem Holds.earlier {first second : RegisterProgram} {offset v : UInt32}
    (h' : h.Holds w (first ++ second)) (hlast : first.last? offset = some v)
    (hfree : second.last? offset = none) : h.value ⟨w, offset⟩ = v :=
  h' offset v (by rw [RegisterProgram.last?_append, hfree, Option.none_or, hlast])

/-! ### Writing -/

/-- A register that programs may write is written. -/
theorem Ready.serves_write_unreserved {r : Register} (hready : h.Ready) (hr : r ∉ Register.reserved)
    (hdomain : r.window.inDramDomain = true) (hreaches : h.Reaches r) (v : UInt32) :
    h.Serves (Sequence.write r v : Sequence ε Unit) (· = r) fun _ h' => h'.value r = v := by
  have hwithin : (Sequence.write r v : Sequence ε Unit).Within (Access.Writes (· = r)) :=
    @Sequence.within_write ε (· = r) r rfl v
  refine hready.serves hwithin
    (fun q hq => hq ▸ Register.harmless_of_not_reserved hr hdomain) ?_
  exact (hready.open hreaches).completes_write fun _ =>
    ⟨_, effect_of_not_reactive (Register.not_reactive_of_not_reserved hr hdomain) _ _,
      value_store_self ..⟩

theorem harmless_of_program (hdomain : w.inDramDomain = true)
    (hclear : ∀ r ∈ program.registers w, r ∉ Register.reserved) :
    ∀ r ∈ program.registers w, r.Harmless := by
  intro r hr
  refine Register.harmless_of_not_reserved (hclear r hr) ?_
  rw [RegisterProgram.window_of_mem_registers hr]
  exact hdomain

/-- **A program that is written is held.**  Its registers must be such as programs may write, and in
the PHY's window software must own the bus. -/
theorem Ready.serves_applyProgram (hready : h.Ready) (hdomain : w.inDramDomain = true)
    (hclear : ∀ r ∈ program.registers w, r ∉ Register.reserved)
    (howner : w = .phy → h.value Phy.busOwner = Phy.ownedBySoftware) :
    h.Serves (Sequence.applyProgram w program : Sequence ε Unit) (· ∈ program.registers w)
      fun _ h' => h'.Holds w program := by
  refine hready.serves (Sequence.within_applyProgram fun r hr => hr)
    (harmless_of_program hdomain hclear) ?_
  induction program generalizing h with
  | nil => exact Procedure.completes_of_run rfl fun _ _ hlast => nomatch hlast
  | cons entry program ih =>
      simp only [RegisterProgram.registers, List.map_cons, List.forall_mem_cons] at hclear
      obtain ⟨hentry, hrest⟩ := hclear
      have hreaches : h.Reaches ⟨w, entry.offset⟩ := by
        by_cases hphy : w = .phy
        · exact .inr (howner hphy)
        · exact .inl (.inl hphy)
      refine (hready.serves_write_unreserved hentry hdomain hreaches entry.value).andThen
        fun _ h₁ hready₁ hkept₁ hvalue₁ => ?_
      have howner₁ : w = .phy → h₁.value Phy.busOwner = Phy.ownedBySoftware := by
        intro hphy
        have hne : Phy.busOwner ≠ ⟨w, entry.offset⟩ := fun heq =>
          hentry (heq ▸ Register.mem_reserved_of_reachable (by decide))
        rw [hkept₁.unwritten (by decide) hne]
        exact howner hphy
      have hserves := hready₁.serves (Sequence.within_applyProgram fun r hr => hr)
        (harmless_of_program hdomain hrest) (ih hready₁ hrest howner₁)
      refine hserves.completes fun _ h' hkept hholds => hholds.cons fun hunwritten => ?_
      rw [hkept.unwritten (Register.not_status_of_not_reserved hentry hdomain) hunwritten]
      exact hvalue₁

/-- Two programs for one window, one after the other, are one program. -/
theorem applyProgram_append (w : Window) (first second : RegisterProgram) :
    (Sequence.applyProgram w (first ++ second) : Sequence ε Unit) =
      (do Sequence.applyProgram w first
          Sequence.applyProgram w second) := by
  induction first with
  | nil => rfl
  | cons entry first ih =>
      have hrest := congrArg (fun rest : Sequence ε Unit =>
        Sequence.write ⟨w, entry.offset⟩ entry.value >>= fun _ => rest) ih
      exact hrest.trans (Procedure.bind_assoc ..).symm

end Hardware

end Reclock
