/-
**Memory-mapped registers are independent.**

A memory-mapped register file finds the slot of a register by a shift and a division, in words of
64 bits, and overwrites what is there.  Its callers rely on something simpler: a register holds what
was last written to it, and a write to one register is no concern of the others.  That is what a
mere record of writes does, in which a register goes by its window and the exact quarter of its byte
address.  Whatever is done to the memory, it answers as the record does.  So two registers are one
only if they lie in one slot, and an access that lies outside of its window changes nothing.

Main definitions:

* `Reclock.Mmio.Shape` — the sizes and the shifts of six windows, and `Shape.zeroed`, memory of that
  shape that holds zeros;
* `Reclock.Mmio.Shape.place` — **where a register lies**, its window and its slot;
* `Reclock.Journal` — a register file that is a record of writes;
* `Reclock.RegisterFile.Agree` — two runs with the same answer, whose ends are related;
* `Reclock.Mmio.Records` — the memory holds what a record says;
* `Reclock.Mmio.Independent` — **what the memory does with all that may follow**.

Main results:

* `Reclock.RegisterFile.agree_run`, `Reclock.Bench.RegisterStep.agree_runAllSteps` — from single
  accesses to sequences, and to scripts that go on after a fault;
* `Reclock.Journal.faults_iff` — which steps are refused;
* `Reclock.MmioWindow.slot_eq` — no bit of a byte address is lost;
* `Reclock.Mmio.load_store` — a write changes one slot of one window;
* `Reclock.Mmio.independent_registers` — **after any script the memory is a set of independent
  registers**.
-/

import Mathlib.Algebra.Group.Nat.Defs
import Reclock.Bench.Registers
import Reclock.Mmio
import Reclock.Proofs.Monitor
import Reclock.Proofs.Reserved
import Reclock.Proofs.Runs

set_option relaxedAutoImplicit false
set_option autoImplicit false

namespace Reclock

theorem Window.index_injective {w w' : Window} (h : w.index = w'.index) : w = w' := by
  have hw := Window.getElem?_list w
  rw [h, Window.getElem?_list] at hw
  exact (Option.some.inj hw).symm

/-! ### The shape of the memory -/

namespace Mmio

/-- A window of the memory. -/
def window (m : Mmio) (w : Window) : MmioWindow := m.windows.get w.index

/-- The sizes of the windows, and by how many positions their offsets are shifted. -/
structure Shape where
  /-- The number of slots of a window. -/
  size : Window → Nat
  /-- The number of positions by which an offset is shifted to get a byte address. -/
  shift : Window → UInt32

namespace Shape

variable {shape : Shape}

/-- Memory of a shape, all of whose slots hold zero. -/
def zeroed (shape : Shape) : Mmio :=
  let window (w : Window) : MmioWindow := .zeroed (shape.size w) (shape.shift w)
  ⟨#v[window .ddrc, window .phy, window .clock, window .power, window .reset, window .fastSwitch]⟩

/-- The slot of a register: the quarter of its byte address. -/
def slot (shape : Shape) (r : Register) : Nat :=
  r.offset.toNat * 2 ^ (shape.shift r.window).toNat / 4

/-- **Where a register lies**: its window, and its slot there. -/
def place (shape : Shape) (r : Register) : Window × Nat := (r.window, shape.slot r)

/-- A register lies in its window. -/
def Contains (shape : Shape) (r : Register) : Prop := shape.slot r < shape.size r.window

instance (shape : Shape) (r : Register) : Decidable (shape.Contains r) :=
  inferInstanceAs (Decidable (_ < _))

/-- No shift is so large that it loses bits of an offset. -/
def Lossless (shape : Shape) : Prop := ∀ w, (shape.shift w).toNat ≤ 32

theorem window_zeroed (shape : Shape) (w : Window) :
    shape.zeroed.window w = .zeroed (shape.size w) (shape.shift w) := by
  cases w <;> rfl

/-- Registers at whole words share their slots with no other such registers. -/
theorem eq_of_slot_eq {w : Window} {first second : UInt32}
    (hfirst : 4 ∣ first.toNat * 2 ^ (shape.shift w).toNat)
    (hsecond : 4 ∣ second.toNat * 2 ^ (shape.shift w).toNat)
    (hslot : shape.slot ⟨w, first⟩ = shape.slot ⟨w, second⟩) : first = second := by
  have hbytes : first.toNat * 2 ^ (shape.shift w).toNat =
      second.toNat * 2 ^ (shape.shift w).toNat := (Nat.div_left_inj hfirst hsecond).1 hslot
  exact UInt32.toNat_inj.1 (Nat.eq_of_mul_eq_mul_right (Nat.two_pow_pos _) hbytes)

/-- **Register numbers never share a slot**, and neither do byte offsets of whole words. -/
theorem slot_ne {w : Window} {first second : UInt32} (hne : first ≠ second)
    (hwords : 2 ≤ (shape.shift w).toNat ∨ 4 ∣ first.toNat ∧ 4 ∣ second.toNat) :
    shape.slot ⟨w, first⟩ ≠ shape.slot ⟨w, second⟩ := by
  intro hslot
  rcases hwords with hshift | ⟨hfirst, hsecond⟩
  · have hpower : 4 ∣ 2 ^ (shape.shift w).toNat := Nat.pow_dvd_pow 2 hshift
    exact hne (eq_of_slot_eq (Nat.dvd_mul_left_of_dvd hpower _)
      (Nat.dvd_mul_left_of_dvd hpower _) hslot)
  · exact hne (eq_of_slot_eq (Nat.dvd_mul_right_of_dvd hfirst _)
      (Nat.dvd_mul_right_of_dvd hsecond _) hslot)

end Shape

end Mmio

/-! ### The registers that are accessed -/

/-- The register of an access. -/
def Access.register : Access → Register
  | .read r => r
  | .write r _ => r

/-- The registers that a step accesses. -/
def Bench.RegisterStep.registers : RegisterStep → List Register
  | .read r => [r]
  | .write r _ => [r]
  | .set r _ => [r]
  | .clear r _ => [r]
  | .invert r _ => [r]
  | .apply w program => program.registers w
  | .wait r limit _ _ => if limit = 0 then [] else [r]

/-- Whatever holds of its registers holds of all that a step accesses. -/
theorem Bench.RegisterStep.within_sequence {set : Register → Prop} {step : RegisterStep}
    (h : ∀ r ∈ step.registers, set r) : step.sequence.Within fun a => set a.register := by
  cases step with
  | read r => exact ⟨h r (List.mem_singleton_self r), fun _ => trivial⟩
  | write r value => exact ⟨h r (List.mem_singleton_self r), fun _ => trivial⟩
  | set r bits | clear r bits | invert r bits =>
      have hr := h r (List.mem_singleton_self r)
      exact ⟨hr, fun _ => ⟨hr, fun _ => trivial⟩⟩
  | apply w program =>
      refine Procedure.within_bind ?_ fun _ => trivial
      exact Procedure.within_forEach fun entry hentry =>
        ⟨h _ (List.mem_map_of_mem hentry), fun _ => trivial⟩
  | wait r limit mask want =>
      refine Procedure.within_bind ?_ fun _ => trivial
      by_cases hlimit : limit = 0
      · subst hlimit
        exact trivial
      · have hr := h r (by simp only [registers, if_neg hlimit, List.mem_singleton])
        refine Procedure.within_pollUntil ?_ _
        exact ⟨hr, fun _ => trivial⟩

/-- A poll that may make an attempt starts with one. -/
theorem Sequence.exists_waitUntil_eq {limit : UInt32} (r : Register) (hlimit : limit ≠ 0)
    (condition : UInt32 → Bool) :
    ∃ next, waitUntil r limit condition = .act (.read r) next := by
  have hpositive : limit.toNat ≠ 0 := fun h => hlimit (UInt32.toNat_inj.1 h)
  obtain ⟨attempts, hattempts⟩ := Nat.exists_eq_succ_of_ne_zero hpositive
  rw [waitUntil, hattempts]
  exact ⟨_, rfl⟩

/-! ### Runs that agree -/

/-- **Two runs agree**: they end in the same way and with the same answer, and the states that they
leave are related. -/
inductive RegisterFile.Agree {H K α : Type} (R : H → K → Prop) :
    EStateM.Result Halt H α → EStateM.Result Halt K α → Prop
  | ok {h : H} {k : K} (a : α) (hR : R h k) : Agree R (.ok a h) (.ok a k)
  | error {h : H} {k : K} (halt : Halt) (hR : R h k) : Agree R (.error halt h) (.error halt k)

section Agreement

variable {H K α : Type} {R S : H → K → Prop} {h : H} {k : K} {first : EStateM.Result Halt H α}
  {second : EStateM.Result Halt K α}

open RegisterFile

theorem RegisterFile.Agree.mono (hagree : Agree R first second) (hS : ∀ h k, R h k → S h k) :
    Agree S first second := by
  cases hagree with
  | ok a hR => exact .ok a (hS _ _ hR)
  | error halt hR => exact .error halt (hS _ _ hR)

theorem RegisterFile.Agree.faults_iff (hagree : Agree R first second) :
    (∃ halt h, first = .error halt h) ↔ ∃ halt k, second = .error halt k := by
  cases hagree with
  | ok a hR => exact ⟨nofun, nofun⟩
  | error halt hR => exact ⟨fun _ => ⟨_, _, rfl⟩, fun _ => ⟨_, _, rfl⟩⟩

variable [RegisterFile H] [RegisterFile K]

/-- **Register files that agree in single accesses agree in sequences** of them. -/
theorem RegisterFile.agree_run {ε : Type} {allowed : Access → Prop}
    (haccess : ∀ h k, R h k → ∀ a : Access, allowed a → Agree R (answer a h) (answer a k))
    {p : Sequence ε α} (hp : p.Within allowed) (hR : R h k) : Agree R (run p h) (run p k) := by
  unfold run
  induction p generalizing h k with
  | done a => exact .ok _ hR
  | fail e => exact .ok _ hR
  | act a next ih =>
      have hagree := haccess h k hR a hp.1
      simp only [Procedure.run]
      generalize answer a h = first, answer a k = second at hagree ⊢
      cases hagree with
      | ok reply hR' => exact ih reply (hp.2 reply) hR'
      | error halt hR' => exact .error halt hR'

/-- Scripts agree if their steps do, also after a fault, from which they go on. -/
theorem Bench.RegisterStep.agree_runAllSteps {steps : List RegisterStep}
    (hsteps : ∀ step ∈ steps, ∀ h k, R h k → Agree R (step.run h) (step.run k)) (hR : R h k) :
    (runAllSteps run steps h).1 = (runAllSteps run steps k).1 ∧
      R (runAllSteps run steps h).2 (runAllSteps run steps k).2 := by
  induction steps generalizing h k with
  | nil => exact ⟨rfl, hR⟩
  | cons step steps ih =>
      obtain ⟨hstep, hrest⟩ := List.forall_mem_cons.1 hsteps
      have hagree := hstep h k hR
      simp only [runAllSteps]
      generalize step.run h = first, step.run k = second at hagree ⊢
      cases hagree with
      | ok a hR' =>
          obtain ⟨hanswers, hends⟩ := ih hrest hR'
          exact ⟨congrArg (Except.ok a :: ·) hanswers, hends⟩
      | error halt hR' =>
          obtain ⟨hanswers, hends⟩ := ih hrest hR'
          exact ⟨congrArg (Except.error halt :: ·) hanswers, hends⟩

end Agreement

/-! ### Registers as a record of writes -/

/-- **A register file that is a record of writes** to memory of a shape, the latest first: where
something was written, and what. -/
structure Journal (shape : Mmio.Shape) where
  /-- The writes. -/
  writes : List ((Window × Nat) × UInt32) := []

namespace Journal

variable {shape : Mmio.Shape} {r : Register} {ε α : Type}

/-- **What was written last** to a place, zero if nothing was. -/
def last (j : Journal shape) (place : Window × Nat) : UInt32 := (j.writes.lookup place).getD 0

/-- The record with one more write. -/
def record (j : Journal shape) (r : Register) (value : UInt32) : Journal shape :=
  ⟨(shape.place r, value) :: j.writes⟩

instance : RegisterFile (Journal shape) where
  read r j :=
    if shape.Contains r then .ok (j.last (shape.place r), j) else .error (.outsideWindow r)
  write r value j :=
    if shape.Contains r then .ok (j.record r value) else .error (.outsideWindow r)

theorem last_record (j : Journal shape) (r : Register) (value : UInt32) (place : Window × Nat) :
    (j.record r value).last place = if place = shape.place r then value else j.last place := by
  rw [last, record, List.lookup_cons]
  by_cases hplace : place = shape.place r
  · rw [if_pos hplace, beq_iff_eq.2 hplace]
    rfl
  · rw [if_neg hplace, beq_false_of_ne hplace]
    rfl

theorem answer_read (hr : shape.Contains r) (j : Journal shape) :
    RegisterFile.answer (.read r) j = .ok (j.last (shape.place r)) j := by
  simp only [RegisterFile.answer, RegisterFile.read, if_pos hr]

theorem answer_write (hr : shape.Contains r) (value : UInt32) (j : Journal shape) :
    RegisterFile.answer (.write r value) j = .ok () (j.record r value) := by
  simp only [RegisterFile.answer, RegisterFile.write, if_pos hr]

theorem answer_refused {a : Access} (hr : ¬ shape.Contains a.register) (j : Journal shape) :
    RegisterFile.answer a j = .error (.fault (.outsideWindow a.register)) j := by
  cases a with
  | read r =>
      simp only [Access.register] at hr
      simp only [RegisterFile.answer, RegisterFile.read, if_neg hr, Access.register]
  | write r value =>
      simp only [Access.register] at hr
      simp only [RegisterFile.answer, RegisterFile.write, if_neg hr, Access.register]

/-! ### Steps that are refused -/

theorem run_write (hr : shape.Contains r) (value : UInt32) (j : Journal shape) :
    RegisterFile.run (Sequence.write r value : Sequence ε Unit) j =
      .ok (.ok ()) (j.record r value) := by
  rw [RegisterFile.run, Sequence.write, Procedure.run, answer_write hr]
  rfl

/-- A sequence that stays in the windows comes to an end. -/
theorem exists_run {p : Sequence ε α} (hp : p.Within fun a => shape.Contains a.register)
    (j : Journal shape) : ∃ outcome j', RegisterFile.run p j = .ok outcome j' := by
  unfold RegisterFile.run
  induction p generalizing j with
  | done a => exact ⟨_, _, rfl⟩
  | fail e => exact ⟨_, _, rfl⟩
  | act a next ih =>
      cases a with
      | read r =>
          rw [Procedure.run, answer_read (r := r) hp.1]
          exact ih _ (hp.2 _) _
      | write r value =>
          rw [Procedure.run, answer_write (r := r) hp.1]
          exact ih _ (hp.2 _) _

/-- A sequence that starts outside of a window is refused. -/
theorem run_act_refused {a : Access} (hr : ¬ shape.Contains a.register)
    (next : a.Reply → Sequence ε α) (j : Journal shape) :
    RegisterFile.run (.act a next) j = .error (.fault (.outsideWindow a.register)) j := by
  rw [RegisterFile.run, Procedure.run, answer_refused hr]

/-- A program is refused at the first of its entries that lies outside of the window. -/
theorem exists_fault_applyProgram {w : Window} {program : RegisterProgram}
    (h : ∃ r ∈ RegisterProgram.registers w program, ¬ shape.Contains r) (j : Journal shape) :
    ∃ halt j', RegisterFile.run (Sequence.applyProgram w program : Sequence ε Unit) j =
      .error halt j' := by
  induction program generalizing j with
  | nil => simp [RegisterProgram.registers] at h
  | cons entry program ih =>
      by_cases hentry : shape.Contains ⟨w, entry.offset⟩
      · have hrest : ∃ r ∈ RegisterProgram.registers w program, ¬ shape.Contains r := by
          obtain ⟨r, hr, houtside⟩ := h
          rcases List.mem_cons.1 hr with rfl | hr
          · exact absurd hentry houtside
          · exact ⟨r, hr, houtside⟩
        obtain ⟨halt, j', hfault⟩ := ih hrest (j.record ⟨w, entry.offset⟩ entry.value)
        refine ⟨halt, j', Eq.trans ?_ hfault⟩
        exact Procedure.run_bind_of_ok (run_write hentry entry.value j)
      · exact ⟨_, _, run_act_refused hentry _ j⟩

/-- **A step is refused exactly if one of its registers lies outside of its window.** -/
theorem faults_iff (step : Bench.RegisterStep) (j : Journal shape) :
    (∃ halt j', step.run j = .error halt j') ↔ ∃ r ∈ step.registers, ¬ shape.Contains r := by
  constructor
  · rintro ⟨halt, j', hfault⟩
    refine Decidable.by_contra fun hinside => ?_
    have hcontains : ∀ r ∈ step.registers, shape.Contains r := fun r hr =>
      Decidable.by_contra fun houtside => hinside ⟨r, hr, houtside⟩
    obtain ⟨outcome, j'', hrun⟩ := exists_run (Bench.RegisterStep.within_sequence hcontains) j
    exact nomatch hfault.symm.trans hrun
  · rintro ⟨r, hr, houtside⟩
    cases step with
    | read s | write s value | set s bits | clear s bits | invert s bits =>
        obtain rfl := List.mem_singleton.1 hr
        exact ⟨_, _, run_act_refused houtside _ j⟩
    | apply w program =>
        obtain ⟨halt, j', hfault⟩ :=
          exists_fault_applyProgram (ε := PollTimeout) ⟨r, hr, houtside⟩ j
        rw [RegisterFile.run] at hfault
        refine ⟨halt, j', ?_⟩
        rw [Bench.RegisterStep.run, Bench.RegisterStep.sequence, RegisterFile.run,
          Procedure.run_bind, hfault]
    | wait s limit mask want =>
        simp only [Bench.RegisterStep.registers] at hr
        split at hr
        · exact absurd hr List.not_mem_nil
        · rename_i hlimit
          obtain rfl := List.mem_singleton.1 hr
          obtain ⟨next, hnext⟩ := Sequence.exists_waitUntil_eq r hlimit (· &&& mask == want)
          refine ⟨.fault (.outsideWindow r), j, ?_⟩
          rw [Bench.RegisterStep.run, Bench.RegisterStep.sequence, hnext]
          exact run_act_refused houtside _ j

end Journal

/-! ### The memory -/

/-- **No bit of a byte address is lost** as long as the shift is no more than the width of an
offset. -/
theorem MmioWindow.slot_eq {window : MmioWindow} (hshift : window.strideShift.toNat ≤ 32)
    (offset : UInt32) :
    window.slot offset = .ok (offset.toNat * 2 ^ window.strideShift.toNat / 4) := by
  have hpower : 2 ^ window.strideShift.toNat ≤ 2 ^ 32 := Nat.pow_le_pow_right (by decide) hshift
  have hfits : offset.toNat * 2 ^ window.strideShift.toNat < 2 ^ 64 :=
    calc offset.toNat * 2 ^ window.strideShift.toNat
        < 2 ^ 32 * 2 ^ window.strideShift.toNat :=
          Nat.mul_lt_mul_of_pos_right offset.toNat_lt (Nat.two_pow_pos _)
      _ ≤ 2 ^ 32 * 2 ^ 32 := Nat.mul_le_mul_left _ hpower
  have hsmall : window.strideShift.toNat % 64 = window.strideShift.toNat :=
    Nat.mod_eq_of_lt (by omega)
  rw [slot, if_pos (by omega), UInt64.toNat_div, UInt64.toNat_shiftLeft, UInt32.toNat_toUInt64,
    UInt32.toNat_toUInt64, hsmall, Nat.shiftLeft_eq, Nat.mod_eq_of_lt hfits]
  rfl

namespace Mmio

variable {shape : Shape} {m : Mmio} {j : Journal shape} {r : Register}

theorem load_eq (m : Mmio) (w : Window) (slot : Nat) :
    m.load w slot = (m.window w).slots.getD slot 0 := rfl

theorem locate_eq (m : Mmio) (r : Register) :
    m.locate r = ((m.window r.window).slot r.offset >>= fun slot =>
      if slot < (m.window r.window).slots.length then .ok slot
      else .error (.outsideWindow r)) := rfl

/-- The windows after a write. -/
theorem window_store (m : Mmio) (w : Window) (slot : Nat) (value : UInt32) (w' : Window) :
    (m.store w slot value).window w' =
      if w' = w then { m.window w with slots := (m.window w).slots.set slot value }
      else m.window w' := by
  by_cases hw : w' = w
  · subst hw
    rw [if_pos rfl]
    exact Vector.getElem_set_self ..
  · rw [if_neg hw]
    exact Vector.getElem_set_ne w.index.isLt w'.index.isLt fun h =>
      hw (Window.index_injective (Fin.ext h)).symm

/-- **A write changes one slot of one window.** -/
theorem load_store {w : Window} {slot : Nat} (hslot : slot < (m.window w).slots.length)
    (value : UInt32) (w' : Window) (slot' : Nat) :
    (m.store w slot value).load w' slot' =
      if (w', slot') = (w, slot) then value else m.load w' slot' := by
  rw [load_eq, window_store]
  by_cases hw : w' = w
  · subst hw
    simp only [if_true, List.getD_eq_getElem?_getD, List.getElem?_set, Prod.mk.injEq, true_and]
    by_cases hsame : slot' = slot
    · rw [if_pos hsame.symm, if_pos hsame, if_pos hslot]
      rfl
    · rw [if_neg (Ne.symm hsame), if_neg hsame, load_eq, List.getD_eq_getElem?_getD]
  · rw [if_neg hw, if_neg fun h => hw (congrArg Prod.fst h), load_eq]

/-- **The memory holds what a record says**, and its windows have the shape that the record takes
them to have. -/
structure Records (m : Mmio) (j : Journal shape) : Prop where
  lossless : shape.Lossless
  size : ∀ w : Window, (m.window w).slots.length = shape.size w
  shift : ∀ w : Window, (m.window w).strideShift = shape.shift w
  value : ∀ w slot, m.load w slot = j.last (w, slot)

theorem records_zeroed (hlossless : shape.Lossless) :
    shape.zeroed.Records (⟨[]⟩ : Journal shape) where
  lossless := hlossless
  size w := by rw [Shape.window_zeroed, MmioWindow.zeroed, List.length_replicate]
  shift w := by rw [Shape.window_zeroed, MmioWindow.zeroed]
  value w slot := by
    rw [load_eq, Shape.window_zeroed, MmioWindow.zeroed, List.getD_eq_getElem?_getD,
      List.getElem?_replicate]
    split <;> rfl

theorem Records.slot (h : m.Records j) (r : Register) :
    (m.window r.window).slot r.offset = .ok (shape.slot r) := by
  rw [MmioWindow.slot_eq (h.shift r.window ▸ h.lossless r.window), h.shift, Shape.slot]

/-- A register is found in its slot, or refused. -/
theorem Records.locate (h : m.Records j) (r : Register) :
    m.locate r = if shape.Contains r then .ok (shape.slot r) else .error (.outsideWindow r) := by
  rw [locate_eq, h.slot, h.size]
  rfl

theorem Records.load_store (h : m.Records j) (hr : shape.Contains r) (value : UInt32) (w : Window)
    (slot : Nat) : (m.store r.window (shape.slot r) value).load w slot =
      if (w, slot) = shape.place r then value else m.load w slot :=
  Mmio.load_store ((h.size r.window).symm ▸ hr) value w slot

theorem Records.store (h : m.Records j) (hr : shape.Contains r) (value : UInt32) :
    (m.store r.window (shape.slot r) value).Records (j.record r value) where
  lossless := h.lossless
  size w := by
    rw [window_store]
    split
    · rename_i hw
      rw [List.length_set, h.size, hw]
    · exact h.size w
  shift w := by
    rw [window_store]
    split
    · rename_i hw
      rw [h.shift, hw]
    · exact h.shift w
  value w slot := by rw [h.load_store hr, Journal.last_record, h.value]

theorem Records.answer_read (h : m.Records j) (hr : shape.Contains r) :
    RegisterFile.answer (.read r) m = .ok (j.last (shape.place r)) m := by
  simp only [RegisterFile.answer, RegisterFile.read, Mmio.read, h.locate, if_pos hr]
  exact congrArg (EStateM.Result.ok · m) (h.value r.window _)

theorem Records.answer_write (h : m.Records j) (hr : shape.Contains r) (value : UInt32) :
    RegisterFile.answer (.write r value) m = .ok () (m.store r.window (shape.slot r) value) := by
  simp only [RegisterFile.answer, RegisterFile.write, Mmio.write, h.locate, if_pos hr]
  rfl

theorem Records.answer_refused (h : m.Records j) {a : Access} (hr : ¬ shape.Contains a.register) :
    RegisterFile.answer a m = .error (.fault (.outsideWindow a.register)) m := by
  cases a with
  | read r =>
      simp only [Access.register] at hr
      simp only [RegisterFile.answer, RegisterFile.read, Mmio.read, h.locate, if_neg hr]
      rfl
  | write r value =>
      simp only [Access.register] at hr
      simp only [RegisterFile.answer, RegisterFile.write, Mmio.write, h.locate, if_neg hr]
      rfl

/-- **The memory answers an access as the record does**, goes on holding what the record says, and
leaves all other places alone. -/
theorem Records.agree_answer (h : m.Records j) (a : Access) :
    RegisterFile.Agree (fun (m' : Mmio) (j' : Journal shape) => m'.Records j' ∧
        ∀ w slot, (w, slot) ≠ shape.place a.register → m'.load w slot = m.load w slot)
      (RegisterFile.answer a m) (RegisterFile.answer a j) := by
  by_cases hr : shape.Contains a.register
  · cases a with
    | read r =>
        rw [h.answer_read (r := r) hr, Journal.answer_read (r := r) hr]
        exact .ok _ ⟨h, fun _ _ _ => rfl⟩
    | write r value =>
        rw [h.answer_write (r := r) hr, Journal.answer_write (r := r) hr]
        refine .ok () ⟨h.store hr value, fun w slot hplace => ?_⟩
        exact (h.load_store hr value w slot).trans (if_neg hplace)
  · rw [h.answer_refused hr, Journal.answer_refused hr]
    exact .error _ ⟨h, fun _ _ _ => rfl⟩

theorem Records.agree_step (step : Bench.RegisterStep) (h : m.Records j) :
    RegisterFile.Agree Records (step.run m) (step.run j) :=
  RegisterFile.agree_run (fun _ _ h a _ => (h.agree_answer a).mono fun _ _ => And.left)
    (Procedure.within_anything step.sequence) h

theorem Records.faults_iff (h : m.Records j) (step : Bench.RegisterStep) :
    (∃ halt m', step.run m = .error halt m') ↔ ∃ r ∈ step.registers, ¬ shape.Contains r :=
  (h.agree_step step).faults_iff.trans (j.faults_iff step)

/-- The memory holds what a record says, and a place in it a certain value. -/
def Shows (w : Window) (slot : Nat) (value : UInt32) (m : Mmio) (j : Journal shape) : Prop :=
  m.Records j ∧ m.load w slot = value

/-- A place that is none of the registers that a script accesses is left alone by it. -/
theorem Records.load_script (h : m.Records j) {steps : List Bench.RegisterStep} {w : Window}
    {slot : Nat} (hplace : ∀ step ∈ steps, ∀ r ∈ step.registers, (w, slot) ≠ shape.place r) :
    (Bench.runAllSteps Bench.RegisterStep.run steps m).2.load w slot = m.load w slot := by
  have hstep : ∀ step ∈ steps, ∀ m' (j' : Journal shape), Shows w slot (m.load w slot) m' j' →
      RegisterFile.Agree (Shows w slot (m.load w slot)) (step.run m') (step.run j') := by
    intro step hmem m' j' hshows
    refine RegisterFile.agree_run (fun m' _ hshows a ha => ?_)
      (Bench.RegisterStep.within_sequence (hplace step hmem)) hshows
    exact (hshows.1.agree_answer a).mono fun _ _ hafter =>
      ⟨hafter.1, (hafter.2 w slot ha).trans hshows.2⟩
  exact (Bench.RegisterStep.agree_runAllSteps hstep ⟨h, rfl⟩).2.2

/-! ### Independent registers -/

/-- **What the memory does with all that may follow**, if a record says what was written before.
The slot of a register is the exact quarter of its byte address.  A register in its window is read
as what was last written to its place, and nothing is changed by that; a write changes that place
and no other.  A register outside of its window is refused, and nothing is changed by that either.
So a step is refused exactly if one of the registers that it accesses lies outside of its window,
and whatever steps follow leave alone the places of all registers that they do not access. -/
structure Independent (m : Mmio) (j : Journal shape) : Prop where
  slot : ∀ r : Register, (m.window r.window).slot r.offset = .ok (shape.slot r)
  read : ∀ r, shape.Contains r →
    RegisterFile.answer (.read r) m = .ok (j.last (shape.place r)) m
  write : ∀ r value, shape.Contains r →
    ∃ m', RegisterFile.answer (.write r value) m = .ok () m' ∧
      ∀ w slot, m'.load w slot = if (w, slot) = shape.place r then value else m.load w slot
  refused : ∀ a : Access, ¬ shape.Contains a.register →
    RegisterFile.answer a m = .error (.fault (.outsideWindow a.register)) m
  faults : ∀ step : Bench.RegisterStep,
    (∃ halt m', step.run m = .error halt m') ↔ ∃ r ∈ step.registers, ¬ shape.Contains r
  apart : ∀ (steps : List Bench.RegisterStep) w slot,
    (∀ step ∈ steps, ∀ r ∈ step.registers, (w, slot) ≠ shape.place r) →
      (Bench.runAllSteps Bench.RegisterStep.run steps m).2.load w slot = m.load w slot

theorem Records.independent (h : m.Records j) : m.Independent j where
  slot := h.slot
  read _ hr := h.answer_read hr
  write _ value hr := ⟨_, h.answer_write hr value, h.load_store hr value⟩
  refused _ hr := h.answer_refused hr
  faults := h.faults_iff
  apart _ _ _ hplace := h.load_script hplace

/-- **Memory-mapped registers are independent.**  Memory that held zeros answers every script as a
record of its writes does, faults included, and goes on as such from where the script has led.  Two
registers of a window are one only if the same slot belongs to both, which never happens where
offsets are shifted by two positions or more, nor with offsets of whole words. -/
theorem independent_registers (hlossless : shape.Lossless) (steps : List Bench.RegisterStep) :
    (Bench.runAllSteps Bench.RegisterStep.run steps shape.zeroed).1 =
        (Bench.runAllSteps Bench.RegisterStep.run steps (⟨[]⟩ : Journal shape)).1 ∧
      (Bench.runAllSteps Bench.RegisterStep.run steps shape.zeroed).2.Independent
        (Bench.runAllSteps Bench.RegisterStep.run steps (⟨[]⟩ : Journal shape)).2 ∧
      ∀ (w : Window) (first second : UInt32), first ≠ second →
        (2 ≤ (shape.shift w).toNat ∨ 4 ∣ first.toNat ∧ 4 ∣ second.toNat) →
          shape.place ⟨w, first⟩ ≠ shape.place ⟨w, second⟩ := by
  have hstep : ∀ step ∈ steps, ∀ m (j : Journal shape), m.Records j →
      RegisterFile.Agree Records (step.run m) (step.run j) :=
    fun step _ _ _ hrecords => hrecords.agree_step step
  obtain ⟨hanswers, hrecords⟩ :=
    Bench.RegisterStep.agree_runAllSteps hstep (records_zeroed hlossless)
  refine ⟨hanswers, hrecords.independent, fun w first second hne hwords hplace => ?_⟩
  exact Shape.slot_ne hne hwords (congrArg Prod.snd hplace)

/-- Windows of sixteen slots; the offsets in the PHY's are register numbers. -/
def smallShape : Shape := ⟨fun _ => 16, fun w => if w = .phy then 2 else 0⟩

/-- Bits are set through one offset of a slot and read through another, and a program is refused
half-way. -/
def smallScript : List Bench.RegisterStep :=
  [.write ⟨.ddrc, 0x8⟩ 0x1200, .write ⟨.phy, 0x2⟩ 7, .set ⟨.ddrc, 0xb⟩ 0x34,
    .apply .clock [⟨0x4, 1⟩, ⟨0x40, 2⟩, ⟨0xc, 3⟩]]

/-- The entry after the one that was refused has not been written. -/
theorem independent_registers_small : smallShape.Lossless ∧
    (Bench.runAllSteps Bench.RegisterStep.run smallScript smallShape.zeroed).1 =
      [.ok (.ok none), .ok (.ok none), .ok (.ok none),
        .error (.fault (.outsideWindow ⟨.clock, 0x40⟩))] ∧
    ∃ m, (Bench.runAllSteps Bench.RegisterStep.run smallScript smallShape.zeroed).2 = m ∧
      RegisterFile.answer (.read ⟨.ddrc, 0x9⟩) m = .ok 0x1234 m ∧
      RegisterFile.answer (.read ⟨.clock, 0x4⟩) m = .ok 1 m ∧
      RegisterFile.answer (.read ⟨.clock, 0xc⟩) m = .ok 0 m := by
  have hlossless : smallShape.Lossless := by
    intro w
    cases w <;> decide
  obtain ⟨hanswers, hindependent, -⟩ := independent_registers hlossless smallScript
  exact ⟨hlossless, hanswers.trans rfl, _, rfl, (hindependent.read _ (by decide)).trans rfl,
    (hindependent.read _ (by decide)).trans rfl, (hindependent.read _ (by decide)).trans rfl⟩

end Mmio

end Reclock
