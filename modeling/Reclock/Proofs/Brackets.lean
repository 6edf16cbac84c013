/-
**Programming brackets.**

The controller ignores writes to its quasi-dynamic registers unless software-done is clear, and the
PHY's registers are out of reach unless software owns their bus.  So every such access stands in a
bracket of its kind.  A bracket of the controller is over only once its closing was acknowledged,
and nothing happens in between.

Every event has a gate, which sees the events before it, and a record is in order if every event
passes.  Nothing is assumed of the hardware, which may return anything for any read; of the table
only that its programs leave the registers alone that the brackets are made of.

Main definitions:

* `Reclock.Trace.Open`, `Closing`, `Shut` — the phases of a bracket of the controller;
* `Reclock.Trace.Owned`, `BusFree` — those of a bracket of the PHY;
* `Reclock.Controller.bracketGate` — **the order**, as a gate for every access.

Main results:

* `Reclock.Controller.attains_quasiDynamic`, `attains_withBus` — a bracket is left as it was found;
* `Reclock.Controller.brackets_kept` — **every operation keeps to the brackets**, and leaves none
  open when it succeeds.
-/

import Reclock.Proofs.Attainment
import Reclock.Proofs.PowerCycle
import Reclock.Proofs.Runs

set_option relaxedAutoImplicit false
set_option autoImplicit false

namespace Reclock

/-! ### Registers in brackets -/

/-- The registers of the controller that are written only in brackets, whatever the table says. -/
def Ddrc.quasiDynamic : List Register := [rfshctl3, zqctl0, mstr2, dfimisc]

/-- The registers that a mode register write is made by. -/
def Ddrc.modeControls : List Register := [mrctrl0, mrctrl1]

/-- A register of the PHY that is out of reach unless software owns the bus. -/
def Register.Guarded (r : Register) : Prop := r.window = .phy ∧ r ∉ Phy.alwaysReachable

instance (r : Register) : Decidable r.Guarded := inferInstanceAs (Decidable (_ ∧ _))

/-- **The programs of the table leave the registers alone that the brackets are made of.** -/
structure TimingTable.SparesBrackets (t : TimingTable) : Prop where
  /-- No controller program writes software-done. -/
  controller : ∀ timings ∈ t.points, Ddrc.swctl ∉ timings.controller.registers .ddrc
  /-- No PHY program writes the owner of the bus. -/
  phy : ∀ timings ∈ t.points, Phy.busOwner ∉ timings.phyInit.registers .phy ∧
    Phy.busOwner ∉ timings.phyTrained.registers .phy ∧
      Phy.busOwner ∉ timings.phyEngine.registers .phy

/-- A table that keeps clear of the reserved registers does so of these. -/
theorem TimingTable.KeepsClear.sparesBrackets {t : TimingTable} (h : t.KeepsClear) :
    t.SparesBrackets where
  controller timings htimings hmem := (h timings htimings).parts.1 _ hmem
    (Register.mem_reserved_of_named (by decide))
  phy timings htimings := by
    have hreserved : Phy.busOwner ∈ Register.reserved :=
      Register.mem_reserved_of_reachable (by decide)
    obtain ⟨-, hinit, htrained, hengine⟩ := (h timings htimings).parts
    exact ⟨fun hmem => hinit _ hmem hreserved, fun hmem => htrained _ hmem hreserved,
      fun hmem => hengine _ hmem hreserved⟩

namespace Trace

/-! ### Phases -/

/-- The bracket of the controller is open: software-done was last cleared. -/
def Open (past : List Event) : Prop :=
  LastWrote past Ddrc.swctl fun v => v &&& Ddrc.swDone = 0

/-- The bracket is being closed: since software-done was set, nothing has happened but reads of the
acknowledge. -/
def Closing (past : List Event) : Prop :=
  ∃ before v values, past = before ++ .write Ddrc.swctl v :: Sequence.refused Ddrc.swstat values ∧
    v &&& Ddrc.swDone ≠ 0

/-- The last bracket was closed, and its closing acknowledged before anything else happened. -/
def Closed (past : List Event) : Prop :=
  ∃ before v values w after,
    past = before ++ .write Ddrc.swctl v :: Sequence.refused Ddrc.swstat values ++
      .read Ddrc.swstat w :: after ∧
    v &&& Ddrc.swDone ≠ 0 ∧ w &&& Ddrc.swDoneAck ≠ 0 ∧ ∀ e ∈ after, written? Ddrc.swctl e = none

/-- No bracket of the controller has been opened, or the last one is closed. -/
def Shut (past : List Event) : Prop :=
  (∀ e ∈ past, written? Ddrc.swctl e = none) ∨ Closed past

/-- Software owns the bus to the PHY's registers. -/
def Owned (past : List Event) : Prop :=
  LastWrote past Phy.busOwner fun v => v = Phy.ownedBySoftware

/-- The bus was never taken, or given back. -/
def BusFree (past : List Event) : Prop :=
  (∀ e ∈ past, written? Phy.busOwner e = none) ∨
    LastWrote past Phy.busOwner fun v => v = Phy.ownedByPhy

/-- **No bracket of either kind is open.** -/
def Outside (past : List Event) : Prop := Shut past ∧ BusFree past

/-- The last event was a read of the register. -/
def JustRead (past : List Event) (r : Register) : Prop := ∃ before v, past = before ++ [.read r v]

/-- The last event was a write of the register, with a value that satisfies the condition. -/
def JustWrote (past : List Event) (r : Register) (condition : UInt32 → Prop) : Prop :=
  ∃ before v, past = before ++ [.write r v] ∧ condition v

/-- A mode register write is under way: since the controller was asked whether it is idle, only
the registers that such a write is made by have been written. -/
def ModeWriting (past : List Event) : Prop :=
  ∃ before v writes, past = before ++ .read Ddrc.mrstat v :: writes ∧
    ∀ e ∈ writes, ∃ r ∈ Ddrc.modeControls, ∃ w, e = .write r w

variable {past more : List Event} {r : Register}

theorem Shut.append (h : Shut past) (hmore : ∀ e ∈ more, written? Ddrc.swctl e = none) :
    Shut (past ++ more) := by
  rcases h with h | ⟨before, v, values, w, after, rfl, hv, hw, hafter⟩
  · exact Or.inl (List.forall_mem_append.2 ⟨h, hmore⟩)
  · refine Or.inr ⟨before, v, values, w, after ++ more, by simp, hv, hw, ?_⟩
    exact List.forall_mem_append.2 ⟨hafter, hmore⟩

theorem BusFree.append (h : BusFree past) (hmore : ∀ e ∈ more, written? Phy.busOwner e = none) :
    BusFree (past ++ more) :=
  h.imp (fun h => List.forall_mem_append.2 ⟨h, hmore⟩) fun h => h.append hmore

/-- What is shut is not open. -/
theorem Shut.not_open (h : Shut past) : ¬ Open past := by
  rintro ⟨u, hu, hclear⟩
  rcases h with h | ⟨before, v, values, w, after, rfl, hv, -, hafter⟩
  · rw [List.filterMap_eq_nil_iff.2 h] at hu
    cases hu
  · -- The last write of software-done is that of the closing.
    have hrefused : (Sequence.refused Ddrc.swstat values).filterMap (written? Ddrc.swctl) = [] :=
      List.filterMap_eq_nil_iff.2 fun e => Sequence.written?_of_mem_refused
    have hnone : after.filterMap (written? Ddrc.swctl) = [] := List.filterMap_eq_nil_iff.2 hafter
    have hlast : v = u := by
      simpa [List.filterMap_append, List.filterMap_cons, hrefused, hnone, written?] using hu
    exact hv (hlast ▸ hclear)

theorem Outside.append (h : Outside past) (hswctl : ∀ e ∈ more, written? Ddrc.swctl e = none)
    (howner : ∀ e ∈ more, written? Phy.busOwner e = none) : Outside (past ++ more) :=
  ⟨h.1.append hswctl, h.2.append howner⟩

theorem Outside.read (h : Outside past) (r : Register) (v : UInt32) :
    Outside (past ++ [.read r v]) :=
  h.append (by simp [written?]) (by simp [written?])

theorem Outside.write (h : Outside past) (hswctl : r ≠ Ddrc.swctl)
    (howner : r ≠ Phy.busOwner) (v : UInt32) :
    Outside (past ++ [.write r v]) :=
  h.append (by simp [written?, hswctl]) (by simp [written?, howner])

theorem Outside.refused (h : Outside past) (r : Register) (values : List UInt32) :
    Outside (past ++ Sequence.refused r values) :=
  h.append (fun _ => Sequence.written?_of_mem_refused) fun _ => Sequence.written?_of_mem_refused

end Trace

/-! ### The gates -/

namespace Controller

open Sequence Sequences Trace

/-- The next entry of a controller program is due, in a bracket that was opened for it. -/
def Applying (c : Controller) (past : List Event) (r : Register) (v : UInt32) : Prop :=
  ∃ timings ∈ c.table.points, ∃ done entry rest before w,
    timings.controller = done ++ entry :: rest ∧ r = ⟨.ddrc, entry.offset⟩ ∧ v = entry.value ∧
      past = before ++ .write Ddrc.swctl w :: RegisterProgram.writes .ddrc done ∧
        w &&& Ddrc.swDone = 0

/-- **What may be read**, given the events before. -/
structure MayRead (past : List Event) (r : Register) : Prop where
  /-- Inside a bracket of the controller nothing but its own registers is read, and while it is
  closed only the acknowledge. -/
  phase : Shut past ∨ Closing past ∧ r = Ddrc.swstat ∨
    Open past ∧ r ∈ Ddrc.swctl :: Ddrc.dfistat :: Ddrc.quasiDynamic
  /-- Registers of the PHY are read only while software owns the bus. -/
  owned : r.Guarded → Owned past

/-- **What may be written**, given the events before. -/
structure MayWrite (c : Controller) (past : List Event) (r : Register) (v : UInt32) : Prop where
  /-- Nothing is written before the closing of a bracket was acknowledged. -/
  phase : Shut past ∨ Open past
  /-- Brackets of the controller do not nest. -/
  opens : r = Ddrc.swctl → v &&& Ddrc.swDone = 0 → Shut past
  /-- Only an open bracket is closed. -/
  closes : r = Ddrc.swctl → v &&& Ddrc.swDone ≠ 0 → Open past
  /-- Quasi-dynamic registers are written only inside a bracket. -/
  quasiDynamic : r ∈ Ddrc.quasiDynamic → Open past
  /-- Inside a bracket nothing is written but them and the entries of a program. -/
  inside : Open past →
    r = Ddrc.swctl ∨ r ∈ Ddrc.quasiDynamic ∧ JustRead past r ∨ c.Applying past r v
  /-- Outside, registers of the controller are only modified, or written for a mode register: no
  entry of a program is applied there. -/
  outside : Shut past → r.window = .ddrc →
    JustRead past r ∨ r ∈ Ddrc.modeControls ∧ ModeWriting past
  /-- Registers of the PHY are written only while software owns the bus. -/
  owned : r.Guarded → Owned past
  /-- The bus is taken only when it is free, and given back only when it was taken. -/
  owner : r = Phy.busOwner →
    v = Phy.ownedBySoftware ∧ BusFree past ∨ v = Phy.ownedByPhy ∧ Owned past

/-- **The order of the accesses of an operation**, as a gate for each. -/
def bracketGate (c : Controller) : List Event → Event → Prop := accessGate MayRead c.MayWrite

variable {c : Controller} {α : Type} {past : List Event} {r : Register} {v : UInt32}

/-! ### Accesses outside of brackets -/

/-- A register that may be accessed outside of brackets. -/
def Plain (r : Register) : Prop :=
  r ≠ Ddrc.swctl ∧ r ≠ Phy.busOwner ∧ r ∉ Ddrc.quasiDynamic ∧ ¬ r.Guarded

instance (r : Register) : Decidable (Plain r) := inferInstanceAs (Decidable (_ ∧ _))

theorem plain_pctrl (port : UInt8) : Plain (Ddrc.pctrl port) := by
  have hne : ∀ r ∈ Ddrc.swctl :: Ddrc.quasiDynamic, Ddrc.pctrl port ≠ r := fun r hr =>
    Ddrc.pctrl_ne (fun _ => by revert r; decide) port
  refine ⟨hne _ (List.mem_cons_self ..), nofun, fun h => ?_, fun h => nomatch h.1⟩
  exact hne _ (List.mem_cons_of_mem _ h) rfl

theorem mayRead_of_shut (h : Shut past) (hr : ¬ r.Guarded) : MayRead past r :=
  ⟨Or.inl h, fun hguarded => absurd hguarded hr⟩

theorem mayWrite_of_plain (h : Shut past) (hr : Plain r)
    (hwindow : r.window = .ddrc → JustRead past r ∨ r ∈ Ddrc.modeControls ∧ ModeWriting past) :
    c.MayWrite past r v where
  phase := Or.inl h
  opens heq := absurd heq hr.1
  closes heq := absurd heq hr.1
  quasiDynamic hmem := absurd hmem hr.2.2.1
  inside hopen := absurd hopen h.not_open
  outside _ := hwindow
  owned hguarded := absurd hguarded hr.2.2.2
  owner heq := absurd heq hr.2.1

theorem attains_plain_wait {condition : UInt32 → Bool} (hr : ¬ r.Guarded) :
    Attains c.bracketGate (wait c.config r condition) Outside Outside :=
  attains_wait (fun _ values _ h => mayRead_of_shut (h.refused r values).1 hr)
    fun _ values v h _ => (h.refused r values).read r v

theorem attains_plain_modify {f : UInt32 → UInt32} (hr : Plain r) :
    Attains c.bracketGate (modify r f : Timed Unit) Outside Outside := by
  refine attains_modify (fun past v h => mayRead_of_shut h.1 hr.2.2.2) (fun past v h => ?_)
    fun past v h => (h.read r v).write hr.1 hr.2.1 _
  exact mayWrite_of_plain (h.read r v).1 hr fun _ => Or.inl ⟨past, v, rfl⟩

theorem attains_plain_write (hr : Plain r) (hwindow : r.window ≠ .ddrc) :
    Attains c.bracketGate (write r v : Timed Unit) Outside Outside :=
  attains_write (fun _ h => mayWrite_of_plain h.1 hr fun heq => absurd heq hwindow)
    fun _ h => h.write hr.1 hr.2.1 v

/-! ### Brackets -/

/-- What the body of a bracket of the controller finds. -/
def Opened (past : List Event) : Prop :=
  BusFree past ∧ JustWrote past Ddrc.swctl fun v => v &&& Ddrc.swDone = 0

/-- What holds inside a bracket of the controller. -/
def Inside (past : List Event) : Prop := BusFree past ∧ Open past

/-- What holds when a bracket of the controller is about to be over. -/
def Left (past : List Event) : Prop :=
  BusFree past ∧ JustWrote past Ddrc.swctl fun v => v &&& Ddrc.swDone ≠ 0

theorem Opened.inside (h : Opened past) : Inside past := by
  obtain ⟨hfree, before, v, rfl, hv⟩ := h
  exact ⟨hfree, lastWrote_write _ _ hv⟩

theorem Inside.append {more : List Event} (h : Inside past)
    (hswctl : ∀ e ∈ more, written? Ddrc.swctl e = none)
    (howner : ∀ e ∈ more, written? Phy.busOwner e = none) : Inside (past ++ more) :=
  ⟨h.1.append howner, h.2.append hswctl⟩

/-- Changing software-done leaves the bus alone. -/
theorem busFree_swctl (h : BusFree past) (v w : UInt32) :
    BusFree (past ++ [.read Ddrc.swctl v] ++ [.write Ddrc.swctl w]) :=
  (h.append (by simp [written?])).append (by simp [written?, Ddrc.swctl, Phy.busOwner])

theorem attains_open : Attains c.bracketGate (clearBits Ddrc.swctl Ddrc.swDone : Timed Unit)
    Outside Opened := by
  refine attains_modify (fun past v h => mayRead_of_shut h.1 (by decide)) (fun past v h => ?_)
    fun past v h => ⟨busFree_swctl h.2 _ _, _, _, rfl, Word.clear_and v _⟩
  have hshut : Shut (past ++ [.read Ddrc.swctl v]) := (h.read _ v).1
  exact {
    phase := Or.inl hshut
    opens := fun _ _ => hshut
    closes := fun _ hset => absurd (Word.clear_and v _) hset
    quasiDynamic := fun hmem => absurd hmem (by decide)
    inside := fun hopen => absurd hopen hshut.not_open
    outside := fun _ _ => Or.inl ⟨past, v, rfl⟩
    owned := fun hguarded => absurd hguarded (by decide)
    owner := fun howner => absurd howner (by decide) }

theorem attains_close : Attains c.bracketGate (setBits Ddrc.swctl Ddrc.swDone : Timed Unit)
    Inside Left := by
  have hset : ∀ v : UInt32, (v ||| Ddrc.swDone) &&& Ddrc.swDone ≠ 0 := fun v =>
    Word.set_and_ne_zero v (by decide)
  refine attains_modify (fun past v h => ?_) (fun past v h => ?_)
    fun past v h => ⟨busFree_swctl h.1 _ _, _, _, rfl, hset v⟩
  · exact ⟨Or.inr (Or.inr ⟨h.2, by decide⟩), fun hguarded => absurd hguarded (by decide)⟩
  · have hopen : Open (past ++ [.read Ddrc.swctl v]) := h.2.append (by simp [written?])
    exact {
      phase := Or.inr hopen
      opens := fun _ hclear => absurd hclear (hset v)
      closes := fun _ _ => hopen
      quasiDynamic := fun hmem => absurd hmem (by decide)
      inside := fun _ => Or.inl rfl
      outside := fun hshut => absurd hopen hshut.not_open
      owned := fun hguarded => absurd hguarded (by decide)
      owner := fun howner => absurd howner (by decide) }

theorem attains_acknowledge :
    Attains c.bracketGate (wait c.config Ddrc.swstat (anySet Ddrc.swDoneAck)) Left Outside := by
  refine attains_wait ?_ ?_
  · rintro past values w ⟨-, before, v, rfl, hv⟩
    refine ⟨Or.inr (Or.inl ⟨⟨before, v, values, by simp, hv⟩, rfl⟩), ?_⟩
    exact fun hguarded => absurd hguarded (by decide)
  · rintro past values w ⟨hfree, before, v, rfl, hv⟩ hw
    have hack : w &&& Ddrc.swDoneAck ≠ 0 := by simpa [anySet] using hw
    refine ⟨Or.inr ⟨before, v, values, w, [], by simp, hv, hack,
      List.forall_mem_nil _⟩, ?_⟩
    exact (hfree.append fun _ => written?_of_mem_refused).append (by simp [written?])

/-- **A bracket of the controller**, around a body that stays inside. -/
theorem attains_quasiDynamic {body : Timed Unit}
    (hbody : Attains c.bracketGate body Opened Inside) :
    Attains c.bracketGate (quasiDynamic c.config body) Outside Outside :=
  attains_open.bind fun _ => hbody.bind fun _ => attains_close.bind fun _ => attains_acknowledge

/-- Inside a bracket of the controller, the quasi-dynamic registers may be modified. -/
theorem attains_quasi_modify {f : UInt32 → UInt32} (hr : r ∈ Ddrc.quasiDynamic) :
    Attains c.bracketGate (modify r f : Timed Unit) Inside Inside := by
  have hnot : ∀ r ∈ Ddrc.quasiDynamic, r ≠ Ddrc.swctl ∧ r ≠ Phy.busOwner ∧ ¬ r.Guarded := by
    decide
  obtain ⟨hswctl, howner, hguarded⟩ := hnot r hr
  refine attains_modify (fun past v h => ?_) (fun past v h => ?_) fun past v h => ?_
  · exact ⟨Or.inr (Or.inr ⟨h.2, List.mem_cons_of_mem _ (List.mem_cons_of_mem _ hr)⟩),
      fun hg => absurd hg hguarded⟩
  · have hopen : Open (past ++ [.read r v]) := h.2.append (by simp [written?])
    exact {
      phase := Or.inr hopen
      opens := fun heq => absurd heq hswctl
      closes := fun heq => absurd heq hswctl
      quasiDynamic := fun _ => hopen
      inside := fun _ => Or.inr (Or.inl ⟨hr, past, v, rfl⟩)
      outside := fun hshut => absurd hopen hshut.not_open
      owned := fun hg => absurd hg hguarded
      owner := fun heq => absurd heq howner }
  · rw [List.append_assoc]
    exact h.append (by simp [written?, hswctl]) (by simp [written?, howner])

/-- Inside a bracket of the controller, the completion of initialisation may be polled. -/
theorem attains_dfistat_wait {condition : UInt32 → Bool} :
    Attains c.bracketGate (wait c.config Ddrc.dfistat condition) Inside Inside := by
  have hrefused : ∀ past values, Inside past → Inside (past ++ refused Ddrc.dfistat values) :=
    fun past values h => h.append (fun _ => written?_of_mem_refused) fun _ =>
      written?_of_mem_refused
  refine attains_wait (fun past values v h => ?_) fun past values v h _ => ?_
  · exact ⟨Or.inr (Or.inr ⟨(hrefused past values h).2, by decide⟩),
      fun hguarded => absurd hguarded (by decide)⟩
  · exact (hrefused past values h).append (by simp [written?]) (by simp [written?])

/-- Inside a bracket of the controller, a program of the table may be applied. -/
theorem attains_controller_program (hspares : c.table.SparesBrackets) {timings : PointTimings}
    (htimings : timings ∈ c.table.points) :
    Attains c.bracketGate (applyProgram .ddrc timings.controller : Timed Unit) Opened Inside := by
  have hswctl := hspares.controller timings htimings
  refine attains_applyProgram ?_ fun past h => ?_
  · rintro past done entry rest ⟨-, before, w, rfl, hw⟩ hprogram
    have hentry : (⟨.ddrc, entry.offset⟩ : Register) ≠ Ddrc.swctl := by
      intro heq
      refine hswctl (heq ▸ List.mem_map_of_mem ?_)
      simp [hprogram]
    have hdone : Ddrc.swctl ∉ RegisterProgram.registers .ddrc done := by
      intro hmem
      rw [hprogram, RegisterProgram.registers_append] at hswctl
      exact hswctl (List.mem_append_left _ hmem)
    have hopened : Open (before ++ [.write Ddrc.swctl w]) := lastWrote_write _ _ hw
    have hopen : Open (before ++ [.write Ddrc.swctl w] ++ RegisterProgram.writes .ddrc done) :=
      hopened.append fun _ => RegisterProgram.written?_of_mem_writes hdone
    exact {
      phase := Or.inr hopen
      opens := fun heq => absurd heq hentry
      closes := fun heq => absurd heq hentry
      quasiDynamic := fun _ => hopen
      inside := fun _ => Or.inr (Or.inr ⟨timings, htimings, done, entry, rest, before, w,
        hprogram, rfl, rfl, by simp, hw⟩)
      outside := fun hshut => absurd hopen hshut.not_open
      owned := fun hguarded => nomatch hguarded.1
      owner := nofun }
  · refine h.inside.append (fun _ => RegisterProgram.written?_of_mem_writes hswctl) fun _ => ?_
    exact RegisterProgram.written?_of_window (by decide)

/-! ### The bus to the PHY -/

/-- What holds while software owns the bus. -/
def Holding (past : List Event) : Prop := Shut past ∧ Owned past

theorem Holding.append {more : List Event} (h : Holding past)
    (hswctl : ∀ e ∈ more, written? Ddrc.swctl e = none)
    (howner : ∀ e ∈ more, written? Phy.busOwner e = none) : Holding (past ++ more) :=
  ⟨h.1.append hswctl, h.2.append howner⟩

/-- What may be written to the window of the PHY. -/
theorem mayWrite_phy (hshut : Shut past) (hr : r.window = .phy) (howned : r.Guarded → Owned past)
    (howner : r = Phy.busOwner →
      v = Phy.ownedBySoftware ∧ BusFree past ∨ v = Phy.ownedByPhy ∧ Owned past) :
    c.MayWrite past r v := by
  have hne : ∀ {s : Register}, s.window = .ddrc → r ≠ s := fun hs =>
    ne_of_apply_ne Register.window (by simp [hr, hs])
  exact {
    phase := Or.inl hshut
    opens := fun heq => absurd heq (hne rfl)
    closes := fun heq => absurd heq (hne rfl)
    quasiDynamic := fun hmem => by
      have hwindow : ∀ r ∈ Ddrc.quasiDynamic, r.window = .ddrc := by decide
      exact absurd rfl (hne (hwindow r hmem))
    inside := fun hopen => absurd hopen hshut.not_open
    outside := fun _ hddrc => by
      rw [hr] at hddrc
      cases hddrc
    owned := howned
    owner := howner }

/-- **A bracket of the PHY**, around a body that leaves the bus with software. -/
theorem attains_withBus {α : Type} {body : Timed α}
    (hbody : Attains c.bracketGate body Holding Holding) :
    Attains c.bracketGate (withBus body) Outside Outside := by
  have hunguarded : ¬ Phy.busOwner.Guarded := by decide
  have htakes : Attains c.bracketGate
      (Sequence.write Phy.busOwner Phy.ownedBySoftware : Timed Unit) Outside Holding := by
    refine attains_write (fun past h => ?_) fun past h => ⟨?_, lastWrote_write _ _ rfl⟩
    · exact mayWrite_phy h.1 rfl (fun hg => absurd hg hunguarded) fun _ => Or.inl ⟨rfl, h.2⟩
    · exact h.1.append (by simp [written?, Phy.busOwner, Ddrc.swctl])
  have hreturns : Attains c.bracketGate
      (Sequence.write Phy.busOwner Phy.ownedByPhy : Timed Unit) Holding Outside := by
    refine attains_write (fun past h => ?_) fun past h => ⟨?_, Or.inr (lastWrote_write _ _ rfl)⟩
    · exact mayWrite_phy h.1 rfl (fun hg => absurd hg hunguarded) fun _ => Or.inr ⟨rfl, h.2⟩
    · exact h.1.append (by simp [written?, Phy.busOwner, Ddrc.swctl])
  refine htakes.bind fun _ => hbody.bind fun result => hreturns.bind fun _ => ?_
  exact attains_done result fun _ => id

/-- While software owns the bus, a program that does not name its owner may be applied. -/
theorem attains_phy_program {program : RegisterProgram}
    (hprogram : Phy.busOwner ∉ program.registers .phy) :
    Attains c.bracketGate (applyProgram .phy program : Timed Unit) Holding Holding := by
  have hkeeps : ∀ past part, Phy.busOwner ∉ RegisterProgram.registers .phy part →
      Holding past → Holding (past ++ RegisterProgram.writes .phy part) := fun past part hpart h =>
    h.append (fun _ => RegisterProgram.written?_of_window (by decide)) fun _ =>
      RegisterProgram.written?_of_mem_writes hpart
  refine attains_applyProgram (fun past done entry rest h heq => ?_) fun past h => ?_
  · rw [heq, RegisterProgram.registers_append] at hprogram
    have hdone := hkeeps past done (fun hmem => hprogram (List.mem_append_left _ hmem)) h
    refine mayWrite_phy hdone.1 rfl (fun _ => hdone.2) fun howner => absurd ?_ hprogram
    exact List.mem_append_right _ (howner ▸ List.mem_cons_self ..)
  · exact hkeeps past program hprogram h

/-- While software owns the bus, any register of the PHY may be read. -/
theorem attains_phy_reads (offsets : List RegisterValue) :
    Attains c.bracketGate
      (.collect offsets fun entry => Sequence.read ⟨.phy, entry.offset⟩ : Timed (List UInt32))
      Holding Holding := by
  have hreads : (Procedure.collect offsets fun entry =>
      Sequence.read ⟨.phy, entry.offset⟩ : Timed (List UInt32)).Within fun a => ∃ r, a = .read r :=
    Procedure.within_collect fun entry _ => ⟨⟨_, rfl⟩, fun _ => trivial⟩
  refine attains_of_within hreads ?_ ?_
  · rintro past _ v h ⟨r, rfl⟩
    exact h.append (by simp [Event.ofAccess, written?]) (by simp [Event.ofAccess, written?])
  · rintro past _ v h ⟨r, rfl⟩
    exact ⟨Or.inl h.1, fun _ => h.2⟩

/-! ### The steps -/

theorem attains_disablePorts :
    Attains c.bracketGate (disablePorts c.config) Outside Outside := by
  refine (attains_forEach fun port _ => ?_).bind fun _ => attains_plain_wait (by decide)
  exact attains_plain_modify (plain_pctrl port)

theorem attains_enablePorts : Attains c.bracketGate (enablePorts c.config) Outside Outside :=
  attains_forEach fun port _ => attains_plain_modify (plain_pctrl port)

/-- Two modifications of quasi-dynamic registers in one bracket. -/
theorem attains_quasi_pair {s : Register} {f g : UInt32 → UInt32} (hr : r ∈ Ddrc.quasiDynamic)
    (hs : s ∈ Ddrc.quasiDynamic) :
    Attains c.bracketGate (quasiDynamic c.config do
      modify r f
      modify s g) Outside Outside := by
  refine attains_quasiDynamic (Attains.mono ?_ (fun _ => Opened.inside) fun _ => id)
  exact (attains_quasi_modify hr).bind fun _ => attains_quasi_modify hs

theorem attains_enterSelfRefresh :
    Attains c.bracketGate (enterSelfRefresh c.config) Outside Outside := by
  refine (attains_quasi_pair (by decide) (by decide)).bind fun _ => ?_
  exact (attains_plain_modify (by decide)).bind fun _ => attains_plain_wait (by decide)

theorem attains_exitSelfRefresh :
    Attains c.bracketGate (exitSelfRefresh c.config) Outside Outside := by
  refine (attains_quasi_pair (by decide) (by decide)).bind fun _ => ?_
  exact (attains_plain_modify (by decide)).bind fun _ => attains_plain_wait (by decide)

theorem attains_writeModeRegisters (program : RegisterProgram) :
    Attains c.bracketGate (writeModeRegisters c.config program) Outside Outside := by
  have hidle : Attains c.bracketGate (waitModeIdle c.config) Outside
      fun past => Outside past ∧ ModeWriting past := by
    refine attains_wait (fun past values v h => ?_) fun past values v h _ => ?_
    · exact mayRead_of_shut (h.refused _ values).1 (by decide)
    · exact ⟨(h.refused _ values).read _ v, _, v, [], rfl, List.forall_mem_nil _⟩
  have hwrite : ∀ r ∈ Ddrc.modeControls, ∀ v, Attains c.bracketGate
      (Sequence.write r v : Timed Unit) (fun past => Outside past ∧ ModeWriting past)
      fun past => Outside past ∧ ModeWriting past := by
    intro r hr v
    have hplain : ∀ r ∈ Ddrc.modeControls, Plain r := by decide
    refine attains_write (fun past h => ?_) ?_
    · exact mayWrite_of_plain h.1.1 (hplain r hr) fun _ => Or.inr ⟨hr, h.2⟩
    · rintro past ⟨hout, before, u, writes, rfl, hwrites⟩
      refine ⟨hout.write (hplain r hr).1 (hplain r hr).2.1 v, before, u, writes ++ [.write r v],
        by simp, List.forall_mem_append.2 ⟨hwrites, ?_⟩⟩
      exact fun e he => ⟨r, hr, v, List.mem_singleton.1 he⟩
  refine (attains_forEach fun entry _ => ?_).bind fun _ =>
    hidle.mono (fun _ => id) fun _ => And.left
  refine hidle.bind fun _ => (hwrite _ (by decide) _).bind fun _ => ?_
  refine (hwrite _ (by decide) _).bind fun _ => ?_
  exact (hwrite _ (by decide) _).mono (fun _ => id) fun _ => And.left

theorem attains_halt : Attains c.bracketGate (halt c.config) Outside Outside :=
  (attains_plain_modify (by decide)).bind fun _ => attains_plain_wait (by decide)

theorem attains_selectFrequency (index : FrequencyIndex) :
    Attains c.bracketGate (selectFrequency c.config index) Outside Outside :=
  attains_quasi_pair (by decide) (by decide)

theorem attains_loadController (hspares : c.table.SparesBrackets) {timings : PointTimings}
    (htimings : timings ∈ c.table.points) :
    Attains c.bracketGate (loadController c.config timings) Outside Outside :=
  attains_quasiDynamic (attains_controller_program hspares htimings)

theorem attains_loadPrograms (hspares : c.table.SparesBrackets) {timings : PointTimings}
    (htimings : timings ∈ c.table.points) :
    Attains c.bracketGate (loadPrograms c.config timings) Outside Outside := by
  obtain ⟨hinit, htrained, -⟩ := hspares.phy timings htimings
  refine (attains_loadController hspares htimings).bind fun _ => attains_withBus ?_
  exact (attains_phy_program hinit).bind fun _ => attains_phy_program htrained

theorem attains_switchClock (point : FrequencyPoint) :
    Attains c.bracketGate (switchClock c.config point) Outside Outside := by
  unfold switchClock
  split
  · refine (attains_plain_modify (by decide)).bind fun _ => ?_
    exact (attains_plain_wait (by decide)).bind fun _ => attains_plain_modify (by decide)
  · refine (attains_plain_modify (by decide)).bind fun _ => ?_
    refine (attains_plain_write (by decide) (by decide)).bind fun _ => ?_
    refine (attains_plain_modify (by decide)).bind fun _ => ?_
    exact (attains_plain_wait (by decide)).bind fun _ => attains_plain_modify (by decide)

theorem attains_dfiInit : Attains c.bracketGate (dfiInit c.config) Outside Outside := by
  have hmodify : ∀ f, Attains c.bracketGate (modify Ddrc.dfimisc f : Timed Unit) Inside Inside :=
    fun f => attains_quasi_modify (by decide)
  refine attains_quasiDynamic (Attains.mono ?_ (fun _ => Opened.inside) fun _ => id)
  refine (hmodify _).bind fun _ => (hmodify _).bind fun _ => ?_
  refine attains_dfistat_wait.bind fun _ => (hmodify _).bind fun _ => ?_
  exact attains_dfistat_wait.bind fun _ => hmodify _

theorem attains_calibrateUnless (bypassed : Bool) :
    Attains c.bracketGate (calibrateUnless c.config bypassed) Outside Outside := by
  cases bypassed with
  | true => exact attains_done () fun _ => id
  | false =>
      refine (attains_plain_wait (by decide)).bind fun _ => ?_
      exact (attains_plain_modify (by decide)).bind fun _ => attains_plain_wait (by decide)

theorem attains_resume : Attains c.bracketGate resume Outside Outside :=
  attains_plain_modify (by decide)

/-! ### The sequences -/

theorem attains_switchPoint (hspares : c.table.SparesBrackets) {timings : PointTimings}
    (htimings : timings ∈ c.table.points) (leavingBypass : Bool) (point : FrequencyPoint) :
    Attains c.bracketGate (switchPoint c.config leavingBypass point timings) Outside Outside := by
  rw [switchPoint_eq]
  refine attains_disablePorts.bind fun _ => attains_enterSelfRefresh.bind fun _ => ?_
  refine (attains_writeModeRegisters _).bind fun _ => attains_halt.bind fun _ => ?_
  refine (attains_selectFrequency _).bind fun _ => ?_
  refine (attains_loadPrograms hspares htimings).bind fun _ => ?_
  refine (attains_switchClock point).bind fun _ => attains_dfiInit.bind fun _ => ?_
  refine (attains_calibrateUnless _).bind fun _ => attains_exitSelfRefresh.bind fun _ => ?_
  exact attains_resume.bind fun _ => attains_enablePorts

theorem attains_switchSpeed (speed : Speed) :
    Attains c.bracketGate (switchSpeed c.config speed) Outside Outside := by
  have hselect : Attains c.bracketGate (selectSpeed speed) Outside Outside := by
    cases speed with
    | full => exact attains_plain_modify (by decide)
    | half => exact attains_plain_modify (by decide)
  refine (attains_plain_wait (by decide)).bind fun _ => hselect.bind fun _ => ?_
  refine (attains_plain_modify (by decide)).bind fun _ => ?_
  refine (attains_plain_wait (by decide)).bind fun _ => ?_
  exact (attains_plain_modify (by decide)).bind fun _ => attains_plain_wait (by decide)

theorem attains_quietDown : Attains c.bracketGate (quietDown c.config) Outside Outside := by
  refine attains_disablePorts.bind fun _ => attains_enterSelfRefresh.bind fun _ => ?_
  refine attains_halt.bind fun _ => (attains_plain_modify (by decide)).bind fun _ => ?_
  exact attains_plain_wait (by decide)

theorem attains_readTrained (timings : PointTimings) :
    Attains c.bracketGate (readTrained timings) Outside Outside :=
  attains_withBus (attains_phy_reads _)

theorem attains_powerOff : Attains c.bracketGate (powerOff c.config) Outside Outside := by
  refine (attains_plain_write (by decide) (by decide)).bind fun _ => ?_
  refine (attains_plain_modify (by decide)).bind fun _ => ?_
  exact (attains_plain_wait (by decide)).bind fun _ => attains_plain_modify (by decide)

theorem attains_powerOn (point : FrequencyPoint) :
    Attains c.bracketGate (powerOn c.config point) Outside Outside := by
  refine (attains_plain_modify (by decide)).bind fun _ => ?_
  refine (attains_plain_wait (by decide)).bind fun _ => ?_
  refine (attains_plain_modify (by decide)).bind fun _ => ?_
  refine (attains_plain_modify (by decide)).bind fun _ => ?_
  refine (attains_plain_write (by decide) (by decide)).bind fun _ => ?_
  refine (attains_switchClock point).bind fun _ => ?_
  exact (attains_plain_modify (by decide)).bind fun _ => attains_plain_wait (by decide)

theorem attains_loadPhy (hspares : c.table.SparesBrackets) {timings : PointTimings}
    (htimings : timings ∈ c.table.points) (trained : Option (List UInt32)) :
    Attains c.bracketGate (loadPhy timings trained) Outside Outside := by
  obtain ⟨hinit, htrained, hengine⟩ := hspares.phy timings htimings
  refine attains_withBus ((attains_phy_program hinit).bind fun _ => ?_)
  refine (attains_phy_program fun h => htrained ?_).bind fun _ => attains_phy_program hengine
  exact mem_registers_of_trainedProgram h

theorem attains_powerUp (hspares : c.table.SparesBrackets) {timings : PointTimings}
    (htimings : timings ∈ c.table.points) (point : FrequencyPoint)
    (trained : Option (List UInt32)) :
    Attains c.bracketGate (powerUp c.config point timings trained) Outside Outside := by
  refine (attains_powerOn point).bind fun _ => ?_
  refine (attains_loadController hspares htimings).bind fun _ => ?_
  refine (attains_selectFrequency _).bind fun _ => attains_enterSelfRefresh.bind fun _ => ?_
  refine (attains_loadPhy hspares htimings trained).bind fun _ => ?_
  refine (attains_plain_modify (by decide)).bind fun _ => ?_
  refine (attains_plain_wait (by decide)).bind fun _ => ?_
  refine attains_dfiInit.bind fun _ => attains_exitSelfRefresh.bind fun _ => ?_
  exact attains_resume.bind fun _ => attains_enablePorts

/-! ### Operations -/

/-- **Every operation keeps to the brackets**: on every hardware, whatever it returns and wherever
the operation may end, every access of its record passes its gate; and an operation that succeeds
leaves no bracket of either kind open. -/
theorem brackets_kept {H : Type} [RegisterFile H] (hspares : c.table.SparesBrackets) (core : Nat)
    (request : Request) (s : System H) :
    Trace.Gated c.bracketGate (System.trace (c.operation core request) s) ∧
      ∀ s', System.run (c.operation core request) s = .ok (.ok ()) s' →
        Outside (System.trace (c.operation core request) s) := by
  have hsilent : ∀ past (e : Event), e.Silent → c.bracketGate past e := fun _ _ =>
    accessGate_of_silent
  have houtside : Outlasts Outside Event.Silent := fun past e he h =>
    h.append (by simpa using written?_of_silent he _) (by simpa using written?_of_silent he _)
  have hkeeps : (c.operation core request).Keeps (Operation.recorder c.bracketGate) []
      (Achieved Outside) := by
    refine recorder_operation_of hsilent houtside ?_ attains_switchSpeed attains_quietDown ?_
      attains_powerOff ?_ core request ⟨Or.inl nofun, Or.inl nofun⟩
    · exact fun timings htimings => attains_switchPoint hspares htimings
    · exact fun timings _ => attains_readTrained timings
    · exact fun timings htimings => attains_powerUp hspares htimings
  obtain ⟨-, hgated, hend⟩ := System.trace_recorded hkeeps s
  exact ⟨hgated, fun s' hrun => hend _ s' hrun () rfl⟩

/-- The sample board goes down through a bracket of each kind, and leaves none open. -/
theorem brackets_kept_going_down :
    Board.sampleTable.SparesBrackets ∧
      .write Ddrc.swctl 0 ∈ System.trace (Board.controller.operation 0 .enter) Board.boot ∧
      .write Phy.busOwner 0 ∈ System.trace (Board.controller.operation 0 .enter) Board.boot ∧
      Trace.Gated Board.controller.bracketGate
        (System.trace (Board.controller.operation 0 .enter) Board.boot) ∧
      Outside (System.trace (Board.controller.operation 0 .enter) Board.boot) := by
  have hspares : Board.controller.table.SparesBrackets :=
    Board.sampleTable_keepsClear.sparesBrackets
  obtain ⟨_, s', hrun, -⟩ : (Board.controller.operation 0 .enter).Completes System.answer
      Board.boot fun _ s => decide (s.retention.state = .retained) = true :=
    Procedure.completes_of_finished? (by decide +kernel)
  obtain ⟨hgated, hend⟩ := brackets_kept hspares 0 .enter Board.boot
  exact ⟨hspares, by decide +kernel, by decide +kernel, hgated, hend s' hrun⟩

end Controller

end Reclock
