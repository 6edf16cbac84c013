/-
**Mode registers are written one at a time.**

A mode register write takes a while, and a second one must not be started before the first has
ended.  The sequence polls before each start, for the write before, and once more after the last.
So between two starts there is exactly one poll that ended well, and then the data and the control
word of the entry; and a poll that runs out is the last thing that happens.

The record is cut at the starts: what matters to a start is what has happened since the one before.
The invariant of the loop is that nothing has, and that there are as many starts as entries done.
On the modelled hardware every poll ends well within three reads.

Main definitions:

* `Reclock.Trace.isStart`, `starts`, `sinceStart` — the starts in a record, and what follows the
  last of them;
* `Reclock.Sequences.Starts` — the control word of an entry, field by field;
* `Reclock.Sequences.startGate`, `ModeOutcome` — when a start is in order, and what the end of the
  sequence shows;
* `Reclock.Hardware.TakesModes` — hardware on which no mode register write is in the way.

Main results:

* `Reclock.Sequences.keeps_writeModeRegister`, `keeps_writeModeRegisters` — one entry, and a
  program, whatever is read;
* `Reclock.Hardware.TakesModes.completes_writeModeRegisters` — the modelled hardware gets every
  entry, in order;
* `Reclock.Sequences.modes_written_in_sequence` — **mode register writes never overlap, and a
  sequence that returns has made all of them**;
* `Reclock.Sequences.modes_unwritten_without_power` — the modelled hardware refuses them when it has
  been turned off.
-/

import Mathlib.Data.List.DropRight
import Mathlib.Data.Nat.Bitwise
import Reclock.Proofs.HardwareState
import Reclock.Proofs.Trace
import Reclock.Proofs.Words

set_option relaxedAutoImplicit false
set_option autoImplicit false

namespace Reclock

/-! ### Starts -/

namespace Trace

/-- Whether an event starts a mode register write. -/
def isStart : Event → Bool
  | .write r v => r = Ddrc.mrctrl0 && v.toNat.testBit 31
  | _ => false

/-- The starts in a record. -/
def starts (trace : List Event) : List Event := trace.filter isStart

/-- What a record shows since the last start, or from its beginning. -/
def sinceStart (trace : List Event) : List Event := trace.rtakeWhile fun e => !isStart e

variable {trace more : List Event} {e : Event}

theorem starts_append_of_none (h : ∀ e ∈ more, isStart e = false) :
    starts (trace ++ more) = starts trace := by
  have hnone : more.filter isStart = [] :=
    List.filter_eq_nil_iff.2 fun e he => by rw [h e he]; decide
  rw [starts, List.filter_append, hnone, List.append_nil, starts]

theorem sinceStart_append_of_none (h : ∀ e ∈ more, isStart e = false) :
    sinceStart (trace ++ more) = sinceStart trace ++ more := by
  induction more using List.reverseRecOn with
  | nil => rw [List.append_nil, List.append_nil]
  | append_singleton more e ih =>
      rw [← List.append_assoc, sinceStart, List.rtakeWhile_concat_pos _ _ _ (by simp [h e]),
        ← sinceStart, ih fun e he => h e (List.mem_append_left _ he), List.append_assoc]

theorem starts_snoc (h : isStart e = true) : starts (trace ++ [e]) = starts trace ++ [e] := by
  simp [starts, h]

theorem sinceStart_snoc (h : isStart e = true) : sinceStart (trace ++ [e]) = [] :=
  List.rtakeWhile_concat_neg _ _ _ (by simp [h])

theorem isStart_of_mem_refused {r : Register} {values : List UInt32} {e : Event}
    (he : e ∈ Sequence.refused r values) : isStart e = false := by
  obtain ⟨v, -, rfl⟩ := List.mem_map.1 he
  rfl

end Trace

/-! ### One entry -/

namespace Sequences

open Procedure Trace

variable {config : Config} {program : RegisterProgram}

/-- The write of one entry, once the write before has ended. -/
def writeModeRegister (config : Config) (entry : RegisterValue) : Timed Unit := do
  waitModeIdle config
  Sequence.write Ddrc.mrctrl1 entry.value
  Sequence.write Ddrc.mrctrl0 (modeControl config entry.offset)
  Sequence.write Ddrc.mrctrl0 (modeControl config entry.offset ||| Ddrc.modeWrite)

theorem writeModeRegisters_eq (config : Config) (program : RegisterProgram) :
    writeModeRegisters config program =
      forEach program (writeModeRegister config) >>= fun _ => waitModeIdle config :=
  rfl

/-- The fields of a control word do not overlap: the ranks lie below the number. -/
theorem modeControl_toNat (hranks : config.modeRanks.toNat < 256)
    (number : UInt32) :
    (modeControl config number).toNat =
      config.modeRanks.toNat * 16 ||| (number.toNat &&& 255) * 4096 := by
  have hnumber : number.toNat &&& 255 ≤ 255 := Nat.and_le_right
  have hlow : config.modeRanks.toNat * 16 % 2 ^ 32 = config.modeRanks.toNat * 16 :=
    Nat.mod_eq_of_lt (by omega)
  have hhigh : (number.toNat &&& 255) * 4096 % 2 ^ 32 = (number.toNat &&& 255) * 4096 :=
    Nat.mod_eq_of_lt (by omega)
  simp only [modeControl, Ddrc.modeRankShift, Ddrc.modeAddressShift, Ddrc.modeAddressMask,
    UInt32.toNat_and, UInt32.toNat_or, UInt32.toNat_shiftLeft, UInt32.reduceToNat,
    Nat.shiftLeft_eq, Nat.reduceMod, Nat.reducePow] at hlow hhigh ⊢
  rw [hlow, hhigh]

/-- The control word that starts a write, as a sum of its fields. -/
theorem modeStart_toNat (hranks : config.modeRanks.toNat < 256) (number : UInt32) :
    (modeControl config number ||| Ddrc.modeWrite).toNat =
      2 ^ 31 + (number.toNat % 2 ^ 8 * 2 ^ 12 + config.modeRanks.toNat * 2 ^ 4) := by
  have hnumber : number.toNat &&& 255 = number.toNat % 2 ^ 8 := Nat.and_two_pow_sub_one_eq_mod _ 8
  have hfields : (modeControl config number).toNat =
      number.toNat % 2 ^ 8 * 2 ^ 12 + config.modeRanks.toNat * 2 ^ 4 := by
    have hsum := Nat.two_pow_add_eq_or_of_lt (show config.modeRanks.toNat * 16 < 2 ^ 12 by omega)
      (number.toNat % 2 ^ 8)
    rw [modeControl_toNat hranks, hnumber, Nat.or_comm, Nat.mul_comm (number.toNat % 2 ^ 8),
      ← hsum]
    omega
  have hbit : Ddrc.modeWrite.toNat = 2 ^ 31 * 1 := rfl
  rw [UInt32.toNat_or, hfields, hbit, Nat.or_comm, ← Nat.two_pow_add_eq_or_of_lt (by omega),
    Nat.mul_one]

/-- **The control word that starts the write of an entry**: the bit for starting, the entry's number
and the ranks in their fields, and nothing between the number and that bit. -/
structure StartWord (config : Config) (entry : RegisterValue) (v : UInt32) : Prop where
  /-- The write is started. -/
  start : v.toNat.testBit 31 = true
  /-- The number is the lowest byte of the entry's. -/
  number : v.toNat / 2 ^ 12 % 2 ^ 8 = entry.offset.toNat % 2 ^ 8
  /-- The ranks are those of the configuration. -/
  ranks : v.toNat / 2 ^ 4 % 2 ^ 8 = config.modeRanks.toNat
  /-- Bits 20 to 30 are clear. -/
  clear : ∀ i, 20 ≤ i → i ≤ 30 → v.toNat.testBit i = false

theorem startWord_modeStart (hranks : config.modeRanks.toNat < 256) (entry : RegisterValue) :
    StartWord config entry (modeControl config entry.offset ||| Ddrc.modeWrite) := by
  have hsmall : entry.offset.toNat % 2 ^ 8 * 2 ^ 12 + config.modeRanks.toNat * 2 ^ 4 < 2 ^ 20 := by
    omega
  refine ⟨?_, ?_, ?_, fun i hlow hhigh => ?_⟩
  · rw [modeStart_toNat hranks, Nat.testBit_two_pow_add_eq,
      Nat.testBit_lt_two_pow (lt_trans hsmall (by decide))]
    rfl
  · rw [modeStart_toNat hranks]
    omega
  · rw [modeStart_toNat hranks]
    omega
  · rw [modeStart_toNat hranks, Nat.testBit_two_pow_add_gt (by omega)]
    exact Nat.testBit_lt_two_pow (lt_of_lt_of_le hsmall (Nat.pow_le_pow_right (by decide) hlow))

/-- The control word alone starts nothing. -/
theorem testBit_modeControl (hranks : config.modeRanks.toNat < 256) (number : UInt32) :
    (modeControl config number).toNat.testBit 31 = false := by
  have hnumber : number.toNat &&& 255 ≤ 255 := Nat.and_le_right
  rw [modeControl_toNat hranks]
  exact Nat.testBit_lt_two_pow (Nat.or_lt_two_pow (by omega) (by omega))

/-! ### Starts in order -/

/-- What a read of the status shows: a write is under way, or none. -/
def Busy (v : UInt32) : Prop := v.toNat.testBit 0 = true

instance (v : UInt32) : Decidable (Busy v) := inferInstanceAs (Decidable (_ = true))

/-- A poll that ended well: some reads that found a write under way, and one that did not. -/
def IdlePoll (events : List Event) : Prop :=
  ∃ busy idle, (∀ v ∈ busy, Busy v) ∧ ¬ Busy idle ∧
    events = Sequence.refused Ddrc.mrstat busy ++ [.read Ddrc.mrstat idle]

/-- A poll that ran out: as many reads as it may make, all of which found a write under way. -/
def FailedPoll (config : Config) (events : List Event) : Prop :=
  ∃ busy, (∀ v ∈ busy, Busy v) ∧ busy.length = config.pollLimit.toNat ∧
    events = Sequence.refused Ddrc.mrstat busy

/-- **When a start is in order**: it starts the entry after those started before, and since the
last start there has been a poll that ended well, then the entry's value as data, then a control
word. -/
def startGate (config : Config) (program : RegisterProgram) (past : List Event) (e : Event) :
    Prop :=
  isStart e = true → ∃ entry v poll control, program[(starts past).length]? = some entry ∧
    e = .write Ddrc.mrctrl0 v ∧ StartWord config entry v ∧ IdlePoll poll ∧
      sinceStart past = poll ++ [.write Ddrc.mrctrl1 entry.value, .write Ddrc.mrctrl0 control]

/-- **What the end of the sequence shows**: after success, that every entry has been started and
that a poll since has ended well; after an error, that nothing but the poll that ran out has
happened since the last start. -/
def ModeOutcome (config : Config) (program : RegisterProgram) :
    Except PollTimeout Unit → List Event → Prop
  | .ok (), trace => (starts trace).length = program.length ∧ IdlePoll (sinceStart trace)
  | .error e, trace => e = ⟨Ddrc.mrstat, config.pollLimit⟩ ∧ FailedPoll config (sinceStart trace)

/-- The condition that the poll waits for. -/
theorem allClear_modeBusy (v : UInt32) : allClear Ddrc.modeBusy v = true ↔ ¬ Busy v := by
  rw [allClear, beq_iff_eq, Word.and_eq_zero_iff (k := 0) rfl, Busy, Bool.not_eq_true]

theorem IdlePoll.not_start {poll : List Event} (h : IdlePoll poll) :
    ∀ e ∈ poll, isStart e = false := by
  obtain ⟨busy, idle, -, -, rfl⟩ := h
  intro e he
  rcases List.mem_append.1 he with he | he
  · exact isStart_of_mem_refused he
  · rw [List.mem_singleton.1 he]
    rfl

variable {past : List Event}

/-- The poll between two writes. -/
theorem keeps_waitModeIdle {gate : List Event → Event → Prop}
    {Q : Except PollTimeout Unit → List Event → Prop}
    (hgate : ∀ past v, gate past (.read Ddrc.mrstat v))
    (found : ∀ poll, IdlePoll poll → Q (.ok ()) (past ++ poll))
    (missed : ∀ poll, FailedPoll config poll →
      Q (.error ⟨Ddrc.mrstat, config.pollLimit⟩) (past ++ poll)) :
    (waitModeIdle config).Keeps (Sequence.recorder gate) past Q := by
  have hbusy {values : List UInt32} (h : ∀ v ∈ values, allClear Ddrc.modeBusy v = false) :
      ∀ v ∈ values, Busy v := by
    intro v hv
    by_contra hnot
    rw [← allClear_modeBusy, h v hv] at hnot
    exact Bool.false_ne_true hnot
  refine Sequence.keeps_wait (fun _ _ => hgate _ _) (fun values v hvalues hv => ?_)
    fun values hlength hvalues => missed _ ⟨values, hbusy hvalues, hlength, rfl⟩
  rw [List.append_assoc]
  exact found _ ⟨values, v, hbusy hvalues, (allClear_modeBusy v).1 hv, rfl⟩

/-- A poll that runs out where nothing has happened since the last start ends the sequence as it
may end. -/
theorem modeOutcome_of_failedPoll {poll : List Event} (hpast : sinceStart past = [])
    (hpoll : FailedPoll config poll) :
    ModeOutcome config program (.error ⟨Ddrc.mrstat, config.pollLimit⟩) (past ++ poll) := by
  refine ⟨rfl, ?_⟩
  rw [sinceStart_append_of_none, hpast, List.nil_append]
  · exact hpoll
  · obtain ⟨busy, -, -, rfl⟩ := hpoll
    exact fun e => isStart_of_mem_refused

/-- What holds before and after every entry: as many starts as entries done, and nothing since. -/
structure Between (done : RegisterProgram) (past : List Event) : Prop where
  starts : (starts past).length = done.length
  since : sinceStart past = []

/-- **One entry** is started in order, if those before have been started. -/
theorem keeps_writeModeRegister (hranks : config.modeRanks.toNat < 256)
    {done rest : RegisterProgram} {entry : RegisterValue}
    (hprogram : program = done ++ entry :: rest) (hbetween : Between done past) :
    (writeModeRegister config entry).Keeps (Sequence.recorder (startGate config program)) past fun
      | .ok (), past' => Between (done ++ [entry]) past'
      | .error e, past' => ModeOutcome config program (.error e) past' := by
  obtain ⟨hstarts, hsince⟩ := hbetween
  have hcontrol : isStart (.write Ddrc.mrctrl0 (modeControl config entry.offset)) = false := by
    rw [isStart, testBit_modeControl hranks, Bool.and_false]
  have hstart : isStart (.write Ddrc.mrctrl0 (modeControl config entry.offset ||| Ddrc.modeWrite)) =
      true := by
    rw [isStart, (startWord_modeStart hranks entry).start]
    decide
  rw [writeModeRegister, keeps_bind]
  refine keeps_waitModeIdle (fun _ _ => nofun) (fun poll hpoll => ?_)
    fun poll hpoll => modeOutcome_of_failedPoll hsince hpoll
  have hquiet : ∀ e ∈ poll ++ [.write Ddrc.mrctrl1 entry.value,
      .write Ddrc.mrctrl0 (modeControl config entry.offset)], isStart e = false := by
    intro e he
    rcases List.mem_append.1 he with he | he
    · exact hpoll.not_start e he
    · rcases List.mem_cons.1 he with rfl | he
      · rfl
      · rw [List.mem_singleton.1 he, hcontrol]
  dsimp only
  rw [keeps_bind]
  refine Sequence.keeps_write nofun ?_
  dsimp only
  rw [keeps_bind]
  refine Sequence.keeps_write (fun h => absurd (h.symm.trans hcontrol) nofun) ?_
  -- neither the poll nor the two writes before the start are one
  have hevents : past ++ poll ++ [.write Ddrc.mrctrl1 entry.value] ++
      [.write Ddrc.mrctrl0 (modeControl config entry.offset)] =
        past ++ (poll ++ [.write Ddrc.mrctrl1 entry.value,
          .write Ddrc.mrctrl0 (modeControl config entry.offset)]) := by
    simp only [List.append_assoc, List.singleton_append]
  rw [hevents]
  refine Sequence.keeps_write (fun _ => ?_) ⟨?_, sinceStart_snoc hstart⟩
  · refine ⟨entry, _, poll, modeControl config entry.offset, ?_, rfl,
      startWord_modeStart hranks entry, hpoll, ?_⟩
    · rw [starts_append_of_none hquiet, hstarts, hprogram,
        List.getElem?_append_right (Nat.le_refl _), Nat.sub_self]
      rfl
    · rw [sinceStart_append_of_none hquiet, hsince, List.nil_append]
  · rw [starts_snoc hstart, starts_append_of_none hquiet, List.length_append, hstarts,
      List.length_append]
    rfl

/-- The loop over the entries that are left. -/
theorem keeps_forEach_writeModeRegister (hranks : config.modeRanks.toNat < 256)
    {done rest : RegisterProgram} (hprogram : program = done ++ rest)
    (hbetween : Between done past) :
    (forEach rest (writeModeRegister config)).Keeps (Sequence.recorder (startGate config program))
      past fun
      | .ok (), past' => Between program past'
      | .error e, past' => ModeOutcome config program (.error e) past' := by
  induction rest generalizing done past with
  | nil =>
      rw [List.append_nil] at hprogram
      exact hprogram ▸ hbetween
  | cons entry rest ih =>
      refine (keeps_writeModeRegister hranks hprogram hbetween).andThen
        (fun _ past' hbetween' => ?_) fun _ _ hfailed => hfailed
      refine ih ?_ hbetween'
      rw [hprogram, List.append_assoc, List.singleton_append]

/-- **A program** is started entry by entry, each in order, and ends as it may end. -/
theorem keeps_writeModeRegisters (hranks : config.modeRanks.toNat < 256)
    (program : RegisterProgram) :
    (writeModeRegisters config program).Keeps (Sequence.recorder (startGate config program)) []
      (ModeOutcome config program) := by
  rw [writeModeRegisters_eq]
  refine (keeps_forEach_writeModeRegister hranks (List.nil_append program).symm ⟨rfl, rfl⟩).andThen
    (fun _ past hbetween => ?_) fun _ _ hfailed => hfailed
  refine keeps_waitModeIdle (fun _ _ => nofun) (fun poll hpoll => ?_)
    fun poll hpoll => modeOutcome_of_failedPoll hbetween.since hpoll
  refine ⟨?_, ?_⟩
  · rw [starts_append_of_none hpoll.not_start, hbetween.starts]
  · rw [sinceStart_append_of_none hpoll.not_start, hbetween.since, List.nil_append]
    exact hpoll

end Sequences

/-! ### On the modelled hardware -/

namespace Hardware

open Procedure Sequences

variable {h : Hardware} {config : Config}

theorem Open.answer_modeStatus_idle (hopen : h.Open Ddrc.mrstat) (hidle : h.busyReads = 0) :
    RegisterFile.answer (.read Ddrc.mrstat) h = .ok (h.value Ddrc.mrstat) h := by
  simp [RegisterFile.answer, RegisterFile.read, read, hopen.unpinned, hopen.free, hopen.powered,
    hidle]

theorem Open.answer_modeStatus_busy (hopen : h.Open Ddrc.mrstat) {n : Nat}
    (hbusy : h.busyReads = n + 1) :
    RegisterFile.answer (.read Ddrc.mrstat) h =
      .ok (h.value Ddrc.mrstat ||| Ddrc.modeBusy) { h with busyReads := n } := by
  simp [RegisterFile.answer, RegisterFile.read, read, hopen.unpinned, hopen.free, hopen.powered,
    hbusy]

/-- **Hardware on which no mode register write is in the way**: it has power, the status is read as
it is and shows none, and the one that may be under way takes no longer than one does. -/
structure TakesModes (h : Hardware) : Prop where
  powered : h.powered = true
  unpinned : h.pins.find? Ddrc.mrstat = none
  status : allClear Ddrc.modeBusy (h.value Ddrc.mrstat) = true
  busyReads : h.busyReads ≤ modeBusyReads

theorem TakesModes.open (htakes : h.TakesModes) : h.Open Ddrc.mrstat :=
  ⟨htakes.unpinned, Reaches.free (.inl (by decide)), by rw [htakes.powered]; rfl⟩

/-- A write that is under way has ended after as many polls as it takes. -/
theorem TakesModes.completes_poll {e : PollTimeout} {attempts : Nat} (htakes : h.TakesModes)
    (hbusy : h.busyReads < attempts) :
    (pollUntil e (do
      let value ← Sequence.read Ddrc.mrstat
      return if allClear Ddrc.modeBusy value then some value else none) attempts :
        Timed UInt32).Completes RegisterFile.answer h fun _ h' =>
      h' = { h with busyReads := 0 } := by
  induction attempts generalizing h with
  | zero => exact absurd hbusy (Nat.not_lt_zero _)
  | succ attempts ih =>
      cases hreads : h.busyReads with
      | zero =>
          refine completes_of_run (a := h.value Ddrc.mrstat) ?_ (by rw [← hreads])
          simp only [pollUntil, Sequence.read, act_bind, done_bind, run,
            htakes.open.answer_modeStatus_idle hreads, pure_eq_done, htakes.status, if_true]
      | succ n =>
          -- A read that finds the write under way counts as one of those that it takes.
          have hset : allClear Ddrc.modeBusy (h.value Ddrc.mrstat ||| Ddrc.modeBusy) = false := by
            rw [allClear, Word.set_and]
            rfl
          have hnext : ({ h with busyReads := n } : Hardware).TakesModes := by
            refine ⟨htakes.powered, htakes.unpinned, htakes.status, ?_⟩
            have hle := htakes.busyReads
            show n ≤ modeBusyReads
            omega
          obtain ⟨a, h', hrun, hend⟩ := ih hnext (show n < attempts by omega)
          refine ⟨a, h', ?_, hend⟩
          rw [← hrun]
          simp only [pollUntil, Sequence.read, act_bind, done_bind, run,
            htakes.open.answer_modeStatus_busy hreads, pure_eq_done, hset]
          rfl

theorem TakesModes.completes_waitModeIdle (htakes : h.TakesModes)
    (hlimit : modeBusyReads < config.pollLimit.toNat) :
    (waitModeIdle config).Completes RegisterFile.answer h fun _ h' =>
      h' = { h with busyReads := 0 } :=
  (htakes.completes_poll (Nat.lt_of_le_of_lt htakes.busyReads hlimit)).andThen
    fun _ _ hend => completes_of_run rfl hend

/-- The hardware takes the number from the control word as the entry has it. -/
theorem modeStart_number (hranks : config.modeRanks.toNat < 256) (number : UInt32) :
    (modeControl config number ||| Ddrc.modeWrite) >>> Ddrc.modeAddressShift &&&
      Ddrc.modeAddressMask = number &&& Ddrc.modeAddressMask := by
  refine UInt32.toNat_inj.1 ?_
  have hmask : Ddrc.modeAddressMask.toNat = 2 ^ 8 - 1 := rfl
  have hshift : Ddrc.modeAddressShift.toNat % 32 = 12 := rfl
  rw [UInt32.toNat_and, UInt32.toNat_and, UInt32.toNat_shiftRight, modeStart_toNat hranks, hmask,
    hshift, Nat.shiftRight_eq_div_pow, Nat.and_two_pow_sub_one_eq_mod,
    Nat.and_two_pow_sub_one_eq_mod]
  omega

/-- The control word alone is no start to the hardware. -/
theorem modeControl_idle (hranks : config.modeRanks.toNat < 256) (number : UInt32) :
    modeControl config number &&& Ddrc.modeWrite = 0 :=
  (Word.and_eq_zero_iff (k := 31) rfl).2 (testBit_modeControl hranks number)

/-- What the DRAM devices get from an entry of a mode register program. -/
def modeEntry (entry : RegisterValue) : UInt32 × UInt32 :=
  (entry.offset &&& Ddrc.modeAddressMask, entry.value)

/-- Hardware goes on taking mode register writes as long as power, pins and status stay. -/
theorem TakesModes.of_same {h' : Hardware} (htakes : h.TakesModes)
    (hpowered : h'.powered = h.powered) (hpins : h'.pins = h.pins)
    (hstatus : h'.value Ddrc.mrstat = h.value Ddrc.mrstat)
    (hbusy : h'.busyReads ≤ modeBusyReads) : h'.TakesModes := by
  refine ⟨hpowered.trans htakes.powered, ?_, ?_, hbusy⟩
  · rw [hpins]
    exact htakes.unpinned
  · rw [hstatus]
    exact htakes.status

/-- An entry is written once the write before has ended. -/
theorem TakesModes.completes_writeModeRegister (htakes : h.TakesModes)
    (hlimit : modeBusyReads < config.pollLimit.toNat) (hranks : config.modeRanks.toNat < 256)
    (entry : RegisterValue) :
    (writeModeRegister config entry).Completes RegisterFile.answer h fun _ h' =>
      h'.TakesModes ∧ h'.modeWrites.toList = h.modeWrites.toList ++ [modeEntry entry] := by
  have hfree : ∀ (h : Hardware) {r : Register}, r.Direct → h.busDenied r = false :=
    fun _ _ hr => Reaches.free (.inl hr)
  refine (htakes.completes_waitModeIdle hlimit).andThen fun _ h₁ hend₁ => ?_
  subst hend₁
  -- The data and the control word are written first, neither of which starts anything.
  refine (Hardware.completes_write (P := fun h' => h'.TakesModes ∧ h'.busyReads = 0 ∧
    h'.value Ddrc.mrctrl1 = entry.value ∧ h'.modeWrites = h.modeWrites) (hfree _ (by decide))
    (by simp [htakes.powered]) fun writes => ?_).andThen fun _ h₂ hend₂ => ?_
  · refine ⟨_, effect_of_not_reactive (by decide) _ _, ?_, rfl, value_store_self .., rfl⟩
    exact htakes.of_same rfl rfl (value_store_of_ne (by decide) _ _) (Nat.zero_le _)
  obtain ⟨htakes₂, hidle₂, hdata₂, hmode₂⟩ := hend₂
  refine (Hardware.completes_write (P := fun h' => h'.TakesModes ∧ h'.busyReads = 0 ∧
    h'.value Ddrc.mrctrl1 = entry.value ∧ h'.modeWrites = h.modeWrites) (hfree _ (by decide))
    (by simp [htakes₂.powered]) fun writes => ?_).andThen fun _ h₃ hend₃ => ?_
  · refine ⟨_, effect_mrctrl0_of_idle _ (modeControl_idle hranks _), ?_, hidle₂, ?_, hmode₂⟩
    · exact htakes₂.of_same rfl rfl (value_store_of_ne (by decide) _ _) htakes₂.busyReads
    · rw [value_store_of_ne (by decide)]
      exact hdata₂
  obtain ⟨htakes₃, hidle₃, hdata₃, hmode₃⟩ := hend₃
  have hstart : (modeControl config entry.offset ||| Ddrc.modeWrite) &&& Ddrc.modeWrite ≠ 0 :=
    Word.set_and_ne_zero _ (by decide)
  refine Hardware.completes_write (hfree _ (by decide)) (by simp [htakes₃.powered]) fun writes => ?_
  rw [effect_mrctrl0_of_start _ hstart]
  refine ⟨_, if_neg (not_not.2 hidle₃), ?_, ?_⟩
  · exact htakes₃.of_same rfl rfl (value_store_of_ne (by decide) _ _) (Nat.le_refl _)
  · show (h₃.modeWrites.push (_, h₃.value Ddrc.mrctrl1)).toList = _
    rw [modeStart_number hranks, hdata₃, hmode₃, Array.toList_push]
    rfl

/-- **The mode registers are written in order**, and none besides. -/
theorem TakesModes.completes_writeModeRegisters (htakes : h.TakesModes)
    (hlimit : modeBusyReads < config.pollLimit.toNat) (hranks : config.modeRanks.toNat < 256)
    (program : RegisterProgram) :
    (writeModeRegisters config program).Completes RegisterFile.answer h fun _ h' =>
      h'.modeWrites.toList = h.modeWrites.toList ++ program.map modeEntry := by
  rw [writeModeRegisters_eq]
  refine (completes_forEach (J := fun written h' => h'.TakesModes ∧
    h'.modeWrites.toList = h.modeWrites.toList ++ written.map modeEntry)
    (fun written entry _ h₁ hend₁ => ?_) [] ⟨htakes, (List.append_nil _).symm⟩).andThen
    fun _ h₁ hend₁ => ?_
  · refine (hend₁.1.completes_writeModeRegister hlimit hranks entry).mono fun _ h₂ hend₂ => ?_
    refine ⟨hend₂.1, ?_⟩
    rw [hend₂.2, hend₁.2, List.map_append, List.append_assoc]
    rfl
  · refine (hend₁.1.completes_waitModeIdle hlimit).mono fun _ h' hend => ?_
    rw [hend]
    exact hend₁.2

end Hardware

namespace Sequences

open Operation Trace

/-- **Mode registers are written in sequence.**  Whatever the program and whatever the reads are
answered, every start carries the entry after those started before, and comes after a poll that
found the write before it ended, and after the entry's value.  After an error nothing has happened
since the poll that ran out; after success every entry has been started, and a poll has found the
last ended.  The modelled hardware, with its power, without a pin and with no write under way,
needs three reads for a poll, and then gets every entry in order, and nothing besides. -/
theorem modes_written_in_sequence (config : Config) (hranks : config.modeRanks.toNat < 256)
    (program : RegisterProgram) :
    (∀ {H : Type} [RegisterFile H] (s : System H),
      Gated (startGate config program) (s.trace (registers (writeModeRegisters config program))) ∧
      ∀ r s', s.run (registers (writeModeRegisters config program)) = .ok r s' →
        ModeOutcome config program r (s.trace (registers (writeModeRegisters config program)))) ∧
    ∀ h : Hardware, h.powered = true → h.Unpinned → h.busyReads = 0 →
      ¬ Busy (h.value Ddrc.mrstat) → 3 ≤ config.pollLimit.toNat →
        ∃ h', RegisterFile.run (writeModeRegisters config program) h = .ok (.ok ()) h' ∧
          h'.modeWrites.toList = h.modeWrites.toList ++
            program.map fun entry => (entry.offset &&& 0xff, entry.value) := by
  refine ⟨fun s => ?_, fun h hpowered hunpinned hidle hstatus hlimit => ?_⟩
  · have hkeeps : (registers (writeModeRegisters config program)).Keeps
        (Operation.recorder (startGate config program)) []
          fun r events => True ∧ ModeOutcome config program r events :=
      recorder_registers trivial (fun _ _ _ _ => trivial) (fun _ _ _ _ h => h)
        (keeps_writeModeRegisters hranks program)
    obtain ⟨-, hgated, hend⟩ := System.trace_recorded hkeeps s
    exact ⟨hgated, fun r s' hrun => (hend r s' hrun).2⟩
  · have htakes : h.TakesModes :=
      ⟨hpowered, hunpinned _, (allClear_modeBusy _).2 hstatus, by rw [hidle]; exact Nat.zero_le _⟩
    obtain ⟨a, h', hrun, hmodes⟩ := htakes.completes_writeModeRegisters hlimit hranks program
    exact ⟨h', hrun, hmodes⟩

/-- Two entries, of which the first has a number beyond a byte, on hardware that has booted. -/
theorem modes_written_in_sequence_pair : Config.modeRanks ⟨100, 800, 24, 0x1, 3⟩ < 256 ∧
    ∃ h', RegisterFile.run (ε := PollTimeout)
      (writeModeRegisters ⟨100, 800, 24, 0x1, 3⟩ [⟨0x10d, 5⟩, ⟨2, 6⟩]) Hardware.booted =
        .ok (.ok ()) h' ∧ h'.modeWrites.toList = [(0x0d, 5), (2, 6)] := by
  obtain ⟨h', hrun, hmodes⟩ := (modes_written_in_sequence ⟨100, 800, 24, 0x1, 3⟩ (by decide)
    [⟨0x10d, 5⟩, ⟨2, 6⟩]).2 Hardware.booted rfl (fun r => rfl) rfl (by decide) (by decide)
  exact ⟨by decide, h', hrun, hmodes⟩

/-- **The modelled hardware needs its power.**  Once it has been turned off, a status without a pin
and with no write under way reads as zero, so that the poll before the first write ends well; but
the write itself is refused. -/
theorem modes_unwritten_without_power : ∃ off : Hardware,
    RegisterFile.run (ε := PollTimeout) (do
      Sequence.write Clock.dramGate 0
      Sequence.write Power.downRequest Power.dramDomain) Hardware.booted = .ok (.ok ()) off ∧
    off.Unpinned ∧ off.busyReads = 0 ∧ ¬ Busy (off.value Ddrc.mrstat) ∧
    Config.modeRanks ⟨100, 800, 24, 0x1, 3⟩ < 256 ∧
    3 ≤ (Config.pollLimit ⟨100, 800, 24, 0x1, 3⟩).toNat ∧
    ∃ h', RegisterFile.run (ε := PollTimeout) (writeModeRegisters ⟨100, 800, 24, 0x1, 3⟩ [⟨1, 5⟩])
      off = .error (.fault (.writtenUnpowered Ddrc.mrctrl1)) h' :=
  ⟨_, rfl, fun r => rfl, rfl, by decide, by decide, by decide, _, rfl⟩

end Sequences

end Reclock
