/-
**What a poll leaves behind that runs out of attempts.**

Every poll of the sequences waits for something that the accesses before have brought about, and
some registers are polled for opposite things at different times.  A sequence that times out ends
at once, so that the end of its record is the poll itself: as many reads as the bound allows, none
of them satisfactory.  An operation adds no more than a log record.

Main definitions:

* `Reclock.Trace.Awaits` — what a poll of a register waits for, given the events before;
* `Reclock.Trace.TimedOut` — **a record that ends in a poll that ran out of attempts**;
* `Reclock.Sequences.Accounts` — a sequence whose timeouts are accounted for by its record.

Main results:

* `Reclock.Sequences.accounts_switchPoint`, `accounts_powerUp` — the record of a long sequence ends
  in the poll that failed;
* `Reclock.Controller.recorder_operation` — **so does that of every operation**.
-/

import Reclock.Proofs.Conduct
import Reclock.Proofs.Footprint
import Reclock.Proofs.Words

set_option relaxedAutoImplicit false
set_option autoImplicit false

namespace Reclock

/-! ### Polls -/

namespace Trace

/-- **What a poll of a register waits for**, given the events before: for a status that follows a
control register, what was last written there. -/
inductive Awaits (past : List Event) : Register → (UInt32 → Bool) → Prop
  | portsIdle : Awaits past Ddrc.pstat fun v => v == 0
  | closed : Awaits past Ddrc.swstat fun v => v &&& Ddrc.swDoneAck != 0
  | modeIdle : Awaits past Ddrc.mrstat fun v => v &&& Ddrc.modeBusy == 0
  | drained : Awaits past Ddrc.dbgcam fun v => v &&& Ddrc.drained == Ddrc.drained
  | calibrated : Awaits past Ddrc.dbgstat fun v => v &&& Ddrc.zqBusy == 0
  | asleep (h : LastWrote past Ddrc.pwrctl fun v => v &&& Ddrc.selfRefreshForced ≠ 0) :
      Awaits past Ddrc.stat fun v => v &&& Ddrc.operatingModeMask == Ddrc.modeSelfRefresh &&
        v &&& Ddrc.selfRefreshTypeMask == Ddrc.selfRefreshSoftware
  | awake (h : LastWrote past Ddrc.pwrctl fun v => v &&& Ddrc.selfRefreshForced = 0) :
      Awaits past Ddrc.stat fun v => v &&& Ddrc.operatingModeMask == Ddrc.modeNormal
  | dropped (h : LastWrote past Ddrc.dfimisc fun v => v &&& Ddrc.dfiInitStart ≠ 0) :
      Awaits past Ddrc.dfistat fun v => v &&& Ddrc.dfiComplete == 0
  | completed (h : LastWrote past Ddrc.dfimisc fun v => v &&& Ddrc.dfiInitStart = 0) :
      Awaits past Ddrc.dfistat fun v => v &&& Ddrc.dfiComplete != 0
  | held (h : LastWrote past Phy.lpCtrl fun v => v &&& Phy.holdRequest ≠ 0) :
      Awaits past Phy.lpStat fun v => v &&& Phy.holdActive != 0
  | resumed (h : LastWrote past Phy.lpCtrl fun v => v &&& Phy.holdRequest = 0) :
      Awaits past Phy.lpStat fun v => v &&& Phy.holdActive == 0
  | reset : Awaits past Phy.resetStat fun v => v &&& Phy.coldResetDone != 0
  | locked : Awaits past Clock.pllControl fun v => v &&& Clock.pllLock != 0
  | divided : Awaits past Clock.bypassStat fun v => v &&& Clock.bypassUpdated != 0
  | poweredDown : Awaits past Power.downRequest fun v => v &&& Power.dramDomain == 0
  | poweredUp : Awaits past Power.upRequest fun v => v &&& Power.dramDomain == 0
  | stopped (h : LastWrote past FastSwitch.ctrl fun v => v &&& FastSwitch.stopRequest ≠ 0) :
      Awaits past FastSwitch.stat fun v => v &&& FastSwitch.stopped != 0
  | running (h : ¬ LastWrote past FastSwitch.ctrl fun v => v &&& FastSwitch.stopRequest ≠ 0) :
      Awaits past FastSwitch.stat fun v => v &&& FastSwitch.stopped == 0

/-- **The record ends in a poll that ran out of attempts**: as many reads of the register as the
bound allows, none of which met the condition of the poll. -/
def TimedOut (config : Config) (t : PollTimeout) (past : List Event) : Prop :=
  t.iterations = config.pollLimit ∧
    ∃ before values condition, past = before ++ Sequence.refused t.register values ∧
      values.length = config.pollLimit.toNat ∧ Awaits before t.register condition ∧
      ∀ v ∈ values, condition v = false

end Trace

/-! ### Sequences that account for their timeouts -/

namespace Sequences

open Sequence Trace

variable {α β : Type} {config : Config} {past : List Event}

/-- The end of a sequence whose record accounts for a timeout. -/
def Accounted (config : Config) (r : Except PollTimeout α) (past : List Event) : Prop :=
  ∀ t, r = .error t → TimedOut config t past

/-- **The record of a sequence accounts for its timeouts**, whatever was on record before. -/
def Accounts (config : Config) (p : Timed α) : Prop :=
  ∀ past, p.Keeps (recorder anyway) past (Accounted config)

/-- What follows a procedure that has not timed out accounts for itself. -/
theorem Accounted.andThen {A : Type} {Reply : A → Type} {m : Monitor Reply (List Event)}
    {p : Procedure Reply PollTimeout α} {f : α → Procedure Reply PollTimeout β}
    (hp : p.Keeps m past (Accounted config))
    (hf : ∀ a past', (f a).Keeps m past' (Accounted config)) :
    (p >>= f).Keeps m past (Accounted config) := by
  refine hp.andThen (fun a past' _ => hf a past') fun e past' he t ht => ?_
  cases ht
  exact he e rfl

theorem accounts_bind {p : Timed α} {f : α → Timed β} (hp : Accounts config p)
    (hf : ∀ a, Accounts config (f a)) : Accounts config (p >>= f) :=
  fun past => Accounted.andThen (hp past) hf

theorem accounts_done (a : α) : Accounts config (.done a) := fun _ => nofun

theorem accounts_read (r : Register) : Accounts config (read r) :=
  fun _ => keeps_read (fun _ => trivial) fun _ => nofun

theorem accounts_write (r : Register) (v : UInt32) : Accounts config (write r v) :=
  fun _ => keeps_write trivial nofun

theorem accounts_modify (r : Register) (f : UInt32 → UInt32) : Accounts config (modify r f) :=
  accounts_bind (accounts_read r) fun _ => accounts_write r _

theorem accounts_forEach {bs : List β} {f : β → Timed Unit} (hf : ∀ b, Accounts config (f b)) :
    Accounts config (.forEach bs f) := by
  induction bs with
  | nil => exact accounts_done ()
  | cons b bs ih => exact accounts_bind (hf b) fun _ => ih

theorem accounts_collect {bs : List β} {f : β → Timed α} (hf : ∀ b, Accounts config (f b)) :
    Accounts config (.collect bs f) := by
  induction bs with
  | nil => exact accounts_done []
  | cons b bs ih =>
      exact accounts_bind (hf b) fun _ => accounts_bind ih fun _ => accounts_done _

/-- A poll that waits for what the events before have brought about accounts for its timeout. -/
theorem keeps_accounted_wait {r : Register} {condition : UInt32 → Bool}
    (h : Awaits past r condition) :
    (wait config r condition).Keeps (recorder anyway) past (Accounted config) := by
  refine keeps_wait (fun _ _ => trivial) (fun values v _ _ => nofun) fun values hlength hvalues => ?_
  intro t ht
  cases ht
  exact ⟨rfl, past, values, condition, rfl, hlength, h, hvalues⟩

theorem accounts_wait {r : Register} {condition : UInt32 → Bool}
    (h : ∀ past, Awaits past r condition) : Accounts config (wait config r condition) :=
  fun past => keeps_accounted_wait (h past)

/-- What follows when bits have been set may use that. -/
theorem accounts_setBits {r : Register} {bits : UInt32} {p : Timed β} (hbits : bits ≠ 0)
    (hp : ∀ past, (LastWrote past r fun v => v &&& bits ≠ 0) →
      p.Keeps (recorder anyway) past (Accounted config)) :
    Accounts config (setBits r bits >>= fun _ => p) := by
  intro past
  rw [Procedure.keeps_bind]
  exact keeps_modify (fun _ => trivial) (fun _ => trivial) fun v =>
    hp _ (lastWrote_write _ _ (Word.set_and_ne_zero v hbits))

/-- What follows when bits have been cleared may use that. -/
theorem accounts_clearBits {r : Register} {bits : UInt32} {p : Timed β}
    (hp : ∀ past, (LastWrote past r fun v => v &&& bits = 0) →
      p.Keeps (recorder anyway) past (Accounted config)) :
    Accounts config (clearBits r bits >>= fun _ => p) := by
  intro past
  rw [Procedure.keeps_bind]
  exact keeps_modify (fun _ => trivial) (fun _ => trivial) fun v =>
    hp _ (lastWrote_write _ _ (Word.clear_and v bits))

/-! ### The parts of the sequences -/

theorem accounts_quasiDynamic {body : Timed Unit} (h : Accounts config body) :
    Accounts config (quasiDynamic config body) :=
  accounts_bind (accounts_modify _ _) fun _ => accounts_bind h fun _ =>
    accounts_bind (accounts_modify _ _) fun _ => accounts_wait fun _ => .closed

theorem accounts_withBus {body : Timed α} (h : Accounts config body) :
    Accounts config (withBus body) :=
  accounts_bind (accounts_write _ _) fun _ => accounts_bind h fun _ =>
    accounts_bind (accounts_write _ _) fun _ => accounts_done _

theorem accounts_applyProgram (w : Window) (program : RegisterProgram) :
    Accounts config (applyProgram w program) :=
  accounts_forEach fun _ => accounts_write _ _

theorem accounts_disablePorts : Accounts config (disablePorts config) :=
  accounts_bind (accounts_forEach fun _ => accounts_modify _ _) fun _ =>
    accounts_wait fun _ => .portsIdle

theorem accounts_enablePorts : Accounts config (enablePorts config) :=
  accounts_forEach fun _ => accounts_modify _ _

theorem accounts_enterSelfRefresh : Accounts config (enterSelfRefresh config) := by
  refine accounts_bind (accounts_quasiDynamic ?_) fun _ => ?_
  · exact accounts_bind (accounts_modify _ _) fun _ => accounts_modify _ _
  · exact accounts_setBits (by decide) fun past h =>
      keeps_accounted_wait (.asleep h)

theorem accounts_exitSelfRefresh : Accounts config (exitSelfRefresh config) := by
  refine accounts_bind (accounts_quasiDynamic ?_) fun _ => ?_
  · exact accounts_bind (accounts_modify _ _) fun _ => accounts_modify _ _
  · exact accounts_clearBits fun past h =>
      keeps_accounted_wait (.awake h)

theorem accounts_writeModeRegisters (program : RegisterProgram) :
    Accounts config (writeModeRegisters config program) := by
  have hidle : Accounts config (waitModeIdle config) := accounts_wait fun _ => .modeIdle
  refine accounts_bind (accounts_forEach fun _ => ?_) fun _ => hidle
  exact accounts_bind hidle fun _ => accounts_bind (accounts_write _ _) fun _ =>
    accounts_bind (accounts_write _ _) fun _ => accounts_write _ _

theorem accounts_halt : Accounts config (halt config) :=
  accounts_bind (accounts_modify _ _) fun _ => accounts_wait fun _ => .drained

theorem accounts_resume : Accounts config resume := accounts_modify _ _

theorem accounts_selectFrequency (index : FrequencyIndex) :
    Accounts config (selectFrequency config index) :=
  accounts_quasiDynamic (accounts_bind (accounts_modify _ _) fun _ => accounts_modify _ _)

theorem accounts_loadController (timings : PointTimings) :
    Accounts config (loadController config timings) :=
  accounts_quasiDynamic (accounts_applyProgram _ _)

theorem accounts_loadPrograms (timings : PointTimings) :
    Accounts config (loadPrograms config timings) :=
  accounts_bind (accounts_loadController timings) fun _ =>
    accounts_withBus (accounts_bind (accounts_applyProgram _ _) fun _ => accounts_applyProgram _ _)

theorem accounts_switchClock (point : FrequencyPoint) :
    Accounts config (switchClock config point) := by
  unfold switchClock
  split
  · exact accounts_bind (accounts_modify _ _) fun _ =>
      accounts_bind (accounts_wait fun _ => .divided) fun _ => accounts_modify _ _
  · exact accounts_bind (accounts_modify _ _) fun _ => accounts_bind (accounts_write _ _) fun _ =>
      accounts_bind (accounts_modify _ _) fun _ =>
        accounts_bind (accounts_wait fun _ => .locked) fun _ => accounts_modify _ _

theorem accounts_dfiInit : Accounts config (dfiInit config) := by
  refine accounts_quasiDynamic (accounts_bind (accounts_modify _ _) fun _ => ?_)
  refine accounts_setBits (by decide) fun past h => ?_
  refine Accounted.andThen (keeps_accounted_wait (.dropped h)) fun _ => ?_
  refine accounts_clearBits fun past h => ?_
  exact Accounted.andThen (keeps_accounted_wait (.completed h)) fun _ => accounts_modify _ _

theorem accounts_calibrate : Accounts config (calibrate config) :=
  accounts_bind (accounts_wait fun _ => .calibrated) fun _ =>
    accounts_bind (accounts_modify _ _) fun _ => accounts_wait fun _ => .calibrated

/-! ### Whole sequences -/

theorem accounts_switchPoint (leavingBypass : Bool) (point : FrequencyPoint)
    (timings : PointTimings) : Accounts config (switchPoint config leavingBypass point timings) := by
  rw [switchPoint_eq]
  refine accounts_bind accounts_disablePorts fun _ => ?_
  refine accounts_bind accounts_enterSelfRefresh fun _ => ?_
  refine accounts_bind (accounts_writeModeRegisters _) fun _ => ?_
  refine accounts_bind accounts_halt fun _ => ?_
  refine accounts_bind (accounts_selectFrequency _) fun _ => ?_
  refine accounts_bind (accounts_loadPrograms _) fun _ => ?_
  refine accounts_bind (accounts_switchClock _) fun _ => ?_
  refine accounts_bind accounts_dfiInit fun _ => ?_
  refine accounts_bind ?_ fun _ => ?_
  · unfold calibrateUnless
    split
    · exact accounts_done ()
    · exact accounts_calibrate
  refine accounts_bind accounts_exitSelfRefresh fun _ => ?_
  exact accounts_bind accounts_resume fun _ => accounts_enablePorts

/-- The handshake is polled first before the stop request has been raised. -/
theorem keeps_switchSpeed {speed : Speed}
    (h : ¬ LastWrote past FastSwitch.ctrl fun v => v &&& FastSwitch.stopRequest ≠ 0) :
    (switchSpeed config speed).Keeps (recorder anyway) past (Accounted config) := by
  have hselect : Accounts config (selectSpeed speed) := by
    cases speed with
    | full => exact accounts_modify _ _
    | half => exact accounts_modify _ _
  refine Accounted.andThen (keeps_accounted_wait (.running h)) fun _ => ?_
  refine accounts_bind hselect fun _ => ?_
  refine accounts_setBits (by decide) fun past h => ?_
  refine Accounted.andThen (keeps_accounted_wait (.stopped h)) fun _ => ?_
  refine accounts_clearBits fun past h => ?_
  exact keeps_accounted_wait (.running h.not)

theorem accounts_quietDown : Accounts config (quietDown config) := by
  refine accounts_bind accounts_disablePorts fun _ => ?_
  refine accounts_bind accounts_enterSelfRefresh fun _ => ?_
  refine accounts_bind accounts_halt fun _ => ?_
  exact accounts_setBits (by decide) fun past h =>
    keeps_accounted_wait (.held h)

theorem accounts_readTrained (timings : PointTimings) : Accounts config (readTrained timings) :=
  accounts_withBus (accounts_collect fun _ => accounts_read _)

theorem accounts_powerOff : Accounts config (powerOff config) :=
  accounts_bind (accounts_write _ _) fun _ => accounts_bind (accounts_modify _ _) fun _ =>
    accounts_bind (accounts_wait fun _ => .poweredDown) fun _ => accounts_modify _ _

theorem accounts_powerOn (point : FrequencyPoint) : Accounts config (powerOn config point) :=
  accounts_bind (accounts_modify _ _) fun _ =>
    accounts_bind (accounts_wait fun _ => .poweredUp) fun _ =>
      accounts_bind (accounts_modify _ _) fun _ => accounts_bind (accounts_modify _ _) fun _ =>
        accounts_bind (accounts_write _ _) fun _ => accounts_bind (accounts_switchClock _) fun _ =>
          accounts_bind (accounts_modify _ _) fun _ => accounts_wait fun _ => .reset

theorem accounts_loadPhy (timings : PointTimings) (trained : Option (List UInt32)) :
    Accounts config (loadPhy timings trained) :=
  accounts_withBus (accounts_bind (accounts_applyProgram _ _) fun _ =>
    accounts_bind (accounts_applyProgram _ _) fun _ => accounts_applyProgram _ _)

theorem accounts_powerUp (point : FrequencyPoint) (timings : PointTimings)
    (trained : Option (List UInt32)) : Accounts config (powerUp config point timings trained) := by
  refine accounts_bind (accounts_powerOn _) fun _ => ?_
  refine accounts_bind (accounts_loadController _) fun _ => ?_
  refine accounts_bind (accounts_selectFrequency _) fun _ => ?_
  refine accounts_bind accounts_enterSelfRefresh fun _ => ?_
  refine accounts_bind (accounts_loadPhy _ _) fun _ => ?_
  refine accounts_clearBits fun past h => ?_
  refine Accounted.andThen (keeps_accounted_wait (.resumed h)) fun _ => ?_
  refine accounts_bind accounts_dfiInit fun _ => ?_
  refine accounts_bind accounts_exitSelfRefresh fun _ => ?_
  exact accounts_bind accounts_resume fun _ => accounts_enablePorts

end Sequences

/-! ### Operations -/

namespace Controller

open Operation Sequences Trace

variable {α : Type} {config : Config} {past : List Event}

/-- The record of an operation that timed out: a poll that ran out of attempts, and after it at
most log records. -/
def Reported (config : Config) (r : Except TransitionError Unit) (past : List Event) : Prop :=
  ∀ t, r = .error (.pollTimeout t) → ∃ polled logs, past = polled ++ logs ∧
    TimedOut config t polled ∧ ∀ e ∈ logs, ∃ record, e = .log record

theorem recorder_accounted {p : Timed α}
    (h : p.Keeps (Sequence.recorder anyway) past (Accounted config)) :
    (registers p).Keeps (recorder anyway) past (Accounted config) :=
  (recorder_registers trivial (fun _ _ _ _ => trivial) (fun _ _ _ _ _ => trivial) h).mono
    fun _ _ (h : True ∧ _) => h.2

/-- An operation reports a timeout and gives up. -/
theorem recorder_giveUp {t : PollTimeout} (h : TimedOut config t past) (message : String) :
    (do log .error message
        .fail (.pollTimeout t) : Operation TransitionError Unit).Keeps (recorder anyway) past
      (Reported config) := by
  rw [Procedure.keeps_bind]
  refine recorder_log (fun _ => trivial) fun logs hlogs t' ht => ?_
  cases ht
  exact ⟨past, logs, rfl, h, hlogs⟩

theorem recorder_switchFrom (c : Controller) (core : Nat) (session : Session)
    (target : FrequencyIndex) (timings : PointTimings) (online : CoreMask) :
    (c.switchFrom core session target timings online).Keeps (recorder anyway) past
      (Reported c.config) := by
  unfold switchFrom
  simp only [Procedure.keeps_bind, Procedure.keeps_attempt]
  refine recorder_log (fun _ => trivial) fun logs _ => ?_
  refine recorder_quiesce (fun _ => trivial) fun asked _ => recorder_signal trivial ?_
  refine (recorder_accounted (accounts_switchPoint _ _ _ _)).mono fun r past' h => ?_
  cases r with
  | error timeout => exact recorder_giveUp (h timeout rfl) _
  | ok _ =>
      simp only [Procedure.keeps_bind]
      refine recorder_release trivial (recorder_finish ?_)
      exact recorder_log (fun _ => trivial) fun _ _ => nofun

theorem recorder_switchFrequency (c : Controller) (core : Nat) (target : FrequencyIndex)
    (online : CoreMask) :
    (c.switchFrequency core target online).Keeps (recorder anyway) past (Reported c.config) := by
  unfold switchFrequency
  simp only [Procedure.keeps_bind]
  refine Procedure.keeps_demand (fun _ => nofun) fun timings _ => ?_
  refine Procedure.keeps_require (fun _ => nofun) fun _ => ?_
  refine Procedure.keeps_require (fun _ => nofun) fun _ => ?_
  refine recorder_beginActive nofun fun session => ?_
  dsimp only
  split
  · exact recorder_finish nofun
  · exact recorder_switchFrom c core session target timings online

/-- Before its handshake a fast switch has written no register. -/
theorem recorder_fastSwitchTo (c : Controller) (core : Nat) (target : FrequencyIndex)
    (speed : Speed) (online : CoreMask) :
    (c.fastSwitchTo core target speed online).Keeps (recorder anyway) [] (Reported c.config) := by
  unfold fastSwitchTo
  simp only [Procedure.keeps_bind, Procedure.keeps_attempt]
  refine recorder_log (fun _ => trivial) fun logs hlogs => ?_
  refine recorder_quiesce (fun _ => trivial) fun asked hasked => ?_
  have hunwritten : ∀ r, ([] ++ logs ++ asked).filterMap (written? r) = [] := by
    intro r
    refine List.filterMap_eq_nil_iff.2 fun e he => ?_
    rcases List.mem_append.1 he with he | he
    · obtain ⟨record, rfl⟩ := hlogs e he
      rfl
    · obtain ⟨targets, rfl⟩ := hasked e he
      rfl
  have hfirst : ¬ LastWrote ([] ++ logs ++ asked) FastSwitch.ctrl
      fun v => v &&& FastSwitch.stopRequest ≠ 0 := by
    rw [LastWrote, hunwritten]
    simp
  refine (recorder_accounted (keeps_switchSpeed hfirst)).mono fun r past' h => ?_
  cases r with
  | error timeout => exact recorder_giveUp (h timeout rfl) _
  | ok _ =>
      simp only [Procedure.keeps_bind]
      exact recorder_release trivial (recorder_finish (by rintro _ ⟨⟩))

theorem recorder_fastSwitch (c : Controller) (core : Nat) (speed : Speed) (online : CoreMask) :
    (c.fastSwitch core speed online).Keeps (recorder anyway) [] (Reported c.config) := by
  unfold fastSwitch currentFrequency
  simp only [Procedure.keeps_bind]
  refine recorder_barrier fun current => ?_
  refine Procedure.keeps_demand (fun _ => nofun) fun pair _ => ?_
  refine Procedure.keeps_require (fun _ => nofun) fun _ => ?_
  refine recorder_beginActive nofun fun session => ?_
  dsimp only
  split
  · exact recorder_refuse nofun
  · split
    · exact recorder_finish nofun
    · exact recorder_fastSwitchTo c core _ speed online

theorem recorder_saveSnapshot (current : FrequencyIndex) (timings : PointTimings) :
    (saveSnapshot current timings).Keeps (recorder anyway) past (Accounted config) := by
  unfold saveSnapshot
  rw [Procedure.keeps_bind]
  refine recorder_retention fun snapshot => ?_
  dsimp only
  cases snapshot.trained with
  | some trained => exact recorder_retention fun _ => nofun
  | none =>
      refine Accounted.andThen (recorder_accounted (accounts_readTrained timings _)) ?_
      exact fun values past' => recorder_retention fun _ => nofun

theorem recorder_powerDown (c : Controller) (current : FrequencyIndex) (timings : PointTimings) :
    (c.powerDown current timings).Keeps (recorder anyway) past (Accounted c.config) := by
  refine Accounted.andThen (recorder_accounted (accounts_quietDown _)) fun _ past' => ?_
  refine Accounted.andThen (recorder_saveSnapshot current timings) fun _ past' => ?_
  refine Accounted.andThen (recorder_signal trivial nofun) fun _ past' => ?_
  exact recorder_accounted (accounts_powerOff _)

theorem recorder_enterRetention (c : Controller) :
    c.enterRetention.Keeps (recorder anyway) past (Reported c.config) := by
  unfold enterRetention
  rw [Procedure.keeps_bind]
  refine recorder_begin nofun fun session => ?_
  dsimp only
  split
  · exact recorder_refuse nofun
  · rw [Procedure.keeps_bind]
    refine recorder_retention fun granted => ?_
    cases granted with
    | false => exact recorder_refuse nofun
    | true =>
        unfold enterFrom
        simp only [if_true, Procedure.keeps_bind, Procedure.keeps_attempt]
        refine recorder_log (fun _ => trivial) fun logs _ => ?_
        refine (recorder_powerDown c _ _).mono fun r past' h => ?_
        cases r with
        | error timeout => exact recorder_giveUp (h timeout rfl) _
        | ok _ =>
            simp only [Procedure.keeps_bind]
            exact recorder_retention fun _ => recorder_finish nofun

theorem recorder_exitRetention (c : Controller) :
    c.exitRetention.Keeps (recorder anyway) past (Reported c.config) := by
  unfold exitRetention
  simp only [Procedure.keeps_bind]
  refine recorder_retention fun state => ?_
  refine Procedure.keeps_require (fun _ => nofun) fun _ => ?_
  refine recorder_begin nofun fun session => ?_
  dsimp only
  refine recorder_retention fun snapshot => ?_
  cases snapshot with
  | none => exact recorder_refuse nofun
  | some snapshot =>
      unfold exitTo
      dsimp only
      split
      · exact recorder_refuse nofun
      · simp only [Procedure.keeps_bind, Procedure.keeps_attempt]
        refine (recorder_accounted (accounts_powerUp _ _ _ _)).mono fun r past' h => ?_
        cases r with
        | error timeout => exact recorder_giveUp (h timeout rfl) _
        | ok _ =>
            simp only [Procedure.keeps_bind]
            refine recorder_retention fun _ => recorder_finish ?_
            exact recorder_log (fun _ => trivial) fun _ _ => nofun

/-- **The record of an operation that times out ends in the poll that failed**, and log records. -/
theorem recorder_operation (c : Controller) (core : Nat) (request : Request) :
    (c.operation core request).Keeps (recorder anyway) [] (Reported c.config) := by
  cases request with
  | switch target online => exact recorder_switchFrequency c core target online
  | fast speed online => exact recorder_fastSwitch c core speed online
  | enter => exact recorder_enterRetention c
  | exit => exact recorder_exitRetention c

end Controller

end Reclock
