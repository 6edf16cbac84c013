/-
**The handshake with the hardware sequencer.**

Software tells the sequencer the speed and asks it to stop the controller; the sequencer
acknowledges, software takes the request back, and the acknowledgement drops.  Each of these four
phases waits for the one before, and the sequencer may answer at any time, too early, too late or
never.  What software writes makes sense only if the control register reads back what it holds; the
status may read as anything.

Main definitions:

* `Reclock.Trace.content` — what a register holds that reads back;
* `Reclock.Trace.SeenIdle`, `SpeedSelected`, `Acknowledged`, `Completed` — the phases;
* `Reclock.Trace.MayTell`, `handshakeGate` — **what may be written in which phase**;
* `Reclock.Trace.Concluded` — the phase in which a switch ends, or the poll that it gave up in;
* `Reclock.Controller.AtSpeed` — that a switch has nothing to do;
* `Reclock.Operation.watched` — a monitor that also sees the parked cores let go.

Main results:

* `Reclock.Sequences.advances_switchSpeed` — the register sequence goes through all phases;
* `Reclock.Controller.handshake_in_order` — **every switch of the speed keeps to the phases**, and
  lets the parked cores go only after the last one.
-/

import Reclock.Proofs.Ascent
import Reclock.Proofs.SpeedSelect

set_option relaxedAutoImplicit false
set_option autoImplicit false

namespace Reclock

open Hardware (speedWord speedWord_and)

/-! ### What a register holds -/

namespace Trace

/-- **What a register holds** that reads back what has been written to it. -/
def content (initial : UInt32) (past : List Event) (r : Register) : UInt32 :=
  (past.filterMap (written? r)).getLast?.getD initial

variable {initial v : UInt32} {past : List Event} {r : Register} {condition : UInt32 → Prop}

theorem content_read (s : Register) : content initial (past ++ [.read s v]) r =
    content initial past r := by
  simp [content, written?]

theorem LastWrote.content (h : LastWrote past r condition) :
    condition (content initial past r) := by
  obtain ⟨v, hv, hcondition⟩ := h
  rw [Trace.content, Option.mem_def.1 hv]
  exact hcondition

/-- A register that reads back reads as what it holds. -/
theorem ReadsBack.content (h : ReadsBack (past ++ [.read r v]) r (· = initial)) :
    Trace.content initial past r = v := by
  rcases h.last with hlast | ⟨hnone, rfl⟩
  · exact hlast.content
  · rw [Trace.content, List.filterMap_eq_nil_iff.2 hnone]
    rfl

/-- What reads back has read back so far. -/
theorem ReadsBack.earlier {initially : UInt32 → Prop} {more : List Event}
    (h : ReadsBack (past ++ more) r initially) : ReadsBack past r initially := by
  rintro before v after rfl
  exact h before v (after ++ more) (by simp)

/-! ### The phases -/

/-- The sequencer has been seen without an acknowledgement. -/
def SeenIdle (past : List Event) : Prop :=
  Saw past FastSwitch.stat (fun v => v &&& FastSwitch.stopped = 0) fun _ => True

/-- After that the speed was selected. -/
def SpeedSelected (speed : Speed) (past : List Event) : Prop :=
  Occurred past (Event.Wrote FastSwitch.ctrl
    fun v => v &&& FastSwitch.halfSpeed ≠ 0 ↔ speed = .half) SeenIdle

/-- After that the sequencer was seen to acknowledge, and at that moment the request was up. -/
def Acknowledged (speed : Speed) (past : List Event) : Prop :=
  Saw past FastSwitch.stat (fun v => v &&& FastSwitch.stopped ≠ 0) fun before =>
    SpeedSelected speed before ∧
      LastWrote before FastSwitch.ctrl fun v => v &&& FastSwitch.stopRequest ≠ 0

/-- After that the sequencer was seen without an acknowledgement again, and at that moment the
request had been taken back. -/
def Completed (speed : Speed) (past : List Event) : Prop :=
  Saw past FastSwitch.stat (fun v => v &&& FastSwitch.stopped = 0) fun before =>
    Acknowledged speed before ∧
      LastWrote before FastSwitch.ctrl fun v => v &&& FastSwitch.stopRequest = 0

variable {speed : Speed}

theorem lasting_seenIdle : Lasting SeenIdle := lasting_saw _ _ _

theorem lasting_speedSelected : Lasting (SpeedSelected speed) := lasting_occurred _ _

theorem lasting_acknowledged : Lasting (Acknowledged speed) := lasting_saw _ _ _

theorem SpeedSelected.seenIdle (h : SpeedSelected speed past) : SeenIdle past :=
  h.earlier lasting_seenIdle fun _ => id

theorem Acknowledged.speedSelected (h : Acknowledged speed past) : SpeedSelected speed past :=
  h.earlier lasting_speedSelected fun _ => And.left

/-! ### What may be written -/

/-- **What may be written to the control register** while it holds the word `w`. -/
structure MayTell (speed : Speed) (past : List Event) (w v : UInt32) : Prop where
  /-- Nothing is written before the sequencer has been seen without an acknowledgement. -/
  idle : SeenIdle past
  /-- What is written selects the speed. -/
  selects : v &&& FastSwitch.halfSpeed ≠ 0 ↔ speed = .half
  /-- The other bits stay. -/
  others : v &&& ~~~(FastSwitch.halfSpeed ||| FastSwitch.stopRequest) =
    w &&& ~~~(FastSwitch.halfSpeed ||| FastSwitch.stopRequest)
  /-- The request is raised after the speed has been selected, which stays. -/
  raised : w &&& FastSwitch.stopRequest = 0 → v &&& FastSwitch.stopRequest ≠ 0 →
    SpeedSelected speed past ∧ v &&& FastSwitch.halfSpeed = w &&& FastSwitch.halfSpeed
  /-- The request is taken back after it has been acknowledged; the speed stays. -/
  lowered : w &&& FastSwitch.stopRequest ≠ 0 → v &&& FastSwitch.stopRequest = 0 →
    Acknowledged speed past ∧ v &&& FastSwitch.halfSpeed = w &&& FastSwitch.halfSpeed

/-- **The gates of a switch of the speed**: only registers of the sequencer are accessed, of these
only the control register is written, and the parked cores are woken after the last phase. -/
def handshakeGate (speed : Speed) (initial : UInt32) (past : List Event) : Event → Prop
  | .read r _ => r.window = .fastSwitch
  | .write r v => r = FastSwitch.ctrl ∧ MayTell speed past (content initial past FastSwitch.ctrl) v
  | .signal .event => Completed speed past
  | _ => True

/-- The same gates for hardware of which the control register may or may not read back. -/
def handshakeGateIf (speed : Speed) (initial : UInt32) (past : List Event) (e : Event) : Prop :=
  ReadsBack past FastSwitch.ctrl (· = initial) → handshakeGate speed initial past e

/-- What is written in each phase, if the register holds `w`. -/
theorem mayTell_select (h : SeenIdle past) (w : UInt32) :
    MayTell speed past w (speedWord speed w) := by
  have hrequest : speedWord speed w &&& FastSwitch.stopRequest = w &&& FastSwitch.stopRequest := by
    cases speed with
    | full => exact Word.clear_and_apart w (by decide)
    | half => exact Word.set_and_apart w (by decide)
  refine ⟨h, speedWord_and w, ?_, fun hclear hset => ?_, fun hset hclear => ?_⟩
  · cases speed with
    | full => exact Word.clear_and_apart w (by decide)
    | half => exact Word.set_and_apart w (by decide)
  · rw [hrequest] at hset
    exact absurd hclear hset
  · rw [hrequest] at hclear
    exact absurd hclear hset

theorem mayTell_raise {w : UInt32} (h : SpeedSelected speed past)
    (hspeed : w &&& FastSwitch.halfSpeed ≠ 0 ↔ speed = .half) :
    MayTell speed past w (w ||| FastSwitch.stopRequest) := by
  have hkept : (w ||| FastSwitch.stopRequest) &&& FastSwitch.halfSpeed =
      w &&& FastSwitch.halfSpeed := Word.set_and_apart w (by decide)
  refine ⟨h.seenIdle, ?_, Word.set_and_apart w (by decide), fun _ _ => ⟨h, hkept⟩,
    fun _ hclear => ?_⟩
  · rw [hkept]
    exact hspeed
  · exact absurd hclear (Word.set_and_ne_zero w (by decide))

theorem mayTell_lower {w : UInt32} (h : Acknowledged speed past)
    (hspeed : w &&& FastSwitch.halfSpeed ≠ 0 ↔ speed = .half) :
    MayTell speed past w (w &&& ~~~FastSwitch.stopRequest) := by
  have hkept : w &&& ~~~FastSwitch.stopRequest &&& FastSwitch.halfSpeed =
      w &&& FastSwitch.halfSpeed := Word.clear_and_apart w (by decide)
  refine ⟨h.speedSelected.seenIdle, ?_, Word.clear_and_apart w (by decide), fun _ hset => ?_,
    fun _ _ => ⟨h, hkept⟩⟩
  · rw [hkept]
    exact hspeed
  · exact absurd (Word.clear_and w _) hset

theorem MayTell.append {w : UInt32} (h : MayTell speed past w v) (more : List Event) :
    MayTell speed (past ++ more) w v where
  idle := lasting_seenIdle _ _ h.idle
  selects := h.selects
  others := h.others
  raised hclear hset := (h.raised hclear hset).imp_left (lasting_speedSelected _ _)
  lowered hset hclear := (h.lowered hset hclear).imp_left (lasting_acknowledged _ _)

/-! ### The ends of a switch -/

/-- **A poll of the handshake that can run out of attempts**, after the events so far and with the
values that it has refused: in each case the request stands as it was written last. -/
inductive Stuck (speed : Speed) (before : List Event) (values : List UInt32) : Prop
  /-- The acknowledgement of another switch does not drop; nothing has been written. -/
  | unready (h : Unwritten before FastSwitch.ctrl)
      (hvalues : ∀ v ∈ values, v &&& FastSwitch.stopped ≠ 0)
  /-- No acknowledgement comes; the request is up. -/
  | unanswered (h : SpeedSelected speed before)
      (hrequest : LastWrote before FastSwitch.ctrl fun v => v &&& FastSwitch.stopRequest ≠ 0)
      (hvalues : ∀ v ∈ values, v &&& FastSwitch.stopped = 0)
  /-- The acknowledgement does not drop; the request has been taken back. -/
  | unresumed (h : Acknowledged speed before)
      (hrequest : LastWrote before FastSwitch.ctrl fun v => v &&& FastSwitch.stopRequest = 0)
      (hvalues : ∀ v ∈ values, v &&& FastSwitch.stopped ≠ 0)

/-- The record ends in a poll of the handshake that has run out of attempts. -/
def GaveUp (config : Config) (speed : Speed) (t : PollTimeout) (past : List Event) : Prop :=
  t = ⟨FastSwitch.stat, config.pollLimit⟩ ∧ ∃ before values,
    past = before ++ Sequence.refused FastSwitch.stat values ∧
      values.length = config.pollLimit.toNat ∧ Stuck speed before values

/-- **How a switch of the speed ends**: with a result, it has come through all phases, or was idle
and did nothing; with a timeout, nothing but log records follows the poll; and otherwise it has been
refused before it did anything. -/
def Concluded (config : Config) (speed : Speed) (idle : Prop) :
    Except TransitionError Unit → List Event → Prop
  | .ok _, past => Completed speed past ∨ past = [] ∧ idle
  | .error (.pollTimeout t), past => ∃ polled logs, past = polled ++ logs ∧
      GaveUp config speed t polled ∧ ∀ e ∈ logs, ∃ record, e = .log record
  | .error _, past => past = []

theorem Completed.ne_nil (h : Completed speed past) : past ≠ [] := by
  obtain ⟨before, v, after, rfl, -⟩ := h
  simp

/-- Whether the switch was idle matters only if it has done nothing and ends with a result. -/
theorem Concluded.of_idle {config : Config} {idle idle' : Prop} {r : Except TransitionError Unit}
    (h : Concluded config speed idle r past)
    (hidle : ∀ u, r = .ok u → past = [] → idle → idle') :
    Concluded config speed idle' r past := by
  cases r with
  | ok u => exact h.imp_right fun hnone => ⟨hnone.1, hidle u rfl hnone.1 hnone.2⟩
  | error e => cases e <;> exact h

end Trace

/-! ### The register sequence -/

namespace Sequences

open Sequence Trace

variable {config : Config} {speed : Speed} {initial : UInt32} {α β : Type}
  {before middle after : List Event → Prop}

theorem allClear_eq_true (bits v : UInt32) : allClear bits v = true ↔ v &&& bits = 0 := by
  simp [allClear]

theorem allClear_eq_false (bits v : UInt32) : allClear bits v = false ↔ v &&& bits ≠ 0 := by
  simp [allClear]

theorem anySet_eq_true (bits v : UInt32) : anySet bits v = true ↔ v &&& bits ≠ 0 := by
  simp [anySet]

theorem anySet_eq_false (bits v : UInt32) : anySet bits v = false ↔ v &&& bits = 0 := by
  simp [anySet]

/-- The end of a part of the handshake. -/
def Advanced (config : Config) (speed : Speed) (after : List Event → Prop) :
    Except PollTimeout α → List Event → Prop
  | .ok _, past => after past
  | .error t, past => GaveUp config speed t past

/-- **A part of the handshake goes from one phase to another**, or gives up in a poll, and passes
the gates on its way. -/
def Advances (config : Config) (speed : Speed) (initial : UInt32) (p : Timed α)
    (before after : List Event → Prop) : Prop :=
  ∀ past, before past →
    p.Keeps (recorder (handshakeGateIf speed initial)) past (Advanced config speed after)

theorem Advances.bind {p : Timed α} {f : α → Timed β}
    (hp : Advances config speed initial p before middle)
    (hf : ∀ a, Advances config speed initial (f a) middle after) :
    Advances config speed initial (p >>= f) before after :=
  fun past hpast => (hp past hpast).andThen (fun a past' h => hf a past' h) fun _ _ => id

theorem Advances.mono {before' after' : List Event → Prop} {p : Timed α}
    (h : Advances config speed initial p before after)
    (hbefore : ∀ past, before' past → before past) (hafter : ∀ past, after past → after' past) :
    Advances config speed initial p before' after' := by
  intro past hpast
  refine (h past (hbefore past hpast)).mono fun r past' hend => ?_
  cases r with
  | ok a => exact hafter past' hend
  | error t => exact hend

/-- If the control register reads back, the speed that has been selected stands in it. -/
def Told (speed : Speed) (initial : UInt32) (past : List Event) : Prop :=
  ReadsBack past FastSwitch.ctrl (· = initial) →
    LastWrote past FastSwitch.ctrl fun v => v &&& FastSwitch.halfSpeed ≠ 0 ↔ speed = .half

theorem outlasts_told : Outlasts (Told speed initial) Event.IsRead := by
  rintro past e ⟨r, v, rfl⟩ htold hback
  exact (htold hback.earlier).append (by simp [written?])

theorem Told.content {past : List Event} (h : Told speed initial past)
    (hback : ReadsBack past FastSwitch.ctrl (· = initial)) :
    content initial past FastSwitch.ctrl &&& FastSwitch.halfSpeed ≠ 0 ↔ speed = .half :=
  (h hback).content

/-- The status is polled until it is as it is waited for. -/
theorem advances_await {condition : UInt32 → Bool} {shown : UInt32 → Prop}
    (hreads : Outlasts before Event.IsRead) (hshown : ∀ v, condition v = true → shown v)
    (hstuck : ∀ past values, before past → (∀ v ∈ values, condition v = false) →
      Stuck speed past values) :
    Advances config speed initial (wait config FastSwitch.stat condition) before fun past =>
      before past ∧ Saw past FastSwitch.stat shown before := by
  intro past hpast
  refine keeps_wait (fun _ _ _ => rfl) (fun values v _ hv => ?_) fun values hlength hvalues => ?_
  · have hstill := hreads.refused hpast FastSwitch.stat values
    exact ⟨hreads.read hstill _ v, saw_read (hshown v hv) hstill⟩
  · exact ⟨rfl, past, values, rfl, hlength, hstuck past values hpast hvalues⟩

/-- The control register is modified; what it is told then stands in it. -/
theorem advances_tell {f : UInt32 → UInt32}
    (hmay : ∀ past, before past → ReadsBack past FastSwitch.ctrl (· = initial) →
      MayTell speed past (content initial past FastSwitch.ctrl)
        (f (content initial past FastSwitch.ctrl)))
    (hafter : ∀ past v, before past →
      after (past ++ [.read FastSwitch.ctrl v] ++ [.write FastSwitch.ctrl (f v)])) :
    Advances config speed initial (modify FastSwitch.ctrl f) before fun past =>
      after past ∧ Told speed initial past := by
  have htell : ∀ past v, before past →
      ReadsBack (past ++ [.read FastSwitch.ctrl v]) FastSwitch.ctrl (· = initial) →
        MayTell speed past v (f v) := by
    intro past v hpast hback
    have hmay := hmay past hpast hback.earlier
    rwa [hback.content] at hmay
  intro past hpast
  refine keeps_modify (fun _ _ => rfl) (fun v hback => ⟨rfl, ?_⟩) fun v => ⟨hafter past v hpast, ?_⟩
  · rw [content_read, hback.content]
    exact (htell past v hpast hback).append _
  · intro hback
    exact lastWrote_write _ _ (htell past v hpast hback.earlier).selects

theorem advances_await_idle : Advances config speed initial
    (wait config FastSwitch.stat (allClear FastSwitch.stopped))
    (fun past => Unwritten past FastSwitch.ctrl) SeenIdle := by
  have hreads : Outlasts (fun past => Unwritten past FastSwitch.ctrl) Event.IsRead := by
    rintro past e ⟨r, v, rfl⟩ h
    exact h.snoc rfl
  have hawait : Advances config speed initial
      (wait config FastSwitch.stat (allClear FastSwitch.stopped)) _ _ :=
    advances_await hreads (fun v => (allClear_eq_true _ v).1) fun past values h hvalues =>
      .unready h fun v hv => (allClear_eq_false _ v).1 (hvalues v hv)
  refine hawait.mono (fun _ => id) ?_
  rintro past ⟨-, before, v, after, heq, hv, -⟩
  exact ⟨before, v, after, heq, hv, trivial⟩

theorem advances_selectSpeed : Advances config speed initial (selectSpeed speed) SeenIdle
    fun past => SpeedSelected speed past ∧ Told speed initial past := by
  have hselect : selectSpeed speed = modify FastSwitch.ctrl (speedWord speed) := by
    cases speed <;> rfl
  rw [hselect]
  refine advances_tell (fun past h _ => mayTell_select h _) fun past v h => ?_
  exact occurred_last ⟨_, rfl, speedWord_and v⟩ (lasting_seenIdle _ _ h)

theorem advances_raise : Advances config speed initial
    (setBits FastSwitch.ctrl FastSwitch.stopRequest)
    (fun past => SpeedSelected speed past ∧ Told speed initial past)
    fun past => (SpeedSelected speed past ∧
      LastWrote past FastSwitch.ctrl fun v => v &&& FastSwitch.stopRequest ≠ 0) ∧
        Told speed initial past := by
  refine advances_tell (fun past h hback => mayTell_raise h.1 (h.2.content hback))
    fun past v h => ⟨?_, ?_⟩
  · exact lasting_speedSelected _ _ (lasting_speedSelected _ _ h.1)
  · exact lastWrote_write _ _ (Word.set_and_ne_zero v (by decide))

theorem advances_await_acknowledged : Advances config speed initial
    (wait config FastSwitch.stat (anySet FastSwitch.stopped))
    (fun past => (SpeedSelected speed past ∧
      LastWrote past FastSwitch.ctrl fun v => v &&& FastSwitch.stopRequest ≠ 0) ∧
        Told speed initial past)
    fun past => Acknowledged speed past ∧ Told speed initial past := by
  have hreads : Outlasts (fun past => (SpeedSelected speed past ∧
      LastWrote past FastSwitch.ctrl fun v => v &&& FastSwitch.stopRequest ≠ 0) ∧
        Told speed initial past) Event.IsRead :=
    ((lasting_speedSelected.outlasts _).and (outlasts_lastWrote _ _)).and outlasts_told
  have hawait : Advances config speed initial
      (wait config FastSwitch.stat (anySet FastSwitch.stopped)) _ _ :=
    advances_await hreads (fun v => (anySet_eq_true _ v).1) fun past values h hvalues =>
      .unanswered h.1.1 h.1.2 fun v hv => (anySet_eq_false _ v).1 (hvalues v hv)
  refine hawait.mono (fun _ => id) ?_
  rintro past ⟨h, before, v, after, heq, hv, hbefore⟩
  exact ⟨⟨before, v, after, heq, hv, hbefore.1⟩, h.2⟩

theorem advances_lower : Advances config speed initial
    (clearBits FastSwitch.ctrl FastSwitch.stopRequest)
    (fun past => Acknowledged speed past ∧ Told speed initial past)
    fun past => Acknowledged speed past ∧
      LastWrote past FastSwitch.ctrl fun v => v &&& FastSwitch.stopRequest = 0 := by
  have htell : Advances config speed initial (clearBits FastSwitch.ctrl FastSwitch.stopRequest)
      (fun past => Acknowledged speed past ∧ Told speed initial past)
      fun past => (Acknowledged speed past ∧
        LastWrote past FastSwitch.ctrl fun v => v &&& FastSwitch.stopRequest = 0) ∧
          Told speed initial past := by
    refine advances_tell (fun past h hback => mayTell_lower h.1 (h.2.content hback))
      fun past v h => ⟨?_, ?_⟩
    · exact lasting_acknowledged _ _ (lasting_acknowledged _ _ h.1)
    · exact lastWrote_write _ _ (Word.clear_and v _)
  exact htell.mono (fun _ => id) fun _ => And.left

theorem advances_await_resumed : Advances config speed initial
    (wait config FastSwitch.stat (allClear FastSwitch.stopped))
    (fun past => Acknowledged speed past ∧
      LastWrote past FastSwitch.ctrl fun v => v &&& FastSwitch.stopRequest = 0)
    (Completed speed) := by
  have hawait : Advances config speed initial
      (wait config FastSwitch.stat (allClear FastSwitch.stopped)) _ _ :=
    advances_await ((lasting_acknowledged.outlasts _).and (outlasts_lastWrote _ _))
      (fun v => (allClear_eq_true _ v).1) fun past values h hvalues =>
        .unresumed h.1 h.2 fun v hv => (allClear_eq_false _ v).1 (hvalues v hv)
  exact hawait.mono (fun _ => id) fun _ => And.right

/-- **The handshake goes through all of its phases**, or gives up in one of its three polls. -/
theorem advances_switchSpeed : Advances config speed initial (switchSpeed config speed)
    (fun past => Unwritten past FastSwitch.ctrl) (Completed speed) := by
  refine advances_await_idle.bind fun _ => ?_
  refine advances_selectSpeed.bind fun _ => ?_
  refine advances_raise.bind fun _ => ?_
  refine advances_await_acknowledged.bind fun _ => ?_
  exact advances_lower.bind fun _ => advances_await_resumed

end Sequences

/-! ### Letting the parked cores go -/

/-- The actions that let parked cores go. -/
def Action.Releases : Action → Prop
  | .barrier .advanceEpoch => True
  | .barrier .unhold => True
  | .signal .event => True
  | _ => False

namespace Operation

open Trace (anyway)

variable {α ε : Type} {gate : List Event → Event → Prop} {mayRelease : List Event → Prop}
  {past : List Event} {Q : Except ε α → List Event → Prop}

/-- **A recorder that also sees the parked cores let go**, of which only the event that wakes them
is on record. -/
def watched (gate : List Event → Event → Prop) (mayRelease : List Event → Prop) :
    Monitor Action.Reply (List Event) where
  allows past a := (∀ r, ∀ e ∈ a.event? r, gate past e) ∧ (a.Releases → mayRelease past)
  after past a r := past ++ (a.event? r).toList

theorem keeps_recorder_of_watched {p : Operation ε α}
    (h : p.Keeps (watched gate mayRelease) past Q) : p.Keeps (recorder gate) past Q :=
  h.of_within (Procedure.within_anything p) (fun _ _ _ => And.left) rfl

/-- When the parked cores are let go does not depend on what else is allowed. -/
theorem keeps_watched_anyway {p : Operation ε α}
    (h : p.Keeps (watched gate mayRelease) past Q) :
    p.Keeps (watched anyway mayRelease) past Q :=
  h.of_within (Procedure.within_anything p)
    (fun _ _ _ hboth => ⟨fun _ _ _ => trivial, hboth.2⟩) rfl

/-- What lets no core go need only keep to the recorder. -/
theorem keeps_watched {p : Operation ε α} (hwithin : p.Within fun a => ¬ a.Releases)
    (h : p.Keeps (recorder gate) past Q) : p.Keeps (watched gate mayRelease) past Q :=
  h.of_within hwithin (fun _ _ hkept hgate => ⟨hgate, fun ha => absurd ha hkept⟩) rfl

theorem within_registers (p : Sequence ε α) : (registers p).Within fun a => ¬ a.Releases := by
  induction p with
  | done a => trivial
  | fail e => trivial
  | act a next ih => exact ⟨id, ih⟩

theorem within_barrier {a : BarrierAccess} (ha : ¬ (Action.barrier a).Releases) :
    (barrier a : Operation ε a.Reply).Within fun a => ¬ a.Releases :=
  ⟨ha, fun _ => trivial⟩

theorem within_quiesce (core : Nat) (online : CoreMask) :
    (quiesce core online : Operation ε Unit).Within fun a => ¬ a.Releases := by
  unfold quiesce
  refine Procedure.within_bind ?_ fun own => ?_
  · unfold checkCore
    cases CoreId.ofNat core with
    | error f => exact ⟨id, fun r => nomatch r⟩
    | ok own => trivial
  refine Procedure.within_bind (within_barrier id) fun _ => ?_
  refine Procedure.within_bind (within_barrier id) fun _ => ?_
  refine Procedure.within_bind ?_ fun _ => within_barrier id
  unfold interrupt
  split
  · trivial
  · exact ⟨id, fun _ => trivial⟩

theorem within_finish (index : FrequencyIndex) :
    (Session.finish index : Operation ε Unit).Within fun a => ¬ a.Releases :=
  Procedure.within_bind (within_barrier id) fun _ => within_barrier id

theorem within_refuse (session : Session) (e : ε) :
    (session.refuse e : Operation ε α).Within fun a => ¬ a.Releases :=
  Procedure.within_bind (within_finish session.current) fun _ => trivial

theorem within_beginActive : Controller.beginActive.Within fun a => ¬ a.Releases := by
  unfold Controller.beginActive Session.begin
  refine Procedure.within_bind ?_ fun session => ?_
  · refine Procedure.within_bind (within_barrier id) fun free => ?_
    cases free with
    | false => trivial
    | true => exact Procedure.within_bind (within_barrier id) fun _ => trivial
  · refine Procedure.within_bind ⟨id, fun _ => trivial⟩ fun state => ?_
    split
    · trivial
    · exact within_refuse session _

theorem watched_barrier {a : BarrierAccess} {Q : Except ε a.Reply → List Event → Prop}
    (hmay : mayRelease past) (hQ : ∀ r, Q (.ok r) past) :
    (barrier a : Operation ε a.Reply).Keeps (watched gate mayRelease) past Q := by
  refine ⟨⟨fun r e => nofun, fun _ => hmay⟩, fun r => ?_⟩
  simpa [watched, Action.event?] using hQ r

/-- The parked cores are let go when they may be. -/
theorem watched_release {Q : Except ε Unit → List Event → Prop} (hmay : mayRelease past)
    (hgate : gate past (.signal .event)) (hQ : Q (.ok ()) (past ++ [.signal .event])) :
    (release : Operation ε Unit).Keeps (watched gate mayRelease) past Q := by
  unfold release
  simp only [Procedure.keeps_bind]
  refine watched_barrier hmay fun _ => watched_barrier hmay fun _ => ?_
  refine ⟨⟨fun _ e he => ?_, fun _ => hmay⟩, fun _ => hQ⟩
  cases he
  exact hgate

end Operation

/-! ### The switch -/

namespace Controller

open Operation Sequences Trace

variable {c : Controller} {speed : Speed} {initial : UInt32}

/-- The switch proper is never idle. -/
theorem watched_fastSwitchTo (core : Nat) (target : FrequencyIndex) (online : CoreMask) :
    (c.fastSwitchTo core target speed online).Keeps
      (watched (handshakeGateIf speed initial) (Completed speed)) []
        (Concluded c.config speed False) := by
  have hlog : ∀ level message, (log level message : Operation TransitionError Unit).Within
      fun a => ¬ a.Releases := fun _ _ => ⟨id, fun _ => trivial⟩
  unfold fastSwitchTo
  simp only [Procedure.keeps_bind]
  refine keeps_watched (hlog _ _) (recorder_log (fun _ _ => trivial) fun logs hlogs => ?_)
  refine keeps_watched (within_quiesce core online)
    (recorder_quiesce (fun _ _ => trivial) fun asked hasked => ?_)
  have hunwritten : Unwritten ([] ++ logs ++ asked) FastSwitch.ctrl := by
    have hnone : Unwritten [] FastSwitch.ctrl := List.forall_mem_nil _
    refine (hnone.append fun e he => ?_).append fun e he => ?_
    · exact written?_of_silent (Event.silent_of_log (hlogs e he)) _
    · exact written?_of_silent (Event.silent_of_interrupt (hasked e he)) _
  have hhandshake : (registers (switchSpeed c.config speed)).Keeps
      (recorder (handshakeGateIf speed initial)) ([] ++ logs ++ asked)
        (Advanced c.config speed (Completed speed)) :=
    (recorder_registers trivial (fun _ _ _ _ => trivial) (fun _ _ _ _ => id)
      (advances_switchSpeed _ hunwritten)).mono fun _ _ (h : True ∧ _) => h.2
  dsimp only
  rw [Procedure.keeps_attempt]
  refine (keeps_watched (within_registers _) hhandshake).mono fun r past' hend => ?_
  cases r with
  | error timeout =>
      dsimp only
      rw [Procedure.keeps_bind]
      refine keeps_watched (hlog _ _) (recorder_log (fun _ _ => trivial) fun logs hlogs => ?_)
      exact ⟨past', logs, rfl, hend, hlogs⟩
  | ok _ =>
      have hcompleted : Completed speed past' := hend
      dsimp only
      rw [Procedure.keeps_bind]
      refine watched_release hcompleted (fun _ => hcompleted) ?_
      refine keeps_watched (within_finish target) (recorder_finish (.inl ?_))
      exact lasting_saw _ _ _ _ _ hcompleted

/-- **Every switch of the speed keeps to the phases**, whatever it is answered. -/
theorem watched_fastSwitch (core : Nat) (online : CoreMask) :
    (c.fastSwitch core speed online).Keeps
      (watched (handshakeGateIf speed initial) (Completed speed)) []
        (Concluded c.config speed True) := by
  unfold fastSwitch currentFrequency
  simp only [Procedure.keeps_bind]
  refine keeps_watched (within_barrier id) (recorder_barrier fun current => ?_)
  refine Procedure.keeps_demand (fun _ => rfl) fun pair _ => ?_
  refine Procedure.keeps_require (fun _ => rfl) fun _ => ?_
  refine keeps_watched within_beginActive (recorder_beginActive rfl fun session => ?_)
  dsimp only
  split
  · exact keeps_watched (within_refuse session _) (recorder_refuse rfl)
  · split
    · exact keeps_watched (within_finish session.current) (recorder_finish (.inr ⟨rfl, trivial⟩))
    · exact (watched_fastSwitchTo core _ online).mono fun _ _ hend =>
        hend.of_idle fun _ _ _ => False.elim

/-- The controller is at the point of a speed. -/
def AtSpeed {H : Type} (c : Controller) (speed : Speed) (s : System H) : Prop :=
  ∃ pair ∈ c.table.fast, s.barrier.current = pair.point speed

theorem events_ne_of_fastSwitchTo {H : Type} [RegisterFile H] {core : Nat}
    {target : FrequencyIndex} {online : CoreMask} {s s' : System H} {u : Unit}
    (hrun : System.run (c.fastSwitchTo core target speed online) s = .ok (.ok u) s') :
    s'.events ≠ s.events := by
  have hkeeps := keeps_recorder_of_watched (@watched_fastSwitchTo c speed 0 core target online)
  obtain ⟨-, -, hend⟩ := System.trace_recorded hkeeps s
  rcases hend _ _ hrun with hcompleted | ⟨-, hidle⟩
  · exact fun hsame => hcompleted.ne_nil ((System.trace_eq_nil_iff hrun).2 hsame)
  · exact hidle.elim

/-- A switch that succeeds leaves something on record, unless the controller has been at the point
of the speed before. -/
theorem ensures_record_fastSwitch {H : Type} [RegisterFile H] (core : Nat) (online : CoreMask)
    (s : System H) : (c.fastSwitch core speed online).Ensures System.answer s fun r s' =>
      ∀ u, r = .ok u → c.AtSpeed speed s ∨ s'.events ≠ s.events := by
  have hcurrent : System.run (currentFrequency : Operation TransitionError FrequencyIndex) s =
      .ok (.ok s.barrier.current) s := rfl
  refine Procedure.ensures_bind_of_run hcurrent ?_
  cases hpair : c.table.fast with
  | none => exact Procedure.ensures_of_run rfl nofun
  | some pair =>
      refine Procedure.ensures_bind_of_run (a := pair) rfl ?_
      cases c.admits online with
      | false => exact Procedure.ensures_of_run rfl nofun
      | true =>
          refine Procedure.ensures_bind_of_run (a := ()) rfl ?_
          have hbegin := System.run_beginActive s
          by_cases hfree : s.barrier.inProgress = false ∧ s.retention.state = .active
          case neg =>
            rw [if_neg hfree] at hbegin
            exact Procedure.ensures_of_run (Procedure.run_bind_of_error hbegin) nofun
          rw [if_pos hfree] at hbegin
          refine Procedure.ensures_bind_of_run hbegin ?_
          dsimp only
          split
          · exact Procedure.ensures_of_run (System.run_refuse hfree.1 _) nofun
          · split
            case isTrue hthere =>
              exact Procedure.ensures_of_run (System.run_cancel hfree.1) fun _ _ =>
                .inl ⟨pair, hpair, hthere⟩
            case isFalse =>
              rintro r s' hrun u rfl
              have hevents : s'.events ≠ s.claimed.events := events_ne_of_fastSwitchTo hrun
              exact .inr hevents

/-- **Every switch of the speed keeps to the phases of the handshake.**  For every speed and on
every hardware of which the control register reads back, whatever its status reads as: every access
of the record passes its gate, and every end is accounted for; and whatever the answers, the parked
cores are let go only after the last phase. -/
theorem handshake_in_order {H : Type} [RegisterFile H] (core : Nat) (online : CoreMask)
    (s : System H)
    (hreads : ReadsBack (System.trace (c.fastSwitch core speed online) s) FastSwitch.ctrl
      (· = initial)) :
    Trace.Gated (handshakeGate speed initial) (System.trace (c.fastSwitch core speed online) s) ∧
      (∀ r s', System.run (c.fastSwitch core speed online) s = .ok r s' →
        Concluded c.config speed (c.AtSpeed speed s) r
          (System.trace (c.fastSwitch core speed online) s)) ∧
      (c.fastSwitch core speed online).Keeps (watched anyway (Completed speed)) []
        fun _ _ => True := by
  have hkeeps := @watched_fastSwitch c speed initial core online
  obtain ⟨-, hgated, hend⟩ := System.trace_recorded (keeps_recorder_of_watched hkeeps) s
  refine ⟨fun past e future heq => ?_, fun r s' hrun => ?_, ?_⟩
  · have hback : ReadsBack past FastSwitch.ctrl (· = initial) := by
      rw [heq] at hreads
      exact hreads.earlier
    exact hgated past e future heq hback
  · refine (hend r s' hrun).of_idle fun u hr hnone _ => ?_
    have hrecord := ensures_record_fastSwitch core online s r s' hrun u hr
    exact hrecord.resolve_right fun hne => hne ((System.trace_eq_nil_iff hrun).1 hnone)
  · exact (keeps_watched_anyway hkeeps).mono fun _ _ _ => trivial

/-- The sample board goes to half the speed, through all phases. -/
theorem handshake_in_order_sample :
    ∃ past s, System.trace (Board.controller.fastSwitch 0 .half (.all Board.coreCount)) Board.boot =
        past ∧
      System.run (Board.controller.fastSwitch 0 .half (.all Board.coreCount)) Board.boot =
        .ok (.ok ()) s ∧
      ReadsBack past FastSwitch.ctrl (· = 0) ∧ Trace.Gated (handshakeGate .half 0) past ∧
      Completed .half past := by
  generalize hpast :
    System.trace (Board.controller.fastSwitch 0 .half (.all Board.coreCount)) Board.boot = past
  have hrecord : ReadsBack past FastSwitch.ctrl (· = 0) ∧ past ≠ [] := by
    rw [← hpast]
    decide +kernel
  obtain ⟨_, s, hrun, -⟩ : (Board.controller.fastSwitch 0 .half (.all Board.coreCount)).Completes
      System.answer Board.boot fun _ _ => true = true :=
    Procedure.completes_of_finished? (by decide +kernel)
  obtain ⟨hgated, hconcluded, -⟩ := handshake_in_order 0 (.all Board.coreCount) Board.boot
    (hpast ▸ hrecord.1)
  rw [hpast] at hgated hconcluded
  refine ⟨past, s, rfl, hrun, hrecord.1, hgated, ?_⟩
  exact (hconcluded _ _ hrun).resolve_right fun hnone => hrecord.2 hnone.1

end Controller

end Reclock
